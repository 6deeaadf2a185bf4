import ServerlessComponents.Dogstatsd.KeyFreshness
import ServerlessComponents.Library.Numbered

/-!
# The metrics arm of the main loop

Every tick of the main loop of `main.rs` spawns one `Flusher::flush` and drops what it returns.
The batches are numbered by tick, list and position, so that a batch that is sent again can be
told from a later batch of the same content; the series and the sketches of the ticks are two
lanes of one shape.
-/
namespace ServerlessComponents.MainLoop

open Dogstatsd

variable {V B : Type}

/-! ## The loop -/

/-- What one tick meets: the aggregator's answer, missing when its service is gone, the key
factory's world and the network of the two tasks. -/
structure MetricsTick (V B : Type) where
  response : Option (List (Series V) × List (SketchPayload B))
  resolution : Resolution
  seriesNet : Nat → Wire
  sketchNet : Nat → Wire

/-- `Flusher::flush`. -/
def flush (flusher : Flusher) (enc : Encoders V B) (tick : MetricsTick V B) :
    FlushRun V B × Flusher :=
  match tick.response with
  | none => (⟨some ([], []), [], []⟩, flusher)
  | some (series, distributions) =>
    let (flushed, flusher) := flusher.flushMetrics enc
      ⟨series, distributions, tick.resolution, tick.seriesNet, tick.sketchNet⟩
    (flushed.run, flusher)

/-- The flusher `start_aggregator` builds once it has a key and an intake URL. -/
def startAggregator (ddApiKey : Option String) (metricsIntakeUrlPrefix : Option String) :
    Option Flusher :=
  match ddApiKey, metricsIntakeUrlPrefix with
  | some ddApiKey, some metricsIntakeUrlPrefix =>
    some (.new (.new ddApiKey) metricsIntakeUrlPrefix (.linearBackoff 3 1) 6)
  | _, _ => none

/-- What the flush of one tick ships: a clone of the flusher is flushed and its result dropped. -/
def metricsTick (enc : Encoders V B) (metricsFlusher : Option Flusher) (tick : MetricsTick V B) :
    Option (FlushRun V B) :=
  metricsFlusher.map fun flusher => (flush flusher enc tick).1

/-! ## Numbered batches -/

/-- One of the two lists of batches over all ticks: what is drained at each tick, the call that
ships a batch and the network its task meets. -/
structure Lane (α : Type) where
  drained : Nat → List α
  ship : α → Wire → ShipResult
  net : Nat → Nat → Wire

namespace Lane

variable {α : Type} (lane : Lane α)

/-- The task of tick `t`; its list is what the aggregator drained at this tick. -/
def cycle (t : Nat) : ShipTask (Numbered α) :=
  shipBatches (fun batch => lane.ship batch.item) (lane.net t) 0
    (Numbered.ofRound t (lane.drained t))

def Sent (t : Nat) (batch : Numbered α) : Prop := ∃ result, (batch, result) ∈ (lane.cycle t).shipped

/-- The intake takes the batch in this cycle, or rejects it for good. -/
def SettledIn (t : Nat) (batch : Numbered α) : Prop :=
  ∃ result, (batch, result) ∈ (lane.cycle t).shipped ∧
    (Accepted result = true ∨ Rejected result = true)

/-- A batch returned as failed is sent again later, and a batch that is not sent over and over is
accepted or rejected in the end. -/
structure Redrives : Prop where
  resent : ∀ t, ∀ batch ∈ (lane.cycle t).failed, ∃ later, t < later ∧ lane.Sent later batch
  leaves : ∀ t, ∀ batch ∈ Numbered.ofRound t (lane.drained t),
    (∃ u, lane.SettledIn u batch) ∨ ∀ u, ∃ later, u ≤ later ∧ lane.Sent later batch

end Lane

/-! ## When a task settles its whole list -/

section Task

variable {α : Type} (ship : α → Wire → ShipResult) (net : Nat → Wire)

/-- The task comes to every batch, and the last one is accepted or rejected too. -/
structure SettlesAll (i : Nat) (batches : List α) : Prop where
  continues : Continues ship net i batches
  last : ∀ k (h : k + 1 = batches.length), Accepted (ship batches[k] (net (i + k))) = true ∨
    Rejected (ship batches[k] (net (i + k))) = true

theorem settlesAll_iff (i : Nat) (batches : List α) :
    SettlesAll ship net i batches ↔ Continues ship net i batches ∧
      ∀ k (h : k + 1 = batches.length), Accepted (ship batches[k] (net (i + k))) = true ∨
        Rejected (ship batches[k] (net (i + k))) = true :=
  ⟨fun h => ⟨h.continues, h.last⟩, fun h => ⟨h.1, h.2⟩⟩

/-- A result that lets the task go on is an acceptance or a rejection. -/
theorem settled_of_continues {r : ShipResult} (h : (shouldTryNextBatch r).1 = true) :
    Accepted r = true ∨ Rejected r = true := by
  cases r with
  | ok response => simp only [shouldTryNextBatch, Accepted, Rejected] at h ⊢; grind
  | error e => cases e <;> simp only [shouldTryNextBatch, Accepted, Rejected] at h ⊢ <;> grind

theorem settlesAll_nil (i : Nat) : SettlesAll ship net i ([] : List α) :=
  ⟨fun _ h => absurd h (by simp), fun _ h => absurd h (by simp)⟩

theorem settlesAll_singleton (i : Nat) (batch : α) :
    SettlesAll ship net i [batch] ↔
      Accepted (ship batch (net i)) = true ∨ Rejected (ship batch (net i)) = true := by
  constructor
  · intro h
    simpa using h.last 0 rfl
  · intro settled
    refine ⟨fun _ h => absurd h (by simp), ?_⟩
    intro k h
    obtain rfl : k = 0 := by simpa using h
    simpa using settled

theorem settlesAll_cons_cons (i : Nat) (batch next : α) (rest : List α) :
    SettlesAll ship net i (batch :: next :: rest) ↔
      (shouldTryNextBatch (ship batch (net i))).1 = true ∧
        SettlesAll ship net (i + 1) (next :: rest) := by
  constructor
  · rintro ⟨continues, last⟩
    refine ⟨continues 0 (by simp), ?_, ?_⟩
    · intro k h
      simpa [Nat.add_assoc, Nat.add_comm 1] using continues (k + 1) (by simpa using h)
    · intro k h
      simpa [Nat.add_assoc, Nat.add_comm 1] using last (k + 1) (by simpa using h)
  · rintro ⟨first, continues, last⟩
    refine ⟨?_, ?_⟩
    · intro k h
      cases k with
      | zero => exact first
      | succ k => simpa [Nat.add_assoc, Nat.add_comm 1] using continues k (by simpa using h)
    · intro k h
      cases k with
      | zero => simp at h
      | succ k => simpa [Nat.add_assoc, Nat.add_comm 1] using last k (by simpa using h)

theorem settlesAll_map {β : Type} (f : β → α) (i : Nat) (batches : List β) :
    SettlesAll (fun b => ship (f b)) net i batches ↔ SettlesAll ship net i (batches.map f) := by
  constructor
  · rintro ⟨continues, last⟩
    refine ⟨?_, ?_⟩
    · intro k h
      simpa using continues k (by simpa using h)
    · intro k h
      simpa using last k (by simpa using h)
  · rintro ⟨continues, last⟩
    refine ⟨?_, ?_⟩
    · intro k h
      simpa using continues k (by simpa using h)
    · intro k h
      simpa using last k (by simpa using h)

theorem mem_of_mem_shipped {i : Nat} {batches : List α} {batch : α} {r : ShipResult}
    (h : (batch, r) ∈ (shipBatches ship net i batches).shipped) : batch ∈ batches := by
  induction batches generalizing i with
  | nil => simp [shipBatches] at h
  | cons first rest ih =>
    simp only [shipBatches, List.mem_cons, Prod.mk.injEq] at h
    rcases h with ⟨rfl, -⟩ | h
    · exact List.mem_cons_self
    · split at h
      · exact List.mem_cons_of_mem first (ih h)
      · simp at h

theorem failed_eq_nil_of_settlesAll {i : Nat} {batches : List α}
    (h : SettlesAll ship net i batches) : (shipBatches ship net i batches).failed = [] := by
  induction batches generalizing i with
  | nil => rfl
  | cons batch rest ih =>
    have kept {r : ShipResult} (settled : Accepted r = true ∨ Rejected r = true) :
        (shouldTryNextBatch r).2 = false := by
      rw [shouldTryNextBatch_retry]
      rcases settled with e | e <;> simp [e]
    cases rest with
    | nil =>
      have settled := kept ((settlesAll_singleton ship net i batch).1 h)
      simp [shipBatches, settled]
    | cons next rest =>
      obtain ⟨first, later⟩ := (settlesAll_cons_cons ship net i batch next rest).1 h
      have settled := kept (settled_of_continues first)
      rw [shipBatches]
      simp [first, settled, ih later]

/-- A task settles each batch of a list without repetitions exactly when it comes to all of them
and the last one is not to be retried. -/
theorem forall_settled_iff {i : Nat} {batches : List α} (nodup : batches.Nodup) :
    (∀ batch ∈ batches, ∃ r, (batch, r) ∈ (shipBatches ship net i batches).shipped ∧
        (Accepted r = true ∨ Rejected r = true)) ↔
      SettlesAll ship net i batches := by
  induction batches generalizing i with
  | nil => simp [settlesAll_nil]
  | cons batch rest ih =>
    obtain ⟨fresh, nodup⟩ := List.nodup_cons.1 nodup
    cases rest with
    | nil => simp [settlesAll_singleton, shipBatches]
    | cons next rest =>
      rw [settlesAll_cons_cons, ← ih nodup, shipBatches]
      simp only [List.mem_cons, Prod.mk.injEq]
      constructor
      · intro all
        have first : (shouldTryNextBatch (ship batch (net i))).1 = true := by
          by_contra stops
          obtain ⟨r, h, -⟩ := all next (.inr (.inl rfl))
          rw [if_neg stops] at h
          rcases h with ⟨same, -⟩ | h
          · exact fresh (same ▸ List.mem_cons_self)
          · cases h
        refine ⟨first, ?_⟩
        intro b hb
        obtain ⟨r, h, settled⟩ := all b (.inr hb)
        rw [if_pos first] at h
        rcases h with ⟨rfl, -⟩ | h
        · exact absurd (List.mem_cons.2 hb) fresh
        · exact ⟨r, h, settled⟩
      · rintro ⟨first, later⟩ b (rfl | hb)
        · exact ⟨_, .inl ⟨rfl, rfl⟩, settled_of_continues first⟩
        · obtain ⟨r, h, settled⟩ := later b hb
          exact ⟨r, .inr (by rwa [if_pos first]), settled⟩

end Task

namespace Lane

variable {α : Type} (lane : Lane α)

theorem round_of_sent {t : Nat} {batch : Numbered α} (h : lane.Sent t batch) : batch.round = t := by
  obtain ⟨r, h⟩ := h
  exact Numbered.round_of_mem_ofRound _ _ (mem_of_mem_shipped _ _ h)

/-- The ticks send the batches of a lane on until they settle exactly when every tick settles its
own: no tick takes up a batch of an earlier one. -/
theorem redrives_iff :
    lane.Redrives ↔ ∀ t, SettlesAll lane.ship (lane.net t) 0 (lane.drained t) := by
  have settles (t : Nat) : SettlesAll lane.ship (lane.net t) 0 (lane.drained t) ↔
      ∀ batch ∈ Numbered.ofRound t (lane.drained t), lane.SettledIn t batch := by
    have numbered := forall_settled_iff (fun batch : Numbered α => lane.ship batch.item)
      (lane.net t) (Numbered.nodup_ofRound t (lane.drained t)) (i := 0)
    rw [settlesAll_map, Numbered.map_item_ofRound] at numbered
    exact numbered.symm
  constructor
  · intro redrives t
    rw [settles]
    intro batch drained
    have round := Numbered.round_of_mem_ofRound _ _ drained
    rcases redrives.leaves t batch drained with ⟨u, settled⟩ | forever
    · obtain ⟨r, shipped, _⟩ := id settled
      obtain rfl : t = u := round.symm.trans (lane.round_of_sent ⟨r, shipped⟩)
      exact settled
    · obtain ⟨later, past, sent⟩ := forever (t + 1)
      have := lane.round_of_sent sent
      omega
  · intro all
    refine ⟨?_, ?_⟩
    · intro t batch failed
      have numbered := (settlesAll_map lane.ship (lane.net t) Numbered.item 0
        (Numbered.ofRound t (lane.drained t))).2 (by simpa using all t)
      rw [cycle, failed_eq_nil_of_settlesAll _ _ numbered] at failed
      cases failed
    · intro t batch drained
      exact .inl ⟨t, (settles t).1 (all t) batch drained⟩

end Lane

/-! ## When a request is rejected for good -/

/-- Every allowed attempt is made and fails, and the last one with a 4xx status. -/
def Wire.Rejects (wire : Wire) (strategy : RetryStrategy) : Prop :=
  (∀ j, 1 ≤ j → j ≤ max 1 strategy.maxAttempts →
      wire.tryClone j = true ∧ succeeded (wire.send j) = none) ∧
    (lastStatus (wire.send (max 1 strategy.maxAttempts))).any (·.isPermanentError) = true

theorem sendAttempt_rejected_iff (strategy : RetryStrategy) (wire : Wire) (a : Nat) :
    Rejected (sendAttempt strategy wire a) = true ↔
      (∀ j, a ≤ j → j ≤ max a strategy.maxAttempts →
          wire.tryClone j = true ∧ succeeded (wire.send j) = none) ∧
        (lastStatus (wire.send (max a strategy.maxAttempts))).any (·.isPermanentError) = true := by
  induction a using sendAttempt.induct strategy wire with
  | case1 a uncloned =>
    rw [sendAttempt, if_pos uncloned]
    constructor
    · intro rejected
      cases rejected
    · rintro ⟨made, -⟩
      exact absurd (made a (Nat.le_refl a) (Nat.le_max_left ..)).1 (by simp [uncloned])
  | case2 a cloned response hs =>
    rw [sendAttempt, if_neg cloned, hs]
    have success := (succeeded_eq_some.1 hs).2
    constructor
    · intro rejected
      simp [Rejected, StatusCode.not_permanent_of_success success] at rejected
    · rintro ⟨made, -⟩
      exact absurd (made a (Nat.le_refl a) (Nat.le_max_left ..)).2 (by simp [hs])
  | case3 a cloned hs last =>
    have only : max a strategy.maxAttempts = a := Nat.max_eq_left last
    rw [sendAttempt, if_neg cloned, hs, only]
    simp only [if_pos last, Rejected]
    constructor
    · intro status
      refine ⟨?_, status⟩
      intro j hj hj'
      obtain rfl : j = a := Nat.le_antisymm hj' hj
      exact ⟨by simpa using cloned, hs⟩
    · exact And.right
  | case4 a cloned hs more ih =>
    have same : max (a + 1) strategy.maxAttempts = max a strategy.maxAttempts := by omega
    rw [sendAttempt, if_neg cloned, hs]
    simp only [if_neg more]
    rw [ih, same]
    refine and_congr_left ?_
    intro _
    constructor
    · intro made j hj hj'
      obtain rfl | later := Nat.eq_or_lt_of_le hj
      · exact ⟨by simpa using cloned, hs⟩
      · exact made j later hj'
    · intro made j hj hj'
      exact made j (by omega) hj'

theorem sendWithRetry_rejected_iff (strategy : RetryStrategy) (wire : Wire) :
    Rejected (sendWithRetry strategy wire) = true ↔ Wire.Rejects wire strategy :=
  sendAttempt_rejected_iff strategy wire 1

theorem sendWithRetry_accepted_iff (strategy : RetryStrategy) (wire : Wire) :
    Accepted (sendWithRetry strategy wire) = true ↔ wire.Answers strategy .accepted := by
  rw [← sendWithRetry_ok_iff strategy wire ⟨.accepted⟩]
  cases sendWithRetry strategy wire with
  | ok response =>
    obtain ⟨status⟩ := response
    simp [Accepted]
  | error e => simp [Accepted]

/-- The batch cannot be encoded, is answered 202, or is rejected with a 4xx. -/
def Settles {α : Type} (api : DdApi) (encode : α → Except String (List UInt8)) (batch : α)
    (wire : Wire) : Prop :=
  (∃ e, encode batch = .error e) ∨ wire.Answers api.retryStrategy .accepted ∨
    Wire.Rejects wire api.retryStrategy

/-- Every batch but the last is answered 202 or cannot be encoded; the last one may be rejected
with a 4xx too. -/
def SettlesEach {α : Type} (api : DdApi) (encode : α → Except String (List UInt8))
    (batches : List α) (net : Nat → Wire) : Prop :=
  api.PassesAllButLast encode batches net ∧
    ∀ k (h : k + 1 = batches.length), Settles api encode batches[k] (net k)

theorem shipSeries_settles (api : DdApi) (enc : Encoders V B) (batch : Series V) (wire : Wire) :
    (Accepted (api.shipSeries enc batch wire).result = true ∨
        Rejected (api.shipSeries enc batch wire).result = true) ↔
      Settles api enc.seriesToVec batch wire := by
  simp only [DdApi.shipSeries, Settles]
  cases h : enc.seriesToVec batch with
  | error e => simp [Rejected]
  | ok body => simp [DdApi.shipData, sendWithRetry_accepted_iff, sendWithRetry_rejected_iff]

theorem shipDistributions_settles (api : DdApi) (enc : Encoders V B) (batch : SketchPayload B)
    (wire : Wire) :
    (Accepted (api.shipDistributions enc batch wire).result = true ∨
        Rejected (api.shipDistributions enc batch wire).result = true) ↔
      Settles api enc.sketchesToBytes batch wire := by
  simp only [DdApi.shipDistributions, Settles]
  cases h : enc.sketchesToBytes batch with
  | error e => simp [Rejected]
  | ok body => simp [DdApi.shipData, sendWithRetry_accepted_iff, sendWithRetry_rejected_iff]

/-! ## The two lanes of the main loop -/

/-- A main loop whose flusher could be built, and what its ticks meet. -/
structure MetricsLoop (V B : Type) where
  ddApiKey : String
  metricsIntakeUrlPrefix : String
  ticks : Nat → MetricsTick V B

namespace MetricsLoop

variable (enc : Encoders V B) (loop : MetricsLoop V B)

/-- The API object every flush of the loop builds. -/
def api : DdApi := ⟨loop.ddApiKey, loop.metricsIntakeUrlPrefix, .linearBackoff 3 1, 6⟩

def seriesLane : Lane (Series V) where
  drained t := (loop.ticks t).response.elim [] (·.1)
  ship batch wire := (loop.api.shipSeries enc batch wire).result
  net t := (loop.ticks t).seriesNet

def sketchLane : Lane (SketchPayload B) where
  drained t := (loop.ticks t).response.elim [] (·.2)
  ship batch wire := (loop.api.shipDistributions enc batch wire).result
  net t := (loop.ticks t).sketchNet

end MetricsLoop

section Numbering

variable {α β : Type} (ship : α → Wire → ShipResult) (net : Nat → Wire) (f : β → α)

/-- A task does not look at what its batches carry beside their content. -/
theorem shipBatches_map (i : Nat) (batches : List β) :
    (shipBatches ship net i (batches.map f)).failed =
        (shipBatches (fun b => ship (f b)) net i batches).failed.map f ∧
      (shipBatches ship net i (batches.map f)).shipped =
        (shipBatches (fun b => ship (f b)) net i batches).shipped.map (Prod.map f id) := by
  induction batches generalizing i with
  | nil => exact ⟨rfl, rfl⟩
  | cons batch rest ih =>
    obtain ⟨failed, shipped⟩ := ih (i + 1)
    simp only [List.map_cons, shipBatches]
    refine ⟨?_, ?_⟩
    · split <;> split <;> simp [failed]
    · split <;> simp [shipped]

theorem Lane.cycle_forget (lane : Lane α) (t : Nat) :
    (shipBatches lane.ship (lane.net t) 0 (lane.drained t)).failed =
        (lane.cycle t).failed.map Numbered.item ∧
      (shipBatches lane.ship (lane.net t) 0 (lane.drained t)).shipped =
        (lane.cycle t).shipped.map (Prod.map Numbered.item id) := by
  have h := shipBatches_map lane.ship (lane.net t) Numbered.item 0
    (Numbered.ofRound t (lane.drained t))
  rwa [Numbered.map_item_ofRound] at h

end Numbering

namespace MetricsLoop

variable (enc : Encoders V B) (loop : MetricsLoop V B)

/-- The lanes are the flushes of the main loop: with the numbers forgotten, a cycle ships and
fails what the flush of its tick ships and returns. -/
def Flushes (t : Nat) : Prop :=
  ∃ run, metricsTick enc (startAggregator loop.ddApiKey loop.metricsIntakeUrlPrefix)
      (loop.ticks t) = some run ∧
    run.seriesShipped = ((loop.seriesLane enc).cycle t).shipped.map (Prod.map Numbered.item id) ∧
    run.sketchesShipped = ((loop.sketchLane enc).cycle t).shipped.map (Prod.map Numbered.item id) ∧
    run.returned.getD ([], []) =
      (((loop.seriesLane enc).cycle t).failed.map Numbered.item,
        ((loop.sketchLane enc).cycle t).failed.map Numbered.item)

theorem flushes (t : Nat) : loop.Flushes enc t := by
  obtain ⟨seriesFailed, seriesShipped⟩ := (loop.seriesLane enc).cycle_forget t
  obtain ⟨sketchFailed, sketchShipped⟩ := (loop.sketchLane enc).cycle_forget t
  refine ⟨_, rfl, ?_⟩
  rw [← seriesFailed, ← seriesShipped, ← sketchFailed, ← sketchShipped]
  simp only [seriesLane, sketchLane, flush]
  cases response : (loop.ticks t).response with
  | none => simp [shipBatches]
  | some lists =>
    obtain ⟨series, distributions⟩ := lists
    by_cases empty : series.length = 0 ∧ distributions.length = 0
    · obtain ⟨hs, hd⟩ := id empty
      simp [Flusher.flushMetrics, List.length_eq_zero_iff.1 hs, List.length_eq_zero_iff.1 hd,
        shipBatches]
    · have api : ((Flusher.new (.new loop.ddApiKey) loop.metricsIntakeUrlPrefix
          (.linearBackoff 3 1) 6).getDdApi (loop.ticks t).resolution).1 = some loop.api := rfl
      simp only [Flusher.flushMetrics, if_neg empty, flushMetrics, api, Option.elim_some]
      refine ⟨trivial, trivial, ?_⟩
      exact joinTasks_getD _ _ _ _ (shipBatches_hadShippingError _ _ _ _)
        (shipBatches_hadShippingError _ _ _ _)

theorem seriesLane_settlesAll (net : Nat → Wire) (batches : List (Series V)) :
    SettlesAll (loop.seriesLane enc).ship net 0 batches ↔
      SettlesEach loop.api enc.seriesToVec batches net := by
  simp only [settlesAll_iff, seriesLane, Continues, Nat.zero_add, shipSeries_continues,
    shipSeries_settles, SettlesEach, DdApi.PassesAllButLast]

theorem sketchLane_settlesAll (net : Nat → Wire) (batches : List (SketchPayload B)) :
    SettlesAll (loop.sketchLane enc).ship net 0 batches ↔
      SettlesEach loop.api enc.sketchesToBytes batches net := by
  simp only [settlesAll_iff, sketchLane, Continues, Nat.zero_add, shipDistributions_continues,
    shipDistributions_settles, SettlesEach, DdApi.PassesAllButLast]

/-- Over any sequence of ticks every failed batch is sent again, and a batch leaves only accepted
or rejected, if and only if at each tick, in each of the two lists, every batch but the last is
answered 202 or cannot be encoded and the last one is settled too. -/
theorem metrics_redriven_iff :
    (∀ t, loop.Flushes enc t) ∧
    ((loop.seriesLane enc).Redrives ∧ (loop.sketchLane enc).Redrives ↔
      ∀ t series distributions, (loop.ticks t).response = some (series, distributions) →
        SettlesEach loop.api enc.seriesToVec series (loop.ticks t).seriesNet ∧
          SettlesEach loop.api enc.sketchesToBytes distributions (loop.ticks t).sketchNet) := by
  refine ⟨loop.flushes enc, ?_⟩
  rw [Lane.redrives_iff, Lane.redrives_iff, ← forall_and]
  refine forall_congr' ?_
  intro t
  cases response : (loop.ticks t).response with
  | none =>
    have nothing : (loop.seriesLane enc).drained t = [] ∧ (loop.sketchLane enc).drained t = [] := by
      simp [seriesLane, sketchLane, response]
    simp [nothing.1, nothing.2, settlesAll_nil]
  | some lists =>
    obtain ⟨series, distributions⟩ := lists
    have drained : (loop.seriesLane enc).drained t = series ∧
        (loop.sketchLane enc).drained t = distributions := by
      simp [seriesLane, sketchLane, response]
    rw [drained.1, drained.2, seriesLane_settlesAll, sketchLane_settlesAll]
    simp [seriesLane, sketchLane]

/-- The intake answers the only series batch of the first tick with 503 at every attempt, and
there are no metrics afterwards. -/
def serverErrorAtFirstTick : MetricsLoop Nat Unit where
  ddApiKey := "key"
  metricsIntakeUrlPrefix := "https://api.datadoghq.com"
  ticks t :=
    { response := some (if t = 0 then [Dogstatsd.Example.point "a"] else [], [])
      resolution := ⟨0, 0, none, 0⟩
      seriesNet := fun _ => ⟨fun _ => true, fun _ => .ok ⟨⟨503⟩⟩⟩
      sketchNet := fun _ => ⟨fun _ => true, fun _ => .ok ⟨⟨503⟩⟩⟩ }

/-- A request answered 503 at every attempt is to be sent again. -/
theorem retry_of_serverError (strategy : RetryStrategy) :
    (shouldTryNextBatch (sendWithRetry strategy
      ⟨fun _ => true, fun _ => .ok ⟨⟨503⟩⟩⟩)).2 = true := by
  rw [shouldTryNextBatch_retry, Bool.and_eq_true, Bool.not_eq_true', Bool.not_eq_true']
  refine ⟨?_, ?_⟩
  · rw [Bool.eq_false_iff, ne_eq, sendWithRetry_accepted_iff]
    rintro ⟨k, -, -, answer, -⟩
    simp [StatusCode.accepted] at answer
  · rw [Bool.eq_false_iff, ne_eq, sendWithRetry_rejected_iff]
    rintro ⟨-, status⟩
    simp [lastStatus, StatusCode.isPermanentError] at status

/-- The flush of the first tick returns the batch for a retry and no later tick sends it. -/
theorem failed_batch_not_resent :
    ¬ ((serverErrorAtFirstTick.seriesLane Dogstatsd.Example.encoders).Redrives ∧
      (serverErrorAtFirstTick.sketchLane Dogstatsd.Example.encoders).Redrives) := by
  rintro ⟨redrives, -⟩
  have failed : ⟨0, 0, Dogstatsd.Example.point "a"⟩ ∈
      ((serverErrorAtFirstTick.seriesLane Dogstatsd.Example.encoders).cycle 0).failed := by
    simp only [Lane.cycle, seriesLane, serverErrorAtFirstTick, Option.elim_some, if_true,
      Numbered.ofRound, List.mapIdx_cons, shipBatches]
    rw [if_pos]
    · exact List.mem_cons_self
    · exact retry_of_serverError _
  obtain ⟨later, past, sent⟩ := redrives.resent 0 _ failed
  have round := Lane.round_of_sent _ sent
  simp only at round
  omega

end MetricsLoop

end ServerlessComponents.MainLoop
