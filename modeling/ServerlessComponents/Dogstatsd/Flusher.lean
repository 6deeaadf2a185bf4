import Mathlib.Data.List.Perm.Basic
import Mathlib.Tactic.Tauto
import ServerlessComponents.Dogstatsd.Shipping

/-!
# The metrics flusher

`Flusher::flush_metrics` of `flusher.rs`: the series and the sketches of one flush are shipped by
two tasks, each walking its list of batches until `should_try_next_batch` tells it to stop. Every
task keeps, beside what the source keeps, the log of what it shipped; the fate of a batch is read
off that log and the returned retry list.
-/
namespace ServerlessComponents.Dogstatsd

/-- `(continue_to_next_batch, should_retry_this_batch)`. -/
def shouldTryNextBatch : ShipResult → Bool × Bool
  | .ok response =>
    if response.status = .accepted then (true, false)
    else if response.status.isPermanentError then (true, false)
    else (false, true)
  | .error (.payload _) => (true, false)
  | .error (.destination status _) =>
    if status.any (·.isPermanentError) then (false, false) else (false, true)

/-- The tuple a shipping task returns, with the log of the batches it shipped. -/
structure ShipTask (α : Type) where
  failed : List α
  hadShippingError : Bool
  shipped : List (α × ShipResult)

/-- The loop of a shipping task; batch number `i` meets the network as `net i`. -/
def shipBatches {α : Type} (ship : α → Wire → ShipResult) (net : Nat → Wire) :
    Nat → List α → ShipTask α
  | _, [] => ⟨[], false, []⟩
  | i, batch :: rest =>
    let result := ship batch (net i)
    let (continueShipping, shouldRetry) := shouldTryNextBatch result
    let later := if continueShipping then shipBatches ship net (i + 1) rest else ⟨[], false, []⟩
    { failed := if shouldRetry then batch :: later.failed else later.failed
      hadShippingError := shouldRetry || later.hadShippingError
      shipped := (batch, result) :: later.shipped }

/-- A task that panicked or was aborted. -/
inductive JoinError where
  | failed
  deriving DecidableEq, Repr

/-- The result of one flush: the retry lists it returns and the logs of the two tasks. -/
structure FlushRun (V B : Type) where
  returned : Option (List (Series V) × List (SketchPayload B))
  seriesShipped : List (Series V × ShipResult)
  sketchesShipped : List (SketchPayload B × ShipResult)

variable {V B : Type}

/-- The match on `try_join!`: what a flush returns once both tasks have ended. -/
def joinTasks (series : List (Series V)) (distributions : List (SketchPayload B))
    (seriesTask : Except JoinError (ShipTask (Series V)))
    (sketchTask : Except JoinError (ShipTask (SketchPayload B))) :
    Option (List (Series V) × List (SketchPayload B)) :=
  match seriesTask, sketchTask with
  | .ok s, .ok d =>
    if s.failed.isEmpty && d.failed.isEmpty then none
    else if s.hadShippingError || d.hadShippingError then some (s.failed, d.failed)
    else none
  | _, _ => some (series, distributions)

/-- `flush_metrics`, with the outcome of `get_dd_api` and the network each task meets. -/
def flushMetrics (enc : Encoders V B) (ddApi : Option DdApi) (seriesNet sketchNet : Nat → Wire)
    (series : List (Series V)) (distributions : List (SketchPayload B)) : FlushRun V B :=
  if series.length = 0 ∧ distributions.length = 0 then ⟨none, [], []⟩
  else
    match ddApi with
    | none => ⟨some (series, distributions), [], []⟩
    | some api =>
      let seriesTask := shipBatches (fun b w => (api.shipSeries enc b w).result) seriesNet 0 series
      let sketchTask :=
        shipBatches (fun b w => (api.shipDistributions enc b w).result) sketchNet 0 distributions
      ⟨joinTasks series distributions (.ok seriesTask) (.ok sketchTask),
        seriesTask.shipped, sketchTask.shipped⟩

/-! ## The fate of a batch -/

/-- The intake took the batch: it answered 202. -/
def Accepted : ShipResult → Bool
  | .ok response => response.status = .accepted
  | .error _ => false

/-- The batch is permanently rejected: it cannot be encoded, or its answer is a 4xx. -/
def Rejected : ShipResult → Bool
  | .ok response => response.status.isPermanentError
  | .error (.payload _) => true
  | .error (.destination status _) => status.any (·.isPermanentError)

/-- The batches of a log whose result satisfies `p`. -/
def withResult {α : Type} (p : ShipResult → Bool) (log : List (α × ShipResult)) : List α :=
  (log.filter (p ·.2)).map (·.1)

/-- Every batch, counted with multiplicity, is accepted, rejected or returned, and only once. -/
def Settled {α : Type} (batches : List α) (log : List (α × ShipResult)) (returned : List α) :
    Prop :=
  batches.Perm (withResult Accepted log ++ withResult Rejected log ++ returned)

/-- No silent loss in one flush. -/
def FlushRun.NoSilentLoss (run : FlushRun V B) (series : List (Series V))
    (distributions : List (SketchPayload B)) : Prop :=
  Settled series run.seriesShipped (run.returned.getD ([], [])).1 ∧
    Settled distributions run.sketchesShipped (run.returned.getD ([], [])).2

section Tasks

variable {α : Type} (ship : α → Wire → ShipResult) (net : Nat → Wire)

@[simp] theorem withResult_nil (p : ShipResult → Bool) :
    withResult p ([] : List (α × ShipResult)) = [] := rfl

@[simp] theorem withResult_cons (p : ShipResult → Bool) (a : α) (r : ShipResult)
    (log : List (α × ShipResult)) :
    withResult p ((a, r) :: log) = if p r then a :: withResult p log else withResult p log := by
  by_cases h : p r <;> simp [withResult, h]

/-- A result is a retry exactly when it is neither an acceptance nor a rejection. -/
theorem shouldTryNextBatch_retry (r : ShipResult) :
    (shouldTryNextBatch r).2 = (!Accepted r && !Rejected r) := by
  cases r with
  | ok response => simp only [shouldTryNextBatch, Accepted, Rejected]; grind
  | error e => cases e <;> simp only [shouldTryNextBatch, Accepted, Rejected] <;> grind

theorem not_accepted_and_rejected (r : ShipResult) : (Accepted r && Rejected r) = false := by
  cases r with
  | ok response =>
    simp only [Accepted, Rejected, Bool.and_eq_false_iff, decide_eq_false_iff_not]
    by_cases h : response.status = .accepted
    · exact .inr (by rw [h]; rfl)
    · exact .inl h
  | error e => rfl

theorem Settled.nil : Settled ([] : List α) [] [] := .refl _

/-- One more batch, retried when its result is neither an acceptance nor a rejection, has exactly
one fate. -/
theorem Settled.cons {rest returned : List α} {log : List (α × ShipResult)}
    (h : Settled rest log returned) (batch : α) (r : ShipResult) :
    Settled (batch :: rest) ((batch, r) :: log)
      (if !Accepted r && !Rejected r then batch :: returned else returned) := by
  have disjoint := not_accepted_and_rejected r
  have grown : (batch :: rest).Perm (batch :: (withResult Accepted log ++
      withResult Rejected log ++ returned)) := List.Perm.cons batch h
  unfold Settled
  simp only [withResult_cons]
  cases accepted : Accepted r <;> cases rejected : Rejected r
  · exact grown.trans List.perm_middle.symm
  · refine grown.trans ?_
    simpa [List.append_assoc] using List.perm_middle.symm
  · exact grown
  · simp [accepted, rejected] at disjoint

/-- A settled list is as long as its three fates together. -/
theorem Settled.length_eq {batches returned : List α} {log : List (α × ShipResult)}
    (h : Settled batches log returned) :
    batches.length = (withResult Accepted log).length + (withResult Rejected log).length +
      returned.length := by
  simpa [List.length_append, Nat.add_assoc] using List.Perm.length_eq h

/-- The batches the loop ships: all of them, or the prefix that ends at the first stop. -/
def reached : Nat → List α → List α
  | _, [] => []
  | i, batch :: rest =>
    if (shouldTryNextBatch (ship batch (net i))).1 then batch :: reached (i + 1) rest
    else [batch]

/-- Whatever a task ships is settled by its log and its retry list. -/
theorem shipBatches_settles_reached (i : Nat) (batches : List α) :
    Settled (reached ship net i batches) (shipBatches ship net i batches).shipped
      (shipBatches ship net i batches).failed := by
  induction batches generalizing i with
  | nil => exact .nil
  | cons batch rest ih =>
    simp only [shipBatches, reached, shouldTryNextBatch_retry]
    cases (shouldTryNextBatch (ship batch (net i))).1
    · exact Settled.nil.cons batch _
    · exact (ih (i + 1)).cons batch _

/-- Every batch but the last leaves the loop running. -/
def Continues (i : Nat) (batches : List α) : Prop :=
  ∀ k (h : k + 1 < batches.length), (shouldTryNextBatch (ship batches[k] (net (i + k)))).1 = true

theorem reached_isPrefix (i : Nat) (batches : List α) : reached ship net i batches <+: batches := by
  induction batches generalizing i with
  | nil => exact List.prefix_rfl
  | cons batch rest ih =>
    simp only [reached]
    split
    · exact (List.prefix_cons_inj batch).2 (ih (i + 1))
    · exact ⟨rest, rfl⟩

theorem reached_length_eq_iff (i : Nat) (batches : List α) :
    (reached ship net i batches).length = batches.length ↔ Continues ship net i batches := by
  induction batches generalizing i with
  | nil => simp [reached, Continues]
  | cons batch rest ih =>
    rw [reached]
    cases rest with
    | nil => simp [reached, Continues]
    | cons next rest =>
      cases hc : (shouldTryNextBatch (ship batch (net i))).1 with
      | true =>
        rw [if_pos rfl, List.length_cons, List.length_cons (a := batch), Nat.add_right_cancel_iff,
          ih (i + 1)]
        constructor
        · intro h k hk
          cases k with
          | zero => exact hc
          | succ k => simpa [Nat.add_assoc, Nat.add_comm 1] using h k (by simpa using hk)
        · intro h k hk
          simpa [Nat.add_assoc, Nat.add_comm 1] using h (k + 1) (by simpa using hk)
      | false =>
        simp only [Bool.false_eq_true, if_false, List.length_cons, List.length_nil]
        refine ⟨by omega, ?_⟩
        intro h
        have first := h 0 (by simp)
        simp [hc] at first

/-- A task settles its whole list exactly when no batch before the last one stops it. -/
theorem shipBatches_settles_iff (batches : List α) :
    Settled batches (shipBatches ship net 0 batches).shipped
        (shipBatches ship net 0 batches).failed ↔ Continues ship net 0 batches := by
  have settled := shipBatches_settles_reached ship net 0 batches
  rw [← reached_length_eq_iff]
  constructor
  · intro h
    rw [settled.length_eq, h.length_eq]
  · intro h
    rwa [(reached_isPrefix ship net 0 batches).eq_of_length h] at settled

/-- A task reports a shipping error exactly when it returns a batch. -/
theorem shipBatches_hadShippingError (i : Nat) (batches : List α) :
    (shipBatches ship net i batches).hadShippingError =
      !(shipBatches ship net i batches).failed.isEmpty := by
  induction batches generalizing i with
  | nil => rfl
  | cons batch rest ih =>
    simp only [shipBatches]
    cases (shouldTryNextBatch (ship batch (net i))).2 <;>
      cases (shouldTryNextBatch (ship batch (net i))).1 <;> simp [ih]

end Tasks

/-! ## One flush -/

/-- The network and the encoder let the flush go past this batch: it cannot be encoded, or the
first successful answer within the allowed attempts is a 202. -/
def DdApi.Passes {α : Type} (api : DdApi) (encode : α → Except String (List UInt8)) (batch : α)
    (wire : Wire) : Prop :=
  (∃ e, encode batch = .error e) ∨ wire.Answers api.retryStrategy .accepted

/-- No batch but the last one meets anything else. -/
def DdApi.PassesAllButLast {α : Type} (api : DdApi) (encode : α → Except String (List UInt8))
    (batches : List α) (net : Nat → Wire) : Prop :=
  ∀ k (h : k + 1 < batches.length), api.Passes encode batches[k] (net k)

theorem shouldTryNextBatch_sendWithRetry (strategy : RetryStrategy) (wire : Wire) :
    (shouldTryNextBatch (sendWithRetry strategy wire)).1 = true ↔
      wire.Answers strategy .accepted := by
  have answers := sendWithRetry_ok_iff strategy wire ⟨.accepted⟩
  cases h : sendWithRetry strategy wire with
  | ok response =>
    have success := sendWithRetry_isSuccess h
    rw [h] at answers
    rw [← answers]
    simp only [shouldTryNextBatch, StatusCode.not_permanent_of_success success]
    obtain ⟨status⟩ := response
    by_cases hs : status = .accepted <;> simp [hs]
  | error e =>
    rw [h] at answers
    rw [← answers]
    cases e with
    | payload msg => exact absurd h (sendWithRetry_ne_payload strategy wire msg)
    | destination status msg => simp only [shouldTryNextBatch]; grind

theorem shipSeries_continues (api : DdApi) (enc : Encoders V B) (batch : Series V) (wire : Wire) :
    (shouldTryNextBatch (api.shipSeries enc batch wire).result).1 = true ↔
      api.Passes enc.seriesToVec batch wire := by
  simp only [DdApi.shipSeries, DdApi.Passes]
  cases h : enc.seriesToVec batch with
  | error e => simp [shouldTryNextBatch]
  | ok body => simp [DdApi.shipData, shouldTryNextBatch_sendWithRetry]

theorem shipDistributions_continues (api : DdApi) (enc : Encoders V B) (batch : SketchPayload B)
    (wire : Wire) :
    (shouldTryNextBatch (api.shipDistributions enc batch wire).result).1 = true ↔
      api.Passes enc.sketchesToBytes batch wire := by
  simp only [DdApi.shipDistributions, DdApi.Passes]
  cases h : enc.sketchesToBytes batch with
  | error e => simp [shouldTryNextBatch]
  | ok body => simp [DdApi.shipData, shouldTryNextBatch_sendWithRetry]

/-- What a flush returns is what its two tasks failed to ship. -/
theorem joinTasks_getD (series : List (Series V)) (distributions : List (SketchPayload B))
    (s : ShipTask (Series V)) (d : ShipTask (SketchPayload B))
    (hs : s.hadShippingError = !s.failed.isEmpty) (hd : d.hadShippingError = !d.failed.isEmpty) :
    (joinTasks series distributions (.ok s) (.ok d)).getD ([], []) = (s.failed, d.failed) := by
  obtain ⟨sf, _, _⟩ := s
  obtain ⟨df, _, _⟩ := d
  simp only at hs hd
  cases sf <;> cases df <;> simp [joinTasks, hs, hd]

theorem settled_of_returned {α : Type} (batches : List α) : Settled batches [] batches := by
  simp [Settled]

/-- Once the API is built, a flush loses nothing exactly when neither list stops early. -/
theorem flushMetrics_some_noSilentLoss (enc : Encoders V B) (api : DdApi)
    (seriesNet sketchNet : Nat → Wire) (series : List (Series V))
    (distributions : List (SketchPayload B)) :
    (flushMetrics enc (some api) seriesNet sketchNet series distributions).NoSilentLoss
        series distributions ↔
      api.PassesAllButLast enc.seriesToVec series seriesNet ∧
        api.PassesAllButLast enc.sketchesToBytes distributions sketchNet := by
  unfold flushMetrics
  split
  next empty =>
    obtain ⟨hs, hd⟩ := empty
    simp [List.length_eq_zero_iff.1 hs, List.length_eq_zero_iff.1 hd, FlushRun.NoSilentLoss,
      Settled.nil, DdApi.PassesAllButLast]
  next =>
    simp only [FlushRun.NoSilentLoss]
    rw [joinTasks_getD _ _ _ _ (shipBatches_hadShippingError _ _ _ _)
      (shipBatches_hadShippingError _ _ _ _)]
    simp only [shipBatches_settles_iff, Continues, Nat.zero_add, shipSeries_continues,
      shipDistributions_continues, DdApi.PassesAllButLast]

/-- A flush of any series and sketches accounts for every batch if and only if the API key is
missing (then everything is returned) or, in each of the two lists, every batch but the last is
answered 202 or cannot be encoded. -/
theorem flushMetrics_noSilentLoss_iff (enc : Encoders V B) (ddApi : Option DdApi)
    (seriesNet sketchNet : Nat → Wire) (series : List (Series V))
    (distributions : List (SketchPayload B)) :
    (flushMetrics enc ddApi seriesNet sketchNet series distributions).NoSilentLoss
        series distributions ↔
      ∀ api, ddApi = some api →
        api.PassesAllButLast enc.seriesToVec series seriesNet ∧
          api.PassesAllButLast enc.sketchesToBytes distributions sketchNet := by
  cases ddApi with
  | none =>
    simp only [reduceCtorEq, false_implies, implies_true, iff_true]
    unfold flushMetrics
    split
    next empty =>
      obtain ⟨hs, hd⟩ := empty
      simp [List.length_eq_zero_iff.1 hs, List.length_eq_zero_iff.1 hd, FlushRun.NoSilentLoss,
        Settled.nil]
    next => exact ⟨settled_of_returned series, settled_of_returned distributions⟩
  | some api =>
    simp only [Option.some.injEq, forall_eq']
    exact flushMetrics_some_noSilentLoss enc api seriesNet sketchNet series distributions

/-! ## A server error on the first of two batches -/

namespace Example

def point (name : String) : Series Nat :=
  ⟨[⟨name, ⟨10, 1⟩, [], .count, [], none⟩]⟩

def encoders : Encoders Nat Unit where
  seriesToVec _ := .ok [0x7b, 0x7d]
  sketchesToBytes _ := .ok []
  zstd _ _ := none

def api : DdApi := ⟨"key", "https://api.datadoghq.com", .immediate 1, 3⟩

/-- The first request is answered 500, every later one 202. -/
def failsFirst (call : Nat) : Wire where
  tryClone _ := true
  send _ := .ok ⟨if call = 0 then ⟨500⟩ else .accepted⟩

end Example

/-- The second batch is neither shipped nor returned. -/
theorem flushMetrics_loses_later_batch :
    ¬ (flushMetrics Example.encoders (some Example.api) Example.failsFirst Example.failsFirst
        [Example.point "a", Example.point "b"] []).NoSilentLoss
      [Example.point "a", Example.point "b"] [] := by
  rw [flushMetrics_some_noSilentLoss]
  rintro ⟨passes, -⟩
  obtain ⟨e, h⟩ | ⟨k, -, -, h, -⟩ := passes 0 (by decide)
  · cases h
  · simp [Example.failsFirst, StatusCode.accepted] at h

end ServerlessComponents.Dogstatsd
