import ServerlessComponents.Library.Handout
import ServerlessComponents.Dogstatsd.AggregatorService
import ServerlessComponents.LogsAgent.Intake

/-!
# Requesters that do not wait

Both aggregator services empty their store for a flush before they find out whether the answer can
be delivered. They hand out what was accepted since the last flush, whoever has received that one,
so an answer that cannot be delivered is lost with what it carries.

## Main results

* `services_hand_out` — both services hand out what they accept, and what that loses.
-/
namespace ServerlessComponents

open Handout (Answered)

/-! ## The metrics aggregator -/

namespace Dogstatsd.AggregatorService

variable [MetricHasher] {V K B : Type}

/-- Accepted metrics and flushes, as the history tells them. -/
def handoutEvents (log : List (ServiceEvent V K B)) : List (Handout.Event (Metric V K)) :=
  log.filterMap fun
    | .accepted metric => some (.accept metric)
    | .flushed _ delivered => some (.take delivered)
    | _ => none

/-- The answers to the flushes, with a flag for those that arrived. -/
def flushed (log : List (ServiceEvent V K B)) : List (FlushResponse V B × Bool) :=
  log.filterMap fun
    | .flushed response delivered => some (response, delivered)
    | _ => none

/-- The metrics accepted and handed out so far. -/
def handout (s : AggregatorService V K B) : Handout.Store (Metric V K) :=
  Handout.Store.run (handoutEvents s.log)

theorem accepted_handoutEvents (log : List (ServiceEvent V K B)) :
    Handout.accepted (handoutEvents log) = acceptedOf log := by
  rw [Handout.accepted, handoutEvents, List.filterMap_filterMap, acceptedOf]
  refine List.filterMap_congr fun event _ => ?_
  cases event <;> rfl

theorem waiting_handout (log : List (ServiceEvent V K B)) :
    (Handout.Store.run (handoutEvents log)).waiting = pending [] log := by
  induction log using List.reverseRecOn with
  | nil => rfl
  | append_singleton log event ih =>
    rw [pending_append, handoutEvents, List.filterMap_append, ← handoutEvents, Handout.run_append]
    cases event <;> simp [Handout.Store.step, ih]

theorem answered_handout {P : List (Metric V K) → FlushResponse V B → Prop}
    (log : List (ServiceEvent V K B)) (shipped : ∀ epoch ∈ epochs [] log, P epoch.1 epoch.2) :
    Answered P (Handout.Store.run (handoutEvents log)).taken (flushed log) := by
  induction log using List.reverseRecOn with
  | nil => exact .nil
  | append_singleton log event ih =>
    rw [epochs_append] at shipped
    have before := ih fun epoch mem => shipped epoch (List.mem_append_left _ mem)
    rw [handoutEvents, List.filterMap_append, ← handoutEvents, Handout.run_append, flushed,
      List.filterMap_append, ← flushed]
    cases event with
    | flushed response delivered =>
      refine before.concat ?_ delivered
      rw [waiting_handout]
      exact shipped (pending [] log, response) (by simp)
    | accepted metric => simpa [Handout.Store.step] using before
    | overflow metric => simpa using before
    | entry response delivered => simpa using before

variable [Zero V] [Add V] [DDSketch V K] [ToDogsketch K B]

/-- The service hands out what it accepts: the table stands for the metrics that wait, each answer
shipped the ones that waited, every accepted metric was delivered, is lost or waits, and a flush
takes them all, whether its answer is delivered or not. -/
structure HandsOut (sizes : Sizes V B)
    (orders : Nat → TableOrder (Metric V K) × TableOrder (Metric V K)) (tags : SortedTags)
    (s : AggregatorService V K B) : Prop where
  table : s.aggregator.map = Grouping.table Metric.id aggregateInto s.handout.waiting
  answered : Answered (Ships tags) s.handout.taken (flushed s.log)
  accounts : (acceptedOf s.log).Perm
    (s.handout.delivered ++ s.handout.lost ++ s.handout.waiting)
  flush : ∀ delivered s', step sizes orders s (.flush delivered) = some s' →
    s'.aggregator.map = ∅ ∧ s'.handout = s.handout.step (.take delivered)

theorem handsOut_run {sizes : Sizes V B} (json : sizes.JsonSucceeds)
    {orders : Nat → TableOrder (Metric V K) × TableOrder (Metric V K)} {tags : SortedTags}
    {maxContext : Nat} {start s : AggregatorService V K B}
    (created : new tags maxContext = .ok start) {commands : List (AggregatorCommand V K)}
    (run : Runs.exec (step sizes orders) start commands = some s) :
    HandsOut sizes orders tags s := by
  have accounted := accounted_run json created run
  refine ⟨?_, answered_handout s.log accounted.shipped, ?_, ?_⟩
  · rw [accounted.table, handout, waiting_handout]
  · rw [← accepted_handoutEvents]
    exact Handout.perm_accepted _
  · intro delivered s' flushed
    unfold step at flushed
    split at flushed <;> cases flushed
    refine ⟨map_flush .., ?_⟩
    simp only [handout, AggregatorService.flush, handoutEvents, List.filterMap_append]
    exact Handout.run_append ..

end Dogstatsd.AggregatorService

/-! ## The logs aggregator -/

namespace LogsAgent.Intake

variable {E : Type} (fromSlice : Bytes → Except String (List E))
  (toString : E → Except String Bytes)

/-- What the service accepts and hands out in one step. -/
def served (s : Intake E) : IntakeAction → List (Handout.Event Bytes)
  | .serve waiting =>
    match s.commands with
    | .insertBatch entries :: _ => (entries.flatMap (Aggregator.accepted toString)).map .accept
    | .getBatches _ :: _ => [.take waiting]
    | _ => []
  | _ => []

/-- What it accepts and hands out in a run. -/
def handoutEvents (s : Intake E) : List IntakeAction → List (Handout.Event Bytes)
  | [] => []
  | action :: rest =>
    served toString s action ++
      match step fromSlice toString s action with
      | some s' => handoutEvents s' rest
      | none => []

/-- The entries accepted and handed out in a run from the start. -/
def handout (actions : List IntakeAction) : Handout.Store Bytes :=
  .run (handoutEvents fromSlice toString {} actions)

/-- The batches of some entries: well formed, and the entries in order. -/
def Batches (entries : List Bytes) (batches : List Bytes) : Prop :=
  ∃ groups : List (List Bytes), batches = groups.map frame ∧ groups.flatten = entries ∧
    ∀ group ∈ groups, Aggregator.IsBatch (frame group) group

/-- The batches that arrived. -/
def arrived (responses : List (List Bytes × Bool)) : List Bytes :=
  (responses.filter Prod.snd).flatMap Prod.fst

/-- The queue holds the entries that wait, each answer had the batches of the ones that waited, and
the requesters got the answers that arrived. -/
structure Represents (s : Intake E) (d : Handout.Store Bytes) : Prop where
  valid : s.aggregator.Valid
  queue : s.aggregator.messages = d.waiting
  answered : ∃ responses, Answered Batches d.taken responses ∧ s.returned = arrived responses

variable {fromSlice toString} {s s' : Intake E} {action : IntakeAction}

theorem represents_new : Represents ({} : Intake E) (.run []) :=
  ⟨Aggregator.new_valid, rfl, [], .nil, rfl⟩

/-- Only the aggregator and what was returned matter. -/
theorem Represents.congr {d : Handout.Store Bytes} (represents : s.Represents d)
    (aggregator : s'.aggregator = s.aggregator) (returned : s'.returned = s.returned) :
    s'.Represents d :=
  ⟨aggregator ▸ represents.valid, aggregator ▸ represents.queue, returned ▸ represents.answered⟩

theorem Represents.send {d : Handout.Store Bytes} (represents : s.Represents d)
    (command : AggregatorCommand E) : (s.send command).Represents d := by
  refine represents.congr ?_ ?_ <;> unfold Intake.send <;> split <;> rfl

theorem Represents.insert {events : List (Handout.Event Bytes)}
    (represents : s.Represents (.run events)) (entries : List E)
    (aggregator : s'.aggregator = insertAll toString s.aggregator entries)
    (returned : s'.returned = s.returned) :
    s'.Represents
      (.run (events ++ (entries.flatMap (Aggregator.accepted toString)).map .accept)) := by
  rw [Handout.run_accepts]
  refine ⟨?_, ?_, returned ▸ represents.answered⟩
  · rw [aggregator]
    exact insertAll_valid toString _ _ represents.valid
  · rw [aggregator, insertAll_messages, represents.queue]

theorem Represents.take {events : List (Handout.Event Bytes)}
    (represents : s.Represents (.run events)) {fuel : Nat} {batches : List Bytes}
    {agg : Aggregator} (all : s.aggregator.getAllBatches fuel = some (batches, agg))
    {waiting : Bool} (aggregator : s'.aggregator = agg)
    (returned : s'.returned = if waiting then s.returned ++ batches else s.returned) :
    s'.Represents (.run (events ++ [.take waiting])) := by
  obtain ⟨rfl, groups, framed, flat, wellFormed⟩ :=
    Aggregator.getAllBatches_sound represents.valid all
  obtain ⟨responses, answered, returned_eq⟩ := represents.answered
  rw [Handout.run_take]
  refine ⟨aggregator ▸ Aggregator.new_valid, by rw [aggregator], responses ++ [(batches, waiting)],
    answered.concat ⟨groups, framed, flat.trans represents.queue, wellFormed⟩ waiting, ?_⟩
  rw [returned, returned_eq, arrived, arrived, List.filter_append, List.flatMap_append]
  cases waiting <;> simp

theorem represents_step {events : List (Handout.Event Bytes)}
    (represents : s.Represents (.run events)) (h : step fromSlice toString s action = some s') :
    s'.Represents (.run (events ++ served toString s action)) := by
  cases action with
  | handle req =>
    simp only [served, List.append_nil]
    simp only [step] at h
    generalize handleRequest fromSlice s.running req = handled at h
    obtain ⟨response, entries⟩ := handled
    have answered : Represents { s with exchanges := s.exchanges ++ [(req, response)] }
        (.run events) := represents.congr rfl rfl
    cases entries with
    | none =>
      cases h
      exact answered
    | some entries =>
      cases h
      exact answered.send _
  | getBatches =>
    cases h
    simp only [served, List.append_nil]
    exact represents.send _
  | shutdown =>
    cases h
    simp only [served, List.append_nil]
    exact represents.send _
  | serve waiting =>
    simp only [step, Intake.serve] at h
    split at h
    · split at h
      next => cases h
      next entries rest commands =>
        cases h
        rw [served, commands]
        exact represents.insert entries rfl rfl
      next answered rest commands =>
        obtain ⟨⟨batches, agg⟩, all, rfl⟩ := Option.map_eq_some_iff.1 h
        rw [served, commands]
        refine represents.take all ?_ ?_ <;> cases waiting <;> rfl
      next rest commands =>
        cases h
        rw [served, commands, List.append_nil]
        exact represents.congr rfl rfl
    · cases h

theorem represents_run {actions : List IntakeAction} {events : List (Handout.Event Bytes)}
    (represents : s.Represents (.run events))
    (run : Runs.exec (step fromSlice toString) s actions = some s') :
    s'.Represents (.run (events ++ handoutEvents fromSlice toString s actions)) := by
  induction actions generalizing s events with
  | nil =>
    cases run
    rwa [handoutEvents, List.append_nil]
  | cons action rest ih =>
    obtain ⟨next, first, later⟩ := Runs.exec_cons_eq_some.1 run
    rw [handoutEvents, first, ← List.append_assoc]
    exact ih (represents_step represents first) later

/-- The service hands out what it accepts: the queue holds the entries that wait, each answer had
the batches of those that waited, every accepted entry was delivered, is lost or waits, and a
`GetBatches` takes them all, whether its answer is delivered or not. -/
structure HandsOut (fromSlice : Bytes → Except String (List E))
    (toString : E → Except String Bytes) (actions : List IntakeAction) (s : Intake E) :
    Prop where
  represents : s.Represents (handout fromSlice toString actions)
  accounts : (Handout.accepted (handoutEvents fromSlice toString {} actions)).Perm
    ((handout fromSlice toString actions).delivered ++ (handout fromSlice toString actions).lost ++
      s.aggregator.messages)
  getBatches : ∀ answered rest delivered s', s.commands = .getBatches answered :: rest →
    step fromSlice toString s (.serve delivered) = some s' → s'.aggregator.messages = [] ∧
      s'.Represents ((handout fromSlice toString actions).step (.take delivered))

theorem handsOut_run {actions : List IntakeAction}
    (run : Runs.exec (step fromSlice toString) {} actions = some s) :
    HandsOut fromSlice toString actions s := by
  have represents : s.Represents (.run ([] ++ handoutEvents fromSlice toString {} actions)) :=
    represents_run represents_new run
  rw [List.nil_append] at represents
  refine ⟨represents, ?_, fun answered rest delivered s' commands taken => ?_⟩
  · rw [represents.queue]
    exact Handout.perm_accepted _
  · have after := represents_step represents taken
    rw [served, commands, Handout.run_append] at after
    exact ⟨after.queue, after⟩

end LogsAgent.Intake

/-! ## Both services -/

open Dogstatsd in
/-- In every run, both services hand out what they accept, to a requester that waits as to one that
has gone. What is lost is what waited for those who had gone, and nothing is lost exactly if
nothing waited for them. -/
theorem services_hand_out [MetricHasher] {V K B E : Type} [Zero V] [Add V]
    [DDSketch V K] [ToDogsketch K B] (sizes : Sizes V B) (json : sizes.JsonSucceeds)
    (orders : Nat → TableOrder (Metric V K) × TableOrder (Metric V K)) (tags : SortedTags)
    (maxContext : Nat) (start s : AggregatorService V K B)
    (created : AggregatorService.new tags maxContext = .ok start)
    (commands : List (AggregatorCommand V K))
    (run : Runs.exec (AggregatorService.step sizes orders) start commands = some s)
    (fromSlice : LogsAgent.Bytes → Except String (List E))
    (toString : E → Except String LogsAgent.Bytes) (actions : List LogsAgent.IntakeAction)
    (logs : LogsAgent.Intake E)
    (run' : Runs.exec (LogsAgent.Intake.step fromSlice toString) {} actions = some logs) :
    let handout' := LogsAgent.Intake.handout fromSlice toString actions
    (AggregatorService.HandsOut sizes orders tags s ∧
      (s.handout.lost = [] ↔
        ∀ take ∈ s.handout.taken, take.delivered = false → take.items = [])) ∧
    LogsAgent.Intake.HandsOut fromSlice toString actions logs ∧
      (handout'.lost = [] ↔
        ∀ take ∈ handout'.taken, take.delivered = false → take.items = []) :=
  ⟨⟨AggregatorService.handsOut_run json created run, Handout.lost_eq_nil_iff _⟩,
    LogsAgent.Intake.handsOut_run run', Handout.lost_eq_nil_iff _⟩

open Dogstatsd in
/-- A counter and an entry are flushed for requesters that have gone, and a gauge and another entry
for requesters that wait. -/
theorem services_hand_out_one :
    letI := fnvHasher
    letI := listSketch
    letI : ToDogsketch (List Int) (List Int) := ⟨id⟩
    let sizes : Sizes Int (List Int) := ⟨fun _ => some 100, fun _ => 10⟩
    let inOrder : TableOrder (Metric Int (List Int)) := ⟨id, fun _ => .refl _⟩
    let orders := fun _ : Nat => (inOrder, inOrder)
    let commands := [.insertBatch [Metric.new 100 "requests" (.count 2) none none], .flush false,
      .insertBatch [Metric.new 100 "load" (.gauge 7) none none], .flush true]
    let req : LogsAgent.HttpRequest := ⟨"POST", "/v1/input", some "3", .ok [91, 49, 93]⟩
    let actions : List LogsAgent.IntakeAction := [.handle req, .getBatches, .serve true,
      .serve false, .handle req, .getBatches, .serve true, .serve true]
    let handout' := LogsAgent.Intake.handout LogsAgent.Intake.parseOne .ok actions
    ∃ start s, AggregatorService.new ⟨[]⟩ 10 = .ok start ∧
      Runs.exec (AggregatorService.step sizes orders) start commands = some s ∧
      AggregatorService.HandsOut sizes orders ⟨[]⟩ s ∧
      s.handout.lost.map (·.name) = ["requests"] ∧ s.handout.delivered.map (·.name) = ["load"] ∧
      (∃ take ∈ s.handout.taken, take.delivered = false ∧ take.items ≠ []) ∧
      ∃ logs, Runs.exec (LogsAgent.Intake.step LogsAgent.Intake.parseOne .ok) {} actions =
          some logs ∧
        LogsAgent.Intake.HandsOut LogsAgent.Intake.parseOne .ok actions logs ∧
        handout'.lost = [[49]] ∧ handout'.delivered = [[49]] := by
  let _ := fnvHasher
  let _ := listSketch
  let _ : ToDogsketch (List Int) (List Int) := ⟨id⟩
  intro sizes inOrder orders commands req actions handout'
  obtain ⟨⟨metrics, lossless⟩, entries, -⟩ := services_hand_out sizes (fun _ => ⟨99, rfl⟩) orders
    ⟨[]⟩ 10 _ _ rfl commands rfl LogsAgent.Intake.parseOne .ok actions _ rfl
  refine ⟨_, _, rfl, rfl, metrics, rfl, rfl, ?_, _, rfl, entries, rfl, rfl⟩
  have loses := mt lossless.2 (List.cons_ne_nil _ _)
  push Not at loses
  exact loses

open Dogstatsd in
/-- A counter and a log entry are accepted, flushed for a requester that has gone, and in none of
the answers to the next flush. -/
theorem undelivered_not_available :
    letI := fnvHasher
    letI := listSketch
    letI : ToDogsketch (List Int) (List Int) := ⟨id⟩
    let sizes : Sizes Int (List Int) := ⟨fun _ => some 100, fun _ => 10⟩
    let inOrder : TableOrder (Metric Int (List Int)) := ⟨id, fun _ => .refl _⟩
    let commands := [.insertBatch [Metric.new 100 "requests" (.count 2) none none], .flush false,
      .flush true]
    (∃ start s lost next, AggregatorService.new ⟨[]⟩ 10 = .ok start ∧
      Runs.exec (AggregatorService.step sizes fun _ => (inOrder, inOrder)) start commands = some s ∧
      (AggregatorService.acceptedOf s.log).length = 1 ∧
      AggregatorService.flushed s.log = [(lost, false), (next, true)] ∧
      AggregatorService.points next = [] ∧ AggregatorService.sketches next = []) ∧
    ∃ logs, Runs.exec (LogsAgent.Intake.step LogsAgent.Intake.parseOne .ok) {}
        [.handle ⟨"POST", "/v1/input", some "3", .ok [91, 49, 93]⟩, .getBatches, .serve true,
          .serve false, .getBatches, .serve true] = some logs ∧
      logs.exchanges.map (fun exchange => exchange.2.status) = [⟨200⟩] ∧
      logs.returned = [] ∧ logs.aggregator.messages = [] := by
  let _ := fnvHasher
  let _ := listSketch
  let _ : ToDogsketch (List Int) (List Int) := ⟨id⟩
  exact ⟨⟨_, _, _, _, rfl, rfl, rfl, rfl, rfl, rfl⟩, _, rfl, rfl, rfl, rfl⟩

end ServerlessComponents
