import ServerlessComponents.Library.Greedy
import ServerlessComponents.Library.Packing
import ServerlessComponents.Library.Runs
import ServerlessComponents.TraceAgent.TraceFlusher

/-!
# The batches of the trace aggregator

`get_batch` fills a batch greedily from the front of the queue, and a payload over the limit makes a
batch of its own. So a batch is empty only when nothing waits, and `flush` takes batches until then.

## Main results

* `TraceAggregator.run_handed` — the batches of any calls of `add` and `get_batch`.
* `TracePipeline.exec_flush` — the steps of the trace flusher that `flush` is.
-/
namespace ServerlessComponents.TraceAgent

open Packing (bytes)

variable {P : Type} (len : P → Nat)

namespace TraceAggregator

/-- `TraceAggregator::new` -/
def new (maxContentSizeBytes : Nat) : TraceAggregator P where
  queue := []
  maxContentSizeBytes := maxContentSizeBytes
  buffer := []

/-- A payload goes into a batch that is below the limit, and over the limit only as the first. -/
def fits (maxContentSizeBytes : Nat) (batch : List P) (payload : P) : Bool :=
  bytes len batch < maxContentSizeBytes &&
    (bytes len batch + len payload ≤ maxContentSizeBytes || batch.isEmpty)

def push (batch : List P) (payload : P) : List P := batch ++ [payload]

/-- The loop of `flush`, for so many turns: the batches given to `send`. -/
def flush : Nat → TraceAggregator P → Option (List (List P) × TraceAggregator P)
  | 0, _ => none
  | fuel + 1, a =>
    let (traces, a) := a.getBatch len
    if traces.isEmpty then some ([], a)
    else (flush fuel a).map fun (later, a) => (traces :: later, a)

/-! ## One batch -/

variable {len} {maxContentSizeBytes : Nat}

@[simp]
theorem foldl_push (batch payloads : List P) : payloads.foldl push batch = batch ++ payloads := by
  induction payloads generalizing batch with
  | nil => simp
  | cons payload rest ih => rw [List.foldl_cons, ih, push, List.append_assoc, List.singleton_append]

/-- A batch that has reached the limit takes nothing more. -/
theorem fill_full {batch : List P} (full : ¬ bytes len batch < maxContentSizeBytes)
    (queue : List P) :
    Greedy.fill (fits len maxContentSizeBytes) push batch queue = ([], queue) := by
  cases queue with
  | nil => rfl
  | cons payload rest => exact Greedy.fill_cons_stuck (by simp [fits, full]) rest

theorem fillBatch_eq (buffer queue : List P) :
    fillBatch len maxContentSizeBytes (bytes len buffer) buffer queue =
      (buffer ++ (Greedy.fill (fits len maxContentSizeBytes) push buffer queue).1,
        (Greedy.fill (fits len maxContentSizeBytes) push buffer queue).2) := by
  induction queue generalizing buffer with
  | nil => simp [fillBatch]
  | cons payload rest ih =>
    rw [fillBatch]
    split_ifs with below exceeds first
    · -- the payload alone is over the limit
      have fit : fits len maxContentSizeBytes buffer payload = true := by simp [fits, below, first]
      have full : ¬ bytes len (push buffer payload) < maxContentSizeBytes := by
        simp [push]
        omega
      rw [Greedy.fill_cons_fits fit, fill_full full]
    · have stuck : fits len maxContentSizeBytes buffer payload = false := by
        simp [fits, not_le.2 exceeds, first]
      rw [Greedy.fill_cons_stuck stuck, List.append_nil]
    · have fit : fits len maxContentSizeBytes buffer payload = true := by
        simp [fits, below, not_lt.1 exceeds]
      have size : bytes len buffer + len payload = bytes len (buffer ++ [payload]) := by simp
      rw [size, ih, Greedy.fill_cons_fits fit, List.append_assoc]
      rfl
    · rw [fill_full below, List.append_nil]

/-- What `get_batch` does between calls, when the buffer is empty. -/
theorem getBatch_eq {a : TraceAggregator P} (buffer : a.buffer = []) :
    a.getBatch len = ((Greedy.fill (fits len a.maxContentSizeBytes) push [] a.queue).1,
      { a with queue := (Greedy.fill (fits len a.maxContentSizeBytes) push [] a.queue).2 }) := by
  obtain ⟨queue, maxContentSizeBytes, _⟩ := a
  obtain rfl := buffer
  have filled : fillBatch len maxContentSizeBytes 0 [] queue =
      Greedy.fill (fits len maxContentSizeBytes) push [] queue := fillBatch_eq [] queue
  rw [getBatch, filled]

theorem fits_alone (positive : 0 < maxContentSizeBytes) (payload : P) :
    fits len maxContentSizeBytes [] payload = true := by
  simp [fits, positive]

theorem fill_ne_nil_iff (positive : 0 < maxContentSizeBytes) (queue : List P) :
    (Greedy.fill (fits len maxContentSizeBytes) push [] queue).1 ≠ [] ↔ queue ≠ [] := by
  cases queue with
  | nil => simp
  | cons payload rest =>
    exact iff_of_true (Greedy.fill_ne_nil push (fits_alone positive payload) rest) (by simp)

theorem fill_bounded (queue : List P) :
    bytes len (Greedy.fill (fits len maxContentSizeBytes) push [] queue).1 ≤ maxContentSizeBytes ∨
      (Greedy.fill (fits len maxContentSizeBytes) push [] queue).1.length = 1 := by
  have bounded := Greedy.fill_invariant (fits len maxContentSizeBytes) push
    (P := fun batch => bytes len batch ≤ maxContentSizeBytes ∨ batch.length = 1) (s := [])
    (fun batch payload _ fit => by
      simp only [fits, Bool.and_eq_true, Bool.or_eq_true, decide_eq_true_eq,
        List.isEmpty_iff] at fit
      refine fit.2.imp (fun within => ?_) fun first => ?_
      · simpa [push] using within
      · simp [push, first]) (by simp) queue
  simpa using bounded

/-- The next payload would have exceeded the limit. -/
theorem fill_greedy {queue rest : List P} {next : P} (sized : 0 < len next)
    (left : (Greedy.fill (fits len maxContentSizeBytes) push [] queue).2 = next :: rest) :
    maxContentSizeBytes <
      bytes len (Greedy.fill (fits len maxContentSizeBytes) push [] queue).1 + len next := by
  have stuck := Greedy.fill_maximal left
  simp only [foldl_push, List.nil_append, fits, Bool.and_eq_false_iff, Bool.or_eq_false_iff,
    decide_eq_false_iff_not] at stuck
  omega

/-! ## The loop of `flush` -/

theorem flush_eq_drain {a : TraceAggregator P} (positive : 0 < a.maxContentSizeBytes)
    (buffer : a.buffer = []) (fuel : Nat) :
    a.flush len fuel = (Greedy.drain (fits len a.maxContentSizeBytes) push [] fuel a.queue).map
      fun batches => (batches, { a with queue := [] }) := by
  induction fuel generalizing a with
  | zero => rfl
  | succ fuel ih =>
    rw [flush, getBatch_eq buffer]
    cases waiting : a.queue with
    | nil =>
      simp [Greedy.drain]
    | cons payload rest =>
      have some_ : (Greedy.fill (fits len a.maxContentSizeBytes) push []
          (payload :: rest)).1.isEmpty = false := by
        rw [List.isEmpty_eq_false_iff, fill_ne_nil_iff positive]
        simp
      have later := ih (a := { a with
        queue := (Greedy.fill (fits len a.maxContentSizeBytes) push [] (payload :: rest)).2 })
        positive buffer
      simp only [some_, later, Greedy.drain, Option.map_map]
      rfl

theorem flush_drains {a : TraceAggregator P} (positive : 0 < a.maxContentSizeBytes)
    (buffer : a.buffer = []) {fuel : Nat} (enough : a.queue.length < fuel) :
    ∃ batches, a.flush len fuel = some (batches, { a with queue := [] }) ∧
      batches.flatten = a.queue := by
  have alone : ∀ payload ∈ a.queue, fits len a.maxContentSizeBytes [] payload = true :=
    fun payload _ => fits_alone positive payload
  obtain ⟨batches, drained⟩ := Greedy.drain_terminates push alone enough
  refine ⟨batches, ?_, (Greedy.drain_sound alone drained).1⟩
  rw [flush_eq_drain positive buffer, drained, Option.map_some]

/-! ## Runs -/

inductive Call (P : Type) where
  | add (p : P)
  | getBatch

/-- One call on the aggregator, with the batches that were handed out. -/
def call (len : P → Nat) :
    TraceAggregator P × List (List P) → Call P → TraceAggregator P × List (List P)
  | (a, batches), .add p => (a.add p, batches)
  | (a, batches), .getBatch => ((a.getBatch len).2, batches ++ [(a.getBatch len).1])

/-- The aggregator and the batches after some calls. -/
def run (len : P → Nat) (maxContentSizeBytes : Nat) (calls : List (Call P)) :
    TraceAggregator P × List (List P) :=
  calls.foldl (call len) (new maxContentSizeBytes, [])

/-- The payloads that were added, in order. -/
def added (calls : List (Call P)) : List P :=
  calls.filterMap fun
    | .add p => some p
    | .getBatch => none

/-- What holds between calls: the payloads have left in order, or wait in the queue. -/
structure Serves (maxContentSizeBytes : Nat) (payloads : List P)
    (s : TraceAggregator P × List (List P)) : Prop where
  order : s.2.flatten ++ s.1.queue = payloads
  buffer : s.1.buffer = []
  limit : s.1.maxContentSizeBytes = maxContentSizeBytes

theorem Serves.call {payloads : List P} {s : TraceAggregator P × List (List P)}
    (serves : Serves maxContentSizeBytes payloads s) (c : Call P) :
    Serves maxContentSizeBytes (payloads ++ added [c]) (call len s c) := by
  obtain ⟨a, batches⟩ := s
  obtain ⟨order, buffer, limit⟩ := serves
  simp only at order buffer limit
  cases c with
  | add p =>
    refine ⟨?_, buffer, limit⟩
    simp [TraceAggregator.call, added, ← order]
  | getBatch =>
    have front := Greedy.fill_append (fits len a.maxContentSizeBytes) push [] a.queue
    refine ⟨?_, ?_, ?_⟩
    · simp [TraceAggregator.call, getBatch_eq buffer, added, front, order]
    · simp [TraceAggregator.call, getBatch_eq buffer, buffer]
    · simp [TraceAggregator.call, getBatch_eq buffer, limit]

theorem serves_run (calls : List (Call P)) :
    Serves maxContentSizeBytes (added calls) (run len maxContentSizeBytes calls) := by
  induction calls using List.reverseRecOn with
  | nil => exact ⟨rfl, rfl, rfl⟩
  | append_singleton calls c ih =>
    rw [run, List.foldl_append, added, List.filterMap_append]
    exact ih.call c

/-- After any calls: the payloads have left in their order or wait in it, the buffer is empty, the
next batch is the greedy one, and `flush` takes all that waits and ends. -/
theorem run_handed (maxContentSizeBytes : Nat) (positive : 0 < maxContentSizeBytes)
    (calls : List (Call P)) (sized : ∀ p ∈ added calls, 0 < len p) :
    let (a, batches) := run len maxContentSizeBytes calls
    let (batch, left) := a.getBatch len
    batches.flatten ++ a.queue = added calls ∧ a.buffer = [] ∧ left.buffer = [] ∧
    batch ++ left.queue = a.queue ∧ (batch ≠ [] ↔ a.queue ≠ []) ∧
    (bytes len batch ≤ maxContentSizeBytes ∨ batch.length = 1) ∧
    (∀ next ∈ left.queue.head?, maxContentSizeBytes < bytes len batch + len next) ∧
    ∀ fuel, a.queue.length < fuel → ∃ batches',
      a.flush len fuel = some (batches', { a with queue := [] }) ∧ batches'.flatten = a.queue := by
  have serves : Serves maxContentSizeBytes (added calls) (run len maxContentSizeBytes calls) :=
    serves_run calls
  generalize run len maxContentSizeBytes calls = s at serves ⊢
  obtain ⟨a, batches⟩ := s
  obtain ⟨order, buffer, limit⟩ := serves
  simp only at order buffer limit ⊢
  subst limit
  rw [getBatch_eq buffer]
  refine ⟨order, buffer, buffer, Greedy.fill_append .., fill_ne_nil_iff positive _, fill_bounded _,
    ?_, fun fuel enough => flush_drains positive buffer enough⟩
  intro next first
  obtain ⟨rest, left⟩ := List.head?_eq_some_iff.1 first
  have waits : next ∈ a.queue := by
    rw [← Greedy.fill_append (fits len a.maxContentSizeBytes) push [] a.queue]
    exact List.mem_append_right _ (List.mem_of_mem_head? first)
  refine fill_greedy (sized next ?_) left
  rw [← order]
  exact List.mem_append_right _ waits

/-- Payloads of two, nine and three bytes under a limit of four; the last waits. -/
theorem run_handed_three :
    let a := (run id 4 [.add 2, .add 9, .getBatch, .getBatch, .add 3]).1
    ∃ batches, a.flush id 2 = some (batches, { a with queue := [] }) ∧ batches.flatten = [3] :=
  (run_handed 4 (by decide) [.add 2, .add 9, .getBatch, .getBatch, .add 3]
    (by decide)).2.2.2.2.2.2.2 2 (by decide)

end TraceAggregator

/-! ## The steps of the trace flusher -/

namespace TracePipeline

variable {len} {s : TracePipeline P}

theorem exec_sent {fuel : Nat} {batches : List (List (Numbered P))}
    {aggregator : TraceAggregator (Numbered P)}
    (flushed : s.aggregator.flush (fun a => len a.item) fuel = some (batches, aggregator)) :
    Runs.exec (step len) (s.takeBatch len) (List.replicate batches.length .sent) =
      some { s with aggregator, handed := s.handed ++ batches, sending := false } := by
  induction fuel generalizing s batches with
  | zero => cases flushed
  | succ fuel ih =>
    rcases taken : s.aggregator.getBatch fun a => len a.item with ⟨traces, left⟩
    simp only [TraceAggregator.flush, taken] at flushed
    simp only [takeBatch, taken]
    split_ifs at flushed ⊢ with none_
    · cases flushed
      simp [Runs.exec]
    · obtain ⟨⟨later, _⟩, rest, eq⟩ := Option.map_eq_some_iff.1 flushed
      cases eq
      rw [List.length_cons, List.replicate_succ, Runs.exec_cons_eq_some]
      refine ⟨_, rfl, ?_⟩
      rw [ih rest]
      simp

/-- When the flusher wakes, it goes through `flush` in as many turns as there are batches. -/
theorem exec_flush (idle : s.sending = false) {fuel : Nat} {batches : List (List (Numbered P))}
    {aggregator : TraceAggregator (Numbered P)}
    (flushed : s.aggregator.flush (fun a => len a.item) fuel = some (batches, aggregator)) :
    Runs.exec (step len) s (.wake :: List.replicate batches.length .sent) =
      some { s with aggregator, handed := s.handed ++ batches, sending := false } := by
  refine Runs.exec_cons_eq_some.2 ⟨s.takeBatch len, ?_, exec_sent flushed⟩
  simp [step, idle]

end TracePipeline

end ServerlessComponents.TraceAgent
