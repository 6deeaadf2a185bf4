import Mathlib.Algebra.BigOperators.Group.List.Basic
import Mathlib.Algebra.GroupWithZero.Nat
import ServerlessComponents.Library.Greedy

/-!
# The logs aggregator

`aggregator/core.rs` of the logs agent: a FIFO of serialised entries from which batches are cut.
A batch is a JSON array, so its size counts two brackets and the commas between its entries.
-/
namespace ServerlessComponents.LogsAgent

abbrev Bytes := List UInt8

def maxBatchEntries : Nat := 1000
def maxContentBytes : Nat := 5 * 1024 * 1024
def maxLogBytes : Nat := 1024 * 1024

/-- `b'['`, `b']'` and `b','`. -/
def openBracket : UInt8 := 91
def closeBracket : UInt8 := 93
def comma : UInt8 := 44

inductive AggregatorError where
  | entryTooLarge (size max : Nat)
  | serialization (e : String)
  deriving DecidableEq, Repr

structure Aggregator where
  messages : List Bytes
  currentSizeBytes : Nat
  deriving DecidableEq, Repr

namespace Aggregator

def new : Aggregator := ⟨[], 0⟩

def isFull (agg : Aggregator) : Bool :=
  let n := agg.messages.length
  let framing := if n = 0 then 0 else 2 + (n - 1)
  n ≥ maxBatchEntries || agg.currentSizeBytes + framing ≥ maxContentBytes

/-- Insert an entry; `toString` is its JSON serialisation. -/
def insert {E : Type} (toString : E → Except String Bytes) (agg : Aggregator) (entry : E) :
    Except AggregatorError Bool × Aggregator :=
  match toString entry with
  | .error e => (.error (.serialization e), agg)
  | .ok serialized =>
    if serialized.length > maxLogBytes then
      (.error (.entryTooLarge serialized.length maxLogBytes), agg)
    else
      let agg' : Aggregator :=
        ⟨agg.messages ++ [serialized], agg.currentSizeBytes + serialized.length⟩
      (.ok agg'.isFull, agg')

/-- The loop of `get_batch` over the queue, with its locals `current_size_bytes`,
`bytes_in_batch`, `count` and `output`. -/
def batchLoop : List Bytes → Nat → Nat → Nat → Bytes → Bytes × Aggregator
  | [], size, _, _, output => (output, ⟨[], size⟩)
  | msg :: rest, size, bytesInBatch, count, output =>
    if count ≥ maxBatchEntries then (output, ⟨msg :: rest, size⟩)
    else
      let separator := if count = 0 then 0 else 1
      if bytesInBatch + separator + msg.length + 2 > maxContentBytes then
        (output, ⟨msg :: rest, size⟩)
      else
        let output := if count > 0 then output ++ [comma] else output
        let bytesInBatch := if count > 0 then bytesInBatch + 1 else bytesInBatch
        batchLoop rest (size - msg.length) (bytesInBatch + msg.length) (count + 1) (output ++ msg)

def getBatch (agg : Aggregator) : Option Bytes × Aggregator :=
  if agg.messages.isEmpty then (none, agg)
  else
    let (output, agg') := batchLoop agg.messages agg.currentSizeBytes 0 0 [openBracket]
    (some (output ++ [closeBracket]), agg')

/-- `get_all_batches`, with `fuel` bounding the turns of its `while let`; `none` when it would
take more of them. -/
def getAllBatches : Nat → Aggregator → Option (List Bytes × Aggregator)
  | 0, _ => none
  | fuel + 1, agg =>
    match agg.getBatch with
    | (none, agg') => some ([], agg')
    | (some batch, agg') =>
      (getAllBatches fuel agg').map fun (batches, last) => (batch :: batches, last)

end Aggregator

/-! ## Batches as greedy packing -/

/-- A batch holding the given entries. -/
def frame (entries : List Bytes) : Bytes :=
  [openBracket] ++ [comma].intercalate entries ++ [closeBracket]

def totalLength (entries : List Bytes) : Nat := (entries.map List.length).sum

@[simp] theorem totalLength_nil : totalLength [] = 0 := rfl
@[simp] theorem totalLength_cons (m : Bytes) (rest : List Bytes) :
    totalLength (m :: rest) = m.length + totalLength rest := by simp [totalLength]
@[simp] theorem totalLength_append (a b : List Bytes) :
    totalLength (a ++ b) = totalLength a + totalLength b := by simp [totalLength]

/-- The bytes and the count of a batch, as the loop keeps them. -/
structure Fill where
  bytesInBatch : Nat
  count : Nat

def separator (count : Nat) : Nat := if count = 0 then 0 else 1

/-- The loop's test on the next entry. -/
def fits (s : Fill) (msg : Bytes) : Bool :=
  s.count < maxBatchEntries ∧
    s.bytesInBatch + separator s.count + msg.length + 2 ≤ maxContentBytes

def add (s : Fill) (msg : Bytes) : Fill :=
  ⟨s.bytesInBatch + separator s.count + msg.length, s.count + 1⟩

/-- The entries of the next batch of a queue, and what they leave. -/
def nextBatch (queue : List Bytes) : List Bytes × List Bytes :=
  Greedy.fill fits add ⟨0, 0⟩ queue

/-- What the loop appends to its output from `count` on. -/
def listed (count : Nat) : List Bytes → Bytes
  | [] => []
  | msg :: rest => (if count > 0 then [comma] else []) ++ msg ++ listed (count + 1) rest

theorem intercalate_cons (msg : Bytes) (rest : List Bytes) :
    [comma].intercalate (msg :: rest) = msg ++ listed 1 rest := by
  induction rest generalizing msg with
  | nil => simp [listed, List.intercalate]
  | cons next rest ih =>
    have shift : ∀ (l : List Bytes) (c : Nat), listed (c + 1) l = listed 1 l := by
      intro l
      induction l with
      | nil => intro c; rfl
      | cons m l ihl => intro c; simp [listed, ihl]
    have step : [comma].intercalate (msg :: next :: rest) =
        msg ++ ([comma] ++ [comma].intercalate (next :: rest)) := by
      simp [List.intercalate, List.intersperse]
    rw [step, ih]
    simp [listed, shift rest 1]

theorem listed_zero (entries : List Bytes) : listed 0 entries = [comma].intercalate entries := by
  cases entries with
  | nil => rfl
  | cons msg rest => simp [listed, intercalate_cons]

theorem listed_length (c : Nat) (entries : List Bytes) :
    (listed (c + 1) entries).length = totalLength entries + entries.length := by
  induction entries generalizing c with
  | nil => rfl
  | cons msg rest ih => simp [listed, ih]; omega

theorem frame_length (entries : List Bytes) :
    (frame entries).length = totalLength entries + (entries.length - 1) + 2 := by
  cases entries with
  | nil => rfl
  | cons msg rest =>
    simp only [frame, intercalate_cons, List.length_append, listed_length, totalLength_cons]
    simp
    omega

/-- The summary of a filled batch is its size and its number of entries. -/
theorem foldl_add (entries : List Bytes) (s : Fill) :
    entries.foldl add s =
      ⟨s.bytesInBatch + totalLength entries +
        (if s.count = 0 then entries.length - 1 else entries.length),
        s.count + entries.length⟩ := by
  induction entries generalizing s with
  | nil => simp
  | cons msg rest ih =>
    simp only [List.foldl_cons, ih, add, separator, totalLength_cons, List.length_cons]
    by_cases h : s.count = 0 <;> simp [h] <;> omega

theorem foldl_add_empty (entries : List Bytes) :
    entries.foldl add ⟨0, 0⟩ = ⟨totalLength entries + (entries.length - 1), entries.length⟩ := by
  simp [foldl_add]

/-- The loop takes what greedy packing takes. -/
theorem batchLoop_eq (queue : List Bytes) (size : Nat) (s : Fill) (output : Bytes) :
    Aggregator.batchLoop queue size s.bytesInBatch s.count output =
      (output ++ listed s.count (Greedy.fill fits add s queue).1,
        ⟨(Greedy.fill fits add s queue).2,
          size - totalLength (Greedy.fill fits add s queue).1⟩) := by
  induction queue generalizing size s output with
  | nil => simp [Aggregator.batchLoop, listed]
  | cons msg rest ih =>
    rw [Aggregator.batchLoop]
    cases h : fits s msg with
    | true =>
      have ⟨hc, hb⟩ : s.count < maxBatchEntries ∧
          s.bytesInBatch + separator s.count + msg.length + 2 ≤ maxContentBytes := by
        simpa [fits] using h
      have next := ih (size - msg.length) (add s msg)
        ((if s.count > 0 then output ++ [comma] else output) ++ msg)
      have bytes : (if s.count > 0 then s.bytesInBatch + 1 else s.bytesInBatch) + msg.length =
          (add s msg).bytesInBatch := by
        simp only [add, separator]; split <;> split <;> omega
      rw [if_neg (by omega), if_neg (by simpa [separator] using hb), Greedy.fill_cons_fits h]
      simp only [bytes]
      refine next.trans ?_
      simp only [listed, totalLength_cons, Nat.sub_sub, add]
      by_cases hz : s.count > 0 <;> simp [hz]
    | false =>
      rw [Greedy.fill_cons_stuck h]
      by_cases hc : s.count ≥ maxBatchEntries
      · simp [hc, listed]
      · have hb : s.bytesInBatch + separator s.count + msg.length + 2 > maxContentBytes := by
          simp [fits] at h; omega
        rw [if_neg hc, if_pos (by simpa [separator] using hb)]
        simp [listed]

end ServerlessComponents.LogsAgent
