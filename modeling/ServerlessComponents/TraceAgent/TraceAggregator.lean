import ServerlessComponents.TraceAgent.Payload

/-!
# The trace aggregator

`aggregator.rs`: payloads wait in a queue and leave it in batches of bounded size, a payload over
the bound alone. All the aggregator reads of a payload is its length.
-/
namespace ServerlessComponents.TraceAgent

def MAX_CONTENT_SIZE_BYTES : Nat := (32 * 1024 * 1024) / 10

/-- `SendData`; the endpoint is the configured intake. -/
structure SendData (D R X H : Type) where
  size : Nat
  tracerPayload : TracerPayloadCollection D R X
  headerTags : H

structure TraceAggregator (P : Type) where
  queue : List P := []
  maxContentSizeBytes : Nat := MAX_CONTENT_SIZE_BYTES
  buffer : List P := []

namespace TraceAggregator

variable {P : Type} (len : P → Nat)

def add (a : TraceAggregator P) (p : P) : TraceAggregator P := { a with queue := a.queue ++ [p] }

/-- The loop of `get_batch`: the buffer and the queue it ends with. -/
def fillBatch (maxContentSizeBytes : Nat) : Nat → List P → List P → List P × List P
  | _, buffer, [] => (buffer, [])
  | batchSize, buffer, payload :: queue =>
    if batchSize < maxContentSizeBytes then
      if batchSize + len payload > maxContentSizeBytes then
        if buffer.isEmpty then (buffer ++ [payload], queue)
        else (buffer, payload :: queue)
      else fillBatch maxContentSizeBytes (batchSize + len payload) (buffer ++ [payload]) queue
    else (buffer, payload :: queue)

def getBatch (a : TraceAggregator P) : List P × TraceAggregator P :=
  let (buffer, queue) := fillBatch len a.maxContentSizeBytes 0 a.buffer a.queue
  (buffer, { a with queue, buffer := [] })

theorem fillBatch_append (maxContentSizeBytes batchSize : Nat) (buffer queue : List P) :
    (fillBatch len maxContentSizeBytes batchSize buffer queue).1 ++
      (fillBatch len maxContentSizeBytes batchSize buffer queue).2 = buffer ++ queue := by
  induction queue generalizing batchSize buffer with
  | nil => rfl
  | cons payload queue ih =>
    simp only [fillBatch]
    split
    next =>
      split
      next =>
        split
        next => simp
        next => rfl
      next =>
        rw [ih]
        simp
    next => rfl

/-- A batch is the front of what waits, and the buffer is empty again. -/
theorem getBatch_append (a : TraceAggregator P) :
    (a.getBatch len).1 ++ (a.getBatch len).2.queue = a.buffer ++ a.queue :=
  fillBatch_append len a.maxContentSizeBytes 0 a.buffer a.queue

@[simp] theorem add_queue (a : TraceAggregator P) (p : P) : (a.add p).queue = a.queue ++ [p] := rfl

end TraceAggregator

end ServerlessComponents.TraceAgent
