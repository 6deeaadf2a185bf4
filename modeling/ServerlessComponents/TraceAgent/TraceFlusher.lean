import ServerlessComponents.Library.Numbered
import ServerlessComponents.TraceAgent.Processors

/-!
# From the trace handlers to the trace flusher

The detached enqueue tasks of `process_traces`, the bounded channel, the detached receiver and the
loop of `trace_flusher.rs`, from one `await` to the next. A piece is numbered by the request it
comes from and its position; it is in flight from the spawn of its task until it is handed to
`send`.
-/
namespace ServerlessComponents.TraceAgent

def TRACER_PAYLOAD_CHANNEL_BUFFER_SIZE : Nat := 10

/-- The tasks between the handlers and `send`, with what was spawned and what `send` was given. -/
structure TracePipeline (P : Type) where
  enqueuePermits : Nat := MAX_IN_FLIGHT_ENQUEUES
  /-- What each running enqueue task has left. -/
  enqueues : List (List (Numbered P)) := []
  channel : List (Numbered P) := []
  /-- The piece with which the receiver waits for the aggregator. -/
  inHand : Option (Numbered P) := none
  aggregator : TraceAggregator (Numbered P) := {}
  /-- `flush` holds the aggregator and is in `send`. -/
  sending : Bool := false
  handed : List (List (Numbered P)) := []
  spawned : List (List P) := []

inductive TraceAction where
  /-- An enqueue task sends its next piece. -/
  | enqueue (task : Nat)
  | enqueueEnds (task : Nat)
  | recv
  | add
  /-- The sleep of the flusher is over and it gets the aggregator. -/
  | wake
  | sent
  deriving DecidableEq, Repr

namespace TracePipeline

variable {P : Type} (len : P → Nat)

def acquirePermit (s : TracePipeline P) : TracePipeline P :=
  { s with enqueuePermits := s.enqueuePermits - 1 }

def releasePermit (s : TracePipeline P) : TracePipeline P :=
  { s with enqueuePermits := s.enqueuePermits + 1 }

/-- The enqueue task of a request is spawned; the permit of the handler goes with it. -/
def spawn (s : TracePipeline P) (sendDatas : List P) : TracePipeline P :=
  { s with
    enqueues := s.enqueues ++ [Numbered.ofRound s.spawned.length sendDatas]
    spawned := s.spawned ++ [sendDatas] }

/-- `flush` takes the next batch and gives it to `send`, or ends. -/
def takeBatch (s : TracePipeline P) : TracePipeline P :=
  let (traces, aggregator) := s.aggregator.getBatch fun a => len a.item
  if traces.isEmpty then { s with aggregator, sending := false }
  else { s with aggregator, handed := s.handed ++ [traces], sending := true }

def step (s : TracePipeline P) : TraceAction → Option (TracePipeline P)
  | .enqueue task =>
    match s.enqueues[task]? with
    | some (sendData :: left) =>
      if s.channel.length < TRACER_PAYLOAD_CHANNEL_BUFFER_SIZE then
        some { s with
          enqueues := s.enqueues.set task left, channel := s.channel ++ [sendData] }
      else none
    | _ => none
  | .enqueueEnds task =>
    match s.enqueues[task]? with
    | some [] => some { s.releasePermit with enqueues := s.enqueues.eraseIdx task }
    | _ => none
  | .recv =>
    match s.inHand, s.channel with
    | none, tracerPayload :: rest => some { s with inHand := some tracerPayload, channel := rest }
    | _, _ => none
  | .add =>
    match s.inHand with
    | some tracerPayload =>
      if s.sending then none
      else some { s with inHand := none, aggregator := s.aggregator.add tracerPayload }
    | none => none
  | .wake => if s.sending then none else some (s.takeBatch len)
  | .sent => if s.sending then some (s.takeBatch len) else none

/-! ## Where the pieces are -/

/-- The pieces on their way to `send`. -/
def inFlight (s : TracePipeline P) : List (Numbered P) :=
  s.aggregator.queue ++ s.inHand.toList ++ s.channel ++ s.enqueues.flatten

/-- Every spawned piece was handed to `send` or is in flight. -/
structure Accounted (s : TracePipeline P) : Prop where
  pieces : (Numbered.ofRounds 0 s.spawned).Perm (s.handed.flatten ++ s.inFlight)
  buffer : s.aggregator.buffer = []

/-- Everything that can happen to the pieces. -/
inductive Effect (s s' : TracePipeline P) : Prop
  | moves (spawned : s'.spawned = s.spawned) (handed : s'.handed = s.handed)
      (inFlight : s.inFlight.Perm s'.inFlight) (buffer : s'.aggregator.buffer = s.aggregator.buffer)
  | spawns (sendDatas : List P) (spawned : s'.spawned = s.spawned ++ [sendDatas])
      (handed : s'.handed = s.handed)
      (inFlight : s'.inFlight = s.inFlight ++ Numbered.ofRound s.spawned.length sendDatas)
      (buffer : s'.aggregator.buffer = s.aggregator.buffer)
  | hands (traces : List (Numbered P)) (spawned : s'.spawned = s.spawned)
      (handed : s'.handed.flatten = s.handed.flatten ++ traces)
      (inFlight : s.aggregator.buffer = [] → s.inFlight = traces ++ s'.inFlight)
      (buffer : s'.aggregator.buffer = [])

variable {len} {s s' : TracePipeline P}

theorem Effect.refl (s : TracePipeline P) : Effect s s := .moves rfl rfl (.refl _) rfl

theorem effect_permit (n : Nat) : Effect s { s with enqueuePermits := n } :=
  .moves rfl rfl (.refl _) rfl

theorem effect_spawn (sendDatas : List P) : Effect s (s.spawn sendDatas) :=
  .spawns sendDatas rfl rfl (by simp [inFlight, spawn]) rfl

/-- The list of spawned tasks only grows. -/
theorem spawned_prefix (effect : Effect s s') : s.spawned <+: s'.spawned := by
  cases effect with
  | moves spawned => rw [spawned]
  | spawns sendDatas spawned =>
    rw [spawned]
    exact List.prefix_append ..
  | hands traces spawned => rw [spawned]

theorem effect_takeBatch : Effect s (s.takeBatch len) := by
  have front := TraceAggregator.getBatch_append (fun a : Numbered P => len a.item) s.aggregator
  simp only [takeBatch]
  split
  next none_ =>
    refine .hands [] rfl (by simp) ?_ rfl
    intro clear
    rw [List.isEmpty_iff.1 none_, clear] at front
    simp only [List.nil_append] at front
    simp [inFlight, front]
  next =>
    refine .hands (s.aggregator.getBatch fun a => len a.item).1 rfl (by simp) ?_ rfl
    intro clear
    rw [clear, List.nil_append] at front
    simp [inFlight, ← front]

theorem effect_of_step {a : TraceAction} (h : s.step len a = some s') : Effect s s' := by
  cases a with
  | enqueue task =>
    simp only [step] at h
    split at h
    next sendData left found =>
      split at h <;> cases h
      refine .moves rfl rfl ?_ rfl
      have left_ := (Numbered.flatten_set_perm found).append_left
        (s.aggregator.queue ++ s.inHand.toList ++ s.channel)
      simpa [inFlight] using left_
    next => cases h
  | enqueueEnds task =>
    simp only [step] at h
    split at h <;> cases h
    next found =>
      refine .moves rfl rfl ?_ rfl
      simp [inFlight, releasePermit, Numbered.flatten_eraseIdx found]
  | recv =>
    simp only [step] at h
    split at h <;> cases h
    next tracerPayload rest free channel =>
      refine .moves rfl rfl ?_ rfl
      simp [inFlight, free, channel]
  | add =>
    simp only [step] at h
    split at h
    next tracerPayload hand =>
      split at h <;> cases h
      refine .moves rfl rfl ?_ rfl
      simp [inFlight, hand]
    next => cases h
  | wake =>
    simp only [step] at h
    split at h <;> cases h
    exact effect_takeBatch
  | sent =>
    simp only [step] at h
    split at h <;> cases h
    exact effect_takeBatch

theorem accounted_effect (start : s.Accounted) (effect : Effect s s') : s'.Accounted := by
  obtain ⟨pieces, buffer⟩ := start
  cases effect with
  | moves spawned handed inFlight same =>
    refine ⟨?_, same.trans buffer⟩
    rw [spawned, handed]
    exact pieces.trans (inFlight.append_left _)
  | spawns sendDatas spawned handed inFlight same =>
    refine ⟨?_, same.trans buffer⟩
    rw [spawned, handed, inFlight, Numbered.ofRounds_append, ← List.append_assoc]
    simpa [Numbered.ofRounds] using
      pieces.append_right (Numbered.ofRound s.spawned.length sendDatas)
  | hands traces spawned handed inFlight clear =>
    refine ⟨?_, clear⟩
    rw [spawned, handed, List.append_assoc, ← inFlight buffer]
    exact pieces

/-- A spawned piece was handed to `send` exactly when it is not in flight. -/
theorem Accounted.handed_iff (accounted : s.Accounted) {piece : Numbered P}
    (spawned : piece ∈ Numbered.ofRounds 0 s.spawned) :
    piece ∈ s.handed.flatten ↔ piece ∉ s.inFlight := by
  have nodup : (s.handed.flatten ++ s.inFlight).Nodup :=
    accounted.pieces.nodup_iff.1 (List.Nodup.of_map _ (Numbered.nodup_number_ofRounds 0 s.spawned))
  constructor
  · intro handed waits
    exact List.disjoint_of_nodup_append nodup handed waits
  · intro gone
    exact (List.mem_append.1 (accounted.pieces.mem_iff.1 spawned)).resolve_right gone

end TracePipeline

end ServerlessComponents.TraceAgent
