import ServerlessComponents.TraceAgent.Feeds
import ServerlessComponents.TraceAgent.PayloadSplitting

/-!
# The order of a request's traces

The enqueue tasks of the requests run side by side and share one channel, so the pieces of different
requests mix on their way to `send`. The pieces of one request keep their order: a prefix of them
has been sent, and all of them once none is in flight.

## Main results

* `requests_ordered` — for every request that is answered with buffered traces.
-/
namespace ServerlessComponents.TraceAgent

open Numbered (Apart inRound ofRound ofRounds)

variable {D R X G K H L W P : Type}

namespace TracePipeline

/-- The pieces of each request stand in line as they were spawned; `inFlight` has the channel before
the tasks that fill it. -/
structure Ordered (s : TracePipeline P) : Prop where
  apart : Apart s.enqueues
  line : ∀ round, inRound round (s.handed.flatten ++ s.inFlight) =
    inRound round (ofRounds 0 s.spawned)
  accounted : s.Accounted

variable {len : P → Nat} {s s' : TracePipeline P}

theorem Accounted.round_lt (accounted : s.Accounted) {piece : Numbered P}
    (waits : piece ∈ s.inFlight) : piece.round < s.spawned.length := by
  have spawned : piece ∈ ofRounds 0 s.spawned :=
    accounted.pieces.mem_iff.2 (List.mem_append_right _ waits)
  obtain ⟨-, items, found, -⟩ := Numbered.round_of_mem_ofRounds 0 _ spawned
  exact (List.getElem?_eq_some_iff.1 found).1

theorem ordered_spawn (start : s.Ordered) (sendDatas : List P) : (s.spawn sendDatas).Ordered := by
  refine ⟨start.apart.concat ?_, ?_, accounted_effect start.accounted (effect_spawn sendDatas)⟩
  · intro piece waits piece' new
    rw [Numbered.round_of_mem_ofRound _ _ new]
    exact (start.accounted.round_lt (List.mem_append_right _ waits)).ne
  · intro round
    have line := start.line round
    simp only [spawn, inFlight, List.flatten_append, List.flatten_singleton, ← List.append_assoc,
      Numbered.ofRounds_append, Numbered.ofRounds, Nat.zero_add, List.append_nil,
      Numbered.inRound_append] at line ⊢
    rw [line]

theorem Ordered.same (start : s.Ordered) (effect : Effect s s')
    (enqueues : s'.enqueues = s.enqueues) (spawned : s'.spawned = s.spawned)
    (line : s'.handed.flatten ++ s'.inFlight = s.handed.flatten ++ s.inFlight) : s'.Ordered := by
  refine ⟨enqueues ▸ start.apart, ?_, accounted_effect start.accounted effect⟩
  intro round
  rw [line, spawned]
  exact start.line round

theorem takeBatch_fields : (s.takeBatch len).enqueues = s.enqueues ∧
    (s.takeBatch len).spawned = s.spawned := by
  simp only [takeBatch]
  split <;> exact ⟨rfl, rfl⟩

/-- The batch is the front of the queue. -/
theorem takeBatch_line (clear : s.aggregator.buffer = []) :
    (s.takeBatch len).handed.flatten ++ (s.takeBatch len).inFlight =
      s.handed.flatten ++ s.inFlight := by
  have front := TraceAggregator.getBatch_append (fun a : Numbered P => len a.item) s.aggregator
  rw [clear, List.nil_append] at front
  simp only [takeBatch]
  split
  next none_ =>
    rw [List.isEmpty_iff.1 none_, List.nil_append] at front
    simp [inFlight, front]
  next => simp [inFlight, ← front]

theorem ordered_takeBatch (start : s.Ordered) : (s.takeBatch len).Ordered :=
  start.same effect_takeBatch takeBatch_fields.1 takeBatch_fields.2
    (takeBatch_line start.accounted.buffer)

theorem ordered_step {a : TraceAction} (start : s.Ordered) (h : s.step len a = some s') :
    s'.Ordered := by
  have effect := effect_of_step h
  cases a with
  | enqueue task =>
    simp only [step] at h
    split at h
    next sendData left found =>
      split at h <;> cases h
      refine ⟨start.apart.set found, ?_, accounted_effect start.accounted effect⟩
      intro round
      -- the pieces before the tasks stay where they are
      have line := start.line round
      have turn := start.apart.inRound_set found round
      simp only [inFlight, ← List.append_assoc] at line ⊢
      rw [Numbered.inRound_append] at line
      rw [List.append_assoc _ [sendData], Numbered.inRound_append, List.singleton_append, turn,
        line]
    next => cases h
  | enqueueEnds task =>
    simp only [step] at h
    split at h <;> cases h
    next found =>
      refine ⟨start.apart.eraseIdx task, ?_, accounted_effect start.accounted effect⟩
      intro round
      have line := start.line round
      simpa [inFlight, releasePermit, Numbered.flatten_eraseIdx found] using line
  | recv =>
    simp only [step] at h
    split at h <;> cases h
    next tracerPayload rest free channel =>
      exact start.same effect rfl rfl (by simp [inFlight, free, channel])
  | add =>
    simp only [step] at h
    split at h
    next tracerPayload hand =>
      split at h <;> cases h
      exact start.same effect rfl rfl (by simp [inFlight, hand])
    next => cases h
  | wake =>
    simp only [step] at h
    split at h <;> cases h
    exact ordered_takeBatch start
  | sent =>
    simp only [step] at h
    split at h <;> cases h
    exact ordered_takeBatch start

theorem spawned_of_step {a : TraceAction} (h : s.step len a = some s') :
    s'.spawned = s.spawned := by
  cases a with
  | enqueue task =>
    simp only [step] at h
    split at h
    next => split at h <;> cases h; rfl
    next => cases h
  | add =>
    simp only [step] at h
    split at h
    next => split at h <;> cases h; rfl
    next => cases h
  | enqueueEnds task | recv =>
    simp only [step] at h
    split at h <;> cases h
    rfl
  | wake | sent =>
    simp only [step] at h
    split at h <;> cases h
    exact takeBatch_fields.2

/-- What `send` has been given of a request, in its order. -/
def sent (s : TracePipeline P) (round : Nat) : List P :=
  (inRound round s.handed.flatten).map Numbered.item

/-- What has been sent of a request and what is in flight of it make up all its pieces. -/
theorem Ordered.sent_append (ordered : s.Ordered) {round : Nat} {sendDatas : List P}
    (found : s.spawned[round]? = some sendDatas) :
    s.sent round ++ (inRound round s.inFlight).map Numbered.item = sendDatas := by
  have line := ordered.line round
  have spawned := Numbered.inRound_ofRounds 0 s.spawned found
  rw [Nat.zero_add] at spawned
  rw [Numbered.inRound_append, spawned] at line
  rw [sent, ← List.map_append, line, Numbered.map_item_ofRound]

end TracePipeline

/-! ## Requests -/

/-- The chunks of a piece, where its format has chunks. -/
def TracerPayloadCollection.chunks : TracerPayloadCollection D R X → List (TraceChunk D R)
  | .v07 tracerPayloads => tracerPayloads.flatMap (·.chunks)
  | _ => []

theorem chunks_splitTracerPayload (encodedLen : TracerPayload D R → Nat) (maxSize : Nat)
    (tp : TracerPayload D R) :
    (splitTracerPayload encodedLen maxSize tp.chunks.length tp).flatMap (·.chunks) = tp.chunks :=
  (splitInto_of_returns (splitReturns_of_le le_rfl)).chunks

/-- The pieces of a payload have its chunks in order. -/
theorem chunks_sendDatas (encodedLen : TracerPayload D R → Nat) (decoded : DecodedTraces D R X H) :
    (decoded.sendDatas encodedLen).flatMap (·.tracerPayload.chunks) = decoded.payload.chunks := by
  rw [DecodedTraces.sendDatas]
  cases payload : decoded.payload with
  | v07 tracerPayloads =>
    simp only [pieces, splitOversizedPayloads, List.map_map, List.flatMap_map, Function.comp_def,
      TracerPayloadCollection.chunks, List.flatMap_singleton, List.flatMap_assoc]
    exact List.flatMap_congr fun tp _ => chunks_splitTracerPayload encodedLen _ tp
  | v04 | v05 | v1 => simp [pieces, TracerPayloadCollection.chunks]

namespace MiniAgent

variable [DecidableEq L] {setup : MiniAgentSetup D R X G K H W} {s s' : MiniAgent D R X G K H L W}
  {a : Action H L}

/-- The pieces are those of what some request was decoded to and the rescue made of it. -/
def PiecesOf (setup : MiniAgentSetup D R X G K H W) (req : HttpRequest H)
    (payload : TracerPayloadCollection D R X) (sendDatas : List (SendData D R X H)) : Prop :=
  ∃ decoded, decodeTraces setup.config setup.traceUtils req = .ok decoded ∧
    Rescued setup decoded.payload payload ∧
    sendDatas = { decoded with payload }.sendDatas setup.traceUtils.encodedLen

/-- The traces of a request that came in: the pieces that `send` was given are the first ones, in
order, and the others are in flight; when none is, the chunks of the request have all been given to
`send` as they stood in it. -/
def SentInOrder (setup : MiniAgentSetup D R X G K H W) (actions : List (Action H L))
    (s : MiniAgent D R X G K H L W) (round : Nat) : Prop :=
  ∃ i req payload sendDatas, .request i req ∈ actions ∧
    PiecesOf setup req payload sendDatas ∧ s.traces.spawned[round]? = some sendDatas ∧
    s.traces.sent round ++ (inRound round s.traces.inFlight).map Numbered.item = sendDatas ∧
    ((∀ piece ∈ s.traces.inFlight, piece.round ≠ round) →
      (s.traces.sent round).flatMap (·.tracerPayload.chunks) = payload.chunks)

/-- The pieces keep their order; each spawned task has the pieces of a request, as has each handler
that carries traces, and each handler that has a request got it in an action of the run. -/
structure OrderTracked (setup : MiniAgentSetup D R X G K H W) (actions : List (Action H L))
    (s : MiniAgent D R X G K H L W) : Prop where
  ordered : s.traces.Ordered
  made : ∀ sendDatas ∈ s.traces.spawned, ∃ i req payload,
    .request i req ∈ actions ∧ PiecesOf setup req payload sendDatas
  carried : ∀ i decoded, (s.handler i).carriedTraces = some decoded →
    ∃ req, .request i req ∈ actions ∧
      decodeTraces setup.config setup.traceUtils req = .ok decoded
  requested : ∀ i req, (s.handler i).tracesRequest = some req → .request i req ∈ actions
  promises : s.Promises

variable {actions : List (Action H L)}

omit [DecidableEq L] in
theorem orderTracked_init (rescueState : W) :
    OrderTracked setup actions (init rescueState : MiniAgent D R X G K H L W) where
  ordered := ⟨List.Pairwise.nil, fun _ => rfl, ⟨.refl _, rfl⟩⟩
  made := by simp [init]
  carried := by simp [init, HandlerPhase.carriedTraces]
  requested := by simp [init, HandlerPhase.tracesRequest]
  promises := promises_init rescueState

theorem spawned_of_feeds {stats : StatsPipeline D R G K L}
    {traces : TracePipeline (SendData D R X H)} (start : s.OrderTracked setup actions)
    (feeds : Feeds setup s stats traces) :
    traces.Ordered ∧ ∀ sendDatas ∈ traces.spawned, ∃ i req payload,
      .request i req ∈ actions ∧ PiecesOf setup req payload sendDatas := by
  cases feeds with
  | permits enqueuePermits =>
    exact ⟨start.ordered.same (TracePipeline.effect_permit _) rfl rfl rfl, start.made⟩
  | spawns i decoded payload carries rescued =>
    refine ⟨TracePipeline.ordered_spawn start.ordered _, ?_⟩
    intro sendDatas mem
    rcases List.mem_append.1 mem with old | new
    · exact start.made sendDatas old
    · obtain ⟨req, requested, decodes⟩ := start.carried i decoded carries
      exact ⟨i, req, payload, requested, decoded, decodes, rescued, List.mem_singleton.1 new⟩
  | traces action ran =>
    refine ⟨TracePipeline.ordered_step start.ordered ran, ?_⟩
    rw [TracePipeline.spawned_of_step ran]
    exact start.made
  | _ => exact ⟨start.ordered, start.made⟩

theorem orderTracked_step (start : s.OrderTracked setup actions) (mem : a ∈ actions)
    (h : s.step setup a = some s') : s'.OrderTracked setup actions := by
  obtain ⟨feeds, carries⟩ := feeds_of_act (act_of_step h).2
  obtain ⟨ordered, made⟩ := spawned_of_feeds start feeds
  refine ⟨ordered, made, ?_, ?_, promises_effect start.promises (effect_of_act (act_of_step h).2)⟩
  · intro i decoded carried
    rcases (carries i).traces decoded carried with before | ⟨req, had, decodes⟩
    · exact start.carried i decoded before
    · exact ⟨req, start.requested i req had, decodes⟩
  · intro i req has
    rcases (carries i).request req has with had | rfl
    · exact start.requested i req had
    · exact mem

/-- In every run, the traces of every request that was answered as buffered are given to `send` in
their order, however the requests interleave. -/
theorem requests_ordered (setup : MiniAgentSetup D R X G K H W) (rescueState : W)
    (actions : List (Action H L)) (s : MiniAgent D R X G K H L W)
    (run : Runs.exec (step setup) (init rescueState) actions = some s) (answer : Answer)
    (answered : answer ∈ s.answered) (buffered : answer.response = .tracesBuffered) :
    ∃ round, answer.receipt = .traces round ∧ s.SentInOrder setup actions round := by
  have tracked : s.OrderTracked setup actions :=
    Runs.invariant_along (fun _ _ _ => orderTracked_step) (orderTracked_init rescueState)
      (Runs.along_of_forall (fun _ mem => mem) _) run
  obtain ⟨round, lt, receipt⟩ := (tracked.promises.answered answer answered).traces buffered
  have found := List.getElem?_eq_getElem lt
  obtain ⟨i, req, payload, requested, made⟩ := tracked.made _ (List.getElem_mem lt)
  have all := tracked.ordered.sent_append found
  refine ⟨round, receipt, i, req, payload, _, requested, made, found, all, ?_⟩
  intro landed
  obtain ⟨decoded, -, -, pieces⟩ := made
  rw [Numbered.inRound_eq_nil round landed, List.map_nil, List.append_nil] at all
  rw [all, pieces]
  exact chunks_sendDatas _ _

/-- An agent whose libraries know one body, of two chunks that are too large for one piece. -/
def twoChunkSetup : MiniAgentSetup Unit Unit Unit Unit Unit Unit Unit where
  config := ⟨"", 1000, false, none, some "key"⟩
  utils := ⟨fun _ => .error "", fun stats => ⟨"", "", stats, "", true, false⟩, fun _ => .ok []⟩
  concentrator := ⟨fun _ => (), fun _ _ => (), fun _ _ _ => ([], ())⟩
  statsConcentrator := false
  traceUtils :=
    { Traces := Unit
      getTracesFromRequestBody := fun _ => .ok (128, ())
      collectPbTraceChunks := fun _ _ =>
        let chunks := [⟨1, "", [], ∅, false⟩, ⟨2, "", [], ∅, false⟩]
        .ok (.v07 [⟨"", "go", "", "", "", chunks, ∅, "", "", ""⟩])
      getRootSpanIndex := fun _ => .error ""
      encodedLen := fun tp => 3000000 * tp.chunks.length }
  rescue := fun w payload _ => some (payload, w)

/-- Two clients post traces, and their enqueue tasks take turns. -/
def twoInterleaved : List (Action Unit Unit) :=
  let req : HttpRequest Unit := ⟨"POST", "/v0.4/traces", ⟨some (some "128"), false, ()⟩, .ok []⟩
  [.accept, .accept, .request 0 req, .request 1 req, .resume 0 0, .resume 0 0, .resume 0 0,
    .resume 0 0, .answer 0, .resume 1 0, .resume 1 0, .resume 1 0, .resume 1 0, .answer 1,
    .traces (.enqueue 1), .traces (.enqueue 0), .traces (.enqueue 1), .traces .recv, .traces .add,
    .traces .recv, .traces .add, .traces .wake]

theorem requests_ordered_two :
    ∃ s, Runs.exec (step twoChunkSetup) (init ()) twoInterleaved = some s ∧
      (s.traces.sent 1).length = 1 ∧
      ∃ round, (.traces 1 : Receipt) = .traces round ∧
        s.SentInOrder twoChunkSetup twoInterleaved round :=
  ⟨_, rfl, rfl, requests_ordered twoChunkSetup () twoInterleaved _ rfl ⟨.tracesBuffered, .traces 1⟩
    (List.mem_cons_of_mem _ List.mem_cons_self) rfl⟩

end MiniAgent

end ServerlessComponents.TraceAgent
