import ServerlessComponents.TraceAgent.Processors

/-!
# From the stats handlers to the intake

The bounded channel of client stats, the stats flusher of `stats_flusher.rs` and the queue of the
concentrator service, from one `await` to the next. Client stats reach the intake through the
flusher's buffer, the spans of the chunks through the concentrators and the reply to a flush.
-/
namespace ServerlessComponents.TraceAgent

open LogsAgent (Bytes)

variable {D R G K L : Type}

def STATS_PAYLOAD_CHANNEL_BUFFER_SIZE : Nat := 10

/-- A call of `send_stats_payload`, by what the payload is built from. -/
structure Shipment (G : Type) where
  clientComputed : Bool
  stats : List (ClientStatsPayload G)

/-- The payload the call is given. -/
def Shipment.payload (utils : StatsUtils G) (s : Shipment G) : StatsPayload G :=
  if s.clientComputed then utils.constructStatsPayload s.stats
  else { utils.constructStatsPayload s.stats with clientComputed := false }

/-- Where `start_stats_flusher` is. -/
inductive StatsFlusherPhase (G : Type) where
  | selecting
  /-- The `try_recv` loop of the shutdown branch. -/
  | draining
  /-- `flush_stats` has been called. -/
  | flushing (forceFlush : Bool) (clientStats : List (ClientStatsPayload G))
  /-- The concentrator is to be flushed next. -/
  | requesting (forceFlush : Bool)
  | awaiting (forceFlush : Bool)
  /-- At the end of `flush_stats`. -/
  | finishing (forceFlush : Bool)
  | returned
  | panicked

/-- What the pipeline is set up with; `statsConcentrator` tells whether the service was started. -/
structure StatsSetup (D R G K : Type) where
  config : Config
  utils : StatsUtils G
  concentrator : SpanConcentrator D R G K
  statsConcentrator : Bool

inductive StatsAction (L : Type) where
  | recv
  | tick
  | seeShutdown
  | tryRecv
  | flushClients
  | request
  /-- The concentrator service takes its next command. -/
  | serve (now : Nat) (clock : TracerMetadata L → Nat)
  | takeReply
  | finish

/-- The pipeline with what was put into it (`buffered`, `handed`) and what came out of it. -/
structure StatsPipeline (D R G K L : Type) where
  channel : List (ClientStatsPayload G) := []
  buffer : List (ClientStatsPayload G) := []
  phase : StatsFlusherPhase G := .selecting
  /-- The oneshot of the supervisor has fired. -/
  shutdown : Bool := false
  commands : List (ConcentratorCommand D R L) := []
  concentrators : Concentrators K L := ∅
  reply : Option (List (ClientStatsPayload G)) := none
  given : List (Shipment G) := []
  intake : List Bytes := []
  buffered : List (ClientStatsPayload G) := []
  handed : List (TraceChunk D R) := []

namespace StatsPipeline

section Step

variable (setup : StatsSetup D R G K)

/-- The receiver is gone. -/
def isClosed (s : StatsPipeline D R G K L) : Bool :=
  match s.phase with
  | .returned | .panicked => true
  | _ => false

def isFull (s : StatsPipeline D R G K L) : Bool :=
  STATS_PAYLOAD_CHANNEL_BUFFER_SIZE ≤ s.channel.length

/-- `send` on the channel of client stats. -/
def push (s : StatsPipeline D R G K L) (stats : ClientStatsPayload G) : StatsPipeline D R G K L :=
  { s with channel := s.channel ++ [stats], buffered := s.buffered ++ [stats] }

/-- `add_chunk` on the handle, if there is one. -/
def addChunk (s : StatsPipeline D R G K L) (chunk : TraceChunk D R) (metadata : TracerMetadata L) :
    StatsPipeline D R G K L :=
  if setup.statsConcentrator then
    { s with commands := s.commands ++ [.addChunk chunk metadata], handed := s.handed ++ [chunk] }
  else s

def fireShutdown (s : StatsPipeline D R G K L) : StatsPipeline D R G K L :=
  { s with shutdown := true }

/-- `send_stats_payload`; the `unwrap` of a missing API key panics. -/
def give (s : StatsPipeline D R G K L) (shipment : Shipment G) (next : StatsFlusherPhase G) :
    StatsPipeline D R G K L :=
  let s := { s with given := s.given ++ [shipment] }
  match setup.utils.serializeStatsPayload (shipment.payload setup.utils) with
  | .error _ => { s with phase := next }
  | .ok serialized =>
    match setup.config.statsApiKey with
    | none => { s with phase := .panicked }
    | some _ => { s with intake := s.intake ++ [serialized], phase := next }

def step [DecidableEq L] (s : StatsPipeline D R G K L) :
    StatsAction L → Option (StatsPipeline D R G K L)
  | .recv =>
    match s.phase, s.channel with
    | .selecting, stats :: rest => some { s with channel := rest, buffer := s.buffer ++ [stats] }
    | _, _ => none
  | .tick =>
    match s.phase with
    | .selecting =>
      if s.buffer.isEmpty && !setup.statsConcentrator then some s
      else some { s with buffer := [], phase := .flushing false s.buffer }
    | _ => none
  | .seeShutdown =>
    match s.phase, s.shutdown with
    | .selecting, true => some { s with phase := .draining }
    | _, _ => none
  | .tryRecv =>
    match s.phase, s.channel with
    | .draining, stats :: rest => some { s with channel := rest, buffer := s.buffer ++ [stats] }
    | .draining, [] => some { s with buffer := [], phase := .flushing true s.buffer }
    | _, _ => none
  | .flushClients =>
    match s.phase with
    | .flushing forceFlush [] => some { s with phase := .requesting forceFlush }
    | .flushing forceFlush clientStats =>
      some (s.give setup ⟨true, clientStats⟩ (.requesting forceFlush))
    | _ => none
  | .request =>
    match s.phase with
    | .requesting forceFlush =>
      if setup.statsConcentrator then
        some { s with
          commands := s.commands ++ [.flush forceFlush], phase := .awaiting forceFlush }
      else some { s with phase := .finishing forceFlush }
    | _ => none
  | .serve now clock =>
    match s.commands with
    | [] => none
    | .addChunk chunk metadata :: rest =>
      some { s with
        commands := rest
        concentrators := s.concentrators.addChunk setup.concentrator now chunk metadata }
    | .flush forceFlush :: rest =>
      let (payloads, concentrators) :=
        s.concentrators.handleFlush setup.concentrator setup.config.env clock forceFlush
      some { s with commands := rest, concentrators, reply := some payloads }
  | .takeReply =>
    match s.phase, s.reply with
    | .awaiting forceFlush, some [] =>
      some { s with reply := none, phase := .finishing forceFlush }
    | .awaiting forceFlush, some agentStats =>
      some ({ s with reply := none }.give setup ⟨false, agentStats⟩ (.finishing forceFlush))
    | _, _ => none
  | .finish =>
    match s.phase with
    | .finishing true => some { s with phase := .returned }
    | .finishing false => some { s with phase := .selecting }
    | _ => none

/-- The calls of `send_stats_payload` for client stats, or for agent stats. -/
def givenBy (clientComputed : Bool) (s : StatsPipeline D R G K L) : List (Shipment G) :=
  s.given.filter (·.clientComputed = clientComputed)

end Step

/-! ## What a step does -/

@[simp] theorem addChunk_shutdown (setup : StatsSetup D R G K) (s : StatsPipeline D R G K L)
    (chunk : TraceChunk D R) (metadata : TracerMetadata L) :
    (s.addChunk setup chunk metadata).shutdown = s.shutdown := by
  unfold addChunk
  split <;> rfl

/-- Nothing is put into the pipeline in a step. -/
structure NothingIn (s s' : StatsPipeline D R G K L) : Prop where
  buffered : s'.buffered = s.buffered
  handed : s'.handed = s.handed

/-- The pipeline after a call of `send_stats_payload`. -/
structure Gives (s : StatsPipeline D R G K L) (shipment : Shipment G) (next : StatsFlusherPhase G)
    (setup : StatsSetup D R G K) (s' : StatsPipeline D R G K L) : Prop where
  given : s'.given = s.given ++ [shipment]
  phase : s'.phase = next ∨ s'.phase = .panicked
  intake : s'.phase = .panicked ∨ s'.intake = s.intake ++
    (setup.utils.serializeStatsPayload (shipment.payload setup.utils)).toOption.toList
  channel : s'.channel = s.channel
  buffer : s'.buffer = s.buffer
  shutdown : s'.shutdown = s.shutdown
  commands : s'.commands = s.commands
  concentrators : s'.concentrators = s.concentrators
  reply : s'.reply = s.reply
  buffered : s'.buffered = s.buffered
  handed : s'.handed = s.handed

theorem gives_give (setup : StatsSetup D R G K) (s : StatsPipeline D R G K L)
    (shipment : Shipment G) (next : StatsFlusherPhase G) :
    s.Gives shipment next setup (s.give setup shipment next) := by
  unfold give
  split
  next err failed =>
    exact ⟨rfl, .inl rfl, .inr (by simp [failed, Except.toOption]), rfl, rfl, rfl, rfl, rfl, rfl,
      rfl, rfl⟩
  next serialized ok =>
    split
    next => exact ⟨rfl, .inr rfl, .inl rfl, rfl, rfl, rfl, rfl, rfl, rfl, rfl, rfl⟩
    next =>
      exact ⟨rfl, .inl rfl, .inr (by simp [ok, Except.toOption]), rfl, rfl, rfl, rfl, rfl, rfl, rfl,
        rfl⟩

/-- Everything that can happen to the pipeline: what the handlers and the supervisor do to it, and
its own steps. -/
inductive Effect [DecidableEq L] (setup : StatsSetup D R G K) (s : StatsPipeline D R G K L) :
    StatsPipeline D R G K L → Prop
  | push (stats : ClientStatsPayload G) : Effect setup s (s.push stats)
  | addChunk (chunk : TraceChunk D R) (metadata : TracerMetadata L) :
      Effect setup s (s.addChunk setup chunk metadata)
  | fireShutdown : Effect setup s s.fireShutdown
  | idle : Effect setup s s
  | recv (stats : ClientStatsPayload G) (rest : List (ClientStatsPayload G))
      (receives : s.phase = .selecting ∨ s.phase = .draining)
      (channel : s.channel = stats :: rest) :
      Effect setup s { s with channel := rest, buffer := s.buffer ++ [stats] }
  | tick (phase : s.phase = .selecting) :
      Effect setup s { s with buffer := [], phase := .flushing false s.buffer }
  | drain (phase : s.phase = .selecting) (shutdown : s.shutdown = true) :
      Effect setup s { s with phase := .draining }
  | drained (phase : s.phase = .draining) (channel : s.channel = []) :
      Effect setup s { s with buffer := [], phase := .flushing true s.buffer }
  | noClients (forceFlush : Bool) (phase : s.phase = .flushing forceFlush []) :
      Effect setup s { s with phase := .requesting forceFlush }
  | giveClients {s'} (forceFlush : Bool) (clientStats : List (ClientStatsPayload G))
      (phase : s.phase = .flushing forceFlush clientStats)
      (gives : s.Gives ⟨true, clientStats⟩ (.requesting forceFlush) setup s') : Effect setup s s'
  | request (forceFlush : Bool) (phase : s.phase = .requesting forceFlush)
      (started : setup.statsConcentrator = true) :
      Effect setup s { s with
        commands := s.commands ++ [.flush forceFlush], phase := .awaiting forceFlush }
  | noConcentrator (forceFlush : Bool) (phase : s.phase = .requesting forceFlush)
      (absent : setup.statsConcentrator = false) :
      Effect setup s { s with phase := .finishing forceFlush }
  | serveChunk (chunk : TraceChunk D R) (metadata : TracerMetadata L)
      (rest : List (ConcentratorCommand D R L)) (now : Nat)
      (commands : s.commands = .addChunk chunk metadata :: rest) :
      Effect setup s { s with
        commands := rest
        concentrators := s.concentrators.addChunk setup.concentrator now chunk metadata }
  | serveFlush (forceFlush : Bool) (rest : List (ConcentratorCommand D R L))
      (clock : TracerMetadata L → Nat) (commands : s.commands = .flush forceFlush :: rest) :
      Effect setup s { s with
        commands := rest
        concentrators := (s.concentrators.handleFlush setup.concentrator setup.config.env clock
          forceFlush).2
        reply := some (s.concentrators.handleFlush setup.concentrator setup.config.env clock
          forceFlush).1 }
  | noAgentStats (forceFlush : Bool) (phase : s.phase = .awaiting forceFlush)
      (reply : s.reply = some []) :
      Effect setup s { s with reply := none, phase := .finishing forceFlush }
  | giveAgentStats {s'} (forceFlush : Bool) (agentStats : List (ClientStatsPayload G))
      (phase : s.phase = .awaiting forceFlush) (reply : s.reply = some agentStats)
      (gives : { s with reply := none }.Gives ⟨false, agentStats⟩ (.finishing forceFlush) setup
        s') : Effect setup s s'
  | returns (phase : s.phase = .finishing true) : Effect setup s { s with phase := .returned }
  | loops (phase : s.phase = .finishing false) : Effect setup s { s with phase := .selecting }

theorem effect_of_step [DecidableEq L] {setup : StatsSetup D R G K} {s s' : StatsPipeline D R G K L}
    {a : StatsAction L} (h : s.step setup a = some s') : Effect setup s s' := by
  cases a with
  | recv =>
    simp only [step] at h
    split at h <;> cases h
    next stats rest phase channel => exact .recv stats rest (.inl phase) channel
  | tick =>
    simp only [step] at h
    split at h
    next phase =>
      split at h <;> cases h
      · exact .idle
      · exact .tick phase
    next => cases h
  | seeShutdown =>
    simp only [step] at h
    split at h <;> cases h
    next phase shutdown => exact .drain phase shutdown
  | tryRecv =>
    simp only [step] at h
    split at h <;> cases h
    next stats rest phase channel => exact .recv stats rest (.inr phase) channel
    next phase channel => exact .drained phase channel
  | flushClients =>
    simp only [step] at h
    split at h <;> cases h
    next forceFlush phase => exact .noClients forceFlush phase
    next forceFlush clientStats _ phase =>
      exact .giveClients forceFlush clientStats phase (gives_give ..)
  | request =>
    simp only [step] at h
    split at h
    next forceFlush phase =>
      split at h <;> cases h
      next started => exact .request forceFlush phase started
      next absent => exact .noConcentrator forceFlush phase (by simpa using absent)
    next => cases h
  | serve now clock =>
    simp only [step] at h
    split at h
    next => cases h
    next chunk metadata rest commands =>
      cases h
      exact .serveChunk chunk metadata rest now commands
    next forceFlush rest commands =>
      cases h
      exact .serveFlush forceFlush rest clock commands
  | takeReply =>
    simp only [step] at h
    split at h <;> cases h
    next forceFlush phase reply => exact .noAgentStats forceFlush phase reply
    next forceFlush agentStats _ phase reply =>
      exact .giveAgentStats forceFlush agentStats phase reply (gives_give ..)
  | finish =>
    simp only [step] at h
    split at h <;> cases h
    next phase => exact .returns phase
    next phase => exact .loops phase

/-- The list of buffered stats only grows. -/
theorem buffered_prefix [DecidableEq L] {setup : StatsSetup D R G K}
    {s s' : StatsPipeline D R G K L} (effect : Effect setup s s') : s.buffered <+: s'.buffered := by
  cases effect with
  | push stats => exact List.prefix_append ..
  | addChunk chunk metadata =>
    unfold addChunk
    split <;> exact List.prefix_rfl
  | giveClients forceFlush clientStats phase gives => rw [gives.buffered]
  | giveAgentStats forceFlush agentStats phase reply gives => rw [gives.buffered]
  | _ => exact List.prefix_rfl

/-- The pipeline's own steps put nothing in and do not fire the oneshot. -/
theorem nothingIn_of_step [DecidableEq L] {setup : StatsSetup D R G K}
    {s s' : StatsPipeline D R G K L} {a : StatsAction L} (h : s.step setup a = some s') :
    s.NothingIn s' ∧ s'.shutdown = s.shutdown := by
  have gave (t : StatsPipeline D R G K L) (shipment : Shipment G) (next : StatsFlusherPhase G) :
      t.NothingIn (t.give setup shipment next) ∧
        (t.give setup shipment next).shutdown = t.shutdown := by
    have gives := gives_give setup t shipment next
    exact ⟨⟨gives.buffered, gives.handed⟩, gives.shutdown⟩
  cases a <;> simp only [step] at h
  case flushClients =>
    split at h <;> cases h
    · exact ⟨⟨rfl, rfl⟩, rfl⟩
    · exact gave ..
  case takeReply =>
    split at h <;> cases h
    · exact ⟨⟨rfl, rfl⟩, rfl⟩
    · obtain ⟨⟨buffered, handed⟩, shutdown⟩ := gave { s with reply := none } _ _
      exact ⟨⟨buffered, handed⟩, shutdown⟩
  all_goals
    repeat' split at h
    all_goals cases h
    all_goals exact ⟨⟨rfl, rfl⟩, rfl⟩

end StatsPipeline

end ServerlessComponents.TraceAgent
