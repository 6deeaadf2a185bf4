import ServerlessComponents.TraceAgent.MiniAgent

/-!
# What the handlers put into the pipelines

An action of the agent either is a step of one of the two pipelines or puts something into them. A
handler sends stats only where it carries a tracer's stats, and it spawns an enqueue task only with
the pieces of the payload of its own request.

## Main results

* `feeds_of_act` — what an action does to the pipelines and what the handlers carry after it.
-/
namespace ServerlessComponents.TraceAgent

variable {D R X G K H L W : Type}

namespace HandlerPhase

/-- The handler carries a tracer's stats to the channel. -/
def carriesStats : HandlerPhase D R X G H L → Bool
  | .readingStats _ | .sendingStats _ => true
  | _ => false

/-- The request of which the handler has the traces to decode. -/
def tracesRequest : HandlerPhase D R X G H L → Option (HttpRequest H)
  | .acquiring req | .readingTraces req => some req
  | _ => none

/-- The traces the handler has decoded. -/
def carriedTraces : HandlerPhase D R X G H L → Option (DecodedTraces D R X H)
  | .addingChunks decoded _ | .rescuing decoded => some decoded
  | _ => none

theorem carries_begin {config : Config} {req : HttpRequest H}
    (carries : (begin config req : HandlerPhase D R X G H L).carriesStats) :
    config.agentStatsComputationEnabled = false := by
  unfold begin at carries
  split at carries
  next => split at carries <;> cases carries
  next =>
    split at carries
    next => cases carries
    next off => simpa using off
  next => cases carries

theorem carriedTraces_begin {config : Config} {req : HttpRequest H} :
    (begin config req : HandlerPhase D R X G H L).carriedTraces = none := by
  unfold begin
  split
  next => split <;> rfl
  next =>
    split
    next => rfl
    next => split <;> rfl
  next => rfl

theorem tracesRequest_begin {config : Config} {req req' : HttpRequest H}
    (h : (begin config req : HandlerPhase D R X G H L).tracesRequest = some req') : req = req' := by
  unfold begin at h
  split at h
  next =>
    split at h <;> cases h
    rfl
  next =>
    split at h
    next => cases h
    next => split at h <;> cases h
  next => cases h

end HandlerPhase

namespace MiniAgent

/-- What the error rescue makes of a payload, whatever it knows by then. -/
def Rescued (setup : MiniAgentSetup D R X G K H W)
    (payload payload' : TracerPayloadCollection D R X) : Prop :=
  ∃ rescueState clock after, setup.rescue rescueState payload clock = some (payload', after)

variable [DecidableEq L] {setup : MiniAgentSetup D R X G K H W} {s s' : MiniAgent D R X G K H L W}
  {a : Action H L} {i : Nat}

/-- What an action of the agent does to the two pipelines. -/
inductive Feeds (setup : MiniAgentSetup D R X G K H W) (s : MiniAgent D R X G K H L W) :
    StatsPipeline D R G K L → TracePipeline (SendData D R X H) → Prop
  | permits (enqueuePermits : Nat) : Feeds setup s s.stats { s.traces with enqueuePermits }
  | fireShutdown : Feeds setup s s.stats.fireShutdown s.traces
  | chunk (chunk : TraceChunk D R) (metadata : TracerMetadata L) :
      Feeds setup s (s.stats.addChunk setup.toStatsSetup chunk metadata) s.traces
  | clientStats (i : Nat) (stats : ClientStatsPayload G) (carries : (s.handler i).carriesStats) :
      Feeds setup s (s.stats.push stats) s.traces
  | spawns (i : Nat) (decoded : DecodedTraces D R X H) (payload : TracerPayloadCollection D R X)
      (carries : (s.handler i).carriedTraces = some decoded)
      (rescued : Rescued setup decoded.payload payload) :
      Feeds setup s s.stats
        (s.traces.spawn ({ decoded with payload }.sendDatas setup.traceUtils.encodedLen))
  | stats (action : StatsAction L) {stats}
      (ran : s.stats.step setup.toStatsSetup action = some stats) : Feeds setup s stats s.traces
  | traces (action : TraceAction) {traces}
      (ran : s.traces.step SendData.size action = some traces) : Feeds setup s s.stats traces

/-- A handler that goes on carries only what it may: stats if it did or the tracers' stats are
taken, the traces of its request, and a request that it had or gets now. -/
structure Carries (setup : MiniAgentSetup D R X G K H W) (a : Action H L) (i : Nat)
    (before after : HandlerPhase D R X G H L) : Prop where
  stats : after.carriesStats →
    before.carriesStats ∨ setup.config.agentStatsComputationEnabled = false
  request : ∀ req, after.tracesRequest = some req →
    before.tracesRequest = some req ∨ a = .request i req
  traces : ∀ decoded, after.carriedTraces = some decoded → before.carriedTraces = some decoded ∨
    ∃ req, before.tracesRequest = some req ∧
      decodeTraces setup.config setup.traceUtils req = .ok decoded

omit [DecidableEq L] in
theorem Carries.refl (p : HandlerPhase D R X G H L) : Carries setup a i p p :=
  ⟨.inl, fun _ => .inl, fun _ => .inl⟩

omit [DecidableEq L] in
theorem Carries.nothing {p p' : HandlerPhase D R X G H L} (stats : p'.carriesStats = false)
    (request : p'.tracesRequest = none) (traces : p'.carriedTraces = none) :
    Carries setup a i p p' :=
  ⟨by simp [stats], by simp [request], by simp [traces]⟩

omit [DecidableEq L] in
theorem Carries.update {p : HandlerPhase D R X G H L} (here : Carries setup a i (s.handler i) p)
    (j : Nat) : Carries setup a j (s.handler j) (Function.update s.handler i p j) := by
  by_cases same : j = i
  · subst same
    simpa using here
  · simpa [same] using Carries.refl (s.handler j)

omit [DecidableEq L] in
theorem permits_endHandler (p : HandlerPhase D R X G H L) :
    ∃ enqueuePermits, (s.endHandler i p).traces = { s.traces with enqueuePermits } := by
  simp only [endHandler]
  split
  · exact ⟨_, rfl⟩
  · exact ⟨s.traces.enqueuePermits, rfl⟩

/-- A handler is dropped, panics or is answered with an error. -/
theorem feeds_endHandler {p : HandlerPhase D R X G H L} (stats : p.carriesStats = false)
    (request : p.tracesRequest = none) (traces : p.carriedTraces = none) :
    Feeds setup s (s.endHandler i p).stats (s.endHandler i p).traces ∧
      ∀ j, Carries setup a j (s.handler j) ((s.endHandler i p).handler j) := by
  obtain ⟨enqueuePermits, e⟩ := permits_endHandler (s := s) (i := i) p
  rw [e]
  exact ⟨.permits enqueuePermits, (Carries.nothing stats request traces).update⟩

/-- A handler goes on and leaves the pipelines as they are, permits apart. -/
theorem feeds_turn {p : HandlerPhase D R X G H L} {enqueuePermits : Nat}
    (here : Carries setup a i (s.handler i) p) :
    Feeds setup s s.stats { s.traces with enqueuePermits } ∧
      ∀ j, Carries setup a j (s.handler j) (Function.update s.handler i p j) :=
  ⟨.permits enqueuePermits, here.update⟩

theorem feeds_resume {clock : Nat} (h : s.resume setup i clock = some s') :
    Feeds setup s s'.stats s'.traces ∧ ∀ j, Carries setup a j (s.handler j) (s'.handler j) := by
  unfold resume at h
  split at h
  next =>
    cases h
    exact feeds_turn (.nothing rfl rfl rfl)
  next req phase =>
    split at h <;> cases h
    · exact feeds_turn (.nothing rfl rfl rfl)
    · refine feeds_turn ⟨fun _ => .inl ?_, nofun, nofun⟩
      simp [phase, HandlerPhase.carriesStats]
  next stats phase =>
    have carries : (s.handler i).carriesStats := by simp [phase, HandlerPhase.carriesStats]
    split at h
    next =>
      cases h
      exact feeds_turn (.nothing rfl rfl rfl)
    next =>
      split at h <;> cases h
      exact ⟨.clientStats i stats carries, (Carries.nothing rfl rfl rfl).update⟩
  next req phase =>
    split at h <;> cases h
    refine feeds_turn ⟨nofun, ?_, nofun⟩
    rintro _ ⟨⟩
    exact .inl (by simp [phase, HandlerPhase.tracesRequest])
  next req phase =>
    split at h <;> cases h
    next => exact feeds_endHandler rfl rfl rfl
    next decoded decodes =>
      refine feeds_turn ⟨nofun, nofun, ?_⟩
      rintro _ ⟨⟩
      exact .inr ⟨req, by simp [phase, HandlerPhase.tracesRequest], decodes⟩
  next decoded phase =>
    cases h
    refine feeds_turn ⟨nofun, nofun, ?_⟩
    rintro _ ⟨⟩
    exact .inl (by simp [phase, HandlerPhase.carriedTraces])
  next =>
    cases h
    exact feeds_endHandler rfl rfl rfl
  next decoded chunk metadata left phase =>
    cases h
    refine ⟨.chunk chunk metadata, Carries.update ⟨nofun, nofun, ?_⟩⟩
    rintro _ ⟨⟩
    exact .inl (by simp [phase, HandlerPhase.carriedTraces])
  next decoded phase =>
    split at h <;> cases h
    next => exact feeds_endHandler rfl rfl rfl
    next payload rescueState rescued =>
      refine ⟨.spawns i decoded payload ?_ ⟨_, _, _, rescued⟩,
        (Carries.nothing rfl rfl rfl).update⟩
      simp [phase, HandlerPhase.carriedTraces]
  next =>
    cases h
    exact feeds_turn (.nothing rfl rfl rfl)
  next => cases h

/-- What an action does to the pipelines, and what the handlers carry after it. -/
theorem feeds_of_act (h : s.act setup a = some s') :
    Feeds setup s s'.stats s'.traces ∧ ∀ j, Carries setup a j (s.handler j) (s'.handler j) := by
  have untouched : Feeds setup s s.stats s.traces ∧
      ∀ j, Carries setup a j (s.handler j) (s.handler j) :=
    ⟨.permits s.traces.enqueuePermits, fun j => .refl _⟩
  cases a with
  | shutdown =>
    cases h
    exact untouched
  | request i req =>
    simp only [act] at h
    split at h <;> cases h
    refine feeds_turn ⟨fun carries => .inr (HandlerPhase.carries_begin carries), ?_, ?_⟩
    · intro req' begins
      rw [HandlerPhase.tracesRequest_begin begins]
      exact .inr rfl
    · intro decoded carries
      cases HandlerPhase.carriedTraces_begin.symm.trans carries
  | resume i clock => exact feeds_resume h
  | close i =>
    simp only [act] at h
    split at h <;> cases h
    exact feeds_endHandler rfl rfl rfl
  | panic i =>
    simp only [act] at h
    split at h <;> cases h
    exact feeds_endHandler rfl rfl rfl
  | accept | permitTimeout | answer =>
    simp only [act] at h
    split at h <;> cases h
    exact feeds_turn (.nothing rfl rfl rfl)
  | stats action =>
    obtain ⟨stats, ran, rfl⟩ := Option.map_eq_some_iff.1 h
    exact ⟨.stats action ran, untouched.2⟩
  | traces action =>
    obtain ⟨traces, ran, rfl⟩ := Option.map_eq_some_iff.1 h
    exact ⟨.traces action ran, untouched.2⟩
  | serveSeesTransport =>
    simp only [act] at h
    split at h <;> cases h
    exact ⟨.fireShutdown, untouched.2⟩
  | _ =>
    simp only [act] at h
    split at h <;> cases h
    all_goals exact untouched

end MiniAgent

end ServerlessComponents.TraceAgent
