import ServerlessComponents.TraceAgent.StatsFlusher

/-!
# What the stats pipeline holds

Client stats and spans are conserved: what was put into the pipeline is given to the intake or is
held at some place of the pipeline. Once the flusher has seen its shutdown and nothing more is put
in, the final flush leaves nothing behind.
-/
namespace ServerlessComponents.TraceAgent

variable {D R G K L : Type}

def TraceChunk.spanSet (chunk : TraceChunk D R) : Multiset (Span D R) := chunk.spans

/-- The spans a call of `send_stats_payload` carries the stats of. -/
def Shipment.spans (aggregated : G → Multiset (Span D R)) (s : Shipment G) : Multiset (Span D R) :=
  (s.stats.map (ClientStatsPayload.spans aggregated)).sum

namespace ConcentratorCommand

@[simp]
def spans : ConcentratorCommand D R L → Multiset (Span D R)
  | .addChunk chunk _ => chunk.spanSet
  | .flush _ => 0

@[simp]
def flush? : ConcentratorCommand D R L → Option Bool
  | .addChunk .. => none
  | .flush forceFlush => some forceFlush

end ConcentratorCommand

namespace StatsFlusherPhase

/-- The client stats `flush_stats` was called with and has not given yet. -/
@[simp]
def clientStats : StatsFlusherPhase G → List (ClientStatsPayload G)
  | .flushing _ stats => stats
  | _ => []

/-- The last look at the channel is over. -/
@[simp]
def Drained : StatsFlusherPhase G → Prop
  | .flushing forceFlush _ | .requesting forceFlush | .awaiting forceFlush
  | .finishing forceFlush => forceFlush = true
  | .returned => True
  | _ => False

/-- The flusher has taken the shutdown branch. -/
@[simp]
def ShuttingDown (phase : StatsFlusherPhase G) : Prop := phase = .draining ∨ phase.Drained

end StatsFlusherPhase

namespace StatsPipeline

section Accounting

variable (setup : StatsSetup D R G K) (kept : K → Multiset (Span D R))
  (aggregated : G → Multiset (Span D R))

/-- The flush the flusher waits for and the service has not served. -/
@[simp]
def pendingFlush (s : StatsPipeline D R G K L) : List Bool :=
  match s.phase, s.reply with
  | .awaiting forceFlush, none => [forceFlush]
  | _, _ => []

/-- The buffered client stats were given, in their order, or wait at some place. -/
def ClientsAccounted (s : StatsPipeline D R G K L) : Prop :=
  s.buffered = (s.givenBy true).flatMap (·.stats) ++ s.phase.clientStats ++ s.buffer ++ s.channel

/-- The spans handed over were given or wait at some place. -/
def SpansAccounted (s : StatsPipeline D R G K L) : Prop :=
  (s.handed.map TraceChunk.spanSet).sum =
    ((s.givenBy false).map (Shipment.spans aggregated)).sum +
      ((s.reply.getD []).map (ClientStatsPayload.spans aggregated)).sum +
      s.concentrators.spans kept + (s.commands.map ConcentratorCommand.spans).sum

/-- What the flusher asks of the concentrator service is asked once, and there is nothing to ask
when the service was not started. -/
structure Asking (s : StatsPipeline D R G K L) : Prop where
  flushes : s.commands.filterMap ConcentratorCommand.flush? = s.pendingFlush
  reply : s.reply ≠ none → ∃ forceFlush, s.phase = .awaiting forceFlush
  unused : setup.statsConcentrator = false → s.commands = [] ∧ s.concentrators = ∅

/-- What was given and can be serialized was sent to the intake. -/
def Posted (s : StatsPipeline D R G K L) : Prop :=
  s.phase = .panicked ∨ s.intake = s.given.filterMap fun shipment =>
    (setup.utils.serializeStatsPayload (shipment.payload setup.utils)).toOption

/-- The final flush leaves nothing behind. -/
structure Settling (s : StatsPipeline D R G K L) : Prop where
  asked : s.phase.ShuttingDown → s.shutdown = true
  drained : s.phase.Drained → s.channel = [] ∧ s.buffer = []
  lastFlush : s.phase = .awaiting true → s.reply = none →
    ∃ earlier, s.commands = earlier ++ [.flush true]
  flushed : s.phase = .awaiting true ∧ s.reply ≠ none ∨ s.phase = .finishing true ∨
    s.phase = .returned → s.commands = [] ∧ s.concentrators.spans kept = 0

end Accounting

variable {setup : StatsSetup D R G K} {kept : K → Multiset (Span D R)}
  {aggregated : G → Multiset (Span D R)} {s s' : StatsPipeline D R G K L}

theorem addChunk_cases (setup : StatsSetup D R G K) (s : StatsPipeline D R G K L)
    (chunk : TraceChunk D R) (metadata : TracerMetadata L) :
    (setup.statsConcentrator = true ∧ s.addChunk setup chunk metadata =
      { s with
        commands := s.commands ++ [.addChunk chunk metadata], handed := s.handed ++ [chunk] }) ∨
    s.addChunk setup chunk metadata = s := by
  unfold addChunk
  split
  next started => exact .inl ⟨started, rfl⟩
  next => exact .inr rfl

@[simp] theorem givenBy_append (clientComputed : Bool) (shipment : Shipment G)
    (h : s'.given = s.given ++ [shipment]) :
    s'.givenBy clientComputed = s.givenBy clientComputed ++
      if shipment.clientComputed = clientComputed then [shipment] else [] := by
  simp [givenBy, h, List.filter_append, List.filter_singleton]

theorem Gives.clientStats {shipment : Shipment G} {next : StatsFlusherPhase G}
    (gives : s.Gives shipment next setup s') (none_ : next.clientStats = []) :
    s'.phase.clientStats = [] := by
  rcases gives.phase with e | e <;> rw [e]
  · exact none_
  · rfl

theorem Asking.unanswered (asking : s.Asking setup)
    (other : ∀ forceFlush, s.phase ≠ .awaiting forceFlush) : s.reply = none := by
  by_contra answered
  obtain ⟨forceFlush, phase⟩ := asking.reply answered
  exact other forceFlush phase

/-- A flush that the service takes is the one the flusher waits for, and the only one. -/
theorem Asking.serving (asking : s.Asking setup) {forceFlush : Bool}
    {rest : List (ConcentratorCommand D R L)} (commands : s.commands = .flush forceFlush :: rest) :
    s.phase = .awaiting forceFlush ∧ s.reply = none ∧
      rest.filterMap ConcentratorCommand.flush? = [] := by
  have flushes := asking.flushes
  rw [commands] at flushes
  rcases phase : s.phase with _ | _ | _ | _ | asked | _ | _ | _ <;> cases answered : s.reply <;>
    simp [phase, answered] at flushes
  obtain ⟨rfl, noMore⟩ := flushes
  exact ⟨rfl, rfl, by simpa using noMore⟩

variable [DecidableEq L]

theorem clientsAccounted_effect (start : s.ClientsAccounted) (effect : Effect setup s s') :
    s'.ClientsAccounted := by
  unfold ClientsAccounted at start ⊢
  cases effect with
  | push stats => simp [push, start, givenBy]
  | addChunk chunk metadata =>
    rcases addChunk_cases setup s chunk metadata with ⟨-, e⟩ | e <;> rw [e] <;>
      exact start
  | fireShutdown => exact start
  | idle => exact start
  | recv stats rest receives channel => simp [start, givenBy, channel]
  | tick phase => simpa [phase, givenBy] using start
  | drain phase shutdown => simpa [phase, givenBy] using start
  | drained phase channel => simpa [phase, givenBy] using start
  | noClients forceFlush phase => simpa [phase, givenBy] using start
  | giveClients forceFlush clientStats phase gives =>
    rw [gives.buffered, start, givenBy_append true _ gives.given, gives.buffer, gives.channel,
      gives.clientStats rfl, phase]
    simp
  | request forceFlush phase started => simpa [phase, givenBy] using start
  | noConcentrator forceFlush phase absent => simpa [phase, givenBy] using start
  | serveChunk => exact start
  | serveFlush => exact start
  | noAgentStats forceFlush phase reply => simpa [phase, givenBy] using start
  | giveAgentStats forceFlush agentStats phase reply gives =>
    rw [gives.buffered, start, givenBy_append true _ gives.given, gives.buffer, gives.channel,
      gives.clientStats rfl, phase]
    simp [givenBy]
  | returns phase => simpa [phase, givenBy] using start
  | loops phase => simpa [phase, givenBy] using start

theorem spansAccounted_effect (keeps : KeepsSpans setup.concentrator kept aggregated)
    (start : s.SpansAccounted kept aggregated) (asking : s.Asking setup)
    (effect : Effect setup s s') : s'.SpansAccounted kept aggregated := by
  unfold SpansAccounted at start ⊢
  cases effect with
  | push stats => exact start
  | addChunk chunk metadata =>
    rcases addChunk_cases setup s chunk metadata with ⟨-, e⟩ | e <;> rw [e]
    · simp [start, givenBy, add_assoc]
    · exact start
  | fireShutdown => exact start
  | idle => exact start
  | recv stats rest receives channel => exact start
  | tick phase => exact start
  | drain phase shutdown => exact start
  | drained phase channel => exact start
  | noClients forceFlush phase => exact start
  | giveClients forceFlush clientStats phase gives =>
    rw [gives.handed, start, givenBy_append false _ gives.given, gives.reply, gives.concentrators,
      gives.commands]
    simp
  | request forceFlush phase started => simpa [givenBy] using start
  | noConcentrator forceFlush phase absent => exact start
  | serveChunk chunk metadata rest now commands =>
    simp only [start, commands, List.map_cons, List.sum_cons, ConcentratorCommand.spans]
    rw [Concentrators.spans_addChunk keeps, ← add_assoc, ← add_assoc]
    rfl
  | serveFlush forceFlush rest clock commands =>
    obtain ⟨-, unanswered, -⟩ := asking.serving commands
    simp only [start, commands, unanswered, List.map_cons, List.sum_cons, ConcentratorCommand.spans]
    rw [← Concentrators.spans_handleFlush keeps setup.config.env clock forceFlush]
    simp [givenBy, add_assoc]
  | noAgentStats forceFlush phase reply => simpa [givenBy, reply] using start
  | giveAgentStats forceFlush agentStats phase reply gives =>
    rw [gives.handed, start, givenBy_append false _ gives.given, gives.reply, gives.concentrators,
      gives.commands, reply]
    simp [givenBy, Shipment.spans]
  | returns phase => exact start
  | loops phase => exact start

theorem asking_effect (start : s.Asking setup) (effect : Effect setup s s') : s'.Asking setup := by
  have unanswered := start.unanswered
  have serving := @start.serving
  obtain ⟨flushes, reply, unused⟩ := start
  cases effect with
  | push stats => exact ⟨flushes, reply, unused⟩
  | addChunk chunk metadata =>
    rcases addChunk_cases setup s chunk metadata with ⟨started, e⟩ | e <;> rw [e]
    · exact ⟨by simpa [List.filterMap_cons] using flushes, reply, by simp [started]⟩
    · exact ⟨flushes, reply, unused⟩
  | fireShutdown => exact ⟨flushes, reply, unused⟩
  | idle => exact ⟨flushes, reply, unused⟩
  | recv stats rest receives channel => exact ⟨flushes, reply, unused⟩
  | tick phase =>
    exact ⟨by simpa [phase] using flushes, by simp [unanswered (by simp [phase])], unused⟩
  | drain phase shutdown =>
    exact ⟨by simpa [phase] using flushes, by simp [unanswered (by simp [phase])], unused⟩
  | drained phase channel =>
    exact ⟨by simpa [phase] using flushes, by simp [unanswered (by simp [phase])], unused⟩
  | noClients forceFlush phase =>
    exact ⟨by simpa [phase] using flushes, by simp [unanswered (by simp [phase])], unused⟩
  | giveClients forceFlush clientStats phase gives =>
    have unanswered := unanswered (by simp [phase])
    refine ⟨?_, ?_, ?_⟩
    · rw [gives.commands, flushes]
      rcases gives.phase with e | e <;> simp [e, phase]
    · simp [gives.reply, unanswered]
    · simpa [gives.commands, gives.concentrators] using unused
  | request forceFlush phase started =>
    have unanswered := unanswered (by simp [phase])
    refine ⟨?_, fun _ => ⟨forceFlush, rfl⟩, by simp [started]⟩
    simp [flushes, phase, unanswered]
  | noConcentrator forceFlush phase absent =>
    exact ⟨by simpa [phase] using flushes, by simp [unanswered (by simp [phase])], unused⟩
  | serveChunk chunk metadata rest now commands =>
    refine ⟨by simpa [commands, List.filterMap_cons] using flushes, reply, ?_⟩
    intro absent
    simp [commands] at unused
    simp [unused] at absent
  | serveFlush forceFlush rest clock commands =>
    obtain ⟨phase, -, noMore⟩ := serving commands
    refine ⟨by simpa [phase] using noMore, fun _ => ⟨forceFlush, phase⟩, ?_⟩
    intro absent
    simp [absent, commands] at unused
  | noAgentStats forceFlush phase reply =>
    exact ⟨by simpa [phase, reply] using flushes, by simp, unused⟩
  | giveAgentStats forceFlush agentStats phase reply gives =>
    refine ⟨?_, by simp [gives.reply], ?_⟩
    · rw [gives.commands, flushes]
      rcases gives.phase with e | e <;> simp [e, phase, reply]
    · simpa [gives.commands, gives.concentrators] using unused
  | returns phase =>
    exact ⟨by simpa [phase] using flushes, by simp [unanswered (by simp [phase])], unused⟩
  | loops phase =>
    exact ⟨by simpa [phase] using flushes, by simp [unanswered (by simp [phase])], unused⟩

theorem posted_effect (start : s.Posted setup) (effect : Effect setup s s') : s'.Posted setup := by
  have gave {t : StatsPipeline D R G K L} {shipment : Shipment G} {next : StatsFlusherPhase G}
      (running : s.phase ≠ .panicked) (given : t.given = s.given) (intake : t.intake = s.intake)
      (gives : t.Gives shipment next setup s') : s'.Posted setup := by
    refine gives.intake.imp id ?_
    intro posted
    rw [posted, gives.given, intake, given, start.resolve_left running, List.filterMap_append]
    cases sent : (setup.utils.serializeStatsPayload (shipment.payload setup.utils)).toOption <;>
      simp [sent]
  cases effect with
  | addChunk chunk metadata =>
    rcases addChunk_cases setup s chunk metadata with ⟨-, e⟩ | e <;> rw [e] <;>
      exact start
  | giveClients forceFlush clientStats phase gives =>
    exact gave (t := s) (by simp [phase]) rfl rfl gives
  | giveAgentStats forceFlush agentStats phase reply gives =>
    exact gave (t := { s with reply := none }) (by simp [phase]) rfl rfl gives
  | push stats => exact start
  | fireShutdown => exact start
  | idle => exact start
  | recv stats rest receives channel => exact start
  | tick phase => exact .inr (start.resolve_left (by simp [phase]))
  | drain phase shutdown => exact .inr (start.resolve_left (by simp [phase]))
  | drained phase channel => exact .inr (start.resolve_left (by simp [phase]))
  | noClients forceFlush phase => exact .inr (start.resolve_left (by simp [phase]))
  | request forceFlush phase started => exact .inr (start.resolve_left (by simp [phase]))
  | noConcentrator forceFlush phase absent => exact .inr (start.resolve_left (by simp [phase]))
  | serveChunk => exact start
  | serveFlush => exact start
  | noAgentStats forceFlush phase reply => exact .inr (start.resolve_left (by simp [phase]))
  | returns phase => exact .inr (start.resolve_left (by simp [phase]))
  | loops phase => exact .inr (start.resolve_left (by simp [phase]))

omit [DecidableEq L] in
/-- Nothing is asked of a pipeline whose flusher is not shutting down. -/
theorem Settling.of_early (early : ¬ s.phase.ShuttingDown) : s.Settling kept := by
  have apart {p : StatsFlusherPhase G} (phase : s.phase = p) (late : p.Drained) : False :=
    early (.inr (phase ▸ late))
  refine ⟨fun late => absurd late early, fun late => absurd (.inr late) early,
    fun phase => (apart phase rfl).elim, ?_⟩
  rintro (⟨phase, -⟩ | phase | phase)
  · exact (apart phase rfl).elim
  · exact (apart phase rfl).elim
  · exact (apart phase trivial).elim

omit [DecidableEq L] in
/-- A call of `send_stats_payload` settles what its caller has settled for the next phase. -/
theorem Settling.of_gives {shipment : Shipment G} {next : StatsFlusherPhase G}
    (gives : s.Gives shipment next setup s') (asked : next.ShuttingDown → s.shutdown = true)
    (drained : next.Drained → s.channel = [] ∧ s.buffer = []) (notAwaiting : next ≠ .awaiting true)
    (flushed : next = .finishing true ∨ next = .returned →
      s.commands = [] ∧ s.concentrators.spans kept = 0) : s'.Settling kept := by
  rcases gives.phase with phase | phase
  · refine ⟨?_, ?_, ?_, ?_⟩
    · rw [phase, gives.shutdown]
      exact asked
    · rw [phase, gives.channel, gives.buffer]
      exact drained
    · intro awaiting
      exact absurd (phase.symm.trans awaiting) notAwaiting
    · rw [phase, gives.commands, gives.concentrators]
      rintro (⟨awaiting, -⟩ | late)
      · exact absurd awaiting notAwaiting
      · exact flushed late
  · exact .of_early (by simp [phase])

theorem settling_effect (keeps : KeepsSpans setup.concentrator kept aggregated)
    (start : s.Settling kept) (asking : s.Asking setup)
    (quiet : s.shutdown = true → s.NothingIn s') (effect : Effect setup s s') :
    s'.Settling kept := by
  obtain ⟨asked, drained, lastFlush, flushed⟩ := start
  cases effect with
  | push stats =>
    refine .of_early ?_
    intro late
    simpa [push] using (quiet (asked late)).buffered
  | addChunk chunk metadata =>
    rcases addChunk_cases setup s chunk metadata with ⟨-, e⟩ | e <;> rw [e]
    · refine .of_early ?_
      intro late
      simpa [e] using (quiet (asked late)).handed
    · exact ⟨asked, drained, lastFlush, flushed⟩
  | fireShutdown => exact ⟨fun _ => rfl, drained, lastFlush, flushed⟩
  | idle => exact ⟨asked, drained, lastFlush, flushed⟩
  | recv stats rest receives channel =>
    rcases receives with phase | phase
    · exact .of_early (by simp [phase])
    · exact ⟨asked, by simp [phase], by simp [phase], by simp [phase]⟩
  | tick phase => exact .of_early (by simp)
  | drain phase shutdown => exact ⟨fun _ => shutdown, by simp, by simp, by simp⟩
  | drained phase channel =>
    exact ⟨fun _ => asked (by simp [phase]), fun _ => ⟨channel, rfl⟩, by simp, by simp⟩
  | noClients forceFlush phase =>
    exact ⟨by simpa [phase] using asked, by simpa [phase] using drained, by simp, by simp⟩
  | giveClients forceFlush clientStats phase gives =>
    exact .of_gives gives (by simpa [phase] using asked) (by simpa [phase] using drained) (by simp)
      (by simp)
  | request forceFlush phase started =>
    refine ⟨by simpa [phase] using asked, by simpa [phase] using drained, ?_, ?_⟩
    · rintro h -
      cases h
      exact ⟨s.commands, rfl⟩
    · have unanswered := asking.unanswered (by simp [phase])
      simp [unanswered]
  | noConcentrator forceFlush phase absent =>
    refine ⟨by simpa [phase] using asked, by simpa [phase] using drained, by simp, ?_⟩
    intro _
    simp [asking.unused absent]
  | serveChunk chunk metadata rest now commands =>
    rw [commands] at lastFlush flushed
    refine ⟨asked, drained, ?_, ?_⟩
    · intro phase reply
      obtain ⟨earlier, e⟩ := lastFlush phase reply
      cases earlier with
      | nil => simp at e
      | cons first earlier => exact ⟨earlier, (List.cons.inj e).2⟩
    · intro h
      exact absurd (flushed h).1 (by simp)
  | serveFlush forceFlush rest clock commands =>
    obtain ⟨phase, unanswered, noMore⟩ := asking.serving commands
    rw [commands] at lastFlush
    refine ⟨asked, drained, by simp, ?_⟩
    intro h
    obtain rfl : forceFlush = true := by simpa [phase] using h
    obtain ⟨earlier, e⟩ := lastFlush phase unanswered
    -- the forced flush is the last command, so that nothing is left to serve after it
    obtain rfl : rest = [] := by
      cases earlier with
      | nil => simpa using e
      | cons first earlier =>
        obtain ⟨-, rfl⟩ := List.cons.inj e
        simp at noMore
    exact ⟨rfl, Concentrators.spans_handleFlush_forced keeps setup.config.env clock s.concentrators⟩
  | noAgentStats forceFlush phase reply =>
    refine ⟨by simpa [phase] using asked, by simpa [phase] using drained, by simp, ?_⟩
    intro h
    obtain rfl : forceFlush = true := by simpa using h
    exact flushed (.inl ⟨phase, by simp [reply]⟩)
  | giveAgentStats forceFlush agentStats phase reply gives =>
    refine .of_gives gives (by simpa [phase] using asked) (by simpa [phase] using drained) (by simp)
      ?_
    intro h
    obtain rfl : forceFlush = true := by simpa using h
    exact flushed (.inl ⟨phase, by simp [reply]⟩)
  | returns phase =>
    refine ⟨fun _ => asked (by simp [phase]), fun _ => drained (by simp [phase]), by simp, ?_⟩
    intro _
    exact flushed (.inr (.inl phase))
  | loops phase => exact .of_early (by simp)

end StatsPipeline

end ServerlessComponents.TraceAgent
