import ServerlessComponents.TraceAgent.MiniAgent
import ServerlessComponents.TraceAgent.StatsAccounting

/-!
# Stats on a graceful shutdown

When the accept loop has drained its connections, nothing is put into the stats pipeline after the
supervisor has asked the flusher to shut down, so the final forced flush leaves nothing behind:
every acknowledged stats payload and every span handed to the concentrator is in one payload given
to the intake. A chunk as a whole need not be, as its spans may fall into buckets that are flushed
at different times. And when the accept loop has failed its aborted handlers may still be running.
-/
namespace ServerlessComponents.TraceAgent

open LogsAgent (Bytes)

variable {D R X G K H L W : Type}

/-- What `construct_stats_payload` does: it holds the given stats, each changed by `adjust`, which
leaves the buckets alone. -/
structure KeepsStats (utils : StatsUtils G) (adjust : ClientStatsPayload G → ClientStatsPayload G) :
    Prop where
  construct : ∀ stats, (utils.constructStatsPayload stats).stats = stats.map adjust
  buckets : ∀ p, (adjust p).stats = p.stats

/-- The spans whose stats a payload holds. -/
def StatsPayload.spans (aggregated : G → Multiset (Span D R)) (p : StatsPayload G) :
    Multiset (Span D R) :=
  (p.stats.map (ClientStatsPayload.spans aggregated)).sum

section Payloads

variable {utils : StatsUtils G} {adjust : ClientStatsPayload G → ClientStatsPayload G}
  (keeps : KeepsStats utils adjust)

include keeps

theorem KeepsStats.payload_stats (shipment : Shipment G) :
    (shipment.payload utils).stats = shipment.stats.map adjust := by
  unfold Shipment.payload
  split <;> exact keeps.construct shipment.stats

theorem KeepsStats.payload_spans (aggregated : G → Multiset (Span D R)) (shipment : Shipment G) :
    (shipment.payload utils).spans aggregated = shipment.spans aggregated := by
  rw [StatsPayload.spans, keeps.payload_stats, List.map_map, Shipment.spans]
  congr 2
  funext p
  simp [ClientStatsPayload.spans, keeps.buckets]

end Payloads

namespace MiniAgent

section Settled

variable (setup : MiniAgentSetup D R X G K H W)
  (adjust : ClientStatsPayload G → ClientStatsPayload G)
  (aggregated : G → Multiset (Span D R)) (s : MiniAgent D R X G K H L W)

/-- The given payloads of client stats hold groups of the buffered stats, and every stats payload
answered as buffered is in one of them. -/
def StatsContained : Prop :=
  ∃ groups : List (List (Numbered (ClientStatsPayload G))),
    (s.stats.givenBy true).map (fun shipment => (shipment.payload setup.utils).stats) =
        groups.map (List.map fun stats => adjust stats.item) ∧
      ∀ answer ∈ s.answered, answer.response = .statsBuffered →
        ∃ stats ∈ Numbered.ofRound 0 s.stats.buffered, answer.receipt = .stats stats.index ∧
          Numbered.InOneGroup groups stats

/-- The given payloads of agent stats hold parts of the spans handed to the concentrator, and every
such span is in one of them. -/
def SpansContained : Prop :=
  ∃ parts : List (List (Numbered (Span D R))),
    (s.stats.givenBy false).map (fun shipment => (shipment.payload setup.utils).spans aggregated) =
        parts.map (fun part => (part.map Numbered.item : Multiset (Span D R))) ∧
      ∀ span ∈ Numbered.ofRounds 0 (s.stats.handed.map TraceChunk.spans),
        Numbered.InOneGroup parts span

/-- Every chunk handed to the concentrator is as a whole in one given payload. -/
def ChunksContained : Prop :=
  ∀ chunk ∈ s.stats.handed, ∃! k : Nat, ∃ shipment, s.stats.given[k]? = some shipment ∧
    chunk.spanSet ≤ (shipment.payload setup.utils).spans aggregated

/-- What the pipeline took in has left it in one payload. -/
structure StatsSettled : Prop where
  stats : s.StatsContained setup adjust
  spans : s.SpansContained setup aggregated
  posted : s.stats.intake = s.stats.given.filterMap fun shipment =>
    (setup.utils.serializeStatsPayload (shipment.payload setup.utils)).toOption

end Settled

/-! ## What a run preserves -/

/-- The pipeline is accounted for, and the shutdown is orderly unless the accept loop has failed. -/
structure StatsTracked (setup : MiniAgentSetup D R X G K H W) (kept : K → Multiset (Span D R))
    (aggregated : G → Multiset (Span D R)) (s : MiniAgent D R X G K H L W) : Prop where
  clients : s.stats.ClientsAccounted
  spans : s.stats.SpansAccounted kept aggregated
  asking : s.stats.Asking setup.toStatsSetup
  posted : s.stats.Posted setup.toStatsSetup
  promises : s.Promises
  unused : ∀ i, s.connections ≤ i → s.handler i = .closed
  joined : s.acceptLoop = .drained → ∀ i, s.handler i = .closed
  oneshot : s.stats.shutdown = true → s.acceptLoop.hasEnded = true
  settling : s.acceptLoop ≠ .failed → s.stats.Settling kept

variable {setup : MiniAgentSetup D R X G K H W} {kept : K → Multiset (Span D R)}
  {aggregated : G → Multiset (Span D R)} {s s' : MiniAgent D R X G K H L W}

theorem statsTracked_init (rescueState : W) :
    StatsTracked setup kept aggregated (init rescueState : MiniAgent D R X G K H L W) where
  clients := rfl
  spans := by simp [StatsPipeline.SpansAccounted, init, StatsPipeline.givenBy]
  asking := ⟨rfl, by simp [init], fun _ => ⟨rfl, rfl⟩⟩
  posted := .inr rfl
  promises := promises_init rescueState
  unused := fun _ _ => rfl
  joined := fun _ _ => rfl
  oneshot := by simp [init]
  settling := fun _ => ⟨by simp [init], by simp [init], by simp [init], by simp [init]⟩

variable [DecidableEq L] {a : Action H L}

theorem stats_effect (effect : Effect setup s a s') :
    StatsPipeline.Effect setup.toStatsSetup s.stats s'.stats := by
  cases effect with
  | handler _ _ _ _ _ _ _ stats => exact stats
  | stats effect => exact effect
  | fireShutdown => exact .fireShutdown
  | _ => exact .idle

/-- While the accept loop has not failed, nothing is put into the pipeline once the oneshot has
fired. -/
theorem nothingIn_of_shutdown (start : s.StatsTracked setup kept aggregated)
    (effect : Effect setup s a s') (healthy : s.acceptLoop ≠ .failed)
    (fired : s.stats.shutdown = true) : s.stats.NothingIn s'.stats := by
  cases effect with
  | handler i p running =>
    have ended := start.oneshot fired
    cases loop : s.acceptLoop with
    | drained => exact absurd (start.joined loop i) running
    | failed => exact absurd loop healthy
    | _ => simp [loop, AcceptLoop.hasEnded] at ended
  | stats _ inside => exact inside
  | _ => exact ⟨rfl, rfl⟩

/-- The loop ends only once. -/
theorem healthy_of_effect (effect : Effect setup s a s') (healthy : s'.acceptLoop ≠ .failed) :
    s.acceptLoop ≠ .failed := by
  cases effect with
  | handler _ _ _ _ _ acceptLoop => rwa [acceptLoop] at healthy
  | loop acceptLoop going =>
    intro failed
    simp [failed, AcceptLoop.hasEnded] at going
  | _ => exact healthy

theorem unused_effect (start : s.StatsTracked setup kept aggregated)
    (effect : Effect setup s a s') :
    ∀ i, s'.connections ≤ i → s'.handler i = .closed := by
  intro i outside
  cases effect with
  | handler j p running handler connections =>
    rw [connections] at outside
    have other : i ≠ j := by
      rintro rfl
      exact running (start.unused i outside)
    rw [handler, Function.update_of_ne other]
    exact start.unused i outside
  | accept =>
    have other : i ≠ s.connections := Nat.ne_of_gt outside
    rw [setHandler]
    simp only [Function.update_of_ne other]
    exact start.unused i (Nat.le_of_succ_le outside)
  | _ => exact start.unused i outside

theorem joined_effect (start : s.StatsTracked setup kept aggregated)
    (effect : Effect setup s a s') :
    s'.acceptLoop = .drained → ∀ i, s'.handler i = .closed := by
  intro drained i
  cases effect with
  | handler j p running handler connections acceptLoop =>
    exact absurd (start.joined (acceptLoop ▸ drained) j) running
  | accept accepting =>
    have drained : s.acceptLoop = .drained := drained
    simp [accepting] at drained
  | loop acceptLoop going joined =>
    rcases Nat.lt_or_ge i s.connections with inside | outside
    · exact joined drained i inside
    · exact start.unused i outside
  | _ => exact start.joined drained i

theorem oneshot_effect (start : s.StatsTracked setup kept aggregated)
    (effect : Effect setup s a s') : s'.stats.shutdown = true → s'.acceptLoop.hasEnded = true := by
  intro fired
  cases effect with
  | handler j p running handler connections acceptLoop supervisor stats oneshot =>
    rw [acceptLoop]
    exact start.oneshot (oneshot ▸ fired)
  | loop acceptLoop going =>
    have ended := start.oneshot fired
    simp [going] at ended
  | stats _ _ oneshot => exact start.oneshot (oneshot.symm.trans fired)
  | fireShutdown ended => exact ended
  | _ => exact start.oneshot fired

theorem statsTracked_step (keeps : KeepsSpans setup.concentrator kept aggregated)
    (start : s.StatsTracked setup kept aggregated) (h : s.step setup a = some s') :
    s'.StatsTracked setup kept aggregated := by
  have effect := effect_of_act (act_of_step h).2
  have stats := stats_effect effect
  refine ⟨StatsPipeline.clientsAccounted_effect start.clients stats,
    StatsPipeline.spansAccounted_effect keeps start.spans start.asking stats,
    StatsPipeline.asking_effect start.asking stats, StatsPipeline.posted_effect start.posted stats,
    promises_effect start.promises effect, unused_effect start effect, joined_effect start effect,
    oneshot_effect start effect, ?_⟩
  intro healthy
  have healthy := healthy_of_effect effect healthy
  exact StatsPipeline.settling_effect keeps (start.settling healthy) start.asking
    (nothingIn_of_shutdown start effect healthy) stats

/-! ## The shutdown -/

section Returned

variable {adjust : ClientStatsPayload G → ClientStatsPayload G}

omit [DecidableEq L] in
theorem statsContained_of_given (keeps : KeepsStats setup.utils adjust) (promises : s.Promises)
    (all : s.stats.buffered = (s.stats.givenBy true).flatMap (·.stats)) :
    s.StatsContained setup adjust := by
  have spelled : ((s.stats.givenBy true).map (·.stats)).flatten =
      (Numbered.ofRound 0 s.stats.buffered).map Numbered.item := by
    rw [Numbered.map_item_ofRound, all]
    rfl
  obtain ⟨groups, back, flat⟩ := Numbered.exists_groups spelled
  refine ⟨groups, ?_, ?_⟩
  · calc (s.stats.givenBy true).map (fun shipment => (shipment.payload setup.utils).stats)
        = ((s.stats.givenBy true).map (·.stats)).map (List.map adjust) := by
          rw [List.map_map]
          exact List.map_congr_left fun shipment _ => keeps.payload_stats shipment
      _ = groups.map (List.map fun stats => adjust stats.item) := by
          rw [← back, List.map_map]
          exact List.map_congr_left fun group _ => List.map_map
  · intro answer mem promised
    obtain ⟨place, lt, receipt⟩ := (promises.answered answer mem).stats promised
    obtain ⟨stats, mem, rfl⟩ := Numbered.exists_mem_ofRound 0 s.stats.buffered lt
    refine ⟨stats, mem, receipt, Numbered.inOneGroup ?_ (flat ▸ mem)⟩
    rw [flat]
    exact Numbered.nodup_ofRound 0 s.stats.buffered

omit [DecidableEq L] in
theorem spansContained_of_given (keeps : KeepsStats setup.utils adjust)
    (all : (s.stats.handed.map TraceChunk.spanSet).sum =
      ((s.stats.givenBy false).map (Shipment.spans aggregated)).sum) :
    s.SpansContained setup aggregated := by
  have spelled : ((s.stats.givenBy false).map (Shipment.spans aggregated)).sum =
      ((Numbered.ofRounds 0 (s.stats.handed.map TraceChunk.spans)).map Numbered.item :
        Multiset (Span D R)) := by
    rw [← all, Numbered.map_item_ofRounds]
    induction s.stats.handed with
    | nil => rfl
    | cons chunk rest ih => simp [ih, TraceChunk.spanSet]
  obtain ⟨parts, back, flat⟩ := Numbered.exists_groups_perm spelled
  have nodup : (Numbered.ofRounds 0 (s.stats.handed.map TraceChunk.spans)).Nodup :=
    List.Nodup.of_map _ (Numbered.nodup_number_ofRounds 0 _)
  refine ⟨parts, ?_, ?_⟩
  · rw [back]
    exact List.map_congr_left fun shipment _ => keeps.payload_spans aggregated shipment
  · intro span mem
    exact Numbered.inOneGroup (flat.nodup_iff.2 nodup) (flat.mem_iff.2 mem)

/-- In every run after which `serve` has returned `Ok` and the accept loop has drained its
connections: every stats payload answered as buffered is in one payload given to the intake sender,
and so is every span of every chunk handed to the concentrator; what was given and can be serialized
was sent. -/
theorem stats_settled (setup : MiniAgentSetup D R X G K H W) (kept : K → Multiset (Span D R))
    (aggregated : G → Multiset (Span D R)) (adjust : ClientStatsPayload G → ClientStatsPayload G)
    (keepsSpans : KeepsSpans setup.concentrator kept aggregated)
    (keepsStats : KeepsStats setup.utils adjust) (rescueState : W) (actions : List (Action H L))
    (s : MiniAgent D R X G K H L W)
    (run : Runs.exec (step setup) (init rescueState) actions = some s)
    (ok : s.supervisor = .returned true) (drained : s.acceptLoop = .drained) :
    s.StatsSettled setup adjust aggregated := by
  have tracked : s.StatsTracked setup kept aggregated :=
    Runs.invariant (fun _ _ _ => statsTracked_step keepsSpans) (statsTracked_init rescueState) run
  have phase : s.stats.phase = .returned := by
    refine Runs.invariant (P := fun s => s.supervisor = .returned true → s.stats.phase = .returned)
      ?_ (by simp [init]) run ok
    intro s a s' _ h ok
    obtain ⟨rfl, phase, rfl⟩ := serveSeesFlusher_of_ok ok h
    exact phase
  obtain ⟨-, emptied, -, flushed⟩ := tracked.settling (by simp [drained])
  obtain ⟨channel, buffer⟩ := emptied (by simp [phase])
  obtain ⟨commands, held⟩ := flushed (.inr (.inr phase))
  have reply := tracked.asking.unanswered (by simp [phase])
  refine ⟨statsContained_of_given keepsStats tracked.promises ?_,
    spansContained_of_given keepsStats ?_, tracked.posted.resolve_left (by simp [phase])⟩
  · simpa [StatsPipeline.ClientsAccounted, phase, channel, buffer] using tracked.clients
  · simpa [StatsPipeline.SpansAccounted, commands, held, reply] using tracked.spans

end Returned

/-! ## Runs on a few requests -/

section Examples

/-- A span by the second in which it ends. -/
def spanEnding (second : Nat) : Span Unit Nat :=
  ⟨"web", "http.request", "GET /", 1, 0, ∅, ∅, second⟩

def clearHostname {G : Type} (p : ClientStatsPayload G) : ClientStatsPayload G :=
  { p with hostname := "" }

/-- A concentrator for spans of different buckets: each has a bucket of its own, which an unforced
flush returns when it is twenty seconds old. -/
def bucketing : SpanConcentrator Unit Nat (Span Unit Nat) (List (Span Unit Nat)) where
  new _ := []
  addSpan spans span := spans ++ [span]
  flush spans now forceFlush :=
    let due (span : Span Unit Nat) : Bool := forceFlush || span.rest + 20 ≤ now
    ((spans.filter due).map fun span => ⟨.ofNat span.rest, 10, [span], 0⟩,
      spans.filter fun span => !due span)

theorem keepsSpans_bucketing :
    KeepsSpans bucketing (fun spans => (spans : Multiset (Span Unit Nat))) fun span => {span} where
  new _ := rfl
  addSpan spans span := by simp [bucketing, ← Multiset.coe_add]
  flush spans now forceFlush := by
    have singles (kept : List (Span Unit Nat)) :
        (kept.map fun span => ({span} : Multiset (Span Unit Nat))).sum = kept := by
      induction kept with
      | nil => rfl
      | cons span rest ih => simp [ih]
    simp only [bucketing, List.map_map, Function.comp_def, ClientStatsBucket.spans, List.map_cons,
      List.map_nil, List.sum_singleton, singles]
    exact Multiset.coe_eq_coe.2 (List.filter_append_perm _ spans)
  forced spans now := by simp [bucketing]

/-- Client stats that are told apart by the sequence number, read from the body. -/
def numberedStats (body : Bytes) : ClientStatsPayload (Span Unit Nat) :=
  ⟨"host", "", "", [], "", "", "", .ofNat body.length, "", "", "", [], "", "", 0, ""⟩

/-- A payload with one chunk, whose two spans end twenty seconds apart. -/
def twoSpans : TracerPayload Unit Nat where
  containerId := ""
  languageName := "go"
  languageVersion := "1.22"
  tracerVersion := "1.64"
  runtimeId := ""
  chunks := [⟨1, "", [spanEnding 5, spanEnding 25], ∅, false⟩]
  tags := ∅
  env := ""
  hostname := ""
  appVersion := ""

def fewSetup (agentStats : Bool) :
    MiniAgentSetup Unit Nat Unit (Span Unit Nat) (List (Span Unit Nat)) Unit Unit where
  config := ⟨"", 1000, agentStats, none, some "key"⟩
  utils :=
    { getStatsFromRequestBody := fun body => body.map numberedStats
      constructStatsPayload := fun stats => ⟨"", "", stats.map clearHostname, "", true, false⟩
      serializeStatsPayload := fun payload => .ok [.ofNat payload.stats.length] }
  concentrator := bucketing
  statsConcentrator := agentStats
  traceUtils :=
    { Traces := Unit
      getTracesFromRequestBody := fun _ => .ok (256, ())
      collectPbTraceChunks := fun _ _ => .ok (.v07 [twoSpans])
      getRootSpanIndex := fun _ => .ok 0
      encodedLen := fun _ => 256 }
  rescue := fun w payload _ => some (payload, w)

theorem keepsStats_fewSetup (agentStats : Bool) :
    KeepsStats (fewSetup agentStats).utils clearHostname := ⟨fun _ => rfl, fun _ => rfl⟩

def post (path : String) (body : Bytes) : HttpRequest Unit :=
  ⟨"POST", path, ⟨some (some "2"), false, ()⟩, .ok body⟩

/-- A chunk goes to the concentrator, and the flusher's tick comes while its first span is due. -/
def chunkThenTick : List (Action Unit Unit) :=
  [.accept, .request 0 (post "/v0.4/traces" []), .resume 0 0, .resume 0 0, .resume 0 0, .resume 0 0,
    .resume 0 0, .answer 0, .stats (.serve 0 fun _ => 0), .stats .tick, .stats .flushClients,
    .stats .request, .stats (.serve 30 fun _ => 30), .stats .takeReply, .stats .finish]

/-- The shutdown with the drain of the connection and the forced flush. -/
def drainAndFlush : List (Action Unit Unit) :=
  [.shutdown, .serveSeesShutdown, .loopSeesShutdown, .close 0, .loopDrained, .serveSeesTransport,
    .stats .seeShutdown, .stats .tryRecv, .stats .flushClients, .stats .request,
    .stats (.serve 31 fun _ => 31), .stats .takeReply, .stats .finish, .serveSeesFlusher]

theorem stats_settled_two_flushes :
    ∃ s, Runs.exec (step (fewSetup true)) (init ()) (chunkThenTick ++ drainAndFlush) = some s ∧
      s.StatsSettled (fewSetup true) clearHostname fun span => {span} :=
  ⟨_, rfl, stats_settled (fewSetup true) _ _ clearHostname keepsSpans_bucketing
    (keepsStats_fewSetup true) () (chunkThenTick ++ drainAndFlush) _ rfl rfl rfl⟩

/-- A stats request is answered, and a second one is being handled on the same connection. -/
def oneBufferedOneRunning : List (Action Unit Unit) :=
  [.accept, .request 0 (post "/v0.6/stats" [1]), .resume 0 0, .resume 0 0, .answer 0,
    .request 0 (post "/v0.6/stats" [1, 1])]

/-- `accept` fails beside the signal. The handler is not suspended before it has answered, so that
the abort comes too late, and it sends after the flusher's last look at the channel. -/
def failedAccept : List (Action Unit Unit) :=
  [.shutdown, .acceptError, .serveSeesShutdown, .serveSeesTransport, .stats .seeShutdown,
    .stats .tryRecv, .stats .tryRecv, .stats .flushClients, .resume 0 0, .resume 0 0, .answer 0,
    .stats .request, .stats .finish, .serveSeesFlusher]

/-- The stats of the one span that ends in this second. -/
def statsEnding (second : Nat) : ClientStatsPayload (Span Unit Nat) :=
  .ofBuckets "" (tracerMetadata twoSpans none : TracerMetadata Unit)
    [⟨.ofNat second, 10, [spanEnding second], 0⟩]

theorem exec_chunkThenTick :
    ∃ s, Runs.exec (step (fewSetup true)) (init ()) (chunkThenTick ++ drainAndFlush) = some s ∧
      s.supervisor = .returned true ∧ s.stats.handed = twoSpans.chunks ∧
      s.stats.given = [⟨false, [statsEnding 5]⟩, ⟨false, [statsEnding 25]⟩] :=
  ⟨_, rfl, rfl, rfl, rfl⟩

theorem exec_failedAccept :
    ∃ s, Runs.exec (step (fewSetup false)) (init ()) (oneBufferedOneRunning ++ failedAccept) =
        some s ∧ s.supervisor = .returned true ∧
      s.answered = [⟨.statsBuffered, .stats 0⟩, ⟨.statsBuffered, .stats 1⟩] ∧
      s.stats.givenBy true = [⟨true, [numberedStats [1]]⟩] :=
  ⟨_, rfl, rfl, rfl, rfl⟩

theorem spans_statsEnding (second : Nat) :
    (statsEnding second).spans (fun span => {span}) = {spanEnding second} := by
  simp [statsEnding, ClientStatsPayload.spans, ClientStatsPayload.ofBuckets,
    ClientStatsBucket.spans]

/-- A chunk whose spans are flushed apart is in no payload as a whole, and stats answered by a
handler that the failed accept loop has left running are in no payload at all. -/
theorem shutdown_leaves_stats_out :
    KeepsSpans bucketing (fun spans => (spans : Multiset (Span Unit Nat))) (fun span => {span}) ∧
      (∃ s, Runs.exec (step (fewSetup true)) (init ()) (chunkThenTick ++ drainAndFlush) = some s ∧
        s.supervisor = .returned true ∧
        ¬ s.ChunksContained (fewSetup true) fun span => {span}) ∧
      ∃ s, Runs.exec (step (fewSetup false)) (init ()) (oneBufferedOneRunning ++ failedAccept) =
          some s ∧ s.supervisor = .returned true ∧
        ¬ s.StatsContained (fewSetup false) clearHostname := by
  obtain ⟨s, run, ok, handed, given⟩ := exec_chunkThenTick
  obtain ⟨t, run', ok', answered, given'⟩ := exec_failedAccept
  refine ⟨keepsSpans_bucketing, ⟨s, run, ok, ?_⟩, t, run', ok', ?_⟩
  · intro contained
    obtain ⟨k, ⟨shipment, found, le⟩, -⟩ :=
      contained ⟨1, "", [spanEnding 5, spanEnding 25], ∅, false⟩ (by simp [handed, twoSpans])
    have one : ∃ second, shipment = ⟨false, [statsEnding second]⟩ := by
      rw [given] at found
      match k with
      | 0 => exact ⟨5, by simpa using found.symm⟩
      | 1 => exact ⟨25, by simpa using found.symm⟩
      | k + 2 => simp at found
    obtain ⟨second, rfl⟩ := one
    have card := Multiset.card_le_card le
    rw [(keepsStats_fewSetup true).payload_spans] at card
    simp [Shipment.spans, spans_statsEnding, TraceChunk.spanSet] at card
  · rintro ⟨groups, spelled, all⟩
    rw [given'] at spelled
    obtain ⟨group, rfl, listed⟩ := List.map_eq_singleton_iff.1 spelled.symm
    have listed : (group.map fun stats => clearHostname stats.item) =
        [clearHostname (numberedStats [1])] := listed
    obtain ⟨only, rfl, -⟩ := List.map_eq_singleton_iff.1 listed
    have same (place : Nat) (mem : ⟨.statsBuffered, .stats place⟩ ∈ t.answered) :
        place = only.index := by
      obtain ⟨stats, -, receipt, k, ⟨group, found, mem⟩, -⟩ := all _ mem rfl
      obtain rfl : group = [only] := List.mem_singleton.1 (List.mem_of_getElem? found)
      obtain rfl := List.mem_singleton.1 mem
      exact Receipt.stats.inj receipt
    have first : 0 = only.index := same 0 (by simp [answered])
    have second : 1 = only.index := same 1 (by simp [answered])
    omega

end Examples

end MiniAgent

end ServerlessComponents.TraceAgent
