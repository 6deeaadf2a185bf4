import ServerlessComponents.TraceAgent.Attribution
import ServerlessComponents.TraceAgent.ChunkProcessor
import ServerlessComponents.TraceAgent.MinimalEdit

/-!
# Stats and traces of one request

The handler of a request gives its chunks to the concentrator and then, after the error rescue, to
the trace flusher. Handlers take turns, so the chunks of several requests mix in what the
concentrator gets.

## Main results

* `stats_match_traces` — the concentrator is given the chunks of every buffered request once, and
  the pieces have the same chunks, rates of the rescue apart.
* `manual_drops_unstamped` — which chunks get such a rate, by what the tracer sent.
-/
namespace ServerlessComponents.TraceAgent

variable {S D R X G H K L W : Type}

namespace MiniAgent

variable [DecidableEq L] {setup : MiniAgentSetup D R X G K H W} {s s' : MiniAgent D R X G K H L W}
  {a : Action H L} {i : Nat}

/-! ## What the concentrator has got of whom -/

/-- The chunks with one label. -/
def labelled (label : Nat) (fed : List (Nat × TraceChunk D R)) : List (TraceChunk D R) :=
  (fed.filter (·.1 = label)).map Prod.snd

theorem labelled_concat (label : Nat) (fed : List (Nat × TraceChunk D R)) (chunk : TraceChunk D R) :
    labelled label (fed ++ [(label, chunk)]) = labelled label fed ++ [chunk] := by
  simp [labelled]

theorem labelled_concat_of_ne {label other : Nat} (fed : List (Nat × TraceChunk D R))
    (chunk : TraceChunk D R) (ne : label ≠ other) :
    labelled label (fed ++ [(other, chunk)]) = labelled label fed := by
  simp [labelled, ne.symm]

theorem labelled_eq_nil {next : Nat} {fed : List (Nat × TraceChunk D R)}
    (used : ∀ entry ∈ fed, entry.1 < next) : labelled next fed = [] := by
  have none_ : fed.filter (·.1 = next) = [] := by
    refine List.filter_eq_nil_iff.2 fun entry mem => ?_
    have := used entry mem
    simp only [decide_eq_true_eq]
    omega
  rw [labelled, none_, List.map_nil]

/-- The traces of a round are those of its request, with the label of the round. -/
def MadeOf (setup : MiniAgentSetup D R X G K H W) (actions : List (Action H L))
    (fed : List (Nat × TraceChunk D R)) (round : Nat × HttpRequest H)
    (sendDatas : List (SendData D R X H)) : Prop :=
  ∃ i decoded payload, .request i round.2 ∈ actions ∧
    decodeTraces setup.config setup.traceUtils round.2 = .ok decoded ∧
    Rescued setup decoded.payload payload ∧
    sendDatas = { decoded with payload }.sendDatas setup.traceUtils.encodedLen ∧
    labelled round.1 fed = setup.shared decoded

/-- Each decoding has a label. The chunks the concentrator got carry the label of their decoding:
those of a spawned round are complete, those of a handler are so with what it has left. Of a round
the label and the request are kept. -/
structure Labels (setup : MiniAgentSetup D R X G K H W) (actions : List (Action H L))
    (s : MiniAgent D R X G K H L W) (fed : List (Nat × TraceChunk D R)) (label : Nat → Nat)
    (rounds : List (Nat × HttpRequest H)) (next : Nat) : Prop where
  handed : fed.map Prod.snd = s.stats.handed
  used : ∀ entry ∈ fed, entry.1 < next
  known : ∀ l ∈ rounds.map Prod.fst, l < next
  nodup : (rounds.map Prod.fst).Nodup
  sharing : ∀ i decoded left, (s.handler i).sharing = some (decoded, left) →
    label i < next ∧ label i ∉ rounds.map Prod.fst ∧
      labelled (label i) fed ++ left = setup.shared decoded
  apart : ∀ i j, i ≠ j → (s.handler i).sharing.isSome → (s.handler j).sharing.isSome →
    label i ≠ label j
  made : List.Forall₂ (MadeOf setup actions fed) rounds s.traces.spawned

variable {actions : List (Action H L)} {fed : List (Nat × TraceChunk D R)} {label : Nat → Nat}
  {rounds : List (Nat × HttpRequest H)} {next : Nat} {q : Asked H}

omit [DecidableEq L] in
/-- Chunks with another label do not matter to a round. -/
theorem MadeOf.concat {round : Nat × HttpRequest H} {other : Nat}
    {sendDatas : List (SendData D R X H)} (made : MadeOf setup actions fed round sendDatas)
    (chunk : TraceChunk D R) (ne : round.1 ≠ other) :
    MadeOf setup actions (fed ++ [(other, chunk)]) round sendDatas := by
  obtain ⟨i, decoded, payload, requested, decodes, rescued, pieces, chunks⟩ := made
  refine ⟨i, decoded, payload, requested, decodes, rescued, pieces, ?_⟩
  rw [labelled_concat_of_ne fed chunk ne, chunks]

omit [DecidableEq L] in
theorem labels_begins (start : s.Labels setup actions fed label rounds next)
    {decoded : DecodedTraces D R X H}
    (here : (s'.handler i).sharing = some (decoded, setup.shared decoded))
    (others : ∀ j, j ≠ i → s'.handler j = s.handler j)
    (handed : s'.stats.handed = s.stats.handed) (spawned : s'.traces.spawned = s.traces.spawned) :
    s'.Labels setup actions fed (Function.update label i next) rounds (next + 1) where
  handed := start.handed.trans handed.symm
  used entry mem := (start.used entry mem).trans (Nat.lt_succ_self next)
  known l mem := (start.known l mem).trans (Nat.lt_succ_self next)
  nodup := start.nodup
  sharing j decoded' left shares := by
    by_cases same : j = i
    · subst same
      cases here.symm.trans shares
      have fresh : next ∉ rounds.map Prod.fst :=
        fun mem => Nat.lt_irrefl next (start.known next mem)
      simp only [Function.update_self, labelled_eq_nil start.used, List.nil_append]
      exact ⟨Nat.lt_succ_self next, fresh, trivial⟩
    · rw [others j same] at shares
      obtain ⟨lt, absent, chunks⟩ := start.sharing j decoded' left shares
      rw [Function.update_of_ne same]
      exact ⟨lt.trans (Nat.lt_succ_self next), absent, chunks⟩
  apart j k ne sharesJ sharesK := by
    have older {j : Nat} (other : j ≠ i) (shares : (s'.handler j).sharing.isSome) :
        (s.handler j).sharing.isSome ∧ label j < next := by
      rw [others j other] at shares
      obtain ⟨⟨decoded', left⟩, found⟩ := Option.isSome_iff_exists.1 shares
      exact ⟨shares, (start.sharing j decoded' left found).1⟩
    by_cases first : j = i
    · subst first
      have := older ne.symm sharesK
      rw [Function.update_self, Function.update_of_ne ne.symm]
      omega
    · by_cases second : k = i
      · subst second
        have := older first sharesJ
        rw [Function.update_self, Function.update_of_ne first]
        omega
      · rw [Function.update_of_ne first, Function.update_of_ne second]
        exact start.apart j k ne (older first sharesJ).1 (older second sharesK).1
  made := spawned ▸ start.made

omit [DecidableEq L] in
theorem labels_adds (start : s.Labels setup actions fed label rounds next)
    {decoded : DecodedTraces D R X H} {chunk : TraceChunk D R} {left : List (TraceChunk D R)}
    (had : (s.handler i).sharing = some (decoded, chunk :: left))
    (here : (s'.handler i).sharing = some (decoded, left))
    (others : ∀ j, j ≠ i → s'.handler j = s.handler j)
    (handed : s'.stats.handed = s.stats.handed ++ [chunk])
    (spawned : s'.traces.spawned = s.traces.spawned) :
    s'.Labels setup actions (fed ++ [(label i, chunk)]) label rounds next := by
  obtain ⟨lt, absent, chunks⟩ := start.sharing i decoded _ had
  have before {j : Nat} (shares : (s'.handler j).sharing.isSome) :
      (s.handler j).sharing.isSome := by
    by_cases same : j = i
    · simp [same, had]
    · rwa [others j same] at shares
  refine ⟨?_, ?_, start.known, start.nodup, ?_, ?_, ?_⟩
  · rw [List.map_append, start.handed, handed, List.map_singleton]
  · intro entry mem
    rcases List.mem_append.1 mem with old | new
    · exact start.used entry old
    · rw [List.mem_singleton.1 new]
      exact lt
  · intro j decoded' left' shares
    by_cases same : j = i
    · subst same
      cases here.symm.trans shares
      refine ⟨lt, absent, ?_⟩
      rw [labelled_concat, List.append_assoc, List.singleton_append, chunks]
    · rw [others j same] at shares
      obtain ⟨lt', absent', chunks'⟩ := start.sharing j decoded' left' shares
      refine ⟨lt', absent', ?_⟩
      have ne : label j ≠ label i := start.apart j i same (by simp [shares]) (by simp [had])
      rw [labelled_concat_of_ne fed chunk ne, chunks']
  · intro j k ne sharesJ sharesK
    exact start.apart j k ne (before sharesJ) (before sharesK)
  · rw [spawned]
    refine List.forall₂_iff_get.2 ⟨start.made.length_eq, ?_⟩
    intro n h h'
    refine ((List.forall₂_iff_get.1 start.made).2 n h h').concat chunk ?_
    intro same
    exact absent (same ▸ List.mem_map_of_mem (List.getElem_mem h))

omit [DecidableEq L] in
theorem labels_spawns (start : s.Labels setup actions fed label rounds next)
    {decoded : DecodedTraces D R X H} {payload : TracerPayloadCollection D R X}
    {req : HttpRequest H}
    (had : (s.handler i).sharing = some (decoded, [])) (requested : .request i req ∈ actions)
    (decodes : decodeTraces setup.config setup.traceUtils req = .ok decoded)
    (rescued : Rescued setup decoded.payload payload) (here : (s'.handler i).sharing = none)
    (others : ∀ j, j ≠ i → s'.handler j = s.handler j)
    (handed : s'.stats.handed = s.stats.handed)
    (spawned : s'.traces.spawned = s.traces.spawned ++
      [{ decoded with payload }.sendDatas setup.traceUtils.encodedLen]) :
    s'.Labels setup actions fed label (rounds ++ [(label i, req)]) next := by
  obtain ⟨lt, absent, chunks⟩ := start.sharing i decoded [] had
  have other {j : Nat} (shares : (s'.handler j).sharing.isSome) : j ≠ i := by
    rintro rfl
    simp [here] at shares
  refine ⟨start.handed.trans handed.symm, start.used, ?_, ?_, ?_, ?_, ?_⟩
  · intro l mem
    rw [List.map_append] at mem
    rcases List.mem_append.1 mem with old | new
    · exact start.known l old
    · rw [List.mem_singleton.1 new]
      exact lt
  · rw [List.map_append, List.map_singleton, ← List.concat_eq_append]
    exact start.nodup.concat absent
  · intro j decoded' left shares
    have ne : j ≠ i := other (by simp [shares])
    rw [others j ne] at shares
    obtain ⟨lt', absent', chunks'⟩ := start.sharing j decoded' left shares
    refine ⟨lt', ?_, chunks'⟩
    simp only [List.map_append, List.map_singleton, List.mem_append, List.mem_singleton, not_or]
    exact ⟨absent', start.apart j i ne (by simp [shares]) (by simp [had])⟩
  · intro j k ne sharesJ sharesK
    have sharesJ' := others j (other sharesJ) ▸ sharesJ
    have sharesK' := others k (other sharesK) ▸ sharesK
    exact start.apart j k ne sharesJ' sharesK'
  · rw [spawned]
    refine List.rel_append start.made (.cons ?_ .nil)
    rw [List.append_nil] at chunks
    exact ⟨i, decoded, payload, requested, decodes, rescued, rfl, chunks⟩

omit [DecidableEq L] in
theorem labels_keeps (start : s.Labels setup actions fed label rounds next)
    (handlers : ∀ j, (s'.handler j).sharing = (s.handler j).sharing ∨ (s'.handler j).sharing = none)
    (handed : s'.stats.handed = s.stats.handed) (spawned : s'.traces.spawned = s.traces.spawned) :
    s'.Labels setup actions fed label rounds next := by
  have before {j : Nat} (shares : (s'.handler j).sharing.isSome) :
      (s'.handler j).sharing = (s.handler j).sharing := by
    rcases handlers j with same | none_
    · exact same
    · simp [none_] at shares
  refine ⟨start.handed.trans handed.symm, start.used, start.known, start.nodup, ?_, ?_,
    spawned ▸ start.made⟩
  · intro j decoded left shares
    have some_ : (s'.handler j).sharing.isSome := by simp [shares]
    exact start.sharing j decoded left ((before some_).symm.trans shares)
  · intro j k ne sharesJ sharesK
    exact start.apart j k ne (before sharesJ ▸ sharesJ) (before sharesK ▸ sharesK)

/-- The requests of the rounds are those that their answers are to. -/
theorem labels_of_act (start : s.Labels setup actions fed label rounds next)
    (attributed : s.Attributed setup q (rounds.map Prod.snd))
    (posted : ∀ i req, q.last i = some req → .request i req ∈ actions)
    (h : s.act setup a = some s') :
    ∃ fed label rounds next, s'.Labels setup actions fed label rounds next ∧
      s'.Attributed setup (q.after a) (rounds.map Prod.snd) := by
  cases shares_of_act h with
  | keeps handlers due handed spawned =>
    exact ⟨fed, label, rounds, next, labels_keeps start handlers handed spawned,
      attributed_keeps attributed h due spawned⟩
  | begins i req decoded decodes here others handed spawned =>
    refine ⟨_, _, rounds, _, labels_begins start here others handed spawned,
      attributed_keeps attributed h (fun j => ?_) spawned⟩
    by_cases same : j = i
    · subst same
      exact .inr (HandlerPhase.due_eq_none_of_sharing here)
    · rw [others j same]
      exact .inl rfl
  | adds i decoded chunk left had here others handed unhanded spawned =>
    cases started : setup.statsConcentrator with
    | true =>
      refine ⟨_, _, rounds, _, labels_adds start had here others (handed started) spawned,
        attributed_keeps attributed h (fun j => ?_) spawned⟩
      by_cases same : j = i
      · subst same
        exact .inr (HandlerPhase.due_eq_none_of_sharing here)
      · rw [others j same]
        exact .inl rfl
    | false =>
      -- without a concentrator there is nothing to share
      have chunks := (start.sharing i decoded _ had).2.2
      simp [MiniAgentSetup.shared, started] at chunks
  | spawns i decoded payload had rescued here due others handed spawned =>
    obtain ⟨req, last, decodes⟩ :=
      (attributed.asAsked i).traces decoded (HandlerPhase.carriedTraces_of_sharing had)
    refine ⟨_, _, _, _, labels_spawns start had (posted i req last) decodes rescued here others
      handed spawned, ?_⟩
    rw [List.map_append]
    exact attributed_spawns attributed h had last due others spawned

omit [DecidableEq L] in
theorem labels_init (rescueState : W) :
    (init rescueState : MiniAgent D R X G K H L W).Labels setup actions [] id [] 0 where
  handed := rfl
  used := by simp
  known := by simp
  nodup := .nil
  sharing := by simp [init, HandlerPhase.sharing]
  apart := by simp [init, HandlerPhase.sharing]
  made := .nil

theorem labels_run {rescueState : W}
    (run : Runs.exec (step setup) (init rescueState) actions = some s) :
    s.Promises ∧ ∃ fed label rounds next, s.Labels setup actions fed label rounds next ∧
      s.Attributed setup (asked actions) (rounds.map Prod.snd) := by
  have tracked := Runs.invariant_noted Asked.after (G := (· ∈ actions))
    (P := fun q s => (∀ i req, q.last i = some req → .request i req ∈ actions) ∧ s.Promises ∧
      ∃ fed label rounds next, s.Labels setup actions fed label rounds next ∧
        s.Attributed setup q (rounds.map Prod.snd)) ?_
    ⟨by simp, promises_init rescueState, _, _, _, _, labels_init rescueState,
      attributed_init rescueState⟩
    (fun _ mem => mem) run
  · exact tracked.2
  rintro q s a s' ⟨posted, promises, fed, label, rounds, next, labels, attributed⟩ mem h
  have acts := (act_of_step h).2
  refine ⟨?_, promises_effect promises (effect_of_act acts),
    labels_of_act labels attributed posted acts⟩
  intro i req last
  by_cases comes : ∃ req, a = .request i req
  · obtain ⟨req', rfl⟩ := comes
    obtain rfl : req' = req := by simpa [Asked.after] using last
    exact mem
  · push Not at comes
    rw [Asked.last_after comes] at last
    exact posted i req last

end MiniAgent

/-! ## What the tracer sent -/

theorem chunks_insertFunctionTags (functionTags : Option String)
    (payload : TracerPayloadCollection D R X) :
    (insertFunctionTags functionTags payload).chunks = payload.chunks := by
  unfold insertFunctionTags
  split
  · simp [TracerPayloadCollection.chunks, List.flatMap_map]
  · rfl

/-- `collect_pb_trace_chunks` calls the chunk processor for every chunk it returns. -/
def Processes (processor : ChunkProcessor) (spanUtils : SpanUtils D R)
    (utils : TraceUtils D R X H) : Prop :=
  ∀ traces tags payload, utils.collectPbTraceChunks traces tags = .ok payload →
    ∀ chunk ∈ payload.chunks, ∃ raw root, processor.process spanUtils raw root = some chunk

theorem processed_of_decodeTraces {utils : TraceUtils D R X H} {processor : ChunkProcessor}
    {spanUtils : SpanUtils D R}
    (processes : Processes processor spanUtils utils) {config : Config} {req : HttpRequest H}
    {decoded : DecodedTraces D R X H} (decodes : decodeTraces config utils req = .ok decoded)
    {chunk : TraceChunk D R} (mem : chunk ∈ decoded.payload.chunks) :
    ∃ raw root, processor.process spanUtils raw root = some chunk := by
  unfold decodeTraces at decodes
  split at decodes
  · cases decodes
  · split at decodes
    · cases decodes
    · split at decodes
      · cases decodes
      next payload collected =>
        cases decodes
        rw [chunks_insertFunctionTags] at mem
        exact processes _ _ payload collected chunk mem

/-! ## The rescue -/

section Rescue

/-- As the error rescue leaves a chunk: it may have stamped the root, if the chunk is eligible. -/
def Rescues (getRootSpanIndex : GetRootSpanIndex D R) (tracerDropEnabled : Bool)
    (chunk chunk' : TraceChunk D R) : Prop :=
  chunk' = chunk ∨ ∃ root errorsSr,
    rescueRootIndex getRootSpanIndex chunk tracerDropEnabled = some root ∧
      chunk' = chunk.stamp root errorsSr

theorem forall₂_mapIdx {α β : Type} {P : α → β → Prop} {f : Nat → α → β} {l : List α}
    (each : ∀ i a, l[i]? = some a → P a (f i a)) : List.Forall₂ P l (l.mapIdx f) := by
  rw [List.forall₂_iff_get]
  refine ⟨by simp, ?_⟩
  intro i lt lt'
  simpa using each i l[i] (List.getElem?_eq_getElem lt)

variable (getRootSpanIndex : GetRootSpanIndex D R) (config : RescueConfig)

/-- An edit of selected chunks, with their roots. -/
theorem rescues_edit {tracerPayloads : List (TracerPayload D R)} {v : Verdict D}
    (selected : ∀ place kept, v place = some kept →
      Selects getRootSpanIndex config tracerPayloads place kept.rootIndex) :
    List.Forall₂ (Rescues getRootSpanIndex config.errorRareSampleTracerDrop)
      (tracerPayloads.flatMap (·.chunks)) ((edit v tracerPayloads).flatMap (·.chunks)) := by
  refine List.rel_flatten (List.rel_map ?_ (forall₂_mapIdx (P := fun tp tp' =>
    List.Forall₂ (Rescues getRootSpanIndex config.errorRareSampleTracerDrop) tp.chunks tp'.chunks)
    ?_))
  · exact fun _ _ chunks => chunks
  · intro i tracerPayload atPayload
    refine forall₂_mapIdx ?_
    intro j chunk atChunk
    cases judged : v (toLex (i, j)) with
    | none => exact .inl rfl
    | some kept =>
      obtain ⟨chunk', ⟨tracerPayload', atPayload', atChunk'⟩, root⟩ := selected _ kept judged
      simp only [ofLex_toLex] at atPayload' atChunk'
      cases atPayload.symm.trans atPayload'
      cases atChunk.symm.trans atChunk'
      exact .inr ⟨kept.rootIndex, kept.errorsSr, root, rfl⟩

variable [Zero S] [Add S] [LT S] [DecidableLT S] [Max S] [TraceSampler.Widen S D]
  [TraceSampler.Narrow S D] [TraceSampler.Double D] [Zero D] [One D] [Sub D] [Mul D] [Div D]
  [NatCast D] [OfScientific D] [LT D] [DecidableLT D] [LE D] [DecidableLE D] [BEq D]

/-- `apply_error_rescue`, with what it leaves behind the lock. -/
def applyErrorRescue (state : ErrorRescue S D) (payload : TracerPayloadCollection D R X)
    (clock : Nat) : Option (TracerPayloadCollection D R X × ErrorRescue S D) :=
  (applyErrorRescueWithClock getRootSpanIndex config state payload clock).map
    fun (payload, state, _) => (payload, state)

theorem rescues_applyErrorRescue
    (inRange : ∀ spans i, getRootSpanIndex spans = .ok i → i < spans.length)
    {state state' : ErrorRescue S D} {payload payload' : TracerPayloadCollection D R X}
    {clock : Nat}
    (h : applyErrorRescue getRootSpanIndex config state payload clock = some (payload', state')) :
    List.Forall₂ (Rescues getRootSpanIndex config.errorRareSampleTracerDrop) payload.chunks
      payload'.chunks := by
  have untouched (payload : TracerPayloadCollection D R X) :
      List.Forall₂ (Rescues getRootSpanIndex config.errorRareSampleTracerDrop) payload.chunks
        payload.chunks := List.forall₂_same.2 fun _ _ => .inl rfl
  obtain ⟨⟨payload₁, state₁, consultations₁⟩, applied, result⟩ := Option.map_eq_some_iff.1 h
  obtain ⟨rfl, rfl⟩ := Prod.mk.inj result
  cases payload with
  | v04 | v05 | v1 =>
    cases applied
    exact untouched _
  | v07 tracerPayloads =>
    simp only [applyErrorRescueWithClock] at applied
    split at applied
    · cases applied
      exact untouched _
    · split at applied
      · cases applied
        exact untouched _
      · obtain ⟨sampler, consultations, all, written, -, asked, -, -⟩ :=
          rescue_candidates config inRange state.sampler tracerPayloads
            (max state.lastSamplerTimestamp clock)
        simp only [all, Option.bind_eq_bind, Option.bind_some, written, Option.pure_def,
          Option.some.injEq, Prod.mk.injEq] at applied
        obtain ⟨rfl, -, -⟩ := applied
        refine rescues_edit getRootSpanIndex config ?_
        intro place kept judged
        obtain ⟨c, found, keeps⟩ := Option.bind_eq_some_iff.1 judged
        have here : c.place = place := by simpa using List.find?_some found
        rw [(Consultation.of_kept keeps).2]
        exact (asked place c.rootIndex).1 ⟨c, List.mem_of_find?_eq_some found, here, rfl⟩

/-! ## Runs of the agent with its rescue -/

/-- The agent as it runs, with the state of the rescue behind the lock. -/
def agentSetup (stats : StatsSetup D R G K) (utils : TraceUtils D R X H) (tracerDrop : Bool) :
    MiniAgentSetup D R X G K H (ErrorRescue S D) :=
  { stats with
    traceUtils := utils
    rescue := applyErrorRescue utils.getRootSpanIndex ⟨stats.config.env, tracerDrop⟩ }

namespace MiniAgent

variable [DecidableEq L]

/-- The chunks of a request that came in: they are those with the label in what the concentrator
got, and those of the pieces, as the rescue leaves them. -/
def SharedAs (setup : MiniAgentSetup D R X G K H (ErrorRescue S D)) (tracerDrop : Bool)
    (actions : List (Action H L)) (s : MiniAgent D R X G K H L (ErrorRescue S D))
    (fed : List (Nat × TraceChunk D R)) (label round : Nat) (req : HttpRequest H) : Prop :=
  ∃ i decoded sendDatas, .request i req ∈ actions ∧
    decodeTraces setup.config setup.traceUtils req = .ok decoded ∧
    s.traces.spawned[round]? = some sendDatas ∧
    labelled label fed = setup.shared decoded ∧
    List.Forall₂ (Rescues setup.traceUtils.getRootSpanIndex tracerDrop) decoded.payload.chunks
      (sendDatas.flatMap (·.tracerPayload.chunks))

variable {stats : StatsSetup D R G K} {utils : TraceUtils D R X H} {tracerDrop : Bool}
  {actions : List (Action H L)} {s : MiniAgent D R X G K H L (ErrorRescue S D)}

omit [DecidableEq L] in
theorem sharedAs_of_buffered
    (inRange : ∀ spans i, utils.getRootSpanIndex spans = .ok i → i < spans.length)
    (promises : s.Promises) {fed : List (Nat × TraceChunk D R)} {label : Nat → Nat}
    {rounds : List (Nat × HttpRequest H)} {next : Nat}
    (labels : s.Labels (agentSetup stats utils tracerDrop) actions fed label rounds next)
    {answer : Answer} (answered : answer ∈ s.answered)
    (buffered : answer.response = .tracesBuffered) :
    ∃ round label req, answer.receipt = .traces round ∧ rounds[round]? = some (label, req) ∧
      SharedAs (agentSetup stats utils tracerDrop) tracerDrop actions s fed label round req := by
  obtain ⟨round, lt, receipt⟩ := (promises.answered answer answered).traces buffered
  have lt' : round < rounds.length := labels.made.length_eq ▸ lt
  obtain ⟨i, decoded, payload, requested, decodes, ⟨state, clock, state', rescued⟩, pieces,
    chunks⟩ := (List.forall₂_iff_get.1 labels.made).2 round lt' lt
  refine ⟨round, rounds[round].1, rounds[round].2, receipt, List.getElem?_eq_getElem lt', i,
    decoded, _, requested, decodes, List.getElem?_eq_getElem lt, chunks, ?_⟩
  have same := rescues_applyErrorRescue _ _ inRange rescued
  rw [List.get_eq_getElem] at pieces
  rwa [pieces, chunks_sendDatas]

/-- In every run the chunks that the concentrator got can be labelled such that every request that
was answered as buffered has a label of its own: the chunks with this label are exactly the chunks
of the request in order, if stats are computed, and the pieces that were made of the request have
the same chunks in the same order, up to a rate on the root of an eligible one. The request of an
answer is the last one on its connection; no two answers have one round of pieces. -/
theorem stats_match_traces (stats : StatsSetup D R G K) (utils : TraceUtils D R X H)
    (inRange : ∀ spans i, utils.getRootSpanIndex spans = .ok i → i < spans.length)
    (tracerDrop : Bool) (state : ErrorRescue S D) (actions : List (Action H L))
    (s : MiniAgent D R X G K H L (ErrorRescue S D))
    (run : Runs.exec (step (agentSetup stats utils tracerDrop)) (init state) actions = some s) :
    ∃ (fed : List (Nat × TraceChunk D R)) (rounds : List Nat),
      fed.map Prod.snd = s.stats.handed ∧ rounds.Nodup ∧
      s.answered.Pairwise (fun answer later =>
        ∀ round, answer.receipt = .traces round → later.receipt ≠ .traces round) ∧
      List.Forall₂ (fun last answer => answer.response = .tracesBuffered →
          ∃ req round label, last = some req ∧ answer.receipt = .traces round ∧
            rounds[round]? = some label ∧
            SharedAs (agentSetup stats utils tracerDrop) tracerDrop actions s fed label round req)
        (asked actions).answered s.answered := by
  obtain ⟨promises, fed, label, rounds, next, labels, attributed⟩ := labels_run run
  refine ⟨fed, rounds.map Prod.fst, labels.handed, labels.nodup, attributed.once, ?_⟩
  refine List.forall₂_iff_get.2 ⟨attributed.answered.length_eq, ?_⟩
  intro n lt lt' buffered
  obtain ⟨round, l, req, receipt, found, shared⟩ :=
    sharedAs_of_buffered inRange promises labels (List.get_mem s.answered ⟨n, lt'⟩) buffered
  obtain ⟨req', last, origin⟩ := attributed.answered.get lt lt' round receipt
  obtain rfl : req = req' := by simpa [found] using origin
  exact ⟨req, round, l, last, receipt, by simp [found], shared⟩

/-- In every run, of the chunks of a request that was answered as buffered only those are stamped
that the tracer sent with an error and as P0 or, with the feature, as dropped but not by hand, and
the rate stands on their root. All others are shipped as the chunk processor leaves them. -/
theorem manual_drops_unstamped (stats : StatsSetup D R G K) (utils : TraceUtils D R X H)
    (inRange : ∀ spans i, utils.getRootSpanIndex spans = .ok i → i < spans.length)
    (processor : ChunkProcessor) (spanUtils : SpanUtils D R)
    (processes : Processes processor spanUtils utils)
    (tracerDrop : Bool) (state : ErrorRescue S D) (actions : List (Action H L))
    (s : MiniAgent D R X G K H L (ErrorRescue S D))
    (run : Runs.exec (step (agentSetup stats utils tracerDrop)) (init state) actions = some s)
    (answer : Answer) (answered : answer ∈ s.answered)
    (buffered : answer.response = .tracesBuffered) :
    ∃ round i req decoded sendDatas, answer.receipt = .traces round ∧ .request i req ∈ actions ∧
      decodeTraces stats.config utils req = .ok decoded ∧
      s.traces.spawned[round]? = some sendDatas ∧
      List.Forall₂ (fun chunk shipped => ∃ raw root,
          processor.process spanUtils raw root = some chunk ∧
          (shipped = chunk ∨ raw.Rescuable tracerDrop ∧ chunk.spans.any (·.error != 0) = true ∧
            ∃ root errorsSr, utils.getRootSpanIndex chunk.spans = .ok root ∧
              shipped = chunk.stamp root errorsSr))
        decoded.payload.chunks (sendDatas.flatMap (·.tracerPayload.chunks)) := by
  obtain ⟨promises, fed, label, rounds, next, labels, -⟩ := labels_run run
  obtain ⟨round, l, req, receipt, -, i, decoded, sendDatas, requested, decodes, spawned, -,
    rescues⟩ := sharedAs_of_buffered inRange promises labels answered buffered
  refine ⟨round, i, req, decoded, sendDatas, receipt, requested, decodes, spawned, ?_⟩
  refine List.forall₂_iff_get.2 ⟨rescues.length_eq, ?_⟩
  intro n lt lt'
  obtain ⟨raw, rawRoot, processed⟩ :=
    processed_of_decodeTraces processes decodes (List.get_mem decoded.payload.chunks ⟨n, lt⟩)
  refine ⟨raw, rawRoot, processed, ?_⟩
  refine ((List.forall₂_iff_get.1 rescues).2 n lt lt').imp_right ?_
  rintro ⟨root, errorsSr, selected, stamped⟩
  obtain ⟨eligible_, failed, selected⟩ := rescueRootIndex_eq_some_iff.1 selected
  exact ⟨(eligible_process processed tracerDrop).1 eligible_, failed, root, errorsSr, selected,
    stamped⟩

end MiniAgent

end Rescue

/-! ## Two requests with errors -/

section Exact

/-- Exact numbers, converted as the floats are where both agree. -/
local instance : TraceSampler.Double ℚ where
  isFinite _ := true
  toU64 q := UInt64.ofNat q.floor.toNat
  ofU64 n := n.toNat

local instance : TraceSampler.Narrow ℚ ℚ := ⟨id⟩
local instance : TraceSampler.Widen ℚ ℚ := ⟨id⟩

namespace Example

/-- Utilities that find nothing to add to a span. -/
def plainSpans : SpanUtils ℚ Unit :=
  ⟨fun span _ _ => span, fun span _ => span, id, fun span _ _ => span, id⟩

def functionChunks : ChunkProcessor :=
  ⟨none, .azureFunction, ⟨none, none, none, none, none⟩⟩

/-- Two failed traces: the sampler of the tracer has dropped the one, the user the other. -/
def failedTraces : List (TraceChunk ℚ Unit) :=
  let byHand : Tags := (∅ : Tags).insert DECISION_MAKER_KEY MANUAL_DECISION_MAKER
  [⟨0, "", [⟨"web", "web.request", "GET /", 7, 1, ∅, ∅, ()⟩], ∅, false⟩,
    ⟨-1, "", [⟨"web", "web.request", "GET /", 8, 1, byHand, ∅, ()⟩], ∅, false⟩]

def failedUtils : TraceUtils ℚ Unit Unit Unit where
  Traces := Unit
  getTracesFromRequestBody := fun _ => .ok (128, ())
  collectPbTraceChunks := fun _ _ =>
    let chunks := failedTraces.filterMap (functionChunks.process plainSpans · 0)
    .ok (.v07 [⟨"", "python", "", "", "", chunks, ∅, "", "", ""⟩])
  getRootSpanIndex := firstSpan
  encodedLen := fun tp => 100 * tp.chunks.length

theorem failedUtils_processes : Processes functionChunks plainSpans failedUtils := by
  intro traces tags payload collected chunk mem
  cases collected
  obtain ⟨raw, -, processed⟩ := List.mem_filterMap.1 (by
    simpa [TracerPayloadCollection.chunks] using mem)
  exact ⟨raw, 0, processed⟩

/-- Statistics are computed. -/
def computedStats : StatsSetup ℚ Unit Unit Unit where
  config := ⟨"", 1000, true, none, some "key"⟩
  utils := ⟨fun _ => .error "", fun stats => ⟨"", "", stats, "", true, false⟩, fun _ => .ok []⟩
  concentrator := ⟨fun _ => (), fun _ _ => (), fun _ _ _ => ([], ())⟩
  statsConcentrator := true

def tracesPost (traceId : UInt8) : HttpRequest Unit :=
  ⟨"POST", "/v0.4/traces", ⟨some (some "128"), false, ()⟩, .ok [traceId]⟩

/-- Two clients post the failed traces, and their handlers take turns; the second is answered
first. -/
def alternating : List (Action Unit Unit) :=
  [.accept, .accept, .request 0 (tracesPost 7), .request 1 (tracesPost 8)] ++
    (List.replicate 6 [.resume 0 1700000000, .resume 1 1700000001]).flatten ++
    [.answer 1, .answer 0]

end Example

namespace MiniAgent

open Example

theorem stats_match_traces_two :
    ∃ s, Runs.exec (step (agentSetup computedStats failedUtils true)) (init (rescue 10))
        alternating = some s ∧
      s.stats.handed.map (·.priority) = [0, 0, -1, -1] ∧
      (asked alternating).answered = [some (tracesPost 8), some (tracesPost 7)] ∧
      ∃ (fed : List (Nat × TraceChunk ℚ Unit)) (rounds : List Nat),
        fed.map Prod.snd = s.stats.handed ∧ rounds.Nodup ∧
        s.answered.Pairwise (fun answer later =>
          ∀ round, answer.receipt = .traces round → later.receipt ≠ .traces round) ∧
        List.Forall₂ (fun last answer => answer.response = .tracesBuffered →
            ∃ req round label, last = some req ∧ answer.receipt = .traces round ∧
              rounds[round]? = some label ∧
              SharedAs (agentSetup computedStats failedUtils true) true alternating s fed label
                round req)
          (asked alternating).answered s.answered := by
  have mixed : (Runs.exec (step (agentSetup computedStats failedUtils true)) (init (rescue 10))
      alternating).map (fun s => s.stats.handed.map (·.priority)) = some [0, 0, -1, -1] := by
    decide +kernel
  obtain ⟨s, run, mixed⟩ := Option.map_eq_some_iff.1 mixed
  exact ⟨s, run, mixed, rfl, stats_match_traces computedStats failedUtils firstSpan_inRange true
    (rescue 10) alternating s run⟩

theorem manual_drops_unstamped_two :
    ∃ s, Runs.exec (step (agentSetup computedStats failedUtils true)) (init (rescue 10))
        alternating = some s ∧
      (s.traces.spawned.flatten.flatMap (·.tracerPayload.chunks)).map
        (·.spans.map fun span => (span.metrics.lookup ERRORS_SR_METRIC_KEY).isSome) =
          [[true], [false], [true], [false]] ∧
      ∃ round i req decoded sendDatas, (.traces 1 : Receipt) = .traces round ∧
        .request i req ∈ alternating ∧
        decodeTraces computedStats.config failedUtils req = .ok decoded ∧
        s.traces.spawned[round]? = some sendDatas ∧
        List.Forall₂ (fun chunk shipped => ∃ raw root,
            functionChunks.process plainSpans raw root = some chunk ∧
            (shipped = chunk ∨ raw.Rescuable true ∧ chunk.spans.any (·.error != 0) = true ∧
              ∃ root errorsSr, failedUtils.getRootSpanIndex chunk.spans = .ok root ∧
                shipped = chunk.stamp root errorsSr))
          decoded.payload.chunks (sendDatas.flatMap (·.tracerPayload.chunks)) := by
  have ends : (Runs.exec (step (agentSetup computedStats failedUtils true)) (init (rescue 10))
      alternating).map (fun s => (s.answered,
        (s.traces.spawned.flatten.flatMap (·.tracerPayload.chunks)).map
          (·.spans.map fun span => (span.metrics.lookup ERRORS_SR_METRIC_KEY).isSome))) =
      some ([⟨.tracesBuffered, .traces 1⟩, ⟨.tracesBuffered, .traces 0⟩],
        [[true], [false], [true], [false]]) := by decide +kernel
  obtain ⟨s, run, ends⟩ := Option.map_eq_some_iff.1 ends
  obtain ⟨answers, stamps⟩ := Prod.mk.inj ends
  exact ⟨s, run, stamps, manual_drops_unstamped computedStats failedUtils firstSpan_inRange
    functionChunks plainSpans failedUtils_processes true (rescue 10) alternating s run
    ⟨.tracesBuffered, .traces 1⟩ (by simp [answers]) rfl⟩

end MiniAgent

end Exact

end ServerlessComponents.TraceAgent
