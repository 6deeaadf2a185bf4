import Mathlib.Algebra.Field.Rat
import Mathlib.Algebra.Order.Ring.Rat
import ServerlessComponents.TraceAgent.ErrorRescue

/-!
# Error rescue is a minimal edit

What error rescue does to a payload is an edit: at the places of the kept chunks a metric is written
on the root, and nothing else changes. The places consulted are those of the selected chunks, each
once and in payload order.
-/
namespace ServerlessComponents.TraceAgent

open TraceSampler

variable {S D R X : Type}

/-! ## Edits -/

/-- Which chunk to stamp, and how. -/
abbrev Verdict (D : Type) := Place → Option (Kept D)

/-- A chunk as the verdict on it leaves it. -/
def TraceChunk.judged (chunk : TraceChunk D R) : Option (Kept D) → TraceChunk D R
  | none => chunk
  | some kept => chunk.stamp kept.rootIndex kept.errorsSr

/-- One metric of one span of the chunk is written, and nothing else. -/
structure TraceChunk.Writes (chunk : TraceChunk D R) (root : Nat) (key : String) (value : D)
    (chunk' : TraceChunk D R) : Prop where
  rest : chunk' = { chunk with spans := chunk'.spans }
  others : ∀ i, i ≠ root → chunk'.spans[i]? = chunk.spans[i]?
  missing : chunk.spans[root]? = none → chunk'.spans[root]? = none
  written : ∀ span, chunk.spans[root]? = some span → ∃ span', chunk'.spans[root]? = some span' ∧
    span' = { span with metrics := span'.metrics } ∧ span'.metrics.lookup key = some value ∧
    ∀ other, other ≠ key → span'.metrics.lookup other = span.metrics.lookup other

theorem TraceChunk.writes_stamp (chunk : TraceChunk D R) (root : Nat) (errorsSr : D) :
    chunk.Writes root ERRORS_SR_METRIC_KEY errorsSr (chunk.stamp root errorsSr) := by
  refine ⟨rfl, ?_, ?_, ?_⟩
  · intro i other
    simp [stamp, other.symm]
  · intro missing
    simp [stamp, missing]
  · intro span found
    refine ⟨span.insertMetric ERRORS_SR_METRIC_KEY errorsSr, by simp [stamp, found], rfl, ?_, ?_⟩
    · simp [Span.insertMetric]
    · intro other different
      exact AList.lookup_insert_ne different

/-- Stamp the chunks of some places and leave all else as it is. -/
def edit (verdict : Verdict D) (tracerPayloads : List (TracerPayload D R)) :
    List (TracerPayload D R) :=
  tracerPayloads.mapIdx fun i tracerPayload =>
    { tracerPayload with
      chunks := tracerPayload.chunks.mapIdx fun j chunk => chunk.judged (verdict (toLex (i, j))) }

def TracerPayloadCollection.edit (verdict : Verdict D) :
    TracerPayloadCollection D R X → TracerPayloadCollection D R X
  | .v07 tracerPayloads => .v07 (TraceAgent.edit verdict tracerPayloads)
  | payload => payload

/-- The verdict the consultations gave. -/
def verdict (consultations : List (Consultation D)) : Verdict D := fun place =>
  (consultations.find? (·.place = place)).bind Consultation.kept

/-- The chunk at this place. -/
def ChunkAt (tracerPayloads : List (TracerPayload D R)) (place : Place)
    (chunk : TraceChunk D R) : Prop :=
  ∃ tracerPayload, tracerPayloads[(ofLex place).1]? = some tracerPayload ∧
    tracerPayload.chunks[(ofLex place).2]? = some chunk

theorem set_mapIdx {α β : Type} (l : List α) (f : Nat → α → β) (i : Nat) (b : β) :
    (l.mapIdx f).set i b = l.mapIdx fun k a => if k = i then b else f k a := by
  apply List.ext_getElem
  · simp
  · intro k _ _
    simp only [List.getElem_set, List.getElem_mapIdx]
    by_cases h : i = k
    · simp [h]
    · simp [h, Ne.symm h]

/-- Writing one chunk that was not judged yet is one more verdict. -/
theorem writeBack_edit {v : Verdict D} {tracerPayloads : List (TracerPayload D R)} {kept : Kept D}
    {chunk : TraceChunk D R}
    (found : ChunkAt tracerPayloads (toLex (kept.payloadIndex, kept.chunkIndex)) chunk)
    (inRange : kept.rootIndex < chunk.spans.length)
    (unjudged : v (toLex (kept.payloadIndex, kept.chunkIndex)) = none) :
    writeBack (edit v tracerPayloads) kept =
      some (edit (Function.update v (toLex (kept.payloadIndex, kept.chunkIndex)) (some kept))
        tracerPayloads) := by
  obtain ⟨tracerPayload, atPayload, atChunk⟩ := found
  simp only [ofLex_toLex] at atPayload atChunk
  have chunk' : (tracerPayload.chunks.mapIdx fun j chunk =>
      chunk.judged (v (toLex (kept.payloadIndex, j))))[kept.chunkIndex]? = some chunk := by
    simp [atChunk, unjudged, TraceChunk.judged]
  simp only [writeBack, edit, List.getElem?_mapIdx, atPayload, Option.map_some, Option.bind_eq_bind,
    Option.bind_some, chunk', guard, if_pos inRange, Option.pure_def, set_mapIdx]
  refine congrArg some (List.mapIdx_eq_mapIdx_iff.2 ?_)
  intro i hi
  by_cases samePayload : i = kept.payloadIndex
  · subst samePayload
    obtain rfl : tracerPayload = tracerPayloads[kept.payloadIndex] := by
      simpa [hi] using atPayload.symm
    simp only [if_true]
    congr 1
    refine List.mapIdx_eq_mapIdx_iff.2 ?_
    intro j hj
    by_cases sameChunk : j = kept.chunkIndex
    · subst sameChunk
      have same : tracerPayloads[kept.payloadIndex].chunks[kept.chunkIndex] = chunk := by
        simpa [hj] using atChunk
      simp [TraceChunk.judged, same]
    · have other : toLex (kept.payloadIndex, j) ≠ toLex (kept.payloadIndex, kept.chunkIndex) := by
        simpa using sameChunk
      rw [if_neg sameChunk, Function.update_of_ne other]
  · simp [samePayload]

/-! ## The verdict of a list of consultations -/

theorem verdict_concat_of_fresh {consultations : List (Consultation D)} {c : Consultation D}
    (fresh : ∀ earlier ∈ consultations, earlier.place ≠ c.place) :
    verdict (consultations ++ [c]) = Function.update (verdict consultations) c.place c.kept := by
  funext place
  by_cases same : place = c.place
  · subst same
    have absent : consultations.find? (·.place = c.place) = none := by simpa using fresh
    simp [verdict, List.find?_append, absent]
  · have other : ¬ c.place = place := fun h => same h.symm
    simp [verdict, List.find?_append, Function.update_of_ne same, other]

theorem verdict_eq_none_of_fresh {consultations : List (Consultation D)} {place : Place}
    (fresh : ∀ earlier ∈ consultations, earlier.place ≠ place) :
    verdict consultations place = none := by
  have absent : consultations.find? (·.place = place) = none := by simpa using fresh
  simp [verdict, absent]

/-- The consultation is about a chunk of the payloads and a span of it. -/
def Consultation.Refers (c : Consultation D) (tracerPayloads : List (TracerPayload D R)) : Prop :=
  ∃ chunk, ChunkAt tracerPayloads c.place chunk ∧ c.rootIndex < chunk.spans.length

theorem Consultation.of_kept {c : Consultation D} {k : Kept D} (h : c.kept = some k) :
    toLex (k.payloadIndex, k.chunkIndex) = c.place ∧ k.rootIndex = c.rootIndex := by
  unfold kept at h
  split at h <;> cases h
  exact ⟨rfl, rfl⟩

/-- Writing back what was kept gives the edit by the verdicts. -/
theorem foldlM_writeBack {tracerPayloads : List (TracerPayload D R)}
    {before after : List (Consultation D)}
    (order : (before ++ after).Pairwise fun a b => a.place < b.place)
    (refers : ∀ c ∈ after, c.Refers tracerPayloads) :
    (after.filterMap Consultation.kept).foldlM writeBack (edit (verdict before) tracerPayloads) =
      some (edit (verdict (before ++ after)) tracerPayloads) := by
  induction after generalizing before with
  | nil => simp
  | cons c rest ih =>
    have fresh : ∀ earlier ∈ before, earlier.place ≠ c.place := by
      intro earlier h
      exact ne_of_lt ((List.pairwise_append.1 order).2.2 earlier h c List.mem_cons_self)
    have step := verdict_concat_of_fresh fresh
    have later := @ih (before ++ [c]) (by simpa using order)
      (fun d h => refers d (List.mem_cons_of_mem c h))
    rw [List.append_assoc, List.singleton_append] at later
    rw [← later, List.filterMap_cons]
    cases kept : c.kept with
    | none =>
      have same : Function.update (verdict before) c.place none = verdict before := by
        rw [← verdict_eq_none_of_fresh fresh, Function.update_eq_self]
      rw [step, kept, same]
    | some k =>
      obtain ⟨place, root⟩ := Consultation.of_kept kept
      obtain ⟨chunk, found, inRange⟩ := refers c List.mem_cons_self
      rw [← place] at found
      have unjudged := verdict_eq_none_of_fresh fresh
      rw [← place] at unjudged
      rw [List.foldlM_cons, writeBack_edit found (root ▸ inRange) unjudged, step, kept, place]
      rfl

theorem edit_nil (tracerPayloads : List (TracerPayload D R)) :
    edit (verdict ([] : List (Consultation D))) tracerPayloads = tracerPayloads := by
  have same {α : Type} (l : List α) : (l.mapIdx fun _ a => a) = l := by
    apply List.ext_getElem <;> simp
  simp [edit, verdict, TraceChunk.judged, same]

/-! ## The selected chunks -/

section Selection

variable (getRootSpanIndex : GetRootSpanIndex D R) (config : RescueConfig)

/-- `rescue_root_index` selects the chunk at this place, with this root. -/
def Selects (tracerPayloads : List (TracerPayload D R)) (place : Place) (rootIndex : Nat) : Prop :=
  ∃ chunk, ChunkAt tracerPayloads place chunk ∧
    rescueRootIndex getRootSpanIndex chunk config.errorRareSampleTracerDrop = some rootIndex

variable (tracerPayloads : List (TracerPayload D R))

theorem exists_candidate_iff (place : Place) (rootIndex : Nat) :
    (∃ c ∈ candidates getRootSpanIndex config tracerPayloads,
      c.place = place ∧ c.rootIndex = rootIndex) ↔
      Selects getRootSpanIndex config tracerPayloads place rootIndex := by
  simp only [candidates, List.mem_flatMap, List.mem_filterMap, Prod.exists,
    List.mem_zipIdx_iff_getElem?, Option.map_eq_some_iff]
  constructor
  · rintro ⟨c, ⟨tracerPayload, i, atPayload, chunk, j, atChunk, root, selected, rfl⟩, rfl, rfl⟩
    exact ⟨chunk, ⟨tracerPayload, atPayload, atChunk⟩, selected⟩
  · rintro ⟨chunk, ⟨tracerPayload, atPayload, atChunk⟩, selected⟩
    exact ⟨_, ⟨tracerPayload, _, atPayload, chunk, _, atChunk, rootIndex, selected, rfl⟩, rfl, rfl⟩

/-- The candidate has the environment and the spans of its chunk. -/
def Candidate.Shows (config : RescueConfig) (c : Candidate)
    (tracerPayloads : List (TracerPayload D R)) : Prop :=
  ∀ tracerPayload chunk, tracerPayloads[c.payloadIndex]? = some tracerPayload →
    tracerPayload.chunks[c.chunkIndex]? = some chunk →
    c.env = resolvePayloadEnv tracerPayload.env config.env ∧ c.views = chunk.spans.map spanView

theorem candidates_show : ∀ c ∈ candidates getRootSpanIndex config tracerPayloads,
    c.Shows config tracerPayloads := by
  simp only [candidates, List.mem_flatMap, List.mem_filterMap, Prod.exists,
    List.mem_zipIdx_iff_getElem?, Option.map_eq_some_iff]
  rintro c ⟨tracerPayload, i, atPayload, chunk, j, atChunk, root, -, rfl⟩ other chunk' same same'
  obtain rfl : tracerPayload = other := Option.some.inj (atPayload.symm.trans same)
  obtain rfl : chunk = chunk' := Option.some.inj (atChunk.symm.trans same')
  exact ⟨rfl, rfl⟩

theorem candidates_pairwise :
    (candidates getRootSpanIndex config tracerPayloads).Pairwise fun a b => a.place < b.place := by
  have increasing {α : Type} (l : List α) : l.zipIdx.Pairwise fun a b => a.2 < b.2 := by
    have indices : (l.zipIdx.map Prod.snd).Pairwise (· < ·) := by
      rw [List.zipIdx_map_snd]
      exact List.pairwise_lt_range'
    exact List.pairwise_map.1 indices
  unfold candidates
  rw [List.pairwise_flatMap]
  refine ⟨?_, ?_⟩
  · rintro ⟨tracerPayload, i⟩ _
    rw [List.pairwise_filterMap]
    refine (increasing tracerPayload.chunks).imp ?_
    rintro ⟨chunk, j⟩ ⟨chunk', j'⟩ lt c hc c' hc'
    obtain ⟨root, -, rfl⟩ := Option.map_eq_some_iff.1 hc
    obtain ⟨root', -, rfl⟩ := Option.map_eq_some_iff.1 hc'
    exact Prod.Lex.toLex_lt_toLex.2 (.inr ⟨rfl, lt⟩)
  · refine (increasing tracerPayloads).imp ?_
    rintro ⟨tracerPayload, i⟩ ⟨tracerPayload', i'⟩ lt c hc c' hc'
    obtain ⟨_, -, hc⟩ := List.mem_filterMap.1 hc
    obtain ⟨_, -, hc'⟩ := List.mem_filterMap.1 hc'
    obtain ⟨root, -, rfl⟩ := Option.map_eq_some_iff.1 hc
    obtain ⟨root', -, rfl⟩ := Option.map_eq_some_iff.1 hc'
    exact Prod.Lex.toLex_lt_toLex.2 (.inl lt)

/-- What `rescue_root_index` selects is a span of its chunk. -/
theorem refers_of_selects
    (inRange : ∀ spans i, getRootSpanIndex spans = .ok i → i < spans.length) {place : Place}
    {rootIndex : Nat}
    (h : Selects getRootSpanIndex config tracerPayloads place rootIndex) :
    ∃ chunk, ChunkAt tracerPayloads place chunk ∧ rootIndex < chunk.spans.length := by
  obtain ⟨chunk, found, selected⟩ := h
  obtain ⟨-, -, root⟩ := rescueRootIndex_eq_some_iff.1 selected
  exact ⟨chunk, found, inRange chunk.spans rootIndex root⟩

/-- `rescue_root_index` selects this chunk of a collection of version 07. -/
def TracerPayloadCollection.Selects (payload : TracerPayloadCollection D R X) (place : Place)
    (rootIndex : Nat) : Prop :=
  match payload with
  | .v07 tracerPayloads =>
    TraceAgent.Selects getRootSpanIndex config tracerPayloads place rootIndex
  | _ => False

end Selection

/-! ## The consultations -/

section Consulting

variable [Zero S] [Add S] [LT S] [DecidableLT S] [Max S] [Widen S D] [Narrow S D]
  [Double D] [Zero D] [One D] [Sub D] [Mul D] [Div D] [NatCast D] [OfScientific D] [LT D]
  [DecidableLT D] [LE D] [DecidableLE D] [BEq D]

/-- The decisions are those of the sampler, asked once for each consultation in their order. -/
def Threads (sampler : ErrorsSampler S D) :
    List (Consultation D) → ErrorsSampler S D → Prop
  | [], sampler' => sampler' = sampler
  | c :: rest, sampler' =>
    (sampler.sample c.nowUnixSecs c.trace).2 = c.decision ∧
      Threads (sampler.sample c.nowUnixSecs c.trace).1 rest sampler'

/-- The index of the root is in range. -/
def Candidate.Refers (c : Candidate) (tracerPayloads : List (TracerPayload D R)) : Prop :=
  ∃ chunk, ChunkAt tracerPayloads c.place chunk ∧ c.rootIndex < chunk.spans.length

theorem consultAll_eq_some {tracerPayloads : List (TracerPayload D R)} (now : Int)
    (sampler : ErrorsSampler S D) {candidates : List Candidate}
    (refers : ∀ c ∈ candidates, c.Refers tracerPayloads) :
    ∃ sampler' consultations,
      consultAll tracerPayloads now sampler candidates = some (sampler', consultations) ∧
      consultations.map (fun c => (c.place, c.rootIndex)) =
        candidates.map (fun c => (c.place, c.rootIndex)) ∧
      (∀ c ∈ consultations, c.nowUnixSecs = now) ∧ Threads sampler consultations sampler' := by
  induction candidates generalizing sampler with
  | nil => exact ⟨sampler, [], rfl, rfl, by simp, rfl⟩
  | cons c rest ih =>
    obtain ⟨chunk, ⟨tracerPayload, atPayload, atChunk⟩, inRange⟩ := refers c List.mem_cons_self
    have atRoot : chunk.spans[c.rootIndex]? = some chunk.spans[c.rootIndex] :=
      List.getElem?_eq_getElem inRange
    obtain ⟨sampler₁, consultation, asked, place, root, time, first, next⟩ :
        ∃ sampler₁ consultation,
          consult tracerPayloads now sampler c = some (sampler₁, consultation) ∧
          consultation.place = c.place ∧ consultation.rootIndex = c.rootIndex ∧
          consultation.nowUnixSecs = now ∧
          (sampler.sample now consultation.trace).2 = consultation.decision ∧
          (sampler.sample now consultation.trace).1 = sampler₁ := by
      simp only [Candidate.place, ofLex_toLex] at atPayload atChunk
      simp only [consult, atPayload, atChunk, atRoot, Option.bind_eq_bind, Option.bind_some,
        Option.pure_def]
      exact ⟨_, _, rfl, rfl, rfl, rfl, rfl, rfl⟩
    obtain ⟨sampler', later, all, keys, times, threads⟩ :=
      ih sampler₁ (fun d h => refers d (List.mem_cons_of_mem c h))
    refine ⟨sampler', consultation :: later, ?_, ?_, ?_, ?_⟩
    · simp [consultAll, asked, all]
    · simp [place, root, keys]
    · simpa [time] using times
    · refine ⟨?_, ?_⟩
      · rw [time, first]
      · rwa [time, next]

/-- The sampler gets to see the chunk as it came in. -/
def Consultation.Views (config : RescueConfig) (c : Consultation D)
    (tracerPayloads : List (TracerPayload D R)) : Prop :=
  ∃ tracerPayload chunk root, tracerPayloads[c.payloadIndex]? = some tracerPayload ∧
    tracerPayload.chunks[c.chunkIndex]? = some chunk ∧ chunk.spans[c.rootIndex]? = some root ∧
    c.trace =
      { env := resolvePayloadEnv tracerPayload.env config.env
        traceId := root.traceId
        rootIndex := c.rootIndex
        rootGlobalSampleRate := (root.metrics.lookup "_sample_rate").getD 1
        spans := chunk.spans.map spanView }

theorem views_consult {config : RescueConfig} {tracerPayloads : List (TracerPayload D R)}
    {now : Int} {sampler sampler' : ErrorsSampler S D} {c : Candidate}
    {consultation : Consultation D} (shows : c.Shows config tracerPayloads)
    (asked : consult tracerPayloads now sampler c = some (sampler', consultation)) :
    consultation.Views config tracerPayloads := by
  simp only [consult, Option.bind_eq_bind, Option.bind_eq_some_iff, Option.pure_def,
    Option.some.injEq, Prod.mk.injEq] at asked
  obtain ⟨tracerPayload, atPayload, chunk, atChunk, root, atRoot, -, rfl⟩ := asked
  obtain ⟨env, views⟩ := shows tracerPayload chunk atPayload atChunk
  exact ⟨tracerPayload, chunk, root, atPayload, atChunk, atRoot, by rw [env, views]⟩

theorem views_consultAll {config : RescueConfig} {tracerPayloads : List (TracerPayload D R)}
    {now : Int} {sampler sampler' : ErrorsSampler S D} {candidates : List Candidate}
    {consultations : List (Consultation D)}
    (shows : ∀ c ∈ candidates, c.Shows config tracerPayloads)
    (all : consultAll tracerPayloads now sampler candidates = some (sampler', consultations)) :
    ∀ c ∈ consultations, c.Views config tracerPayloads := by
  induction candidates generalizing sampler consultations with
  | nil =>
    cases all
    simp
  | cons c rest ih =>
    simp only [consultAll, Option.bind_eq_bind, Option.bind_eq_some_iff, Option.pure_def,
      Option.some.injEq, Prod.mk.injEq] at all
    obtain ⟨⟨_, consultation⟩, asked, ⟨_, later⟩, all, rfl, rfl⟩ := all
    have first := views_consult (shows c List.mem_cons_self) asked
    have others := ih (fun d mem => shows d (List.mem_cons_of_mem c mem)) all
    simpa using ⟨first, others⟩

/-- The sampler gets to see the chunk of a collection of version 07. -/
def TracerPayloadCollection.Views (config : RescueConfig)
    (payload : TracerPayloadCollection D R X) (c : Consultation D) : Prop :=
  match payload with
  | .v07 tracerPayloads => c.Views config tracerPayloads
  | _ => False

end Consulting

/-! ## The minimal edit -/

section Rescue

variable [Zero S] [Add S] [LT S] [DecidableLT S] [Max S] [Widen S D] [Narrow S D]
  [Double D] [Zero D] [One D] [Sub D] [Mul D] [Div D] [NatCast D] [OfScientific D] [LT D]
  [DecidableLT D] [LE D] [DecidableLE D] [BEq D]
  (getRootSpanIndex : GetRootSpanIndex D R) (config : RescueConfig)

/-- The payload changes by the verdicts alone; the sampler is asked in payload order, about the
chunks as they came in, at one timestamp, and about nothing when no chunk is selected, when the
state stays as it is. -/
structure MinimalEdit (state : ErrorRescue S D) (payload : TracerPayloadCollection D R X)
    (clock : Int) (payload' : TracerPayloadCollection D R X) (state' : ErrorRescue S D)
    (consultations : List (Consultation D)) : Prop where
  edited : payload' = payload.edit (verdict consultations)
  inOrder : consultations.Pairwise fun a b => a.place < b.place
  selected : ∀ c ∈ consultations, payload.Selects getRootSpanIndex config c.place c.rootIndex
  viewed : ∀ c ∈ consultations, payload.Views config c
  oneTime : ∀ c ∈ consultations, c.nowUnixSecs = max state.lastSamplerTimestamp clock
  threaded : Threads state.sampler consultations state'.sampler
  idle : (∀ place root, ¬ payload.Selects getRootSpanIndex config place root) → state' = state

/-- Every selected chunk is consulted. -/
def ConsultsEach (payload : TracerPayloadCollection D R X)
    (consultations : List (Consultation D)) : Prop :=
  ∀ place root, payload.Selects getRootSpanIndex config place root →
    ∃ c ∈ consultations, c.place = place ∧ c.rootIndex = root

/-- Doing nothing is a minimal edit. -/
theorem minimalEdit_refl (state : ErrorRescue S D) (payload : TracerPayloadCollection D R X)
    (clock : Int) :
    MinimalEdit getRootSpanIndex config state payload clock payload state [] := by
  refine ⟨?_, .nil, by simp, by simp, by simp, rfl, fun _ => rfl⟩
  cases payload <;> simp [TracerPayloadCollection.edit, edit_nil]

/-- Sampling and writing back, once there is a candidate. -/
theorem rescue_candidates {getRootSpanIndex : GetRootSpanIndex D R}
    (inRange : ∀ spans i, getRootSpanIndex spans = .ok i → i < spans.length)
    (sampler : ErrorsSampler S D) (tracerPayloads : List (TracerPayload D R)) (now : Int) :
    ∃ sampler' consultations,
      consultAll tracerPayloads now sampler (candidates getRootSpanIndex config tracerPayloads) =
        some (sampler', consultations) ∧
      (consultations.filterMap Consultation.kept).foldlM writeBack tracerPayloads =
        some (edit (verdict consultations) tracerPayloads) ∧
      consultations.Pairwise (fun a b => a.place < b.place) ∧
      (∀ place root, (∃ c ∈ consultations, c.place = place ∧ c.rootIndex = root) ↔
        Selects getRootSpanIndex config tracerPayloads place root) ∧
      (∀ c ∈ consultations, c.nowUnixSecs = now) ∧ Threads sampler consultations sampler' := by
  have refers : ∀ c ∈ candidates getRootSpanIndex config tracerPayloads,
      c.Refers tracerPayloads := by
    intro c h
    exact refers_of_selects getRootSpanIndex config tracerPayloads inRange
      ((exists_candidate_iff getRootSpanIndex config tracerPayloads _ _).1 ⟨c, h, rfl, rfl⟩)
  obtain ⟨sampler', consultations, all, keys, times, threads⟩ :=
    consultAll_eq_some now sampler refers
  have asked (place : Place) (root : Nat) :
      (∃ c ∈ consultations, c.place = place ∧ c.rootIndex = root) ↔
        Selects getRootSpanIndex config tracerPayloads place root := by
    rw [← exists_candidate_iff]
    have mem := congrArg ((place, root) ∈ ·) keys
    simpa [Prod.ext_iff] using mem
  have order : consultations.Pairwise fun a b => a.place < b.place := by
    have places : consultations.map Consultation.place =
        (candidates getRootSpanIndex config tracerPayloads).map Candidate.place := by
      simpa [Function.comp_def] using congrArg (List.map Prod.fst) keys
    have sorted := candidates_pairwise getRootSpanIndex config tracerPayloads
    rw [← List.pairwise_map (R := (· < ·)), ← places, List.pairwise_map] at sorted
    exact sorted
  refine ⟨sampler', consultations, all, ?_, order, asked, times, threads⟩
  have written := @foldlM_writeBack _ _ tracerPayloads [] consultations (by simpa using order) (by
    intro c h
    exact refers_of_selects getRootSpanIndex config tracerPayloads inRange
      ((asked _ _).1 ⟨c, h, rfl, rfl⟩))
  rwa [edit_nil] at written

/-- Error rescue is a minimal edit for every payload collection, configuration and state; the
sampler is consulted once about every selected chunk when rescue is enabled, and when it is
disabled about none, and the state stays as it is. -/
theorem applyErrorRescue_minimalEdit
    (inRange : ∀ spans i, getRootSpanIndex spans = .ok i → i < spans.length)
    (state : ErrorRescue S D) (payload : TracerPayloadCollection D R X) (clock : Int) :
    ∃ payload' state' consultations,
      applyErrorRescueWithClock getRootSpanIndex config state payload clock =
        some (payload', state', consultations) ∧
      MinimalEdit getRootSpanIndex config state payload clock payload' state' consultations ∧
      (state.errorRescueEnabled = true →
        ConsultsEach getRootSpanIndex config payload consultations) ∧
      (state.errorRescueEnabled = false → consultations = [] ∧ state' = state) := by
  have unchanged := minimalEdit_refl getRootSpanIndex config state payload clock
  cases payload with
  | v07 tracerPayloads =>
    by_cases disabled : state.errorRescueEnabled = false
    · refine ⟨_, state, [], by simp [applyErrorRescueWithClock, disabled], unchanged, ?_, ?_⟩
      · simp [disabled]
      · simp
    simp only [applyErrorRescueWithClock, if_neg disabled]
    by_cases empty : (candidates getRootSpanIndex config tracerPayloads).isEmpty = true
    · refine ⟨_, state, [], by rw [if_pos empty], unchanged, ?_, fun h => absurd h disabled⟩
      intro _ place root selected
      obtain ⟨c, h, -⟩ := (exists_candidate_iff ..).2 selected
      rw [List.isEmpty_iff.1 empty] at h
      cases h
    obtain ⟨sampler', consultations, all, written, order, asked, times, threads⟩ :=
      rescue_candidates config inRange state.sampler tracerPayloads
        (max state.lastSamplerTimestamp clock)
    refine ⟨.v07 (edit (verdict consultations) tracerPayloads),
      { state with
        sampler := sampler'
        lastSamplerTimestamp := max state.lastSamplerTimestamp clock },
      consultations, by simp [empty, all, written], ?_, ?_, fun h => absurd h disabled⟩
    · have viewed := views_consultAll
        (candidates_show getRootSpanIndex config tracerPayloads) all
      refine ⟨rfl, order, fun c h => (asked _ _).1 ⟨c, h, rfl, rfl⟩, viewed, times, threads, ?_⟩
      intro nothing
      obtain ⟨c, h⟩ := List.exists_mem_of_ne_nil _ (fun e => empty (List.isEmpty_iff.2 e))
      exact absurd ((exists_candidate_iff ..).1 ⟨c, h, rfl, rfl⟩) (nothing c.place c.rootIndex)
    · intro _ place root selected
      exact (asked place root).2 selected
  | v04 traces => exact ⟨_, state, [], rfl, unchanged, fun _ _ _ h => h.elim, fun _ => ⟨rfl, rfl⟩⟩
  | v05 traces => exact ⟨_, state, [], rfl, unchanged, fun _ _ _ h => h.elim, fun _ => ⟨rfl, rfl⟩⟩
  | v1 payload => exact ⟨_, state, [], rfl, unchanged, fun _ _ _ h => h.elim, fun _ => ⟨rfl, rfl⟩⟩

end Rescue

/-! ## One chunk with an error -/

section Exact

/-- Exact numbers, converted as the floats are where both agree. -/
local instance : Double ℚ where
  isFinite _ := true
  toU64 q := UInt64.ofNat q.floor.toNat
  ofU64 n := n.toNat

local instance : Narrow ℚ ℚ := ⟨id⟩
local instance : Widen ℚ ℚ := ⟨id⟩

namespace Example

/-- The index of the root in these payloads, whose chunks have at most one span. -/
def firstSpan : GetRootSpanIndex ℚ Unit
  | [] => .error "Cannot find root span index in an empty trace."
  | _ :: _ => .ok 0

theorem firstSpan_inRange : ∀ spans i, firstSpan spans = .ok i → i < spans.length := by
  intro spans i h
  cases spans with
  | nil => cases h
  | cons span rest =>
    cases h
    exact Nat.zero_lt_succ _

def failedRequest : TracerPayloadCollection ℚ Unit Unit :=
  .v07 [{
    containerId := ""
    languageName := "python"
    languageVersion := "3.12"
    tracerVersion := "2.0"
    runtimeId := ""
    chunks := [{
      priority := 0
      origin := ""
      spans := [⟨"web", "web.request", "GET /", 7, 1, ∅, ∅, ()⟩]
      tags := ∅
      droppedTrace := false }]
    tags := ∅
    env := "prod"
    hostname := ""
    appVersion := "" }]

/-- A state whose sampler keeps every chunk, unless the target rate is zero. -/
def rescue (targetTps : ℚ) : ErrorRescue ℚ ℚ := .new ⟨.alwaysKeep, targetTps, 1⟩

end Example

open Example in
/-- The chunk is kept and stamped. -/
theorem applyErrorRescue_minimalEdit_one :
    ∃ payload' state' consultations,
      applyErrorRescueWithClock firstSpan ⟨"", false⟩ (rescue 10) failedRequest 1700000000 =
        some (payload', state', consultations) ∧
      MinimalEdit firstSpan ⟨"", false⟩ (rescue 10) failedRequest 1700000000 payload' state'
        consultations ∧
      ((rescue 10).errorRescueEnabled = true →
        ConsultsEach firstSpan ⟨"", false⟩ failedRequest consultations) ∧
      ((rescue 10).errorRescueEnabled = false → consultations = [] ∧ state' = rescue 10) :=
  applyErrorRescue_minimalEdit firstSpan ⟨"", false⟩ firstSpan_inRange _ _ _

open Example in
/-- With a target rate of zero the sampler is not consulted about the selected chunk. -/
theorem disabled_rescue_consults_none :
    ¬ ∀ (state : ErrorRescue ℚ ℚ) (payload : TracerPayloadCollection ℚ Unit Unit) (clock : Int),
      ∃ payload' state' consultations,
        applyErrorRescueWithClock firstSpan ⟨"", false⟩ state payload clock =
          some (payload', state', consultations) ∧
        MinimalEdit firstSpan ⟨"", false⟩ state payload clock payload' state' consultations ∧
        ConsultsEach firstSpan ⟨"", false⟩ payload consultations := by
  intro all
  obtain ⟨payload', state', consultations, applied, -, each⟩ := all (rescue 0) failedRequest 0
  have silent : applyErrorRescueWithClock firstSpan ⟨"", false⟩ (rescue 0) failedRequest 0 =
      some (failedRequest, rescue 0, []) := by
    simp [applyErrorRescueWithClock, failedRequest, rescue, ErrorRescue.new, ErrorsSampler.new,
      ErrorsSampler.isDisabled]
  rw [silent] at applied
  cases applied
  obtain ⟨c, h, -⟩ := each (toLex (0, 0)) 0 ⟨_, ⟨_, rfl, rfl⟩, by decide⟩
  cases h

end Exact

end ServerlessComponents.TraceAgent
