import ServerlessComponents.LogsAgent.Aggregator

/-!
# Batches of any run of the logs aggregator

The invariant of the aggregator, what each operation does under it, and the history of a run:
what was accepted is what the batches carry followed by what is still queued.
-/
namespace ServerlessComponents.LogsAgent

namespace Aggregator

/-- The byte total is the sum of the queued lengths, and every queued entry passed the size
check of `insert`. -/
structure Valid (agg : Aggregator) : Prop where
  size : agg.currentSizeBytes = totalLength agg.messages
  small : ∀ msg ∈ agg.messages, msg.length ≤ maxLogBytes

theorem new_valid : new.Valid := ⟨rfl, by simp [new]⟩

/-- What an insert adds to the queue. -/
def accepted {E : Type} (toString : E → Except String Bytes) (entry : E) : List Bytes :=
  match toString entry with
  | .error _ => []
  | .ok serialized => if serialized.length > maxLogBytes then [] else [serialized]

section Insert

variable {E : Type} (toString : E → Except String Bytes) (agg : Aggregator) (entry : E)

theorem insert_messages :
    (agg.insert toString entry).2.messages = agg.messages ++ accepted toString entry := by
  simp only [insert, accepted]
  cases toString entry with
  | error e => simp
  | ok serialized => by_cases h : serialized.length > maxLogBytes <;> simp [h]

theorem insert_valid (h : agg.Valid) : (agg.insert toString entry).2.Valid := by
  simp only [insert]
  cases toString entry with
  | error e => exact h
  | ok serialized =>
    by_cases large : serialized.length > maxLogBytes
    · simpa [large] using h
    · simp only [large, if_false]
      refine ⟨by simp [h.size], ?_⟩
      simp only [List.mem_append, List.mem_singleton]
      rintro msg (hm | rfl)
      · exact h.small msg hm
      · omega

/-- A rejected insert changes nothing. -/
theorem insert_error {e : AggregatorError} (h : (agg.insert toString entry).1 = .error e) :
    (agg.insert toString entry).2 = agg := by
  simp only [insert] at h ⊢
  cases hs : toString entry with
  | error e => rfl
  | ok serialized => grind

end Insert

/-- One batch: it frames what greedy packing takes and leaves the rest of the queue. -/
theorem getBatch_eq {agg : Aggregator} (h : agg.Valid) (ne : agg.messages ≠ []) :
    agg.getBatch = (some (frame (nextBatch agg.messages).1),
      ⟨(nextBatch agg.messages).2, totalLength (nextBatch agg.messages).2⟩) := by
  have split := Greedy.fill_append fits add ⟨0, 0⟩ agg.messages
  have lengths := congrArg totalLength split
  rw [totalLength_append] at lengths
  have loop := batchLoop_eq agg.messages agg.currentSizeBytes ⟨0, 0⟩ [openBracket]
  simp only at loop
  have notEmpty : agg.messages.isEmpty = false := by simpa using ne
  simp only [getBatch, notEmpty, Bool.false_eq_true, if_false]
  rw [loop]
  simp only [listed_zero, nextBatch, frame, h.size, Prod.mk.injEq, Aggregator.mk.injEq, true_and]
  omega

theorem getBatch_empty {agg : Aggregator} (h : agg.messages = []) :
    agg.getBatch = (none, agg) := by
  simp [getBatch, h]

theorem nextBatch_append (queue : List Bytes) :
    (nextBatch queue).1 ++ (nextBatch queue).2 = queue :=
  Greedy.fill_append ..

theorem left_valid {agg : Aggregator} (h : agg.Valid) :
    Valid ⟨(nextBatch agg.messages).2, totalLength (nextBatch agg.messages).2⟩ := by
  refine ⟨rfl, fun msg hm => h.small msg ?_⟩
  rw [← nextBatch_append agg.messages]
  exact List.mem_append_right _ hm

theorem getBatch_valid {agg : Aggregator} (h : agg.Valid) : agg.getBatch.2.Valid := by
  by_cases ne : agg.messages = []
  · rwa [getBatch_empty ne]
  · rw [getBatch_eq h ne]
    exact left_valid h

/-- An accepted entry always fits an empty batch. -/
theorem fits_alone {agg : Aggregator} (h : agg.Valid) :
    ∀ msg ∈ agg.messages, fits ⟨0, 0⟩ msg = true := by
  intro msg hm
  have := h.small msg hm
  simp only [maxLogBytes] at this
  simp only [fits, separator, maxBatchEntries, maxContentBytes, decide_eq_true_eq]
  simp
  omega

/-- A batch cut from a queue never exceeds its limits. -/
theorem nextBatch_limits (queue : List Bytes) (ne : (nextBatch queue).1 ≠ []) :
    (nextBatch queue).1.length ≤ maxBatchEntries ∧
      (frame (nextBatch queue).1).length ≤ maxContentBytes := by
  have kept := Greedy.fill_invariant fits add
    (P := fun s => s.count ≤ maxBatchEntries ∧
      (0 < s.count → s.bytesInBatch + 2 ≤ maxContentBytes))
    (by
      intro s msg _ hf
      simp only [fits, decide_eq_true_eq] at hf
      simp only [add]
      omega)
    (s := ⟨0, 0⟩) (by simp) queue
  rw [foldl_add_empty] at kept
  obtain ⟨count, bytes⟩ := kept
  refine ⟨count, ?_⟩
  rw [frame_length]
  exact bytes (List.length_pos_of_ne_nil ne)

/-- A well-formed batch with the given entries. -/
structure IsBatch (batch : Bytes) (entries : List Bytes) : Prop where
  framed : batch = frame entries
  nonempty : entries ≠ []
  count : entries.length ≤ maxBatchEntries
  bytes : batch.length ≤ maxContentBytes

theorem isBatch_of_taken {queue entries : List Bytes} (h : entries = (nextBatch queue).1)
    (ne : entries ≠ []) : IsBatch (frame entries) entries := by
  subst h
  have ⟨count, bytes⟩ := nextBatch_limits queue ne
  exact ⟨rfl, ne, count, bytes⟩

theorem getAllBatches_eq (fuel : Nat) {agg : Aggregator} (h : agg.Valid) :
    getAllBatches fuel agg =
      (Greedy.drain fits add ⟨0, 0⟩ fuel agg.messages).map
        fun groups => (groups.map frame, ⟨[], 0⟩) := by
  induction fuel generalizing agg with
  | zero => rfl
  | succ fuel ih =>
    obtain ⟨messages, size⟩ := agg
    cases messages with
    | nil =>
      obtain rfl : size = 0 := h.size
      rfl
    | cons msg rest =>
      have later := ih (left_valid h)
      simp only [nextBatch] at later
      rw [getAllBatches, getBatch_eq h (by simp)]
      simp only [nextBatch, later, Greedy.drain, Option.map_map]
      rfl

/-- `get_all_batches` ends. -/
theorem getAllBatches_terminates {agg : Aggregator} (h : agg.Valid) {fuel : Nat}
    (hf : agg.messages.length < fuel) : (getAllBatches fuel agg).isSome = true := by
  obtain ⟨groups, hd⟩ := Greedy.drain_terminates add (fits_alone h) hf
  rw [getAllBatches_eq fuel h, hd]
  rfl

/-- Its batches are well formed, carry the queue in order and leave nothing behind. -/
theorem getAllBatches_sound {agg last : Aggregator} (h : agg.Valid) {fuel : Nat}
    {batches : List Bytes} (hb : getAllBatches fuel agg = some (batches, last)) :
    last = ⟨[], 0⟩ ∧ ∃ groups : List (List Bytes), batches = groups.map frame ∧
      groups.flatten = agg.messages ∧ ∀ g ∈ groups, IsBatch (frame g) g := by
  rw [getAllBatches_eq fuel h] at hb
  obtain ⟨groups, hd, heq⟩ := Option.map_eq_some_iff.1 hb
  simp only [Prod.mk.injEq] at heq
  obtain ⟨rfl, rfl⟩ := heq
  obtain ⟨hflat, hall⟩ := Greedy.drain_sound (fits_alone h) hd
  refine ⟨rfl, groups, rfl, hflat, fun g hg => ?_⟩
  obtain ⟨ne, q, hq⟩ := hall g hg
  exact isBatch_of_taken hq ne

/-- If the aggregator is not full, everything queued goes into one batch. -/
theorem nextBatch_of_not_full {agg : Aggregator} (h : agg.Valid) (hf : agg.isFull = false) :
    nextBatch agg.messages = (agg.messages, []) := by
  apply Greedy.fill_all
  intro before msg after hq
  simp only [isFull, Bool.or_eq_false_iff, decide_eq_false_iff_not, h.size] at hf
  rw [hq] at hf
  simp only [totalLength_append, totalLength_cons, List.length_append, List.length_cons] at hf
  rw [foldl_add_empty]
  simp only [fits, separator]
  split <;> grind

/-- If the aggregator is full, its next batch has stopped: no further entry fits. -/
theorem full_stopped {agg : Aggregator} (h : agg.Valid) (hf : agg.isFull = true)
    (msg : Bytes) : fits (agg.messages.foldl add ⟨0, 0⟩) msg = false := by
  simp only [isFull, Bool.or_eq_true, decide_eq_true_eq, h.size] at hf
  have queued : agg.messages.length ≠ 0 := by
    intro hm
    simp [List.length_eq_zero_iff.1 hm, maxBatchEntries, maxContentBytes] at hf
  rw [foldl_add_empty]
  simp only [fits, separator, maxContentBytes] at hf ⊢
  grind

theorem getBatch_of_not_full {agg : Aggregator} (h : agg.Valid) (hf : agg.isFull = false) :
    agg.getBatch.2.messages = [] := by
  by_cases ne : agg.messages = []
  · rwa [getBatch_empty ne]
  · rw [getBatch_eq h ne, nextBatch_of_not_full h hf]

/-- The batch of a full aggregator is not changed by a later insert. -/
theorem getBatch_insert_of_full {E : Type} (toString : E → Except String Bytes)
    {agg : Aggregator} (h : agg.Valid) (hf : agg.isFull = true) (entry : E) :
    (agg.insert toString entry).2.getBatch.1 = agg.getBatch.1 := by
  have queued : agg.messages ≠ [] := by
    rintro hm
    simp [isFull, h.size, hm, maxBatchEntries, maxContentBytes] at hf
  have stable := Greedy.fill_append_stable
    (fun _ : (nextBatch agg.messages).2 = [] => full_stopped h hf) (accepted toString entry)
  have messages := insert_messages toString agg entry
  rw [getBatch_eq (insert_valid toString agg entry h) (by simp [messages, queued]),
    getBatch_eq h queued, messages]
  simp only [nextBatch] at stable ⊢
  rw [stable]

end Aggregator

/-! ## Runs -/

/-- The history of an aggregator: the entries it accepted and the batches it returned. -/
inductive Run {E : Type} (toString : E → Except String Bytes) :
    Aggregator → List Bytes → List Bytes → Prop
  | new : Run toString .new [] []
  | insert {agg entries batches} (entry : E) (run : Run toString agg entries batches) :
      Run toString (agg.insert toString entry).2
        (entries ++ Aggregator.accepted toString entry) batches
  | getBatch {agg entries batches} (run : Run toString agg entries batches) :
      Run toString agg.getBatch.2 entries (batches ++ agg.getBatch.1.toList)
  | getAllBatches {agg entries batches later last} (fuel : Nat)
      (run : Run toString agg entries batches)
      (all : agg.getAllBatches fuel = some (later, last)) :
      Run toString last entries (batches ++ later)

/-- The batches returned so far carry, in order, the accepted entries that are not queued. -/
structure Carries (batches entries queue : List Bytes) (groups : List (List Bytes)) : Prop where
  framed : batches = groups.map frame
  carried : groups.flatten ++ queue = entries
  wellFormed : ∀ g ∈ groups, Aggregator.IsBatch (frame g) g

theorem Run.valid {E : Type} {toString : E → Except String Bytes} {agg : Aggregator}
    {entries batches : List Bytes} (run : Run toString agg entries batches) : agg.Valid := by
  induction run with
  | new => exact Aggregator.new_valid
  | insert entry _ ih => exact Aggregator.insert_valid toString _ entry ih
  | getBatch _ ih => exact Aggregator.getBatch_valid ih
  | getAllBatches fuel _ all ih =>
    obtain ⟨rfl, -⟩ := Aggregator.getAllBatches_sound ih all
    exact Aggregator.new_valid

theorem Run.carries {E : Type} {toString : E → Except String Bytes} {agg : Aggregator}
    {entries batches : List Bytes} (run : Run toString agg entries batches) :
    ∃ groups, Carries batches entries agg.messages groups := by
  induction run with
  | new => exact ⟨[], rfl, rfl, by simp⟩
  | @insert agg entries batches entry _ ih =>
    obtain ⟨groups, framed, carried, wf⟩ := ih
    refine ⟨groups, framed, ?_, wf⟩
    rw [Aggregator.insert_messages, ← List.append_assoc, carried]
  | @getBatch agg entries batches run ih =>
    obtain ⟨groups, framed, carried, wf⟩ := ih
    by_cases ne : agg.messages = []
    · rw [Aggregator.getBatch_empty ne]
      exact ⟨groups, by simpa using framed, carried, wf⟩
    · obtain ⟨msg, rest, hm⟩ := List.exists_cons_of_ne_nil ne
      have taken : (nextBatch agg.messages).1 ≠ [] := by
        rw [hm]
        exact Greedy.fill_ne_nil _ (Aggregator.fits_alone run.valid msg (by simp [hm])) rest
      rw [Aggregator.getBatch_eq run.valid ne]
      refine ⟨groups ++ [(nextBatch agg.messages).1], by simp [framed], ?_, ?_⟩
      · simpa [Aggregator.nextBatch_append] using carried
      · simp only [List.mem_append, List.mem_singleton]
        rintro g (hg | rfl)
        · exact wf g hg
        · exact Aggregator.isBatch_of_taken rfl taken
  | @getAllBatches agg entries batches later last fuel run all ih =>
    obtain ⟨groups, framed, carried, wf⟩ := ih
    obtain ⟨rfl, groups', rfl, hflat, wf'⟩ := Aggregator.getAllBatches_sound run.valid all
    refine ⟨groups ++ groups', by simp [framed], by simpa [hflat] using carried, ?_⟩
    simp only [List.mem_append]
    rintro g (hg | hg)
    · exact wf g hg
    · exact wf' g hg

/-- After any sequence of inserts and drains: the byte total is right; the returned batches are
well formed and, with the queue, are the accepted entries in order; draining ends and does the
same for the queue; a rejected insert changes nothing; one batch empties an aggregator that is
not full, and the batch of a full one takes no further entry. -/
theorem run_batches {E : Type} (toString : E → Except String Bytes) {agg : Aggregator}
    {entries batches : List Bytes} (run : Run toString agg entries batches) :
    agg.currentSizeBytes = totalLength agg.messages ∧
      (∃ groups, Carries batches entries agg.messages groups) ∧
      (∀ fuel, agg.messages.length < fuel → ∃ later groups,
        agg.getAllBatches fuel = some (later, .new) ∧ Carries later agg.messages [] groups) ∧
      (∀ entry e, (agg.insert toString entry).1 = .error e →
        (agg.insert toString entry).2 = agg) ∧
      (agg.isFull = false → agg.getBatch.2.messages = []) ∧
      (agg.isFull = true → ∀ entry,
        (agg.insert toString entry).2.getBatch.1 = agg.getBatch.1) := by
  have valid := run.valid
  refine ⟨valid.size, run.carries, ?_, ?_, Aggregator.getBatch_of_not_full valid, ?_⟩
  · intro fuel hf
    obtain ⟨⟨later, last⟩, all⟩ :=
      Option.isSome_iff_exists.1 (Aggregator.getAllBatches_terminates valid hf)
    obtain ⟨rfl, groups, framed, carried, wf⟩ := Aggregator.getAllBatches_sound valid all
    exact ⟨later, groups, all, framed, by simpa using carried, wf⟩
  · intro entry e h
    exact Aggregator.insert_error toString agg entry h
  · intro full entry
    exact Aggregator.getBatch_insert_of_full toString valid full entry

/-- Two entries are drained by `get_batch`, then one fails to serialise and two more are drained by
`get_all_batches`. -/
theorem run_batches_one :
    let toString : Bytes → Except String Bytes := fun entry =>
      if entry.isEmpty then .error "EOF while parsing a value" else .ok entry
    let first := ((Aggregator.new.insert toString [49]).2.insert toString [50, 51]).2.getBatch.2
    let agg := (((first.insert toString []).2.insert toString [52]).2.insert toString [53]).2
    let entries : List Bytes := [[49], [50, 51], [52], [53]]
    agg.currentSizeBytes = 2 ∧
      (∃ groups, Carries [[91, 49, 44, 50, 51, 93]] entries [[52], [53]] groups) ∧
      (∃ later groups, agg.getAllBatches 3 = some (later, .new) ∧
        Carries later [[52], [53]] [] groups) ∧
      (∃ groups, Carries [[91, 49, 44, 50, 51, 93], [91, 52, 44, 53, 93]] entries [] groups) ∧
      (agg.insert toString []).2 = agg ∧ agg.getBatch.2.messages = [] := by
  intro toString first agg entries
  have run : Run toString agg entries [[91, 49, 44, 50, 51, 93]] :=
    .insert [53] (.insert [52] (.insert [] (.getBatch (.insert [50, 51] (.insert [49] .new)))))
  obtain ⟨size, carries, drains, rejects, notFull, -⟩ := run_batches toString run
  have drained : Run toString .new entries [[91, 49, 44, 50, 51, 93], [91, 52, 44, 53, 93]] :=
    .getAllBatches 3 run rfl
  exact ⟨size, carries, drains 3 (by decide), (run_batches toString drained).2.1,
    rejects [] _ rfl, notFull (by decide)⟩

end ServerlessComponents.LogsAgent
