import ServerlessComponents.Library.HashTable
import ServerlessComponents.TraceAgent.StatsShutdown

/-!
# One concentrator for each metadata

The concentrators of the stats service lie in a hash map. Its keys are compared field by field and
hashed over a list of fields written by hand; the list leaves out no field that would tell equal
keys apart, so a chunk always comes to the concentrator of its own metadata.

## Main results

* `StatsService.spans_partitioned` — what each concentrator has got and what was flushed from it.
* `StatsService.represents_run` — the hash map is the map `Concentrators`.
-/
namespace ServerlessComponents.TraceAgent

variable {D R G K L : Type}

/-- A value that a key writes into its hasher. -/
inductive HashInput where
  | byte (n : UInt8)
  | text (s : String)
  | optional (s : Option String)
  deriving DecidableEq, Repr

namespace MetadataKey

/-- The derived equality of `TracerMetadata`. -/
def eq [BEq L] (a b : TracerMetadata L) : Bool :=
  a.schemaVersion == b.schemaVersion && a.runtimeId == b.runtimeId &&
  a.tracerLanguage == b.tracerLanguage && a.tracerVersion == b.tracerVersion &&
  a.hostname == b.hostname && a.serviceName == b.serviceName &&
  a.serviceEnv == b.serviceEnv && a.serviceVersion == b.serviceVersion &&
  a.processTags == b.processTags && a.containerId == b.containerId &&
  a.threadlocalMetadata == b.threadlocalMetadata

/-- `Hash for MetadataKey` -/
def hashed (metadata : TracerMetadata L) : List HashInput :=
  [.byte metadata.schemaVersion, .optional metadata.runtimeId, .text metadata.tracerLanguage,
    .text metadata.tracerVersion, .text metadata.hostname, .optional metadata.serviceName,
    .optional metadata.serviceEnv, .optional metadata.serviceVersion,
    .optional metadata.processTags, .optional metadata.containerId]

theorem eq_iff [DecidableEq L] {a b : TracerMetadata L} : eq a b = true ↔ a = b := by
  cases a
  cases b
  simp [eq, and_assoc]

/-- Equal keys write the same. -/
theorem hashed_eq_of_eq [DecidableEq L] {a b : TracerMetadata L} (h : eq a b = true) :
    hashed a = hashed b := by
  rw [eq_iff.1 h]

end MetadataKey

/-- A concentrator with its key. -/
abbrev ConcentratorEntry (K L : Type) := TracerMetadata L × K

/-- `StatsConcentratorService`, with the payloads of every flush beside the keys they come from, and
where every chunk went: to which key, in which bucket. -/
structure StatsService (G K L : Type) where
  concentrators : List (HashTable.Slot (ConcentratorEntry K L)) := []
  replies : List (List (TracerMetadata L × ClientStatsPayload G)) := []
  routed : List (TracerMetadata L × Nat) := []

/-- A command, with what the service meets while it serves it: how the hash map lies in memory and
the readings of the clock. -/
inductive StatsCall (D R L : Type) where
  | addChunk (probe : HashTable.Probe) (grows : Bool) (now : Nat) (chunk : TraceChunk D R)
      (metadata : TracerMetadata L)
  | flush (clock : TracerMetadata L → Nat) (forceFlush : Bool)

namespace StatsService

section Serve

variable [DecidableEq L] (concentrator : SpanConcentrator D R G K)
  (hasher : List HashInput → UInt64) (configEnv : String)

/-- The entries, in the order of the buckets. -/
def entries (s : StatsService G K L) : List (ConcentratorEntry K L) :=
  HashTable.items s.concentrators

def hashOf (entry : ConcentratorEntry K L) : UInt64 := hasher (MetadataKey.hashed entry.1)

/-- `concentrator.add_span(span)` for every span of a chunk. -/
def addSpans (chunk : TraceChunk D R) (entry : ConcentratorEntry K L) : ConcentratorEntry K L :=
  (entry.1, chunk.spans.foldl concentrator.addSpan entry.2)

/-- The `AddChunk` branch of `run`. -/
def addChunk (s : StatsService G K L) (probe : HashTable.Probe) (grows : Bool) (now : Nat)
    (chunk : TraceChunk D R) (metadata : TracerMetadata L) : StatsService G K L :=
  let hash := hasher (MetadataKey.hashed metadata)
  let same (entry : ConcentratorEntry K L) : Bool := MetadataKey.eq metadata entry.1
  let add := addSpans (L := L) concentrator chunk
  { s with
    concentrators :=
      match HashTable.find probe hash same s.concentrators with
      | some _ => HashTable.modify probe hash same add s.concentrators
      | none => HashTable.reserve grows (hashOf hasher) s.concentrators ++
          [⟨hash, add (metadata, concentrator.new now)⟩]
    routed := s.routed ++ [(metadata, s.concentrators.findIdx (HashTable.hit probe hash same))] }

/-- `handle_flush`, with the key of every payload. -/
def handleFlush (s : StatsService G K L) (clock : TracerMetadata L → Nat) (forceFlush : Bool) :
    StatsService G K L :=
  { s with
    replies := s.replies ++ [s.entries.filterMap fun e =>
      (Concentrators.flushOne concentrator configEnv clock forceFlush e.1 e.2).map (e.1, ·)]
    concentrators := s.concentrators.map fun slot =>
      { slot with
        item := (slot.item.1, (concentrator.flush slot.item.2 (clock slot.item.1) forceFlush).2) } }

def serve (s : StatsService G K L) : StatsCall D R L → StatsService G K L
  | .addChunk probe grows now chunk metadata =>
    s.addChunk concentrator hasher probe grows now chunk metadata
  | .flush clock forceFlush => s.handleFlush concentrator configEnv clock forceFlush

/-- The service after some commands. -/
def run (calls : List (StatsCall D R L)) : StatsService G K L :=
  calls.foldl (serve concentrator hasher configEnv) {}

end Serve

/-! ## One command -/

section Serve

variable [DecidableEq L] {concentrator : SpanConcentrator D R G K}
  {hasher : List HashInput → UInt64} {configEnv : String} {s : StatsService G K L}

variable (concentrator) in
/-- A chunk goes to the entry of its metadata, which is made behind the others if there is none. -/
theorem addChunk_cases (filed : HashTable.Filed (hashOf hasher) s.concentrators)
    (probe : HashTable.Probe) (grows : Bool) (now : Nat) (chunk : TraceChunk D R)
    (metadata : TracerMetadata L) :
    let s' := s.addChunk concentrator hasher probe grows now chunk metadata
    HashTable.Filed (hashOf hasher) s'.concentrators ∧
    ∃ before after k, s'.entries = before ++ addSpans concentrator chunk (metadata, k) :: after ∧
      s'.routed = s.routed ++ [(metadata, before.length)] ∧
      (s.entries = before ++ (metadata, k) :: after ∨
        s.entries = before ∧ after = [] ∧ k = concentrator.new now ∧
          ∀ entry ∈ before, entry.1 ≠ metadata) := by
  intro s'
  cases found : HashTable.find probe (hasher (MetadataKey.hashed metadata))
      (fun entry => MetadataKey.eq metadata entry.1) s.concentrators with
  | some entry =>
    obtain ⟨before, slot, after, split, rfl, same, index, changed⟩ :=
      HashTable.exists_split_of_find found (addSpans concentrator chunk)
    obtain rfl := MetadataKey.eq_iff.1 same
    have table : s'.concentrators = before ++
        { slot with item := addSpans concentrator chunk slot.item } :: after := by
      simp only [s', addChunk, found, changed]
    refine ⟨?_, HashTable.items before, HashTable.items after, slot.item.2, ?_, ?_, .inl ?_⟩
    · simp only [s', addChunk, found]
      exact HashTable.Filed.modify filed fun _ => rfl
    · rw [entries, table]
      simp [HashTable.items]
    · simp only [s', addChunk, index, HashTable.items, List.length_map]
    · rw [entries, split]
      simp [HashTable.items]
  | none =>
    have table : s'.concentrators = s.concentrators ++
        [⟨hasher (MetadataKey.hashed metadata),
          addSpans concentrator chunk (metadata, concentrator.new now)⟩] := by
      simp only [s', addChunk, found, HashTable.reserve_of_filed filed]
    refine ⟨?_, s.entries, [], concentrator.new now, ?_, ?_, .inr ⟨rfl, rfl, rfl, ?_⟩⟩
    · rw [table]
      exact HashTable.Filed.push filed
        (addSpans concentrator chunk (metadata, concentrator.new now))
    · rw [entries, table]
      simp [HashTable.items, entries]
    · simp only [s', addChunk, HashTable.find_eq_none_iff.1 found, entries, HashTable.items,
        List.length_map]
    · have absent := found
      rw [HashTable.find_of_consistent filed probe fun entry same => by
        rw [hashOf, MetadataKey.hashed_eq_of_eq same], List.find?_eq_none] at absent
      exact fun entry mem same => absent entry mem (MetadataKey.eq_iff.2 same.symm)

omit [DecidableEq L] in
/-- Everything a flush answers with under a key comes from the one entry of that key. -/
theorem mem_reply {clock : TracerMetadata L → Nat} {forceFlush : Bool}
    {e : TracerMetadata L × ClientStatsPayload G}
    (mem : e ∈ s.entries.filterMap fun e =>
      (Concentrators.flushOne concentrator configEnv clock forceFlush e.1 e.2).map (e.1, ·)) :
    ∃ k, (e.1, k) ∈ s.entries ∧ e.2 = .ofBuckets configEnv e.1
      (concentrator.flush k (clock e.1) forceFlush).1 := by
  obtain ⟨⟨metadata, k⟩, kept, flushed⟩ := List.mem_filterMap.1 mem
  obtain ⟨payload, one, rfl⟩ := Option.map_eq_some_iff.1 flushed
  refine ⟨k, kept, ?_⟩
  simp only [Concentrators.flushOne] at one
  split at one
  · cases one
  · exact (Option.some.inj one).symm

omit [DecidableEq L] in
variable (concentrator configEnv s) in
theorem entries_handleFlush (clock : TracerMetadata L → Nat) (forceFlush : Bool) :
    (s.handleFlush concentrator configEnv clock forceFlush).entries =
      s.entries.map fun e => (e.1, (concentrator.flush e.2 (clock e.1) forceFlush).2) := by
  simp [entries, HashTable.items, handleFlush]

end Serve

/-! ## A whole run -/

section Partition

variable [DecidableEq L]

/-- The spans of what is listed under a key. -/
def spansUnder {α : Type} (metadata : TracerMetadata L) (spans : α → Multiset (Span D R))
    (listed : List (TracerMetadata L × α)) : Multiset (Span D R) :=
  (listed.map fun x => if x.1 = metadata then spans x.2 else 0).sum

theorem spansUnder_append {α : Type} (metadata : TracerMetadata L)
    (spans : α → Multiset (Span D R)) (xs ys : List (TracerMetadata L × α)) :
    spansUnder metadata spans (xs ++ ys) = spansUnder metadata spans xs +
      spansUnder metadata spans ys := by
  simp [spansUnder]

theorem spansUnder_cons {α : Type} (metadata : TracerMetadata L) (spans : α → Multiset (Span D R))
    (x : TracerMetadata L × α) (xs : List (TracerMetadata L × α)) :
    spansUnder metadata spans (x :: xs) = (if x.1 = metadata then spans x.2 else 0) +
      spansUnder metadata spans xs := by
  simp [spansUnder]

theorem le_spansUnder {α : Type} (spans : α → Multiset (Span D R))
    {x : TracerMetadata L × α} {xs : List (TracerMetadata L × α)} (mem : x ∈ xs) :
    spans x.2 ≤ spansUnder x.1 spans xs := by
  obtain ⟨before, after, rfl⟩ := List.append_of_mem mem
  rw [spansUnder_append, spansUnder_cons, if_pos rfl]
  exact (Multiset.le_add_right _ _).trans (Multiset.le_add_left _ _)

/-- The chunks handed to the service, under their metadata. -/
def handed : List (StatsCall D R L) → List (TracerMetadata L × TraceChunk D R)
  | [] => []
  | .addChunk _ _ _ chunk metadata :: rest => (metadata, chunk) :: handed rest
  | .flush _ _ :: rest => handed rest

omit [DecidableEq L] in
theorem handed_append (xs ys : List (StatsCall D R L)) :
    handed (xs ++ ys) = handed xs ++ handed ys := by
  induction xs with
  | nil => rfl
  | cons call rest ih => cases call <;> simp [handed, ih]

/-- What holds of the service after some chunks: a bucket for each metadata, to which all chunks
with that metadata have gone; their spans are there or have been flushed under it. -/
structure Partitioned (kept : K → Multiset (Span D R)) (aggregated : G → Multiset (Span D R))
    (hasher : List HashInput → UInt64) (configEnv : String)
    (chunks : List (TracerMetadata L × TraceChunk D R)) (s : StatsService G K L) : Prop where
  filed : HashTable.Filed (hashOf hasher) s.concentrators
  nodup : (s.entries.map Prod.fst).Nodup
  keys : s.routed.map Prod.fst = chunks.map Prod.fst
  routed : ∀ x ∈ s.routed, (s.entries.map Prod.fst)[x.2]? = some x.1
  accounted : ∀ metadata,
    spansUnder metadata (ClientStatsPayload.spans aggregated) s.replies.flatten +
        spansUnder metadata kept s.entries =
      spansUnder metadata TraceChunk.spanSet chunks
  distinct : ∀ reply ∈ s.replies, (reply.map Prod.fst).Nodup
  copied : ∀ e ∈ s.replies.flatten, ∃ stats, e.2 = .ofBuckets configEnv e.1 stats

variable {concentrator : SpanConcentrator D R G K} {kept : K → Multiset (Span D R)}
  {aggregated : G → Multiset (Span D R)} {hasher : List HashInput → UInt64} {configEnv : String}
  {chunks : List (TracerMetadata L × TraceChunk D R)} {s : StatsService G K L}

theorem partitioned_init :
    Partitioned kept aggregated hasher configEnv [] ({} : StatsService G K L) where
  filed := List.forall_mem_nil _
  nodup := List.nodup_nil
  keys := rfl
  routed := List.forall_mem_nil _
  accounted := fun _ => rfl
  distinct := List.forall_mem_nil _
  copied := List.forall_mem_nil _

/-- Adding the spans of a chunk to an entry. -/
theorem spansUnder_addSpans (keeps : KeepsSpans concentrator kept aggregated)
    (m metadata : TracerMetadata L) (before after : List (ConcentratorEntry K L)) (k : K)
    (chunk : TraceChunk D R) :
    spansUnder m kept (before ++ addSpans concentrator chunk (metadata, k) :: after) =
      spansUnder m kept (before ++ (metadata, k) :: after) +
        spansUnder m TraceChunk.spanSet [(metadata, chunk)] := by
  have added : kept (addSpans concentrator chunk (metadata, k)).2 = kept k + chunk.spanSet :=
    Concentrators.kept_foldl_addSpan keeps k chunk.spans
  rw [spansUnder_append, spansUnder_append, spansUnder_cons, spansUnder_cons, added, add_assoc,
    add_right_comm _ (spansUnder m kept after)]
  by_cases same : metadata = m
  · simp [spansUnder, addSpans, same, add_assoc]
  · simp [spansUnder, addSpans, same]

/-- A flush moves the spans under each key into the payload under that key. -/
theorem spansUnder_flush (keeps : KeepsSpans concentrator kept aggregated)
    (clock : TracerMetadata L → Nat) (forceFlush : Bool) (m : TracerMetadata L)
    (listed : List (ConcentratorEntry K L)) :
    spansUnder m (ClientStatsPayload.spans aggregated) (listed.filterMap fun e =>
        (Concentrators.flushOne concentrator configEnv clock forceFlush e.1 e.2).map (e.1, ·)) +
      spansUnder m kept (listed.map fun e =>
        (e.1, (concentrator.flush e.2 (clock e.1) forceFlush).2)) =
      spansUnder m kept listed := by
  induction listed with
  | nil => rfl
  | cons e rest ih =>
    obtain ⟨metadata, k⟩ := e
    have whole := keeps.flush k (clock metadata) forceFlush
    rw [← Concentrators.spans_flushOne concentrator aggregated configEnv clock forceFlush] at whole
    rw [List.filterMap_cons, List.map_cons, spansUnder_cons, spansUnder_cons, ← ih, ← whole]
    by_cases same : metadata = m
    · cases Concentrators.flushOne concentrator configEnv clock forceFlush metadata k with
      | none => simp [same, add_left_comm]
      | some payload => simp [same, spansUnder_cons, add_assoc, add_left_comm]
    · cases Concentrators.flushOne concentrator configEnv clock forceFlush metadata k with
      | none => simp [same]
      | some payload => simp [same, spansUnder_cons]

theorem partitioned_addChunk (keeps : KeepsSpans concentrator kept aggregated)
    (start : s.Partitioned kept aggregated hasher configEnv chunks) (probe : HashTable.Probe)
    (grows : Bool) (now : Nat) (chunk : TraceChunk D R) (metadata : TracerMetadata L) :
    (s.addChunk concentrator hasher probe grows now chunk metadata).Partitioned kept aggregated
      hasher configEnv (chunks ++ [(metadata, chunk)]) := by
  obtain ⟨filed, before, after, k, entries', routed', origin⟩ :=
    addChunk_cases concentrator start.filed probe grows now chunk metadata
  -- the keys stay, or the new one comes behind them
  have keys :
      ((s.addChunk concentrator hasher probe grows now chunk metadata).entries.map Prod.fst =
        s.entries.map Prod.fst) ∨
      ((s.addChunk concentrator hasher probe grows now chunk metadata).entries.map Prod.fst =
        s.entries.map Prod.fst ++ [metadata] ∧ metadata ∉ s.entries.map Prod.fst) := by
    rw [entries']
    rcases origin with entries | ⟨entries, rfl, -, fresh⟩
    · exact .inl (by simp [entries, addSpans])
    · refine .inr ⟨by simp [entries, addSpans], ?_⟩
      rw [entries]
      rintro mem
      obtain ⟨entry, mem, same⟩ := List.mem_map.1 mem
      exact fresh entry mem same
  refine ⟨filed, ?_, ?_, ?_, ?_, start.distinct, start.copied⟩
  · rcases keys with keys | ⟨keys, fresh⟩
    · exact keys ▸ start.nodup
    · rw [keys]
      exact start.nodup.append (List.nodup_singleton _) (by simpa using fresh)
  · rw [routed', List.map_append, start.keys, List.map_append]
    rfl
  · intro x mem
    rw [routed'] at mem
    rcases List.mem_append.1 mem with mem | mem
    · have found := start.routed x mem
      rcases keys with keys | ⟨keys, -⟩
      · rw [keys, found]
      · rw [keys, List.getElem?_append_left (List.getElem?_eq_some_iff.1 found).1, found]
    · rw [List.mem_singleton.1 mem, entries']
      simp [addSpans]
  · intro m
    have replies : (s.addChunk concentrator hasher probe grows now chunk metadata).replies =
      s.replies := rfl
    rw [replies, spansUnder_append, ← start.accounted m, entries', add_assoc]
    congr 1
    rw [spansUnder_addSpans keeps]
    rcases origin with entries | ⟨entries, rfl, rfl, -⟩
    · rw [entries]
    · rw [entries, spansUnder_append m kept before, spansUnder_cons]
      simp [spansUnder, keeps.new]

theorem partitioned_handleFlush (keeps : KeepsSpans concentrator kept aggregated)
    (start : s.Partitioned kept aggregated hasher configEnv chunks)
    (clock : TracerMetadata L → Nat) (forceFlush : Bool) :
    (s.handleFlush concentrator configEnv clock forceFlush).Partitioned kept aggregated hasher
      configEnv chunks := by
  have entries := entries_handleFlush concentrator configEnv s clock forceFlush
  have keys : (s.handleFlush concentrator configEnv clock forceFlush).entries.map Prod.fst =
      s.entries.map Prod.fst := by
    rw [entries, List.map_map]
    rfl
  refine ⟨?_, keys ▸ start.nodup, start.keys, ?_, ?_, ?_, ?_⟩
  · intro slot mem
    obtain ⟨old, hold, rfl⟩ := List.mem_map.1 mem
    exact start.filed old hold
  · intro x mem
    rw [keys]
    exact start.routed x mem
  · intro m
    have replies : (s.handleFlush concentrator configEnv clock forceFlush).replies.flatten =
        s.replies.flatten ++ s.entries.filterMap fun e =>
          (Concentrators.flushOne concentrator configEnv clock forceFlush e.1 e.2).map
            (e.1, ·) := by
      simp [handleFlush]
    rw [← start.accounted m, replies, entries, spansUnder_append, add_assoc,
      spansUnder_flush keeps]
  · intro reply mem
    rcases List.mem_append.1 mem with mem | mem
    · exact start.distinct reply mem
    · rw [List.mem_singleton.1 mem]
      have sub : List.Sublist ((s.entries.filterMap fun e => (Concentrators.flushOne concentrator
          configEnv clock forceFlush e.1 e.2).map (e.1, ·)).map Prod.fst)
          (s.entries.map Prod.fst) := by
        induction s.entries with
        | nil => exact List.Sublist.slnil
        | cons e rest ih =>
          rw [List.filterMap_cons]
          cases Concentrators.flushOne concentrator configEnv clock forceFlush e.1 e.2 with
          | none => exact ih.cons _
          | some payload => exact ih.cons_cons _
      exact start.nodup.sublist sub
  · intro e mem
    rw [handleFlush, List.flatten_append, List.flatten_singleton] at mem
    rcases List.mem_append.1 mem with mem | mem
    · exact start.copied e mem
    · obtain ⟨k, -, payload⟩ := mem_reply mem
      exact ⟨_, payload⟩

theorem partitioned_run (keeps : KeepsSpans concentrator kept aggregated)
    (calls : List (StatsCall D R L)) :
    (run concentrator hasher configEnv calls).Partitioned kept aggregated hasher configEnv
      (handed calls) := by
  induction calls using List.reverseRecOn with
  | nil => exact partitioned_init
  | append_singleton calls call ih =>
    rw [run, List.foldl_append, handed_append]
    cases call with
    | addChunk probe grows now chunk metadata =>
      exact partitioned_addChunk keeps ih probe grows now chunk metadata
    | flush clock forceFlush =>
      simp only [handed, List.append_nil]
      exact partitioned_handleFlush keeps ih clock forceFlush

/-- After every sequence of commands, whatever the concentrators' hasher: equal keys are the same
metadata and hash alike; no two concentrators have the same metadata; each chunk went to one of
them, which is that of its metadata, so that chunks share one exactly where their metadata are
equal; the spans handed over under each metadata are in its concentrator or in the payloads flushed
from it; and a payload holds only these, with the fields of the metadata. -/
theorem spans_partitioned (concentrator : SpanConcentrator D R G K)
    (kept : K → Multiset (Span D R)) (aggregated : G → Multiset (Span D R))
    (keeps : KeepsSpans concentrator kept aggregated) (hasher : List HashInput → UInt64)
    (configEnv : String) (calls : List (StatsCall D R L)) :
    let s := run concentrator hasher configEnv calls
    (∀ a b : TracerMetadata L, (MetadataKey.eq a b = true ↔ a = b) ∧
      (MetadataKey.eq a b = true → MetadataKey.hashed a = MetadataKey.hashed b)) ∧
    (s.entries.map Prod.fst).Nodup ∧
    s.routed.map Prod.fst = (handed calls).map Prod.fst ∧
    (∀ x ∈ s.routed, (s.entries.map Prod.fst)[x.2]? = some x.1) ∧
    (∀ x ∈ s.routed, ∀ y ∈ s.routed, x.2 = y.2 ↔ x.1 = y.1) ∧
    (∀ metadata, spansUnder metadata (ClientStatsPayload.spans aggregated) s.replies.flatten +
        spansUnder metadata kept s.entries =
      spansUnder metadata TraceChunk.spanSet (handed calls)) ∧
    (∀ reply ∈ s.replies, (reply.map Prod.fst).Nodup) ∧
    ∀ e ∈ s.replies.flatten,
      e.2.spans aggregated ≤ spansUnder e.1 TraceChunk.spanSet (handed calls) ∧
      e.2.env = (if e.1.serviceEnv.getD "" = "" then configEnv else e.1.serviceEnv.getD "") ∧
      e.2.version = e.1.serviceVersion.getD "" ∧ e.2.lang = e.1.tracerLanguage ∧
      e.2.tracerVersion = e.1.tracerVersion ∧ e.2.service = e.1.serviceName.getD "" ∧
      e.2.containerId = e.1.containerId.getD "" := by
  intro s
  have part : s.Partitioned kept aggregated hasher configEnv (handed calls) :=
    partitioned_run keeps calls
  refine ⟨fun a b => ⟨MetadataKey.eq_iff, MetadataKey.hashed_eq_of_eq⟩, part.nodup, part.keys,
    part.routed, ?_, part.accounted, part.distinct, ?_⟩
  · intro x hx y hy
    have first := part.routed x hx
    have second := part.routed y hy
    constructor
    · intro same
      rw [same, second] at first
      exact (Option.some.inj first).symm
    · intro same
      rw [← same] at second
      have lt := (List.getElem?_eq_some_iff.1 first).1
      exact (List.getElem?_inj lt part.nodup).1 (first.trans second.symm)
  · intro e mem
    refine ⟨?_, ?_⟩
    · rw [← part.accounted e.1]
      exact (le_spansUnder (ClientStatsPayload.spans aggregated) mem).trans
        (Multiset.le_add_right _ _)
    · obtain ⟨stats, payload⟩ := part.copied e mem
      rw [payload]
      refine ⟨?_, rfl, rfl, rfl, rfl, rfl⟩
      simp [ClientStatsPayload.ofBuckets, resolvePayloadEnv]

/-- Two metadata that differ in the version only. -/
def metadataOf (version : String) : TracerMetadata Unit :=
  ⟨2, none, "go", "1.64", "", some "web", none, some version, none, none, none⟩

/-- Interleaved chunks of two versions over two flushes. -/
def twoVersions : List (StatsCall Unit Nat Unit) :=
  let all : HashTable.Probe := ⟨fun _ _ => true, fun _ => rfl⟩
  let chunk (second : Nat) : TraceChunk Unit Nat := ⟨1, "", [MiniAgent.spanEnding second], ∅, false⟩
  [.addChunk all false 0 (chunk 5) (metadataOf "1"),
    .addChunk all true 1 (chunk 25) (metadataOf "2"),
    .addChunk all false 2 (chunk 26) (metadataOf "1"), .flush (fun _ => 30) false,
    .addChunk all false 31 (chunk 31) (metadataOf "2"), .flush (fun _ => 60) true]

theorem spans_partitioned_two_versions :
    let s := run MiniAgent.bucketing (fun _ => 0) "prod" twoVersions
    s.routed.map Prod.snd = [0, 1, 0, 1] ∧
    s.replies.map (List.map fun e => (e.1.serviceVersion, e.2.env, e.2.stats.length)) =
      [[(some "1", "prod", 1)], [(some "1", "prod", 1), (some "2", "prod", 2)]] ∧
    ∀ metadata,
      spansUnder metadata (ClientStatsPayload.spans fun span => {span}) s.replies.flatten +
        spansUnder metadata (fun spans : List (Span Unit Nat) => (spans : Multiset _)) s.entries =
      spansUnder metadata TraceChunk.spanSet (handed twoVersions) :=
  ⟨by decide +kernel, by decide +kernel,
    (spans_partitioned MiniAgent.bucketing _ _ MiniAgent.keepsSpans_bucketing (fun _ => 0) "prod"
      twoVersions).2.2.2.2.2.1⟩

end Partition

/-! ## The map -/

section Represents

variable [DecidableEq L] (concentrator : SpanConcentrator D R G K)
  (hasher : List HashInput → UInt64) (configEnv : String)

/-- The command on the map of the concentrators, with the payloads it answers. -/
def onMap (m : Concentrators K L × List (List (ClientStatsPayload G))) :
    StatsCall D R L → Concentrators K L × List (List (ClientStatsPayload G))
  | .addChunk _ _ now chunk metadata =>
    (m.1.addChunk concentrator now chunk metadata, m.2)
  | .flush clock forceFlush =>
    let flushed := m.1.handleFlush concentrator configEnv clock forceFlush
    (flushed.2, m.2 ++ [flushed.1])

/-- The buckets hold the entries of the map, and the same payloads have been answered, in the order
of the buckets. -/
structure Represents (s : StatsService G K L)
    (m : Concentrators K L × List (List (ClientStatsPayload G))) : Prop where
  filed : HashTable.Filed (hashOf hasher) s.concentrators
  listed : m.1.Listed s.entries
  replies : List.Forall₂ List.Perm (s.replies.map (List.map Prod.snd)) m.2

variable {concentrator hasher configEnv} {s : StatsService G K L}
  {m : Concentrators K L × List (List (ClientStatsPayload G))}

theorem represents_addChunk (start : Represents hasher s m) (probe : HashTable.Probe)
    (grows : Bool) (now : Nat) (chunk : TraceChunk D R) (metadata : TracerMetadata L) :
    (s.addChunk concentrator hasher probe grows now chunk metadata).Represents hasher
      (m.1.addChunk concentrator now chunk metadata, m.2) := by
  obtain ⟨filed, before, after, k, entries', -, origin⟩ :=
    addChunk_cases concentrator start.filed probe grows now chunk metadata
  refine ⟨filed, ?_, start.replies⟩
  rw [entries', Concentrators.addChunk]
  rcases origin with entries | ⟨entries, rfl, rfl, fresh⟩
  · have listed := entries ▸ start.listed
    rw [listed.lookup (b := k) (by simp), Option.getD_some]
    exact listed.insert _
  · have listed := entries ▸ start.listed
    rw [listed.lookup_eq_none fresh, Option.getD_none]
    exact listed.push fresh _

omit [DecidableEq L] in
theorem represents_handleFlush (start : Represents hasher s m) (clock : TracerMetadata L → Nat)
    (forceFlush : Bool) :
    (s.handleFlush concentrator configEnv clock forceFlush).Represents hasher
      ((m.1.handleFlush concentrator configEnv clock forceFlush).2,
        m.2 ++ [(m.1.handleFlush concentrator configEnv clock forceFlush).1]) := by
  refine ⟨?_, ?_, ?_⟩
  · intro slot mem
    obtain ⟨old, hold, rfl⟩ := List.mem_map.1 mem
    exact start.filed old hold
  · rw [entries_handleFlush]
    exact start.listed.mapValues fun metadata k =>
      (concentrator.flush k (clock metadata) forceFlush).2
  · rw [handleFlush, List.map_append]
    refine List.rel_append start.replies (.cons ?_ .nil)
    rw [List.map_filterMap]
    simp only [Option.map_map]
    have same := start.listed.filterMap fun e =>
      Concentrators.flushOne concentrator configEnv clock forceFlush e.1 e.2
    rw [List.filterMap_map] at same
    simpa [Concentrators.handleFlush, Function.comp_def] using same

/-- What the hash map does is what the map of the concentrators does, whatever hasher, probes and
growth are. -/
theorem represents_run (calls : List (StatsCall D R L)) :
    (run concentrator hasher configEnv calls).Represents hasher
      (calls.foldl (onMap concentrator configEnv) (∅, [])) := by
  induction calls using List.reverseRecOn with
  | nil => exact ⟨List.forall_mem_nil _, List.Perm.nil, .nil⟩
  | append_singleton calls call ih =>
    rw [run, List.foldl_append, List.foldl_append]
    cases call with
    | addChunk probe grows now chunk metadata =>
      exact represents_addChunk ih probe grows now chunk metadata
    | flush clock forceFlush => exact represents_handleFlush ih clock forceFlush

end Represents

end StatsService

end ServerlessComponents.TraceAgent
