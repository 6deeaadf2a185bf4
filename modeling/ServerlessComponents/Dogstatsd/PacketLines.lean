import ServerlessComponents.Library.Utf8
import ServerlessComponents.Dogstatsd.MessageFields
import ServerlessComponents.Dogstatsd.NamedPipe

/-!
# What the lines of a packet come to

`process_packet` decodes a packet as a whole and `insert_metrics` parses its lines one by one. The
named-pipe client decides which lines make a packet, so how they are grouped matters where the
packet is looked at as a whole, which is the decoding.

## Main results

* `PipeClient.reads_inserted` — what is inserted, packet by packet, and when it does not depend on
  how the stream was cut.
-/
namespace ServerlessComponents.Dogstatsd

section Process

variable [MetricHasher] {V K : Type} [DoubleText V] [DDSketch V K]

/-- What the parser reads from the clock at the `n`-th line, for a missing timestamp and for the
bucket. -/
abbrev ClockReadings := Nat → Int × Int

/-- What `insert_metrics` lets through: no empty messages, service checks and events, and none of
the metrics the Lambda layer sends too. -/
def isMetricLine (m : String) : Bool :=
  !m.isEmpty && !("_sc|".toList.isPrefixOf m.toList) && !("_e\x7b".toList.isPrefixOf m.toList) &&
    !("aws.lambda.enhanced.invocations".toList.isPrefixOf m.toList)

/-- `m.replace('\n', "")` -/
def removeNewlines (m : String) : String := .ofList (m.toList.filter (· ≠ '\n'))

def applyNamespace (ns : Option String) (metric : RawMetric V K) : RawMetric V K :=
  match ns with
  | some ns => metric.prependNamespace ns
  | none => metric

/-- `insert_metrics`, the messages being numbered from `first` on; a message that cannot be parsed
is logged and left out. -/
def insertMetrics (readings : ClockReadings) (ns : Option String) (first : Nat)
    (msgs : List String) : List (AggregatorCommand V K) :=
  let filtered := (msgs.zipIdx first).filter fun (m, _) => isMetricLine m
  let stripped := filtered.map fun (m, n) => (removeNewlines m, n)
  let parsed := stripped.filterMap fun (m, n) =>
    (parse (readings n).1 (readings n).2 m).toOption
  let allValidMetrics := parsed.map (applyNamespace ns)
  if allValidMetrics.isEmpty then [] else [.insertBatch (allValidMetrics.map RawMetric.sealed)]

/-- `process_packet`: a packet that is not UTF-8 is logged and dropped. -/
def processPacket (readings : ClockReadings) (ns : Option String) (first : Nat) (buf : Bytes) :
    List (AggregatorCommand V K) :=
  if buf.isEmpty then []
  else
    match Utf8.decode buf with
    | none => []
    | some msgs => insertMetrics readings ns first (splitAtChar '\n' msgs)

/-- The metrics that commands insert into the aggregator. -/
def insertedBy (commands : List (AggregatorCommand V K)) : List (Metric V K) :=
  commands.flatMap fun
    | .insertBatch metrics => metrics
    | _ => []

/-- What is inserted for some packets, one after another; the lines are numbered throughout. -/
def inserted (readings : ClockReadings) (ns : Option String) : Nat → List Bytes → List (Metric V K)
  | _, [] => []
  | first, data :: rest =>
    insertedBy (processPacket readings ns first data) ++
      inserted readings ns (first + (Framing.lines newline data).length) rest

/-- Lines that are each a packet of their own. -/
def ownPackets (lines : List Bytes) : List Bytes := lines.map (· ++ [newline])

/-! ## Line by line -/

/-- The metric of one message, if it has one. -/
def lineMetric (readings : ClockReadings) (ns : Option String) (n : Nat) (m : String) :
    Option (Metric V K) :=
  if isMetricLine m then
    (parse (readings n).1 (readings n).2 (removeNewlines m)).toOption.map fun metric =>
      (applyNamespace ns metric).sealed
  else none

/-- The metrics of numbered messages, `none` where there is no text. -/
def metricsOf (readings : ClockReadings) (ns : Option String) (first : Nat)
    (msgs : List (Option String)) : List (Metric V K) :=
  (msgs.zipIdx first).filterMap fun (m, n) => m.bind (lineMetric readings ns n)

variable {readings : ClockReadings} {ns : Option String} {first : Nat}

theorem metricsOf_append (msgs more : List (Option String)) :
    metricsOf (V := V) (K := K) readings ns first (msgs ++ more) =
      metricsOf readings ns first msgs ++ metricsOf readings ns (first + msgs.length) more := by
  rw [metricsOf, List.zipIdx_append, List.filterMap_append]
  rfl

/-- Messages do not influence one another. -/
theorem insertedBy_insertMetrics (msgs : List String) :
    insertedBy (insertMetrics readings ns first msgs : List (AggregatorCommand V K)) =
      metricsOf readings ns first (msgs.map some) := by
  have batch (metrics : List (RawMetric V K)) :
      insertedBy (if metrics.isEmpty then [] else [.insertBatch (metrics.map RawMetric.sealed)]) =
        metrics.map RawMetric.sealed := by
    cases metrics <;> simp [insertedBy]
  rw [insertMetrics, batch, List.map_map, List.map_filterMap, List.filterMap_map,
    List.filterMap_filter, metricsOf, List.zipIdx_map, List.filterMap_map]
  refine List.filterMap_congr fun ⟨m, n⟩ _ => ?_
  simp [lineMetric, Function.comp_def]

/-! ## Packet by packet -/

omit [MetricHasher] in
/-- A packet is text if each of its lines is. -/
theorem isSome_decode_data_iff {data : Bytes} (ends : Framing.Ends newline data) :
    (Utf8.decode data).isSome ↔ ∀ line ∈ Framing.lines newline data, (Utf8.decode line).isSome := by
  have pieces := @Utf8.isSome_decode_iff '\n' data (by decide)
  change _ ↔ ∀ piece ∈ data.splitOn newline, _ at pieces
  rw [pieces, ends.splitOn_eq]
  have empty : (Utf8.decode []).isSome := by decide
  simp [or_imp, forall_and, empty]

omit [MetricHasher] in
theorem messages_of_data {data : Bytes} {msgs : String} (ends : Framing.Ends newline data)
    (decoded : Utf8.decode data = some msgs) :
    (splitAtChar '\n' msgs).map some =
      (Framing.lines newline data).map Utf8.decode ++ [some ""] := by
  have pieces := @Utf8.map_decode_splitOn '\n' data msgs (by decide) decoded
  change (data.splitOn newline).map Utf8.decode = _ at pieces
  rw [ends.splitOn_eq, List.map_append] at pieces
  have empty : Utf8.decode [] = some "" := by decide
  rw [splitAtChar, ← pieces, List.map_singleton, empty]

/-- A packet gives what its lines give if it can be decoded, and nothing otherwise. -/
theorem insertedBy_processPacket {data : Bytes} (ends : Framing.Ends newline data) :
    insertedBy (processPacket readings ns first data : List (AggregatorCommand V K)) =
      if ∀ line ∈ Framing.lines newline data, (Utf8.decode line).isSome then
        metricsOf readings ns first ((Framing.lines newline data).map Utf8.decode)
      else [] := by
  unfold processPacket
  split
  · rename_i empty
    obtain rfl := List.isEmpty_iff.1 empty
    rfl
  · simp only [← isSome_decode_data_iff ends]
    cases decoded : Utf8.decode data with
    | none => rfl
    | some msgs =>
      rw [Option.isSome_some, if_pos rfl, insertedBy_insertMetrics, messages_of_data ends decoded,
        metricsOf_append]
      exact List.append_nil _

theorem inserted_ownPackets {lines : List Bytes} (none : ∀ line ∈ lines, newline ∉ line) :
    inserted (V := V) (K := K) readings ns first (ownPackets lines) =
      metricsOf readings ns first (lines.map Utf8.decode) := by
  induction lines generalizing first with
  | nil => rfl
  | cons line rest ih =>
    have ends : Framing.Ends newline (line ++ [newline]) := fun _ => List.getLast_concat
    have single := Framing.lines_concat (none line List.mem_cons_self)
    have alone : insertedBy (processPacket readings ns first (line ++ [newline]) :
        List (AggregatorCommand V K)) = metricsOf readings ns first [Utf8.decode line] := by
      rw [insertedBy_processPacket ends, single]
      cases decoded : Utf8.decode line <;> simp [decoded, metricsOf]
    have later := @ih (first + 1) fun other mem => none other (List.mem_cons_of_mem _ mem)
    rw [List.map_cons, ← List.singleton_append (x := Utf8.decode line), metricsOf_append]
    rw [ownPackets, List.map_cons, inserted, single, alone]
    exact congrArg _ later

/-- Packets of text give what their lines give. -/
theorem inserted_eq_metricsOf {packets : List Bytes}
    (ends : ∀ data ∈ packets, Framing.Ends newline data)
    (text : ∀ line ∈ packets.flatMap (Framing.lines newline), (Utf8.decode line).isSome) :
    inserted (V := V) (K := K) readings ns first packets =
      metricsOf readings ns first ((packets.flatMap (Framing.lines newline)).map Utf8.decode) := by
  induction packets generalizing first with
  | nil => rfl
  | cons data rest ih =>
    rw [List.flatMap_cons] at text ⊢
    have decodes : ∀ line ∈ Framing.lines newline data, (Utf8.decode line).isSome :=
      fun line mem => text line (List.mem_append_left _ mem)
    rw [inserted, insertedBy_processPacket (ends data List.mem_cons_self), if_pos decodes,
      ih (fun other mem => ends other (List.mem_cons_of_mem _ mem))
        fun line mem => text line (List.mem_append_right _ mem),
      List.map_append, metricsOf_append, List.length_map]

end Process

/-! ## The packets of a client -/

namespace PipeClient

variable {pipeName : String} {bufSize : Nat} {c c' : PipeClient} {chunks chunks' : List Bytes}

theorem ShortRuns.positive {stream : Bytes} (short : ShortRuns bufSize stream) : 0 < bufSize :=
  short [] List.nil_infix List.not_mem_nil

theorem Reads.ends (reads : Reads pipeName bufSize c chunks)
    (short : ShortRuns bufSize chunks.flatten) :
    ∀ data ∈ c.sent.map Packet.data, Framing.Ends newline data := by
  simpa using fun packet mem => ((reads.sound short.positive short).ends packet mem).2

/-- The lines of the packets are the lines of the stream. -/
theorem Reads.flatMap_lines (reads : Reads pipeName bufSize c chunks)
    (short : ShortRuns bufSize chunks.flatten) :
    (c.sent.map Packet.data).flatMap (Framing.lines newline) =
      Framing.lines newline chunks.flatten := by
  rw [← Framing.lines_terminated, ← (reads.sound short.positive short).sent]
  exact (Framing.lines_flatten (reads.ends short)).symm

variable [MetricHasher] {V K : Type} [DoubleText V] [DDSketch V K]

/-- Whatever a client reads, in whatever pieces: each of its packets inserts what its lines would
insert as packets of their own, unless one of them is not UTF-8 and the packet is dropped; and
where all lines of the stream are UTF-8, another way to cut it inserts the same. -/
theorem reads_inserted (readings : ClockReadings) (ns : Option String)
    (reads : Reads pipeName bufSize c chunks) (reads' : Reads pipeName bufSize c' chunks')
    (same : chunks'.flatten = chunks.flatten) (short : ShortRuns bufSize chunks.flatten) :
    let lines := Framing.lines newline chunks.flatten
    let packets := c.sent.map Packet.data
    packets.flatMap (Framing.lines newline) = lines ∧
      (∀ data ∈ packets, ∀ first,
        insertedBy (processPacket readings ns first data : List (AggregatorCommand V K)) =
          if ∀ line ∈ Framing.lines newline data, (Utf8.decode line).isSome then
            inserted readings ns first (ownPackets (Framing.lines newline data))
          else []) ∧
      ((∀ line ∈ lines, (Utf8.decode line).isSome) →
        inserted (V := V) (K := K) readings ns 0 packets =
            inserted readings ns 0 (ownPackets lines) ∧
          inserted (V := V) (K := K) readings ns 0 (c'.sent.map Packet.data) =
            inserted readings ns 0 packets) := by
  intro lines packets
  have grouped : packets.flatMap (Framing.lines newline) = lines := reads.flatMap_lines short
  refine ⟨grouped, fun data mem first => ?_, fun text => ?_⟩
  · rw [insertedBy_processPacket (reads.ends short data mem),
      inserted_ownPackets fun line => Framing.not_mem_of_mem_lines]
  · have by_lines : inserted (V := V) (K := K) readings ns 0 packets =
        metricsOf readings ns 0 (lines.map Utf8.decode) := by
      rw [inserted_eq_metricsOf (reads.ends short) (by rwa [grouped]), grouped]
    have grouped' := reads'.flatMap_lines (same ▸ short)
    rw [same] at grouped'
    have by_lines' : inserted (V := V) (K := K) readings ns 0 (c'.sent.map Packet.data) =
        metricsOf readings ns 0 (lines.map Utf8.decode) := by
      rw [inserted_eq_metricsOf (reads'.ends (same ▸ short)) (by rwa [grouped']), grouped']
    refine ⟨?_, by_lines'.trans by_lines.symm⟩
    rw [by_lines, inserted_ownPackets fun line => Framing.not_mem_of_mem_lines]

omit [MetricHasher] [DoubleText V] [DDSketch V K] in
/-- Two counts in one read and in two. -/
theorem reads_inserted_two :
    letI := fnvHasher
    letI := listSketch
    letI := decimalText
    ∃ c c', Reads "pipe" 16 c [[97, 58, 49, 124, 99, 10, 98, 58, 50, 124, 99, 10]] ∧
      Reads "pipe" 16 c' [[97, 58, 49, 124, 99, 10, 98, 58], [50, 124, 99, 10]] ∧
      (inserted (V := Int) (K := List Int) (fun _ => (100, 100)) none 0
        (c'.sent.map Packet.data)).map Metric.raw =
      (inserted (V := Int) (K := List Int) (fun _ => (100, 100)) none 0
        (c.sent.map Packet.data)).map Metric.raw := by
  let _ := fnvHasher
  let _ := listSketch
  let _ := decimalText
  have one : Reads "pipe" 16 _ ([] ++ [[97, 58, 49, 124, 99, 10, 98, 58, 50, 124, 99, 10]]) :=
    .read .start (by decide) (by decide) rfl
  have first : Reads "pipe" 16 _ ([] ++ [[97, 58, 49, 124, 99, 10, 98, 58]]) :=
    .read .start (by decide) (by decide) rfl
  have two : Reads "pipe" 16 _ ([] ++ [[97, 58, 49, 124, 99, 10, 98, 58]] ++ [[50, 124, 99, 10]]) :=
    .read first (by decide) (by decide) rfl
  have short : ShortRuns 16 [97, 58, 49, 124, 99, 10, 98, 58, 50, 124, 99, 10] :=
    fun _ run _ => Nat.lt_of_le_of_lt run.length_le (by decide)
  have independent := reads_inserted (V := Int) (K := List Int) (fun _ => (100, 100)) none one two
    rfl short
  exact ⟨_, _, one, two, congrArg _ (independent.2.2 (by decide)).2⟩

omit [MetricHasher] [DoubleText V] [DDSketch V K] in
/-- A count and a line that is not UTF-8: read together both are lost, read apart the count is
inserted, as it is when each line is a packet of its own. -/
theorem grouping_matters :
    letI := fnvHasher
    letI := listSketch
    letI := decimalText
    ShortRuns 16 [97, 58, 49, 124, 99, 10, 255, 10] ∧
    ∃ c c', Reads "pipe" 16 c [[97, 58, 49, 124, 99, 10, 255, 10]] ∧
      Reads "pipe" 16 c' [[97, 58, 49, 124, 99, 10], [255, 10]] ∧
      (inserted (V := Int) (K := List Int) (fun _ => (100, 100)) none 0
        (c.sent.map Packet.data)).length = 0 ∧
      (inserted (V := Int) (K := List Int) (fun _ => (100, 100)) none 0
        (c'.sent.map Packet.data)).length = 1 ∧
      (inserted (V := Int) (K := List Int) (fun _ => (100, 100)) none 0
        (ownPackets [[97, 58, 49, 124, 99], [255]])).length = 1 := by
  let _ := fnvHasher
  let _ := listSketch
  let _ := decimalText
  refine ⟨fun _ run _ => Nat.lt_of_le_of_lt run.length_le (by decide), ?_⟩
  have one : Reads "pipe" 16 _ ([] ++ [[97, 58, 49, 124, 99, 10, 255, 10]]) :=
    .read .start (by decide) (by decide) rfl
  have first : Reads "pipe" 16 _ ([] ++ [[97, 58, 49, 124, 99, 10]]) :=
    .read .start (by decide) (by decide) rfl
  have two : Reads "pipe" 16 _ ([] ++ [[97, 58, 49, 124, 99, 10]] ++ [[255, 10]]) :=
    .read first (by decide) (by decide) rfl
  exact ⟨_, _, one, two, by decide, by decide, by decide⟩

end PipeClient

end ServerlessComponents.Dogstatsd
