import ServerlessComponents.Dogstatsd.PacketLines
import ServerlessComponents.Dogstatsd.Stopping
import ServerlessComponents.MainLoop.CounterTotals

/-!
# Counters from the wire to the intake

The whole path of a metric: DogStatsD reads packets and parses their lines, the collectors of the
main loop make metrics of their own, all of them go over the channel of the aggregator service, and
the ticks of the main loop flush and ship it. A flush waits on the same channel as the inserts.

## Main results

* `MetricsAgent.counters_from_wire` — what the bytes of the accepted packets count has come to the
  intake, was dropped, or is at one of the places on the way.
-/
namespace ServerlessComponents.MainLoop

open Dogstatsd
open Dogstatsd.AggregatorService (points)

variable [MetricHasher] {V K B : Type}

/-! ## What a packet counts -/

theorem insertedBy_append (commands more : List (AggregatorCommand V K)) :
    insertedBy (commands ++ more) = insertedBy commands ++ insertedBy more := by
  simp [insertedBy]

section Packets

variable [DoubleText V] [DDSketch V K]

/-- What is parsed of a message has the same name and value at any time. -/
theorem parse_any_time (now clock now' clock' : Int) (m : String) :
    (parse now clock m : Except ParseError (RawMetric V K)).toOption.map
        (fun metric => (metric.name, metric.value)) =
      (parse now' clock' m).toOption.map fun metric => (metric.name, metric.value) := by
  unfold parse
  dsimp only
  split
  next => rfl
  next name values _ =>
    split
    next => rfl
    next =>
      split
      next => rfl
      next remaining _ =>
        split
        next => rfl
        next =>
          simp only [bind, Except.bind, pure, Except.pure]
          split
          next => rfl
          next =>
            split
            next => rfl
            next => split <;> rfl

variable [AddCommMonoid V] {name : String}

theorem share_any_time (readings readings' : ClockReadings) (ns : Option String) (n n' : Nat)
    (m : String) : (lineMetric (V := V) (K := K) readings ns n m).map (share name) =
      (lineMetric (V := V) (K := K) readings' ns n' m).map (share name) := by
  let counts : String × MetricValue V K → V := fun (own, value) =>
    if (ns.elim own fun ns => ns ++ "." ++ own) = name then value.getValue.getD 0 else 0
  have counted : share name ∘ (fun metric => (applyNamespace ns metric).sealed) =
      counts ∘ fun metric : RawMetric V K => (metric.name, metric.value) := by
    funext metric
    cases ns <;> rfl
  unfold lineMetric
  split
  · rw [Option.map_map, Option.map_map, counted, ← Option.map_map, ← Option.map_map,
      parse_any_time]
  · rfl

theorem shares_any_time (readings readings' : ClockReadings) (ns : Option String)
    (first first' : Nat) (msgs : List (Option String)) :
    (metricsOf (V := V) (K := K) readings ns first msgs).map (share name) =
      (metricsOf (V := V) (K := K) readings' ns first' msgs).map (share name) := by
  have line (n n' : Nat) (m : Option String) :
      (m.bind (lineMetric (V := V) (K := K) readings ns n)).map (share name) =
        (m.bind (lineMetric (V := V) (K := K) readings' ns n')).map (share name) := by
    cases m with
    | none => simp only [Option.bind_none]
    | some m =>
      simp only [Option.bind_some]
      exact share_any_time readings readings' ns n n' m
  simp only [metricsOf, List.map_filterMap]
  induction msgs generalizing first first' with
  | nil => simp only [List.zipIdx_nil, List.filterMap_nil]
  | cons m rest ih =>
    simp only [List.zipIdx_cons, List.filterMap_cons, line first first' m,
      ih (first + 1) (first' + 1)]

variable (K) in
/-- What the lines of a packet count under a name, at whatever time they are parsed. -/
def countedIn (ns : Option String) (name : String) (data : Bytes) : V :=
  let metrics : List (Metric V K) := insertedBy (processPacket (fun _ => (0, 0)) ns 0 data)
  (metrics.map (share name)).sum

theorem sum_processPacket (readings : ClockReadings) (ns : Option String) (first : Nat)
    (data : Bytes) :
    ((insertedBy (processPacket readings ns first data) : List (Metric V K)).map (share name)).sum =
      countedIn K ns name data := by
  unfold countedIn processPacket
  split
  · rfl
  · cases Utf8.decode data with
    | none => rfl
    | some msgs =>
      simp only [insertedBy_insertMetrics]
      rw [shares_any_time]

/-- What is parsed of some packets counts what they count. -/
theorem sum_processPackets (readings : ClockReadings) (ns : Option String) (name : String)
    (packets : List Packet) :
    ((insertedBy (packets.flatMap fun packet => processPacket readings ns 0 packet.data) :
        List (Metric V K)).map (share name)).sum =
      (packets.map fun packet => countedIn K ns name packet.data).sum := by
  induction packets with
  | nil => rfl
  | cons packet rest ih =>
    rw [List.flatMap_cons, insertedBy_append, List.map_append, List.sum_append, ih,
      sum_processPacket, List.map_cons, List.sum_cons]

end Packets

/-! ## The agent -/

/-- What the server, the service and the flusher are made with, and what the clock shows at each
line of the `n`-th packet. -/
structure MetricsSetup (V K B : Type) where
  server : ServerConfig
  transport : Transport
  metricNamespace : Option String
  readings : Nat → ClockReadings
  sizes : Sizes V B
  orders : Nat → TableOrder (Metric V K) × TableOrder (Metric V K)
  flusher : Flusher
  enc : Encoders V B

/-- DogStatsD and the aggregator service with its channel, and what the collectors have made. -/
structure MetricsAgent (V K B : Type) where
  spin : Spin
  channel : List (AggregatorCommand V K) := []
  collected : List (Metric V K) := []
  pipeline : MetricsPipeline V K B

inductive AgentAction (V K : Type) where
  | dogstatsd (action : SpinAction)
  /-- `collect_and_submit` -/
  | collect (metrics : List (Metric V K))
  /-- A task is spawned and asks for a flush. -/
  | tick
  /-- The service takes the next command. -/
  | serve
  | ship (task : Nat) (resolution : Resolution) (seriesNet sketchNet : Nat → Wire)

namespace MetricsAgent

/-- The packet given to `process_packet` in a step of DogStatsD. -/
def handled (s : Spin) : SpinAction → List Packet
  | .processor .handle => s.server.processor.inHand
  | _ => []

variable [DoubleText V] [AddCommMonoid V] [DDSketch V K] [ToDogsketch K B]

def step (setup : MetricsSetup V K B) (s : MetricsAgent V K B) :
    AgentAction V K → Option (MetricsAgent V K B)
  | .dogstatsd action =>
    (s.spin.step setup.server setup.transport action).map fun spin =>
      let commands := (handled s.spin action).flatMap fun packet =>
        processPacket (setup.readings s.spin.server.processed.length) setup.metricNamespace 0
          packet.data
      { s with spin, channel := s.channel ++ commands }
  | .collect metrics =>
    some { s with
      channel := s.channel ++ [.insertBatch metrics], collected := s.collected ++ metrics }
  | .tick => some { s with channel := s.channel ++ [.flush true] }
  | .serve =>
    match s.channel with
    | .insertBatch metrics :: rest =>
      (s.pipeline.step setup.sizes setup.orders setup.flusher setup.enc (.insertBatch metrics)).map
        fun pipeline => { s with channel := rest, pipeline }
    | .flush _ :: rest =>
      (s.pipeline.step setup.sizes setup.orders setup.flusher setup.enc .tick).map
        fun pipeline => { s with channel := rest, pipeline }
    -- nobody asks for an entry or stops the service
    | _ => none
  | .ship task resolution seriesNet sketchNet =>
    (s.pipeline.step setup.sizes setup.orders setup.flusher setup.enc
      (.ship task resolution seriesNet sketchNet)).map fun pipeline => { s with pipeline }

/-! ## What is on the way -/

section Spin

variable {cfg : ServerConfig} {transport : Transport} {s t : Spin} {a : SpinAction}

omit [MetricHasher] in
theorem processed_of_readerEffect {s t : Server} {datagrams : List Bytes}
    (effect : Server.ReaderEffect cfg s t datagrams) : t.processed = s.processed := by
  cases effect with
  | quiet same | read _ _ _ same | refused _ _ same => exact same.processed
  | sent _ _ _ _ _ _ processed => exact processed

omit [MetricHasher] in
theorem processed_stepProcessor {s t : Server} {a : ServerAction}
    (h : s.stepProcessor a = some t) :
    t.processed = s.processed ++ if a = .handle then s.processor.inHand else [] := by
  cases Server.processorMove_of_stepProcessor h with
  | handle packet pc | finalHandle packet pc =>
    simpa [pc] using (Server.sameQueue_handlePacket s packet).processed
  | _ => simp

omit [MetricHasher] in
/-- What a step hands to `process_packet` is processed, and nothing else. -/
theorem processed_step (traced : s.Traced cfg) (h : s.step cfg transport a = some t) :
    t.server.processed = s.server.processed ++ handled s a := by
  cases Spin.move_of_step h with
  | reader single moved =>
    have effect := (Server.readerStep_stepReader traced.intact moved).effect
    simpa [handled, Spin.withUdp] using processed_of_readerEffect effect
  | udp beside moved =>
    have effect := (Server.readerStep_stepUdp traced.intact moved).effect
    simpa [handled, Spin.withUdp] using processed_of_readerEffect effect
  | client live =>
    simp only [handled, List.append_nil, Spin.stepClient]
    split <;> rfl
  | @processor action server moved =>
    have processed := processed_stepProcessor moved
    cases action <;> simpa [handled] using processed
  | _ => exact (List.append_nil _).symm

end Spin

/-- What the processed packets and the collectors count has come to the service or is on its
channel. -/
structure Conserved (setup : MetricsSetup V K B) (tags : SortedTags) (s : MetricsAgent V K B) :
    Prop where
  traced : s.spin.Traced setup.server
  tracked : s.pipeline.Tracked tags
  counted : ∀ name,
    (s.spin.server.processed.map fun packet =>
        countedIn K setup.metricNamespace name packet.data).sum +
        (s.collected.map (share name)).sum =
      (s.pipeline.inserted.map (share name)).sum + ((insertedBy s.channel).map (share name)).sum

variable {setup : MetricsSetup V K B} {tags : SortedTags} {s s' : MetricsAgent V K B}

/-- The service takes a command off the channel. -/
theorem conserved_serve (start : s.Conserved setup tags)
    {rest : List (AggregatorCommand V K)} {pipeline : MetricsPipeline V K B}
    (tracked : pipeline.Tracked tags)
    (moved : ∀ name, (s.pipeline.inserted.map (share name)).sum +
        ((insertedBy s.channel).map (share name)).sum =
      (pipeline.inserted.map (share name)).sum + ((insertedBy rest).map (share name)).sum) :
    { s with channel := rest, pipeline }.Conserved setup tags :=
  ⟨start.traced, tracked, fun name => (start.counted name).trans (moved name)⟩

theorem conserved_step (json : setup.sizes.JsonSucceeds) {action : AgentAction V K}
    (start : s.Conserved setup tags) (h : s.step setup action = some s') :
    s'.Conserved setup tags := by
  cases action with
  | dogstatsd action =>
    obtain ⟨spin, moved, rfl⟩ := Option.map_eq_some_iff.1 h
    refine ⟨Spin.traced_step start.traced moved, start.tracked, ?_⟩
    intro name
    have counted := start.counted name
    have parsed := sum_processPackets (K := K)
      (setup.readings s.spin.server.processed.length) setup.metricNamespace name
      (handled s.spin action)
    rw [processed_step start.traced moved, insertedBy_append, List.map_append, List.map_append,
      List.sum_append, List.sum_append, parsed, ← add_assoc, ← counted]
    abel
  | collect metrics =>
    cases h
    refine ⟨start.traced, start.tracked, ?_⟩
    intro name
    have here : insertedBy (s.channel ++ [.insertBatch metrics]) =
        insertedBy s.channel ++ metrics := by
      simp [insertedBy]
    rw [here, List.map_append, List.map_append, List.sum_append, List.sum_append, ← add_assoc,
      ← add_assoc, start.counted name]
  | tick =>
    cases h
    refine ⟨start.traced, start.tracked, ?_⟩
    intro name
    simpa [insertedBy] using start.counted name
  | serve =>
    simp only [step] at h
    split at h
    next metrics rest waiting =>
      obtain ⟨pipeline, ran, rfl⟩ := Option.map_eq_some_iff.1 h
      refine conserved_serve start (MetricsPipeline.tracked_step json start.tracked ran) ?_
      obtain ⟨service, -, rfl⟩ := Option.map_eq_some_iff.1 ran
      intro name
      have first : insertedBy s.channel = metrics ++ insertedBy rest := by
        simp [waiting, insertedBy]
      rw [first, List.map_append, List.map_append, List.sum_append, List.sum_append, add_assoc]
    next rest waiting =>
      obtain ⟨pipeline, ran, rfl⟩ := Option.map_eq_some_iff.1 h
      refine conserved_serve start (MetricsPipeline.tracked_step json start.tracked ran) ?_
      obtain ⟨service, -, rfl⟩ := Option.map_eq_some_iff.1 ran
      intro name
      have first : insertedBy s.channel = insertedBy rest := by
        simp [waiting, insertedBy]
      rw [first]
    next => cases h
  | ship task resolution seriesNet sketchNet =>
    obtain ⟨pipeline, ran, rfl⟩ := Option.map_eq_some_iff.1 h
    refine ⟨start.traced, MetricsPipeline.tracked_step json start.tracked ran, ?_⟩
    obtain ⟨response, -, rfl⟩ := Option.map_eq_some_iff.1 ran
    exact start.counted

/-- What the bytes at an origin count. -/
def countedAt (setup : MetricsSetup V K B) (name : String) (s : Spin) (origin : PacketOrigin) : V :=
  (s.bytesAt setup.server origin).elim 0 (countedIn K setup.metricNamespace name)

omit [ToDogsketch K B] in
theorem map_countedAt {packets : List Packet} {origins : List PacketOrigin} {spin : Spin}
    (traced : List.Forall₂
      (fun packet origin => spin.bytesAt setup.server origin = some packet.data) packets origins)
    (name : String) :
    origins.map (countedAt setup name spin) =
      packets.map fun packet => countedIn K setup.metricNamespace name packet.data := by
  induction traced with
  | nil => rfl
  | cons here _ ih => rw [List.map_cons, List.map_cons, ih, countedAt, here, Option.elim_some]

/-- In every run, whatever is received in whatever pieces and order, however the readers, the
processor, the collectors, the service and the flush tasks take turns and whatever the network does:
no byte is in two packets, and in exact arithmetic what the bytes of the accepted packets and the
collectors count under a name (of counters that share no id with another name) is what the intake
took, what the tasks dropped, what they and the aggregator still hold, what found the table full,
what is on the channel and what the packets that are not processed yet will count. -/
theorem counters_from_wire (setup : MetricsSetup V K B) (json : setup.sizes.JsonSucceeds)
    (tags : SortedTags) (maxContext : Nat) (service : AggregatorService V K B)
    (created : AggregatorService.new tags maxContext = .ok service)
    (actions : List (AgentAction V K)) (s : MetricsAgent V K B)
    (run : Runs.exec (step setup) { spin := .init setup.transport, pipeline := { service } }
      actions = some s)
    (name : String) (counted : CountedApart name s.pipeline.inserted) :
    s.spin.origins.Pairwise PacketOrigin.Before ∧
      (s.spin.origins.map (countedAt setup name s.spin)).sum + (s.collected.map (share name)).sum =
        totalOf name s.pipeline.taken + totalOf name s.pipeline.dropped +
          total name (s.pipeline.flushing.flatMap points) +
          (s.pipeline.service.aggregator.map.values.map (share name)).sum +
          ((MetricsPipeline.overflowedOf s.pipeline.service.log).map (share name)).sum +
          ((insertedBy s.channel).map (share name)).sum +
          ((s.spin.server.processor.inHand ++ s.spin.server.queue).map fun packet =>
            countedIn K setup.metricNamespace name packet.data).sum := by
  have start : Conserved setup tags
      { spin := .init setup.transport, pipeline := { service } } := by
    refine ⟨Spin.traced_init .., MetricsPipeline.tracked_new created, ?_⟩
    intro name
    cases setup.transport <;> simp [Spin.init, Server.init, insertedBy]
  have conserved : s.Conserved setup tags :=
    Runs.invariant (fun _ _ _ => conserved_step json) start run
  have history := conserved.traced.history
  have accounted : s.spin.server.accepted =
      s.spin.server.processed ++ (s.spin.server.processor.inHand ++ s.spin.server.queue) :=
    conserved.traced.accounted.trans (List.append_assoc ..)
  refine ⟨history.ordered, ?_⟩
  rw [map_countedAt history.traced, accounted, List.map_append, List.sum_append,
    ← conserved.tracked.conserved counted, ← conserved.counted name]
  abel

omit [MetricHasher] in
/-- A client of the pipe and one of UDP count: the one has been taken, the other is on the queue. -/
theorem counters_from_wire_two :
    letI := fnvHasher
    letI := listSketch
    letI := decimalText
    letI : ToDogsketch (List Int) (List Int) := ⟨id⟩
    let inOrder : TableOrder (Metric Int (List Int)) := ⟨id, fun _ => .refl _⟩
    let setup : MetricsSetup Int (List Int) (List Int) :=
      { server := ⟨16, 4, by decide, by decide⟩
        transport := .namedPipe "pipe" true
        metricNamespace := none
        readings := fun _ _ => (100, 100)
        sizes := ⟨fun _ => some 100, fun _ => 10⟩
        orders := fun _ => (inOrder, inOrder)
        flusher := Flusher.new (.new "key") "https://api.datadoghq.com" (.linearBackoff 3 1) 6
        enc := ⟨fun _ => .ok [], fun _ => .ok [], fun _ _ => none⟩ }
    let accepts : Nat → Wire := fun _ => ⟨fun _ => true, fun _ => .ok ⟨.accepted⟩⟩
    let actions : List (AgentAction Int (List Int)) :=
      [.dogstatsd .connect, .dogstatsd (.client 0 (.bytes [97, 58, 50, 124, 99, 10])),
        .dogstatsd (.processor .recv), .dogstatsd (.processor .handle), .tick, .serve, .serve,
        .dogstatsd (.udp .top), .dogstatsd (.udp .acquire),
        .dogstatsd (.udp (.read (.datagram [97, 58, 51, 124, 99] "peer"))),
        .dogstatsd (.udp .send), .ship 0 ⟨0, 0, none, 0⟩ accepts accepts]
    ∃ service s, AggregatorService.new ⟨[]⟩ 10 = .ok service ∧
      Runs.exec (step setup) { spin := .init setup.transport, pipeline := { service } } actions =
        some s ∧
      totalOf "a" s.pipeline.taken = 2 ∧
      s.spin.origins = [.pipe 0 0 6, .udp 0] ∧ s.spin.origins.Pairwise PacketOrigin.Before ∧
      (s.spin.origins.map (countedAt setup "a" s.spin)).sum +
          (s.collected.map (share "a")).sum =
        totalOf "a" s.pipeline.taken + totalOf "a" s.pipeline.dropped +
          total "a" (s.pipeline.flushing.flatMap points) +
          (s.pipeline.service.aggregator.map.values.map (share "a")).sum +
          ((MetricsPipeline.overflowedOf s.pipeline.service.log).map (share "a")).sum +
          ((insertedBy s.channel).map (share "a")).sum +
          ((s.spin.server.processor.inHand ++ s.spin.server.queue).map fun packet =>
            countedIn (List Int) setup.metricNamespace "a" packet.data).sum := by
  let _ := fnvHasher
  let _ := listSketch
  let _ := decimalText
  let _ : ToDogsketch (List Int) (List Int) := ⟨id⟩
  intro inOrder setup accepts actions
  let service : AggregatorService Int (List Int) (List Int) :=
    ⟨⟨⟨[]⟩, ∅, MAX_ENTRIES_SINGLE_METRIC, MAX_SIZE_BYTES_SINGLE_METRIC, MAX_ENTRIES_SKETCH_METRIC,
      MAX_SIZE_SKETCH_METRIC, 10⟩, true, 0, []⟩
  have ends : (Runs.exec (step setup)
      { spin := .init setup.transport, pipeline := { service } } actions).map (fun s =>
        (s.pipeline.inserted.map fun m => (m.name, m.value),
          totalOf "a" s.pipeline.taken, s.spin.origins)) =
      some ([("a", .count 2)], 2, [.pipe 0 0 6, .udp 0]) := by decide +kernel
  obtain ⟨s, run, ends⟩ := Option.map_eq_some_iff.1 ends
  obtain ⟨inserted, rest⟩ := Prod.mk.inj ends
  obtain ⟨taken, origins⟩ := Prod.mk.inj rest
  have counted : CountedApart "a" s.pipeline.inserted := by
    obtain ⟨only, alone, both⟩ := List.map_eq_singleton_iff.1 inserted
    obtain ⟨named, value⟩ := Prod.mk.inj both
    rw [alone]
    exact ⟨by simp [named], by simp [value]⟩
  have created : AggregatorService.new ⟨[]⟩ 10 = .ok service := rfl
  exact ⟨service, s, created, run, taken, origins,
    counters_from_wire setup (fun _ => ⟨99, rfl⟩) ⟨[]⟩ 10 service created actions s run "a" counted⟩

end MetricsAgent

end ServerlessComponents.MainLoop
