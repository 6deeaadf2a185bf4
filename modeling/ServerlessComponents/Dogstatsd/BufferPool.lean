import Mathlib.Data.List.Forall2
import ServerlessComponents.Dogstatsd.Cancellation
import ServerlessComponents.Dogstatsd.Spin

/-!
# The buffers of the pool

The buffers of UDP packets come back to the pool on every way out of the readers, and with the
length they had; a packet of the pipe has a buffer of its own, which never gets there. So each read
has a whole buffer, and what is processed is what was read.

## Main results

* `Spin.run_packets` — the pool's buffers, and the bytes of the processed packets.
-/
namespace ServerlessComponents.Dogstatsd

/-- The buffers the reader has taken from the pool. -/
@[simp]
def ReaderPc.buffers : ReaderPc → List Bytes
  | .selecting buf | .draining buf => [buf]
  | .sending packet | .drainSending packet => [packet.buf]
  | _ => []

/-- The packet the reader is about to send. -/
@[simp]
def ReaderPc.inHand : ReaderPc → List Packet
  | .sending packet | .drainSending packet => [packet]
  | _ => []

namespace Server

/-- Every buffer that is in the pool or may come back to it has the configured size. -/
structure Intact (cfg : ServerConfig) (s : Server) : Prop where
  pool : ∀ buf ∈ s.pool, buf.length = cfg.bufSize
  reader : ∀ buf ∈ s.reader.buffers, buf.length = cfg.bufSize
  queued : ∀ packet ∈ s.processor.inHand ++ s.queue, packet.isPooled = true →
    packet.buf.length = cfg.bufSize

variable {cfg : ServerConfig} {s s' : Server}

theorem Intact.withReader (intact : s.Intact cfg) {reader : ReaderPc}
    (whole : ∀ buf ∈ reader.buffers, buf.length = cfg.bufSize) : Intact cfg { s with reader } :=
  ⟨intact.pool, whole, intact.queued⟩

theorem Intact.withoutBuf (intact : s.Intact cfg) {reader : ReaderPc}
    (none_ : reader.buffers = []) : Intact cfg { s with reader } := by
  apply intact.withReader
  rw [none_]
  exact List.forall_mem_nil _

theorem Intact.poolSend (intact : s.Intact cfg) {buf : Bytes} (whole : buf.length = cfg.bufSize) :
    (s.poolSend buf).Intact cfg := by
  unfold Server.poolSend
  split
  · exact intact
  · refine ⟨?_, intact.reader, intact.queued⟩
    intro other mem
    rcases List.mem_append.1 mem with mem | mem
    · exact intact.pool other mem
    · rw [List.mem_singleton.1 mem, whole]

theorem length_takeBuf (intact : s.Intact cfg) : (s.takeBuf cfg).1.length = cfg.bufSize := by
  unfold takeBuf
  split
  · rename_i pool
    exact intact.pool _ (by simp [pool])
  · exact List.length_replicate

theorem Intact.takeBuf (intact : s.Intact cfg) {reader : ReaderPc}
    (taken : reader.buffers = [(s.takeBuf cfg).1]) :
    Intact cfg { s with reader, pool := (s.takeBuf cfg).2 } := by
  refine ⟨?_, ?_, intact.queued⟩
  · intro buf mem
    unfold Server.takeBuf at mem
    split at mem
    · rename_i pool
      exact intact.pool buf (by simp [pool, mem])
    · cases mem
  · rw [taken]
    simpa using length_takeBuf intact

theorem length_readInto (buf datagram : Bytes) : (readInto buf datagram).1.length = buf.length := by
  simp only [readInto, List.length_append, List.length_take, List.length_drop]
  omega

/-- A datagram is read into the front of the buffer. -/
theorem take_readInto (buf datagram : Bytes) :
    (readInto buf datagram).1.take (readInto buf datagram).2 = datagram.take buf.length := by
  have length : (datagram.take (min datagram.length buf.length)).length =
      min datagram.length buf.length := by simp
  rw [readInto, List.take_left' length, List.take_eq_take_iff]
  omega

/-! ## A step of a reader -/

/-- Everything a step of either UDP reader does with packets; `datagrams` is what it has read. -/
inductive ReaderEffect (cfg : ServerConfig) (s t : Server) (datagrams : List Bytes) : Prop
  | quiet (same : SameQueue s t) (free : s.reader.inHand = []) (free' : t.reader.inHand = [])
  | read (packet : Packet) (datagram : Bytes) (one : datagrams = [datagram])
      (same : SameQueue s t) (free : s.reader.inHand = []) (hand : t.reader.inHand = [packet])
      (data : packet.data = datagram.take cfg.bufSize)
  | refused (packet : Packet) (none_ : datagrams = []) (same : SameQueue s t)
      (hand : s.reader.inHand = [packet]) (free : t.reader.inHand = [])
  | sent (packet : Packet) (none_ : datagrams = []) (hand : s.reader.inHand = [packet])
      (free : t.reader.inHand = []) (queue : t.queue = s.queue ++ [packet])
      (accepted : t.accepted = s.accepted ++ [packet]) (processed : t.processed = s.processed)
      (processor : t.processor = s.processor)

/-- A step that keeps the buffers whole. -/
structure ReaderStep (cfg : ServerConfig) (s : Server) (datagrams : List Bytes) (t : Server) :
    Prop where
  intact : t.Intact cfg
  effect : ReaderEffect cfg s t datagrams

/-- The reader lets its buffer go, or has none, and is not about to send. -/
theorem readerStep_poolSend (intact : s.Intact cfg) {buf : Bytes} (whole : buf.length = cfg.bufSize)
    {reader : ReaderPc} (free : s.reader.inHand = []) (none_ : reader.buffers = [])
    (free' : reader.inHand = []) (datagrams : List Bytes) :
    ReaderStep cfg s datagrams { s.poolSend buf with reader } :=
  ⟨(intact.poolSend whole).withoutBuf none_,
    .quiet ((sameQueue_poolSend s buf).withReader reader) free free'⟩

theorem readerStep_move (intact : s.Intact cfg) {reader : ReaderPc} (free : s.reader.inHand = [])
    (none_ : reader.buffers = []) (free' : reader.inHand = []) (datagrams : List Bytes) :
    ReaderStep cfg s datagrams { s with reader } :=
  ⟨intact.withoutBuf none_, .quiet ((SameQueue.refl s).withReader reader) free free'⟩

theorem readerStep_takeBuf (intact : s.Intact cfg) {reader : ReaderPc}
    (free : s.reader.inHand = []) (taken : reader.buffers = [(s.takeBuf cfg).1])
    (free' : reader.inHand = []) :
    ReaderStep cfg s [] { s with reader, pool := (s.takeBuf cfg).2 } :=
  ⟨intact.takeBuf taken, .quiet ⟨rfl, rfl, rfl, rfl⟩ free free'⟩

theorem readerStep_received (intact : s.Intact cfg) {buf : Bytes}
    (whole : buf.length = cfg.bufSize) (free : s.reader.inHand = []) (datagram : Bytes)
    (source : MessageSource) {empty : ReaderPc} {send : Packet → ReaderPc}
    (none_ : empty.buffers = []) (free' : empty.inHand = [])
    (carries : ∀ packet, (send packet).buffers = [packet.buf] ∧ (send packet).inHand = [packet]) :
    ReaderStep cfg s [datagram] (s.received buf datagram source empty send) := by
  have length := length_readInto buf datagram
  have data := take_readInto buf datagram
  unfold received
  generalize readInto buf datagram = filled at length data
  obtain ⟨filled, len⟩ := filled
  rw [whole] at length data
  cases len with
  | zero => exact readerStep_poolSend intact length free none_ free' _
  | succ len =>
    refine ⟨intact.withReader ?_, ?_⟩
    · intro other mem
      rw [(carries _).1, List.mem_singleton] at mem
      rw [mem, length]
    exact .read _ datagram rfl ((SameQueue.refl s).withReader _) free (carries _).2 data

theorem readerStep_send (intact : s.Intact cfg) {packet : Packet}
    (hand : s.reader.inHand = [packet]) (whole : packet.buf.length = cfg.bufSize)
    (reader : ReaderPc) (none_ : reader.buffers = [])
    (free : reader.inHand = []) :
    ReaderStep cfg s [] { (s.trySendPacket cfg packet).1 with reader } := by
  unfold trySendPacket
  split
  · exact ⟨(intact.poolSend whole).withoutBuf none_,
      .refused packet rfl ((sameQueue_poolSend s _).withReader reader) hand free⟩
  · split
    · have queued : Intact cfg
          { s with queue := s.queue ++ [packet], accepted := s.accepted ++ [packet] } := by
        refine ⟨intact.pool, intact.reader, ?_⟩
        intro other mem pooled
        rw [← List.append_assoc, List.mem_append] at mem
        rcases mem with mem | mem
        · exact intact.queued other mem pooled
        · rw [List.mem_singleton.1 mem, whole]
      exact ⟨queued.withoutBuf none_, .sent packet rfl hand free rfl rfl rfl rfl⟩
    · have dropped : Intact cfg { s with dropped := s.dropped + 1 } :=
        ⟨intact.pool, intact.reader, intact.queued⟩
      have same := sameQueue_poolSend { s with dropped := s.dropped + 1 } packet.buf
      exact ⟨(dropped.poolSend whole).withoutBuf none_,
        .refused packet rfl ⟨same.queue, same.accepted, same.processed, same.processor⟩ hand free⟩

theorem readerStep_stepReader (intact : s.Intact cfg) {a : ServerAction}
    (h : s.stepReader cfg a = some s') : ReaderStep cfg s a.datagrams s' := by
  have reader := intact.reader
  cases readerMove_of_stepReader h with
  | top pc | closedCheck pc =>
    refine readerStep_move intact (by simp [pc]) ?_ ?_ _ <;> split <;> rfl
  | acquire pc | drainAcquire pc => exact readerStep_takeBuf intact (by simp [pc]) rfl rfl
  | read buf bytes source pc | drainRead buf bytes source pc =>
    exact readerStep_received intact (reader _ (by simp [pc])) (by simp [pc]) _ _ rfl rfl
      fun _ => ⟨rfl, rfl⟩
  | reset buf pc => exact readerStep_move intact (by simp [pc]) rfl rfl _
  | failed buf pc | drained buf result pc | cancelled buf pc =>
    exact readerStep_poolSend intact (reader _ (by simp [pc])) (by simp [pc]) rfl rfl _
  | send packet pc t open_ eq | drainSend packet pc t open_ eq =>
    have hand : s.reader.inHand = [packet] := by simp [pc]
    have sent := readerStep_send intact hand (reader _ (by simp [pc]))
    rw [eq] at sent
    cases open_ <;> exact sent _ rfl rfl

/-- The steps of `udp_read_loop_beside_pipe`. -/
inductive UdpMove (cfg : ServerConfig) (s : Server) : UdpAction → Server → Prop
  | top (pc : s.reader = .top) :
      UdpMove cfg s .top { s with reader := if s.cancelled then .exited else .acquire }
  | acquire (pc : s.reader = .acquire) : UdpMove cfg s .acquire
      { s with reader := .selecting (s.takeBuf cfg).1, pool := (s.takeBuf cfg).2 }
  | read (buf bytes : Bytes) (addr : String) (pc : s.reader = .selecting buf) :
      UdpMove cfg s (.read (.datagram bytes addr))
        (s.received buf bytes (.network addr) .top .sending)
  | skipped (buf : Bytes) (pc : s.reader = .selecting buf) :
      UdpMove cfg s (.read .skipped) { s.poolSend buf with reader := .top }
  | failed (buf : Bytes) (pc : s.reader = .selecting buf) :
      UdpMove cfg s (.read .failed) { s.poolSend buf with reader := .exited }
  | cancelled (buf : Bytes) (pc : s.reader = .selecting buf) (told : s.cancelled = true) :
      UdpMove cfg s .cancelled { s.poolSend buf with reader := .exited }
  | send (packet : Packet) (pc : s.reader = .sending packet) (t : Server) (open_ : Bool)
      (eq : s.trySendPacket cfg packet = (t, open_)) :
      UdpMove cfg s .send { t with reader := if open_ then .top else .exited }

theorem udpMove_of_stepUdp {a : UdpAction} (h : s.stepUdp cfg a = some s') :
    UdpMove cfg s a s' := by
  cases a with
  | top =>
    simp only [stepUdp] at h
    split at h <;> cases h
    rename_i pc
    exact .top pc
  | acquire =>
    simp only [stepUdp] at h
    split at h <;> cases h
    rename_i pc
    exact .acquire pc
  | read result =>
    simp only [stepUdp] at h
    split at h <;> cases h
    · rename_i pc
      exact .read _ _ _ pc
    · rename_i pc
      exact .skipped _ pc
    · rename_i pc
      exact .failed _ pc
  | cancelled =>
    simp only [stepUdp] at h
    split at h
    · rename_i pc
      split at h <;> cases h
      rename_i told
      exact .cancelled _ pc told
    · cases h
  | send =>
    simp only [stepUdp] at h
    split at h
    · rename_i packet pc
      rcases eq : s.trySendPacket cfg packet with ⟨t, _ | _⟩ <;> rw [eq] at h <;> cases h
      · exact .send packet pc t false eq
      · exact .send packet pc t true eq
    · cases h

theorem readerStep_stepUdp (intact : s.Intact cfg) {a : UdpAction}
    (h : s.stepUdp cfg a = some s') : ReaderStep cfg s a.datagrams s' := by
  have reader := intact.reader
  cases udpMove_of_stepUdp h with
  | top pc => refine readerStep_move intact (by simp [pc]) ?_ ?_ _ <;> split <;> rfl
  | acquire pc => exact readerStep_takeBuf intact (by simp [pc]) rfl rfl
  | read buf bytes addr pc =>
    exact readerStep_received intact (reader _ (by simp [pc])) (by simp [pc]) _ _ rfl rfl
      fun _ => ⟨rfl, rfl⟩
  | skipped buf pc | failed buf pc | cancelled buf pc =>
    exact readerStep_poolSend intact (reader _ (by simp [pc])) (by simp [pc]) rfl rfl _
  | send packet pc t open_ eq =>
    have hand : s.reader.inHand = [packet] := by simp [pc]
    have sent := readerStep_send intact hand (reader _ (by simp [pc]))
    rw [eq] at sent
    cases open_ <;> exact sent _ rfl rfl

/-! ## A step of the processor -/

theorem reader_poolSend (s : Server) (buf : Bytes) : (s.poolSend buf).reader = s.reader := by
  unfold poolSend
  split <;> rfl

/-- A step that keeps the buffers whole and leaves the reader and what was accepted alone. -/
structure ProcessorStep (cfg : ServerConfig) (s t : Server) : Prop where
  intact : t.Intact cfg
  reader : t.reader = s.reader
  accepted : t.accepted = s.accepted

/-- The processor moves, and may take a packet off the queue. -/
theorem processorStep_move (intact : s.Intact cfg) {processor : ProcessorPc} {queue : List Packet}
    (fewer : processor.inHand ++ queue ⊆ s.processor.inHand ++ s.queue) :
    ProcessorStep cfg s { s with processor, queue } :=
  ⟨⟨intact.pool, intact.reader, fun packet mem => intact.queued packet (fewer mem)⟩, rfl, rfl⟩

theorem processorStep_handle (intact : s.Intact cfg) {packet : Packet}
    (hand : s.processor.inHand = [packet]) {processor : ProcessorPc}
    (free : processor.inHand = []) :
    ProcessorStep cfg s { s.handlePacket packet with processor } := by
  have processed : Intact cfg { s with processed := s.processed ++ [packet] } :=
    ⟨intact.pool, intact.reader, intact.queued⟩
  have same := sameQueue_handlePacket s packet
  have handled : (s.handlePacket packet).Intact cfg ∧
      (s.handlePacket packet).reader = s.reader := by
    simp only [handlePacket]
    split
    · rename_i pooled
      refine ⟨processed.poolSend (intact.queued packet ?_ pooled), reader_poolSend ..⟩
      rw [hand]
      exact List.mem_cons_self
    · exact ⟨processed, rfl⟩
  refine ⟨⟨handled.1.pool, handled.1.reader, ?_⟩, handled.2, same.accepted⟩
  intro other mem
  rw [free, same.queue] at mem
  exact intact.queued other (List.mem_append_right _ mem)

theorem processorStep_stepProcessor (intact : s.Intact cfg) {a : ServerAction}
    (h : s.stepProcessor a = some s') : ProcessorStep cfg s s' := by
  cases processorMove_of_stepProcessor h with
  | recv packet rest pc queue | tryRecv packet rest pc queue =>
    exact processorStep_move intact (by simp [pc, queue])
  | recvNone pc | cancelled pc | drained pc | spinReturn pc =>
    exact processorStep_move intact (by simp [pc])
  | handle packet pc | finalHandle packet pc =>
    exact processorStep_handle intact (by simp [pc]) rfl

end Server

/-! ## A turn of a client -/

namespace PipeClient

open Framing (terminated residue)

theorem startWriteIndex_keepResidue_le (c : PipeClient) (bufSize endIndex complete : Nat) :
    (c.keepResidue bufSize endIndex complete).startWriteIndex ≤ endIndex - complete := by
  unfold keepResidue
  dsimp only
  split_ifs <;> simp

variable {pipeName : String} {bufSize : Nat} {c c' : PipeClient} {stream chunk : Bytes}
  {queue : TrySend}

/-- The buffer starts behind what has been cut off. -/
theorem Kept.position_turn (kept : c.Kept bufSize stream)
    (turn : c.turn pipeName bufSize (.bytes chunk) queue = some c') :
    c.position stream + (terminated newline (c.window chunk)).length ≤
      c'.position (stream ++ chunk) := by
  obtain ⟨sent, dropped, rfl, -⟩ := turn_eq_some kept.startWriteIndex_le turn
  have moved := startWriteIndex_keepResidue_le { c with buf := c.fillBuf chunk, sent, dropped }
    bufSize (c.startWriteIndex + chunk.length) (terminated newline (c.window chunk)).length
  have window := length_window kept.startWriteIndex_le chunk
  have lengths := Framing.length_terminated_add_residue (d := newline) (c.window chunk)
  have le := kept.startWriteIndex_le_residue
  have whole := Framing.length_terminated_add_residue (d := newline) stream
  unfold position
  rw [List.length_append]
  omega

/-- A turn puts nothing on the queue, or a part of the stream that starts where the buffer does. -/
theorem Kept.sent_turn_cases (kept : c.Kept bufSize stream)
    (turn : c.turn pipeName bufSize (.bytes chunk) queue = some c') :
    c'.sent.drop c.sent.length = [] ∨ ∃ packet : Packet,
      c'.sent.drop c.sent.length = [packet] ∧ packet.isPooled = false ∧
      c.position stream + packet.len ≤ c'.position (stream ++ chunk) ∧
      packet.data =
        ((stream ++ chunk).take (c.position stream + packet.len)).drop (c.position stream) := by
  rw [kept.sent_turn turn]
  split_ifs
  · refine .inr ⟨packetOf pipeName (c.window chunk), List.drop_left, rfl, ?_⟩
    refine ⟨kept.position_turn turn, ?_⟩
    rw [data_packetOf, List.drop_take, Nat.add_sub_cancel_left, ← kept.window_eq, packetOf,
      Framing.take_terminated]
  · exact .inl (List.drop_length ..)

end PipeClient

/-! ## Where the packets are from -/

/-- Read earlier by the same reader, no byte twice. -/
def PacketOrigin.Before : PacketOrigin → PacketOrigin → Prop
  | .udp read, .udp read' => read < read'
  | .pipe client _ stop, .pipe client' start _ => client = client' → stop ≤ start
  | _, _ => True

namespace Spin

/-- What was read there. -/
def bytesAt (cfg : ServerConfig) (s : Spin) : PacketOrigin → Option Bytes
  | .udp read => s.reads[read]?.map (·.take cfg.bufSize)
  | .pipe client start stop =>
    if start ≤ stop ∧ stop ≤ (s.streams client).length then
      some (((s.streams client).take stop).drop start)
    else none

/-- What was read there will not be sent again. -/
def Behind (s : Spin) : PacketOrigin → Prop
  | .udp read => read + s.server.reader.inHand.length < s.reads.length
  | .pipe client _ stop => stop ≤ (s.streams client).length ∧
      ∀ c, s.client client = some c → stop ≤ c.position (s.streams client)

/-- Each accepted packet has the bytes of its origin, and nothing was sent twice. -/
structure History (cfg : ServerConfig) (s : Spin) : Prop where
  traced : List.Forall₂ (fun packet origin => s.bytesAt cfg origin = some packet.data)
    s.server.accepted s.origins
  ordered : s.origins.Pairwise PacketOrigin.Before
  behind : ∀ origin ∈ s.origins, s.Behind origin

/-- The invariant of the server with its transports. -/
structure Traced (cfg : ServerConfig) (s : Spin) : Prop where
  intact : s.server.Intact cfg
  accounted : s.server.Accounted
  history : s.History cfg
  inHand : ∀ packet ∈ s.server.reader.inHand,
    0 < s.reads.length ∧ s.bytesAt cfg (.udp (s.reads.length - 1)) = some packet.data
  kept : ∀ i c, s.client i = some c → c.Kept cfg.bufSize (s.streams i)
  fresh : ∀ i, s.connected ≤ i → s.client i = none ∧ s.streams i = []

variable {cfg : ServerConfig} {s t : Spin}

/-- What was read stays. -/
structure Grows (s t : Spin) : Prop where
  reads : s.reads <+: t.reads
  streams : ∀ i, s.streams i <+: t.streams i

theorem Grows.bytesAt (grows : Grows s t) {origin : PacketOrigin} {data : Bytes}
    (at_ : s.bytesAt cfg origin = some data) : t.bytesAt cfg origin = some data := by
  cases origin with
  | udp read =>
    obtain ⟨datagram, got, rfl⟩ := Option.map_eq_some_iff.1 at_
    obtain ⟨more, eq⟩ := grows.reads
    have lt := (List.getElem?_eq_some_iff.1 got).1
    rw [Spin.bytesAt, ← eq, List.getElem?_append_left lt, got, Option.map_some]
  | pipe client start stop =>
    simp only [Spin.bytesAt] at at_ ⊢
    split at at_
    · rename_i bounds
      obtain ⟨more, eq⟩ := grows.streams client
      rw [← at_, ← eq, if_pos ⟨bounds.1, by rw [List.length_append]; omega⟩,
        List.take_append_of_le_length bounds.2]
    · cases at_

theorem History.grow (history : s.History cfg) (grows : Grows s t)
    (accepted : t.server.accepted = s.server.accepted) (origins : t.origins = s.origins)
    (behind : ∀ origin, s.Behind origin → t.Behind origin) : t.History cfg where
  traced := by
    rw [accepted, origins]
    exact history.traced.imp fun _ _ => grows.bytesAt
  ordered := origins ▸ history.ordered
  behind := fun origin mem => behind origin (history.behind origin (origins ▸ mem))

theorem History.push (history : s.History cfg) (grows : Grows s t) {packet : Packet}
    {origin : PacketOrigin} (accepted : t.server.accepted = s.server.accepted ++ [packet])
    (origins : t.origins = s.origins ++ [origin])
    (behind : ∀ other ∈ s.origins, s.Behind other → t.Behind other ∧ other.Before origin)
    (from_ : t.bytesAt cfg origin = some packet.data) (spent : t.Behind origin) :
    t.History cfg where
  traced := by
    rw [accepted, origins]
    exact List.rel_append (history.traced.imp fun _ _ => grows.bytesAt) (.cons from_ .nil)
  ordered := by
    rw [origins, List.pairwise_append]
    refine ⟨history.ordered, List.pairwise_singleton .., ?_⟩
    intro other mem last eq
    rw [List.mem_singleton.1 eq]
    exact (behind other mem (history.behind other mem)).2
  behind := by
    intro other mem
    rw [origins, List.mem_append, List.mem_singleton] at mem
    rcases mem with mem | rfl
    · exact (behind other mem (history.behind other mem)).1
    · exact spent

/-! ## What a step preserves -/

theorem grows_withUdp (s : Spin) (datagrams : List Bytes) (server : Server) :
    Grows s (s.withUdp datagrams server) :=
  ⟨List.prefix_append .., fun _ => List.prefix_rfl⟩

theorem Behind.withUdp {origin : PacketOrigin} (behind : s.Behind origin) {datagrams : List Bytes}
    {server : Server} (room : server.reader.inHand.length ≤
      s.server.reader.inHand.length + datagrams.length) :
    (s.withUdp datagrams server).Behind origin := by
  cases origin with
  | udp read =>
    simp only [Behind, Spin.withUdp, List.length_append] at behind ⊢
    omega
  | pipe client start stop => exact behind

/-- The UDP reader has put nothing on the queue. -/
theorem Traced.withUdp_quiet (traced : s.Traced cfg) {datagrams : List Bytes} {server : Server}
    (intact : server.Intact cfg) (same : Server.SameQueue s.server server)
    (room : server.reader.inHand.length ≤ s.server.reader.inHand.length + datagrams.length)
    (inHand : ∀ packet ∈ server.reader.inHand, ∃ datagram, datagrams = [datagram] ∧
      packet.data = datagram.take cfg.bufSize) :
    (s.withUdp datagrams server).Traced cfg where
  intact := intact
  accounted := same.accounted traced.accounted
  history := by
    have origins : (s.withUdp datagrams server).origins = s.origins := by
      simp [Spin.withUdp, same.accepted]
    exact traced.history.grow (grows_withUdp ..) same.accepted origins fun _ behind =>
      behind.withUdp room
  inHand := by
    intro packet mem
    obtain ⟨datagram, rfl, data⟩ := inHand packet mem
    simp [withUdp, bytesAt, data]
  kept := traced.kept
  fresh := traced.fresh

/-- The UDP reader has put the packet of its last read on the queue. -/
theorem Traced.withUdp_sent (traced : s.Traced cfg) {server : Server} {packet : Packet}
    (intact : server.Intact cfg) (hand : s.server.reader.inHand = [packet])
    (free : server.reader.inHand = []) (accounted : server.Accounted)
    (accepted : server.accepted = s.server.accepted ++ [packet]) :
    (s.withUdp [] server).Traced cfg where
  intact := intact
  accounted := accounted
  history := by
    obtain ⟨some_, from_⟩ := traced.inHand packet (hand ▸ List.mem_singleton_self packet)
    have origins : (s.withUdp [] server).origins =
        s.origins ++ [.udp (s.reads.length - 1)] := by simp [withUdp, accepted]
    refine traced.history.push (grows_withUdp ..) accepted origins ?_
      ((grows_withUdp ..).bytesAt from_) ?_
    · intro other _ behind
      refine ⟨behind.withUdp (free ▸ Nat.zero_le _), ?_⟩
      cases other with
      | udp read =>
        simp only [Behind, hand, List.length_singleton] at behind
        simp only [PacketOrigin.Before]
        omega
      | pipe client start stop => trivial
    · simp only [Behind, withUdp, free, List.append_nil, List.length_nil]
      omega
  inHand := by
    show ∀ packet ∈ server.reader.inHand, _
    rw [free]
    exact List.forall_mem_nil _
  kept := traced.kept
  fresh := traced.fresh

theorem Traced.withUdp_none (traced : s.Traced cfg) {datagrams : List Bytes} {server : Server}
    (intact : server.Intact cfg) (same : Server.SameQueue s.server server)
    (free : server.reader.inHand = []) : (s.withUdp datagrams server).Traced cfg := by
  apply traced.withUdp_quiet intact same
  · rw [free]
    exact Nat.zero_le _
  · rw [free]
    exact List.forall_mem_nil _

theorem Traced.withUdp (traced : s.Traced cfg) {datagrams : List Bytes} {server : Server}
    (step : Server.ReaderStep cfg s.server datagrams server) :
    (s.withUdp datagrams server).Traced cfg := by
  obtain ⟨intact, effect⟩ := step
  cases effect with
  | quiet same free free' =>
    exact traced.withUdp_none intact same free'
  | read packet datagram one same free hand data =>
    subst one
    apply traced.withUdp_quiet intact same
    · rw [hand, free]
      exact le_rfl
    · rw [hand]
      intro other mem
      exact ⟨datagram, rfl, List.mem_singleton.1 mem ▸ data⟩
  | refused packet none_ same hand free =>
    exact traced.withUdp_none intact same free
  | sent packet none_ hand free queue accepted processed processor =>
    subst none_
    have accounted := traced.accounted.queued queue accepted processed processor
    exact traced.withUdp_sent intact hand free accounted accepted

/-- The reader has not moved, and nothing was put on the queue. -/
theorem Traced.withServer (traced : s.Traced cfg) {server : Server} (intact : server.Intact cfg)
    (accounted : server.Accounted) (reader : server.reader = s.server.reader)
    (accepted : server.accepted = s.server.accepted) (listening : Bool) :
    Traced cfg { s with server, listening } where
  intact := intact
  accounted := accounted
  history := by
    refine traced.history.grow ⟨List.prefix_rfl, fun _ => List.prefix_rfl⟩ accepted rfl ?_
    intro origin behind
    cases origin with
    | udp read =>
      simp only [Behind, reader] at behind ⊢
      exact behind
    | pipe client start stop => exact behind
  inHand := by
    show ∀ packet ∈ server.reader.inHand, _
    rw [reader]
    exact traced.inHand
  kept := traced.kept
  fresh := traced.fresh

theorem Traced.cancel (traced : s.Traced cfg) :
    Traced cfg { s with server := { s.server with cancelled := true } } := by
  have intact : Server.Intact cfg { s.server with cancelled := true } :=
    ⟨traced.intact.pool, traced.intact.reader, traced.intact.queued⟩
  exact traced.withServer intact traced.accounted rfl rfl s.listening

theorem Traced.processor (traced : s.Traced cfg) {a : ServerAction} {server : Server}
    (h : s.server.stepProcessor a = some server) : Traced cfg { s with server } := by
  obtain ⟨intact, reader, accepted⟩ := Server.processorStep_stepProcessor traced.intact h
  have effect : Server.Effect cfg s.server a server := Server.effect_of_stepProcessor h
  have accounted := Server.accounted_effect traced.accounted effect
  exact traced.withServer intact accounted reader accepted s.listening

theorem Traced.connect (traced : s.Traced cfg) :
    Traced cfg { s with
      connected := s.connected + 1
      client := Function.update s.client s.connected (some (.new cfg.bufSize)) } where
  intact := traced.intact
  accounted := traced.accounted
  history := by
    refine traced.history.grow ⟨List.prefix_rfl, fun _ => List.prefix_rfl⟩ rfl rfl ?_
    intro origin behind
    cases origin with
    | udp read => exact behind
    | pipe client start stop =>
      refine ⟨behind.1, fun c live => ?_⟩
      by_cases new : client = s.connected
      · subst new
        have stop_le := behind.1
        rw [(traced.fresh _ le_rfl).2, List.length_nil] at stop_le
        omega
      · simp only [Function.update_of_ne new] at live
        exact behind.2 c live
  inHand := traced.inHand
  kept := by
    intro i c live
    by_cases new : i = s.connected
    · subst new
      simp only [Function.update_self] at live
      cases live
      simp only [(traced.fresh _ le_rfl).2]
      exact PipeClient.new_kept cfg.bufSize_pos
    · simp only [Function.update_of_ne new] at live
      exact traced.kept i c live
  fresh := by
    intro i le
    have lt : s.connected < i := le
    simp only [Function.update_of_ne lt.ne']
    exact traced.fresh i lt.le

/-- A client has read more and has, if it goes on, a buffer that starts no earlier. -/
theorem Traced.turned (traced : s.Traced cfg) {i : Nat} {c : PipeClient}
    (live : s.client i = some c) {next : Option PipeClient} {more : Bytes}
    (goesOn : ∀ c', next = some c' → c'.Kept cfg.bufSize (s.streams i ++ more) ∧
      c.position (s.streams i) ≤ c'.position (s.streams i ++ more)) :
    Traced cfg { s with
      client := Function.update s.client i next
      streams := Function.update s.streams i (s.streams i ++ more) } where
  intact := traced.intact
  accounted := traced.accounted
  history := by
    refine traced.history.grow ⟨List.prefix_rfl, fun j => ?_⟩ rfl rfl ?_
    · by_cases same : j = i
      · subst same
        simp only [Function.update_self]
        exact List.prefix_append ..
      · simp only [Function.update_of_ne same]
        exact List.prefix_rfl
    · intro origin behind
      cases origin with
      | udp read => exact behind
      | pipe client start stop =>
        obtain ⟨read, sent⟩ := behind
        by_cases same : client = i
        · subst same
          simp only [Behind, Function.update_self, List.length_append]
          refine ⟨by omega, fun c' eq => ?_⟩
          exact (sent c live).trans (goesOn c' eq).2
        · simp only [Behind, Function.update_of_ne same]
          exact ⟨read, sent⟩
  inHand := traced.inHand
  kept := by
    intro j d eq
    by_cases same : j = i
    · subst same
      simp only [Function.update_self] at eq ⊢
      exact (goesOn d eq).1
    · simp only [Function.update_of_ne same] at eq ⊢
      exact traced.kept j d eq
  fresh := by
    intro j le
    have ne : j ≠ i := by
      rintro rfl
      exact Option.some_ne_none c (live.symm.trans (traced.fresh j le).1)
    simp only [Function.update_of_ne ne]
    exact traced.fresh j le

/-- The queue has taken a packet that is not in a buffer of the pool. -/
theorem Traced.accept (traced : s.Traced cfg) {packet : Packet} (unpooled : packet.isPooled = false)
    {origin : PacketOrigin} (before : ∀ other ∈ s.origins, other.Before origin)
    (from_ : s.bytesAt cfg origin = some packet.data) (spent : s.Behind origin) :
    Traced cfg
      { s with server := s.server.accept [packet], origins := s.origins ++ [origin] } where
  intact := by
    refine ⟨traced.intact.pool, traced.intact.reader, fun other mem pooled => ?_⟩
    simp only [Server.accept, ← List.append_assoc, List.mem_append, List.mem_singleton] at mem
    rcases mem with mem | rfl
    · exact traced.intact.queued other (List.mem_append.2 mem) pooled
    · rw [unpooled] at pooled
      cases pooled
  accounted := traced.accounted.queued rfl rfl rfl rfl
  history := by
    have grows : Grows s
        { s with server := s.server.accept [packet], origins := s.origins ++ [origin] } :=
      ⟨List.prefix_rfl, fun _ => List.prefix_rfl⟩
    have same (other : PacketOrigin) (behind : s.Behind other) : Behind
        { s with server := s.server.accept [packet], origins := s.origins ++ [origin] } other := by
      cases other <;> exact behind
    have kept (other : PacketOrigin) (mem : other ∈ s.origins) (behind : s.Behind other) :=
      And.intro (same other behind) (before other mem)
    exact traced.history.push grows rfl rfl kept (grows.bytesAt from_) (same origin spent)
  inHand := traced.inHand
  kept := traced.kept
  fresh := traced.fresh

theorem Traced.stepClient (traced : s.Traced cfg) {pipeName : String} {i : Nat} {c : PipeClient}
    {read : PipeRead} (live : s.client i = some c) (offered : s.offers c read = true) :
    (s.stepClient cfg pipeName i c read).Traced cfg := by
  have kept := traced.kept i c live
  unfold Spin.stepClient
  cases turn : c.turn pipeName cfg.bufSize read (s.server.answer cfg) with
  | none => exact traced.turned live fun _ eq => (Option.some_ne_none _ eq.symm).elim
  | some c' =>
    cases read with
    | bytes chunk =>
      have fits : chunk.length ≤ c.offered.length := by
        simp only [offers, Bool.and_eq_true, decide_eq_true_eq] at offered
        exact offered.2
      have moved := kept.position_turn turn
      have goesOn (d : PipeClient) (eq : some c' = some d) :
          d.Kept cfg.bufSize (s.streams i ++ chunk) ∧
            c.position (s.streams i) ≤ d.position (s.streams i ++ chunk) := by
        cases eq
        exact ⟨kept.turn fits turn, by omega⟩
      have turned := traced.turned live goesOn
      rcases kept.sent_turn_cases turn with none_ | ⟨packet, one, unpooled, stop, data⟩
      · simp only [none_, Server.accept_nil, List.map_nil, List.append_nil]
        exact turned
      · simp only [one]
        refine turned.accept unpooled ?_ ?_ ?_
        · intro other mem
          cases other with
          | udp read => trivial
          | pipe client start' stop' =>
            rintro rfl
            exact (traced.history.behind _ mem).2 c live
        · simp only [bytesAt, Function.update_self]
          rw [if_pos ⟨Nat.le_add_right .., stop.trans (c'.position_le _)⟩, data]
        · simp only [Behind, Function.update_self]
          refine ⟨stop.trans (c'.position_le _), fun d eq => ?_⟩
          cases eq
          exact stop
    | _ => cases turn

theorem traced_step {transport : Transport} (traced : s.Traced cfg) {a : SpinAction}
    (h : step cfg transport s a = some t) : t.Traced cfg := by
  cases a with
  | cancel =>
    cases h
    exact traced.cancel
  | reader action =>
    cases transport with
    | reader =>
      obtain ⟨server, moved, rfl⟩ := Option.map_eq_some_iff.1 h
      exact traced.withUdp (Server.readerStep_stepReader traced.intact moved)
    | namedPipe pipeName udp => cases h
  | udp action =>
    simp only [step] at h
    split at h
    · obtain ⟨server, moved, rfl⟩ := Option.map_eq_some_iff.1 h
      exact traced.withUdp (Server.readerStep_stepUdp traced.intact moved)
    · cases h
  | connect =>
    simp only [step] at h
    split at h <;> cases h
    exact traced.connect
  | listenerExit =>
    simp only [step] at h
    split at h <;> cases h
    exact traced.withServer traced.intact traced.accounted rfl rfl false
  | client i read =>
    simp only [step] at h
    split at h
    · rename_i live
      split at h <;> cases h
      rename_i offered
      exact traced.stepClient live offered
    · cases h
  | supervise =>
    simp only [step] at h
    split at h
    · split at h <;> cases h
      exact traced.cancel
    · cases h
  | processor action =>
    have processor (h : (s.server.stepProcessor action).map (fun server => { s with server }) =
        some t) : t.Traced cfg := by
      obtain ⟨server, moved, rfl⟩ := Option.map_eq_some_iff.1 h
      exact traced.processor moved
    cases action with
    | recvNone | spinReturn =>
      simp only [step] at h
      split at h
      · exact processor h
      · cases h
    | _ => exact processor h

theorem traced_idle (cfg : ServerConfig) {reader : ReaderPc} (free : reader.inHand = [])
    (none_ : reader.buffers = []) (listening : Bool) :
    Traced cfg { server := { Server.init with reader }, listening } where
  intact := by
    have start : Server.init.Intact cfg :=
      ⟨List.forall_mem_nil _, List.forall_mem_nil _, List.forall_mem_nil _⟩
    exact start.withoutBuf none_
  accounted := rfl
  history := ⟨.nil, .nil, List.forall_mem_nil _⟩
  inHand := by
    show ∀ packet ∈ reader.inHand, _
    rw [free]
    exact List.forall_mem_nil _
  kept := fun _ _ live => (Option.some_ne_none _ live.symm).elim
  fresh := fun _ _ => ⟨rfl, rfl⟩

theorem traced_init (cfg : ServerConfig) (transport : Transport) : (init transport).Traced cfg := by
  cases transport with
  | reader => exact traced_idle cfg rfl rfl false
  | namedPipe pipeName udp => cases udp <;> exact traced_idle cfg rfl rfl true

theorem traced_run {transport : Transport} {actions : List SpinAction}
    (run : Runs.exec (step cfg transport) (init transport) actions = some s) : s.Traced cfg :=
  Runs.invariant (fun _ _ _ traced h => traced_step traced h) (traced_init cfg transport) run

/-- However the UDP reader, the pipe clients and the packet processor take turns: every buffer in
the pool has the configured size, the processed packets are the first accepted ones, in order and
each once, the data of each is exactly the bytes at its origin, and no two origins have a byte in
common. -/
theorem run_packets (cfg : ServerConfig) (transport : Transport) (actions : List SpinAction)
    (s : Spin) (run : Runs.exec (step cfg transport) (init transport) actions = some s) :
    (∀ buf ∈ s.server.pool, buf.length = cfg.bufSize) ∧
      s.server.processed <+: s.server.accepted ∧
      List.Forall₂ (fun packet origin => s.bytesAt cfg origin = some packet.data)
        s.server.processed (s.origins.take s.server.processed.length) ∧
      s.origins.Pairwise PacketOrigin.Before := by
  have traced := traced_run run
  have processed : s.server.processed <+: s.server.accepted := by
    rw [traced.accounted, List.append_assoc]
    exact List.prefix_append ..
  refine ⟨traced.intact.pool, processed, ?_, traced.history.ordered⟩
  have from_ := List.forall₂_take s.server.processed.length traced.history.traced
  rwa [← List.prefix_iff_eq_take.1 processed] at from_

/-- Two datagrams, the second in the buffer of the first, and two reads of a client. -/
def recycling : List SpinAction :=
  [.connect, .udp .top, .udp .acquire, .udp (.read (.datagram [97, 98, 99] "peer")),
    .client 0 (.bytes [newline, 97]), .udp .send, .processor .recv, .processor .handle,
    .processor .recv, .processor .handle, .udp .top, .udp .acquire,
    .udp (.read (.datagram [100] "peer")), .udp .send, .client 0 (.bytes [newline]),
    .processor .recv, .processor .handle, .processor .recv]

/-- The buffer has the last bytes of the first datagram still; the second packet has not. -/
theorem run_packets_recycled :
    ∃ s, Runs.exec (step ⟨4, 2, by decide, by decide⟩ (.namedPipe "pipe" true))
        (init (.namedPipe "pipe" true)) recycling = some s ∧
      s.server.pool = [[100, 98, 99, 0]] ∧
      s.server.processed.map Packet.data = [[newline], [97, 98, 99], [100]] ∧
      List.Forall₂ (fun packet origin =>
          s.bytesAt ⟨4, 2, by decide, by decide⟩ origin = some packet.data)
        s.server.processed (s.origins.take s.server.processed.length) := by
  have ran : (Runs.exec (step ⟨4, 2, by decide, by decide⟩ (.namedPipe "pipe" true))
        (init (.namedPipe "pipe" true)) recycling).map
        (fun s => (s.server.pool, s.server.processed.map Packet.data)) =
      some ([[100, 98, 99, 0]], [[newline], [97, 98, 99], [100]]) := by decide +kernel
  obtain ⟨s, run, eq⟩ := Option.map_eq_some_iff.1 ran
  obtain ⟨pool, data⟩ := Prod.ext_iff.1 eq
  exact ⟨s, run, pool, data, (run_packets _ _ _ s run).2.2.1⟩

end Spin

end ServerlessComponents.Dogstatsd
