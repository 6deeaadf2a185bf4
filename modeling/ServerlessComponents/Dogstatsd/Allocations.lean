import ServerlessComponents.Dogstatsd.Stopping

/-!
# How many buffers there are

A UDP reader makes a new buffer whenever it finds the pool empty, and the pool itself has no bound.
While the reader runs no buffer is lost, so it finds the pool empty only while all buffers are on
the queue or with the processor.

## Main results

* `Spin.allocations_bounded` — the buffers made in a run.
-/
namespace ServerlessComponents.Dogstatsd

namespace Server

/-- The buffers in the pool, with the reader, and in packets whose buffers come back. -/
def held (s : Server) : Nat :=
  s.pool.length + s.reader.buffers.length +
    (s.processor.inHand ++ s.queue).countP Packet.isPooled

/-- The buffers made when one is taken from the pool. -/
def made (s : Server) : Nat := if s.pool = [] then 1 else 0

/-- So many buffers have been made: those there are, once the reader is gone with some of them. -/
structure Bounded (cfg : ServerConfig) (n : Nat) (s : Server) : Prop where
  few : n ≤ cfg.queueSize + 2
  queue : s.queue.length ≤ cfg.queueSize
  pooled : ∀ packet ∈ s.reader.inHand, packet.isPooled = true
  held : s.reader ≠ .exited → n = s.held

variable {cfg : ServerConfig} {n : Nat} {s s' : Server}

theorem length_poolSend (s : Server) (buf : Bytes) (live : s.reader ≠ .exited) :
    (s.poolSend buf).pool.length = s.pool.length + 1 := by
  simp [poolSend, live]

theorem length_inHand_le (pc : ProcessorPc) : pc.inHand.length ≤ 1 := by
  cases pc <;> simp

theorem pooled_of_free {reader : ReaderPc} (free : reader.inHand = []) :
    ∀ packet ∈ reader.inHand, packet.isPooled = true := by
  rw [free]
  exact List.forall_mem_nil _

namespace Bounded

/-- The reader goes on with as many buffers as it had. -/
theorem move (start : s.Bounded cfg n) {reader : ReaderPc} (live : s.reader ≠ .exited)
    (same : reader.buffers.length = s.reader.buffers.length) (free : reader.inHand = []) :
    Bounded cfg n { s with reader } := by
  refine ⟨start.few, start.queue, pooled_of_free free, ?_⟩
  intro _
  simp only [start.held live, Server.held, same]

/-- A reader that ends may have a buffer still. -/
theorem exit (start : s.Bounded cfg n) : Bounded cfg n { s with reader := .exited } :=
  ⟨start.few, start.queue, by simp, fun live => (live rfl).elim⟩

theorem takeBuf (start : s.Bounded cfg n) {reader : ReaderPc} (live : s.reader ≠ .exited)
    (none_ : s.reader.buffers = []) (one : reader.buffers.length = 1) (free : reader.inHand = []) :
    Bounded cfg (n + s.made) { s with reader, pool := (s.takeBuf cfg).2 } := by
  have all := start.held live
  have hand := length_inHand_le s.processor
  have waiting : (s.processor.inHand ++ s.queue).countP Packet.isPooled ≤
      s.processor.inHand.length + s.queue.length := by
    simpa using List.countP_le_length (p := Packet.isPooled) (l := s.processor.inHand ++ s.queue)
  have queue := start.queue
  simp only [Server.held, none_, List.length_nil] at all
  have taken : (s.takeBuf cfg).2.length + 1 = s.pool.length + s.made := by
    unfold Server.takeBuf made
    cases s.pool <;> simp
  have full : s.made = 1 → s.pool.length = 0 := by
    unfold made
    split <;> simp_all
  refine ⟨?_, queue, pooled_of_free free, ?_⟩
  · have few := start.few
    have one_ : s.made ≤ 1 := by
      unfold made
      split <;> omega
    omega
  · intro _
    simp only [Server.held, one]
    omega

/-- The reader gives its buffer back. -/
theorem release (start : s.Bounded cfg n) {reader : ReaderPc} {buf : Bytes}
    (one : s.reader.buffers.length = 1) (none_ : reader.buffers = []) (free : reader.inHand = []) :
    Bounded cfg n { s.poolSend buf with reader } := by
  have live : s.reader ≠ .exited := by
    intro gone
    simp [gone] at one
  have same := sameQueue_poolSend s buf
  refine ⟨start.few, ?_, pooled_of_free free, ?_⟩
  · simpa only [same.queue] using start.queue
  · intro _
    have all := start.held live
    simp only [Server.held, same.queue, same.processor, length_poolSend s buf live, none_,
      List.length_nil] at all ⊢
    omega

theorem received (start : s.Bounded cfg n) {buf datagram : Bytes} {addr : String}
    {empty : ReaderPc} {send : Packet → ReaderPc} (one : s.reader.buffers.length = 1)
    (none_ : empty.buffers = []) (free : empty.inHand = [])
    (carries : ∀ packet, (send packet).buffers = [packet.buf] ∧ (send packet).inHand = [packet]) :
    Bounded cfg n (s.received buf datagram (.network addr) empty send) := by
  unfold Server.received
  split
  · exact start.release one none_ free
  · have live : s.reader ≠ .exited := by
      intro gone
      simp [gone] at one
    refine ⟨start.few, start.queue, ?_, ?_⟩
    · simp only [(carries _).2, List.forall_mem_singleton]
      rfl
    · intro _
      simp only [start.held live, Server.held, one, (carries _).1, List.length_singleton]

theorem send (start : s.Bounded cfg n) {packet : Packet} (hand : s.reader.inHand = [packet])
    (one : s.reader.buffers.length = 1) (reader : ReaderPc) (none_ : reader.buffers = [])
    (free : reader.inHand = []) :
    Bounded cfg n { (s.trySendPacket cfg packet).1 with reader } := by
  have pooled : packet.isPooled = true :=
    start.pooled packet (hand ▸ List.mem_singleton_self packet)
  unfold trySendPacket
  split
  · exact start.release one none_ free
  · split
    next room =>
      refine ⟨start.few, ?_, pooled_of_free free, ?_⟩
      · simp only [List.length_append, List.length_singleton]
        omega
      · intro _
        have live : s.reader ≠ .exited := by
          intro gone
          simp [gone] at one
        have all := start.held live
        simp only [Server.held, one, none_, List.countP_append, List.countP_singleton, pooled,
          if_pos, List.length_nil] at all ⊢
        omega
    next =>
      have dropped : Bounded cfg n { s with dropped := s.dropped + 1 } :=
        ⟨start.few, start.queue, start.pooled, start.held⟩
      exact dropped.release one none_ free

end Bounded

/-! ## What the tasks do -/

/-- Where the reader takes a buffer. -/
def price (s : Server) : ServerAction → Nat
  | .readerAcquire => s.made
  | _ => 0

def udpPrice (s : Server) : UdpAction → Nat
  | .acquire => s.made
  | _ => 0

/-- What `read_loop` reads has a sender's address: `read_into` and `try_read_into` give no other
source. -/
def FromNetwork : ServerAction → Prop
  | .readerRead (.datagram _ source) => ∃ addr, source = .network addr
  | _ => True

theorem bounded_stepReader (start : s.Bounded cfg n) {a : ServerAction} (network : FromNetwork a)
    (h : s.stepReader cfg a = some s') : s'.Bounded cfg (n + s.price a) := by
  cases readerMove_of_stepReader h with
  | top pc =>
    split
    · exact start.exit
    · exact start.move (by simp [pc]) (by simp [pc]) rfl
  | closedCheck pc =>
    split
    · exact start.exit
    · exact start.move (by simp [pc]) (by simp [pc]) rfl
  | acquire pc | drainAcquire pc => exact start.takeBuf (by simp [pc]) (by simp [pc]) rfl rfl
  | read buf bytes source pc | drainRead buf bytes source pc =>
    obtain ⟨addr, rfl⟩ := network
    exact start.received (by simp [pc]) rfl rfl fun _ => ⟨rfl, rfl⟩
  | reset buf pc => exact start.exit
  | failed buf pc | drained buf result pc | cancelled buf pc =>
    exact start.release (by simp [pc]) rfl rfl
  | send packet pc t open_ eq | drainSend packet pc t open_ eq =>
    have hand : s.reader.inHand = [packet] := by simp [pc]
    have sent := start.send hand (by simp [pc])
    rw [eq] at sent
    cases open_ <;> exact sent _ rfl rfl

theorem bounded_stepUdp (start : s.Bounded cfg n) {a : UdpAction}
    (h : s.stepUdp cfg a = some s') : s'.Bounded cfg (n + s.udpPrice a) := by
  cases udpMove_of_stepUdp h with
  | top pc =>
    split
    · exact start.exit
    · exact start.move (by simp [pc]) (by simp [pc]) rfl
  | acquire pc => exact start.takeBuf (by simp [pc]) (by simp [pc]) rfl rfl
  | read buf bytes addr pc => exact start.received (by simp [pc]) rfl rfl fun _ => ⟨rfl, rfl⟩
  | skipped buf pc | failed buf pc | cancelled buf pc => exact start.release (by simp [pc]) rfl rfl
  | send packet pc t open_ eq =>
    have hand : s.reader.inHand = [packet] := by simp [pc]
    have sent := start.send hand (by simp [pc])
    rw [eq] at sent
    cases open_ <;> exact sent _ rfl rfl

theorem bounded_stepProcessor (start : s.Bounded cfg n) {a : ServerAction}
    (h : s.stepProcessor a = some s') : s'.Bounded cfg n := by
  cases processorMove_of_stepProcessor h with
  | recv packet rest pc queue | tryRecv packet rest pc queue =>
    have waiting := start.queue
    refine ⟨start.few, ?_, start.pooled, ?_⟩
    · simp only [queue, List.length_cons] at waiting
      simp only
      omega
    · intro live
      have all := start.held live
      simpa [Server.held, pc, queue] using all
  | recvNone pc | cancelled pc | drained pc | spinReturn pc =>
    refine ⟨start.few, start.queue, start.pooled, ?_⟩
    intro live
    have all := start.held live
    simpa [Server.held, pc] using all
  | handle packet pc | finalHandle packet pc =>
    have same := sameQueue_handlePacket s packet
    have reader : (s.handlePacket packet).reader = s.reader := by
      simp only [handlePacket]
      split
      · exact reader_poolSend ..
      · rfl
    refine ⟨start.few, ?_, ?_, ?_⟩
    · simpa only [same.queue] using start.queue
    · simpa only [reader] using start.pooled
    · intro live
      simp only [reader] at live
      have all := start.held live
      have back : (s.handlePacket packet).pool.length =
          s.pool.length + if packet.isPooled then 1 else 0 := by
        simp only [handlePacket]
        split
        · exact length_poolSend _ _ live
        · rfl
      simp only [Server.held, same.queue, reader, back, pc, ProcessorPc.inHand, List.countP_append,
        List.countP_singleton, List.countP_nil] at all ⊢
      omega

end Server

namespace Spin

variable {cfg : ServerConfig} {transport : Transport} {n : Nat} {s t : Spin} {a : SpinAction}

/-- The buffers made in a step. -/
def price (s : Spin) : SpinAction → Nat
  | .reader action => s.server.price action
  | .udp action => s.server.udpPrice action
  | _ => 0

def FromNetwork : SpinAction → Prop
  | .reader action => Server.FromNetwork action
  | _ => True

/-- A client of the pipe puts packets on the queue only if there is room, and none in a buffer that
comes back. -/
theorem server_stepClient (traced : s.Traced cfg) {i : Nat} {c : PipeClient}
    (live : s.client i = some c) (pipeName : String) (read : PipeRead) :
    (s.stepClient cfg pipeName i c read).server = s.server ∨
      ∃ packet : Packet, packet.isPooled = false ∧ s.server.queue.length < cfg.queueSize ∧
        (s.stepClient cfg pipeName i c read).server = s.server.accept [packet] := by
  have kept := traced.kept i c live
  unfold Spin.stepClient
  cases turn : c.turn pipeName cfg.bufSize read (s.server.answer cfg) with
  | none => exact .inl rfl
  | some c' =>
    cases read with
    | bytes chunk =>
      have sent := kept.sent_turn turn
      split at sent
      next taken =>
        refine .inr ⟨PipeClient.packetOf pipeName (c.window chunk), rfl, ?_, ?_⟩
        · have room := taken.1
          unfold Server.answer at room
          split at room
          · cases room
          · split at room
            · assumption
            · cases room
        · simp [sent]
      next => exact .inl (by simp [sent])
    | _ => cases turn

structure Bounded (cfg : ServerConfig) (n : Nat) (s : Spin) : Prop where
  traced : s.Traced cfg
  server : s.server.Bounded cfg n

theorem bounded_step (start : s.Bounded cfg n) (network : FromNetwork a)
    (h : step cfg transport s a = some t) : t.Bounded cfg (n + s.price a) := by
  refine ⟨traced_step start.traced h, ?_⟩
  obtain ⟨traced, server⟩ := start
  cases move_of_step h with
  | reader single moved => exact Server.bounded_stepReader server network moved
  | udp beside moved => exact Server.bounded_stepUdp server moved
  | processor moved => exact Server.bounded_stepProcessor server moved
  | @client i read pipeName c live =>
    rcases server_stepClient traced live pipeName read with same | ⟨packet, own, room, more⟩
    · rw [same]
      exact server
    · rw [more]
      refine ⟨server.few, ?_, server.pooled, ?_⟩
      · simp only [Server.accept, List.length_append, List.length_singleton]
        omega
      · intro running
        simpa [Server.held, Server.accept, own, Nat.add_assoc, price] using server.held running
  | cancel | supervise => exact ⟨server.few, server.queue, server.pooled, server.held⟩
  | connect | listenerExit => exact server

theorem bounded_init (cfg : ServerConfig) (transport : Transport) :
    (init transport).Bounded cfg 0 := by
  refine ⟨traced_init cfg transport, Nat.zero_le _, ?_, ?_, ?_⟩
  all_goals
    cases transport with
    | reader => simp [init, Server.init, Server.held]
    | namedPipe pipeName udp => cases udp <;> simp [init, Server.init, Server.held]

/-- In every run of the server, with UDP alone or beside the pipe, whatever is received and however
the tasks take turns: no more buffers are made for UDP than fit on the queue and two, one for the
reader and one for the processor. -/
theorem allocations_bounded (cfg : ServerConfig) (transport : Transport)
    (actions : List SpinAction) (network : ∀ a ∈ actions, FromNetwork a) :
    Runs.cost (step cfg transport) price (init transport) actions ≤ cfg.queueSize + 2 := by
  have bound : 0 + Runs.cost (step cfg transport) price (init transport) actions ≤
      cfg.queueSize + 2 :=
    Runs.add_cost_le (P := Bounded cfg) (G := FromNetwork)
      (fun _ _ _ _ start network h => bounded_step start network h)
      (fun _ _ start => start.server.few) (bounded_init cfg transport) network
  simpa using bound

/-- With room for one packet three buffers are made: one is on the queue, one with the processor and
one with the reader. -/
theorem allocations_bounded_three :
    let actions : List SpinAction :=
      [.reader .readerTop, .reader .readerAcquire,
        .reader (.readerRead (.datagram [97] (.network "peer"))), .reader .readerSend,
        .processor .recv, .reader .readerAcquire,
        .reader (.readerRead (.datagram [98] (.network "peer"))), .reader .readerSend,
        .reader .readerAcquire]
    Runs.cost (step ⟨4, 1, by decide, by decide⟩ .reader) price (init .reader) actions = 3 ∧
      Runs.cost (step ⟨4, 1, by decide, by decide⟩ .reader) price (init .reader) actions ≤
        1 + 2 := by
  intro actions
  have network : ∀ a ∈ actions, FromNetwork a := by
    simp [actions, FromNetwork, Server.FromNetwork]
  exact ⟨by decide, allocations_bounded ⟨4, 1, by decide, by decide⟩ .reader actions network⟩

end Spin

end ServerlessComponents.Dogstatsd
