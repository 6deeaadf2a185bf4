import Mathlib.Data.Fintype.Card
import ServerlessComponents.Library.Quiescence
import ServerlessComponents.Dogstatsd.BufferPool

/-!
# Stopping as a whole

If either transport beside the pipe stops on its own, `spin_named_pipe` stops the other one with its
clients. From then on the tasks need nothing from outside: no datagram, no client and no further
cancellation. They are done after a bounded number of steps of their own, whatever else arrives in
between, and are never stuck before that.

## Main result

* `Spin.stops_completely`
-/
namespace ServerlessComponents.Dogstatsd

/-- The actions no task waits for: it runs on, sees the token, takes from the queue, or finds the
socket of the drain loop empty. -/
def SpinAction.Own : SpinAction → Prop
  | .cancel | .connect => False
  | .reader (.readerRead result) => result = .wouldBlock
  | .udp (.read _) => False
  | .client _ read => read = .cancelled
  | _ => True

/-- Not in the drain loop. -/
def ReaderPc.BesidePipe : ReaderPc → Prop
  | .drainAcquire | .draining _ | .drainSending _ | .closedCheck => False
  | _ => True

namespace ReaderPc

/-- The steps to where a datagram or the token is waited for. -/
def rank : ReaderPc → Nat
  | .exited => 0
  | .selecting _ => 1
  | .acquire => 2
  | .top => 3
  | .closedCheck => 4
  | .draining _ => 5
  | .drainAcquire => 6
  | .sending _ | .drainSending _ => 7

theorem rank_le (pc : ReaderPc) : pc.rank ≤ 7 := by
  cases pc <;> simp [rank]

end ReaderPc

namespace ProcessorPc

def rank : ProcessorPc → Nat
  | .spinReturned => 0
  | .loopReturned => 1
  | .finalDrain => 2
  | .finalHandling _ | .selecting => 3
  | .handling _ => 4

theorem rank_le (pc : ProcessorPc) : pc.rank ≤ 4 := by
  cases pc <;> simp [rank]

end ProcessorPc

namespace Spin

/-- The clients that are served. -/
def served (s : Spin) : Finset Nat := (Finset.range s.connected).filter fun i => (s.client i).isSome

/-- A packet on the queue costs two steps, and one in the reader's hand gets there in one. -/
def remaining (s : Spin) : Nat :=
  3 * s.server.reader.rank + s.server.processor.rank + 2 * s.server.queue.length + s.served.card +
    (if s.listening then 1 else 0) + (if s.server.cancelled then 0 else 1)

/-- The token is cancelled, or a transport has stopped. -/
def Stopping (s : Spin) : Transport → Prop
  | .reader => s.server.cancelled = true ∨ s.server.reader = .exited
  | .namedPipe _ udp =>
    s.server.cancelled = true ∨ (udp = true ∧ s.server.reader = .exited) ∨ s.listening = false

/-- `spin` has returned and none of its tasks is left. -/
structure Stopped (s : Spin) : Prop where
  returned : s.server.processor = .spinReturned
  reader : s.server.reader = .exited
  listening : s.listening = false
  clients : ∀ i, s.client i = none

/-- What belongs to a transport. -/
structure Fits (transport : Transport) (s : Spin) : Prop where
  fresh : ∀ i, s.connected ≤ i → s.client i = none
  reader : transport = .reader → s.listening = false ∧ s.connected = 0
  pipe : ∀ pipeName udp, transport = .namedPipe pipeName udp →
    s.server.reader.BesidePipe ∧ (udp = false → s.server.reader = .exited)

end Spin

/-! ## What the tasks do by themselves -/

namespace Server

variable {cfg : ServerConfig} {s s' : Server}

theorem cancelled_poolSend (s : Server) (buf : Bytes) :
    (s.poolSend buf).cancelled = s.cancelled := by
  unfold poolSend
  split <;> rfl

theorem cancelled_trySendPacket (cfg : ServerConfig) (s : Server) (packet : Packet) :
    (s.trySendPacket cfg packet).1.cancelled = s.cancelled := by
  unfold trySendPacket
  split_ifs
  · exact cancelled_poolSend s _
  · rfl
  · exact cancelled_poolSend { s with dropped := s.dropped + 1 } _

theorem length_queue_trySendPacket (cfg : ServerConfig) (s : Server) (packet : Packet) :
    (s.trySendPacket cfg packet).1.queue.length ≤ s.queue.length + 1 ∧
      (s.trySendPacket cfg packet).1.processor = s.processor := by
  rcases trySendPacket_cases cfg s packet with ⟨-, -, sent⟩ | ⟨-, same⟩
  · simp [sent]
  · rw [same.queue, same.processor]
    exact ⟨Nat.le_succ _, rfl⟩

/-- A step that only the reader takes and that leaves it less to do. -/
structure ReaderLess (s s' : Server) : Prop where
  less : 3 * s'.reader.rank + 2 * s'.queue.length < 3 * s.reader.rank + 2 * s.queue.length
  processor : s'.processor = s.processor
  cancelled : s'.cancelled = s.cancelled

theorem readerLess_move {reader : ReaderPc} (less : reader.rank < s.reader.rank)
    (pool : List Bytes) : ReaderLess s { s with reader, pool } :=
  ⟨by simp only; omega, rfl, rfl⟩

theorem readerLess_poolSend {reader : ReaderPc} (less : reader.rank < s.reader.rank)
    (buf : Bytes) : ReaderLess s { s.poolSend buf with reader } := by
  have same := sameQueue_poolSend s buf
  refine ⟨?_, same.processor, cancelled_poolSend s buf⟩
  simp only [same.queue]
  omega

theorem readerLess_send {packet : Packet} {t : Server} {open_ : Bool}
    (eq : s.trySendPacket cfg packet = (t, open_)) {reader : ReaderPc}
    (less : reader.rank < s.reader.rank) : ReaderLess s { t with reader } := by
  have cancelled := cancelled_trySendPacket cfg s packet
  obtain ⟨queue, processor⟩ := length_queue_trySendPacket cfg s packet
  rw [eq] at cancelled queue processor
  refine ⟨?_, processor, cancelled⟩
  simp only at queue ⊢
  omega

theorem readerLess_stepReader {a : ServerAction} (own : (SpinAction.reader a).Own)
    (h : s.stepReader cfg a = some s') : ReaderLess s s' := by
  cases readerMove_of_stepReader h with
  | top pc => exact readerLess_move (by split <;> simp [pc, ReaderPc.rank]) _
  | closedCheck pc => exact readerLess_move (by split <;> simp [pc, ReaderPc.rank]) _
  | acquire pc | drainAcquire pc => exact readerLess_move (by simp [pc, ReaderPc.rank]) _
  | read | drainRead | reset | failed => cases own
  | drained buf result pc | cancelled buf pc =>
    exact readerLess_poolSend (by simp [pc, ReaderPc.rank]) buf
  | send packet pc t open_ eq | drainSend packet pc t open_ eq =>
    exact readerLess_send eq (by split <;> simp [pc, ReaderPc.rank])

theorem readerLess_stepUdp {a : UdpAction} (own : (SpinAction.udp a).Own)
    (h : s.stepUdp cfg a = some s') : ReaderLess s s' := by
  cases udpMove_of_stepUdp h with
  | top pc => exact readerLess_move (by split <;> simp [pc, ReaderPc.rank]) _
  | acquire pc => exact readerLess_move (by simp [pc, ReaderPc.rank]) _
  | read | skipped | failed => cases own
  | cancelled buf pc => exact readerLess_poolSend (by simp [pc, ReaderPc.rank]) buf
  | send packet pc t open_ eq =>
    exact readerLess_send eq (by split <;> simp [pc, ReaderPc.rank])

/-- A step that only the processor takes and that leaves it less to do. -/
structure ProcessorLess (s s' : Server) : Prop where
  less : s'.processor.rank + 2 * s'.queue.length < s.processor.rank + 2 * s.queue.length
  reader : s'.reader = s.reader
  cancelled : s'.cancelled = s.cancelled

theorem processorLess_handle {packet : Packet} {processor : ProcessorPc}
    (less : processor.rank < s.processor.rank) :
    ProcessorLess s { s.handlePacket packet with processor } := by
  have same := sameQueue_handlePacket s packet
  refine ⟨?_, ?_, ?_⟩
  · simp only [same.queue]
    omega
  · simp only [handlePacket]
    split
    · exact reader_poolSend ..
    · rfl
  · simp only [handlePacket]
    split
    · exact cancelled_poolSend ..
    · rfl

theorem processorLess_stepProcessor {a : ServerAction} (h : s.stepProcessor a = some s') :
    ProcessorLess s s' := by
  cases processorMove_of_stepProcessor h with
  | recv packet rest pc queue | tryRecv packet rest pc queue =>
    exact ⟨by simp [pc, queue, ProcessorPc.rank]; omega, rfl, rfl⟩
  | recvNone pc | cancelled pc | drained pc | spinReturn pc =>
    exact ⟨by simp [pc, ProcessorPc.rank], rfl, rfl⟩
  | handle packet pc | finalHandle packet pc =>
    exact processorLess_handle (by simp [pc, ProcessorPc.rank])

end Server

namespace Spin

variable {cfg : ServerConfig} {transport : Transport} {s t : Spin} {a : SpinAction}

/-- The steps, task by task. -/
inductive Move (cfg : ServerConfig) (transport : Transport) (s : Spin) : SpinAction → Spin → Prop
  | cancel : Move cfg transport s .cancel { s with server := { s.server with cancelled := true } }
  | reader {action server} (single : transport = .reader)
      (moved : s.server.stepReader cfg action = some server) :
      Move cfg transport s (.reader action) (s.withUdp action.datagrams server)
  | udp {action server pipeName} (beside : transport = .namedPipe pipeName true)
      (moved : s.server.stepUdp cfg action = some server) :
      Move cfg transport s (.udp action) (s.withUdp action.datagrams server)
  | connect (listening : s.listening = true) : Move cfg transport s .connect
      { s with
        connected := s.connected + 1
        client := Function.update s.client s.connected (some (.new cfg.bufSize)) }
  | listenerExit (listening : s.listening = true) :
      Move cfg transport s .listenerExit { s with listening := false }
  | client {i read pipeName c} (live : s.client i = some c) :
      Move cfg transport s (.client i read) (s.stepClient cfg pipeName i c read)
  | supervise :
      Move cfg transport s .supervise { s with server := { s.server with cancelled := true } }
  | processor {action server} (moved : s.server.stepProcessor action = some server) :
      Move cfg transport s (.processor action) { s with server }

theorem move_of_step (h : step cfg transport s a = some t) : Move cfg transport s a t := by
  cases a with
  | cancel =>
    cases h
    exact .cancel
  | reader action =>
    cases transport with
    | reader =>
      obtain ⟨server, moved, rfl⟩ := Option.map_eq_some_iff.1 h
      exact .reader rfl moved
    | namedPipe pipeName udp => cases h
  | udp action =>
    simp only [step] at h
    split at h
    · obtain ⟨server, moved, rfl⟩ := Option.map_eq_some_iff.1 h
      exact .udp rfl moved
    · cases h
  | connect =>
    simp only [step] at h
    split at h <;> cases h
    next listening => exact .connect listening
  | listenerExit =>
    simp only [step] at h
    split at h <;> cases h
    next told => exact .listenerExit (Bool.and_eq_true_iff.1 told).2
  | client i read =>
    simp only [step] at h
    split at h
    next live =>
      split at h <;> cases h
      exact .client live
    · cases h
  | supervise =>
    simp only [step] at h
    split at h
    · split at h <;> cases h
      exact .supervise
    · cases h
  | processor action =>
    have processor (h : (s.server.stepProcessor action).map (fun server => { s with server }) =
        some t) : Move cfg transport s (.processor action) t := by
      obtain ⟨server, moved, rfl⟩ := Option.map_eq_some_iff.1 h
      exact .processor moved
    cases action with
    | recvNone | spinReturn =>
      simp only [step] at h
      split at h
      · exact processor h
      · cases h
    | _ => exact processor h

/-! ## Every run -/

theorem besidePipe_stepUdp {server : Server} {action : UdpAction}
    (h : s.server.stepUdp cfg action = some server) : server.reader.BesidePipe := by
  cases Server.udpMove_of_stepUdp h with
  | top => split <;> trivial
  | acquire | skipped | failed | cancelled => trivial
  | read buf bytes addr pc =>
    unfold Server.received
    split <;> trivial
  | send packet pc t open_ eq => split <;> trivial

theorem client_stepClient (s : Spin) (pipeName : String) (i : Nat) (c : PipeClient)
    (read : PipeRead) {j : Nat} (other : j ≠ i) :
    (s.stepClient cfg pipeName i c read).client j = s.client j := by
  unfold stepClient
  dsimp only
  split <;> simp [other]

theorem rest_stepClient (cfg : ServerConfig) (s : Spin) (pipeName : String) (i : Nat)
    (c : PipeClient) (read : PipeRead) :
    (s.stepClient cfg pipeName i c read).connected = s.connected ∧
      (s.stepClient cfg pipeName i c read).listening = s.listening ∧
      (s.stepClient cfg pipeName i c read).server.reader = s.server.reader ∧
      (s.stepClient cfg pipeName i c read).server.cancelled = s.server.cancelled := by
  unfold stepClient
  dsimp only
  split <;> exact ⟨rfl, rfl, rfl, rfl⟩

theorem fits_step (fits : s.Fits transport) (h : step cfg transport s a = some t) :
    t.Fits transport := by
  cases move_of_step h with
  | cancel | supervise => exact ⟨fits.fresh, fits.reader, fits.pipe⟩
  | reader single moved =>
    subst single
    exact ⟨fits.fresh, fits.reader, nofun⟩
  | udp beside moved =>
    subst beside
    refine ⟨fits.fresh, nofun, ?_⟩
    rintro _ _ ⟨⟩
    exact ⟨besidePipe_stepUdp moved, nofun⟩
  | connect listening =>
    refine ⟨?_, ?_, fits.pipe⟩
    · intro i le
      simp only at le ⊢
      rw [Function.update_of_ne (by omega)]
      exact fits.fresh i (by omega)
    · intro single
      exact absurd listening (by simp [(fits.reader single).1])
  | listenerExit => exact ⟨fits.fresh, fun single => ⟨rfl, (fits.reader single).2⟩, fits.pipe⟩
  | @client i read pipeName c live =>
    obtain ⟨connected, listening, reader, -⟩ := rest_stepClient cfg s pipeName i c read
    refine ⟨?_, ?_, ?_⟩
    · intro j le
      rw [connected] at le
      have other : j ≠ i := by
        rintro rfl
        exact absurd live (by simp [fits.fresh j le])
      rw [client_stepClient s pipeName i c read other]
      exact fits.fresh j le
    · rw [connected, listening]
      exact fits.reader
    · rw [reader]
      exact fits.pipe
  | processor moved =>
    have reader := (Server.processorLess_stepProcessor moved).reader
    refine ⟨fits.fresh, fits.reader, ?_⟩
    simp only [reader]
    exact fits.pipe

theorem fits_init (transport : Transport) : (init transport).Fits transport := by
  cases transport with
  | reader => exact ⟨fun _ _ => rfl, fun _ => ⟨rfl, rfl⟩, nofun⟩
  | namedPipe pipeName udp =>
    refine ⟨fun _ _ => rfl, nofun, ?_⟩
    rintro _ _ ⟨⟩
    cases udp with
    | false => exact ⟨trivial, fun _ => rfl⟩
    | true => exact ⟨trivial, nofun⟩

theorem not_exited_of_stepReader {action : ServerAction} {server : Server}
    (moved : s.server.stepReader cfg action = some server) : s.server.reader ≠ .exited := by
  cases Server.readerMove_of_stepReader moved <;> simp_all

theorem not_exited_of_stepUdp {action : UdpAction} {server : Server}
    (moved : s.server.stepUdp cfg action = some server) : s.server.reader ≠ .exited := by
  cases Server.udpMove_of_stepUdp moved <;> simp_all

theorem cancelled_received (server : Server) (buf datagram : Bytes) (source : MessageSource)
    (empty : ReaderPc) (send : Packet → ReaderPc) :
    (server.received buf datagram source empty send).cancelled = server.cancelled := by
  unfold Server.received
  split
  · exact Server.cancelled_poolSend ..
  · rfl

/-- The readers leave the token alone. -/
theorem cancelled_stepReader {action : ServerAction} {server : Server}
    (moved : s.server.stepReader cfg action = some server) :
    server.cancelled = s.server.cancelled := by
  cases Server.readerMove_of_stepReader moved with
  | top | acquire | drainAcquire | reset | closedCheck => rfl
  | read | drainRead => exact cancelled_received ..
  | failed | drained | cancelled => exact Server.cancelled_poolSend ..
  | send packet pc t open_ eq | drainSend packet pc t open_ eq =>
    have same := Server.cancelled_trySendPacket cfg s.server packet
    rwa [eq] at same

theorem cancelled_stepUdp {action : UdpAction} {server : Server}
    (moved : s.server.stepUdp cfg action = some server) :
    server.cancelled = s.server.cancelled := by
  cases Server.udpMove_of_stepUdp moved with
  | top | acquire => rfl
  | read => exact cancelled_received ..
  | skipped | failed | cancelled => exact Server.cancelled_poolSend ..
  | send packet pc t open_ eq =>
    have same := Server.cancelled_trySendPacket cfg s.server packet
    rwa [eq] at same

/-- What has stopped stays stopped, the token cancelled. -/
theorem stays_step (h : step cfg transport s a = some t) :
    (s.server.cancelled = true → t.server.cancelled = true) ∧
      (s.server.reader = .exited → t.server.reader = .exited) ∧
      (s.listening = false → t.listening = false) := by
  cases move_of_step h with
  | cancel | supervise => exact ⟨fun _ => rfl, id, id⟩
  | reader single moved =>
    exact ⟨(cancelled_stepReader moved).trans, fun at_ => (not_exited_of_stepReader moved at_).elim,
      id⟩
  | udp beside moved =>
    exact ⟨(cancelled_stepUdp moved).trans, fun at_ => (not_exited_of_stepUdp moved at_).elim, id⟩
  | connect listening => exact ⟨id, id, id⟩
  | listenerExit => exact ⟨id, id, fun _ => rfl⟩
  | @client i read pipeName c live =>
    obtain ⟨-, listening, reader, cancelled⟩ := rest_stepClient cfg s pipeName i c read
    exact ⟨cancelled.trans, reader.trans, listening.trans⟩
  | processor moved =>
    have less := Server.processorLess_stepProcessor moved
    exact ⟨less.cancelled.trans, less.reader.trans, id⟩

theorem stopping_step (stopping : s.Stopping transport) (h : step cfg transport s a = some t) :
    t.Stopping transport := by
  obtain ⟨cancelled, reader, listening⟩ := stays_step h
  cases transport with
  | reader => exact stopping.imp cancelled reader
  | namedPipe pipeName udp => exact stopping.imp cancelled (.imp (.imp_right reader) listening)

/-! ## What is left -/

@[simp]
theorem mem_served {i : Nat} : i ∈ s.served ↔ i < s.connected ∧ (s.client i).isSome = true := by
  simp [served]

theorem served_stepClient_cancelled (cfg : ServerConfig) (fits : s.Fits transport) {i : Nat}
    {c : PipeClient} (live : s.client i = some c) (pipeName : String) :
    (s.stepClient cfg pipeName i c .cancelled).served.card < s.served.card := by
  have connected : i < s.connected := by
    by_contra late
    exact absurd live (by simp [fits.fresh i (Nat.not_lt.1 late)])
  apply Finset.card_lt_card
  rw [Finset.ssubset_iff_of_subset]
  · exact ⟨i, by simp [connected, live], by simp [stepClient, PipeClient.turn]⟩
  · intro j mem
    by_cases same : j = i
    · subst same
      simp [stepClient, PipeClient.turn] at mem
    · simpa [stepClient, PipeClient.turn, same] using mem

/-- The tasks of the server are what a step is about. -/
theorem remaining_lt_of_server {server : Server} (datagrams : List Bytes)
    (cancelled : server.cancelled = s.server.cancelled)
    (less : 3 * server.reader.rank + server.processor.rank + 2 * server.queue.length <
      3 * s.server.reader.rank + s.server.processor.rank + 2 * s.server.queue.length) :
    (s.withUdp datagrams server).remaining < s.remaining ∧
      remaining { s with server } < s.remaining := by
  have left : 3 * server.reader.rank + server.processor.rank + 2 * server.queue.length +
      s.served.card + (if s.listening then 1 else 0) + (if server.cancelled then 0 else 1) <
        s.remaining := by
    rw [remaining, cancelled]
    omega
  exact ⟨left, left⟩

theorem remaining_step (fits : s.Fits transport) (own : a.Own)
    (h : step cfg transport s a = some t) : t = s ∨ t.remaining < s.remaining := by
  cases move_of_step h with
  | cancel | connect => cases own
  | reader single moved =>
    obtain ⟨less, processor, cancelled⟩ := Server.readerLess_stepReader own moved
    exact .inr (remaining_lt_of_server _ cancelled (by rw [processor]; omega)).1
  | udp beside moved =>
    obtain ⟨less, processor, cancelled⟩ := Server.readerLess_stepUdp own moved
    exact .inr (remaining_lt_of_server _ cancelled (by rw [processor]; omega)).1
  | listenerExit listening =>
    right
    simp [remaining, served, listening]
  | @client i read pipeName c live =>
    obtain rfl : read = .cancelled := own
    have less := served_stepClient_cancelled cfg fits live pipeName
    exact .inr (Nat.add_lt_add_right (Nat.add_lt_add_right (Nat.add_lt_add_left less _) _) _)
  | supervise =>
    cases cancelled : s.server.cancelled with
    | true =>
      left
      rw [← cancelled]
    | false =>
      right
      simp [remaining, served, cancelled]
  | processor moved =>
    obtain ⟨less, reader, cancelled⟩ := Server.processorLess_stepProcessor moved
    exact .inr (remaining_lt_of_server [] cancelled (by rw [reader]; omega)).2

theorem remaining_le (s : Spin) :
    s.remaining ≤ 2 * s.server.queue.length + s.connected + 27 := by
  have reader := s.server.reader.rank_le
  have processor := s.server.processor.rank_le
  have served : s.served.card ≤ s.connected :=
    (Finset.card_filter_le _ _).trans (Finset.card_range _).le
  unfold remaining
  split_ifs <;> omega

/-! ## At rest -/

theorem exists_stepReader (cfg : ServerConfig) {server : Server}
    (cancelled : server.cancelled = true) (going : server.reader ≠ .exited) :
    ∃ action server', (SpinAction.reader action).Own ∧
      server.stepReader cfg action = some server' := by
  cases pc : server.reader with
  | exited => exact (going pc).elim
  | top => exact ⟨.readerTop, _, trivial, by simp only [Server.stepReader, pc]; rfl⟩
  | acquire | drainAcquire =>
    exact ⟨.readerAcquire, _, trivial, by simp only [Server.stepReader, pc]; rfl⟩
  | selecting buf =>
    exact ⟨.readerCancelled, _, trivial, by simp only [Server.stepReader, pc, cancelled]; rfl⟩
  | draining buf =>
    exact ⟨.readerRead .wouldBlock, _, rfl, by simp only [Server.stepReader, pc]; rfl⟩
  | closedCheck => exact ⟨.readerClosedCheck, _, trivial, by simp only [Server.stepReader, pc]; rfl⟩
  | sending packet | drainSending packet =>
    refine ⟨.readerSend, ?_⟩
    simp only [Server.stepReader, pc]
    split <;> exact ⟨_, trivial, rfl⟩

theorem exists_stepUdp (cfg : ServerConfig) {server : Server} (beside : server.reader.BesidePipe)
    (cancelled : server.cancelled = true) (going : server.reader ≠ .exited) :
    ∃ action server', (SpinAction.udp action).Own ∧ server.stepUdp cfg action = some server' := by
  cases pc : server.reader with
  | exited => exact (going pc).elim
  | top => exact ⟨.top, _, trivial, by simp only [Server.stepUdp, pc]; rfl⟩
  | acquire => exact ⟨.acquire, _, trivial, by simp only [Server.stepUdp, pc]; rfl⟩
  | selecting buf =>
    exact ⟨.cancelled, _, trivial, by simp only [Server.stepUdp, pc, cancelled]; rfl⟩
  | sending packet =>
    refine ⟨.send, ?_⟩
    simp only [Server.stepUdp, pc]
    split <;> exact ⟨_, trivial, rfl⟩
  | drainAcquire | draining | drainSending | closedCheck => simp [pc, ReaderPc.BesidePipe] at beside

section AtRest

variable (rest : Runs.AtRest (step cfg transport) SpinAction.Own s)

include rest

theorem not_less_of_atRest (own : a.Own) (h : step cfg transport s a = some t) :
    ¬ t.remaining < s.remaining := by
  rw [rest a t own h]
  exact Nat.lt_irrefl _

/-- The token reaches the reader wherever it is. -/
theorem reader_exited (fits : s.Fits transport) (cancelled : s.server.cancelled = true) :
    s.server.reader = .exited := by
  by_contra going
  cases transport with
  | reader =>
    obtain ⟨action, server, own, moved⟩ := exists_stepReader cfg cancelled going
    obtain ⟨less, processor, same⟩ := Server.readerLess_stepReader own moved
    have h : step cfg .reader s (.reader action) = some (s.withUdp action.datagrams server) := by
      simp [step, moved]
    exact not_less_of_atRest rest own h
      (remaining_lt_of_server _ same (by rw [processor]; omega)).1
  | namedPipe pipeName udp =>
    obtain ⟨beside, alone⟩ := fits.pipe pipeName udp rfl
    cases udp with
    | false => exact going (alone rfl)
    | true =>
      obtain ⟨action, server, own, moved⟩ := exists_stepUdp cfg beside cancelled going
      obtain ⟨less, processor, same⟩ := Server.readerLess_stepUdp own moved
      have h : step cfg (.namedPipe pipeName true) s (.udp action) =
          some (s.withUdp action.datagrams server) := by
        simp [step, moved]
      exact not_less_of_atRest rest own h
        (remaining_lt_of_server _ same (by rw [processor]; omega)).1

theorem processor_at_rest (action : ServerAction) :
    step cfg transport s (.processor action) = none := by
  by_contra enabled
  obtain ⟨t, h⟩ := Option.ne_none_iff_exists'.1 enabled
  cases move_of_step h with
  | processor moved =>
    obtain ⟨less, reader, cancelled⟩ := Server.processorLess_stepProcessor moved
    have own : (SpinAction.processor action).Own := trivial
    exact not_less_of_atRest rest own h
      (remaining_lt_of_server [] cancelled (by rw [reader]; omega)).2

/-- `process_loop` ends, and `spin` then waits for the transports only. -/
theorem spinReturned (joined : s.joined transport = true)
    (ends : s.server.cancelled = true ∨ s.sendersGone = true) :
    s.server.processor = .spinReturned := by
  have stuck := processor_at_rest rest
  have gone (h : s.sendersGone = true) : s.server.reader = .exited := by
    simp only [sendersGone, Bool.and_eq_true, decide_eq_true_eq] at h
    exact h.1.1
  cases pc : s.server.processor with
  | spinReturned => rfl
  | loopReturned => simpa [step, joined, Server.stepProcessor, pc] using stuck .spinReturn
  | handling packet => simpa [step, Server.stepProcessor, pc] using stuck .handle
  | finalHandling packet => simpa [step, Server.stepProcessor, pc] using stuck .handle
  | finalDrain =>
    cases queue : s.server.queue <;>
      simpa [step, Server.stepProcessor, pc, queue] using stuck .tryRecv
  | selecting =>
    rcases ends with cancelled | senders
    · simpa [step, Server.stepProcessor, pc, cancelled] using stuck .processorCancelled
    · cases queue : s.server.queue with
      | nil =>
        simpa [step, senders, Server.stepProcessor, pc, queue, gone senders] using stuck .recvNone
      | cons packet later => simpa [step, Server.stepProcessor, pc, queue] using stuck .recv

/-- With the token cancelled, the listener and the clients end too. -/
theorem stopped_of_cancelled (fits : s.Fits transport) (cancelled : s.server.cancelled = true) :
    s.Stopped := by
  have reader := reader_exited rest fits cancelled
  have listening : s.listening = false := by
    by_contra going
    have h : step cfg transport s .listenerExit = some { s with listening := false } := by
      simp [step, cancelled, going]
    have same := rest .listenerExit _ trivial h
    exact going (congrArg Spin.listening same).symm
  have clients (i : Nat) : s.client i = none := by
    cases transport with
    | reader =>
      refine fits.fresh i ?_
      rw [(fits.reader rfl).2]
      exact Nat.zero_le i
    | namedPipe pipeName udp =>
      by_contra live
      obtain ⟨c, live⟩ := Option.ne_none_iff_exists'.1 live
      have h : step cfg (.namedPipe pipeName udp) s (.client i .cancelled) =
          some (s.stepClient cfg pipeName i c .cancelled) := by
        simp [step, live, offers, cancelled]
      have same := congrFun (congrArg Spin.client (rest (.client i .cancelled) _ rfl h)) i
      simp [stepClient, PipeClient.turn, live] at same
  refine ⟨spinReturned rest ?_ (.inl cancelled), reader, listening, clients⟩
  cases transport <;> simp [joined, reader, listening]

theorem stopped_of_atRest (fits : s.Fits transport) (stopping : s.Stopping transport) :
    s.Stopped := by
  cases transport with
  | reader =>
    rcases stopping with cancelled | exited
    · exact stopped_of_cancelled rest fits cancelled
    · -- the single reader has left and dropped its sender
      obtain ⟨listening, connected⟩ := fits.reader rfl
      have clients (i : Nat) : s.client i = none := fits.fresh i (connected ▸ Nat.zero_le i)
      refine ⟨spinReturned rest rfl (.inr ?_), exited, listening, clients⟩
      simp [sendersGone, exited, listening, clients]
  | namedPipe pipeName udp =>
    cases cancelled : s.server.cancelled with
    | true => exact stopped_of_cancelled rest fits cancelled
    | false =>
      -- the supervisor has not cancelled the token yet
      have ended : (udp && s.server.reader = .exited) || !s.listening := by
        simpa [Stopping, cancelled] using stopping
      have h : step cfg (.namedPipe pipeName udp) s .supervise =
          some { s with server := { s.server with cancelled := true } } := by
        simp only [step, ended, if_true]
      have same := congrArg (·.server.cancelled) (rest .supervise _ trivial h)
      exact absurd same.symm (by simp [cancelled])

end AtRest

/-- In every run, once the caller has cancelled or a transport has stopped on its own: whatever
arrives later, the tasks have a bounded number of steps to take by themselves, and some of these
steps lead to a state without any; there `spin` has returned, and the readers, the pipe server and
its clients have ended. -/
theorem stops_completely (cfg : ServerConfig) (transport : Transport) (actions : List SpinAction)
    (s : Spin) (run : Runs.exec (step cfg transport) (init transport) actions = some s)
    (stopping : s.Stopping transport) (later : List SpinAction) (t : Spin)
    (run' : Runs.exec (step cfg transport) s later = some t) :
    (∀ own u, Runs.exec (step cfg transport) t own = some u →
      Runs.Along (step cfg transport) (Runs.Moves (step cfg transport) SpinAction.Own) t own →
        own.length ≤ 2 * t.server.queue.length + t.connected + 27 ∧
          (Runs.AtRest (step cfg transport) SpinAction.Own u → u.Stopped)) ∧
      ∃ own u, Runs.exec (step cfg transport) t own = some u ∧
        Runs.Along (step cfg transport) (Runs.Moves (step cfg transport) SpinAction.Own) t own ∧
          Runs.AtRest (step cfg transport) SpinAction.Own u := by
  have keeps (s : Spin) (a : SpinAction) (s' : Spin)
      (before : s.Fits transport ∧ s.Stopping transport) (h : step cfg transport s a = some s') :
      s'.Fits transport ∧ s'.Stopping transport :=
    ⟨fits_step before.1 h, stopping_step before.2 h⟩
  have decreases (s : Spin) (a : SpinAction) (s' : Spin)
      (before : s.Fits transport ∧ s.Stopping transport) (own : a.Own)
      (h : step cfg transport s a = some s') : s' = s ∨ s'.remaining < s.remaining :=
    remaining_step before.1 own h
  have fits : s.Fits transport :=
    Runs.invariant (fun _ _ _ before h => fits_step before h) (fits_init transport) run
  have before := Runs.invariant keeps ⟨fits, stopping⟩ run'
  constructor
  · intro own u run'' along
    have after := Runs.invariant keeps before run''
    have bound := Runs.length_add_le keeps decreases before along run''
    have le := remaining_le t
    exact ⟨by omega, fun rest => stopped_of_atRest rest after.1 after.2⟩
  · obtain ⟨own, u, along, run'', rest⟩ := Runs.exists_atRest keeps decreases before
    exact ⟨own, u, run'', along, rest⟩

/-- The socket of UDP fails while a client of the pipe is served. -/
def udpFails : List SpinAction := [.connect, .udp .top, .udp .acquire, .udp (.read .failed)]

theorem stops_completely_udp_fails :
    ∃ s t own u, Runs.exec (step ⟨8, 2, by decide, by decide⟩ (.namedPipe "pipe" true))
        (init (.namedPipe "pipe" true)) udpFails = some s ∧
      Runs.exec (step ⟨8, 2, by decide, by decide⟩ (.namedPipe "pipe" true)) s
        [.client 0 (.bytes [97, 10])] = some t ∧ t.server.queue.length = 1 ∧
      Runs.exec (step ⟨8, 2, by decide, by decide⟩ (.namedPipe "pipe" true)) t own = some u ∧
      u.Stopped := by
  have stops := stops_completely ⟨8, 2, by decide, by decide⟩ (.namedPipe "pipe" true) udpFails _
    rfl (.inr (.inl ⟨rfl, rfl⟩)) [.client 0 (.bytes [97, 10])] _ rfl
  obtain ⟨own, u, run, along, rest⟩ := stops.2
  exact ⟨_, _, own, u, rfl, rfl, rfl, run, (stops.1 own u run along).2 rest⟩

end Spin

end ServerlessComponents.Dogstatsd
