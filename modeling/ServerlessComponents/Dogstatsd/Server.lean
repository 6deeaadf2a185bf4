import ServerlessComponents.Library.Runs
import ServerlessComponents.Dogstatsd.Packet

/-!
# The UDP reader and the packet processor

`DogStatsD::spin` with a single reader (`dogstatsd.rs`): `read_loop` runs in its own task and
puts packets on a bounded queue, `process_loop` runs in the task of `spin` and takes them off.
Both watch one cancellation token, and used buffers go back to the reader through a pool. An
action is one stretch of code of one task between two accesses to something shared.
-/
namespace ServerlessComponents.Dogstatsd

def DEFAULT_BUFFER_SIZE : Nat := 8192

def DEFAULT_QUEUE_SIZE : Nat := 1024

structure DogStatsDConfig where
  bufferSize : Option Nat
  queueSize : Option Nat
  deriving DecidableEq, Repr

/-- The sizes `DogStatsD::new` keeps; neither can be 0. -/
structure ServerConfig where
  bufSize : Nat
  queueSize : Nat
  bufSize_pos : 0 < bufSize
  queueSize_pos : 0 < queueSize

/-- A configured size, where 0 falls back to the default. -/
def sizeOr (default : Nat) : Option Nat → Nat
  | some 0 => default
  | some size => size
  | none => default

theorem sizeOr_pos {d : Nat} (positive : 0 < d) (size : Option Nat) : 0 < sizeOr d size := by
  rcases size with _ | _ | n
  · exact positive
  · exact positive
  · exact Nat.succ_pos n

/-- `DogStatsD::new`, for the two sizes. -/
def ServerConfig.new (config : DogStatsDConfig) : ServerConfig where
  bufSize := sizeOr DEFAULT_BUFFER_SIZE config.bufferSize
  queueSize := sizeOr DEFAULT_QUEUE_SIZE config.queueSize
  bufSize_pos := sizeOr_pos (by decide) _
  queueSize_pos := sizeOr_pos (by decide) _

/-- How a read of the socket ends, blocking or not. -/
inductive ReadResult where
  | datagram (bytes : Bytes) (source : MessageSource)
  | wouldBlock
  | connectionReset
  | error
  deriving DecidableEq, Repr

/-- Where `read_loop` stands. -/
inductive ReaderPc where
  /-- `while !cancel.is_cancelled()` -/
  | top
  | acquire
  | selecting (buf : Bytes)
  | sending (packet : Packet)
  | drainAcquire
  | draining (buf : Bytes)
  | drainSending (packet : Packet)
  /-- `if tx.is_closed()` -/
  | closedCheck
  | exited
  deriving DecidableEq, Repr

/-- Where `spin` stands: in `process_loop`, past it, or back at its caller. -/
inductive ProcessorPc where
  | selecting
  | handling (packet : Packet)
  | finalDrain
  | finalHandling (packet : Packet)
  /-- `process_loop` has returned and the receiver of the queue still exists. -/
  | loopReturned
  /-- `spin` has returned and dropped the receiver. -/
  | spinReturned
  deriving DecidableEq, Repr

/-- The shared state, both program counters, and the history of the queue: the packets for which
`try_send` returned `Ok` and those given to `process_packet`. -/
structure Server where
  cancelled : Bool
  queue : List Packet
  pool : List Bytes
  reader : ReaderPc
  dropped : Nat
  processor : ProcessorPc
  accepted : List Packet
  processed : List Packet
  deriving DecidableEq, Repr

/-- The actions of the environment, of the reader and of the processor. -/
inductive ServerAction where
  | cancel
  | readerTop
  | readerAcquire
  | readerRead (result : ReadResult)
  | readerCancelled
  | readerSend
  | readerClosedCheck
  | recv
  | recvNone
  | processorCancelled
  | tryRecv
  | handle
  | spinReturn
  deriving DecidableEq, Repr

namespace Server

def init : Server := ⟨false, [], [], .top, 0, .selecting, [], []⟩

/-- The receiver lives until `spin` returns. -/
def isClosed (s : Server) : Bool := s.processor = .spinReturned

/-- `pool_tx.send(buf)`; the pool's receiver lives in the reader. -/
def poolSend (s : Server) (buf : Bytes) : Server :=
  if s.reader = .exited then s else { s with pool := s.pool ++ [buf] }

/-- `pool_rx.try_recv()`, or a fresh buffer when the pool is empty. -/
def takeBuf (cfg : ServerConfig) (s : Server) : Bytes × List Bytes :=
  match s.pool with
  | buf :: rest => (buf, rest)
  | [] => (List.replicate cfg.bufSize 0, [])

/-- A datagram read into a buffer, cut to the buffer's length. -/
def readInto (buf datagram : Bytes) : Bytes × Nat :=
  let len := min datagram.length buf.length
  (datagram.take len ++ buf.drop len, len)

/-- `try_send_packet`: `false` when the queue is closed. -/
def trySendPacket (cfg : ServerConfig) (s : Server) (packet : Packet) : Server × Bool :=
  if s.isClosed then (s.poolSend packet.buf, false)
  else if s.queue.length < cfg.queueSize then
    ({ s with queue := s.queue ++ [packet], accepted := s.accepted ++ [packet] }, true)
  else ({ s with dropped := s.dropped + 1 }.poolSend packet.buf, true)

/-- `process_packet`, and the return of a pooled buffer. -/
def handlePacket (s : Server) (packet : Packet) : Server :=
  let s := { s with processed := s.processed ++ [packet] }
  if packet.isPooled then s.poolSend packet.buf else s

/-- The reader's part of a read that gave a datagram. -/
def received (s : Server) (buf datagram : Bytes) (source : MessageSource)
    (empty : ReaderPc) (send : Packet → ReaderPc) : Server :=
  match readInto buf datagram with
  | (buf, 0) => { s.poolSend buf with reader := empty }
  | (buf, len + 1) => { s with reader := send ⟨buf, len + 1, source⟩ }

def stepReader (cfg : ServerConfig) (s : Server) : ServerAction → Option Server
  | .readerTop =>
    match s.reader with
    | .top => some { s with reader := if s.cancelled then .exited else .acquire }
    | _ => none
  | .readerAcquire =>
    match s.reader with
    | .acquire => some { s with reader := .selecting (s.takeBuf cfg).1, pool := (s.takeBuf cfg).2 }
    | .drainAcquire =>
      some { s with reader := .draining (s.takeBuf cfg).1, pool := (s.takeBuf cfg).2 }
    | _ => none
  | .readerRead result =>
    match s.reader, result with
    | .selecting buf, .datagram bytes source => some (s.received buf bytes source .top .sending)
    | .selecting _, .connectionReset => some { s with reader := .exited }
    | .selecting buf, .error => some { s.poolSend buf with reader := .top }
    | .draining buf, .datagram bytes source =>
      some (s.received buf bytes source .drainAcquire .drainSending)
    | .draining buf, .wouldBlock => some { s.poolSend buf with reader := .closedCheck }
    | .draining buf, .connectionReset => some { s.poolSend buf with reader := .closedCheck }
    | .draining buf, .error => some { s.poolSend buf with reader := .closedCheck }
    | _, _ => none
  | .readerCancelled =>
    match s.reader with
    | .selecting buf =>
      if s.cancelled then some { s.poolSend buf with reader := .exited } else none
    | _ => none
  | .readerSend =>
    match s.reader with
    | .sending packet =>
      match s.trySendPacket cfg packet with
      | (s, true) => some { s with reader := .drainAcquire }
      | (s, false) => some { s with reader := .exited }
    | .drainSending packet =>
      match s.trySendPacket cfg packet with
      | (s, true) => some { s with reader := .drainAcquire }
      | (s, false) => some { s with reader := .closedCheck }
    | _ => none
  | .readerClosedCheck =>
    match s.reader with
    | .closedCheck => some { s with reader := if s.isClosed then .exited else .top }
    | _ => none
  | _ => none

def stepProcessor (s : Server) : ServerAction → Option Server
  | .recv =>
    match s.processor, s.queue with
    | .selecting, packet :: rest => some { s with queue := rest, processor := .handling packet }
    | _, _ => none
  | .recvNone =>
    match s.processor, s.queue, s.reader with
    | .selecting, [], .exited => some { s with processor := .loopReturned }
    | _, _, _ => none
  | .processorCancelled =>
    match s.processor with
    | .selecting => if s.cancelled then some { s with processor := .finalDrain } else none
    | _ => none
  | .tryRecv =>
    match s.processor, s.queue with
    | .finalDrain, packet :: rest =>
      some { s with queue := rest, processor := .finalHandling packet }
    | .finalDrain, [] => some { s with processor := .loopReturned }
    | _, _ => none
  | .handle =>
    match s.processor with
    | .handling packet => some { s.handlePacket packet with processor := .selecting }
    | .finalHandling packet => some { s.handlePacket packet with processor := .finalDrain }
    | _ => none
  | .spinReturn =>
    match s.processor with
    | .loopReturned => some { s with processor := .spinReturned }
    | _ => none
  | _ => none

/-- One step of the server, `none` when the action is not enabled. -/
def step (cfg : ServerConfig) (s : Server) : ServerAction → Option Server
  | .cancel => some { s with cancelled := true }
  | .readerTop => s.stepReader cfg .readerTop
  | .readerAcquire => s.stepReader cfg .readerAcquire
  | .readerRead result => s.stepReader cfg (.readerRead result)
  | .readerCancelled => s.stepReader cfg .readerCancelled
  | .readerSend => s.stepReader cfg .readerSend
  | .readerClosedCheck => s.stepReader cfg .readerClosedCheck
  | action => s.stepProcessor action

end Server

end ServerlessComponents.Dogstatsd
