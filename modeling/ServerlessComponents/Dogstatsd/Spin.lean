import ServerlessComponents.Dogstatsd.OversizedLines
import ServerlessComponents.Dogstatsd.Server

/-!
# The server with all its transports

`DogStatsD::spin` either runs one reader or, through `spin_named_pipe`, the pipe server with its
clients and a UDP reader beside it. All of them feed one queue, and the packets of UDP travel in the
buffers of one pool. The model also keeps what was read, and which read a packet is from.
-/
namespace ServerlessComponents.Dogstatsd

/-- How packets are received; UDP beside the pipe is best-effort. -/
inductive Transport where
  | reader
  | namedPipe (pipeName : String) (udp : Bool)
  deriving DecidableEq, Repr

/-- How `recv_from` ends beside the pipe: with a datagram, with an error about a peer or a single
datagram, or with any other error. -/
inductive UdpRead where
  | datagram (bytes : Bytes) (addr : String)
  | skipped
  | failed
  deriving DecidableEq, Repr

/-- The actions of `udp_read_loop_beside_pipe`. -/
inductive UdpAction where
  | top
  | acquire
  | read (result : UdpRead)
  | cancelled
  | send
  deriving DecidableEq, Repr

/-- Where the bytes of a packet were read: a read of the UDP socket, or a part of what a pipe client
has read. -/
inductive PacketOrigin where
  | udp (read : Nat)
  | pipe (client start stop : Nat)
  deriving DecidableEq, Repr

/-- The server with the transports. Its `cancelled` is the token its tasks watch; beside the pipe
that is `stop`, a child of the caller's. `reads` and `streams` are what UDP and the pipe clients
have read, and `origins` goes with the accepted packets. -/
structure Spin where
  server : Server
  listening : Bool
  connected : Nat := 0
  client : Nat → Option PipeClient := fun _ => none
  reads : List Bytes := []
  streams : Nat → Bytes := fun _ => []
  origins : List PacketOrigin := []

inductive SpinAction where
  | cancel
  /-- `read_loop` -/
  | reader (action : ServerAction)
  /-- `udp_read_loop_beside_pipe` -/
  | udp (action : UdpAction)
  | connect
  | listenerExit
  | client (i : Nat) (read : PipeRead)
  /-- A transport has stopped on its own. -/
  | supervise
  | processor (action : ServerAction)
  deriving DecidableEq, Repr

namespace Server

/-- `udp_read_loop_beside_pipe`: no drain, and only an error of the socket ends it. -/
def stepUdp (cfg : ServerConfig) (s : Server) : UdpAction → Option Server
  | .top =>
    match s.reader with
    | .top => some { s with reader := if s.cancelled then .exited else .acquire }
    | _ => none
  | .acquire =>
    match s.reader with
    | .acquire => some { s with reader := .selecting (s.takeBuf cfg).1, pool := (s.takeBuf cfg).2 }
    | _ => none
  | .read result =>
    match s.reader, result with
    | .selecting buf, .datagram bytes addr =>
      some (s.received buf bytes (.network addr) .top .sending)
    | .selecting buf, .skipped => some { s.poolSend buf with reader := .top }
    | .selecting buf, .failed => some { s.poolSend buf with reader := .exited }
    | _, _ => none
  | .cancelled =>
    match s.reader with
    | .selecting buf =>
      if s.cancelled then some { s.poolSend buf with reader := .exited } else none
    | _ => none
  | .send =>
    match s.reader with
    | .sending packet =>
      match s.trySendPacket cfg packet with
      | (s, true) => some { s with reader := .top }
      | (s, false) => some { s with reader := .exited }
    | _ => none

/-- What `try_send` answers now. -/
def answer (cfg : ServerConfig) (s : Server) : TrySend :=
  if s.isClosed then .closed
  else if s.queue.length < cfg.queueSize then .ok
  else .full

/-- The packets of a pipe client that the queue took. -/
def accept (s : Server) (packets : List Packet) : Server :=
  { s with queue := s.queue ++ packets, accepted := s.accepted ++ packets }

@[simp]
theorem accept_nil (s : Server) : s.accept [] = s := by
  simp [accept]

end Server

/-- The bytes of a read that ended with some. -/
def ServerAction.datagrams : ServerAction → List Bytes
  | .readerRead (.datagram bytes _) => [bytes]
  | _ => []

def UdpAction.datagrams : UdpAction → List Bytes
  | .read (.datagram bytes _) => [bytes]
  | _ => []

def PipeRead.chunk : PipeRead → Bytes
  | .bytes chunk => chunk
  | _ => []

namespace Spin

/-- Before the tasks are spawned. -/
def init : Transport → Spin
  | .reader => { server := .init, listening := false }
  | .namedPipe _ udp =>
    { server := { Server.init with reader := if udp then .top else .exited }, listening := true }

/-- A step of the UDP reader, with what it read; a packet it sends is from its last read. -/
def withUdp (s : Spin) (datagrams : List Bytes) (server : Server) : Spin :=
  { s with
    server
    reads := s.reads ++ datagrams
    origins := s.origins ++
      List.replicate (server.accepted.length - s.server.accepted.length)
        (.udp (s.reads.length - 1)) }

/-- The pipe gives this read to the client. -/
def offers (s : Spin) (c : PipeClient) : PipeRead → Bool
  | .cancelled => s.server.cancelled
  | .bytes chunk => !chunk.isEmpty && decide (chunk.length ≤ c.offered.length)
  | _ => true

/-- A turn of a client, with the bytes it has read. -/
def stepClient (cfg : ServerConfig) (pipeName : String) (s : Spin) (i : Nat) (c : PipeClient)
    (read : PipeRead) : Spin :=
  let streams := Function.update s.streams i (s.streams i ++ read.chunk)
  match c.turn pipeName cfg.bufSize read (s.server.answer cfg) with
  | none => { s with client := Function.update s.client i none, streams }
  | some c' =>
    let sent := c'.sent.drop c.sent.length
    let start := c.position (s.streams i)
    { s with
      server := s.server.accept sent
      client := Function.update s.client i (some c')
      streams
      origins := s.origins ++ sent.map fun packet => .pipe i start (start + packet.len) }

/-- Every sender of the queue is gone. -/
def sendersGone (s : Spin) : Bool :=
  s.server.reader = .exited && !s.listening &&
    (List.range s.connected).all fun i => (s.client i).isNone

/-- Both transports have been joined, so that `supervise` has ended. -/
def joined (s : Spin) : Transport → Bool
  | .reader => true
  | .namedPipe .. => s.server.reader = .exited && !s.listening

/-- One step of the server, `none` when the action is not enabled. -/
def step (cfg : ServerConfig) (transport : Transport) (s : Spin) : SpinAction → Option Spin
  | .cancel => some { s with server := { s.server with cancelled := true } }
  | .reader action =>
    match transport with
    | .reader => (s.server.stepReader cfg action).map (s.withUdp action.datagrams)
    | .namedPipe .. => none
  | .udp action =>
    match transport with
    | .namedPipe _ true => (s.server.stepUdp cfg action).map (s.withUdp action.datagrams)
    | _ => none
  | .connect =>
    if s.listening then
      some { s with
        connected := s.connected + 1
        client := Function.update s.client s.connected (some (.new cfg.bufSize)) }
    else none
  | .listenerExit =>
    if s.server.cancelled && s.listening then some { s with listening := false } else none
  | .client i read =>
    match transport, s.client i with
    | .namedPipe pipeName _, some c =>
      if s.offers c read then some (s.stepClient cfg pipeName i c read) else none
    | _, _ => none
  | .supervise =>
    match transport with
    | .namedPipe _ udp =>
      if (udp && s.server.reader = .exited) || !s.listening then
        some { s with server := { s.server with cancelled := true } }
      else none
    | .reader => none
  | .processor .recvNone =>
    if s.sendersGone then
      (s.server.stepProcessor .recvNone).map fun server => { s with server }
    else none
  | .processor .spinReturn =>
    if s.joined transport then
      (s.server.stepProcessor .spinReturn).map fun server => { s with server }
    else none
  | .processor action => (s.server.stepProcessor action).map fun server => { s with server }

end Spin

end ServerlessComponents.Dogstatsd
