import Mathlib.Data.List.Basic

/-!
# Packets of the DogStatsD server

What a transport reads and the processor parses (`dogstatsd.rs`), with the outcomes of putting a
packet on the processing queue.
-/
namespace ServerlessComponents.Dogstatsd

abbrev Bytes := List UInt8

def newline : UInt8 := 10

inductive MessageSource where
  | network (addr : String)
  | namedPipe (name : String)
  deriving DecidableEq, Repr

/-- A packet in its buffer; the data is the first `len` bytes. -/
structure Packet where
  buf : Bytes
  len : Nat
  source : MessageSource
  deriving DecidableEq, Repr

namespace Packet

def data (packet : Packet) : Bytes := packet.buf.take packet.len

/-- Only UDP packets live in pooled buffers. -/
def isPooled (packet : Packet) : Bool :=
  match packet.source with
  | .network _ => true
  | .namedPipe _ => false

end Packet

/-- What `try_send` answers. -/
inductive TrySend where
  | ok
  | full
  | closed
  deriving DecidableEq, Repr

end ServerlessComponents.Dogstatsd
