import Mathlib.Data.List.ReduceOption
import ServerlessComponents.Dogstatsd.BufferPool

/-!
# The two UDP read loops

`read_loop` waits for a datagram and then drains what the socket has; `udp_read_loop_beside_pipe`
does the same job without the drain. The loops run here without cancellation and without errors of
the socket, on the datagrams in the order they are read, and on what the queue answers to each send.

## Main results

* `readLoop_udpReadLoopBesidePipe` — what the loops have in common.
-/
namespace ServerlessComponents.Dogstatsd

/-- What a read of the socket gives. -/
structure Datagram where
  bytes : Bytes
  source : MessageSource
  deriving DecidableEq, Repr

/-- What the queue answers after a number of sends. A closed queue refuses, and one that has refused
is closed. -/
structure QueueAnswers where
  trySend : Nat → TrySend
  isClosed : Nat → Bool
  refuses : ∀ n, isClosed n = true → trySend n = .closed
  shut : ∀ n, trySend n = .closed → isClosed (n + 1) = true

/-- The buffers a loop takes: the pool's, or fresh ones. -/
abbrev Buffers (cfg : ServerConfig) : Type := Nat → { buf : Bytes // buf.length = cfg.bufSize }

/-- The count `dropped` of a loop, how many buffers it has taken, datagrams read and sends made, and
what has become of the packets and of the buffers: enqueued, lost to a full queue, refused by a
closed one; returned to the pool. -/
structure ReaderLocals where
  dropped : Nat := 0
  taken : Nat := 0
  reads : Nat := 0
  sends : Nat := 0
  enqueued : List Packet := []
  lost : List Packet := []
  refused : Option Packet := none
  returned : List Bytes := []
  deriving DecidableEq, Repr

namespace ReaderLocals

variable {cfg : ServerConfig}

/-- A datagram is read into the next buffer, which goes back at once when the datagram is empty. -/
def read (bufs : Buffers cfg) (l : ReaderLocals) (d : Datagram) : ReaderLocals × Option Packet :=
  let l' := { l with taken := l.taken + 1, reads := l.reads + 1 }
  match Server.readInto (bufs l.taken) d.bytes with
  | (buf, 0) => ({ l' with returned := l.returned ++ [buf] }, none)
  | (buf, len + 1) => (l', some ⟨buf, len + 1, d.source⟩)

/-- `try_send_packet`: `false` when the queue is closed. -/
def trySendPacket (q : QueueAnswers) (l : ReaderLocals) (packet : Packet) : ReaderLocals × Bool :=
  let l' := { l with sends := l.sends + 1 }
  match q.trySend l.sends with
  | .ok => ({ l' with enqueued := l.enqueued ++ [packet] }, true)
  | .full =>
    ({ l' with
      returned := l.returned ++ [packet.buf]
      dropped := l.dropped + 1
      lost := l.lost ++ [packet] }, true)
  | .closed =>
    ({ l' with returned := l.returned ++ [packet.buf], refused := some packet }, false)

/-- A non-blocking read that finds nothing. -/
def readNothing (bufs : Buffers cfg) (l : ReaderLocals) : ReaderLocals :=
  { l with taken := l.taken + 1, returned := l.returned ++ [(bufs l.taken).1] }

end ReaderLocals

section Loops

variable {cfg : ServerConfig} (q : QueueAnswers) (bufs : Buffers cfg)

mutual

/-- `read_loop`, and whether it has ended or waits. `none` stands where no datagram is there yet:
the blocking read waits, the drain ends. -/
def readLoop (l : ReaderLocals) : List (Option Datagram) → ReaderLocals × Bool
  | [] => (l, false)
  | none :: arrivals => readLoop l arrivals
  | some d :: arrivals =>
    match l.read bufs d with
    | (l, none) => readLoop l arrivals
    | (l, some packet) =>
      match l.trySendPacket q packet with
      | (l, false) => (l, true)
      | (l, true) => drainLoop l arrivals

/-- The inner loop of `read_loop`, with the check behind it. -/
def drainLoop (l : ReaderLocals) : List (Option Datagram) → ReaderLocals × Bool
  | [] => (l.readNothing bufs, q.isClosed l.sends)
  | none :: arrivals =>
    if q.isClosed l.sends then (l.readNothing bufs, true)
    else readLoop (l.readNothing bufs) arrivals
  | some d :: arrivals =>
    match l.read bufs d with
    | (l, none) => drainLoop l arrivals
    | (l, some packet) =>
      match l.trySendPacket q packet with
      | (l, true) => drainLoop l arrivals
      | (l, false) => if q.isClosed l.sends then (l, true) else readLoop l arrivals

end

/-- `udp_read_loop_beside_pipe`. -/
def udpReadLoopBesidePipe (l : ReaderLocals) : List Datagram → ReaderLocals × Bool
  | [] => (l, false)
  | d :: datagrams =>
    match l.read bufs d with
    | (l, none) => udpReadLoopBesidePipe l datagrams
    | (l, some packet) =>
      match l.trySendPacket q packet with
      | (l, true) => udpReadLoopBesidePipe l datagrams
      | (l, false) => (l, true)

end Loops

/-! ## What the loops have done -/

/-- What is processed of a packet. -/
def Packet.content (packet : Packet) : Bytes × MessageSource := (packet.data, packet.source)

/-- What a buffer can take of a datagram. -/
def Datagram.content (cfg : ServerConfig) (d : Datagram) : Bytes × MessageSource :=
  (d.bytes.take cfg.bufSize, d.source)

/-- The same packets enqueued in the same order, the same dropped, and as many counted. -/
structure SameOutcome (l l' : ReaderLocals) : Prop where
  enqueued : l.enqueued.map Packet.content = l'.enqueued.map Packet.content
  lost : l.lost.map Packet.content = l'.lost.map Packet.content
  dropped : l.dropped = l'.dropped

/-- Both loops have ended at the same packet, or both wait. -/
structure SameStop (a b : ReaderLocals × Bool) : Prop where
  ended : a.2 = b.2
  reads : a.1.reads = b.1.reads
  refused : a.1.refused.map Packet.content = b.1.refused.map Packet.content

/-- The first loop has found the queue closed after a drain. The second goes on to the next packet
of the remaining datagrams, which the queue refuses, or waits for it. -/
structure StoppedFirst (cfg : ServerConfig) (q : QueueAnswers) (datagrams : List Datagram)
    (a b : ReaderLocals × Bool) : Prop where
  ended : a.2 = true
  unrefused : a.1.refused = none
  closed : q.isClosed a.1.sends = true
  refused : b.1.refused.map Packet.content =
    (datagrams.find? (·.bytes ≠ [])).map (Datagram.content cfg)
  waits : b.2 = b.1.refused.isSome

/-! ## One datagram -/

/-- The loops have done the same so far, in buffers of their own. -/
structure Alike (l l' : ReaderLocals) : Prop extends SameOutcome l l' where
  reads : l.reads = l'.reads
  sends : l.sends = l'.sends
  refused : l.refused.map Packet.content = l'.refused.map Packet.content

namespace ReaderLocals

variable {cfg : ServerConfig} (bufs : Buffers cfg) (l : ReaderLocals) {d : Datagram}

theorem read_empty (empty : d.bytes = []) :
    ∃ buf, l.read bufs d = ({ l with
      taken := l.taken + 1
      reads := l.reads + 1
      returned := l.returned ++ [buf] }, none) := by
  simp [read, Server.readInto, empty]

theorem read_some (ne : d.bytes ≠ []) :
    ∃ packet : Packet, packet.content = d.content cfg ∧
      l.read bufs d = ({ l with taken := l.taken + 1, reads := l.reads + 1 }, some packet) := by
  have data := Server.take_readInto (bufs l.taken).1 d.bytes
  have pos : 0 < (Server.readInto (bufs l.taken).1 d.bytes).2 := by
    have some_ := List.length_pos_of_ne_nil ne
    have room := cfg.bufSize_pos
    simp only [Server.readInto, (bufs l.taken).2]
    omega
  unfold read
  rw [(bufs l.taken).2] at data
  generalize Server.readInto (bufs l.taken).1 d.bytes = filled at data pos
  rcases filled with ⟨buf, _ | len⟩
  · exact absurd pos (Nat.lt_irrefl 0)
  · exact ⟨⟨buf, len + 1, d.source⟩, Prod.ext data rfl, rfl⟩

end ReaderLocals

namespace Alike

variable {cfg : ServerConfig} {l l' : ReaderLocals}

/-- What the loops keep to themselves is not compared. -/
theorem withBuffers (alike : Alike l l') (taken taken' : Nat) (returned returned' : List Bytes) :
    Alike { l with taken, returned } { l' with taken := taken', returned := returned' } :=
  ⟨⟨alike.enqueued, alike.lost, alike.dropped⟩, alike.reads, alike.sends, alike.refused⟩

/-- Both loops read the same datagram. -/
theorem read (alike : Alike l l') (bufs bufs' : Buffers cfg) (d : Datagram) :
    ∃ r r', Alike r r' ∧ r.refused = l.refused ∧ r.reads = l.reads + 1 ∧
      (l.read bufs d = (r, none) ∧ l'.read bufs' d = (r', none) ∨
        ∃ packet packet' : Packet, packet.content = packet'.content ∧
          l.read bufs d = (r, some packet) ∧ l'.read bufs' d = (r', some packet')) := by
  obtain ⟨same, reads, sends, refused⟩ := alike
  have reads' : l.reads + 1 = l'.reads + 1 := congrArg (· + 1) reads
  by_cases empty : d.bytes = []
  · obtain ⟨buf, read⟩ := ReaderLocals.read_empty bufs l empty
    obtain ⟨buf', read'⟩ := ReaderLocals.read_empty bufs' l' empty
    refine ⟨_, _, ?_, ?_, ?_, .inl ⟨read, read'⟩⟩
    · exact ⟨⟨same.enqueued, same.lost, same.dropped⟩, reads', sends, refused⟩
    · rfl
    · rfl
  · obtain ⟨packet, content, read⟩ := ReaderLocals.read_some bufs l empty
    obtain ⟨packet', content', read'⟩ := ReaderLocals.read_some bufs' l' empty
    refine ⟨_, _, ?_, ?_, ?_, .inr ⟨packet, packet', content.trans content'.symm, read, read'⟩⟩
    · exact ⟨⟨same.enqueued, same.lost, same.dropped⟩, reads', sends, refused⟩
    · rfl
    · rfl

/-- The queue gives both loops the same answer, and is closed once it has refused a packet. -/
theorem trySendPacket (alike : Alike l l') (q : QueueAnswers) {packet packet' : Packet}
    (same : packet.content = packet'.content) :
    ∃ t t', Alike t t' ∧ t.reads = l.reads ∧
      (l.trySendPacket q packet = (t, true) ∧ l'.trySendPacket q packet' = (t', true) ∧
          t.refused = l.refused ∨
        l.trySendPacket q packet = (t, false) ∧ l'.trySendPacket q packet' = (t', false) ∧
          q.isClosed t.sends = true) := by
  obtain ⟨⟨enqueued, lost, dropped⟩, reads, sends, refused⟩ := alike
  have append (packets packets' : List Packet)
      (eq : packets.map Packet.content = packets'.map Packet.content) :
      (packets ++ [packet]).map Packet.content = (packets' ++ [packet']).map Packet.content := by
    simp only [List.map_append, eq, List.map_singleton, same]
  unfold ReaderLocals.trySendPacket
  rw [← sends]
  cases answer : q.trySend l.sends with
  | ok =>
    refine ⟨_, _, ?_, ?_, .inl ⟨rfl, rfl, rfl⟩⟩
    · exact ⟨⟨append _ _ enqueued, lost, dropped⟩, reads, rfl, refused⟩
    · rfl
  | full =>
    refine ⟨_, _, ?_, ?_, .inl ⟨rfl, rfl, rfl⟩⟩
    · exact ⟨⟨enqueued, append _ _ lost, congrArg (· + 1) dropped⟩, reads, rfl, refused⟩
    · rfl
  | closed =>
    refine ⟨_, _, ?_, ?_, .inr ⟨rfl, rfl, q.shut _ answer⟩⟩
    · exact ⟨⟨enqueued, lost, dropped⟩, reads, rfl, congrArg some same⟩
    · rfl

end Alike

/-! ## The loops -/

/-- What two loops that were alike have done on the datagrams: the same, or the first has stopped
before the second. -/
structure Related (cfg : ServerConfig) (q : QueueAnswers) (reads : Nat) (datagrams : List Datagram)
    (a b : ReaderLocals × Bool) : Prop where
  outcome : SameOutcome a.1 b.1
  stop : SameStop a b ∨
    ∃ read, a.1.reads = reads + read ∧ StoppedFirst cfg q (datagrams.drop read) a b

variable {cfg : ServerConfig} {q : QueueAnswers} {bufs bufs' : Buffers cfg} {l l' : ReaderLocals}

theorem Alike.related (alike : Alike l l') (reads : Nat) (datagrams : List Datagram)
    (ended : Bool) : Related cfg q reads datagrams (l, ended) (l', ended) :=
  ⟨alike.toSameOutcome, .inl ⟨rfl, alike.reads, alike.refused⟩⟩

theorem Related.cons {reads : Nat} {datagrams : List Datagram} {a b : ReaderLocals × Bool}
    (related : Related cfg q (reads + 1) datagrams a b) (d : Datagram) :
    Related cfg q reads (d :: datagrams) a b := by
  refine ⟨related.outcome, related.stop.imp_right ?_⟩
  rintro ⟨read, eq, first⟩
  exact ⟨read + 1, by omega, first⟩

/-- Once the queue is closed the loop goes on to the next packet. -/
theorem udpReadLoop_of_closed (bufs : Buffers cfg) (closed : q.trySend l.sends = .closed)
    (none_ : l.refused = none) (datagrams : List Datagram) :
    let b := udpReadLoopBesidePipe q bufs l datagrams
    SameOutcome l b.1 ∧ b.1.refused.map Packet.content =
      (datagrams.find? (·.bytes ≠ [])).map (Datagram.content cfg) ∧ b.2 = b.1.refused.isSome := by
  induction datagrams generalizing l with
  | nil => exact ⟨⟨rfl, rfl, rfl⟩, by simp [udpReadLoopBesidePipe, none_]⟩
  | cons d datagrams ih =>
    by_cases empty : d.bytes = []
    · obtain ⟨buf, read⟩ := ReaderLocals.read_empty bufs l empty
      rw [List.find?_cons_of_neg (by simp [empty])]
      simp only [udpReadLoopBesidePipe, read]
      obtain ⟨same, rest⟩ := ih (l := { l with
        taken := l.taken + 1
        reads := l.reads + 1
        returned := l.returned ++ [buf] }) closed none_
      exact ⟨⟨same.enqueued, same.lost, same.dropped⟩, rest⟩
    · obtain ⟨packet, content, read⟩ := ReaderLocals.read_some bufs l empty
      rw [List.find?_cons_of_pos (by simp [empty])]
      simp only [udpReadLoopBesidePipe, read, ReaderLocals.trySendPacket, closed]
      exact ⟨⟨rfl, rfl, rfl⟩, congrArg some content, rfl⟩

/-- After a drain, with the queue closed or not. -/
theorem Alike.stoppedFirst (alike : Alike l l') (none_ : l.refused = none)
    (closed : q.isClosed l.sends = true) (datagrams : List Datagram) :
    Related cfg q l.reads datagrams (l, true) (udpReadLoopBesidePipe q bufs' l' datagrams) := by
  have refuses : q.trySend l'.sends = .closed := q.refuses _ (alike.sends ▸ closed)
  have none_' : l'.refused = none := by
    have same := alike.refused
    rw [none_] at same
    exact Option.map_eq_none_iff.1 same.symm
  obtain ⟨same, refused, waits⟩ := udpReadLoop_of_closed bufs' refuses none_' datagrams
  refine ⟨⟨alike.enqueued.trans same.enqueued, alike.lost.trans same.lost,
    alike.dropped.trans same.dropped⟩, .inr ⟨0, rfl, ?_⟩⟩
  exact ⟨rfl, none_, closed, refused, waits⟩

/-- From locals that are alike, where `read_loop` may be in its drain. -/
theorem Alike.loops (q : QueueAnswers) (bufs bufs' : Buffers cfg)
    (arrivals : List (Option Datagram)) (alike : Alike l l') (none_ : l.refused = none) :
    Related cfg q l.reads arrivals.reduceOption (readLoop q bufs l arrivals)
        (udpReadLoopBesidePipe q bufs' l' arrivals.reduceOption) ∧
      Related cfg q l.reads arrivals.reduceOption (drainLoop q bufs l arrivals)
        (udpReadLoopBesidePipe q bufs' l' arrivals.reduceOption) := by
  induction arrivals generalizing l l' with
  | nil =>
    have drained : Alike (l.readNothing bufs) l' := alike.withBuffers ..
    refine ⟨alike.related .., ?_⟩
    simp only [drainLoop, List.reduceOption_nil]
    cases closed : q.isClosed l.sends with
    | true => exact drained.stoppedFirst none_ closed []
    | false => exact drained.related ..
  | cons arrival arrivals ih =>
    cases arrival with
    | none =>
      have drained : Alike (l.readNothing bufs) l' := alike.withBuffers ..
      rw [List.reduceOption_cons_of_none]
      refine ⟨(ih alike none_).1, ?_⟩
      simp only [drainLoop]
      split
      · rename_i closed
        exact drained.stoppedFirst none_ closed _
      · exact (ih drained none_).1
    | some d =>
      rw [List.reduceOption_cons_of_some]
      obtain ⟨r, r', alike, unrefused, reads, empty | ⟨packet, packet', same, read, read'⟩⟩ :=
        alike.read bufs bufs' d
      · have rest := ih alike (unrefused.trans none_)
        rw [reads] at rest
        simp only [readLoop, drainLoop, udpReadLoopBesidePipe, empty]
        exact ⟨rest.1.cons d, rest.2.cons d⟩
      · simp only [readLoop, drainLoop, udpReadLoopBesidePipe, read, read']
        obtain ⟨t, t', alike, reads', ⟨sent, sent', kept⟩ | ⟨sent, sent', closed⟩⟩ :=
          alike.trySendPacket q same
        · have rest := (ih alike (kept.trans (unrefused.trans none_))).2
          rw [reads', reads] at rest
          simp only [sent, sent']
          exact ⟨rest.cons d, rest.cons d⟩
        · -- the drain ends as well, and the check behind it finds the queue closed
          simp only [sent, sent', closed, if_true]
          exact ⟨alike.related .., alike.related ..⟩

/-- Whatever arrives when, and whatever the queue answers: both loops enqueue the same packets, drop
the same and count as many. They stop at the same packet or wait both, unless `read_loop` has found
the queue closed after a drain, where the other loop has yet to read the packet that is refused. -/
theorem readLoop_udpReadLoopBesidePipe (cfg : ServerConfig) (q : QueueAnswers)
    (bufs bufs' : Buffers cfg) (arrivals : List (Option Datagram)) :
    let a := readLoop q bufs {} arrivals
    let b := udpReadLoopBesidePipe q bufs' {} arrivals.reduceOption
    SameOutcome a.1 b.1 ∧
      (SameStop a b ∨ StoppedFirst cfg q (arrivals.reduceOption.drop a.1.reads) a b) := by
  intro a b
  have alike : Alike {} {} := ⟨⟨rfl, rfl, rfl⟩, rfl, rfl, rfl⟩
  obtain ⟨outcome, stop⟩ := (alike.loops q bufs bufs' arrivals rfl).1
  refine ⟨outcome, stop.imp_right ?_⟩
  rintro ⟨read, reads, first⟩
  have eq : a.1.reads = read := reads.trans (Nat.zero_add read)
  rwa [eq]

/-- The queue takes one packet and is closed. -/
def closedAfterOne : QueueAnswers where
  trySend
    | 0 => .ok
    | _ + 1 => .closed
  isClosed
    | 0 => false
    | _ + 1 => true
  refuses
    | 0, open_ => absurd open_ Bool.false_ne_true
    | _ + 1, _ => rfl
  shut _ _ := rfl

/-- The queue is closed once the first datagram is read, and a second one comes later: `read_loop`
ends without it. -/
theorem read_loops_stop_apart :
    let cfg : ServerConfig := ⟨4, 2, by decide, by decide⟩
    let bufs : Buffers cfg := fun _ => ⟨[0, 0, 0, 0], rfl⟩
    let arrivals : List (Option Datagram) :=
      [some ⟨[97], .network "peer"⟩, none, some ⟨[98], .network "peer"⟩]
    let a := readLoop closedAfterOne bufs {} arrivals
    let b := udpReadLoopBesidePipe closedAfterOne bufs {} arrivals.reduceOption
    a.1.refused = none ∧ b.1.refused.map Packet.content = some ([98], .network "peer") ∧
      ¬ (SameOutcome a.1 b.1 ∧ SameStop a b) := by
  refine ⟨rfl, rfl, ?_⟩
  rintro ⟨_, same⟩
  exact absurd same.reads (by decide)

end ServerlessComponents.Dogstatsd
