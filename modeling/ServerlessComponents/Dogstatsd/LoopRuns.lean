import ServerlessComponents.Dogstatsd.ReadLoops

/-!
# The read loops in runs of the server

The steps of the UDP readers and the loops as functions are two accounts of the same code. A run in
which the reader sees no error and is not told to stop, and no pipe client reads, does what the
function does on the datagrams of the run, with the buffers and the answers the run had for it.

## Main results

* `Spin.loop_of_run` — the function's result, wherever the reader waits or has exited.
* `Spin.runs_in_step` — two servers, one with each loop.
-/
namespace ServerlessComponents.Dogstatsd

/-- What a step adds to the arrivals. -/
def ServerAction.arrivals : ServerAction → List (Option Datagram)
  | .readerRead (.datagram bytes source) => [some ⟨bytes, source⟩]
  | .readerRead .wouldBlock => [none]
  | _ => []

def UdpAction.arrivals : UdpAction → List (Option Datagram)
  | .read (.datagram bytes addr) => [some ⟨bytes, .network addr⟩]
  | _ => []

/-! ## What a step asks of the pool and the queue -/

def ServerAction.takes : ServerAction → Bool
  | .readerAcquire => true
  | _ => false

def ServerAction.sends : ServerAction → Bool
  | .readerSend => true
  | _ => false

def ServerAction.checks : ServerAction → Bool
  | .readerClosedCheck => true
  | _ => false

def UdpAction.takes : UdpAction → Bool
  | .acquire => true
  | _ => false

def UdpAction.sends : UdpAction → Bool
  | .send => true
  | _ => false

/-- The buffers the reader has taken for a read. -/
def ReaderPc.taken : ReaderPc → List Bytes
  | .selecting buf | .draining buf => [buf]
  | _ => []

/-- The reader waits for a datagram, or is about to, or has ended. -/
def ReaderPc.Rests : ReaderPc → Prop
  | .top | .acquire | .selecting _ | .exited => True
  | _ => False

/-- What is left of `read_loop` from where the reader stands. -/
def readLoopFrom {cfg : ServerConfig} (q : QueueAnswers) (bufs : Buffers cfg) (l : ReaderLocals)
    (arrivals : List (Option Datagram)) : ReaderPc → ReaderLocals × Bool
  | .top | .acquire | .selecting _ => readLoop q bufs l arrivals
  | .sending packet =>
    match l.trySendPacket q packet with
    | (l, false) => (l, true)
    | (l, true) => drainLoop q bufs l arrivals
  | .drainAcquire | .draining _ => drainLoop q bufs l arrivals
  | .drainSending packet =>
    match l.trySendPacket q packet with
    | (l, true) => drainLoop q bufs l arrivals
    | (l, false) => if q.isClosed l.sends then (l, true) else readLoop q bufs l arrivals
  | .closedCheck => if q.isClosed l.sends then (l, true) else readLoop q bufs l arrivals
  | .exited => (l, true)

/-- What is left of `udp_read_loop_beside_pipe`, which does not drain. -/
def udpReadLoopFrom {cfg : ServerConfig} (q : QueueAnswers) (bufs : Buffers cfg)
    (l : ReaderLocals) (datagrams : List Datagram) : ReaderPc → ReaderLocals × Bool
  | .top | .acquire | .selecting _ => udpReadLoopBesidePipe q bufs l datagrams
  | .sending packet =>
    match l.trySendPacket q packet with
    | (l, true) => udpReadLoopBesidePipe q bufs l datagrams
    | (l, false) => (l, true)
  | _ => (l, true)

/-- The locals are those of the reader, which has taken and sent so much. -/
structure Tracks {cfg : ServerConfig} (bufs : Buffers cfg) (taken sends : Nat) (s : Server)
    (l : ReaderLocals) : Prop where
  running : s.cancelled = false
  accepted : s.accepted = l.enqueued
  dropped : s.dropped = l.dropped
  sends : sends = l.sends
  taken : taken = l.taken + s.reader.taken.length
  buffer : ∀ buf ∈ s.reader.taken, buf = (bufs l.taken).1

/-! ## Reads and sends -/

section Steps

variable {cfg : ServerConfig} {q : QueueAnswers} {bufs : Buffers cfg} {taken sends : Nat}
  {s s' : Server} {l : ReaderLocals}

theorem Tracks.poolSend (tracks : Tracks bufs taken sends s l) (buf : Bytes) :
    Tracks bufs taken sends (s.poolSend buf) l := by
  unfold Server.poolSend
  split
  · exact tracks
  · exact ⟨tracks.running, tracks.accepted, tracks.dropped, tracks.sends, tracks.taken,
      tracks.buffer⟩

/-- The reader moves without a buffer for a read, before and after. -/
theorem Tracks.move (tracks : Tracks bufs taken sends s l) (reader : ReaderPc)
    (none_ : s.reader.taken = []) (none_' : reader.taken = []) :
    Tracks bufs taken sends { s with reader } l := by
  obtain ⟨running, accepted, dropped, sends_, taken_, buffer⟩ := tracks
  refine ⟨running, accepted, dropped, sends_, ?_, ?_⟩
  · rw [taken_, none_, none_']
  · rw [none_']
    exact List.forall_mem_nil _

/-- The reader has read with the buffer it had. -/
theorem Tracks.afterRead (tracks : Tracks bufs taken sends s l) {buf : Bytes} {reader : ReaderPc}
    (one : s.reader.taken = [buf]) (none_ : reader.taken = []) {l' : ReaderLocals}
    (enqueued : l'.enqueued = l.enqueued) (dropped : l'.dropped = l.dropped)
    (sends_ : l'.sends = l.sends) (taken_ : l'.taken = l.taken + 1) :
    Tracks bufs taken sends { s with reader } l' := by
  refine ⟨tracks.running, tracks.accepted.trans enqueued.symm, tracks.dropped.trans dropped.symm,
    tracks.sends.trans sends_.symm, ?_, ?_⟩
  · rw [tracks.taken, one, none_, taken_]
    rfl
  · rw [none_]
    exact List.forall_mem_nil _

/-- A datagram has been read: the function reads it into the same buffer. -/
theorem Tracks.received (tracks : Tracks bufs taken sends s l) {buf : Bytes}
    (one : s.reader.taken = [buf]) (d : Datagram) (empty : ReaderPc) (send : Packet → ReaderPc)
    (none_ : empty.taken = []) (none_' : ∀ packet, (send packet).taken = []) :
    ∃ l', Tracks bufs taken sends (s.received buf d.bytes d.source empty send) l' ∧
      (l.read bufs d = (l', none) ∧ (s.received buf d.bytes d.source empty send).reader = empty ∨
        ∃ packet, l.read bufs d = (l', some packet) ∧
          (s.received buf d.bytes d.source empty send).reader = send packet) := by
  have same : buf = (bufs l.taken).1 := tracks.buffer buf (one ▸ List.mem_singleton_self buf)
  unfold Server.received ReaderLocals.read
  rw [← same]
  rcases Server.readInto buf d.bytes with ⟨filled, _ | len⟩
  · have one' : (s.poolSend filled).reader.taken = [buf] := by rw [Server.reader_poolSend, one]
    refine ⟨_, (tracks.poolSend filled).afterRead one' none_ ?_ ?_ ?_ ?_, .inl ⟨rfl, rfl⟩⟩
    all_goals rfl
  · refine ⟨_, tracks.afterRead one (none_' _) ?_ ?_ ?_ ?_, .inr ⟨_, rfl, rfl⟩⟩
    all_goals rfl

/-- A packet has been sent: the function's queue gives the same answer. -/
theorem Tracks.send (tracks : Tracks bufs taken sends s l) (none_ : s.reader.taken = [])
    (answers : s.answer cfg = q.trySend sends) {packet : Packet} {t : Server} {sent : Bool}
    (eq : s.trySendPacket cfg packet = (t, sent)) :
    ∃ l', l.trySendPacket q packet = (l', sent) ∧ ∀ reader : ReaderPc, reader.taken = [] →
      Tracks bufs taken (sends + 1) { t with reader } l' := by
  obtain ⟨running, accepted, dropped, rfl, taken_, buffer⟩ := tracks
  unfold Server.trySendPacket at eq
  unfold ReaderLocals.trySendPacket
  rw [← answers]
  unfold Server.answer
  split_ifs at eq ⊢ with closed room <;> cases eq
  · refine ⟨_, rfl, fun reader free => ?_⟩
    have refused : Tracks bufs taken (l.sends + 1) s { l with
        sends := l.sends + 1
        returned := l.returned ++ [packet.buf]
        refused := some packet } := ⟨running, accepted, dropped, rfl, taken_, buffer⟩
    exact (refused.poolSend packet.buf).move reader (by rw [Server.reader_poolSend, none_]) free
  · refine ⟨_, rfl, fun reader free => ?_⟩
    have queued : Tracks bufs taken (l.sends + 1)
        { s with queue := s.queue ++ [packet], accepted := s.accepted ++ [packet] }
        { l with sends := l.sends + 1, enqueued := l.enqueued ++ [packet] } :=
      ⟨running, congrArg (· ++ [packet]) accepted, dropped, rfl, taken_, buffer⟩
    exact queued.move reader none_ free
  · refine ⟨_, rfl, fun reader free => ?_⟩
    have lost : Tracks bufs taken (l.sends + 1) { s with dropped := s.dropped + 1 } { l with
        sends := l.sends + 1
        returned := l.returned ++ [packet.buf]
        dropped := l.dropped + 1
        lost := l.lost ++ [packet] } :=
      ⟨running, accepted, congrArg (· + 1) dropped, rfl, taken_, buffer⟩
    exact (lost.poolSend packet.buf).move reader (by rw [Server.reader_poolSend]; exact none_) free

/-- A loop that is not cancelled goes on. -/
theorem Tracks.top (tracks : Tracks bufs taken sends s l) (none_ : s.reader.taken = []) :
    Tracks bufs taken sends { s with reader := .acquire } l ∧
      (if s.cancelled then ReaderPc.exited else .acquire) = .acquire := by
  refine ⟨tracks.move .acquire none_ rfl, ?_⟩
  rw [tracks.running]
  rfl

/-- The reader has taken a buffer from the pool, or a fresh one. -/
theorem Tracks.takeBuf (tracks : Tracks bufs taken sends s l) (none_ : s.reader.taken = [])
    (pool : (s.takeBuf cfg).1 = (bufs taken).1) {reader : ReaderPc}
    (one : reader.taken = [(s.takeBuf cfg).1]) :
    Tracks bufs (taken + 1) sends { s with reader, pool := (s.takeBuf cfg).2 } l := by
  have taken_ := tracks.taken
  rw [none_, List.length_nil, Nat.add_zero] at taken_
  refine ⟨tracks.running, tracks.accepted, tracks.dropped, tracks.sends, ?_, ?_⟩
  · rw [one, taken_]
    rfl
  · rw [one]
    intro buf mem
    rw [List.mem_singleton.1 mem, pool, taken_]

/-! ## The steps of a reader -/

/-- No error of the socket. -/
def ServerAction.Calm : ServerAction → Prop
  | .readerRead .error | .readerRead .connectionReset => False
  | _ => True

def UdpAction.Calm : UdpAction → Prop
  | .read .skipped | .read .failed => False
  | _ => True

/-- The blocking read of `read_loop`. -/
theorem Tracks.blockingRead (tracks : Tracks bufs taken sends s l) (q : QueueAnswers)
    {buf : Bytes}
    (one : s.reader.taken = [buf]) (d : Datagram) :
    let s' := s.received buf d.bytes d.source .top .sending
    ∃ l', Tracks bufs taken sends s' l' ∧
      ∀ rest, readLoop q bufs l (some d :: rest) = readLoopFrom q bufs l' rest s'.reader := by
  obtain ⟨l', tracks, ⟨read, pc⟩ | ⟨packet, read, pc⟩⟩ :=
    tracks.received one d .top .sending rfl fun _ => rfl
  · refine ⟨l', tracks, fun rest => ?_⟩
    simp only [pc, readLoopFrom, readLoop, read]
  · refine ⟨l', tracks, fun rest => ?_⟩
    rcases sent : l'.trySendPacket q packet with ⟨_, _ | _⟩ <;>
      simp only [pc, readLoopFrom, readLoop, read, sent]

/-- The read of its drain. -/
theorem Tracks.drainingRead (tracks : Tracks bufs taken sends s l) (q : QueueAnswers)
    {buf : Bytes}
    (one : s.reader.taken = [buf]) (d : Datagram) :
    let s' := s.received buf d.bytes d.source .drainAcquire .drainSending
    ∃ l', Tracks bufs taken sends s' l' ∧
      ∀ rest, drainLoop q bufs l (some d :: rest) = readLoopFrom q bufs l' rest s'.reader := by
  obtain ⟨l', tracks, ⟨read, pc⟩ | ⟨packet, read, pc⟩⟩ :=
    tracks.received one d .drainAcquire .drainSending rfl fun _ => rfl
  · refine ⟨l', tracks, fun rest => ?_⟩
    simp only [pc, readLoopFrom, drainLoop, read]
  · refine ⟨l', tracks, fun rest => ?_⟩
    rcases sent : l'.trySendPacket q packet with ⟨_, _ | _⟩ <;>
      simp only [pc, readLoopFrom, drainLoop, read, sent]

/-- The read of `udp_read_loop_beside_pipe`. -/
theorem Tracks.udpRead (tracks : Tracks bufs taken sends s l) (q : QueueAnswers)
    {buf : Bytes}
    (one : s.reader.taken = [buf]) (d : Datagram) :
    let s' := s.received buf d.bytes d.source .top .sending
    ∃ l', Tracks bufs taken sends s' l' ∧ ∀ rest,
      udpReadLoopBesidePipe q bufs l (d :: rest) = udpReadLoopFrom q bufs l' rest s'.reader := by
  obtain ⟨l', tracks, ⟨read, pc⟩ | ⟨packet, read, pc⟩⟩ :=
    tracks.received one d .top .sending rfl fun _ => rfl
  · refine ⟨l', tracks, fun rest => ?_⟩
    simp only [pc, udpReadLoopFrom, udpReadLoopBesidePipe, read]
  · refine ⟨l', tracks, fun rest => ?_⟩
    rcases sent : l'.trySendPacket q packet with ⟨_, _ | _⟩ <;>
      simp only [pc, udpReadLoopFrom, udpReadLoopBesidePipe, read, sent]

theorem Tracks.nothing (tracks : Tracks bufs taken sends s l) {buf : Bytes}
    (one : s.reader.taken = [buf]) :
    Tracks bufs taken sends { s.poolSend buf with reader := .closedCheck }
      (l.readNothing bufs) := by
  have one' : (s.poolSend buf).reader.taken = [buf] := by rw [Server.reader_poolSend, one]
  exact (tracks.poolSend buf).afterRead one' rfl rfl rfl rfl rfl

theorem Tracks.closedCheck (tracks : Tracks bufs taken sends s l) (none_ : s.reader.taken = [])
    (closed : s.isClosed = q.isClosed sends) :
    let reader := if s.isClosed then ReaderPc.exited else .top
    Tracks bufs taken sends { s with reader } l ∧ ∀ rest,
      readLoopFrom q bufs l rest .closedCheck = readLoopFrom q bufs l rest reader := by
  rw [tracks.sends] at closed
  rw [closed]
  cases shut : q.isClosed l.sends with
  | true =>
    refine ⟨tracks.move .exited none_ rfl, fun rest => ?_⟩
    simp only [readLoopFrom, shut, if_true]
  | false =>
    refine ⟨tracks.move .top none_ rfl, fun rest => ?_⟩
    simp only [readLoopFrom, shut, Bool.false_eq_true, if_false]

theorem Tracks.stepReader (tracks : Tracks bufs taken sends s l) {a : ServerAction}
    (calm : a.Calm) (h : s.stepReader cfg a = some s')
    (pool : a.takes = true → (s.takeBuf cfg).1 = (bufs taken).1)
    (queue : a.sends = true → s.answer cfg = q.trySend sends)
    (closed : a.checks = true → s.isClosed = q.isClosed sends) :
    ∃ l', Tracks bufs (taken + a.takes.toNat) (sends + a.sends.toNat) s' l' ∧
      ∀ rest, readLoopFrom q bufs l (a.arrivals ++ rest) s.reader =
        readLoopFrom q bufs l' rest s'.reader := by
  cases Server.readerMove_of_stepReader h with
  | top pc =>
    obtain ⟨tracks, stay⟩ := tracks.top (by rw [pc]; rfl)
    rw [stay, pc]
    exact ⟨l, tracks, fun _ => rfl⟩
  | acquire pc | drainAcquire pc =>
    rw [pc]
    exact ⟨l, tracks.takeBuf (by rw [pc]; rfl) (pool rfl) rfl, fun _ => rfl⟩
  | read buf bytes source pc =>
    obtain ⟨l', tracks, same⟩ := tracks.blockingRead q (by rw [pc]; rfl) ⟨bytes, source⟩
    rw [pc]
    exact ⟨l', tracks, same⟩
  | drainRead buf bytes source pc =>
    obtain ⟨l', tracks, same⟩ := tracks.drainingRead q (by rw [pc]; rfl) ⟨bytes, source⟩
    rw [pc]
    exact ⟨l', tracks, same⟩
  | reset | failed => exact calm.elim
  | drained buf result pc over_ =>
    cases result with
    | wouldBlock =>
      rw [pc]
      refine ⟨l.readNothing bufs, tracks.nothing (by rw [pc]; rfl), fun rest => ?_⟩
      simp only [ServerAction.arrivals, List.singleton_append, readLoopFrom, drainLoop]
      rfl
    | datagram bytes source => exact absurd rfl (over_ bytes source)
    | connectionReset | error => exact calm.elim
  | cancelled buf pc told =>
    rw [tracks.running] at told
    cases told
  | send packet pc t open_ eq =>
    obtain ⟨l', sent, tracks⟩ := tracks.send (by rw [pc]; rfl) (queue rfl) eq
    refine ⟨l', tracks _ (by cases open_ <;> rfl), fun rest => ?_⟩
    cases open_ <;>
      simp only [pc, ServerAction.arrivals, List.nil_append, readLoopFrom, sent, if_true,
        Bool.false_eq_true, if_false]
  | drainSend packet pc t open_ eq =>
    obtain ⟨l', sent, tracks⟩ := tracks.send (by rw [pc]; rfl) (queue rfl) eq
    refine ⟨l', tracks _ (by cases open_ <;> rfl), fun rest => ?_⟩
    cases open_ <;>
      simp only [pc, ServerAction.arrivals, List.nil_append, readLoopFrom, sent, if_true,
        Bool.false_eq_true, if_false]
  | closedCheck pc =>
    obtain ⟨tracks, same⟩ := tracks.closedCheck (by rw [pc]; rfl) (closed rfl)
    rw [pc]
    exact ⟨l, tracks, same⟩

theorem Tracks.stepUdp (tracks : Tracks bufs taken sends s l) {a : UdpAction} (calm : a.Calm)
    (h : s.stepUdp cfg a = some s') (pool : a.takes = true → (s.takeBuf cfg).1 = (bufs taken).1)
    (queue : a.sends = true → s.answer cfg = q.trySend sends) :
    ∃ l', Tracks bufs (taken + a.takes.toNat) (sends + a.sends.toNat) s' l' ∧
      ∀ rest, udpReadLoopFrom q bufs l (a.arrivals ++ rest).reduceOption s.reader =
        udpReadLoopFrom q bufs l' rest.reduceOption s'.reader := by
  cases Server.udpMove_of_stepUdp h with
  | top pc =>
    obtain ⟨tracks, stay⟩ := tracks.top (by rw [pc]; rfl)
    rw [stay, pc]
    exact ⟨l, tracks, fun _ => rfl⟩
  | acquire pc =>
    rw [pc]
    exact ⟨l, tracks.takeBuf (by rw [pc]; rfl) (pool rfl) rfl, fun _ => rfl⟩
  | read buf bytes addr pc =>
    obtain ⟨l', tracks, same⟩ := tracks.udpRead q (by rw [pc]; rfl) ⟨bytes, .network addr⟩
    rw [pc]
    refine ⟨l', tracks, fun rest => ?_⟩
    rw [← same]
    simp only [UdpAction.arrivals, List.singleton_append, List.reduceOption_cons_of_some,
      udpReadLoopFrom]
  | skipped | failed => exact calm.elim
  | cancelled buf pc told =>
    rw [tracks.running] at told
    cases told
  | send packet pc t open_ eq =>
    obtain ⟨l', sent, tracks⟩ := tracks.send (by rw [pc]; rfl) (queue rfl) eq
    refine ⟨l', tracks _ (by cases open_ <;> rfl), fun rest => ?_⟩
    cases open_ <;>
      simp only [pc, UdpAction.arrivals, List.nil_append, udpReadLoopFrom, sent, if_true,
        Bool.false_eq_true, if_false]

theorem Tracks.withProcessor (tracks : Tracks bufs taken sends s l) (processor : ProcessorPc)
    (queue processed : List Packet) :
    Tracks bufs taken sends { s with processor, queue, processed } l :=
  ⟨tracks.running, tracks.accepted, tracks.dropped, tracks.sends, tracks.taken, tracks.buffer⟩

theorem Tracks.handlePacket (tracks : Tracks bufs taken sends s l) (packet : Packet) :
    Tracks bufs taken sends (s.handlePacket packet) l ∧
      (s.handlePacket packet).reader = s.reader := by
  have processed := tracks.withProcessor s.processor s.queue (s.processed ++ [packet])
  simp only [Server.handlePacket]
  split
  · exact ⟨processed.poolSend packet.buf, Server.reader_poolSend ..⟩
  · exact ⟨processed, rfl⟩

/-- What the processor does leaves the reader as it is. -/
theorem Tracks.stepProcessor (tracks : Tracks bufs taken sends s l) {a : ServerAction}
    (h : s.stepProcessor a = some s') : Tracks bufs taken sends s' l ∧ s'.reader = s.reader := by
  cases Server.processorMove_of_stepProcessor h with
  | recv | recvNone | tryRecv | drained | spinReturn => exact ⟨tracks.withProcessor .., rfl⟩
  | cancelled pc told =>
    rw [tracks.running] at told
    cases told
  | handle packet | finalHandle packet =>
    obtain ⟨handled, reader⟩ := tracks.handlePacket packet
    exact ⟨handled.withProcessor .., reader⟩

end Steps

/-! ## Runs -/

namespace SpinAction

def arrivals : SpinAction → List (Option Datagram)
  | .reader action => action.arrivals
  | .udp action => action.arrivals
  | _ => []

def takes : SpinAction → Bool
  | .reader action => action.takes
  | .udp action => action.takes
  | _ => false

def sends : SpinAction → Bool
  | .reader action => action.sends
  | .udp action => action.sends
  | _ => false

def checks : SpinAction → Bool
  | .reader action => action.checks
  | _ => false

/-- No error of the socket, no cancellation, and nothing from a pipe client. -/
def Calm : SpinAction → Prop
  | .reader action => action.Calm
  | .udp action => action.Calm
  | .cancel | .supervise | .client .. => False
  | _ => True

end SpinAction

namespace Spin

variable {cfg : ServerConfig} (transport : Transport) (q : QueueAnswers) (bufs : Buffers cfg)

/-- Along a run the pool and the queue give the reader, which has taken and sent so much, what
`bufs` and `q` say. -/
def Supplied : Nat → Nat → Spin → List SpinAction → Prop
  | _, _, _, [] => True
  | taken, sends, s, a :: rest =>
    (a.takes = true → (s.server.takeBuf cfg).1 = (bufs taken).1) ∧
      (a.sends = true → s.server.answer cfg = q.trySend sends) ∧
      (a.checks = true → s.server.isClosed = q.isClosed sends) ∧
      match step cfg transport s a with
      | some s' => Supplied (taken + a.takes.toNat) (sends + a.sends.toNat) s' rest
      | none => True

instance decidableSupplied : ∀ taken sends s actions,
    Decidable (Supplied transport q bufs taken sends s actions)
  | _, _, _, [] => isTrue trivial
  | taken, sends, s, a :: rest =>
    have : Decidable (match step cfg transport s a with
        | some s' =>
          Supplied transport q bufs (taken + a.takes.toNat) (sends + a.sends.toNat) s' rest
        | none => True) :=
      match step cfg transport s a with
      | some s' => decidableSupplied _ _ s' rest
      | none => isTrue trivial
    inferInstanceAs (Decidable (_ ∧ _ ∧ _ ∧ _))

/-- What is left of the loop that reads UDP. -/
def loopFrom (l : ReaderLocals) (arrivals : List (Option Datagram)) (reader : ReaderPc) :
    ReaderLocals × Bool :=
  match transport with
  | .reader => readLoopFrom q bufs l arrivals reader
  | .namedPipe .. => udpReadLoopFrom q bufs l arrivals.reduceOption reader

variable {transport q bufs} {taken sends : Nat} {s s' : Spin} {l : ReaderLocals}

theorem tracks_step (tracks : Tracks bufs taken sends s.server l) {a : SpinAction} (calm : a.Calm)
    (h : step cfg transport s a = some s')
    (pool : a.takes = true → (s.server.takeBuf cfg).1 = (bufs taken).1)
    (queue : a.sends = true → s.server.answer cfg = q.trySend sends)
    (closed : a.checks = true → s.server.isClosed = q.isClosed sends) :
    ∃ l', Tracks bufs (taken + a.takes.toNat) (sends + a.sends.toNat) s'.server l' ∧
      ∀ rest, loopFrom transport q bufs l (a.arrivals ++ rest) s.server.reader =
        loopFrom transport q bufs l' rest s'.server.reader := by
  cases a with
  | reader action =>
    cases transport with
    | reader =>
      obtain ⟨server, moved, rfl⟩ := Option.map_eq_some_iff.1 h
      exact tracks.stepReader calm moved pool queue closed
    | namedPipe pipeName udp => cases h
  | udp action =>
    simp only [step] at h
    split at h
    · obtain ⟨server, moved, rfl⟩ := Option.map_eq_some_iff.1 h
      exact tracks.stepUdp calm moved pool queue
    · cases h
  | connect =>
    simp only [step] at h
    split at h <;> cases h
    exact ⟨l, tracks, fun _ => rfl⟩
  | listenerExit =>
    simp only [step] at h
    split at h <;> cases h
    exact ⟨l, tracks, fun _ => rfl⟩
  | processor action =>
    have processor (h : (s.server.stepProcessor action).map (fun server => { s with server }) =
        some s') : Tracks bufs taken sends s'.server l ∧ s'.server.reader = s.server.reader := by
      obtain ⟨server, moved, rfl⟩ := Option.map_eq_some_iff.1 h
      exact tracks.stepProcessor moved
    have quiet : Tracks bufs taken sends s'.server l ∧ s'.server.reader = s.server.reader := by
      cases action with
      | recvNone | spinReturn =>
        simp only [step] at h
        split at h
        · exact processor h
        · cases h
      | _ => exact processor h
    refine ⟨l, quiet.1, fun rest => ?_⟩
    rw [quiet.2]
    rfl
  | _ => exact calm.elim

theorem tracks_run {actions : List SpinAction} (tracks : Tracks bufs taken sends s.server l)
    (calm : ∀ a ∈ actions, a.Calm) (supplied : Supplied transport q bufs taken sends s actions)
    (run : Runs.exec (step cfg transport) s actions = some s') :
    ∃ l' taken' sends', Tracks bufs taken' sends' s'.server l' ∧
      loopFrom transport q bufs l (actions.flatMap SpinAction.arrivals) s.server.reader =
        loopFrom transport q bufs l' [] s'.server.reader := by
  induction actions generalizing s l taken sends with
  | nil =>
    cases run
    exact ⟨l, taken, sends, tracks, rfl⟩
  | cons a rest ih =>
    obtain ⟨next, moved, run⟩ := Runs.exec_cons_eq_some.1 run
    obtain ⟨pool, queue, closed, supplied⟩ := supplied
    rw [moved] at supplied
    obtain ⟨l', tracks, same⟩ :=
      tracks_step tracks (calm a List.mem_cons_self) moved pool queue closed
    obtain ⟨end_, taken', sends', tracks, last⟩ :=
      ih tracks (fun b mem => calm b (List.mem_cons_of_mem a mem)) supplied run
    exact ⟨end_, taken', sends', tracks, (same _).trans last⟩

theorem tracks_init (bufs : Buffers cfg) (transport : Transport) :
    Tracks bufs 0 0 (init transport).server {} := by
  cases transport with
  | reader => exact ⟨rfl, rfl, rfl, rfl, rfl, List.forall_mem_nil _⟩
  | namedPipe pipeName udp => cases udp <;> exact ⟨rfl, rfl, rfl, rfl, rfl, List.forall_mem_nil _⟩

/-- Wherever the reader waits for a datagram or has exited, the function has come as far, on the
datagrams of the run. -/
theorem loop_of_run {actions : List SpinAction} (calm : ∀ a ∈ actions, a.Calm)
    (supplied : Supplied transport q bufs 0 0 (init transport) actions)
    (run : Runs.exec (step cfg transport) (init transport) actions = some s)
    (rests : s.server.reader.Rests) :
    ∃ l, loopFrom transport q bufs {} (actions.flatMap SpinAction.arrivals)
        (init transport).server.reader = (l, decide (s.server.reader = .exited)) ∧
      s.server.accepted = l.enqueued ∧ s.server.dropped = l.dropped := by
  obtain ⟨l, taken, sends, tracks, same⟩ :=
    tracks_run (tracks_init bufs transport) calm supplied run
  refine ⟨l, same.trans ?_, tracks.accepted, tracks.dropped⟩
  cases pc : s.server.reader with
  | top | acquire | selecting | exited => cases transport <;> rfl
  | _ =>
    rw [pc] at rests
    exact rests.elim

/-- `read_loop` alone, and `udp_read_loop_beside_pipe` beside a pipe without clients that read, put
the same packets on the queue and drop as many, when they get the same datagrams and answers. -/
theorem runs_in_step {pipeName : String} {bufs' : Buffers cfg} {actions actions' : List SpinAction}
    (calm : ∀ a ∈ actions, a.Calm) (calm' : ∀ a ∈ actions', a.Calm)
    (supplied : Supplied .reader q bufs 0 0 (init .reader) actions)
    (supplied' : Supplied (.namedPipe pipeName true) q bufs' 0 0 (init (.namedPipe pipeName true))
      actions')
    (run : Runs.exec (step cfg .reader) (init .reader) actions = some s)
    (run' : Runs.exec (step cfg (.namedPipe pipeName true)) (init (.namedPipe pipeName true))
      actions' = some s')
    (rests : s.server.reader.Rests) (rests' : s'.server.reader.Rests)
    (datagrams : (actions.flatMap SpinAction.arrivals).reduceOption =
      (actions'.flatMap SpinAction.arrivals).reduceOption) :
    s.server.accepted.map Packet.content = s'.server.accepted.map Packet.content ∧
      s.server.dropped = s'.server.dropped := by
  obtain ⟨l, loop, accepted, dropped⟩ := loop_of_run calm supplied run rests
  obtain ⟨l', loop', accepted', dropped'⟩ := loop_of_run calm' supplied' run' rests'
  have alike : Alike {} {} := ⟨⟨rfl, rfl, rfl⟩, rfl, rfl, rfl⟩
  have outcome := (alike.loops q bufs bufs' (actions.flatMap SpinAction.arrivals) rfl).1.outcome
  rw [datagrams] at outcome
  rw [show readLoop q bufs {} _ = _ from loop,
    show udpReadLoopBesidePipe q bufs' {} _ = _ from loop'] at outcome
  rw [accepted, accepted', dropped, dropped']
  exact ⟨outcome.enqueued, outcome.dropped⟩

/-- Always room in the queue. -/
def openQueue : QueueAnswers where
  trySend _ := .ok
  isClosed _ := false
  refuses _ closed := absurd closed Bool.false_ne_true
  shut _ closed := TrySend.noConfusion closed

example :
    let cfg : ServerConfig := ⟨4, 2, by decide, by decide⟩
    let bufs : Buffers cfg := fun _ => ⟨[0, 0, 0, 0], rfl⟩
    Supplied .reader openQueue bufs 0 0 (init .reader) [.reader .readerTop, .reader .readerAcquire,
      .reader (.readerRead (.datagram [97] (.network "peer"))), .reader .readerSend,
      .reader .readerAcquire, .reader (.readerRead .wouldBlock), .reader .readerClosedCheck] := by
  decide

end Spin

end ServerlessComponents.Dogstatsd
