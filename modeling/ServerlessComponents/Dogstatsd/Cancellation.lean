import ServerlessComponents.Dogstatsd.Server

/-!
# Cancellation and the packets already read

Every accepted packet is processed, in the processor's hand or on the queue. When `spin` returns,
its queue is dropped, so the accepted packets are all processed exactly when nothing was put on
the queue after the last look of `process_loop`.
-/
namespace ServerlessComponents.Dogstatsd

/-- The packet the processor has taken off the queue and not finished. -/
@[simp]
def ProcessorPc.inHand : ProcessorPc → List Packet
  | .handling packet => [packet]
  | .finalHandling packet => [packet]
  | _ => []

/-- `process_loop` looks at the queue no more. -/
@[simp]
def ProcessorPc.Finished : ProcessorPc → Prop
  | .loopReturned => True
  | .spinReturned => True
  | _ => False

namespace Server

/-- Where the accepted packets are, oldest first. -/
def Accounted (s : Server) : Prop :=
  s.accepted = s.processed ++ s.processor.inHand ++ s.queue

/-- The action is no `try_send` between the return of `process_loop` and that of `spin`. -/
def NotLate (s : Server) (action : ServerAction) : Prop :=
  ¬ (action = .readerSend ∧ s.processor = .loopReturned)

/-- A packet that no one will process lies on the queue. -/
def Stranded (s : Server) : Prop := s.processor.Finished ∧ s.queue ≠ []

/-! ## What a step can do -/

/-- The steps of `read_loop`. -/
inductive ReaderMove (cfg : ServerConfig) (s : Server) : ServerAction → Server → Prop
  | top (pc : s.reader = .top) :
      ReaderMove cfg s .readerTop { s with reader := if s.cancelled then .exited else .acquire }
  | acquire (pc : s.reader = .acquire) : ReaderMove cfg s .readerAcquire
      { s with reader := .selecting (s.takeBuf cfg).1, pool := (s.takeBuf cfg).2 }
  | drainAcquire (pc : s.reader = .drainAcquire) : ReaderMove cfg s .readerAcquire
      { s with reader := .draining (s.takeBuf cfg).1, pool := (s.takeBuf cfg).2 }
  | read (buf bytes : Bytes) (source : MessageSource) (pc : s.reader = .selecting buf) :
      ReaderMove cfg s (.readerRead (.datagram bytes source))
        (s.received buf bytes source .top .sending)
  | drainRead (buf bytes : Bytes) (source : MessageSource) (pc : s.reader = .draining buf) :
      ReaderMove cfg s (.readerRead (.datagram bytes source))
        (s.received buf bytes source .drainAcquire .drainSending)
  | reset (buf : Bytes) (pc : s.reader = .selecting buf) :
      ReaderMove cfg s (.readerRead .connectionReset) { s with reader := .exited }
  | failed (buf : Bytes) (pc : s.reader = .selecting buf) :
      ReaderMove cfg s (.readerRead .error) { s.poolSend buf with reader := .top }
  | drained (buf : Bytes) (result : ReadResult) (pc : s.reader = .draining buf)
      (over_ : ∀ bytes source, result ≠ .datagram bytes source) :
      ReaderMove cfg s (.readerRead result) { s.poolSend buf with reader := .closedCheck }
  | cancelled (buf : Bytes) (pc : s.reader = .selecting buf) (told : s.cancelled = true) :
      ReaderMove cfg s .readerCancelled { s.poolSend buf with reader := .exited }
  | send (packet : Packet) (pc : s.reader = .sending packet) (t : Server) (open_ : Bool)
      (eq : s.trySendPacket cfg packet = (t, open_)) :
      ReaderMove cfg s .readerSend { t with reader := if open_ then .drainAcquire else .exited }
  | drainSend (packet : Packet) (pc : s.reader = .drainSending packet) (t : Server) (open_ : Bool)
      (eq : s.trySendPacket cfg packet = (t, open_)) :
      ReaderMove cfg s .readerSend
        { t with reader := if open_ then .drainAcquire else .closedCheck }
  | closedCheck (pc : s.reader = .closedCheck) : ReaderMove cfg s .readerClosedCheck
      { s with reader := if s.isClosed then .exited else .top }

/-- The steps of `process_loop`, and the return of `spin`. -/
inductive ProcessorMove (s : Server) : ServerAction → Server → Prop
  | recv (packet : Packet) (rest : List Packet) (pc : s.processor = .selecting)
      (queue : s.queue = packet :: rest) :
      ProcessorMove s .recv { s with queue := rest, processor := .handling packet }
  | recvNone (pc : s.processor = .selecting) (queue : s.queue = []) :
      ProcessorMove s .recvNone { s with processor := .loopReturned }
  | cancelled (pc : s.processor = .selecting) (told : s.cancelled = true) :
      ProcessorMove s .processorCancelled { s with processor := .finalDrain }
  | tryRecv (packet : Packet) (rest : List Packet) (pc : s.processor = .finalDrain)
      (queue : s.queue = packet :: rest) :
      ProcessorMove s .tryRecv { s with queue := rest, processor := .finalHandling packet }
  | drained (pc : s.processor = .finalDrain) (queue : s.queue = []) :
      ProcessorMove s .tryRecv { s with processor := .loopReturned }
  | handle (packet : Packet) (pc : s.processor = .handling packet) :
      ProcessorMove s .handle { s.handlePacket packet with processor := .selecting }
  | finalHandle (packet : Packet) (pc : s.processor = .finalHandling packet) :
      ProcessorMove s .handle { s.handlePacket packet with processor := .finalDrain }
  | spinReturn (pc : s.processor = .loopReturned) :
      ProcessorMove s .spinReturn { s with processor := .spinReturned }

theorem readerMove_of_stepReader {cfg : ServerConfig} {s s' : Server} {a : ServerAction}
    (h : s.stepReader cfg a = some s') : ReaderMove cfg s a s' := by
  cases a with
  | readerTop =>
    simp only [stepReader] at h
    split at h <;> cases h
    rename_i pc
    exact .top pc
  | readerAcquire =>
    simp only [stepReader] at h
    split at h <;> cases h
    · rename_i pc
      exact .acquire pc
    · rename_i pc
      exact .drainAcquire pc
  | readerRead result =>
    simp only [stepReader] at h
    split at h <;> cases h
    · rename_i pc
      exact .read _ _ _ pc
    · rename_i pc
      exact .reset _ pc
    · rename_i pc
      exact .failed _ pc
    · rename_i pc
      exact .drainRead _ _ _ pc
    all_goals
      rename_i pc
      exact .drained _ _ pc nofun
  | readerCancelled =>
    simp only [stepReader] at h
    split at h
    · rename_i pc
      split at h <;> cases h
      rename_i told
      exact .cancelled _ pc told
    · cases h
  | readerSend =>
    simp only [stepReader] at h
    split at h
    · rename_i packet pc
      rcases eq : s.trySendPacket cfg packet with ⟨t, _ | _⟩ <;> rw [eq] at h <;> cases h
      · exact .send packet pc t false eq
      · exact .send packet pc t true eq
    · rename_i packet pc
      rcases eq : s.trySendPacket cfg packet with ⟨t, _ | _⟩ <;> rw [eq] at h <;> cases h
      · exact .drainSend packet pc t false eq
      · exact .drainSend packet pc t true eq
    · cases h
  | readerClosedCheck =>
    simp only [stepReader] at h
    split at h <;> cases h
    rename_i pc
    exact .closedCheck pc
  | _ => cases h

theorem processorMove_of_stepProcessor {s s' : Server} {a : ServerAction}
    (h : s.stepProcessor a = some s') : ProcessorMove s a s' := by
  cases a with
  | recv =>
    simp only [stepProcessor] at h
    split at h <;> cases h
    rename_i pc queue
    exact .recv _ _ pc queue
  | recvNone =>
    simp only [stepProcessor] at h
    split at h <;> cases h
    rename_i pc queue _
    exact .recvNone pc queue
  | processorCancelled =>
    simp only [stepProcessor] at h
    split at h
    · rename_i pc
      split at h <;> cases h
      rename_i told
      exact .cancelled pc told
    · cases h
  | tryRecv =>
    simp only [stepProcessor] at h
    split at h <;> cases h
    · rename_i pc queue
      exact .tryRecv _ _ pc queue
    · rename_i pc queue
      exact .drained pc queue
  | handle =>
    simp only [stepProcessor] at h
    split at h <;> cases h
    · rename_i pc
      exact .handle _ pc
    · rename_i pc
      exact .finalHandle _ pc
  | spinReturn =>
    simp only [stepProcessor] at h
    split at h <;> cases h
    rename_i pc
    exact .spinReturn pc
  | _ => cases h

/-! ## What a step does to the queue -/

/-- The part of the state the queue's accounting is about is the same. -/
structure SameQueue (s s' : Server) : Prop where
  queue : s'.queue = s.queue
  accepted : s'.accepted = s.accepted
  processed : s'.processed = s.processed
  processor : s'.processor = s.processor

theorem SameQueue.refl (s : Server) : SameQueue s s := ⟨rfl, rfl, rfl, rfl⟩

theorem sameQueue_poolSend (s : Server) (buf : Bytes) : SameQueue s (s.poolSend buf) := by
  unfold poolSend
  split
  · exact .refl s
  · exact ⟨rfl, rfl, rfl, rfl⟩

theorem sameQueue_received (s : Server) (buf datagram : Bytes) (source : MessageSource)
    (empty : ReaderPc) (send : Packet → ReaderPc) :
    SameQueue s (s.received buf datagram source empty send) := by
  unfold received
  split
  · obtain ⟨hq, ha, hp, hc⟩ := sameQueue_poolSend s ‹Bytes›
    exact ⟨hq, ha, hp, hc⟩
  · exact ⟨rfl, rfl, rfl, rfl⟩

/-- `try_send` puts the packet on a queue with room whose receiver lives, and else leaves the
queue as it is. -/
theorem trySendPacket_cases (cfg : ServerConfig) (s : Server) (packet : Packet) :
    (s.processor ≠ .spinReturned ∧ s.queue.length < cfg.queueSize ∧
      s.trySendPacket cfg packet =
        ({ s with queue := s.queue ++ [packet], accepted := s.accepted ++ [packet] }, true)) ∨
    ((s.processor = .spinReturned ∨ cfg.queueSize ≤ s.queue.length) ∧
      SameQueue s (s.trySendPacket cfg packet).1) := by
  unfold trySendPacket
  by_cases closed : s.processor = .spinReturned
  · right
    simpa [isClosed, closed] using sameQueue_poolSend s packet.buf
  by_cases room : s.queue.length < cfg.queueSize
  · left
    simp [isClosed, closed, room]
  · right
    obtain ⟨hq, ha, hp, hc⟩ := sameQueue_poolSend { s with dropped := s.dropped + 1 } packet.buf
    simpa [isClosed, closed, room, Nat.le_of_not_lt room] using ⟨hq, ha, hp, hc⟩

/-- Everything a step can do to the queue and to the processor. -/
inductive Effect (cfg : ServerConfig) (s : Server) : ServerAction → Server → Prop
  | quiet {a s'} (other : a ≠ .readerSend) (same : SameQueue s s') : Effect cfg s a s'
  | refused {s'} (why : s.processor = .spinReturned ∨ cfg.queueSize ≤ s.queue.length)
      (same : SameQueue s s') : Effect cfg s .readerSend s'
  | push {s'} (packet : Packet) (open_ : s.processor ≠ .spinReturned)
      (queue : s'.queue = s.queue ++ [packet]) (accepted : s'.accepted = s.accepted ++ [packet])
      (processed : s'.processed = s.processed) (processor : s'.processor = s.processor) :
      Effect cfg s .readerSend s'
  | take {a s'} (packet : Packet) (before : ¬ s.processor.Finished)
      (after : ¬ s'.processor.Finished) (free : s.processor.inHand = [])
      (queue : s.queue = packet :: s'.queue) (hand : s'.processor.inHand = [packet])
      (accepted : s'.accepted = s.accepted) (processed : s'.processed = s.processed) :
      Effect cfg s a s'
  | handled {a s'} (packet : Packet) (before : ¬ s.processor.Finished)
      (after : ¬ s'.processor.Finished) (hand : s.processor.inHand = [packet])
      (free : s'.processor.inHand = []) (queue : s'.queue = s.queue)
      (accepted : s'.accepted = s.accepted) (processed : s'.processed = s.processed ++ [packet]) :
      Effect cfg s a s'
  | move {a s'} (finish : s.processor.Finished → s'.processor.Finished)
      (drained : s'.processor.Finished → s.processor.Finished ∨ s.queue = [])
      (free : s.processor.inHand = []) (free' : s'.processor.inHand = [])
      (queue : s'.queue = s.queue) (accepted : s'.accepted = s.accepted)
      (processed : s'.processed = s.processed) (other : a ≠ .readerSend) : Effect cfg s a s'

theorem SameQueue.withReader {s s' : Server} (same : SameQueue s s') (reader : ReaderPc) :
    SameQueue s { s' with reader } :=
  ⟨same.queue, same.accepted, same.processed, same.processor⟩

theorem effect_trySendPacket (cfg : ServerConfig) (s : Server) (packet : Packet)
    (reader : ReaderPc) :
    Effect cfg s .readerSend { (s.trySendPacket cfg packet).1 with reader } := by
  rcases trySendPacket_cases cfg s packet with ⟨open_, _, sent⟩ | ⟨why, same⟩
  · rw [sent]
    exact .push packet open_ rfl rfl rfl rfl
  · exact .refused why (same.withReader reader)

theorem effect_of_stepReader {cfg : ServerConfig} {s s' : Server} {a : ServerAction}
    (h : s.stepReader cfg a = some s') : Effect cfg s a s' := by
  cases readerMove_of_stepReader h with
  | top | closedCheck => exact .quiet (by simp) ((SameQueue.refl s).withReader _)
  | acquire | drainAcquire => exact .quiet (by simp) ⟨rfl, rfl, rfl, rfl⟩
  | read | drainRead => exact .quiet (by simp) (sameQueue_received ..)
  | reset => exact .quiet (by simp) ((SameQueue.refl s).withReader _)
  | failed | drained | cancelled =>
    exact .quiet (by simp) ((sameQueue_poolSend ..).withReader _)
  | send packet pc t open_ eq | drainSend packet pc t open_ eq =>
    have sent := effect_trySendPacket cfg s packet
    rw [eq] at sent
    exact sent _

theorem sameQueue_handlePacket (s : Server) (packet : Packet) :
    SameQueue { s with processed := s.processed ++ [packet] } (s.handlePacket packet) := by
  simp only [handlePacket]
  split
  · exact sameQueue_poolSend ..
  · exact .refl _

theorem effect_of_stepProcessor {cfg : ServerConfig} {s s' : Server} {a : ServerAction}
    (h : s.stepProcessor a = some s') : Effect cfg s a s' := by
  cases processorMove_of_stepProcessor h with
  | recv packet rest pc queue | tryRecv packet rest pc queue =>
    exact .take packet (by simp [pc]) id (by simp [pc]) queue rfl rfl rfl
  | recvNone pc queue | drained pc queue =>
    exact .move (fun _ => trivial) (fun _ => .inr queue) (by simp [pc]) rfl rfl rfl rfl (by simp)
  | cancelled pc =>
    exact .move (by simp [pc]) False.elim (by simp [pc]) rfl rfl rfl rfl (by simp)
  | handle packet pc | finalHandle packet pc =>
    have same := sameQueue_handlePacket s packet
    exact .handled packet (by simp [pc]) id (by simp [pc]) rfl same.queue same.accepted
      same.processed
  | spinReturn pc =>
    exact .move (fun _ => trivial) (fun _ => .inl (by simp [pc])) (by simp [pc]) rfl rfl rfl rfl
      (by simp)

theorem effect_of_step {cfg : ServerConfig} {s s' : Server} {a : ServerAction}
    (h : step cfg s a = some s') : Effect cfg s a s' := by
  cases a with
  | cancel =>
    cases h
    exact .quiet (by simp) ⟨rfl, rfl, rfl, rfl⟩
  | readerTop => exact effect_of_stepReader h
  | readerAcquire => exact effect_of_stepReader h
  | readerRead result => exact effect_of_stepReader h
  | readerCancelled => exact effect_of_stepReader h
  | readerSend => exact effect_of_stepReader h
  | readerClosedCheck => exact effect_of_stepReader h
  | _ => exact effect_of_stepProcessor h

/-! ## What a run preserves -/

theorem SameQueue.accounted {s s' : Server} (same : SameQueue s s') (start : s.Accounted) :
    s'.Accounted := by
  unfold Accounted at start ⊢
  rw [same.accepted, same.processed, same.processor, same.queue, start]

theorem Accounted.queued {s s' : Server} {packets : List Packet} (start : s.Accounted)
    (queue : s'.queue = s.queue ++ packets) (accepted : s'.accepted = s.accepted ++ packets)
    (processed : s'.processed = s.processed) (processor : s'.processor = s.processor) :
    s'.Accounted := by
  unfold Accounted at start ⊢
  rw [accepted, processed, processor, queue, start, List.append_assoc _ s.queue]

theorem accounted_effect {cfg : ServerConfig} {s s' : Server} {a : ServerAction}
    (start : s.Accounted) (effect : Effect cfg s a s') : s'.Accounted := by
  cases effect with
  | quiet _ same => exact same.accounted start
  | refused _ same => exact same.accounted start
  | push packet _ queue accepted processed processor =>
    exact start.queued queue accepted processed processor
  | take packet _ _ free queue hand accepted processed =>
    unfold Accounted at start ⊢
    rw [accepted, processed, hand, start, free, queue]
    simp
  | handled packet _ _ hand free queue accepted processed =>
    unfold Accounted at start ⊢
    rw [accepted, processed, free, queue, start, hand]
    simp
  | move _ _ free free' queue accepted processed _ =>
    unfold Accounted at start ⊢
    rw [accepted, processed, free', queue, start, free]

theorem accounted_step {cfg : ServerConfig} {s s' : Server} {a : ServerAction}
    (start : s.Accounted) (h : step cfg s a = some s') : s'.Accounted :=
  accounted_effect start (effect_of_step h)

theorem drained_step {cfg : ServerConfig} {s s' : Server} {a : ServerAction}
    (start : s.processor.Finished → s.queue = []) (timely : NotLate s a)
    (h : step cfg s a = some s') : s'.processor.Finished → s'.queue = [] := by
  intro finished
  cases effect_of_step h with
  | quiet _ same => exact same.queue ▸ start (same.processor ▸ finished)
  | refused _ same => exact same.queue ▸ start (same.processor ▸ finished)
  | push packet open_ _ _ _ processor =>
    rw [processor] at finished
    have last : s.processor = .loopReturned := by
      cases pc : s.processor with
      | loopReturned => rfl
      | spinReturned => exact absurd pc open_
      | _ =>
        rw [pc] at finished
        exact finished.elim
    exact absurd ⟨rfl, last⟩ timely
  | take _ _ after => exact absurd finished after
  | handled _ _ after => exact absurd finished after
  | move _ drained _ _ queue =>
    rw [queue]
    exact (drained finished).elim start id

theorem stranded_step {cfg : ServerConfig} {s s' : Server} {a : ServerAction}
    (start : s.Stranded) (h : step cfg s a = some s') : s'.Stranded := by
  obtain ⟨finished, waiting⟩ := start
  cases effect_of_step h with
  | quiet _ same => exact ⟨same.processor ▸ finished, same.queue ▸ waiting⟩
  | refused _ same => exact ⟨same.processor ▸ finished, same.queue ▸ waiting⟩
  | push packet _ queue _ _ processor => exact ⟨processor ▸ finished, by simp [queue]⟩
  | take _ before => exact absurd finished before
  | handled _ before => exact absurd finished before
  | move finish _ _ _ queue => exact ⟨finish finished, queue ▸ waiting⟩

/-- A late `try_send` leaves a packet behind: either its own, or the queue was full already. -/
theorem stranded_of_late {cfg : ServerConfig} {s s' : Server} {a : ServerAction}
    (late : ¬ NotLate s a) (h : step cfg s a = some s') : s'.Stranded := by
  obtain ⟨rfl, pc⟩ := not_not.1 late
  cases effect_of_step h with
  | quiet other => exact absurd rfl other
  | refused why same =>
    have full : cfg.queueSize ≤ s.queue.length := why.resolve_left (by simp [pc])
    have waiting : s.queue ≠ [] :=
      List.ne_nil_of_length_pos (Nat.lt_of_lt_of_le cfg.queueSize_pos full)
    exact ⟨by simp [same.processor, pc], same.queue ▸ waiting⟩
  | push packet _ queue _ _ processor =>
    exact ⟨by simp [processor, pc], by simp [queue]⟩
  | take _ before => exact absurd (by simp [pc]) before
  | handled _ before => exact absurd (by simp [pc]) before
  | move _ _ _ _ _ _ _ other => exact absurd rfl other

theorem accounted_run {cfg : ServerConfig} {actions : List ServerAction} {s : Server}
    (run : Runs.exec (step cfg) init actions = some s) : s.Accounted :=
  Runs.invariant (fun _ _ _ => accounted_step) (rfl : init.Accounted) run

/-- When `spin` has returned, the accepted packets are processed, each once and in order, exactly
when no packet was offered to the queue between the last look of `process_loop` and the drop of
the receiver. -/
theorem processed_eq_accepted_iff (cfg : ServerConfig) (actions : List ServerAction) (s : Server)
    (run : Runs.exec (step cfg) init actions = some s) (returned : s.processor = .spinReturned) :
    s.processed = s.accepted ↔ Runs.Along (step cfg) NotLate init actions := by
  have accounted : s.accepted = s.processed ++ s.queue := by
    simpa [Accounted, returned] using accounted_run run
  constructor
  · intro all
    have gone : s.queue = [] := by
      rw [all] at accounted
      exact List.self_eq_append_right.1 accounted
    exact Runs.along_of_not (fun _ _ _ _ _ => trivial : ∀ _ _ _, True → _ → True)
      (fun _ _ _ _ => stranded_of_late) (fun _ _ _ => stranded_step) trivial run
      (fun stranded => stranded.2 gone)
  · intro timely
    have drained : s.processor.Finished → s.queue = [] :=
      Runs.invariant_along (P := fun s => s.processor.Finished → s.queue = [])
        (fun _ _ _ => drained_step) (fun _ => rfl) timely run
    rw [accounted, drained (by simp [returned]), List.append_nil]

/-- Two datagrams; the second is in the reader's hand when `cancel` comes. -/
def untilCancel (source : MessageSource) : List ServerAction :=
  [.readerTop, .readerAcquire, .readerRead (.datagram [97, 58, 49, 124, 99] source), .readerSend,
    .recv, .handle, .readerAcquire, .readerRead (.datagram [98, 58, 50, 124, 99] source), .cancel]

/-- The reader puts the second packet on the queue before the final drain ends. -/
theorem processed_eq_accepted_iff_timely :
    ∃ s, Runs.exec (step (.new ⟨some 8, some 1⟩)) init
        (untilCancel (.network "127.0.0.1:9") ++
          [.processorCancelled, .readerSend, .tryRecv, .handle, .tryRecv, .spinReturn]) = some s ∧
      (s.processed = s.accepted ↔ Runs.Along (step (.new ⟨some 8, some 1⟩)) NotLate init
        (untilCancel (.network "127.0.0.1:9") ++
          [.processorCancelled, .readerSend, .tryRecv, .handle, .tryRecv, .spinReturn])) :=
  ⟨_, rfl, processed_eq_accepted_iff _ _ _ rfl rfl⟩

/-- The final drain finds the queue empty, the reader then puts its packet on it, and `spin`
returns. -/
theorem spin_strands_accepted_packet :
    ¬ ∀ (cfg : ServerConfig) (actions : List ServerAction) (s : Server),
      Runs.exec (step cfg) init actions = some s → s.processor = .spinReturned →
        s.processed = s.accepted := by
  intro all
  have lost := all (.new ⟨some 8, some 1⟩)
    (untilCancel (.network "127.0.0.1:9") ++
      [.processorCancelled, .tryRecv, .readerSend, .spinReturn]) _ rfl rfl
  exact absurd lost (by decide)

end Server

end ServerlessComponents.Dogstatsd
