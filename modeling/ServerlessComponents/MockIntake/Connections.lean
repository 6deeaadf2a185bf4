import Mathlib.Algebra.GroupWithZero.Nat
import ServerlessComponents.Library.Runs

/-!
# Shutting down the mock intake

The accept loop of `start_with_options` with the connection tasks it spawns, the registry that holds
their handles and `Drop`, interleaved as on several threads. A task runs in polls from one `await`
to the next; `abort` takes effect between two polls. `Drop` sends the signal, aborts the accept loop
and drains the registry, in this order and while the loop may be in the middle of a poll.

## Main results

* `connections_tracked` — until `Drop` has drained the registry, every running connection is in it
  or about to be, and none is aborted; from then on every running connection is aborted.
* `shutdown_quiesces` — from then on, when the accept loop is not in a poll, nothing is accepted and
  no connection is polled again, and the intake comes to rest after a bounded number of steps.
-/
namespace ServerlessComponents.MockIntake

/-! ## Tasks and the registry -/

inductive TaskPhase where
  /-- At an `await`, between two polls. -/
  | waiting
  | polling
  | finished
  deriving DecidableEq, Repr

/-- A connection task. -/
structure Connection where
  phase : TaskPhase := .waiting
  abortRequested : Bool := false
  deriving DecidableEq, Repr

/-- What `tokio::spawn` starts. -/
def Connection.spawned : Connection := {}

def Connection.abort (c : Connection) : Connection := { c with abortRequested := true }

/-- `JoinHandle::is_finished`. -/
def Connection.isFinished (c : Connection) : Bool := c.phase = .finished

/-- The handles, by the number of the connection. -/
structure ConnectionRegistry where
  shuttingDown : Bool := false
  handles : List Nat := []
  deriving DecidableEq, Repr

/-- Where the accept loop is. -/
inductive AcceptLoop where
  /-- At its `select!`, between two polls. -/
  | selecting
  /-- At the `sleep` after an accept error. -/
  | sleeping
  /-- At its `select!`, in a poll. -/
  | polling
  /-- It has spawned a connection and is about to lock the registry. -/
  | registering (connection : Nat)
  | ended
  deriving DecidableEq, Repr

/-- How far `Drop` is. -/
inductive DropPhase where
  | notBegun
  | sent
  | aborted
  | drained
  deriving DecidableEq, Repr

structure Serving where
  connections : List Connection := []
  registry : ConnectionRegistry := {}
  acceptLoop : AcceptLoop := .selecting
  /-- `abort` has been called on the accept loop. -/
  abortRequested : Bool := false
  shutdownSent : Bool := false
  drop : DropPhase := .notBegun
  deriving DecidableEq, Repr

inductive ServingAction where
  | loopPolled
  | accept
  | acceptError
  | register
  | loopSeesShutdown
  | loopPollEnds
  | loopCancelled
  | polled (connection : Nat)
  | pollEnds (connection : Nat)
  /-- `serve_connection` returns or panics. -/
  | finishes (connection : Nat)
  | cancelled (connection : Nat)
  | dropSends
  | dropAborts
  | dropDrains
  deriving DecidableEq, Repr

namespace Serving

def setPhase (s : Serving) (i : Nat) (phase : TaskPhase) : Serving :=
  { s with connections := s.connections.modify i ({ · with phase }) }

/-- The part of the accept loop that holds the lock of the registry. -/
def register (s : Serving) (i : Nat) : Serving :=
  if s.registry.shuttingDown then
    { s with connections := s.connections.modify i .abort, acceptLoop := .polling }
  else
    let running (j : Nat) : Bool := !(s.connections[j]?.any (·.isFinished))
    { s with
      registry := { s.registry with handles := s.registry.handles.filter running ++ [i] }
      acceptLoop := .polling }

/-- The part of `Drop` that holds the lock of the registry. -/
def drainHandles (s : Serving) : Serving :=
  { s with
    connections := s.registry.handles.foldl (fun connections i => connections.modify i .abort)
      s.connections
    registry := ⟨true, []⟩
    drop := .drained }

def step (s : Serving) : ServingAction → Option Serving
  | .loopPolled =>
    match s.acceptLoop, s.abortRequested with
    | .selecting, false | .sleeping, false => some { s with acceptLoop := .polling }
    | _, _ => none
  | .accept =>
    match s.acceptLoop with
    | .polling =>
      some { s with
        connections := s.connections ++ [.spawned]
        acceptLoop := .registering s.connections.length }
    | _ => none
  | .acceptError =>
    match s.acceptLoop with
    | .polling => some { s with acceptLoop := .sleeping }
    | _ => none
  | .register =>
    match s.acceptLoop with
    | .registering i => some (s.register i)
    | _ => none
  | .loopSeesShutdown =>
    match s.acceptLoop, s.shutdownSent with
    | .polling, true => some { s with acceptLoop := .ended }
    | _, _ => none
  | .loopPollEnds =>
    match s.acceptLoop with
    | .polling => some { s with acceptLoop := .selecting }
    | _ => none
  | .loopCancelled =>
    match s.acceptLoop, s.abortRequested with
    | .selecting, true | .sleeping, true => some { s with acceptLoop := .ended }
    | _, _ => none
  | .polled i =>
    match s.connections[i]? with
    | some ⟨.waiting, false⟩ => some (s.setPhase i .polling)
    | _ => none
  | .pollEnds i =>
    match s.connections[i]? with
    | some ⟨.polling, _⟩ => some (s.setPhase i .waiting)
    | _ => none
  | .finishes i =>
    match s.connections[i]? with
    | some ⟨.polling, _⟩ => some (s.setPhase i .finished)
    | _ => none
  | .cancelled i =>
    match s.connections[i]? with
    | some ⟨.waiting, true⟩ => some (s.setPhase i .finished)
    | _ => none
  | .dropSends =>
    match s.drop with
    | .notBegun => some { s with shutdownSent := true, drop := .sent }
    | _ => none
  | .dropAborts =>
    match s.drop with
    | .sent => some { s with abortRequested := true, drop := .aborted }
    | _ => none
  | .dropDrains =>
    match s.drop with
    | .aborted => some s.drainHandles
    | _ => none

/-- The intake after `start_with_options`. -/
def init : Serving := {}

/-! ## Where the connections are known -/

/-- The connection can still run. -/
def Running (s : Serving) (i : Nat) : Prop :=
  ∃ c, s.connections[i]? = some c ∧ c.isFinished = false

/-- `abort` has been called on the connection. -/
def Aborted (s : Serving) (i : Nat) : Prop :=
  ∃ c, s.connections[i]? = some c ∧ c.abortRequested = true

/-- A running connection is aborted, in the registry or about to be registered; before `Drop` has
the registry none is aborted, and afterwards the registry stays empty. -/
structure Tracked (s : Serving) : Prop where
  known : ∀ i, s.Running i → s.Aborted i ∨ i ∈ s.registry.handles ∨ s.acceptLoop = .registering i
  spared : s.drop ≠ .drained → ∀ i, ¬ s.Aborted i
  shuttingDown : s.registry.shuttingDown = true ↔ s.drop = .drained
  drained : s.drop = .drained → s.registry.handles = []
  loopAborted : s.drop = .aborted ∨ s.drop = .drained → s.abortRequested = true
  ordered : s.registry.handles.Pairwise (· < ·)
  bounded : ∀ i ∈ s.registry.handles, i < s.connections.length
  newest : ∀ i, s.acceptLoop = .registering i →
    i < s.connections.length ∧ ∀ j ∈ s.registry.handles, j < i

theorem tracked_init : init.Tracked := by
  constructor <;> simp [init, Running, Aborted]

section Tracked

variable {s s' : Serving} {i j : Nat}

/-- Only the accept loop has moved, and it is not registering. -/
theorem Tracked.loop (start : s.Tracked) {acceptLoop : AcceptLoop}
    (before : ∀ i, s.acceptLoop ≠ .registering i) (after : ∀ i, acceptLoop ≠ .registering i) :
    { s with acceptLoop }.Tracked := by
  refine ⟨?_, start.spared, start.shuttingDown, start.drained, start.loopAborted, start.ordered,
    start.bounded, fun i h => absurd h (after i)⟩
  intro i running
  rcases start.known i running with h | h | h
  · exact .inl h
  · exact .inr (.inl h)
  · exact absurd h (before i)

theorem getElem?_setPhase (s : Serving) (i j : Nat) (phase : TaskPhase) :
    (s.setPhase i phase).connections[j]? =
      if i = j then s.connections[j]?.map ({ · with phase }) else s.connections[j]? := by
  simp only [setPhase, List.getElem?_modify]
  split <;> simp

theorem aborted_setPhase {phase : TaskPhase} : (s.setPhase i phase).Aborted j ↔ s.Aborted j := by
  simp only [Aborted, getElem?_setPhase]
  split
  · simp
  · rfl

theorem running_of_setPhase {phase : TaskPhase} (before : s.Running i)
    (running : (s.setPhase i phase).Running j) : s.Running j := by
  obtain ⟨c, found, going⟩ := running
  rw [getElem?_setPhase] at found
  split at found
  next same => exact same ▸ before
  next => exact ⟨c, found, going⟩

/-- A connection that can still run goes on. -/
theorem Tracked.setPhase (start : s.Tracked) {phase : TaskPhase} (before : s.Running i) :
    (s.setPhase i phase).Tracked := by
  refine ⟨?_, ?_, start.shuttingDown, start.drained, start.loopAborted, start.ordered, ?_, ?_⟩
  · intro j running
    rw [aborted_setPhase]
    exact start.known j (running_of_setPhase before running)
  · intro early j
    rw [aborted_setPhase]
    exact start.spared early j
  · simpa [Serving.setPhase] using start.bounded
  · simpa [Serving.setPhase] using start.newest

/-- `Drop` goes on to one of its first two calls. -/
theorem Tracked.setDrop (start : s.Tracked) {drop : DropPhase} {shutdownSent abortRequested : Bool}
    (before : s.drop ≠ .drained) (after : drop ≠ .drained)
    (aborts : drop = .aborted → abortRequested = true) :
    { s with drop, shutdownSent, abortRequested }.Tracked := by
  refine ⟨start.known, fun _ => start.spared before, ?_, fun h => absurd h after, ?_,
    start.ordered, start.bounded, start.newest⟩
  · exact ⟨fun h => absurd (start.shuttingDown.1 h) before, fun h => absurd h after⟩
  · exact fun h => aborts (h.resolve_right after)

theorem Tracked.accept (start : s.Tracked) (before : ∀ i, s.acceptLoop ≠ .registering i) :
    { s with
      connections := s.connections ++ [Connection.spawned]
      acceptLoop := .registering s.connections.length }.Tracked := by
  have old {i : Nat} {c : Connection}
      (found : (s.connections ++ [Connection.spawned])[i]? = some c) :
      s.connections[i]? = some c ∨ i = s.connections.length ∧ c = .spawned := by
    rw [List.getElem?_append] at found
    split at found
    next => exact .inl found
    next => grind
  refine ⟨?_, ?_, start.shuttingDown, start.drained, start.loopAborted, start.ordered, ?_, ?_⟩
  · rintro i ⟨c, found, going⟩
    rcases old found with found | ⟨rfl, -⟩
    · rcases start.known i ⟨c, found, going⟩ with ⟨c', found', aborted⟩ | h | h
      · exact .inl ⟨c', by grind, aborted⟩
      · exact .inr (.inl h)
      · exact absurd h (before i)
    · exact .inr (.inr rfl)
  · rintro early i ⟨c, found, aborted⟩
    rcases old found with found | ⟨-, rfl⟩
    · exact start.spared early i ⟨c, found, aborted⟩
    · cases aborted
  · intro i mem
    have := start.bounded i mem
    simp only [List.length_append, List.length_singleton]
    omega
  · rintro i ⟨⟩
    exact ⟨by simp, start.bounded⟩

/-! ### The registry -/

theorem getElem?_abort (connections : List Connection) (i j : Nat) :
    (connections.modify i .abort)[j]? =
      connections[j]?.map fun c => if i = j then c.abort else c := by
  rw [List.getElem?_modify]
  rfl

/-- Draining the registry aborts the connections in it and no others. -/
theorem getElem?_abortAll (handles : List Nat) (connections : List Connection) (j : Nat) :
    (handles.foldl (fun connections i => connections.modify i .abort) connections)[j]? =
      connections[j]?.map fun c => if j ∈ handles then c.abort else c := by
  induction handles generalizing connections with
  | nil => simp
  | cons i rest ih =>
    rw [List.foldl_cons, ih, getElem?_abort, Option.map_map]
    congr 1
    funext c
    by_cases same : i = j
    · by_cases later : j ∈ rest <;> simp [same, later, Connection.abort]
    · simp [same, Ne.symm same]

theorem length_abortAll (handles : List Nat) (connections : List Connection) :
    (handles.foldl (fun connections i => connections.modify i .abort) connections).length =
      connections.length := by
  induction handles generalizing connections with
  | nil => rfl
  | cons i rest ih => rw [List.foldl_cons, ih, List.length_modify]

theorem Tracked.drainHandles (start : s.Tracked) (phase : s.drop = .aborted) :
    s.drainHandles.Tracked := by
  refine ⟨?_, fun early => absurd rfl early, by simp [Serving.drainHandles],
    fun _ => rfl, fun _ => start.loopAborted (.inl phase), List.Pairwise.nil, nofun, ?_⟩
  · rintro i ⟨c, found, going⟩
    simp only [Serving.drainHandles, getElem?_abortAll] at found
    obtain ⟨c', found', rfl⟩ := Option.map_eq_some_iff.1 found
    have running : s.Running i := ⟨c', found', by split at going <;> exact going⟩
    rcases start.known i running with aborted | mem | registering
    · exact absurd aborted (start.spared (by simp [phase]) i)
    · refine .inl ⟨_, by simp only [Serving.drainHandles, getElem?_abortAll, found']; rfl, ?_⟩
      simp [mem, Connection.abort]
    · exact .inr (.inr registering)
  · intro i registering
    refine ⟨?_, nofun⟩
    simp only [Serving.drainHandles, length_abortAll]
    exact (start.newest i registering).1

theorem Tracked.register (start : s.Tracked) (registering : s.acceptLoop = .registering i) :
    (s.register i).Tracked := by
  obtain ⟨lt, newest⟩ := start.newest i registering
  unfold Serving.register
  split
  next shuttingDown =>
    -- `Drop` has drained the registry, so the connection is aborted here
    have drained := start.shuttingDown.1 shuttingDown
    refine ⟨?_, fun early => absurd drained early, start.shuttingDown, start.drained,
      start.loopAborted, start.ordered, ?_, nofun⟩
    · rintro j ⟨c, found, going⟩
      simp only [getElem?_abort] at found
      obtain ⟨c', found', rfl⟩ := Option.map_eq_some_iff.1 found
      refine .inl ⟨_, by simp only [getElem?_abort, found']; rfl, ?_⟩
      by_cases same : i = j
      · simp [same, Connection.abort]
      · simp only [same, if_false] at going ⊢
        rcases start.known j ⟨c', found', going⟩ with ⟨c, found, aborted⟩ | mem | here
        · rwa [Option.some.inj (found.symm.trans found')] at aborted
        · simp [start.drained drained] at mem
        · exact absurd (AcceptLoop.registering.inj (registering.symm.trans here)) same
    · simpa using start.bounded
  next going_ =>
    refine ⟨?_, start.spared, start.shuttingDown, ?_, start.loopAborted, ?_, ?_, nofun⟩
    · rintro j ⟨c, found, going⟩
      rcases start.known j ⟨c, found, going⟩ with aborted | mem | here
      · exact .inl aborted
      · -- `retain` keeps the handles of what has not finished
        refine .inr (.inl (List.mem_append_left _ (List.mem_filter.2 ⟨mem, ?_⟩)))
        simp only at found
        simp [found, going]
      · rw [AcceptLoop.registering.inj (registering.symm.trans here)]
        exact .inr (.inl (by simp))
    · exact fun drained => absurd (start.shuttingDown.2 drained) going_
    · refine List.pairwise_append.2 ⟨start.ordered.filter _, List.pairwise_singleton .., ?_⟩
      intro a mem b mem'
      rw [List.mem_singleton.1 mem']
      exact newest a (List.mem_filter.1 mem).1
    · intro j mem
      rcases List.mem_append.1 mem with old | new
      · exact start.bounded j (List.mem_filter.1 old).1
      · exact List.mem_singleton.1 new ▸ lt

end Tracked

/-! ## Runs -/

section Runs

variable {s s' : Serving} {a : ServingAction}

/-- A connection that a step finds in a phase other than finished can still run. -/
theorem running_of_found {i : Nat} {phase : TaskPhase} {aborted : Bool}
    (found : s.connections[i]? = some ⟨phase, aborted⟩) (going : phase ≠ .finished) :
    s.Running i :=
  ⟨_, found, by simpa [Connection.isFinished] using going⟩

theorem tracked_step (start : s.Tracked) (h : s.step a = some s') : s'.Tracked := by
  cases a with
  | loopPolled | acceptError | loopSeesShutdown | loopPollEnds | loopCancelled =>
    simp only [step] at h
    split at h <;> cases h
    all_goals exact start.loop (by simp [*]) (by simp)
  | accept =>
    simp only [step] at h
    split at h <;> cases h
    next polling => exact start.accept (by simp [polling])
  | register =>
    simp only [step] at h
    split at h <;> cases h
    next i registering => exact start.register registering
  | polled i | pollEnds i | finishes i | cancelled i =>
    simp only [step] at h
    split at h <;> cases h
    next found => exact start.setPhase (running_of_found found (by simp))
  | dropSends =>
    simp only [step] at h
    split at h <;> cases h
    next phase => exact start.setDrop (by simp [phase]) (by simp) nofun
  | dropAborts =>
    simp only [step] at h
    split at h <;> cases h
    next phase => exact start.setDrop (by simp [phase]) (by simp) fun _ => rfl
  | dropDrains =>
    simp only [step] at h
    split at h <;> cases h
    next phase => exact start.drainHandles phase

theorem tracked_run {actions : List ServingAction} (run : Runs.exec step init actions = some s) :
    s.Tracked :=
  Runs.invariant (fun _ _ _ => tracked_step) tracked_init run

theorem aborted_register {i : Nat} (shuttingDown : s.registry.shuttingDown = true)
    (lt : i < s.connections.length) : (s.register i).Aborted i := by
  refine ⟨s.connections[i].abort, ?_, rfl⟩
  simp [register, shuttingDown, lt]

/-- In every run, until `Drop` has drained the registry, no connection is aborted and every running
one has a handle in the registry, kept once, or is about to be registered; from then on every
running connection is aborted, or will be when the accept loop registers it. -/
theorem connections_tracked (actions : List ServingAction) (s : Serving)
    (run : Runs.exec step init actions = some s) :
    (s.drop ≠ .drained → (∀ i, ¬ s.Aborted i) ∧ s.registry.handles.Nodup ∧
      ∀ i, s.Running i → i ∈ s.registry.handles ∨ s.acceptLoop = .registering i) ∧
    (s.drop = .drained → s.registry.handles = [] ∧ ∀ i, s.Running i →
      s.Aborted i ∨ s.acceptLoop = .registering i ∧ (s.register i).Aborted i) := by
  have tracked := tracked_run run
  refine ⟨?_, ?_⟩
  · intro early
    have spared := tracked.spared early
    refine ⟨spared, tracked.ordered.imp Nat.ne_of_lt, ?_⟩
    exact fun i running => (tracked.known i running).resolve_left (spared i)
  · intro drained
    have empty := tracked.drained drained
    refine ⟨empty, ?_⟩
    intro i running
    rcases tracked.known i running with aborted | mem | registering
    · exact .inl aborted
    · simp [empty] at mem
    · exact .inr ⟨registering, aborted_register (tracked.shuttingDown.2 drained)
        (tracked.newest i registering).1⟩

/-! ## Coming to rest -/

/-- The ends of polls and cancellations that a task has left once it is aborted. -/
def stepsLeft (c : Connection) : Nat :=
  match c.phase with
  | .waiting => 1
  | .polling => 2
  | .finished => 0

/-- `Drop` has drained the registry and the accept loop is between two polls or has ended, so that
every running connection is aborted. -/
structure Quiet (s : Serving) : Prop where
  loop : s.acceptLoop = .selecting ∨ s.acceptLoop = .sleeping ∨ s.acceptLoop = .ended
  drained : s.drop = .drained
  loopAborted : s.abortRequested = true
  aborted : ∀ i, s.Running i → s.Aborted i

/-- A bound on the steps that are left. -/
def left (s : Serving) : Nat :=
  (s.connections.map stepsLeft).sum + if s.acceptLoop = .ended then 0 else 1

theorem quiet_of_drained (tracked : s.Tracked) (drained : s.drop = .drained)
    (loop : s.acceptLoop = .selecting ∨ s.acceptLoop = .sleeping ∨ s.acceptLoop = .ended) :
    s.Quiet := by
  refine ⟨loop, drained, tracked.loopAborted (.inr drained), ?_⟩
  intro i running
  rcases tracked.known i running with aborted | mem | registering
  · exact aborted
  · simp [tracked.drained drained] at mem
  · simp [registering] at loop

theorem sum_modify {l : List Connection} {i : Nat} {c : Connection} {f : Connection → Connection}
    (found : l[i]? = some c) :
    ((l.modify i f).map stepsLeft).sum + stepsLeft c =
      (l.map stepsLeft).sum + stepsLeft (f c) := by
  induction l generalizing i with
  | nil => cases found
  | cons first rest ih =>
    cases i with
    | zero =>
      cases found
      simp only [List.modify_zero_cons, List.map_cons, List.sum_cons]
      omega
    | succ i =>
      have := ih (i := i) (by simpa using found)
      simp only [List.modify_succ_cons, List.map_cons, List.sum_cons]
      omega

/-- A connection goes on to a phase with less left. -/
theorem quiet_setPhase (start : s.Quiet) {i : Nat} {c : Connection} (phase : TaskPhase)
    (found : s.connections[i]? = some c) (before : s.Running i)
    (less : stepsLeft { c with phase } < stepsLeft c) :
    (s.setPhase i phase).Quiet ∧ (s.setPhase i phase).left < s.left := by
  refine ⟨⟨start.loop, start.drained, start.loopAborted, ?_⟩, ?_⟩
  · intro j running
    rw [aborted_setPhase]
    exact start.aborted j (running_of_setPhase before running)
  · have sums : ((s.setPhase i phase).connections.map stepsLeft).sum + stepsLeft c =
        (s.connections.map stepsLeft).sum + stepsLeft { c with phase } := sum_modify found
    exact Nat.add_lt_add_right (by omega) _

/-- After the shutdown a step takes one of the steps that are left; it accepts nothing and polls no
connection. -/
theorem quiet_step (start : s.Quiet) (h : s.step a = some s') :
    s'.Quiet ∧ s'.left < s.left ∧ s'.connections.length = s.connections.length ∧
      ∀ i, a ≠ .polled i := by
  have loop := start.loop
  cases a with
  | loopPolled =>
    simp only [step, start.loopAborted] at h
    split at h <;> simp_all
  | accept | acceptError | register | loopSeesShutdown | loopPollEnds =>
    simp only [step] at h
    split at h <;> simp_all
  | loopCancelled =>
    simp only [step] at h
    split at h <;> cases h
    all_goals
      refine ⟨⟨.inr (.inr rfl), start.drained, start.loopAborted, start.aborted⟩, ?_, rfl, nofun⟩
      simp [left, *]
  | polled i =>
    simp only [step] at h
    split at h
    next found =>
      obtain ⟨c, found', aborted⟩ := start.aborted i (running_of_found found (by simp))
      rw [Option.some.inj (found'.symm.trans found)] at aborted
      cases aborted
    next => cases h
  | pollEnds i =>
    simp only [step] at h
    split at h <;> cases h
    next found =>
      obtain ⟨quiet, less⟩ := quiet_setPhase start .waiting found
        (running_of_found found (by simp)) (by simp [stepsLeft])
      exact ⟨quiet, less, by simp [setPhase], nofun⟩
  | finishes i | cancelled i =>
    simp only [step] at h
    split at h <;> cases h
    next found =>
      obtain ⟨quiet, less⟩ := quiet_setPhase start .finished found
        (running_of_found found (by simp)) (by simp [stepsLeft])
      exact ⟨quiet, less, by simp [setPhase], nofun⟩
  | dropSends | dropAborts | dropDrains =>
    simp only [step, start.drained] at h
    cases h

theorem quiet_run (start : s.Quiet) {later : List ServingAction} {t : Serving}
    (run : Runs.exec step s later = some t) :
    t.Quiet ∧ later.length + t.left ≤ s.left ∧ t.connections.length = s.connections.length ∧
      ∀ i, .polled i ∉ later := by
  induction later generalizing s with
  | nil =>
    cases run
    exact ⟨start, by simp, rfl, by simp⟩
  | cons a rest ih =>
    obtain ⟨s', hs, run⟩ := Runs.exec_cons_eq_some.1 run
    obtain ⟨quiet, less, same, notPolled⟩ := quiet_step start hs
    obtain ⟨quiet', bound, same', notPolled'⟩ := ih quiet run
    refine ⟨quiet', ?_, same'.trans same, ?_⟩
    · rw [List.length_cons]
      omega
    · intro i mem
      rcases List.mem_cons.1 mem with now | later
      · exact notPolled i now.symm
      · exact notPolled' i later

theorem left_le (s : Serving) : s.left ≤ 2 * s.connections.length + 1 := by
  have each (connections : List Connection) :
      (connections.map stepsLeft).sum ≤ 2 * connections.length := by
    induction connections with
    | nil => simp
    | cons c rest ih =>
      have : stepsLeft c ≤ 2 := by
        unfold stepsLeft
        split <;> omega
      simp only [List.map_cons, List.sum_cons, List.length_cons]
      omega
  have := each s.connections
  unfold left
  split <;> omega

/-- While something is running, or the accept loop has not ended, a step is possible. -/
theorem rests_of_stuck (quiet : s.Quiet) (stuck : ∀ a, s.step a = none) :
    s.acceptLoop = .ended ∧ ∀ i, ¬ s.Running i := by
  refine ⟨?_, ?_⟩
  · have cancelled := stuck .loopCancelled
    rcases quiet.loop with loop | loop | loop
    · simp [step, loop, quiet.loopAborted] at cancelled
    · simp [step, loop, quiet.loopAborted] at cancelled
    · exact loop
  · rintro i ⟨c, found, going⟩
    obtain ⟨c', found', aborted⟩ := quiet.aborted i ⟨c, found, going⟩
    obtain rfl : c = c' := Option.some.inj (found.symm.trans found')
    have cancelled := stuck (.cancelled i)
    have pollEnds := stuck (.pollEnds i)
    obtain ⟨phase, abortRequested⟩ := c
    cases phase <;> simp_all [step, Connection.isFinished]

/-- In every run, once `Drop` has drained the registry and the accept loop is not in a poll:
whatever happens later, nothing is accepted, no connection is polled again (one that is in a poll
comes to the end of it), and there are at most two steps for each connection and one for the accept
loop. When no step is left, the accept loop and all connections have ended. -/
theorem shutdown_quiesces (actions : List ServingAction) (s : Serving)
    (run : Runs.exec step init actions = some s) (drained : s.drop = .drained)
    (loop : s.acceptLoop = .selecting ∨ s.acceptLoop = .sleeping ∨ s.acceptLoop = .ended)
    (later : List ServingAction) (t : Serving) (run' : Runs.exec step s later = some t) :
    t.connections.length = s.connections.length ∧ (∀ i, .polled i ∉ later) ∧
      later.length ≤ 2 * s.connections.length + 1 ∧
      ((∀ a, t.step a = none) → t.acceptLoop = .ended ∧ ∀ i, ¬ t.Running i) := by
  obtain ⟨quiet, bound, same, notPolled⟩ :=
    quiet_run (quiet_of_drained (tracked_run run) drained loop) run'
  have := left_le s
  exact ⟨same, notPolled, by omega, rests_of_stuck quiet⟩

/-- One connection is being served and one is accepted while `Drop` runs; its registration aborts
it. -/
def dropWhileAccepting : List ServingAction :=
  [.loopPolled, .accept, .register, .loopPollEnds, .polled 0, .loopPolled, .accept, .dropSends,
    .dropAborts, .dropDrains, .register, .loopPollEnds]

theorem shutdown_quiesces_two :
    ∃ s t, Runs.exec step init dropWhileAccepting = some s ∧
      Runs.exec step s [.pollEnds 0, .cancelled 1, .loopCancelled, .cancelled 0] = some t ∧
      t.connections.length = 2 ∧ 4 ≤ 2 * s.connections.length + 1 :=
  ⟨_, _, rfl, rfl, rfl, (shutdown_quiesces dropWhileAccepting _ rfl rfl (.inl rfl)
    [.pollEnds 0, .cancelled 1, .loopCancelled, .cancelled 0] _ rfl).2.2.1⟩

theorem connections_tracked_two :
    (∃ s, Runs.exec step init (dropWhileAccepting.take 9) = some s ∧ s.connections.length = 2 ∧
      (∀ i, ¬ s.Aborted i) ∧ s.registry.handles.Nodup ∧
      ∀ i, s.Running i → i ∈ s.registry.handles ∨ s.acceptLoop = .registering i) ∧
    ∃ s, Runs.exec step init dropWhileAccepting = some s ∧ s.Running 0 ∧ s.Running 1 ∧
      s.registry.handles = [] ∧ ∀ i, s.Running i →
        s.Aborted i ∨ s.acceptLoop = .registering i ∧ (s.register i).Aborted i := by
  have before := (connections_tracked (dropWhileAccepting.take 9) _ rfl).1 (by decide)
  have after := (connections_tracked dropWhileAccepting _ rfl).2 rfl
  exact ⟨⟨_, rfl, rfl, before⟩, _, rfl, ⟨_, rfl, rfl⟩, ⟨_, rfl, rfl⟩, after⟩

end Runs

end Serving

end ServerlessComponents.MockIntake
