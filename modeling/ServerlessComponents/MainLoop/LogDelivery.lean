import ServerlessComponents.LogsAgent.Intake
import ServerlessComponents.MainLoop.LogRetries

/-!
# Log entries from the intake to the endpoints

The log intake of `server.rs`, its aggregator service and the log arm of the main loop of `main.rs`
run side by side: while the arm resends the failed builders, waits for `get_batches` or ships what
it got, requests go on arriving. Every entry a request was answered 200 for stays in one place: on
its way, in a batch at hand, or in a batch that is delivered, dropped or kept for the next flush.
-/
namespace ServerlessComponents.MainLoop

open LogsAgent
open Dogstatsd (StatusCode)

/-- Where `flush` stands in the log arm. -/
inductive LogArm where
  | idle
  /-- The retries are sent again and `get_batches` is called. -/
  | waiting (redrive : Nat → Sends)
  | shipping (redrive : Nat → Sends) (batches : List Bytes)

/-- The intake, the arm with its ledger, and what each drained batch met at the additional
endpoints. -/
structure LogDelivery (E : Type) where
  intake : Intake E := {}
  loop : LogLoop := {}
  arm : LogArm := .idle
  additional : List (List (Sending RequestBuilder)) := []

namespace LogDelivery

inductive Action where
  | handle (req : HttpRequest)
  /-- The flush interval ticks. -/
  | tick (redrive : Nat → Sends)
  /-- The aggregator service takes its next command. -/
  | serve
  /-- The batches are shipped to every endpoint. -/
  | ship (primary : Nat → Sends) (additional : Nat → Nat → Sends)

section Step

variable {E : Type} (fromSlice : Bytes → Except String (List E))
  (toString : E → Except String Bytes) (config : LogFlusherConfig) (zstd : Compress)

/-- The batches at hand. -/
def inHand (s : LogDelivery E) : List Bytes :=
  match s.arm with
  | .shipping _ batches => batches
  | _ => []

/-- The arm gets the batches a served command returned, if it waits for them. -/
def LogArm.receive (batches : List Bytes) : LogArm → LogArm
  | .waiting redrive => .shipping redrive batches
  | arm => arm

/-- The arm holds on to its requester until it is answered, for a started arm of `select!` runs to
its end. -/
def serve (s : LogDelivery E) : Option (LogDelivery E) :=
  (s.intake.serve toString true).map fun intake =>
    match s.intake.commands with
    | .getBatches _ :: _ =>
      { s with
        intake
        arm := LogArm.receive (intake.returned.drop s.intake.returned.length) s.arm }
    | _ => { s with intake }

def step (s : LogDelivery E) : Action → Option (LogDelivery E)
  | .handle req =>
    (s.intake.step fromSlice toString (.handle req)).map fun intake => { s with intake }
  | .tick redrive =>
    match s.arm with
    | .idle =>
      some { s with
        intake := s.intake.send (.getBatches s.intake.exchanges.length), arm := .waiting redrive }
    | _ => none
  | .serve => s.serve toString
  | .ship primary additional =>
    match s.arm with
    | .shipping redrive batches =>
      let world : FlushWorld := ⟨.ok batches, redrive, primary, additional⟩
      let flushed := flush config zstd s.loop.cycle s.loop.pendingLogRetries world
      some { s with
        loop := s.loop.step config zstd world, arm := .idle
        additional := s.additional ++ flushed.additional }
    | _ => none

/-! ## What the state says about the entries -/

/-- A batch of the given entries, as it is sent to the primary endpoint. -/
def sentAs (group : List (Numbered Bytes)) : RequestBuilder :=
  primaryBuilder config zstd (frame (group.map Numbered.item))

/-- The requests a batch makes at the additional endpoints. -/
def copies (batch : Bytes) : List RequestBuilder :=
  config.additionalEndpoints.map (additionalBuilder config zstd batch)

/-- The places of the entries of the requests answered 200. -/
structure Places where
  delivered : List (List (Numbered Bytes))
  dropped : List (List (Numbered Bytes))
  pending : List (List (Numbered Bytes))
  inHand : List (List (Numbered Bytes))
  onTheWay : List (Numbered Bytes)

/-- The entries of each place are what the requests there carry; every entry has one place, and is
no longer on its way when the service has answered a `get_batches` called after its request was.
Every batch shipped was also sent to each additional endpoint, once and at most three times over. -/
structure Accounted (s : LogDelivery E) (places : Places) : Prop where
  delivered : s.loop.delivered.map Numbered.item = places.delivered.map (sentAs config zstd)
  dropped : s.loop.dropped.map Numbered.item = places.dropped.map (sentAs config zstd)
  pending : s.loop.pendingLogRetries.map Numbered.item = places.pending.map (sentAs config zstd)
  inHand : s.inHand = places.inHand.map fun group => frame (group.map Numbered.item)
  everyEntry :
    ((places.delivered ++ places.dropped ++ places.pending ++ places.inHand).flatten ++
      places.onTheWay).Perm (Intake.contributions fromSlice toString s.intake.exchanges)
  once : ((Intake.contributions fromSlice toString s.intake.exchanges).map Numbered.number).Nodup
  late : ∀ entry ∈ places.onTheWay, s.intake.drained ≤ entry.round
  copied : s.additional.map (List.map Sending.builder) =
    s.loop.drained.map fun batch => copies config zstd batch.item
  copiedThrice : ∀ sendings ∈ s.additional, ∀ sending ∈ sendings,
    sending.attempts ≤ maxFlushAttempts

end Step

/-! ## The invariant -/

section Invariant

variable {E : Type} (fromSlice : Bytes → Except String (List E))
  (toString : E → Except String Bytes) (config : LogFlusherConfig) (zstd : Compress)

def isCall : AggregatorCommand E → Bool
  | .getBatches _ => true
  | _ => false

/-- The calls of `get_batches` on the queue. -/
def calls (commands : List (AggregatorCommand E)) : Nat := commands.countP isCall

/-- What the intake returned was drained by a flush or is at hand; the arm is the only caller of
`get_batches`. -/
structure Inv (s : LogDelivery E) : Prop where
  intake : ∃ groups queued onTheWay,
    Intake.Inv fromSlice toString s.intake groups queued onTheWay
  ledger : s.loop.Inv config zstd
  drained : s.intake.returned = s.loop.drained.map Numbered.item ++ s.inHand
  called : calls s.intake.commands = if s.arm matches .waiting _ then 1 else 0
  copied : s.additional.map (List.map Sending.builder) =
    s.loop.drained.map fun batch => copies config zstd batch.item
  copiedThrice : ∀ sendings ∈ s.additional, ∀ sending ∈ sendings,
    sending.attempts ≤ maxFlushAttempts

theorem inv_new : Inv fromSlice toString config zstd ({} : LogDelivery E) :=
  ⟨⟨[], [], [], Intake.inv_new fromSlice toString⟩, ⟨⟨List.nodup_nil, .refl _⟩, by simp⟩, rfl, rfl,
    rfl, by simp⟩

variable {fromSlice toString config zstd} {s s' : LogDelivery E}

/-- What the service does with one command. -/
structure Served (intake intake' : Intake E) (command : AggregatorCommand E)
    (batches : List Bytes) : Prop where
  next : intake.commands = command :: intake'.commands
  returned : intake'.returned = intake.returned ++ batches
  handed : batches ≠ [] → isCall command = true
  answered : ∀ answered, command = .getBatches answered → intake'.drained = answered
  exchanges : intake'.exchanges = intake.exchanges

theorem exists_served {intake intake' : Intake E} (serving : .shutdown ∉ intake.commands)
    (h : intake.serve toString true = some intake') :
    ∃ command batches, Served intake intake' command batches := by
  simp only [Intake.serve] at h
  split at h
  next =>
    split at h
    next => cases h
    next entries rest commands =>
      cases h
      exact ⟨_, [], commands, by simp, by simp, by simp, rfl⟩
    next answered rest commands =>
      obtain ⟨⟨batches, last⟩, -, rfl⟩ := Option.map_eq_some_iff.1 h
      exact ⟨_, batches, commands, rfl, fun _ => rfl, fun _ e => by cases e; rfl, rfl⟩
    next rest commands => simp [commands] at serving
  next => cases h

/-- A queue with a command on it is served. -/
theorem serve_isSome {groups : List (List (Numbered Bytes))}
    {queued onTheWay : List (Numbered Bytes)} {intake : Intake E}
    (inv : Intake.Inv fromSlice toString intake groups queued onTheWay)
    (some_ : intake.commands ≠ []) : ∃ intake', intake.serve toString true = some intake' := by
  rw [Intake.serve, if_pos inv.running]
  split
  next none_ => exact absurd none_ some_
  next => exact ⟨_, rfl⟩
  next =>
    obtain ⟨⟨batches, last⟩, all⟩ := Option.isSome_iff_exists.1
      (Aggregator.getAllBatches_terminates inv.valid (Nat.lt_succ_self _))
    rw [all]
    exact ⟨_, rfl⟩
  next => exact ⟨_, rfl⟩

theorem Inv.handle {req : HttpRequest} (inv : Inv fromSlice toString config zstd s)
    (h : step fromSlice toString config zstd s (.handle req) = some s') :
    Inv fromSlice toString config zstd s' := by
  obtain ⟨⟨groups, queued, onTheWay, intakeInv⟩, ledger, drained, called, copied, thrice⟩ := inv
  simp only [step] at h
  obtain ⟨intake, moved, rfl⟩ := Option.map_eq_some_iff.1 h
  obtain ⟨onTheWay', intakeInv'⟩ := intakeInv.handle req moved
  have same : intake.returned = s.intake.returned ∧
      calls intake.commands = calls s.intake.commands := by
    simp only [Intake.step, Option.some.injEq] at moved
    subst moved
    split
    · exact ⟨rfl, rfl⟩
    · simp [Intake.send, intakeInv.running, calls, isCall]
  exact ⟨⟨groups, queued, onTheWay', intakeInv'⟩, ledger, same.1.trans drained,
    same.2.trans called, copied, thrice⟩

theorem Inv.tick {redrive : Nat → Sends} (inv : Inv fromSlice toString config zstd s)
    (h : step fromSlice toString config zstd s (.tick redrive) = some s') :
    Inv fromSlice toString config zstd s' := by
  obtain ⟨⟨groups, queued, onTheWay, intakeInv⟩, ledger, drained, called, copied, thrice⟩ := inv
  simp only [step] at h
  split at h
  next idle =>
    cases h
    have sent := intakeInv.send (.getBatches s.intake.exchanges.length) rfl nofun
      (fun _ e => by cases e; rfl)
    refine ⟨⟨groups, queued, onTheWay, sent⟩, ledger, ?_, ?_, copied, thrice⟩
    · simpa [Intake.send, intakeInv.running, inHand, idle] using drained
    · simpa [Intake.send, intakeInv.running, calls, isCall, idle] using called
  next => cases h

theorem Inv.serve (inv : Inv fromSlice toString config zstd s)
    (h : step fromSlice toString config zstd s .serve = some s') :
    Inv fromSlice toString config zstd s' := by
  obtain ⟨⟨groups, queued, onTheWay, intakeInv⟩, ledger, drained, called, copied, thrice⟩ := inv
  obtain ⟨intake, moved, rfl⟩ := Option.map_eq_some_iff.1 h
  have intakeInv' := intakeInv.serve moved
  obtain ⟨command, batches, served⟩ := exists_served intakeInv.serving moved
  have returned := served.returned
  rw [served.next] at called ⊢
  cases command with
  | getBatches answered =>
    -- the arm waits, for it has called
    cases arm : s.arm with
    | waiting redrive =>
      have none_ : calls intake.commands = 0 := by
        simpa [calls, isCall, List.countP_cons, arm] using called
      refine ⟨intakeInv', ledger, ?_, by simpa [LogArm.receive] using none_, copied, thrice⟩
      simpa [inHand, LogArm.receive, arm, returned] using drained
    | idle => simp [calls, isCall, List.countP_cons, arm] at called
    | shipping redrive batches => simp [calls, isCall, List.countP_cons, arm] at called
  | _ =>
    obtain rfl : batches = [] := by
      by_contra some_
      simpa [isCall] using served.handed some_
    refine ⟨intakeInv', ledger, ?_, ?_, copied, thrice⟩
    · simpa [returned, inHand] using drained
    · simpa [calls, isCall, List.countP_cons] using called

theorem Inv.ship {primary : Nat → Sends} {additional : Nat → Nat → Sends}
    (inv : Inv fromSlice toString config zstd s)
    (h : step fromSlice toString config zstd s (.ship primary additional) = some s') :
    Inv fromSlice toString config zstd s' := by
  obtain ⟨intakeInv, ledger, drained, called, copied, thrice⟩ := inv
  simp only [step] at h
  split at h
  next redrive batches arm =>
    cases h
    refine ⟨intakeInv, LogLoop.inv_step ledger _, ?_, ?_, ?_, ?_⟩
    · simpa [inHand, arm, LogLoop.step, LogLoop.taken] using drained
    · simpa [arm] using called
    · have now : (batches.mapIdx fun i batch => config.additionalEndpoints.mapIdx fun j endpoint =>
          sendWithRetry (additional i j) (additionalBuilder config zstd batch endpoint)).map
            (List.map Sending.builder) = batches.map (copies config zstd) := by
        apply List.ext_getElem <;> simp [copies, sendWithRetry, List.ext_getElem_iff]
      have batch_ : (Numbered.ofRound s.loop.cycle batches).map
          (fun batch => copies config zstd batch.item) = batches.map (copies config zstd) := by
        rw [← Function.comp_def, ← List.map_map, Numbered.map_item_ofRound]
      simp only [flush, LogLoop.step, LogLoop.taken, List.map_append, copied, now, batch_]
    · intro sendings h sending mem
      rcases List.mem_append.1 h with old | new
      · exact thrice sendings old sending mem
      · simp only [flush, List.mem_mapIdx] at new
        obtain ⟨i, _, rfl⟩ := new
        obtain ⟨j, _, rfl⟩ := List.mem_mapIdx.1 mem
        exact (sendWithRetry_endsAs ..).1
  next => cases h

theorem inv_step {a : Action} (inv : Inv fromSlice toString config zstd s)
    (h : step fromSlice toString config zstd s a = some s') :
    Inv fromSlice toString config zstd s' := by
  cases a with
  | handle => exact inv.handle h
  | tick => exact inv.tick h
  | serve => exact inv.serve h
  | ship => exact inv.ship h

/-! ## Where the entries are -/

/-- The batches of a ledger that lists them with their entries are those of three lists of
groups. -/
theorem exists_places {drained : List (Numbered Bytes)} {groups : List (List (Numbered Bytes))}
    {delivered dropped pending : List (Numbered RequestBuilder)}
    (framed : drained.map Numbered.item =
      groups.map fun group => frame (group.map Numbered.item))
    (ledger : (drained.map (LogLoop.builderFor config zstd)).Perm
      (delivered ++ dropped ++ pending)) :
    ∃ groups₁ groups₂ groups₃, delivered.map Numbered.item = groups₁.map (sentAs config zstd) ∧
      dropped.map Numbered.item = groups₂.map (sentAs config zstd) ∧
      pending.map Numbered.item = groups₃.map (sentAs config zstd) ∧
      groups.Perm (groups₁ ++ groups₂ ++ groups₃) := by
  have sent : ((groups.map (sentAs config zstd))).Perm
      ((delivered ++ dropped ++ pending).map Numbered.item) := by
    have items := ledger.map Numbered.item
    have builders : (drained.map (LogLoop.builderFor config zstd)).map Numbered.item =
        (drained.map Numbered.item).map (primaryBuilder config zstd) := by
      simp [LogLoop.builderFor, Numbered.map]
    rw [builders, framed, List.map_map] at items
    exact items
  obtain ⟨shuffled, spelled, perm⟩ := Numbered.exists_perm_of_map sent
  simp only [List.map_append] at spelled
  obtain ⟨first, groups₃, rfl, spelled, third⟩ := List.map_eq_append_iff.1 spelled
  obtain ⟨groups₁, groups₂, rfl, one, two⟩ := List.map_eq_append_iff.1 spelled
  exact ⟨groups₁, groups₂, groups₃, one.symm, two.symm, third.symm, perm⟩

theorem Inv.accounted (inv : Inv fromSlice toString config zstd s) :
    ∃ places, Accounted fromSlice toString config zstd s places := by
  obtain ⟨⟨groups, queued, onTheWay, intake⟩, ledger, drained, called, copied, thrice⟩ := inv
  have framed := intake.framed
  rw [drained] at framed
  obtain ⟨done, hand, rfl, hdone, hhand⟩ := List.map_eq_append_iff.1 framed.symm
  obtain ⟨delivered, dropped, pending, one, two, three, perm⟩ :=
    exists_places hdone.symm ledger.ledger
  have delivers := intake.delivers
  refine ⟨⟨delivered, dropped, pending, hand, queued ++ onTheWay⟩, one, two, three, hhand.symm, ?_,
    Numbered.nodup_number_ofRounds 0 _, ?_, copied, thrice⟩
  · have all : ((done ++ hand).flatten ++ (queued ++ onTheWay)) =
        Intake.contributions fromSlice toString s.intake.exchanges := by
      rw [← intake.accounted, List.append_assoc]
    rw [← all]
    exact ((perm.symm.append_right hand).flatten).append_right _
  · intro entry mem
    by_contra early
    have all := intake.accounted
    have there : entry ∈ Intake.contributions fromSlice toString s.intake.exchanges := by
      rw [← all, List.append_assoc]
      exact List.mem_append_right _ mem
    have nodup : (Intake.contributions fromSlice toString s.intake.exchanges).Nodup :=
      (Numbered.nodup_number_ofRounds 0 _).of_map
    rw [← all, List.append_assoc] at nodup
    exact (List.disjoint_of_nodup_append nodup) (delivers.complete entry there (by omega)) mem

/-- In any order of requests, commands served by the aggregator service and steps of the log arm,
every small enough entry of a request answered 200 is in exactly one place: on its way, in a batch
at hand, or in a batch that was delivered, dropped or kept for the next flush, under the request
that a flush makes of the batch. -/
theorem entries_accounted (fromSlice : Bytes → Except String (List E))
    (toString : E → Except String Bytes) (config : LogFlusherConfig) (zstd : Compress)
    (actions : List Action) (s : LogDelivery E)
    (run : Runs.exec (step fromSlice toString config zstd) {} actions = some s) :
    ∃ places, Accounted fromSlice toString config zstd s places :=
  (Runs.invariant (fun _ _ _ inv h => inv_step inv h)
    (inv_new fromSlice toString config zstd) run).accounted

/-! ## A flush that meets no failure -/

/-- The first attempt gets through. -/
def GetsThrough (sends : Sends) : Prop :=
  sends.tryClone 1 = true ∧ ∃ status, sends.send 1 = .ok status ∧ status.isSuccess = true

omit fromSlice toString in
theorem fate_of_getsThrough {R : Type} {sends : Sends} (through : GetsThrough sends) (builder : R) :
    (sendWithRetry sends builder).fate = .delivered := by
  obtain ⟨clone, status, answer, success⟩ := through
  rw [sendWithRetry, sendAttempt]
  simp [clone, answer, success]

/-- Every command ahead of the call is served, then the call itself. -/
theorem Inv.answered {redrive : Nat → Sends} (ahead : List (AggregatorCommand E)) (answered : Nat)
    (inv : Inv fromSlice toString config zstd s) (arm : s.arm = .waiting redrive)
    (commands : s.intake.commands = ahead ++ [.getBatches answered]) :
    ∃ s' batches, Runs.exec (step fromSlice toString config zstd) s
        (List.replicate (ahead.length + 1) .serve) = some s' ∧
      Inv fromSlice toString config zstd s' ∧ s'.arm = .shipping redrive batches ∧
      s'.loop = s.loop ∧ s'.intake.exchanges = s.intake.exchanges ∧
      s'.intake.drained = answered := by
  induction ahead generalizing s with
  | nil =>
    obtain ⟨groups, queued, onTheWay, intakeInv⟩ := inv.intake
    obtain ⟨intake, moved⟩ := serve_isSome intakeInv (by simp [commands])
    obtain ⟨command, batches, served⟩ := exists_served intakeInv.serving moved
    have next : step fromSlice toString config zstd s .serve = some { s with
        intake, arm := .shipping redrive (intake.returned.drop s.intake.returned.length) } := by
      simp [step, LogDelivery.serve, moved, commands, arm, LogArm.receive]
    have last : command = .getBatches answered := by
      have := served.next.symm.trans commands
      simp at this
      exact this.1
    exact ⟨_, _, by simp [Runs.exec, next], inv.serve next, rfl, rfl, served.exchanges,
      served.answered answered last⟩
  | cons first rest ih =>
    obtain ⟨groups, queued, onTheWay, intakeInv⟩ := inv.intake
    obtain ⟨intake, moved⟩ := serve_isSome intakeInv (by simp [commands])
    obtain ⟨command, batches, served⟩ := exists_served intakeInv.serving moved
    obtain ⟨rfl, later⟩ := List.cons.inj (served.next.symm.trans commands)
    -- a second call on the queue is one too many
    have next : step fromSlice toString config zstd s .serve = some { s with intake } := by
      simp only [step, LogDelivery.serve, moved, commands, List.cons_append, Option.map_some]
      cases command with
      | getBatches other =>
        have called := inv.called
        simp [calls, isCall, List.countP_cons, commands, arm] at called
      | _ => rfl
    obtain ⟨s', handed, run, inv', arm', loop, exchanges, drained⟩ :=
      ih (inv.serve next) arm later
    refine ⟨s', handed, ?_, inv', arm', loop, exchanges.trans served.exchanges, drained⟩
    rw [List.length_cons, List.replicate_succ]
    simpa [Runs.exec, next] using run

/-- Where nothing is at hand or kept for a retry, and the last answered call of `get_batches` came
after every request, all entries are delivered or dropped. -/
theorem Accounted.settled {places : Places}
    (accounted : Accounted fromSlice toString config zstd s places) (idle : s.arm = .idle)
    (noneLeft : s.loop.pendingLogRetries = [])
    (drained : s.intake.drained = s.intake.exchanges.length) :
    (places.delivered ++ places.dropped).flatten.Perm
      (Intake.contributions fromSlice toString s.intake.exchanges) := by
  have pending : places.pending = [] := by simpa [noneLeft] using accounted.pending.symm
  have inHand : places.inHand = [] := by
    simpa [LogDelivery.inHand, idle] using accounted.inHand.symm
  have onTheWay : places.onTheWay = [] := by
    refine List.eq_nil_iff_forall_not_mem.2 fun entry mem => ?_
    have late := accounted.late entry mem
    have there := accounted.everyEntry.mem_iff.1 (List.mem_append_right _ mem)
    obtain ⟨-, items, found, -⟩ := Numbered.round_of_mem_ofRounds 0 _ there
    have lt := (List.getElem?_eq_some_iff.1 found).1
    simp at lt
    omega
  simpa [pending, inHand, onTheWay] using accounted.everyEntry

/-- A flush whose sendings to the primary endpoint all get through keeps and drops nothing. -/
theorem ship_of_getsThrough (config : LogFlusherConfig) (zstd : Compress) (loop : LogLoop)
    (batches : List Bytes) {redrive primary : Nat → Sends} (additional : Nat → Nat → Sends)
    (again : ∀ i, GetsThrough (redrive i)) (through : ∀ i, GetsThrough (primary i)) :
    (loop.step config zstd ⟨.ok batches, redrive, primary, additional⟩).pendingLogRetries = [] ∧
      (loop.step config zstd ⟨.ok batches, redrive, primary, additional⟩).dropped =
        loop.dropped := by
  have all : ∀ sending ∈ (flush config zstd loop.cycle loop.pendingLogRetries
      ⟨.ok batches, redrive, primary, additional⟩).toPrimary, sending.fate = .delivered := by
    intro sending mem
    simp only [Flushed.toPrimary, flush, List.mem_append, List.mem_mapIdx] at mem
    obtain ⟨i, _, rfl⟩ | ⟨i, _, rfl⟩ := mem
    · exact fate_of_getsThrough (again i) _
    · exact fate_of_getsThrough (through i) _
  have none_ {fate : Fate} (other : fate ≠ .delivered) : (flush config zstd loop.cycle
      loop.pendingLogRetries ⟨.ok batches, redrive, primary, additional⟩).withFate fate = [] := by
    simp only [Flushed.withFate, List.map_eq_nil_iff, List.filter_eq_nil_iff]
    intro sending mem
    simpa [all sending mem] using other.symm
  constructor
  · simp [LogLoop.step, flush_returned, none_]
  · simp [LogLoop.step, none_]

/-- Whatever happened before, a tick of the idle arm runs to its end: the service answers every
command on the queue, and the arm is idle again whatever the sendings met. If those to the primary
endpoint get through, nothing is left behind: the retries of earlier flushes and every entry of an
answered request are delivered, those given up on a permanent error before it apart. -/
theorem good_flush_settles (fromSlice : Bytes → Except String (List E))
    (toString : E → Except String Bytes) (config : LogFlusherConfig) (zstd : Compress)
    (actions : List Action) (s : LogDelivery E)
    (run : Runs.exec (step fromSlice toString config zstd) {} actions = some s)
    (idle : s.arm = .idle) (redrive primary : Nat → Sends) (additional : Nat → Nat → Sends) :
    ∃ s', Runs.exec (step fromSlice toString config zstd) s
        (.tick redrive :: List.replicate (s.intake.commands.length + 1) .serve ++
          [.ship primary additional]) = some s' ∧ s'.arm = .idle ∧
      ((∀ i, GetsThrough (redrive i)) → (∀ i, GetsThrough (primary i)) →
        s'.loop.pendingLogRetries = [] ∧ s'.loop.dropped = s.loop.dropped ∧ ∃ places,
          Accounted fromSlice toString config zstd s' places ∧
          (places.delivered ++ places.dropped).flatten.Perm
            (Intake.contributions fromSlice toString s.intake.exchanges)) := by
  have inv := Runs.invariant (fun _ _ _ inv h => inv_step inv h)
    (inv_new fromSlice toString config zstd) run
  obtain ⟨groups, queued, onTheWay, intakeInv⟩ := inv.intake
  have ticked : step fromSlice toString config zstd s (.tick redrive) = some { s with
      intake := s.intake.send (.getBatches s.intake.exchanges.length)
      arm := .waiting redrive } := by
    simp [step, idle]
  obtain ⟨s₁, batches, served, inv₁, arm, loop, exchanges, drained⟩ :=
    (inv.tick ticked).answered s.intake.commands s.intake.exchanges.length rfl
      (by simp [Intake.send, intakeInv.running])
  have sameExchanges : s₁.intake.exchanges = s.intake.exchanges := by
    simpa [Intake.send, intakeInv.running] using exchanges
  obtain ⟨s₂, shipped, idle₂, loop₂, intake₂⟩ :
      ∃ s₂, step fromSlice toString config zstd s₁ (.ship primary additional) = some s₂ ∧
        s₂.arm = .idle ∧
        s₂.loop = s₁.loop.step config zstd ⟨.ok batches, redrive, primary, additional⟩ ∧
        s₂.intake = s₁.intake := by
    simp only [step, arm]
    exact ⟨_, rfl, rfl, rfl, rfl⟩
  refine ⟨s₂, ?_, idle₂, ?_⟩
  · rw [List.cons_append, Runs.exec, ticked, Option.bind_some, Runs.exec_append, served,
      Option.bind_some, Runs.exec, shipped]
    rfl
  · intro again through
    obtain ⟨noneLeft, dropped⟩ :=
      ship_of_getsThrough config zstd s₁.loop batches additional again through
    rw [← loop₂] at noneLeft dropped
    obtain ⟨places, accounted⟩ := (inv₁.ship shipped).accounted
    have late : s₂.intake.drained = s₂.intake.exchanges.length := by
      rw [intake₂, drained, sameExchanges]
    refine ⟨noneLeft, dropped.trans (congrArg LogLoop.dropped loop), places, accounted, ?_⟩
    simpa [intake₂, sameExchanges] using accounted.settled idle₂ noneLeft late

/-- No additional endpoint and no compression. -/
def plainConfig : LogFlusherConfig where
  apiKey := "key"
  site := "datadoghq.com"
  mode := .datadog
  additionalEndpoints := []
  useCompression := false
  compressionLevel := 3
  flushTimeout := 5

/-- Every attempt is answered with this status. -/
def answering (status : StatusCode) : Sends := ⟨fun _ => true, fun _ => .ok status⟩

/-- A request is answered and flushed to an intake that is unavailable; another comes meanwhile. -/
def unavailableFlush : List Action :=
  [.handle ⟨"POST", "/v1/input", some "3", .ok [91, 49, 93]⟩, .tick fun _ => answering ⟨503⟩,
    .serve, .handle ⟨"POST", "/v1/input", some "3", .ok [91, 49, 93]⟩, .serve,
    .ship (fun _ => answering ⟨503⟩) fun _ _ => answering ⟨503⟩]

theorem entries_accounted_unavailable :
    ∃ s, Runs.exec (step Intake.parseOne .ok plainConfig fun _ => some) {} unavailableFlush =
        some s ∧
      ∃ places, Accounted Intake.parseOne .ok plainConfig (fun _ => some) s places :=
  ⟨_, rfl, entries_accounted Intake.parseOne .ok plainConfig _ unavailableFlush _ rfl⟩

theorem good_flush_settles_unavailable :
    ∃ s s', Runs.exec (step Intake.parseOne .ok plainConfig fun _ => some) {} unavailableFlush =
        some s ∧ s.loop.pendingLogRetries.length = 1 ∧
      Runs.exec (step Intake.parseOne .ok plainConfig fun _ => some) s
        (.tick (fun _ => answering ⟨202⟩) :: List.replicate (s.intake.commands.length + 1) .serve ++
          [.ship (fun _ => answering ⟨202⟩) fun _ _ => answering ⟨202⟩]) = some s' ∧
      s'.arm = .idle ∧ s'.loop.pendingLogRetries = [] := by
  have through : GetsThrough (answering ⟨202⟩) := ⟨rfl, ⟨202⟩, rfl, rfl⟩
  obtain ⟨s', run, idle, settles⟩ := good_flush_settles Intake.parseOne .ok plainConfig
    (fun _ => some) unavailableFlush _ rfl rfl (fun _ => answering ⟨202⟩)
    (fun _ => answering ⟨202⟩) (fun _ _ => answering ⟨202⟩)
  exact ⟨_, s', rfl, by decide +kernel, run, idle, (settles (fun _ => through) fun _ => through).1⟩

end Invariant

end LogDelivery

end ServerlessComponents.MainLoop
