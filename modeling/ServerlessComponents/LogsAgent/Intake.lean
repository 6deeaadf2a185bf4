import ServerlessComponents.Library.Numbered
import ServerlessComponents.Library.Runs
import ServerlessComponents.LogsAgent.Batching
import ServerlessComponents.LogsAgent.Server

/-!
# From a request to a batch

The handlers of the log intake server and the flushers put commands on one queue, and
`AggregatorService::run` of `aggregator/service.rs` takes them off in order. What the requests
answered 200 carry is numbered by request and position; the returned batches spell out the front of
that sequence, as far as the last served `GetBatches` reaches.
-/
namespace ServerlessComponents.LogsAgent

/-- `AggregatorCommand`; a `GetBatches` carries the number of requests answered before it. -/
inductive AggregatorCommand (E : Type) where
  | insertBatch (entries : List E)
  | getBatches (answered : Nat)
  | shutdown
  deriving DecidableEq, Repr

inductive IntakeAction where
  /-- A handler comes to its end. -/
  | handle (req : HttpRequest)
  /-- A flusher calls `get_batches`. -/
  | getBatches
  | shutdown
  /-- The service takes the next command; `waiting` tells whether its requester is still there. -/
  | serve (waiting : Bool)
  deriving DecidableEq, Repr

/-- The service with its queue, the answered requests and the batches the requesters got. -/
structure Intake (E : Type) where
  aggregator : Aggregator := .new
  commands : List (AggregatorCommand E) := []
  running : Bool := true
  exchanges : List (HttpRequest × HttpResponse) := []
  returned : List Bytes := []
  drained : Nat := 0

namespace Intake

section Step

variable {E : Type} (fromSlice : Bytes → Except String (List E))
  (toString : E → Except String Bytes)

/-- `send` on the unbounded queue, which fails once the service has stopped. -/
def send (s : Intake E) (command : AggregatorCommand E) : Intake E :=
  if s.running then { s with commands := s.commands ++ [command] } else s

/-- The loop over the entries of an `InsertBatch`; a rejected entry is only logged. -/
def insertAll (agg : Aggregator) (entries : List E) : Aggregator :=
  entries.foldl (fun agg entry => (agg.insert toString entry).2) agg

/-- One turn of `AggregatorService::run`. -/
def serve (s : Intake E) (waiting : Bool) : Option (Intake E) :=
  if s.running then
    match s.commands with
    | [] => none
    | .insertBatch entries :: rest =>
      some { s with commands := rest, aggregator := insertAll toString s.aggregator entries }
    | .getBatches answered :: rest =>
      (s.aggregator.getAllBatches (s.aggregator.messages.length + 1)).map fun (batches, agg) =>
        if waiting then
          { s with
            commands := rest, aggregator := agg, returned := s.returned ++ batches
            drained := answered }
        else { s with commands := rest, aggregator := agg }
    | .shutdown :: _ => some { s with commands := [], running := false }
  else none

def step (s : Intake E) : IntakeAction → Option (Intake E)
  | .handle req =>
    let (response, entries) := handleRequest fromSlice s.running req
    let s := { s with exchanges := s.exchanges ++ [(req, response)] }
    some (match entries with
      | none => s
      | some entries => s.send (.insertBatch entries))
  | .getBatches => some (s.send (.getBatches s.exchanges.length))
  | .shutdown => some (s.send .shutdown)
  | .serve waiting => s.serve toString waiting

/-- No shutdown is issued and the requester of a served command is still waiting. -/
def Serving : IntakeAction → Prop
  | .shutdown => False
  | .serve waiting => waiting = true
  | _ => True

/-- What a request puts into the batches: nothing unless it is answered 200, and then its entries
that are small enough, in their order. -/
def contribution (exchange : HttpRequest × HttpResponse) : List Bytes :=
  if exchange.2.status = ⟨200⟩ then
    (exchange.1.entries fromSlice).flatMap (Aggregator.accepted toString)
  else []

/-- The contributions of the answered requests, one request after the other. -/
def contributions (exchanges : List (HttpRequest × HttpResponse)) : List (Numbered Bytes) :=
  Numbered.ofRounds 0 (exchanges.map (contribution fromSlice toString))

/-- The returned batches are the given groups of contributed entries, each entry in one group and
once, in the order of the requests and of each request's body; every request answered before the
last served `GetBatches` was called is there in full, and a refused one is not there at all. -/
structure Delivers (s : Intake E) (groups : List (List (Numbered Bytes))) : Prop where
  framed : s.returned = groups.map fun group => frame (group.map Numbered.item)
  wellFormed : ∀ group ∈ groups, Aggregator.IsBatch (frame (group.map Numbered.item))
    (group.map Numbered.item)
  once : (groups.flatten.map Numbered.number).Nodup
  inOrder : groups.flatten <+: contributions fromSlice toString s.exchanges
  complete : ∀ entry ∈ contributions fromSlice toString s.exchanges, entry.round < s.drained →
    entry ∈ groups.flatten
  refused : ∀ entry ∈ groups.flatten, ∀ exchange, s.exchanges[entry.round]? = some exchange →
    exchange.2.status = ⟨200⟩

end Step

/-! ## The entries on their way -/

section Invariant

variable {E : Type} (fromSlice : Bytes → Except String (List E))
  (toString : E → Except String Bytes)

/-- The entries a command will add to the aggregator. -/
def carried : AggregatorCommand E → List Bytes
  | .insertBatch entries => entries.flatMap (Aggregator.accepted toString)
  | _ => []

/-- Every queued `GetBatches` finds, when `count` entries are ahead of the queue, exactly the
contributions of the requests answered before it was called. -/
def Timely (exchanges : List (HttpRequest × HttpResponse)) : Nat → List (AggregatorCommand E) → Prop
  | _, [] => True
  | count, command :: rest =>
    (∀ answered, command = .getBatches answered → answered ≤ exchanges.length ∧
        (contributions fromSlice toString (exchanges.take answered)).length = count) ∧
      Timely exchanges (count + (carried toString command).length) rest

/-- Where the contributions are: in the returned groups, in the aggregator or on the queue. -/
structure Inv (s : Intake E) (groups : List (List (Numbered Bytes)))
    (queued pending : List (Numbered Bytes)) : Prop where
  framed : s.returned = groups.map fun group => frame (group.map Numbered.item)
  wellFormed : ∀ group ∈ groups, Aggregator.IsBatch (frame (group.map Numbered.item))
    (group.map Numbered.item)
  valid : s.aggregator.Valid
  queue : s.aggregator.messages = queued.map Numbered.item
  onTheWay : s.commands.flatMap (carried toString) = pending.map Numbered.item
  accounted : groups.flatten ++ queued ++ pending = contributions fromSlice toString s.exchanges
  running : s.running = true
  serving : .shutdown ∉ s.commands
  timely : Timely fromSlice toString s.exchanges (groups.flatten.length + queued.length) s.commands
  early : s.drained ≤ s.exchanges.length
  drained : (contributions fromSlice toString (s.exchanges.take s.drained)).length ≤
    groups.flatten.length

theorem inv_new : Inv fromSlice toString ({} : Intake E) [] [] [] := by
  exact ⟨rfl, by simp, Aggregator.new_valid, rfl, rfl, rfl, rfl, by simp, trivial,
    Nat.le_refl 0, Nat.le_refl 0⟩

section Aggregating

variable (agg : Aggregator) (entries : List E)

theorem insertAll_messages :
    (insertAll toString agg entries).messages =
      agg.messages ++ entries.flatMap (Aggregator.accepted toString) := by
  induction entries generalizing agg with
  | nil => simp [insertAll]
  | cons entry rest ih =>
    rw [insertAll, List.foldl_cons, ← insertAll, ih, Aggregator.insert_messages]
    simp

theorem insertAll_valid (valid : agg.Valid) : (insertAll toString agg entries).Valid := by
  induction entries generalizing agg with
  | nil => exact valid
  | cons entry rest ih => exact ih _ (Aggregator.insert_valid toString agg entry valid)

end Aggregating

variable {fromSlice toString} {exchanges : List (HttpRequest × HttpResponse)}

theorem contributions_concat (exchange : HttpRequest × HttpResponse) :
    contributions fromSlice toString (exchanges ++ [exchange]) =
      contributions fromSlice toString exchanges ++
        Numbered.ofRound exchanges.length (contribution fromSlice toString exchange) := by
  simp [contributions, Numbered.ofRounds_append, Numbered.ofRounds]

theorem Timely.append {first rest : List (AggregatorCommand E)} {count : Nat}
    (h : Timely fromSlice toString exchanges count first)
    (h' : Timely fromSlice toString exchanges
      (count + (first.flatMap (carried toString)).length) rest) :
    Timely fromSlice toString exchanges count (first ++ rest) := by
  induction first generalizing count with
  | nil => exact h'
  | cons command later ih =>
    refine ⟨h.1, ih h.2 ?_⟩
    simpa [Nat.add_assoc] using h'

/-- A request that is answered later does not change what an earlier call waits for. -/
theorem Timely.answer {commands : List (AggregatorCommand E)} {count : Nat}
    (h : Timely fromSlice toString exchanges count commands)
    (exchange : HttpRequest × HttpResponse) :
    Timely fromSlice toString (exchanges ++ [exchange]) count commands := by
  induction commands generalizing count with
  | nil => trivial
  | cons command later ih =>
    refine ⟨?_, ih h.2⟩
    intro answered called
    obtain ⟨early, ahead⟩ := h.1 answered called
    refine ⟨?_, ?_⟩
    · simp
      omega
    · rwa [List.take_append_of_le_length early]

variable {s s' : Intake E} {groups : List (List (Numbered Bytes))}
  {queued pending : List (Numbered Bytes)}

/-- One more command at the end of the queue. -/
theorem Inv.send (inv : Inv fromSlice toString s groups queued pending)
    (command : AggregatorCommand E) (noEntries : carried toString command = [])
    (notShutdown : command ≠ .shutdown)
    (called : ∀ answered, command = .getBatches answered → answered = s.exchanges.length) :
    Inv fromSlice toString (s.send command) groups queued pending := by
  have queue : s.send command = { s with commands := s.commands ++ [command] } := by
    rw [Intake.send, if_pos inv.running]
  rw [queue]
  refine ⟨inv.framed, inv.wellFormed, inv.valid, inv.queue, ?_, inv.accounted, inv.running, ?_, ?_,
    inv.early, inv.drained⟩
  · simp [inv.onTheWay, noEntries]
  · simpa [inv.serving] using notShutdown.symm
  · refine inv.timely.append ⟨?_, trivial⟩
    rintro answered e
    obtain rfl := called answered e
    have all := congrArg List.length inv.accounted
    simp only [List.length_append] at all
    refine ⟨Nat.le_refl _, ?_⟩
    rw [List.take_length, ← all, inv.onTheWay, List.length_map]

/-- One more answered request, with the command that carries its contribution, if any. -/
theorem Inv.answer (inv : Inv fromSlice toString s groups queued pending)
    (exchange : HttpRequest × HttpResponse) (sent : Option (List E))
    (contributed : contribution fromSlice toString exchange =
      (sent.getD []).flatMap (Aggregator.accepted toString)) :
    Inv fromSlice toString
      { s with
        exchanges := s.exchanges ++ [exchange]
        commands := s.commands ++ (sent.map .insertBatch).toList }
      groups queued (pending ++ Numbered.ofRound s.exchanges.length
        (contribution fromSlice toString exchange)) := by
  refine ⟨inv.framed, inv.wellFormed, inv.valid, inv.queue, ?_, ?_, inv.running, ?_, ?_, ?_, ?_⟩
  · rw [List.flatMap_append, List.map_append, inv.onTheWay, Numbered.map_item_ofRound, contributed]
    cases sent <;> simp [carried]
  · rw [contributions_concat, ← inv.accounted]
    simp
  · cases sent <;> simp [inv.serving]
  · refine (inv.timely.answer exchange).append ?_
    cases sent with
    | none => trivial
    | some entries => exact ⟨nofun, trivial⟩
  · have := inv.early
    simp
    omega
  · rw [List.take_append_of_le_length inv.early]
    exact inv.drained

theorem Inv.handle (inv : Inv fromSlice toString s groups queued pending) (req : HttpRequest)
    (h : step fromSlice toString s (.handle req) = some s') :
    ∃ pending', Inv fromSlice toString s' groups queued pending' := by
  have sent := handleRequest_sent fromSlice s.running req
  simp only [step] at h
  rcases e : handleRequest fromSlice s.running req with ⟨response, entries⟩
  rw [e] at h sent
  have contributed : contribution fromSlice toString (req, response) =
      (entries.getD []).flatMap (Aggregator.accepted toString) := by
    rw [sent, contribution]
    split <;> rfl
  have moved : { s with
      exchanges := s.exchanges ++ [(req, response)]
      commands := s.commands ++ (entries.map .insertBatch).toList } = s' := by
    cases entries with
    | none => simpa using h
    | some entries => simpa [Intake.send, inv.running] using h
  exact ⟨_, moved ▸ inv.answer (req, response) entries contributed⟩

theorem Inv.serve (inv : Inv fromSlice toString s groups queued pending)
    (h : s.serve toString true = some s') :
    ∃ groups' queued' pending', Inv fromSlice toString s' groups' queued' pending' := by
  have timely := inv.timely
  have onTheWay := inv.onTheWay
  have serving := inv.serving
  simp only [Intake.serve, inv.running, if_true] at h
  split at h
  next => cases h
  next entries rest commands =>
    cases h
    rw [commands] at timely onTheWay serving
    obtain ⟨now, later, rfl, hnow, hlater⟩ := List.map_eq_append_iff.1 onTheWay.symm
    refine ⟨groups, queued ++ now, later, inv.framed, inv.wellFormed,
      insertAll_valid toString _ _ inv.valid, ?_, hlater.symm, ?_, rfl, ?_, ?_, inv.early,
      inv.drained⟩
    · simp [insertAll_messages, inv.queue, hnow, carried]
    · simpa using inv.accounted
    · simpa using serving
    · have lengths : (carried toString (.insertBatch entries)).length = now.length := by
        simpa using (congrArg List.length hnow).symm
      simpa [lengths, Nat.add_assoc] using timely.2
  next answered rest commands =>
    rw [commands] at timely onTheWay serving
    obtain ⟨⟨batches, last⟩, all, rfl⟩ := Option.map_eq_some_iff.1 h
    obtain ⟨rfl, raw, rfl, flat, wellFormed⟩ := Aggregator.getAllBatches_sound inv.valid all
    obtain ⟨numbered, rfl, rfl⟩ := Numbered.exists_groups (flat.trans inv.queue)
    obtain ⟨early, ahead⟩ := timely.1 answered rfl
    refine ⟨groups ++ numbered, [], pending, ?_, ?_, Aggregator.new_valid, rfl, onTheWay, ?_,
      rfl, ?_, ?_, early, ?_⟩
    · simp [inv.framed]
    · intro group h
      rcases List.mem_append.1 h with old | new
      · exact inv.wellFormed group old
      · exact wellFormed _ (List.mem_map_of_mem new)
    · simpa using inv.accounted
    · simpa using serving
    · simpa [carried] using timely.2
    · simp [ahead]
  next rest commands =>
    rw [commands] at serving
    exact absurd List.mem_cons_self serving

theorem Inv.delivers (inv : Inv fromSlice toString s groups queued pending) :
    Delivers fromSlice toString s groups := by
  have inOrder : groups.flatten <+: contributions fromSlice toString s.exchanges :=
    ⟨queued ++ pending, by rw [← inv.accounted, List.append_assoc]⟩
  refine ⟨inv.framed, inv.wellFormed, ?_, inOrder, ?_, ?_⟩
  · exact (Numbered.nodup_number_ofRounds 0 _).sublist (inOrder.sublist.map Numbered.number)
  · intro entry h early
    have front : entry ∈ contributions fromSlice toString (s.exchanges.take s.drained) := by
      rw [contributions, List.map_take]
      exact Numbered.mem_ofRounds_take 0 _ h (by omega)
    have first : contributions fromSlice toString (s.exchanges.take s.drained) <+:
        contributions fromSlice toString s.exchanges := by
      rw [contributions, List.map_take]
      exact Numbered.ofRounds_take_isPrefix 0 _ _
    exact (List.prefix_of_prefix_length_le first inOrder inv.drained).mem front
  · intro entry h exchange found
    obtain ⟨-, items, at_round, mem⟩ := Numbered.round_of_mem_ofRounds 0 _ (inOrder.mem h)
    simp only [Nat.sub_zero, List.getElem?_map, found, Option.map_some, Option.some.injEq]
      at at_round
    by_contra refused
    subst at_round
    simp [contribution, refused] at mem

theorem inv_step {action : IntakeAction}
    (inv : ∃ groups queued pending, Inv fromSlice toString s groups queued pending)
    (serving : Serving action) (h : step fromSlice toString s action = some s') :
    ∃ groups queued pending, Inv fromSlice toString s' groups queued pending := by
  obtain ⟨groups, queued, pending, inv⟩ := inv
  cases action with
  | handle req =>
    obtain ⟨pending', inv⟩ := inv.handle req h
    exact ⟨groups, queued, pending', inv⟩
  | getBatches =>
    cases h
    exact ⟨groups, queued, pending, inv.send _ rfl nofun (fun _ e => by cases e; rfl)⟩
  | shutdown => exact serving.elim
  | serve waiting =>
    obtain rfl : waiting = true := serving
    exact inv.serve h

/-! ## The calls of `get_batches` -/

/-- A call of `get_batches` after `called` answers, by the number of commands that are to be served
until it is served itself. Any call behind it came after more answers. -/
inductive Stands (called : Nat) (s : Intake E) : Nat → Prop
  | waits (before after : List (AggregatorCommand E))
      (queue : s.commands = before ++ .getBatches called :: after)
      (later : ∀ answered, .getBatches answered ∈ after → called ≤ answered) :
      Stands called s (before.length + 1)
  | served (reached : called ≤ s.drained)
      (later : ∀ answered, .getBatches answered ∈ s.commands → called ≤ answered) :
      Stands called s 0

variable {called left : Nat}

theorem Stands.congr (stands : Stands called s left) (commands : s'.commands = s.commands)
    (drained : s'.drained = s.drained) : Stands called s' left := by
  cases stands with
  | waits before after queue later => exact .waits before after (commands.trans queue) later
  | served reached later => exact .served (drained ▸ reached) (commands ▸ later)

theorem Stands.send (stands : Stands called s left) (command : AggregatorCommand E)
    (late : ∀ answered, command = .getBatches answered → called ≤ answered) :
    Stands called (s.send command) left := by
  unfold Intake.send
  split
  next running =>
    cases stands with
    | waits before after queue later =>
      refine .waits before (after ++ [command]) (by simp [queue]) ?_
      intro answered mem
      rcases List.mem_append.1 mem with old | new
      · exact later answered old
      · exact late answered (List.mem_singleton.1 new).symm
    | served reached later =>
      refine .served reached ?_
      intro answered mem
      rcases List.mem_append.1 mem with old | new
      · exact later answered old
      · exact late answered (List.mem_singleton.1 new).symm
  next => exact stands

/-- One command less is ahead of the call. -/
theorem Stands.serve (stands : Stands called s left)
    (inv : Inv fromSlice toString s groups queued pending)
    (h : s.serve toString true = some s') : Stands called s' (left - 1) := by
  have serving := inv.serving
  simp only [Intake.serve, inv.running, if_true] at h
  split at h
  next => cases h
  next entries rest commands =>
    cases h
    cases stands with
    | waits before after queue later =>
      rw [commands] at queue
      cases before with
      | nil => cases queue
      | cons first before =>
        obtain ⟨-, rfl⟩ := List.cons.inj queue
        exact .waits before after rfl later
    | served reached later =>
      rw [commands] at later
      exact .served reached fun answered mem => later answered (List.mem_cons_of_mem _ mem)
  next answered rest commands =>
    obtain ⟨⟨batches, last⟩, -, rfl⟩ := Option.map_eq_some_iff.1 h
    cases stands with
    | waits before after queue later =>
      rw [commands] at queue
      cases before with
      | nil =>
        obtain ⟨⟨⟩, rfl⟩ := List.cons.inj queue
        exact .served le_rfl later
      | cons first before =>
        obtain ⟨-, rfl⟩ := List.cons.inj queue
        exact .waits before after rfl later
    | served reached later =>
      rw [commands] at later
      exact .served (later answered List.mem_cons_self) fun other mem =>
        later other (List.mem_cons_of_mem _ mem)
  next rest commands =>
    rw [commands] at serving
    exact absurd List.mem_cons_self serving

theorem exchanges_isPrefix {action : IntakeAction}
    (h : step fromSlice toString s action = some s') : s.exchanges <+: s'.exchanges := by
  have sent (s : Intake E) (command : AggregatorCommand E) :
      (s.send command).exchanges = s.exchanges := by
    unfold Intake.send
    split <;> rfl
  cases action with
  | handle req =>
    simp only [Intake.step] at h
    generalize handleRequest fromSlice s.running req = handled at h
    obtain ⟨response, entries⟩ := handled
    cases entries with
    | none =>
      cases h
      exact List.prefix_append ..
    | some entries =>
      cases h
      rw [sent]
      exact List.prefix_append ..
  | getBatches | shutdown =>
    cases h
    rw [sent]
  | serve waiting =>
    simp only [Intake.step, Intake.serve] at h
    split at h
    · split at h
      next => cases h
      next => cases h; exact List.prefix_rfl
      next =>
        obtain ⟨_, -, rfl⟩ := Option.map_eq_some_iff.1 h
        split <;> exact List.prefix_rfl
      next => cases h; exact List.prefix_rfl
    · cases h

theorem Stands.step {action : IntakeAction} (stands : Stands called s left)
    (early : called ≤ s.exchanges.length)
    (inv : Inv fromSlice toString s groups queued pending) (serving : Serving action)
    (h : step fromSlice toString s action = some s') :
    Stands called s' (left - [action].count (.serve true)) := by
  cases action with
  | handle req =>
    simp only [Intake.step] at h
    generalize handleRequest fromSlice s.running req = handled at h
    obtain ⟨response, entries⟩ := handled
    have answered : Stands called { s with exchanges := s.exchanges ++ [(req, response)] } left :=
      stands.congr rfl rfl
    cases entries with
    | none =>
      cases h
      exact answered
    | some entries =>
      cases h
      exact answered.send (.insertBatch entries) nofun
  | getBatches =>
    cases h
    refine stands.send _ ?_
    rintro answered ⟨⟩
    exact early
  | shutdown => exact serving.elim
  | serve waiting =>
    obtain rfl : waiting = true := serving
    simpa using stands.serve inv h

theorem Stands.run {actions : List IntakeAction} (stands : Stands called s left)
    (early : called ≤ s.exchanges.length)
    (inv : ∃ groups queued pending, Inv fromSlice toString s groups queued pending)
    (serving : ∀ action ∈ actions, Serving action)
    (run : Runs.exec (Intake.step fromSlice toString) s actions = some s') :
    Stands called s' (left - actions.count (.serve true)) := by
  induction actions generalizing s left with
  | nil =>
    cases run
    exact stands
  | cons action rest ih =>
    obtain ⟨next, first, later⟩ := Runs.exec_cons_eq_some.1 run
    obtain ⟨allowed, serving⟩ := List.forall_mem_cons.1 serving
    obtain ⟨_, _, _, inv'⟩ := inv
    have stands := ih (stands.step early inv' allowed first)
      (early.trans (exchanges_isPrefix first).length_le)
      (inv_step ⟨_, _, _, inv'⟩ allowed first) serving later
    rwa [Nat.sub_sub, ← List.count_append] at stands

theorem inv_run {actions : List IntakeAction}
    (run : Runs.exec (step fromSlice toString) {} actions = some s)
    (serving : ∀ action ∈ actions, Serving action) :
    ∃ groups queued pending, Inv fromSlice toString s groups queued pending :=
  Runs.invariant_along (fun _ _ _ => inv_step) ⟨[], [], [], inv_new fromSlice toString⟩
    (Runs.along_of_forall serving _) run

/-- A call of `get_batches` is served when more commands are than were waiting at the call. -/
theorem called_le_drained {before after : List IntakeAction} {called : Intake E}
    (ahead : Runs.exec (step fromSlice toString) {} before = some called)
    (run : Runs.exec (step fromSlice toString) {} (before ++ .getBatches :: after) = some s)
    (serving : ∀ action ∈ before ++ .getBatches :: after, Serving action)
    (enough : called.commands.length < after.count (.serve true)) :
    called.exchanges.length ≤ s.drained := by
  have earlier : ∀ action ∈ before, Serving action := fun action mem =>
    serving action (List.mem_append_left _ mem)
  have later : ∀ action ∈ after, Serving action := fun action mem =>
    serving action (List.mem_append_right _ (List.mem_cons_of_mem _ mem))
  obtain ⟨groups, queued, pending, inv⟩ := inv_run ahead earlier
  rw [Runs.exec_append, ahead, Option.bind_some] at run
  obtain ⟨_, sent, run⟩ := Runs.exec_cons_eq_some.1 run
  have inv' := inv_step ⟨groups, queued, pending, inv⟩ (serving .getBatches (by simp)) sent
  cases sent
  have queue : called.send (.getBatches called.exchanges.length) =
      { called with commands := called.commands ++ [.getBatches called.exchanges.length] } := by
    rw [Intake.send, if_pos inv.running]
  rw [queue] at run inv'
  have stands : Stands called.exchanges.length
      { called with commands := called.commands ++ [.getBatches called.exchanges.length] }
      (called.commands.length + 1) := .waits called.commands [] rfl nofun
  have stands := stands.run le_rfl inv' later run
  rw [Nat.sub_eq_zero_of_le enough] at stands
  cases stands with
  | served reached _ => exact reached

/-- In any order of handled requests, calls of `get_batches` and served commands, with no shutdown
and every requester still waiting: the entries of a request answered 200 that are small enough are
each in one returned batch, once, in order and not mixed with those of another request, as soon
as a `get_batches` called after the request is served, which it is when more commands are than were
waiting at the call; any other request adds nothing. -/
theorem intake_delivers (fromSlice : Bytes → Except String (List E))
    (toString : E → Except String Bytes) (actions : List IntakeAction) (s : Intake E)
    (run : Runs.exec (step fromSlice toString) {} actions = some s)
    (serving : ∀ action ∈ actions, Serving action) :
    (∃ groups, Delivers fromSlice toString s groups) ∧
      ∀ before after called, actions = before ++ .getBatches :: after →
        Runs.exec (step fromSlice toString) {} before = some called →
        called.commands.length < after.count (.serve true) →
        called.exchanges.length ≤ s.drained := by
  obtain ⟨groups, _, _, inv⟩ := inv_run run serving
  refine ⟨⟨groups, inv.delivers⟩, ?_⟩
  rintro before after called rfl ahead enough
  exact called_le_drained ahead run serving enough

/-- A parser that knows one body, an array with one number. -/
def parseOne (body : Bytes) : Except String (List Bytes) :=
  if body = [91, 49, 93] then .ok [[49]] else .error "expected value"

/-- Two requests, the second one malformed, and a flush. -/
def flushOfOne : List IntakeAction :=
  [.handle ⟨"POST", "/v1/input", some "3", .ok [91, 49, 93]⟩,
    .handle ⟨"POST", "/v1/input", none, .ok [91, 49]⟩, .getBatches, .serve true, .serve true]

theorem intake_delivers_one :
    ∃ s, Runs.exec (step parseOne .ok) {} flushOfOne = some s ∧ s.returned = [[91, 49, 93]] ∧
      (∃ groups, Delivers parseOne .ok s groups) ∧ 2 ≤ s.drained := by
  obtain ⟨delivers, served⟩ :=
    intake_delivers parseOne .ok flushOfOne _ rfl (by simp [flushOfOne, Serving])
  exact ⟨_, rfl, rfl, delivers,
    served (flushOfOne.take 2) (flushOfOne.drop 3) _ rfl rfl (by decide)⟩

end Invariant

end Intake

end ServerlessComponents.LogsAgent
