import ServerlessComponents.TraceAgent.TraceOrder

/-!
# Which answer is to which request

A connection carries one request at a time, so an answer is to the request that came last on its
connection. The handler decodes the traces of this request, shares them with the concentrator,
spawns an enqueue task for them and keeps the number of the round for its answer.

## Main results

* `shares_of_act` — what an action does to the traces on their way.
* `attributed_keeps`, `attributed_spawns` — each round is due to one answer at most, which is to the
  request of the round.
-/
namespace ServerlessComponents.TraceAgent

variable {D R X G H K L W : Type}

/-! ## A handler on its way from the concentrator to the trace flusher -/

/-- The traces a handler has decoded, with the chunks that the concentrator has yet to get. -/
def HandlerPhase.sharing :
    HandlerPhase D R X G H L → Option (DecodedTraces D R X H × List (TraceChunk D R))
  | .addingChunks decoded left => some (decoded, left.map Prod.fst)
  | .rescuing decoded => some (decoded, [])
  | _ => none

/-- The round that a handler has spawned and is yet to answer for. -/
def HandlerPhase.due : HandlerPhase D R X G H L → Option Nat
  | .answering ⟨_, .traces round⟩ => some round
  | _ => none

/-- The chunks of a request that the concentrator is to get. -/
def MiniAgentSetup.shared (setup : MiniAgentSetup D R X G K H W) (decoded : DecodedTraces D R X H) :
    List (TraceChunk D R) :=
  if setup.statsConcentrator && setup.config.agentStatsComputationEnabled then
    decoded.payload.chunks
  else []

theorem map_fst_concentratorChunks (getRootSpanIndex : GetRootSpanIndex D R)
    (payload : TracerPayloadCollection D R X) :
    (concentratorChunks getRootSpanIndex payload : List (_ × Option (TracerMetadata L))).map
      Prod.fst = payload.chunks := by
  cases payload with
  | v07 tracerPayloads =>
    simp [concentratorChunks, TracerPayloadCollection.chunks, List.map_flatMap,
      Function.comp_def]
  | v04 | v05 | v1 => rfl

namespace HandlerPhase

theorem nothing_begin {config : Config} {req : HttpRequest H} :
    (begin config req : HandlerPhase D R X G H L).sharing = none ∧
      (begin config req : HandlerPhase D R X G H L).due = none := by
  unfold begin
  split
  next => split <;> exact ⟨rfl, rfl⟩
  next =>
    split
    next => exact ⟨rfl, rfl⟩
    next => split <;> exact ⟨rfl, rfl⟩
  next => exact ⟨rfl, rfl⟩

theorem due_answering {answer : Answer} {round : Nat} :
    (answering answer : HandlerPhase D R X G H L).due = some round ↔
      answer.receipt = .traces round := by
  obtain ⟨response, receipt⟩ := answer
  cases receipt with
  | traces => simp [due]
  | _ => simp [due]

/-- A handler that has something to share has not spawned it. -/
theorem due_eq_none_of_sharing {p : HandlerPhase D R X G H L}
    {shares : DecodedTraces D R X H × List (TraceChunk D R)} (h : p.sharing = some shares) :
    p.due = none := by
  cases p with
  | addingChunks | rescuing => rfl
  | _ => cases h

theorem carriedTraces_of_sharing {p : HandlerPhase D R X G H L} {decoded : DecodedTraces D R X H}
    {left : List (TraceChunk D R)} (h : p.sharing = some (decoded, left)) :
    p.carriedTraces = some decoded := by
  cases p with
  | addingChunks | rescuing =>
    cases h
    rfl
  | _ => cases h

end HandlerPhase

/-- What the clients asked so far: the last request of each connection, and those that are answered,
in the order of the answers. -/
structure Asked (H : Type) where
  last : Nat → Option (HttpRequest H) := fun _ => none
  answered : List (Option (HttpRequest H)) := []

/-- A client posts a request, or is answered the last one on its connection. -/
def Asked.after (q : Asked H) : Action H L → Asked H
  | .request i req => { q with last := Function.update q.last i (some req) }
  | .answer i => { q with answered := q.answered ++ [q.last i] }
  | _ => q

def asked (actions : List (Action H L)) : Asked H := actions.foldl .after {}

theorem Asked.last_after {q : Asked H} {a : Action H L} {i : Nat}
    (other : ∀ req, a ≠ .request i req) : (q.after a).last i = q.last i := by
  cases a with
  | request j req =>
    have ne : i ≠ j := by
      rintro rfl
      exact other req rfl
    simp [after, ne]
  | _ => rfl

theorem Asked.answered_after {q : Asked H} {a : Action H L} (other : ∀ i, a ≠ .answer i) :
    (q.after a).answered = q.answered := by
  cases a with
  | answer i => exact absurd rfl (other i)
  | _ => rfl

namespace MiniAgent

variable [DecidableEq L] {setup : MiniAgentSetup D R X G K H W} {s s' : MiniAgent D R X G K H L W}
  {a : Action H L} {i : Nat}

/-- What an action does to the chunks on their way and to the rounds that are due. -/
inductive Shares (setup : MiniAgentSetup D R X G K H W) (s s' : MiniAgent D R X G K H L W) : Prop
  | keeps
      (handlers : ∀ j,
        (s'.handler j).sharing = (s.handler j).sharing ∨ (s'.handler j).sharing = none)
      (due : ∀ j, (s'.handler j).due = (s.handler j).due ∨ (s'.handler j).due = none)
      (handed : s'.stats.handed = s.stats.handed) (spawned : s'.traces.spawned = s.traces.spawned)
  | begins (i : Nat) (req : HttpRequest H) (decoded : DecodedTraces D R X H)
      (decodes : decodeTraces setup.config setup.traceUtils req = .ok decoded)
      (here : (s'.handler i).sharing = some (decoded, setup.shared decoded))
      (others : ∀ j, j ≠ i → s'.handler j = s.handler j)
      (handed : s'.stats.handed = s.stats.handed) (spawned : s'.traces.spawned = s.traces.spawned)
  | adds (i : Nat) (decoded : DecodedTraces D R X H) (chunk : TraceChunk D R)
      (left : List (TraceChunk D R)) (had : (s.handler i).sharing = some (decoded, chunk :: left))
      (here : (s'.handler i).sharing = some (decoded, left))
      (others : ∀ j, j ≠ i → s'.handler j = s.handler j)
      (handed : setup.statsConcentrator = true → s'.stats.handed = s.stats.handed ++ [chunk])
      (unhanded : setup.statsConcentrator = false → s'.stats.handed = s.stats.handed)
      (spawned : s'.traces.spawned = s.traces.spawned)
  | spawns (i : Nat) (decoded : DecodedTraces D R X H) (payload : TracerPayloadCollection D R X)
      (had : (s.handler i).sharing = some (decoded, []))
      (rescued : Rescued setup decoded.payload payload) (here : (s'.handler i).sharing = none)
      (due : (s'.handler i).due = some s.traces.spawned.length)
      (others : ∀ j, j ≠ i → s'.handler j = s.handler j)
      (handed : s'.stats.handed = s.stats.handed)
      (spawned : s'.traces.spawned = s.traces.spawned ++
        [{ decoded with payload }.sendDatas setup.traceUtils.encodedLen])

omit [DecidableEq L] in
/-- A handler moves on and shares what it shared, or nothing. -/
theorem shares_turn {p : HandlerPhase D R X G H L}
    (here : p.sharing = (s.handler i).sharing ∨ p.sharing = none) (due : p.due = none)
    (handlers : s'.handler = Function.update s.handler i p)
    (handed : s'.stats.handed = s.stats.handed) (spawned : s'.traces.spawned = s.traces.spawned) :
    Shares setup s s' := by
  refine .keeps ?_ ?_ handed spawned
  all_goals
    intro j
    rw [handlers]
    by_cases same : j = i
    · subst same
      simp [here, due]
    · simp [same]

omit [DecidableEq L] in
theorem shares_endHandler {p : HandlerPhase D R X G H L} (none_ : p.sharing = none)
    (due : p.due = none) : Shares setup s (s.endHandler i p) := by
  refine shares_turn (.inr none_) due rfl rfl ?_
  simp only [endHandler]
  split <;> rfl

omit [DecidableEq L] in
theorem shares_resume {clock : Nat} (h : s.resume setup i clock = some s') :
    Shares setup s s' := by
  unfold resume at h
  split at h
  next =>
    cases h
    exact shares_turn (.inr rfl) rfl rfl rfl rfl
  next =>
    split at h <;> cases h
    · exact shares_turn (.inr rfl) rfl rfl rfl rfl
    · exact shares_turn (.inr rfl) rfl rfl rfl rfl
  next =>
    split at h
    next =>
      cases h
      exact shares_turn (.inr rfl) rfl rfl rfl rfl
    next =>
      split at h <;> cases h
      exact shares_turn (.inr rfl) rfl rfl rfl rfl
  next =>
    split at h <;> cases h
    exact shares_turn (.inr rfl) rfl rfl rfl rfl
  next req phase =>
    split at h <;> cases h
    next => exact shares_endHandler rfl rfl
    next decoded decodes =>
      refine .begins i req decoded decodes ?_ (fun j other => Function.update_of_ne other ..) rfl
        rfl
      simp only [setHandler, Function.update_self, HandlerPhase.sharing, MiniAgentSetup.shared]
      split
      · rw [map_fst_concentratorChunks]
      · rfl
  next decoded phase =>
    cases h
    exact shares_turn (.inl (by simp [phase, HandlerPhase.sharing])) rfl rfl rfl rfl
  next =>
    cases h
    exact shares_endHandler rfl rfl
  next decoded chunk metadata left phase =>
    cases h
    refine .adds i decoded chunk (left.map Prod.fst) (by simp [phase, HandlerPhase.sharing])
      (by simp [setHandler, HandlerPhase.sharing]) (fun j other => Function.update_of_ne other ..)
      ?_ ?_ rfl
    · intro started
      simp [StatsPipeline.addChunk, started]
    · intro absent
      simp [StatsPipeline.addChunk, absent]
  next decoded phase =>
    split at h <;> cases h
    next => exact shares_endHandler rfl rfl
    next payload rescueState rescued =>
      exact .spawns i decoded payload (by simp [phase, HandlerPhase.sharing]) ⟨_, _, _, rescued⟩
        (by simp [setHandler, HandlerPhase.sharing]) (by simp [setHandler, HandlerPhase.due])
        (fun j other => Function.update_of_ne other ..) rfl rfl
  next =>
    cases h
    exact shares_turn (.inr rfl) rfl rfl rfl rfl
  next => cases h

theorem shares_of_act (h : s.act setup a = some s') : Shares setup s s' := by
  have untouched {t : MiniAgent D R X G K H L W} (handler : t.handler = s.handler)
      (handed : t.stats.handed = s.stats.handed) (spawned : t.traces.spawned = s.traces.spawned) :
      Shares setup s t := by
    refine .keeps ?_ ?_ handed spawned
    all_goals
      intro j
      rw [handler]
      exact .inl rfl
  cases a with
  | shutdown =>
    cases h
    exact untouched rfl rfl rfl
  | request i req =>
    simp only [act] at h
    split at h <;> cases h
    exact shares_turn (.inr HandlerPhase.nothing_begin.1) HandlerPhase.nothing_begin.2 rfl rfl rfl
  | resume i clock => exact shares_resume h
  | close i | panic i =>
    simp only [act] at h
    split at h <;> cases h
    exact shares_endHandler rfl rfl
  | accept | permitTimeout | answer =>
    simp only [act] at h
    split at h <;> cases h
    exact shares_turn (.inr rfl) rfl rfl rfl rfl
  | stats action =>
    obtain ⟨stats, ran, rfl⟩ := Option.map_eq_some_iff.1 h
    exact untouched rfl (StatsPipeline.nothingIn_of_step ran).1.handed rfl
  | traces action =>
    obtain ⟨traces, ran, rfl⟩ := Option.map_eq_some_iff.1 h
    exact untouched rfl rfl (TracePipeline.spawned_of_step ran)
  | _ =>
    simp only [act] at h
    split at h <;> cases h
    all_goals exact untouched rfl rfl rfl

/-! ## Answers and their requests -/

/-- An action answers what its handler had ready, or answers nothing. -/
theorem answered_of_act (h : s.act setup a = some s') :
    (∃ i answer, a = .answer i ∧ s.handler i = .answering answer ∧ s'.handler i = .idle ∧
      s'.answered = s.answered ++ [answer]) ∨
    (∀ i, a ≠ .answer i) ∧ s'.answered = s.answered := by
  cases a with
  | answer i =>
    simp only [act] at h
    split at h <;> cases h
    next answer phase => exact .inl ⟨i, answer, rfl, phase, by simp [setHandler], rfl⟩
  | resume i clock =>
    refine .inr ⟨by simp, ?_⟩
    have turn : s.resume setup i clock = some s' := h
    unfold resume at turn
    grind [setHandler, endHandler]
  | stats action | traces action =>
    obtain ⟨_, _, rfl⟩ := Option.map_eq_some_iff.1 h
    exact .inr ⟨by simp, rfl⟩
  | shutdown =>
    cases h
    exact .inr ⟨by simp, rfl⟩
  | _ =>
    simp only [act] at h
    split at h <;> cases h
    all_goals exact .inr ⟨by simp, rfl⟩

theorem idle_of_request {req : HttpRequest H} (h : s.act setup (.request i req) = some s') :
    s.handler i = .idle := by
  simp only [act] at h
  split at h
  next idle => exact idle
  next => cases h

/-- The handler has the request that came last on its connection, or what was decoded of it. -/
structure AsAsked (setup : MiniAgentSetup D R X G K H W) (last : Option (HttpRequest H))
    (p : HandlerPhase D R X G H L) : Prop where
  request : ∀ req, p.tracesRequest = some req → last = some req
  traces : ∀ decoded, p.carriedTraces = some decoded →
    ∃ req, last = some req ∧ decodeTraces setup.config setup.traceUtils req = .ok decoded

/-- The rounds have the traces of the requests `origins`. Each is due to one answer at most, which
is to the request of the round. -/
structure Attributed (setup : MiniAgentSetup D R X G K H W) (q : Asked H)
    (origins : List (HttpRequest H)) (s : MiniAgent D R X G K H L W) : Prop where
  rounds : origins.length = s.traces.spawned.length
  asAsked : ∀ i, AsAsked setup (q.last i) (s.handler i)
  due : ∀ i round, (s.handler i).due = some round →
    ∃ req, q.last i = some req ∧ origins[round]? = some req
  alone : ∀ i j round, (s.handler i).due = some round → (s.handler j).due = some round → i = j
  unanswered : ∀ i round, (s.handler i).due = some round →
    ∀ answer ∈ s.answered, answer.receipt ≠ .traces round
  once : s.answered.Pairwise fun answer later =>
    ∀ round, answer.receipt = .traces round → later.receipt ≠ .traces round
  answered : List.Forall₂ (fun last answer => ∀ round, answer.receipt = .traces round →
    ∃ req, last = some req ∧ origins[round]? = some req) q.answered s.answered

variable {q : Asked H} {origins : List (HttpRequest H)}

omit [DecidableEq L] in
theorem attributed_init (rescueState : W) :
    (init rescueState : MiniAgent D R X G K H L W).Attributed setup {} [] where
  rounds := rfl
  asAsked i := by
    constructor <;> simp [init, HandlerPhase.tracesRequest, HandlerPhase.carriedTraces]
  due := by simp [init, HandlerPhase.due]
  alone := by simp [init, HandlerPhase.due]
  unanswered := by simp [init, HandlerPhase.due]
  once := .nil
  answered := .nil

/-- A new request comes to an idle handler, which has nothing of the one before it. -/
theorem asAsked_of_act (start : s.Attributed setup q origins) (h : s.act setup a = some s')
    (i : Nat) : AsAsked setup ((q.after a).last i) (s'.handler i) := by
  have before := start.asAsked i
  have carries := (feeds_of_act h).2 i
  by_cases comes : ∃ req, a = .request i req
  · obtain ⟨req, rfl⟩ := comes
    have idle := idle_of_request h
    rw [idle] at carries
    have last : (q.after (Action.request (L := L) i req)).last i = some req := by
      simp [Asked.after]
    rw [last]
    refine ⟨fun req' has => ?_, fun decoded carried => ?_⟩
    · rcases carries.request req' has with had | here
      · cases had
      · cases here
        rfl
    · rcases carries.traces decoded carried with had | ⟨req', had, -⟩
      · cases had
      · cases had
  · push Not at comes
    rw [Asked.last_after comes]
    refine ⟨fun req has => ?_, fun decoded carried => ?_⟩
    · rcases carries.request req has with had | here
      · exact before.request req had
      · exact absurd here (comes req)
    · rcases carries.traces decoded carried with had | ⟨req, had, decodes⟩
      · exact before.traces decoded had
      · exact ⟨req, before.request req had, decodes⟩

/-- The connection of a handler that is still to answer gets no other request. -/
theorem last_of_due {round : Nat} (h : s.act setup a = some s')
    (due : (s.handler i).due = some round) : (q.after a).last i = q.last i := by
  refine Asked.last_after fun req same => ?_
  subst same
  rw [idle_of_request h] at due
  cases due

omit [DecidableEq L] in
theorem Attributed.due_lt (start : s.Attributed setup q origins) {round : Nat}
    (due : (s.handler i).due = some round) : round < s.traces.spawned.length := by
  obtain ⟨req, -, found⟩ := start.due i round due
  rw [← start.rounds]
  exact (List.getElem?_eq_some_iff.1 found).1

omit [DecidableEq L] in
theorem Attributed.answered_lt (start : s.Attributed setup q origins) {answer : Answer}
    (mem : answer ∈ s.answered) {round : Nat} (receipt : answer.receipt = .traces round) :
    round < s.traces.spawned.length := by
  obtain ⟨n, lt, rfl⟩ := List.getElem_of_mem mem
  have lt' : n < q.answered.length := by rwa [start.answered.length_eq]
  obtain ⟨req, -, found⟩ := start.answered.get lt' lt round receipt
  rw [← start.rounds]
  exact (List.getElem?_eq_some_iff.1 found).1

/-- Nothing is spawned; an answer is written, or none. -/
theorem attributed_keeps (start : s.Attributed setup q origins) (h : s.act setup a = some s')
    (due : ∀ j, (s'.handler j).due = (s.handler j).due ∨ (s'.handler j).due = none)
    (spawned : s'.traces.spawned = s.traces.spawned) :
    s'.Attributed setup (q.after a) origins := by
  have still {j round : Nat} (open_ : (s'.handler j).due = some round) :
      (s.handler j).due = some round := by
    rcases due j with same | none_
    · exact same.symm.trans open_
    · cases none_.symm.trans open_
  have dueOpen (j round : Nat) (open_ : (s'.handler j).due = some round) :
      ∃ req, (q.after a).last j = some req ∧ origins[round]? = some req := by
    rw [last_of_due h (still open_)]
    exact start.due j round (still open_)
  have aloneOpen (i j round : Nat) (openI : (s'.handler i).due = some round)
      (openJ : (s'.handler j).due = some round) : i = j :=
    start.alone i j round (still openI) (still openJ)
  have asAsked := asAsked_of_act start h
  rcases answered_of_act h with ⟨i, answer, rfl, phase, idle, answered⟩ | ⟨other, answered⟩
  · have here {round : Nat} (receipt : answer.receipt = .traces round) :
        (s.handler i).due = some round := by
      rw [phase]
      exact HandlerPhase.due_answering.2 receipt
    refine ⟨spawned ▸ start.rounds, asAsked, dueOpen, aloneOpen, ?_, ?_, ?_⟩
    · intro j round open_ answer' mem receipt
      rw [answered] at mem
      rcases List.mem_append.1 mem with old | new
      · exact start.unanswered j round (still open_) answer' old receipt
      · -- the answer is due to its own handler, which is idle now
        obtain rfl := List.mem_singleton.1 new
        obtain rfl := start.alone i j round (here receipt) (still open_)
        rw [idle] at open_
        cases open_
    · rw [answered]
      refine List.pairwise_append.2 ⟨start.once, List.pairwise_singleton .., ?_⟩
      intro answer' old later new round receipt receipt'
      obtain rfl := List.mem_singleton.1 new
      exact start.unanswered i round (here receipt') answer' old receipt
    · rw [answered]
      exact List.rel_append start.answered
        (.cons (fun round receipt => start.due i round (here receipt)) .nil)
  · refine ⟨spawned ▸ start.rounds, asAsked, dueOpen, aloneOpen, ?_, ?_, ?_⟩
    · intro j round open_
      rw [answered]
      exact start.unanswered j round (still open_)
    · rw [answered]
      exact start.once
    · rw [answered, Asked.answered_after other]
      exact start.answered

/-- A handler spawns the traces of the last request on its connection. -/
theorem attributed_spawns (start : s.Attributed setup q origins) (h : s.act setup a = some s')
    {decoded : DecodedTraces D R X H} {left : List (TraceChunk D R)} {req : HttpRequest H}
    {sendDatas : List (SendData D R X H)} (had : (s.handler i).sharing = some (decoded, left))
    (last : q.last i = some req) (due : (s'.handler i).due = some s.traces.spawned.length)
    (others : ∀ j, j ≠ i → s'.handler j = s.handler j)
    (spawned : s'.traces.spawned = s.traces.spawned ++ [sendDatas]) :
    s'.Attributed setup (q.after a) (origins ++ [req]) := by
  have older {round : Nat} {r : HttpRequest H} (found : origins[round]? = some r) :
      (origins ++ [req])[round]? = some r := by
    rw [List.getElem?_append_left (List.getElem?_eq_some_iff.1 found).1, found]
  have running : ∀ r, a ≠ .request i r := by
    rintro r rfl
    rw [idle_of_request h] at had
    cases had
  have silent : (∀ j, a ≠ .answer j) ∧ s'.answered = s.answered := by
    rcases answered_of_act h with ⟨j, answer, rfl, phase, idle, -⟩ | silent
    · by_cases same : j = i
      · subst same
        rw [phase] at had
        cases had
      · rw [others j same, phase] at idle
        cases idle
    · exact silent
  have fresh {j round : Nat} (open_ : (s'.handler j).due = some round) (other : j ≠ i) :
      (s.handler j).due = some round ∧ round < s.traces.spawned.length := by
    rw [others j other] at open_
    exact ⟨open_, start.due_lt open_⟩
  have newest {round : Nat} (open_ : (s'.handler i).due = some round) :
      round = s.traces.spawned.length := Option.some.inj (open_.symm.trans due)
  refine ⟨by simp [spawned, start.rounds], asAsked_of_act start h, ?_, ?_, ?_, ?_, ?_⟩
  · intro j round open_
    by_cases same : j = i
    · subst same
      obtain rfl := newest open_
      exact ⟨req, (Asked.last_after running).trans last, by rw [← start.rounds]; simp⟩
    · obtain ⟨before, -⟩ := fresh open_ same
      obtain ⟨r, lastJ, found⟩ := start.due j round before
      exact ⟨r, (last_of_due h before).trans lastJ, older found⟩
  · intro j k round openJ openK
    by_cases first : j = i
    · by_cases second : k = i
      · rw [first, second]
      · subst first
        have := newest openJ
        have := (fresh openK second).2
        omega
    · by_cases second : k = i
      · subst second
        have := newest openK
        have := (fresh openJ first).2
        omega
      · exact start.alone j k round (fresh openJ first).1 (fresh openK second).1
  · intro j round open_ answer mem receipt
    rw [silent.2] at mem
    by_cases same : j = i
    · subst same
      have := newest open_
      have := start.answered_lt mem receipt
      omega
    · exact start.unanswered j round (fresh open_ same).1 answer mem receipt
  · rw [silent.2]
    exact start.once
  · rw [silent.2, Asked.answered_after silent.1]
    refine start.answered.imp fun last answer told round receipt => ?_
    obtain ⟨r, asked, found⟩ := told round receipt
    exact ⟨r, asked, older found⟩

end MiniAgent

end ServerlessComponents.TraceAgent
