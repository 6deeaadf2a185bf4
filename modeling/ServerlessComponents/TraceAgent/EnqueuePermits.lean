import ServerlessComponents.Library.Numbered
import ServerlessComponents.Library.Permits
import ServerlessComponents.Library.Runs
import ServerlessComponents.TraceAgent.Processors

/-!
# The enqueue permits

`process_traces` of `trace_processor.rs` for any number of requests at once, from one `await` to the
next, with the enqueue tasks it spawns and a bounded channel whose receiver may take or close at any
time. A permit belongs to the handler of a request until it is moved into the task; whatever ends
either of them drops it.

## Main results

* `Inv.replace` — one request goes on, with the permit it takes or gives back.
* `permits_and_pieces` — permits and pieces after any run.
-/
namespace ServerlessComponents.TraceAgent

/-- A `ServerlessTraceProcessor` and the configuration; `rescue` is `apply_error_rescue` on the
state behind its lock, `none` where it panics. -/
structure TraceProcessor (D R X H W : Type) where
  config : Config
  statsConcentrator : Bool
  traceUtils : TraceUtils D R X H
  rescue : W → TracerPayloadCollection D R X → Nat → Option (TracerPayloadCollection D R X × W)

/-- Where a request is: in its handler, or in the task that the handler spawned. -/
inductive ProcessPhase (D R X H : Type) where
  | acquiring
  /-- No permit in time: the body is read and dropped. -/
  | draining
  | reading
  | rescuing (decoded : DecodedTraces D R X H)
  | enqueueing (left : List (Numbered (SendData D R X H)))
  | ended

namespace ProcessPhase

variable {D R X H : Type}

def holdsPermit : ProcessPhase D R X H → Bool
  | .reading | .rescuing _ | .enqueueing _ => true
  | _ => false

def inHandler : ProcessPhase D R X H → Bool
  | .enqueueing _ | .ended => false
  | _ => true

/-- What the task has not sent yet. -/
def left : ProcessPhase D R X H → List (Numbered (SendData D R X H))
  | .enqueueing left => left
  | _ => []

end ProcessPhase

/-- A request with its answer and the pieces given to its enqueue task. -/
structure TraceRequest (D R X H : Type) where
  req : HttpRequest H
  phase : ProcessPhase D R X H
  response : Option HttpResponse := none
  sendDatas : List (SendData D R X H) := []

def TraceRequest.holdsPermit {D R X H : Type} (r : TraceRequest D R X H) : Bool :=
  r.phase.holdsPermit

/-- The requests by their arrival, and all that was ever put on the channel. -/
structure Enqueueing (D R X H L W : Type) where
  enqueuePermits : Nat := MAX_IN_FLIGHT_ENQUEUES
  requests : List (TraceRequest D R X H) := []
  rescueState : W
  concentrated : List (TraceChunk D R × TracerMetadata L) := []
  channel : List (Numbered (SendData D R X H)) := []
  channelClosed : Bool := false
  put : List (Numbered (SendData D R X H)) := []

inductive EnqueueAction (H : Type) where
  | request (req : HttpRequest H)
  | acquire (request : Nat)
  | permitTimeout (request : Nat)
  | drained (request : Nat)
  /-- The body has been read, or reading it fails. -/
  | body (request : Nat)
  /-- The handler gets the lock of the error rescue. -/
  | rescue (request : Nat) (clock : Nat)
  /-- The future of the handler is dropped. -/
  | drop (request : Nat)
  /-- An enqueue task sends its next piece, or finds the channel closed. -/
  | enqueue (request : Nat)
  | enqueueEnds (request : Nat)
  | recv
  | closeChannel

namespace Enqueueing

variable {D R X H L W : Type}

section Step

variable (processor : TraceProcessor D R X H W) (capacity : Nat)

def setRequest (s : Enqueueing D R X H L W) (i : Nat) (r : TraceRequest D R X H) :
    Enqueueing D R X H L W :=
  { s with requests := s.requests.set i r }

/-- The handler or the task of a request ends, and drops a permit it holds. -/
def endRequest (s : Enqueueing D R X H L W) (i : Nat) (r : TraceRequest D R X H)
    (response : Option HttpResponse) : Enqueueing D R X H L W :=
  { s.setRequest i { r with phase := .ended, response } with
    enqueuePermits := s.enqueuePermits + Permits.held TraceRequest.holdsPermit r }

/-- `send_to_concentrator`, up to the chunk where it panics, if there is one. -/
def sendToConcentrator (decoded : DecodedTraces D R X H) :
    List (TraceChunk D R × TracerMetadata L) × Bool :=
  let chunks :=
    if processor.statsConcentrator && processor.config.agentStatsComputationEnabled then
      concentratorChunks processor.traceUtils.getRootSpanIndex decoded.payload
    else []
  ((chunks.takeWhile (·.2.isSome)).filterMap fun c => c.2.map (c.1, ·), chunks.any (·.2.isNone))

def body (s : Enqueueing D R X H L W) (i : Nat) (r : TraceRequest D R X H) :
    Enqueueing D R X H L W :=
  match decodeTraces processor.config processor.traceUtils r.req with
  | .error response => s.endRequest i r (some response)
  | .ok decoded =>
    let (chunks, panics) := sendToConcentrator processor decoded
    let s := { s with concentrated := s.concentrated ++ chunks }
    if panics then s.endRequest i r none
    else s.setRequest i { r with phase := .rescuing decoded }

/-- The rest of the handler: it spawns the task, which takes the permit over, and answers. -/
def rescue (s : Enqueueing D R X H L W) (i : Nat) (r : TraceRequest D R X H)
    (decoded : DecodedTraces D R X H) (clock : Nat) : Enqueueing D R X H L W :=
  match processor.rescue s.rescueState decoded.payload clock with
  | none => s.endRequest i r none
  | some (payload, rescueState) =>
    let sendDatas := { decoded with payload }.sendDatas processor.traceUtils.encodedLen
    { s.setRequest i { r with
        phase := .enqueueing (Numbered.ofRound i sendDatas)
        response := some .tracesBuffered
        sendDatas } with
      rescueState }

/-- `tx.send(send_data).await`, and the end of the task when it fails. -/
def enqueue (s : Enqueueing D R X H L W) (i : Nat) (r : TraceRequest D R X H)
    (sendData : Numbered (SendData D R X H)) (left : List (Numbered (SendData D R X H))) :
    Option (Enqueueing D R X H L W) :=
  if s.channelClosed then some (s.endRequest i r r.response)
  else if s.channel.length < capacity then
    some { s.setRequest i { r with phase := .enqueueing left } with
      channel := s.channel ++ [sendData], put := s.put ++ [sendData] }
  else none

/-- What the handler or the task of a request does next. -/
def act (s : Enqueueing D R X H L W) (i : Nat) (r : TraceRequest D R X H) :
    EnqueueAction H → Option (Enqueueing D R X H L W)
  | .acquire _ =>
    match r.phase with
    | .acquiring =>
      if 0 < s.enqueuePermits then
        some { s.setRequest i { r with phase := .reading } with
          enqueuePermits := s.enqueuePermits - 1 }
      else none
    | _ => none
  | .permitTimeout _ =>
    match r.phase with
    | .acquiring => some (s.setRequest i { r with phase := .draining })
    | _ => none
  | .drained _ =>
    match r.phase with
    | .draining => some (s.endRequest i r (some .droppedTraces))
    | _ => none
  | .body _ =>
    match r.phase with
    | .reading => some (s.body processor i r)
    | _ => none
  | .rescue _ clock =>
    match r.phase with
    | .rescuing decoded => some (s.rescue processor i r decoded clock)
    | _ => none
  | .drop _ =>
    match r.phase with
    | .enqueueing _ | .ended => none
    | _ => some (s.endRequest i r none)
  | .enqueue _ =>
    match r.phase with
    | .enqueueing (sendData :: left) => s.enqueue capacity i r sendData left
    | _ => none
  | .enqueueEnds _ =>
    match r.phase with
    | .enqueueing [] => some (s.endRequest i r r.response)
    | _ => none
  | _ => none

/-- A request arrives, and is refused at once or waits for a permit. -/
def arrive (s : Enqueueing D R X H L W) (req : HttpRequest H) : Enqueueing D R X H L W :=
  let r : TraceRequest D R X H :=
    match verifyRequestContentLength req.headers processor.config.maxRequestContentLength
        "Error processing traces" with
    | some response => { req, phase := .ended, response := some response }
    | none => { req, phase := .acquiring }
  { s with requests := s.requests ++ [r] }

def step (s : Enqueueing D R X H L W) (a : EnqueueAction H) : Option (Enqueueing D R X H L W) :=
  match a with
  | .request req => some (s.arrive processor req)
  | .recv =>
    match s.channel with
    | _ :: rest => some { s with channel := rest }
    | [] => none
  | .closeChannel => some { s with channelClosed := true }
  | .acquire i | .permitTimeout i | .drained i | .body i | .rescue i _ | .drop i | .enqueue i
  | .enqueueEnds i =>
    match s.requests[i]? with
    | some r => s.act processor capacity i r a
    | none => none

end Step

def init (rescueState : W) : Enqueueing D R X H L W := { rescueState }

/-! ## One request -/

section Tracked

variable (processor : TraceProcessor D R X H W)

/-- The pieces of the request are those of its decoded and rescued payload. -/
def Processed (r : TraceRequest D R X H) : Prop :=
  ∃ decoded rescueState clock payload rescueState',
    decodeTraces processor.config processor.traceUtils r.req = .ok decoded ∧
      processor.rescue rescueState decoded.payload clock = some (payload, rescueState') ∧
      r.sendDatas = { decoded with payload }.sendDatas processor.traceUtils.encodedLen

/-- Where a request is and which of its pieces were put on the channel. -/
inductive Tracked (closed : Bool) (i : Nat) (r : TraceRequest D R X H) :
    List (Numbered (SendData D R X H)) → Prop
  | handled (phase : r.phase.inHandler = true) (response : r.response = none)
      (decodes : ∀ decoded, r.phase = .rescuing decoded →
        decodeTraces processor.config processor.traceUtils r.req = .ok decoded) :
      Tracked closed i r []
  | refused (phase : r.phase = .ended) (response : r.response ≠ some .tracesBuffered) :
      Tracked closed i r []
  | running {placed left} (phase : r.phase = .enqueueing left)
      (response : r.response = some .tracesBuffered) (processed : Processed processor r)
      (all : placed ++ left = Numbered.ofRound i r.sendDatas) :
      Tracked closed i r placed
  | finished {placed} (phase : r.phase = .ended)
      (response : r.response = some .tracesBuffered) (processed : Processed processor r)
      (front : placed <+: Numbered.ofRound i r.sendDatas)
      (all : closed = false → placed = Numbered.ofRound i r.sendDatas) :
      Tracked closed i r placed

variable {processor} {closed : Bool} {i : Nat} {r : TraceRequest D R X H}
  {placed : List (Numbered (SendData D R X H))}

theorem Tracked.of_inHandler (tracked : Tracked processor closed i r placed)
    (phase : r.phase.inHandler = true) :
    placed = [] ∧ r.response = none ∧ ∀ decoded, r.phase = .rescuing decoded →
      decodeTraces processor.config processor.traceUtils r.req = .ok decoded := by
  cases tracked with
  | handled _ response decodes => exact ⟨rfl, response, decodes⟩
  | refused ended =>
    rw [ended] at phase
    cases phase
  | running running =>
    rw [running] at phase
    cases phase
  | finished ended =>
    rw [ended] at phase
    cases phase

theorem Tracked.of_enqueueing (tracked : Tracked processor closed i r placed)
    {left : List (Numbered (SendData D R X H))} (phase : r.phase = .enqueueing left) :
    r.response = some .tracesBuffered ∧ Processed processor r ∧
      placed ++ left = Numbered.ofRound i r.sendDatas := by
  cases tracked with
  | handled handling =>
    rw [phase] at handling
    cases handling
  | refused ended =>
    rw [phase] at ended
    cases ended
  | running running response processed all =>
    rw [phase] at running
    cases running
    exact ⟨response, processed, all⟩
  | finished ended =>
    rw [phase] at ended
    cases ended

theorem Tracked.answered (tracked : Tracked processor closed i r placed)
    (answered : r.response ≠ none) (holds : r.holdsPermit = true) :
    r.response = some .tracesBuffered ∧ ∃ left, r.phase = .enqueueing left := by
  cases tracked with
  | handled _ response => exact absurd response answered
  | running phase response => exact ⟨response, _, phase⟩
  | refused phase =>
    rw [TraceRequest.holdsPermit, phase] at holds
    cases holds
  | finished phase =>
    rw [TraceRequest.holdsPermit, phase] at holds
    cases holds

theorem Tracked.buffered (tracked : Tracked processor closed i r placed)
    (promised : r.response = some .tracesBuffered) :
    Processed processor r ∧ placed <+: Numbered.ofRound i r.sendDatas ∧
      (closed = false → placed ++ r.phase.left = Numbered.ofRound i r.sendDatas) := by
  cases tracked with
  | handled _ response =>
    rw [response] at promised
    cases promised
  | refused _ response => exact absurd promised response
  | running phase _ processed all =>
    rw [phase]
    exact ⟨processed, ⟨_, all⟩, fun _ => all⟩
  | finished phase _ processed front all =>
    rw [phase]
    exact ⟨processed, front, fun isOpen => (List.append_nil placed).trans (all isOpen)⟩

theorem Tracked.eq_nil (tracked : Tracked processor closed i r placed)
    (plain : r.response ≠ some .tracesBuffered) : placed = [] := by
  cases tracked with
  | running _ response => exact absurd response plain
  | finished _ response => exact absurd response plain
  | _ => rfl

/-- Once the channel is closed, less is promised. -/
theorem Tracked.close (tracked : Tracked processor closed i r placed) :
    Tracked processor true i r placed := by
  cases tracked with
  | handled phase response decodes => exact .handled phase response decodes
  | refused phase response => exact .refused phase response
  | running phase response processed all => exact .running phase response processed all
  | finished phase response processed front => exact .finished phase response processed front nofun

end Tracked

/-! ## Steps -/

section Steps

variable (processor : TraceProcessor D R X H W) {capacity : Nat} {s s' : Enqueueing D R X H L W}

structure Inv (s : Enqueueing D R X H L W) : Prop where
  permits : Permits.Conserved TraceRequest.holdsPermit MAX_IN_FLIGHT_ENQUEUES s.enqueuePermits
    s.requests
  tracked : ∀ i r, s.requests[i]? = some r →
    Tracked processor s.channelClosed i r (Numbered.inRound i s.put)
  arrived : ∀ sendData ∈ s.put, sendData.round < s.requests.length

variable {processor}

/-- One request goes on, and nothing changes for the others. -/
theorem Inv.replace (inv : Inv processor s) {i : Nat} {r r' : TraceRequest D R X H}
    (found : s.requests[i]? = some r) {puts : List (Numbered (SendData D R X H))}
    (requests : s'.requests = s.requests.set i r')
    (balance : s'.enqueuePermits + Permits.held TraceRequest.holdsPermit r' =
      s.enqueuePermits + Permits.held TraceRequest.holdsPermit r)
    (closed : s'.channelClosed = s.channelClosed) (put : s'.put = s.put ++ puts)
    (own : ∀ sendData ∈ puts, sendData.round = i)
    (tracked : Tracked processor s.channelClosed i r' (Numbered.inRound i s.put ++ puts)) :
    Inv processor s' := by
  obtain ⟨lt, -⟩ := List.getElem?_eq_some_iff.1 found
  have arrived : ∀ sendData ∈ s'.put, sendData.round < s'.requests.length := by
    rw [put, requests, List.length_set]
    intro sendData mem
    rcases List.mem_append.1 mem with old | new
    · exact inv.arrived sendData old
    · rw [own sendData new]
      exact lt
  refine ⟨?_, ?_, arrived⟩
  · rw [requests]
    exact inv.permits.set found balance
  · intro j other there
    rw [requests] at there
    rw [closed, put, Numbered.inRound_append]
    by_cases same : i = j
    · subst same
      rw [List.getElem?_set_self lt] at there
      cases there
      rw [Numbered.inRound_eq_self i own]
      exact tracked
    · rw [List.getElem?_set_ne same] at there
      have none_ : Numbered.inRound j puts = [] :=
        Numbered.inRound_eq_nil j fun sendData mem => own sendData mem ▸ same
      rw [none_, List.append_nil]
      exact inv.tracked j other there

/-- A handler or a task that ends gives its permit back. -/
theorem Inv.endRequest (inv : Inv processor s) {i : Nat} {r : TraceRequest D R X H}
    (found : s.requests[i]? = some r) {response : Option HttpResponse}
    (tracked : Tracked processor s.channelClosed i { r with phase := .ended, response }
      (Numbered.inRound i s.put)) :
    Inv processor (s.endRequest i r response) :=
  inv.replace found rfl rfl rfl (List.append_nil _).symm (by simp) (by rwa [List.append_nil])

/-- A handler that ends before its task is spawned promises nothing. -/
theorem Inv.refuse (inv : Inv processor s) {i : Nat} {r : TraceRequest D R X H}
    (found : s.requests[i]? = some r) (phase : r.phase.inHandler = true)
    {response : Option HttpResponse} (plain : response ≠ some .tracesBuffered) :
    Inv processor (s.endRequest i r response) := by
  apply inv.endRequest found
  rw [((inv.tracked i r found).of_inHandler phase).1]
  exact .refused rfl plain

/-- A handler goes from one phase to the next. -/
theorem Inv.turn (inv : Inv processor s) {i : Nat} {r : TraceRequest D R X H}
    (found : s.requests[i]? = some r) (phase : r.phase.inHandler = true)
    {next : ProcessPhase D R X H} (next_ : next.inHandler = true)
    (decodes : ∀ decoded, next = .rescuing decoded →
      decodeTraces processor.config processor.traceUtils r.req = .ok decoded) {permits : Nat}
    (balance : permits + next.holdsPermit.toNat = s.enqueuePermits + r.phase.holdsPermit.toNat) :
    Inv processor { s.setRequest i { r with phase := next } with enqueuePermits := permits } := by
  obtain ⟨none_, response, -⟩ := (inv.tracked i r found).of_inHandler phase
  refine inv.replace found rfl balance rfl (List.append_nil _).symm (by simp) ?_
  rw [none_]
  exact .handled next_ response decodes

theorem inv_body (inv : Inv processor s) {i : Nat} {r : TraceRequest D R X H}
    (found : s.requests[i]? = some r) (reading : r.phase = .reading) :
    Inv processor (s.body processor i r) := by
  have phase : r.phase.inHandler = true := by rw [reading]; rfl
  unfold body
  split
  next response refused =>
    apply inv.refuse found phase
    intro same
    exact (plain_of_decodeTraces refused).2 (Option.some.inj same)
  next decoded decodes =>
    have handed (chunks : List (TraceChunk D R × TracerMetadata L)) :
        Inv processor { s with concentrated := s.concentrated ++ chunks } :=
      ⟨inv.permits, inv.tracked, inv.arrived⟩
    simp only
    split
    next => exact (handed _).refuse found phase nofun
    next =>
      refine (handed _).turn found phase rfl ?_ ?_
      · intro other same
        cases same
        exact decodes
      · rw [reading]
        rfl

theorem inv_rescue (inv : Inv processor s) {i : Nat} {r : TraceRequest D R X H}
    {decoded : DecodedTraces D R X H} (found : s.requests[i]? = some r)
    (rescuing : r.phase = .rescuing decoded) (clock : Nat) :
    Inv processor (s.rescue processor i r decoded clock) := by
  have phase : r.phase.inHandler = true := by rw [rescuing]; rfl
  unfold rescue
  split
  next panics => exact inv.refuse found phase nofun
  next payload rescueState rescued =>
    obtain ⟨none_, -, decodes⟩ := (inv.tracked i r found).of_inHandler phase
    refine inv.replace found rfl ?_ rfl (List.append_nil _).symm (by simp) ?_
    · simp only [Permits.held, TraceRequest.holdsPermit, rescuing]
      rfl
    · rw [none_]
      exact .running rfl rfl ⟨decoded, s.rescueState, clock, payload, rescueState,
        decodes decoded rescuing, rescued, rfl⟩ rfl

theorem inv_enqueue (inv : Inv processor s) {i : Nat} {r : TraceRequest D R X H}
    {sendData : Numbered (SendData D R X H)} {left : List (Numbered (SendData D R X H))}
    (found : s.requests[i]? = some r) (running : r.phase = .enqueueing (sendData :: left))
    (h : s.enqueue capacity i r sendData left = some s') : Inv processor s' := by
  obtain ⟨response, processed, all⟩ := (inv.tracked i r found).of_enqueueing running
  unfold enqueue at h
  split at h
  next closed =>
    cases h
    apply inv.endRequest found
    refine .finished rfl response processed ⟨_, all⟩ ?_
    rw [closed]
    nofun
  next =>
    split at h <;> cases h
    refine inv.replace found rfl ?_ rfl rfl ?_ ?_
    · simp only [Permits.held, TraceRequest.holdsPermit, running]
      rfl
    · intro other mem
      rw [List.mem_singleton.1 mem]
      apply Numbered.round_of_mem_ofRound i r.sendDatas
      rw [← all]
      simp
    · exact .running rfl response processed (by simpa using all)

theorem inv_act (inv : Inv processor s) {i : Nat} {r : TraceRequest D R X H} {a : EnqueueAction H}
    (found : s.requests[i]? = some r) (h : s.act processor capacity i r a = some s') :
    Inv processor s' := by
  have handler {p : ProcessPhase D R X H} (phase : r.phase = p) (h : p.inHandler = true) :
      r.phase.inHandler = true := phase ▸ h
  cases a with
  | acquire _ =>
    simp only [act] at h
    split at h
    next acquiring =>
      split at h <;> cases h
      next free =>
        refine inv.turn found (handler acquiring rfl) rfl (fun _ => by simp) ?_
        rw [acquiring]
        exact Nat.sub_add_cancel free
    next => cases h
  | permitTimeout _ =>
    simp only [act] at h
    split at h <;> cases h
    next acquiring =>
      refine inv.turn found (handler acquiring rfl) rfl (fun _ => by simp) ?_
      rw [acquiring]
      rfl
  | drained _ =>
    simp only [act] at h
    split at h <;> cases h
    next draining =>
      apply inv.refuse found (handler draining rfl)
      intro same
      exact HttpResponse.plain_droppedTraces.2 (Option.some.inj same)
  | body _ =>
    simp only [act] at h
    split at h <;> cases h
    next reading => exact inv_body inv found reading
  | rescue _ clock =>
    simp only [act] at h
    split at h <;> cases h
    next decoded rescuing => exact inv_rescue inv found rescuing clock
  | drop _ =>
    simp only [act] at h
    split at h <;> cases h
    next running ended =>
      refine inv.refuse found ?_ (by simp)
      cases phase : r.phase with
      | enqueueing left => exact absurd phase (running left)
      | ended => exact absurd phase ended
      | _ => rfl
  | enqueue _ =>
    simp only [act] at h
    split at h
    next sendData left running => exact inv_enqueue inv found running h
    next => cases h
  | enqueueEnds _ =>
    simp only [act] at h
    split at h <;> cases h
    next running =>
      obtain ⟨response, processed, all⟩ := (inv.tracked i r found).of_enqueueing running
      rw [List.append_nil] at all
      apply inv.endRequest found
      exact .finished rfl response processed (all ▸ List.prefix_rfl) fun _ => all
  | request => cases h
  | recv => cases h
  | closeChannel => cases h

theorem inv_arrive (inv : Inv processor s) (req : HttpRequest H) :
    Inv processor (s.arrive processor req) := by
  have push (r : TraceRequest D R X H) (idle : r.holdsPermit = false)
      (tracked : Tracked processor s.channelClosed s.requests.length r []) :
      Inv processor { s with requests := s.requests ++ [r] } := by
    refine ⟨inv.permits.push idle, ?_, ?_⟩
    · intro i other there
      rcases Nat.lt_or_ge i s.requests.length with old | new
      · rw [List.getElem?_append_left old] at there
        exact inv.tracked i other there
      · rw [List.getElem?_append_right new, List.getElem?_singleton] at there
        split at there <;> cases there
        next last =>
          have none_ : Numbered.inRound i s.put = [] := by
            apply Numbered.inRound_eq_nil
            intro sendData mem
            have := inv.arrived sendData mem
            omega
          rw [none_, show i = s.requests.length by omega]
          exact tracked
    · intro sendData mem
      exact Nat.lt_of_lt_of_le (inv.arrived sendData mem) (by simp)
  unfold arrive
  split
  next response refused =>
    refine push _ rfl (.refused rfl ?_)
    intro same
    exact (plain_of_verify refused).2 (Option.some.inj same)
  next => exact push _ rfl (.handled rfl rfl nofun)

theorem inv_init (rescueState : W) :
    Inv processor (init rescueState : Enqueueing D R X H L W) :=
  ⟨rfl, nofun, nofun⟩

theorem inv_step {a : EnqueueAction H} (inv : Inv processor s)
    (h : s.step processor capacity a = some s') : Inv processor s' := by
  have found {i : Nat} (h : (match s.requests[i]? with
      | some r => s.act processor capacity i r a
      | none => none) = some s') : Inv processor s' := by
    split at h
    next r found => exact inv_act inv found h
    next => cases h
  cases a with
  | request req =>
    cases h
    exact inv_arrive inv req
  | recv =>
    simp only [step] at h
    split at h <;> cases h
    exact ⟨inv.permits, inv.tracked, inv.arrived⟩
  | closeChannel =>
    cases h
    exact ⟨inv.permits, fun i r there => (inv.tracked i r there).close, inv.arrived⟩
  | _ => exact found h

end Steps

/-! ## Runs -/

/-- What holds of the permits and of the pieces at any time. -/
structure Kept (processor : TraceProcessor D R X H W) (capacity : Nat)
    (s : Enqueueing D R X H L W) : Prop where
  bounded : s.requests.countP TraceRequest.holdsPermit ≤ MAX_IN_FLIGHT_ENQUEUES
  conserved : s.enqueuePermits + s.requests.countP TraceRequest.holdsPermit =
    MAX_IN_FLIGHT_ENQUEUES
  idle : (∀ r ∈ s.requests, r.phase = .ended) → s.enqueuePermits = MAX_IN_FLIGHT_ENQUEUES
  /-- After its answer a request holds a permit through its enqueue task alone. -/
  answered : ∀ (i : Nat) (r : TraceRequest D R X H), s.requests[i]? = some r →
    r.response ≠ none → r.holdsPermit = true →
      r.response = some .tracesBuffered ∧ ∃ left, r.phase = .enqueueing left
  /-- Who holds a permit waits for nothing but room on the channel. -/
  progress : ∀ (i : Nat) (r : TraceRequest D R X H), s.requests[i]? = some r →
    r.holdsPermit = true →
    (r.phase.left ≠ [] → s.channelClosed = true ∨ s.channel.length < capacity) →
      ∃ a ∈ [.body i, .rescue i 0, .enqueue i, .enqueueEnds i],
        (s.step processor capacity a).isSome = true
  buffered : ∀ (i : Nat) (r : TraceRequest D R X H), s.requests[i]? = some r →
    r.response = some .tracesBuffered →
    Processed processor r ∧ Numbered.inRound i s.put <+: Numbered.ofRound i r.sendDatas ∧
      (s.channelClosed = false →
        Numbered.inRound i s.put ++ r.phase.left = Numbered.ofRound i r.sendDatas)
  refused : ∀ (i : Nat) (r : TraceRequest D R X H), s.requests[i]? = some r →
    r.response ≠ some .tracesBuffered → Numbered.inRound i s.put = []

section Kept

variable {processor : TraceProcessor D R X H W} {capacity : Nat} {s : Enqueueing D R X H L W}
  {i : Nat} {r : TraceRequest D R X H}

theorem progress_of_holdsPermit (found : s.requests[i]? = some r) (holds : r.holdsPermit = true)
    (room : r.phase.left ≠ [] → s.channelClosed = true ∨ s.channel.length < capacity) :
    ∃ a ∈ [.body i, .rescue i 0, .enqueue i, .enqueueEnds i],
      (s.step processor capacity a).isSome = true := by
  cases phase : r.phase with
  | reading => exact ⟨.body i, by simp, by simp [step, found, act, phase]⟩
  | rescuing decoded => exact ⟨.rescue i 0, by simp, by simp [step, found, act, phase]⟩
  | enqueueing left =>
    cases left with
    | nil => exact ⟨.enqueueEnds i, by simp, by simp [step, found, act, phase]⟩
    | cons sendData left =>
      refine ⟨.enqueue i, by simp, ?_⟩
      simp only [step, found, act, phase, enqueue]
      rcases room (by simp [phase, ProcessPhase.left]) with closed | free
      · rw [if_pos closed]
        rfl
      · split
        · rfl
        · rfl
  | _ =>
    rw [TraceRequest.holdsPermit, phase] at holds
    cases holds

theorem Inv.kept (inv : Inv processor s) : Kept processor capacity s where
  bounded := inv.permits.le
  conserved := inv.permits
  idle ended := inv.permits.eq_of_idle fun r mem => by
    rw [TraceRequest.holdsPermit, ended r mem]
    rfl
  answered i r found := (inv.tracked i r found).answered
  progress _ _ := progress_of_holdsPermit
  buffered i r found := (inv.tracked i r found).buffered
  refused i r found := (inv.tracked i r found).eq_nil

/-- In any order of arriving requests, turns of their handlers and enqueue tasks, and of what the
receiver of the channel does: at most `MAX_IN_FLIGHT_ENQUEUES` requests hold a permit, each permit
is free or held, and the pieces of a request answered as buffered are put on the channel once and in
order, while it is open. -/
theorem permits_and_pieces (processor : TraceProcessor D R X H W) (capacity : Nat)
    (rescueState : W) (actions : List (EnqueueAction H)) (s : Enqueueing D R X H L W)
    (run : Runs.exec (step processor capacity) (init rescueState) actions = some s) :
    Kept processor capacity s := by
  have inv : Inv processor s :=
    Runs.invariant (fun _ _ _ => inv_step) (inv_init rescueState) run
  exact inv.kept

end Kept

/-! ## A run -/

/-- A processor that decodes any body to two payloads without chunks. -/
def twoPayloads : TraceProcessor Unit Unit Unit Unit Unit where
  config := ⟨"", 1000, false, none, some "key"⟩
  statsConcentrator := false
  traceUtils :=
    { Traces := Unit
      getTracesFromRequestBody := fun body =>
        match body with
        | .ok bytes => .ok (bytes.length, ())
        | .error e => .error e
      collectPbTraceChunks := fun _ _ =>
        .ok (.v07 (List.replicate 2 ⟨"", "go", "", "", "", [], ∅, "", "", ""⟩))
      getRootSpanIndex := fun _ => .error ""
      encodedLen := fun _ => 4 }
  rescue := fun w payload _ => some (payload, w)

/-- A request that cannot be read, and one whose task finds the channel closed after a piece. -/
def untilClosed : List (EnqueueAction Unit) :=
  [.request ⟨"POST", "/v0.4/traces", ⟨some (some "1"), false, ()⟩, .error "reset"⟩, .acquire 0,
    .request ⟨"POST", "/v0.4/traces", ⟨some (some "1"), false, ()⟩, .ok [144]⟩, .acquire 1,
    .body 0, .body 1, .rescue 1 0, .enqueue 1, .recv, .closeChannel, .enqueue 1]

theorem permits_and_pieces_untilClosed :
    ∃ s : Enqueueing Unit Unit Unit Unit Unit Unit,
      Runs.exec (step twoPayloads 1) (init ()) untilClosed = some s ∧ s.enqueuePermits = 10 ∧
        Kept twoPayloads 1 s :=
  ⟨_, rfl, rfl, permits_and_pieces twoPayloads 1 () untilClosed _ rfl⟩

end Enqueueing

end ServerlessComponents.TraceAgent
