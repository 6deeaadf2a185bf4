import ServerlessComponents.Library.Runs
import ServerlessComponents.TraceAgent.Processors
import ServerlessComponents.TraceAgent.ProxyFlusher
import ServerlessComponents.TraceAgent.StatsSource

/-!
# Proxied requests on their way to the intake

`proxy_handler` of `mini_agent.rs` puts profiling and Data Streams requests on a bounded channel,
and `start_proxy_flusher` of `proxy_flusher.rs` sends them one after the other, each a few times
when the network fails. Requests arrive, wait for a place on the channel and go away while the
flusher sends.

## Main results

* `accepted_forwarded` — what is sent for the requests answered 200, in the order in which they got
  onto the channel.
* `sent_sanitised` — what a sent request takes over from the one that came in.
-/
namespace ServerlessComponents.TraceAgent.Proxy

open AgentConfig (toLowercase)
open Dogstatsd (StatusCode exists_of_bind_eq_ok)
open HeaderMap (getAll)
open LogsAgent (Bytes)

/-- `PROXY_PAYLOAD_CHANNEL_BUFFER_SIZE`. -/
def proxyPayloadChannelBufferSize : Nat := 10

/-- The configuration with the limits of the handler and of `send_request`. -/
structure QueueConfig extends Config where
  maxRequestContentLength : Nat
  proxyRequestMaxRetries : UInt32
  proxyRequestRetryBackoffBaseMs : UInt64

def ProxyRequestKind.requestName : ProxyRequestKind → String
  | .dataStreams => "data streams request"
  | .profiling => "profiling request"

structure IncomingRequest (M : Type) where
  method : String
  path : String
  headers : M
  body : Except String Bytes

/-- The branches of `trace_endpoint_handler` that call `proxy_handler`. -/
def IncomingRequest.proxyKind {M : Type} (req : IncomingRequest M) : Option ProxyRequestKind :=
  if req.method = "POST" ∧ req.path = DSM_ENDPOINT_PATH then some .dataStreams
  else if req.method = "POST" ∧ req.path = PROFILING_ENDPOINT_PATH then some .profiling
  else none

/-- What the flusher does on the network and between two attempts. -/
inductive Event (M : Type) where
  | sent (builder : RequestBuilder M) (response : Except String StatusCode)
  | slept (milliseconds : UInt64)

/-- The answers of the handlers, the handlers waiting in `send`, the channel and the flusher: the
request it sends with the number of attempts that failed, and all it did so far. A handler that gets
a place on the channel answers without waiting again, so the answers with status 200 are listed in
the order of the places, in which the clients need not see them. -/
structure ProxyQueue (M : Type) where
  answers : List (IncomingRequest M × HttpResponse) := []
  waiting : List (IncomingRequest M) := []
  channel : List (ProxyRequest M) := []
  sending : Option (ProxyRequest M × Nat) := none
  log : List (Event M) := []

namespace ProxyQueue

inductive Action (M : Type) where
  /-- A request comes to `proxy_handler`. -/
  | handle (req : IncomingRequest M)
  /-- A waiting handler gets a place on the channel and answers. -/
  | buffer (i : Nat)
  /-- A waiting handler is dropped with its connection. -/
  | abandon (i : Nat)
  /-- The flusher takes the next request. -/
  | receive
  /-- One turn of the loop of `send_request`, and what the network would answer. -/
  | attempt (response : Except String StatusCode)

section Step

variable {M V : Type} [HeaderMap M V] [HeaderValue V] (config : QueueConfig)

/-- The headers that `verify_request_content_length` reads. -/
def readHeaders (headers : M) : Headers M where
  contentLength := (getAll headers "content-length").head?.map fun value =>
    (HeaderValue.toStr value).toOption
  transferEncoding := !(getAll headers "transfer-encoding").isEmpty
  tracer := headers

/-- `proxy_handler` up to its `send`: an answer, or the request for the channel. -/
def proxyHandler (kind : ProxyRequestKind) (req : IncomingRequest M) :
    HttpResponse ⊕ ProxyRequest M :=
  match verifyRequestContentLength (readHeaders req.headers) config.maxRequestContentLength
    s!"Error processing {kind.requestName}" with
  | some response => .inl response
  | none =>
    match req.body with
    | .error e =>
      .inl (logAndCreateHttpResponse s!"Error reading {kind.requestName} body: {e}" ⟨400⟩)
    | .ok body => .inr ⟨req.headers, body, kind.intakeUrl config.toConfig, kind⟩

/-- The request a handler puts on the channel, if it comes that far. -/
def proxied (req : IncomingRequest M) : Option (ProxyRequest M) :=
  match req.proxyKind with
  | none => none
  | some kind => (proxyHandler config kind req).getRight?

def successfullyBuffered (kind : ProxyRequestKind) : HttpResponse :=
  logAndCreateHttpResponse s!"Successfully buffered {kind.requestName} to be flushed" ⟨200⟩

/-- Exponential backoff; a release build wraps it at the end of `u64`. -/
def backoffMs (attempts : Nat) : UInt64 :=
  config.proxyRequestRetryBackoffBaseMs * 2 ^ (attempts - 1)

/-- One turn of the loop of `send_request` after `attempts` failed ones: what is logged, and the
attempts so far when it goes on. -/
def sendRequest (request : ProxyRequest M) (attempts : Nat) (response : Except String StatusCode) :
    List (Event M) × Option Nat :=
  match createRequest config.toConfig request with
  | .error _ => ([], none)
  | .ok builder =>
    match response with
    | .ok _ => ([.sent builder response], none)
    | .error _ =>
      if config.proxyRequestMaxRetries.toNat ≤ attempts + 1 then ([.sent builder response], none)
      else
        ([.sent builder response, .slept (backoffMs config (attempts + 1))], some (attempts + 1))

/-- The channel is not closed: the flusher ends only when all handlers are gone. -/
def step (s : ProxyQueue M) : Action M → Option (ProxyQueue M)
  | .handle req =>
    req.proxyKind.map fun kind =>
      match proxyHandler config kind req with
      | .inl response => { s with answers := s.answers ++ [(req, response)] }
      | .inr _ => { s with waiting := s.waiting ++ [req] }
  | .buffer i =>
    match s.waiting[i]? with
    | none => none
    | some req =>
      match req.proxyKind, proxied config req with
      | some kind, some request =>
        if s.channel.length < proxyPayloadChannelBufferSize then
          some { s with
            answers := s.answers ++ [(req, successfullyBuffered kind)]
            waiting := s.waiting.eraseIdx i, channel := s.channel ++ [request] }
        else none
      | _, _ => none
  | .abandon i => some { s with waiting := s.waiting.eraseIdx i }
  | .receive =>
    match s.sending, s.channel with
    | none, request :: rest => some { s with sending := some (request, 0), channel := rest }
    | _, _ => none
  | .attempt response =>
    match s.sending with
    | none => none
    | some (request, attempts) =>
      let (events, goesOn) := sendRequest config request attempts response
      some { s with
        sending := goesOn.map fun attempts => (request, attempts), log := s.log ++ events }

/-! ## What is sent for a request -/

/-- The requests answered 200, in the order in which they got onto the channel. -/
def accepted (s : ProxyQueue M) : List (ProxyRequest M) :=
  (s.answers.filter fun answer => answer.2.status = ⟨200⟩).filterMap fun answer =>
    proxied config answer.1

/-- Attempts that meet the given network errors, each with the backoff after it. -/
def failures (builder : RequestBuilder M) (errors : List String) : List (Event M) :=
  (errors.mapIdx fun k e => [.sent builder (.error e), .slept (backoffMs config (k + 1))]).flatten

/-- The retries leave room for so many attempts, and there is always one. -/
def maxAttempts : Nat := max 1 config.proxyRequestMaxRetries.toNat

/-- What the flusher does for a request it is done with: nothing, when no request can be made of it,
and otherwise attempts with one and the same content, up to the first response or the last attempt
there is room for. -/
inductive Forwarded (request : ProxyRequest M) : List (Event M) → Prop
  | refused (e : String) (refused : createRequest config.toConfig request = .error e) :
    Forwarded request []
  | responded (builder : RequestBuilder M) (errors : List String) (status : StatusCode)
    (created : createRequest config.toConfig request = .ok builder)
    (room : errors.length < maxAttempts config) :
    Forwarded request (failures config builder errors ++ [.sent builder (.ok status)])
  | givenUp (builder : RequestBuilder M) (errors : List String) (e : String)
    (created : createRequest config.toConfig request = .ok builder)
    (full : errors.length + 1 = maxAttempts config) :
    Forwarded request (failures config builder errors ++ [.sent builder (.error e)])

/-- What it did so far for the request it is sending. -/
inductive Underway (request : ProxyRequest M) : Nat → List (Event M) → Prop
  | started : Underway request 0 []
  | failed (builder : RequestBuilder M) (errors : List String)
    (created : createRequest config.toConfig request = .ok builder)
    (room : errors.length < maxAttempts config) :
    Underway request errors.length (failures config builder errors)

/-- The log is what the accepted requests give rise to, one request after the other in the order in
which they got onto the channel, and the channel has the rest of them. -/
structure InOrder (s : ProxyQueue M) (done : List (ProxyRequest M)) (events : List (List (Event M)))
    (now : List (Event M)) : Prop where
  answered : s.accepted config = done ++ (s.sending.map Prod.fst).toList ++ s.channel
  bounded : s.channel.length ≤ proxyPayloadChannelBufferSize
  forwarded : List.Forall₂ (Forwarded config) done events
  underway : match s.sending with
    | none => now = []
    | some (request, attempts) => Underway config request attempts now
  log : s.log = events.flatten ++ now

end Step

section Invariant

variable {M V : Type} [HeaderMap M V] [HeaderValue V] {config : QueueConfig}
  {s s' : ProxyQueue M} {done : List (ProxyRequest M)} {events : List (List (Event M))}
  {now : List (Event M)}

/-- No answer before the request is on the channel is a 200. -/
theorem status_of_proxyHandler {kind : ProxyRequestKind} {req : IncomingRequest M}
    {response : HttpResponse} (h : proxyHandler config kind req = .inl response) :
    response.status ≠ ⟨200⟩ := by
  unfold proxyHandler at h
  split at h
  next refused =>
    obtain rfl := Sum.inl.inj h
    unfold verifyRequestContentLength at refused
    grind [logAndCreateHttpResponse]
  next =>
    split at h
    next =>
      obtain rfl := Sum.inl.inj h
      simp [logAndCreateHttpResponse]
    next => cases h

theorem accepted_refuse {req : IncomingRequest M} {response : HttpResponse}
    (refused : response.status ≠ ⟨200⟩) :
    ({ s with answers := s.answers ++ [(req, response)] } : ProxyQueue M).accepted config =
      s.accepted config := by
  simp [accepted, refused]

theorem failures_concat (builder : RequestBuilder M) (errors : List String) (e : String) :
    failures config builder (errors ++ [e]) =
      failures config builder errors ++
        [.sent builder (.error e), .slept (backoffMs config (errors.length + 1))] := by
  simp [failures, List.mapIdx_append]

/-- Every attempt so far failed, and was made with what `create_request` gives. -/
theorem Underway.errors {request : ProxyRequest M} {attempts : Nat} {builder : RequestBuilder M}
    (underway : Underway config request attempts now)
    (created : createRequest config.toConfig request = .ok builder) :
    ∃ errors, attempts = errors.length ∧ now = failures config builder errors ∧
      errors.length < maxAttempts config := by
  cases underway with
  | started => exact ⟨[], rfl, rfl, by simp [maxAttempts]⟩
  | failed builder' errors created' room =>
    obtain rfl : builder = builder' := Except.ok.inj (created.symm.trans created')
    exact ⟨errors, rfl, rfl, room⟩

/-- One more attempt finishes the request or leaves room for another. -/
theorem Underway.attempt {request : ProxyRequest M} {attempts : Nat}
    (underway : Underway config request attempts now) (response : Except String StatusCode) :
    match (sendRequest config request attempts response).2 with
    | none => Forwarded config request (now ++ (sendRequest config request attempts response).1)
    | some attempts' => Underway config request attempts'
        (now ++ (sendRequest config request attempts response).1) := by
  unfold sendRequest
  cases created : createRequest config.toConfig request with
  | error e =>
    cases underway with
    | started => exact .refused e created
    | failed builder errors created' room => cases created.symm.trans created'
  | ok builder =>
    obtain ⟨errors, rfl, rfl, room⟩ := underway.errors created
    cases response with
    | ok status => exact .responded builder errors status created room
    | error e =>
      simp only
      split_ifs with last
      · refine .givenUp builder errors e created ?_
        unfold maxAttempts at room ⊢
        omega
      · have more : (errors ++ [e]).length < maxAttempts config := by
          simp only [List.length_append, List.length_cons, List.length_nil, maxAttempts]
          omega
        have next := Underway.failed builder (errors ++ [e]) created more
        simpa [failures_concat] using next

/-! ## What a step preserves -/

theorem InOrder.handle {req : IncomingRequest M} (inv : InOrder config s done events now)
    (h : s.step config (.handle req) = some s') : InOrder config s' done events now := by
  obtain ⟨kind, -, rfl⟩ := Option.map_eq_some_iff.1 h
  cases handled : proxyHandler config kind req with
  | inl response =>
    exact { inv with
      answered := (accepted_refuse (status_of_proxyHandler handled)).trans inv.answered }
  | inr request => exact { inv with }

theorem InOrder.buffer {i : Nat} (inv : InOrder config s done events now)
    (h : s.step config (.buffer i) = some s') : InOrder config s' done events now := by
  simp only [step] at h
  split at h
  next => cases h
  next req _ =>
    split at h
    next kind request _ put =>
      split at h
      next room =>
        cases h
        refine ⟨?_, ?_, inv.forwarded, inv.underway, inv.log⟩
        · have old := inv.answered
          simp only [accepted] at old
          simp [accepted, successfullyBuffered, logAndCreateHttpResponse, put, old]
        · simp only [List.length_append, List.length_cons, List.length_nil]
          omega
      next => cases h
    next => cases h

theorem InOrder.receive (inv : InOrder config s done events now)
    (h : s.step config .receive = some s') : InOrder config s' done events now := by
  simp only [step] at h
  split at h
  next request rest idle next_ =>
    cases h
    have old := inv.answered
    have bounded := inv.bounded
    have underway := inv.underway
    simp only [idle, next_, List.length_cons] at old bounded underway
    subst underway
    exact ⟨by simpa [accepted] using old, by simp only; omega, inv.forwarded, .started, inv.log⟩
  next => cases h

theorem InOrder.attempt {response : Except String StatusCode}
    (inv : InOrder config s done events now) (h : s.step config (.attempt response) = some s') :
    ∃ done' events' now', InOrder config s' done' events' now' := by
  obtain ⟨old, bounded, forwarded, underway, log⟩ := inv
  simp only [step] at h
  split at h
  next => cases h
  next request attempts sending =>
    cases h
    rw [sending] at old underway
    have attempted := Underway.attempt underway response
    cases goesOn : (sendRequest config request attempts response).2 with
    | none =>
      rw [goesOn] at attempted
      refine ⟨done ++ [request], events ++ [_], [], ?_, bounded,
        List.rel_append forwarded (.cons attempted .nil), rfl, ?_⟩
      · simpa [accepted] using old
      · simp [log]
    | some attempts' =>
      rw [goesOn] at attempted
      refine ⟨done, events, _, by simpa [accepted] using old, bounded, forwarded, attempted, ?_⟩
      simp [log]

theorem inOrder_step {a : Action M} (inv : ∃ done events now, InOrder config s done events now)
    (h : s.step config a = some s') : ∃ done events now, InOrder config s' done events now := by
  obtain ⟨done, events, now, inv⟩ := inv
  cases a with
  | handle => exact ⟨done, events, now, inv.handle h⟩
  | buffer => exact ⟨done, events, now, inv.buffer h⟩
  | abandon =>
    cases h
    exact ⟨done, events, now, { inv with }⟩
  | receive => exact ⟨done, events, now, inv.receive h⟩
  | attempt => exact inv.attempt h

/-- In any order of requests, departures, places on the channel and attempts: the flusher goes
through the requests answered 200 in the order in which they got onto the channel, never two at a
time. It sends each with one content, up to the first response and no more often than the retries
allow, those apart of which no request can be made; those it has not come to are on the channel,
which never holds more than ten. -/
theorem accepted_forwarded (config : QueueConfig) (actions : List (Action M)) (s : ProxyQueue M)
    (run : Runs.exec (step config) {} actions = some s) :
    ∃ done events now, InOrder config s done events now :=
  Runs.invariant (fun _ _ _ inv h => inOrder_step inv h)
    ⟨[], [], [], rfl, Nat.zero_le _, .nil, rfl, rfl⟩ run

/-! ## What is taken over from the tracer -/

/-- A request as it is sent for one that came in: to the intake of its kind under the configured
key, whatever key it came with, and otherwise with its own lines, those about the connection apart.
-/
structure Sanitised (config : QueueConfig) (req : IncomingRequest M) (kind : ProxyRequestKind)
    (builder : RequestBuilder M) : Prop where
  route : req.proxyKind = some kind
  verified : verifyRequestContentLength (readHeaders req.headers) config.maxRequestContentLength
    s!"Error processing {kind.requestName}" = none
  url : builder.url = kind.intakeUrl config.toConfig
  body : req.body = .ok builder.body
  timeout : builder.timeoutSecs = config.proxyRequestTimeoutSecs
  key : ∃ apiKey value, apiKeyForKind config.toConfig kind = some apiKey ∧
    HeaderValue.asBytes value = Utf8.encode apiKey.toList ∧
    getAll builder.headers "DD-API-KEY" = [value]
  connection : ∀ name ∈ ["host", "content-length"], getAll builder.headers name = []
  others : ∀ name, toLowercase name ∉ ["host", "content-length", "dd-api-key",
      toLowercase DD_ADDITIONAL_TAGS_HEADER] →
    getAll builder.headers name = getAll req.headers name

theorem proxied_eq_some {req : IncomingRequest M} {request : ProxyRequest M}
    (h : proxied config req = some request) :
    ∃ kind body, req.proxyKind = some kind ∧ req.body = .ok body ∧
      verifyRequestContentLength (readHeaders req.headers) config.maxRequestContentLength
        s!"Error processing {kind.requestName}" = none ∧
      request = ⟨req.headers, body, kind.intakeUrl config.toConfig, kind⟩ := by
  unfold proxied at h
  split at h
  next => cases h
  next kind route =>
    unfold proxyHandler at h
    split at h
    next => cases h
    next verified =>
      split at h
      next => cases h
      next body read =>
        cases h
        exact ⟨kind, body, route, read, verified, rfl⟩

/-- The headers of a request that is sent: two are taken out, two are set. -/
theorem headers_of_createRequest {request : ProxyRequest M} {builder : RequestBuilder M}
    (created : createRequest config.toConfig request = .ok builder) :
    ∃ apiKey tagLine keyLine, apiKeyForKind config.toConfig request.kind = some apiKey ∧
      HeaderValue.parse apiKey = .ok keyLine ∧
      builder = ⟨request.targetUrl,
        HeaderMap.insert (HeaderMap.insert
          (HeaderMap.remove (HeaderMap.remove request.headers "host") "content-length")
          DD_ADDITIONAL_TAGS_HEADER tagLine) "DD-API-KEY" keyLine,
        config.proxyRequestTimeoutSecs, request.body⟩ := by
  obtain ⟨apiKey, required, created⟩ := exists_of_bind_eq_ok created
  obtain ⟨tags, sent, created⟩ := exists_of_bind_eq_ok created
  obtain ⟨tagged, tagsInserted, created⟩ := exists_of_bind_eq_ok created
  obtain ⟨keyed, keyInserted, created⟩ := exists_of_bind_eq_ok created
  cases created
  unfold requireApiKey at required
  rw [insertTags, List.isEmpty_eq_false_iff.2 (sentTags_ne_nil sent)] at tagsInserted
  unfold insertApiKey at keyInserted
  cases configured : apiKeyForKind config.toConfig request.kind with
  | none => simp [configured] at required
  | some key =>
    obtain rfl : key = apiKey := by simpa [configured] using required
    cases parsedTags : HeaderValue.parse (V := V) (",".intercalate tags) with
    | error e => simp [parsedTags] at tagsInserted
    | ok tagLine =>
      cases parsedKey : HeaderValue.parse (V := V) key with
      | error e => simp [parsedKey] at keyInserted
      | ok keyLine =>
        simp [parsedTags] at tagsInserted
        simp [parsedKey] at keyInserted
        exact ⟨key, tagLine, keyLine, rfl, parsedKey, by rw [← keyInserted, ← tagsInserted]⟩

theorem sanitised_of_createRequest {req : IncomingRequest M} {request : ProxyRequest M}
    {builder : RequestBuilder M} (put : proxied config req = some request)
    (created : createRequest config.toConfig request = .ok builder) :
    ∃ kind, Sanitised config req kind builder := by
  obtain ⟨kind, body, route, read, verified, rfl⟩ := proxied_eq_some put
  obtain ⟨apiKey, tagLine, keyLine, configured, parsed, rfl⟩ := headers_of_createRequest created
  have key : toLowercase "DD-API-KEY" = "dd-api-key" := by decide
  have host : toLowercase "host" = "host" := by decide
  have length : toLowercase "content-length" = "content-length" := by decide
  refine ⟨kind, route, verified, rfl, read, rfl, ?_, ?_, ?_⟩
  · exact ⟨apiKey, keyLine, configured, HeaderValue.asBytes_of_parse parsed,
      by rw [HeaderMap.getAll_insert, if_pos rfl]⟩
  · have tags : toLowercase DD_ADDITIONAL_TAGS_HEADER = "x-datadog-additional-tags" := by decide
    intro name mem
    simp only [List.mem_cons, List.not_mem_nil, or_false] at mem
    obtain rfl | rfl := mem <;>
      simp [HeaderMap.getAll_insert, HeaderMap.getAll_remove, key, host, length, tags]
  · intro name other
    simp only [List.mem_cons, List.not_mem_nil, or_false, not_or] at other
    simp [HeaderMap.getAll_insert, HeaderMap.getAll_remove, key, host, length, other]

/-- What is sent was made by `create_request`. -/
theorem created_of_sent {request : ProxyRequest M} {builder builder' : RequestBuilder M}
    {response last : Except String StatusCode} {errors : List String}
    (created : createRequest config.toConfig request = .ok builder')
    (h : .sent builder response ∈ failures config builder' errors ++ [.sent builder' last]) :
    createRequest config.toConfig request = .ok builder := by
  simp only [failures, List.mem_append, List.mem_flatten, List.mem_mapIdx] at h
  obtain ⟨_, ⟨k, _, rfl⟩, mem⟩ | mem := h
  all_goals
    obtain ⟨rfl, -⟩ : builder = builder' ∧ _ := by simpa using mem
    exact created

theorem Forwarded.created {request : ProxyRequest M} {builder : RequestBuilder M}
    {response : Except String StatusCode} (forwarded : Forwarded config request now)
    (h : .sent builder response ∈ now) : createRequest config.toConfig request = .ok builder := by
  cases forwarded with
  | refused => cases h
  | responded _ _ _ created => exact created_of_sent created h
  | givenUp _ _ _ created => exact created_of_sent created h

/-- Whatever was sent was made from an accepted request. -/
theorem InOrder.created {builder : RequestBuilder M} {response : Except String StatusCode}
    (inv : InOrder config s done events now) (h : .sent builder response ∈ s.log) :
    ∃ request ∈ s.accepted config, createRequest config.toConfig request = .ok builder := by
  rw [inv.log] at h
  rw [inv.answered]
  rcases List.mem_append.1 h with finished | current
  · obtain ⟨group, mem, sent⟩ := List.mem_flatten.1 finished
    obtain ⟨i, lt, rfl⟩ := List.getElem_of_mem mem
    have lt' : i < done.length := by rwa [inv.forwarded.length_eq]
    have forwarded := inv.forwarded.get lt' lt
    exact ⟨done[i], by simp, forwarded.created sent⟩
  · have underway := inv.underway
    cases sending : s.sending with
    | none =>
      rw [sending] at underway
      simp [underway] at current
    | some pair =>
      obtain ⟨request, attempts⟩ := pair
      rw [sending] at underway
      cases underway with
      | started => cases current
      | failed builder' errors created room =>
        have sent := List.mem_append_left [.sent builder' response] current
        exact ⟨request, by simp, created_of_sent created sent⟩

/-- Whatever is sent in a run is sent for a request of the tracer that was verified, read and
answered 200: to the intake of its kind, with the configured key in the place of any key it carried,
without its connection headers and otherwise with its own lines and body. -/
theorem sent_sanitised (config : QueueConfig) (actions : List (Action M)) (s : ProxyQueue M)
    (run : Runs.exec (step config) {} actions = some s) (builder : RequestBuilder M)
    (response : Except String StatusCode) (sent : .sent builder response ∈ s.log) :
    ∃ answer ∈ s.answers, answer.2.status = ⟨200⟩ ∧
      ∃ kind, Sanitised config answer.1 kind builder := by
  have inv := Runs.invariant (fun _ _ _ inv h => inOrder_step inv h)
    (⟨[], [], [], rfl, Nat.zero_le _, .nil, rfl, rfl⟩ :
      ∃ done events now, InOrder config ({} : ProxyQueue M) done events now) run
  obtain ⟨done, events, now, inv⟩ := inv
  obtain ⟨request, mem, created⟩ := inv.created sent
  obtain ⟨answer, answered, put⟩ := List.mem_filterMap.1 mem
  obtain ⟨there, ok⟩ := List.mem_filter.1 answered
  exact ⟨answer, there, by simpa using ok, sanitised_of_createRequest put created⟩

end Invariant

/-! ## A request sent twice -/

/-- The function of the examples, with the limits of the agent. -/
def queueConfig : QueueConfig where
  toConfig := functionConfig
  maxRequestContentLength := 10 * 1024 * 1024
  proxyRequestMaxRetries := 3
  proxyRequestRetryBackoffBaseMs := 100

/-- A request for the pipeline stats that carries a key of its own. -/
def keyedRequest : IncomingRequest Lines where
  method := "POST"
  path := DSM_ENDPOINT_PATH
  headers :=
    ⟨[("content-length", Utf8.encode "0".toList), ("Dd-Api-Key", Utf8.encode "own".toList)]⟩
  body := .ok []

def sentTwice : List (Action Lines) :=
  [.handle keyedRequest, .buffer 0, .receive, .attempt (.error "connection reset"),
    .attempt (.ok ⟨202⟩)]

theorem accepted_forwarded_twice :
    ∃ s, Runs.exec (step queueConfig) {} sentTwice = some s ∧
      ∃ done events now, InOrder queueConfig s done events now := by
  obtain ⟨s, run⟩ := Option.isSome_iff_exists.1 (show
    (Runs.exec (step queueConfig) {} sentTwice).isSome = true by decide +kernel)
  exact ⟨s, run, accepted_forwarded queueConfig sentTwice s run⟩

theorem sent_sanitised_twice :
    ∃ s builder response, Runs.exec (step queueConfig) {} sentTwice = some s ∧
      .sent builder response ∈ s.log ∧ ∃ answer ∈ s.answers, answer.2.status = ⟨200⟩ ∧
        ∃ kind, Sanitised queueConfig answer.1 kind builder := by
  have sent : (Runs.exec (step queueConfig) {} sentTwice).any
      (fun s => s.log.any fun e => e matches .sent _ _) = true := by decide +kernel
  obtain ⟨s, run, sent⟩ := (Option.any_eq_true ..).1 sent
  obtain ⟨event, mem, sent⟩ := List.any_eq_true.1 sent
  cases event with
  | slept => cases sent
  | sent builder response =>
    exact ⟨s, builder, response, run, mem,
      sent_sanitised queueConfig sentTwice s run builder response mem⟩

end ProxyQueue

end ServerlessComponents.TraceAgent.Proxy
