import ServerlessComponents.AgentConfig.Value
import ServerlessComponents.Library.SortedInsert
import ServerlessComponents.Library.Utf8Lossy

/-!
# The mock intake

`lib.rs` of `datadog-mock-intake`: requests arrive, their bodies are read, they are handled off the
async worker, and each is recorded when its handler is done. Any number of requests is on its way at
once; what they share is the two counters and the captures.

The decoders and decompressors are other packages'; they are parameters. What a handler writes
outside of the server is in `Summaries` and `Dumps`.

## Main definitions

* `Captured.record` — a request and its payload become visible together.
* `handleStats`, `handlePlain` — the endpoint handlers.
* `step` — one request goes on.
-/
namespace ServerlessComponents.MockIntake

open AgentConfig (toLowercase)

/-- On the wire body, before decompression. -/
def MAX_BODY_SIZE : Nat := 2097152

def MAX_DECOMPRESSED_SIZE : Nat := 64 * 1024 * 1024

inductive StatusCode where
  /-- 202 -/
  | accepted
  /-- 400 -/
  | badRequest
  /-- 404 -/
  | notFound
  /-- 405 -/
  | methodNotAllowed
  /-- 413 -/
  | payloadTooLarge
  /-- 415 -/
  | unsupportedMediaType
  /-- 500 -/
  | internalServerError
  deriving DecidableEq, Repr

/-- The APM endpoints the intake decodes. -/
inductive Endpoint where
  | stats
  | traces
  | pipelineStats
  deriving DecidableEq, Repr

def Endpoint.fromPath : String → Option Endpoint
  | "/api/v0.2/stats" => some .stats
  | "/api/v0.2/traces" => some .traces
  | "/api/v0.1/pipeline_stats" => some .pipelineStats
  | _ => none

/-- The headers in the order of their map, with lowercase names. -/
abbrev HeaderMap := List (String × List UInt8)

/-! ## Bodies -/

inductive DecompressError where
  | unsupportedEncoding (encoding : String)
  | decode (message : String)
  deriving DecidableEq, Repr

/-- What a reader gives until it ends or fails. -/
structure Reader where
  bytes : List UInt8
  error : Option String := none

/-- The functions of the other packages, for the payloads `S` of `stats`, `A` of `traces` and `P` of
`pipeline_stats`. -/
structure Codecs (S A P : Type) where
  gzDecoder : List UInt8 → Reader
  zstdDecoder : List UInt8 → Except String Reader
  statsFromSlice : List UInt8 → Except String S
  agentPayloadDecode : List UInt8 → Except String A
  pipelineStatsFromSlice : List UInt8 → Except String P

def contentEncoding (headers : HeaderMap) : String :=
  match headers.lookup "content-encoding" with
  | none => "identity"
  | some v => Utf8.decodeLossy v

/-- The reader is asked for one byte more than the cap; an error after that is not met. -/
def readCapped (reader : Reader) (cap : Nat) : Except String (List UInt8) :=
  if cap < reader.bytes.length then
    .error s!"decompressed body exceeds {cap} byte cap, rejecting as a likely decompression bomb"
  else
    match reader.error with
    | some e => .error s!"read failed: {e}"
    | none => .ok reader.bytes

section Handlers

variable {S A P : Type} (codecs : Codecs S A P)

def decompress (headers : HeaderMap) (body : List UInt8) : Except DecompressError (List UInt8) :=
  match toLowercase (contentEncoding headers) with
  | "" | "identity" => .ok body
  | "gzip" =>
    match readCapped (codecs.gzDecoder body) MAX_DECOMPRESSED_SIZE with
    | .ok out => .ok out
    | .error e => .error (.decode s!"mock_intake: gzip decode failed: {e}")
  | "zstd" =>
    match codecs.zstdDecoder body with
    | .error e => .error (.decode s!"mock_intake: zstd decoder init failed: {e}")
    | .ok decoder =>
      match readCapped decoder MAX_DECOMPRESSED_SIZE with
      | .ok out => .ok out
      | .error e => .error (.decode s!"mock_intake: zstd decode failed: {e}")
  | other => .error (.unsupportedEncoding other)

/-! ## Handlers -/

/-- A decoded payload the intake accepted. -/
inductive Accepted (S A P : Type) where
  | stats (payload : S)
  | traces (payload : A)
  | pipelineStats (payload : P)
  deriving DecidableEq, Repr

structure HandledRequest (T : Type) where
  status : StatusCode
  decoded : Option T

/-- The end of every handler: the payload is passed on if it was accepted. -/
def HandledRequest.finish {T : Type} (handled : HandledRequest T) (wrap : T → Accepted S A P) :
    StatusCode × Option (Accepted S A P) :=
  (handled.status,
    (handled.decoded.filter fun _ => handled.status = .accepted).map wrap)

/-- Failed to decode, or rejected by failure injection. -/
def failureStatus (injectFailure : Bool) : StatusCode :=
  if injectFailure then .internalServerError else .badRequest

def decompressFailureStatus : DecompressError → StatusCode
  | .unsupportedEncoding _ => .unsupportedMediaType
  | .decode _ => .badRequest

/-- The attempt that took its number; it is decoded also when it is going to be rejected. -/
def decodeStats (injectFailure : Bool) (result : Except DecompressError (List UInt8)) :
    HandledRequest S :=
  match result with
  | .ok d =>
    match codecs.statsFromSlice d with
    | .ok payload => ⟨if injectFailure then .internalServerError else .accepted, some payload⟩
    | .error _ => ⟨failureStatus injectFailure, none⟩
  | .error _ => ⟨failureStatus injectFailure, none⟩

/-- The handler of `stats` and `stats_attempts` after it; unsupported encodings do not count. -/
def handleStats (failStatsFirstN statsAttempts : Nat) (headers : HeaderMap) (body : List UInt8) :
    (StatusCode × Option (Accepted S A P)) × Nat :=
  match decompress codecs headers body with
  | .error (.unsupportedEncoding _) =>
    (HandledRequest.finish ⟨.unsupportedMediaType, none⟩ .stats, statsAttempts)
  | result =>
    let attempt := statsAttempts + 1
    let injectFailure : Bool := attempt ≤ failStatsFirstN
    ((decodeStats codecs injectFailure result).finish .stats, attempt)

/-- `handle_traces` and `handle_pipeline_stats`, which differ in their decoder. -/
def handlePlain {T : Type} (decode : List UInt8 → Except String T) (wrap : T → Accepted S A P)
    (headers : HeaderMap) (body : List UInt8) : StatusCode × Option (Accepted S A P) :=
  let handled : HandledRequest T :=
    match decompress codecs headers body with
    | .ok d =>
      match decode d with
      | .ok payload => ⟨.accepted, some payload⟩
      | .error _ => ⟨.badRequest, none⟩
    | .error e => ⟨decompressFailureStatus e, none⟩
  handled.finish wrap

def handleTraces (headers : HeaderMap) (body : List UInt8) :
    StatusCode × Option (Accepted S A P) :=
  handlePlain codecs codecs.agentPayloadDecode .traces headers body

def handlePipelineStats (headers : HeaderMap) (body : List UInt8) :
    StatusCode × Option (Accepted S A P) :=
  handlePlain codecs codecs.pipelineStatsFromSlice .pipelineStats headers body

/-- The handler of the endpoint, and `stats_attempts` after it. -/
def handleEndpoint (failStatsFirstN statsAttempts : Nat) (endpoint : Endpoint)
    (headers : HeaderMap) (body : List UInt8) : (StatusCode × Option (Accepted S A P)) × Nat :=
  match endpoint with
  | .stats => handleStats codecs failStatsFirstN statsAttempts headers body
  | .traces => (handleTraces codecs headers body, statsAttempts)
  | .pipelineStats => (handlePipelineStats codecs headers body, statsAttempts)

end Handlers

/-! ## Captures -/

structure CapturedRequest where
  method : String
  path : String
  headers : List (String × String)
  body : List UInt8
  deriving DecidableEq, Repr

/-- Each entry is tagged with its request id, and each list is sorted by it. -/
structure Captured (S A P : Type) where
  requests : List (Nat × CapturedRequest) := []
  stats : List (Nat × S) := []
  traces : List (Nat × A) := []
  pipelineStats : List (Nat × P) := []
  deriving DecidableEq, Repr

/-- `partition_point` and `insert`. -/
def insertSorted {T : Type} (entries : List (Nat × T)) (requestId : Nat) (item : T) :
    List (Nat × T) :=
  SortedInsert.insert entries requestId item

/-- The items of an id-tagged list. -/
def items {T : Type} (entries : List (Nat × T)) : List T := entries.map (·.2)

namespace Captured

variable {S A P : Type}

def record (c : Captured S A P) (requestId : Nat) (request : CapturedRequest)
    (accepted : Option (Accepted S A P)) : Captured S A P :=
  let c := { c with requests := insertSorted c.requests requestId request }
  match accepted with
  | some (.stats payload) => { c with stats := insertSorted c.stats requestId payload }
  | some (.traces payload) => { c with traces := insertSorted c.traces requestId payload }
  | some (.pipelineStats payload) =>
    { c with pipelineStats := insertSorted c.pipelineStats requestId payload }
  | none => c

/-- What readers see of one path. -/
def requestsForPath (c : Captured S A P) (path : String) : List CapturedRequest :=
  (c.requests.filter fun entry => entry.2.path = path).map (·.2)

def statsPayloads (c : Captured S A P) : List S := items c.stats

def tracePayloads (c : Captured S A P) : List A := items c.traces

def pipelineStatsPayloads (c : Captured S A P) : List P := items c.pipelineStats

end Captured

/-! ## Requests on their way -/

/-- What a handler gives; one that panics gives a 500 and no payload. -/
structure Outcome (S A P : Type) where
  status : StatusCode
  accepted : Option (Accepted S A P)
  panicked : Bool := false

inductive Phase (S A P : Type) where
  | reading
  /-- The body is read, and the blocking task has not called the handler yet. -/
  | handling (captured : CapturedRequest)
  | handled (captured : CapturedRequest) (outcome : Outcome S A P)
  /-- Completed: the capture is recorded, and the status is the response. -/
  | recorded (captured : CapturedRequest) (outcome : Outcome S A P)
  /-- The body is too large or cannot be read. -/
  | rejected (status : StatusCode)
  | abandoned

/-- A POST to a supported endpoint. -/
structure Attempt (S A P : Type) where
  requestId : Nat
  endpoint : Endpoint
  path : String
  headers : HeaderMap
  phase : Phase S A P := .reading

def Attempt.capture {S A P : Type} (a : Attempt S A P) (body : List UInt8) : CapturedRequest where
  method := "POST"
  path := a.path
  headers := a.headers.map fun (k, v) => (k, Utf8.decodeLossy v)
  body

/-- Header values that are text are captured as they are. -/
theorem Attempt.capture_headers_of_text {S A P : Type} {a : Attempt S A P}
    {texts : List (String × String)}
    (text : a.headers = texts.map fun (k, v) => (k, Utf8.encode v.toList)) (body : List UInt8) :
    (a.capture body).headers = texts := by
  rw [capture, text, List.map_map]
  refine (List.map_congr_left ?_).trans (List.map_id texts)
  rintro ⟨k, v⟩ -
  exact congrArg (k, ·) ((Utf8.decodeLossy_encode v.toList).trans String.ofList_toList)

/-- The shared state with the attempts by their arrival; `counted` are the requests that took a
number from `stats_attempts`, in that order. -/
structure Intake (S A P : Type) where
  captured : Captured S A P := {}
  requestCounter : Nat := 0
  statsAttempts : Nat := 0
  attempts : List (Attempt S A P) := []
  counted : List Nat := []

inductive IntakeAction where
  | head (method path : String) (headers : HeaderMap)
  /-- The body of the attempt has arrived, or reading it fails. -/
  | body (attempt : Nat) (read : Except String (List UInt8))
  /-- The client disconnects. -/
  | disconnect (attempt : Nat)
  | handle (attempt : Nat)
  /-- The handler panics, before or after it took its number. -/
  | panic (attempt : Nat) (took : Bool)
  | record (attempt : Nat)

/-- The answer before any body is read, or the endpoint. -/
def route (method path : String) : Except StatusCode Endpoint :=
  match Endpoint.fromPath path with
  | none => .error .notFound
  | some endpoint => if method ≠ "POST" then .error .methodNotAllowed else .ok endpoint

/-- `Limited::new(body, MAX_BODY_SIZE).collect()` and the answers to its errors. -/
def collect : Except String (List UInt8) → Except StatusCode (List UInt8)
  | .ok body => if MAX_BODY_SIZE < body.length then .error .payloadTooLarge else .ok body
  | .error _ => .error .badRequest

namespace Intake

variable {S A P : Type} (codecs : Codecs S A P) (failStatsFirstN : Nat)

/-- Where the handler of a stats request takes its number. -/
def reachesDecoding (headers : HeaderMap) (body : List UInt8) : Bool :=
  match decompress codecs headers body with
  | .error (.unsupportedEncoding _) => false
  | _ => true

def setPhase (s : Intake S A P) (i : Nat) (a : Attempt S A P) (phase : Phase S A P) :
    Intake S A P :=
  { s with attempts := s.attempts.set i { a with phase } }

def arrive (s : Intake S A P) (endpoint : Endpoint) (path : String) (headers : HeaderMap) :
    Intake S A P :=
  let requestId := s.requestCounter + 1
  { s with
    requestCounter := requestId
    attempts := s.attempts ++ [{ requestId, endpoint, path, headers }] }

/-- The handler ends, with `stats_attempts` as it left it. -/
def settle (s : Intake S A P) (i : Nat) (a : Attempt S A P) (captured : CapturedRequest)
    (outcome : Outcome S A P) (statsAttempts : Nat) : Intake S A P :=
  { s.setPhase i a (.handled captured outcome) with
    statsAttempts
    counted := s.counted ++ .replicate (statsAttempts - s.statsAttempts) a.requestId }

/-- What one attempt does next. -/
def act (s : Intake S A P) (i : Nat) (a : Attempt S A P) : IntakeAction → Option (Intake S A P)
  | .head .. => none
  | .body _ read =>
    match a.phase with
    | .reading =>
      match collect read with
      | .ok body => some (s.setPhase i a (.handling (a.capture body)))
      | .error status => some (s.setPhase i a (.rejected status))
    | _ => none
  | .disconnect _ =>
    match a.phase with
    | .reading => some (s.setPhase i a .abandoned)
    -- a blocking task runs to its end
    | .handling _ | .handled .. => some s
    | _ => none
  | .handle _ =>
    match a.phase with
    | .handling captured =>
      let ((status, accepted), statsAttempts) :=
        handleEndpoint codecs failStatsFirstN s.statsAttempts a.endpoint a.headers captured.body
      some (s.settle i a captured { status, accepted } statsAttempts)
    | _ => none
  | .panic _ took =>
    match a.phase with
    | .handling captured =>
      if took = true → a.endpoint = .stats ∧ reachesDecoding codecs a.headers captured.body then
        some (s.settle i a captured ⟨.internalServerError, none, true⟩
          (s.statsAttempts + took.toNat))
      else none
    | _ => none
  | .record _ =>
    match a.phase with
    | .handled captured outcome =>
      some { s.setPhase i a (.recorded captured outcome) with
        captured := s.captured.record a.requestId captured outcome.accepted }
    | _ => none

def step (s : Intake S A P) (action : IntakeAction) : Option (Intake S A P) :=
  match action with
  | .head method path headers =>
    match route method path with
    | .ok endpoint => some (s.arrive endpoint path headers)
    | .error _ => some s
  | .body i _ | .disconnect i | .handle i | .panic i _ | .record i =>
    match s.attempts[i]? with
    | some a => s.act codecs failStatsFirstN i a action
    | none => none

end Intake

end ServerlessComponents.MockIntake
