import ServerlessComponents.Dogstatsd.Shipping
import ServerlessComponents.LogsAgent.Aggregator

/-!
# The log intake server

`handle_request` of the logs agent's `server.rs`: a request is refused with a status of its own, or
its entries are put on the aggregator's queue and it is answered 200.
-/
namespace ServerlessComponents.LogsAgent

open Dogstatsd (StatusCode)

def logIntakePath : String := "/v1/input"
def maxBodyBytes : Nat := 4 * 1024 * 1024

/-- `str::parse::<usize>`: an optional plus sign and decimal digits, below 2^64. -/
def parseUsize (s : String) : Option Nat :=
  let digits := match s.toList with
    | '+' :: rest => rest
    | cs => cs
  if digits.isEmpty || !digits.all Char.isDigit then none
  else
    let n := digits.foldl (fun n c => 10 * n + (c.toNat - '0'.toNat)) 0
    if n < 2 ^ 64 then some n else none

/-- A request: the `Content-Length` header when it is there and is text, and what reading the body
gives. -/
structure HttpRequest where
  method : String
  path : String
  contentLength : Option String
  body : Except String Bytes
  deriving DecidableEq, Repr

structure HttpResponse where
  status : StatusCode
  body : String
  deriving DecidableEq, Repr

namespace HttpResponse

def methodNotAllowed : HttpResponse := ⟨⟨405⟩, "method not allowed"⟩
def notFound : HttpResponse := ⟨⟨404⟩, "not found"⟩
def payloadTooLarge : HttpResponse := ⟨⟨413⟩, "payload too large"⟩
def badRequest (body : String) : HttpResponse := ⟨⟨400⟩, body⟩
def internalServerError : HttpResponse := ⟨⟨500⟩, "aggregator unavailable"⟩
def ok : HttpResponse := ⟨⟨200⟩, "ok"⟩

end HttpResponse

variable {E : Type} (fromSlice : Bytes → Except String (List E))

/-- `handle_request`: the response, and the entries given to `insert_batch` when it is called and
the service still runs (`alive`). -/
def handleRequest (alive : Bool) (req : HttpRequest) : HttpResponse × Option (List E) :=
  if req.method ≠ "POST" then (.methodNotAllowed, none)
  else if req.path ≠ logIntakePath then (.notFound, none)
  else if (req.contentLength.bind parseUsize).any (maxBodyBytes < ·) then (.payloadTooLarge, none)
  else
    match req.body with
    | .error _ => (.badRequest "failed to read body", none)
    | .ok bytes =>
      if bytes.length > maxBodyBytes then (.payloadTooLarge, none)
      else
        match fromSlice bytes with
        | .error e => (.badRequest s!"invalid JSON: {e}", none)
        | .ok entries =>
          if entries.isEmpty then (.ok, none)
          else if alive then (.ok, some entries)
          else (.internalServerError, none)

/-- The entries a request carries: none when its body cannot be read or parsed. -/
def HttpRequest.entries (req : HttpRequest) : List E :=
  match req.body with
  | .error _ => []
  | .ok bytes =>
    match fromSlice bytes with
    | .error _ => []
    | .ok entries => entries

/-- A request answered 200 has all its entries sent, any other one none. -/
theorem handleRequest_sent (alive : Bool) (req : HttpRequest) :
    (handleRequest fromSlice alive req).2.getD [] =
      if (handleRequest fromSlice alive req).1.status = ⟨200⟩ then req.entries fromSlice
      else [] := by
  unfold handleRequest HttpRequest.entries
  split
  · simp [HttpResponse.methodNotAllowed]
  split
  · simp [HttpResponse.notFound]
  split
  · simp [HttpResponse.payloadTooLarge]
  cases req.body with
  | error e => simp [HttpResponse.badRequest]
  | ok bytes =>
    simp only
    split
    · simp [HttpResponse.payloadTooLarge]
    cases fromSlice bytes with
    | error e => simp [HttpResponse.badRequest]
    | ok entries =>
      simp only
      split
      next empty => simp [HttpResponse.ok, List.isEmpty_iff.1 empty]
      next =>
        split
        · simp [HttpResponse.ok]
        · simp [HttpResponse.internalServerError]

end ServerlessComponents.LogsAgent
