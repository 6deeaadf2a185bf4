import Mathlib.Algebra.Group.Nat.Defs
import ServerlessComponents.Dogstatsd.ApiKey
import ServerlessComponents.Dogstatsd.Flusher
import ServerlessComponents.Library.Runs

/-!
# Which key a flush ships with

`get_dd_api` of `flusher.rs` builds the API object at the first flush that has anything to ship
and keeps it, a failure included. Beside it stands the key the factory would hand out at each
flush; the two are compared over any sequence of flushes.
-/
namespace ServerlessComponents.Dogstatsd

variable {V B : Type}

/-- `dd_api` is the `OnceCell`: empty until its first use. -/
structure Flusher where
  apiKeyFactory : ApiKeyFactory
  metricsIntakeUrlPrefix : String
  retryStrategy : RetryStrategy
  compressionLevel : Int
  ddApi : Option (Option DdApi) := none
  deriving DecidableEq, Repr

/-- One call of `flush_metrics` with what the clock, the resolver and the network do during it. -/
structure FlushCall (V B : Type) where
  series : List (Series V)
  distributions : List (SketchPayload B)
  resolution : Resolution
  seriesNet : Nat → Wire
  sketchNet : Nat → Wire

namespace DdApi

variable (api : DdApi) (enc : Encoders V B)

/-- The request a call ships for a series batch that can be encoded. -/
def seriesRequest (series : Series V) : Option Request :=
  (enc.seriesToVec series).toOption.map fun body =>
    api.request enc s!"{api.metricsIntakeUrlPrefix}/api/v2/series" body "application/json"

def sketchesRequest (sketches : SketchPayload B) : Option Request :=
  (enc.sketchesToBytes sketches).toOption.map fun body =>
    api.request enc s!"{api.metricsIntakeUrlPrefix}/api/beta/sketches" body
      "application/x-protobuf"

@[simp] theorem request_apiKey (url : String) (body : List UInt8) (contentType : String) :
    (api.request enc url body contentType).apiKey = api.apiKey := by
  unfold request
  split <;> rfl

theorem seriesRequest_apiKey {series : Series V} {r : Request}
    (h : api.seriesRequest enc series = some r) : r.apiKey = api.apiKey := by
  obtain ⟨body, -, rfl⟩ := Option.map_eq_some_iff.1 h
  exact api.request_apiKey enc ..

theorem sketchesRequest_apiKey {sketches : SketchPayload B} {r : Request}
    (h : api.sketchesRequest enc sketches = some r) : r.apiKey = api.apiKey := by
  obtain ⟨body, -, rfl⟩ := Option.map_eq_some_iff.1 h
  exact api.request_apiKey enc ..

end DdApi

/-- The requests a flush posts with `ddApi`: those of the batches its two tasks shipped. -/
def FlushRun.requests (run : FlushRun V B) (enc : Encoders V B) (ddApi : Option DdApi) :
    List Request :=
  match ddApi with
  | none => []
  | some api =>
    run.seriesShipped.filterMap (api.seriesRequest enc ·.1) ++
      run.sketchesShipped.filterMap (api.sketchesRequest enc ·.1)

/-- The result of one call and the requests it posted. -/
structure Flushed (V B : Type) where
  run : FlushRun V B
  requests : List Request

namespace Flusher

def new (apiKeyFactory : ApiKeyFactory) (metricsIntakeUrlPrefix : String)
    (retryStrategy : RetryStrategy) (compressionLevel : Int) : Flusher :=
  { apiKeyFactory, metricsIntakeUrlPrefix, retryStrategy, compressionLevel }

/-- The API object `get_dd_api` would build from a key. -/
def ddApiOf (f : Flusher) (apiKey : String) : DdApi :=
  ⟨apiKey, f.metricsIntakeUrlPrefix, f.retryStrategy, f.compressionLevel⟩

/-- `get_dd_api`: `get_or_init` calls the factory only while the cell is empty. -/
def getDdApi (f : Flusher) (r : Resolution) : Option DdApi × Flusher :=
  match f.ddApi with
  | some ddApi => (ddApi, f)
  | none =>
    let (apiKey, apiKeyFactory) := f.apiKeyFactory.getApiKey r
    let ddApi := apiKey.map f.ddApiOf
    (ddApi, { f with apiKeyFactory, ddApi := some ddApi })

/-- `flush_metrics` on this flusher. -/
def flushMetrics (f : Flusher) (enc : Encoders V B) (call : FlushCall V B) :
    Flushed V B × Flusher :=
  if call.series.length = 0 ∧ call.distributions.length = 0 then (⟨⟨none, [], []⟩, []⟩, f)
  else
    let (ddApi, f) := f.getDdApi call.resolution
    let run := Dogstatsd.flushMetrics enc ddApi call.seriesNet call.sketchNet call.series
      call.distributions
    (⟨run, run.requests enc ddApi⟩, f)

/-- The flusher over a sequence of calls. -/
def step (enc : Encoders V B) (f : Flusher) (call : FlushCall V B) : Option Flusher :=
  some (f.flushMetrics enc call).2

/-- What `get_api_key` would return at this call. -/
def freshKey (f : Flusher) (call : FlushCall V B) : Option String :=
  (f.apiKeyFactory.getApiKey call.resolution).1

end Flusher

/-- Some batch of the call can be encoded, so there is a request to post. -/
def FlushCall.HasEncodable (enc : Encoders V B) (call : FlushCall V B) : Prop :=
  (∃ batch ∈ call.series, ∃ body, enc.seriesToVec batch = .ok body) ∨
    ∃ batch ∈ call.distributions, ∃ body, enc.sketchesToBytes batch = .ok body

/-- Every request of the call carries the factory's key, and a call with a key and something to
post does post. -/
structure ShipsFresh (enc : Encoders V B) (f : Flusher) (call : FlushCall V B) : Prop where
  carried : ∀ request ∈ (f.flushMetrics enc call).1.requests,
    f.freshKey call = some request.apiKey
  ships : (f.freshKey call).isSome → call.HasEncodable enc →
    (f.flushMetrics enc call).1.requests ≠ []

/-- After the first call that has anything to flush, no later call with something to post finds
the reload interval elapsed and the resolver's answer changed. -/
def KeyUnchanged (enc : Encoders V B) (interval : Nat) (state : ApiKeyState) :
    List (FlushCall V B) → Prop
  | [] => True
  | call :: rest =>
    if call.series.length = 0 ∧ call.distributions.length = 0 then
      KeyUnchanged enc interval state rest
    else
      let loaded := state.afterCall (some interval) call.resolution
      ∀ later ∈ rest, later.HasEncodable enc → loaded.Due (some interval) later.resolution →
        later.resolution.answer = loaded.apiKey

/-! ## The requests of one flush -/

/-- When a batch without a request lets its task go on, a task posts nothing only if none of its
batches has a request. -/
theorem shipBatches_requests_eq_nil_iff {α : Type} {ship : α → Wire → ShipResult}
    {request : α → Option Request}
    (passes : ∀ batch wire, request batch = none → (shouldTryNextBatch (ship batch wire)).1 = true)
    (net : Nat → Wire) (i : Nat) (batches : List α) :
    (shipBatches ship net i batches).shipped.filterMap (request ·.1) = [] ↔
      ∀ batch ∈ batches, request batch = none := by
  induction batches generalizing i with
  | nil => simp [shipBatches]
  | cons batch rest ih =>
    cases h : request batch with
    | some r => simp [shipBatches, h]
    | none =>
      have continues := passes batch (net i) h
      simpa [shipBatches, h, continues] using ih (i + 1)

section Requests

variable (api : DdApi) (enc : Encoders V B)

theorem seriesRequest_eq_none_iff (batch : Series V) :
    api.seriesRequest enc batch = none ↔ ∀ body, enc.seriesToVec batch ≠ .ok body := by
  unfold DdApi.seriesRequest
  cases enc.seriesToVec batch <;> simp [Except.toOption]

theorem sketchesRequest_eq_none_iff (batch : SketchPayload B) :
    api.sketchesRequest enc batch = none ↔ ∀ body, enc.sketchesToBytes batch ≠ .ok body := by
  unfold DdApi.sketchesRequest
  cases enc.sketchesToBytes batch <;> simp [Except.toOption]

theorem shipSeries_passes (batch : Series V) (wire : Wire)
    (h : api.seriesRequest enc batch = none) :
    (shouldTryNextBatch (api.shipSeries enc batch wire).result).1 = true := by
  rw [shipSeries_continues]
  have failed := (seriesRequest_eq_none_iff api enc batch).1 h
  cases e : enc.seriesToVec batch with
  | error msg => exact .inl ⟨msg, e⟩
  | ok body => exact absurd e (failed body)

theorem shipDistributions_passes (batch : SketchPayload B) (wire : Wire)
    (h : api.sketchesRequest enc batch = none) :
    (shouldTryNextBatch (api.shipDistributions enc batch wire).result).1 = true := by
  rw [shipDistributions_continues]
  have failed := (sketchesRequest_eq_none_iff api enc batch).1 h
  cases e : enc.sketchesToBytes batch with
  | error msg => exact .inl ⟨msg, e⟩
  | ok body => exact absurd e (failed body)

end Requests

namespace FlushCall

variable (enc : Encoders V B) (call : FlushCall V B)

/-- The requests of a call that has anything to flush, made with `ddApi`. -/
def requests (ddApi : Option DdApi) : List Request :=
  (flushMetrics enc ddApi call.seriesNet call.sketchNet call.series
    call.distributions).requests enc ddApi

theorem requests_apiKey {api : DdApi} {request : Request}
    (h : request ∈ call.requests enc (some api)) : request.apiKey = api.apiKey := by
  simp only [requests, FlushRun.requests, List.mem_append, List.mem_filterMap] at h
  obtain ⟨_, -, h⟩ | ⟨_, -, h⟩ := h
  · exact api.seriesRequest_apiKey enc h
  · exact api.sketchesRequest_apiKey enc h

theorem requests_eq_nil_iff (api : DdApi) (filled : ¬ (call.series.length = 0 ∧
    call.distributions.length = 0)) :
    call.requests enc (some api) = [] ↔ ¬ call.HasEncodable enc := by
  simp only [requests, FlushRun.requests, flushMetrics, if_neg filled, List.append_eq_nil_iff]
  rw [shipBatches_requests_eq_nil_iff (shipSeries_passes api enc),
    shipBatches_requests_eq_nil_iff (shipDistributions_passes api enc)]
  simp only [seriesRequest_eq_none_iff, sketchesRequest_eq_none_iff, HasEncodable]
  grind

/-- The requests carry the key `fresh`, and are there when it is, exactly when the API object
has that key or there is nothing to post. -/
theorem requests_fresh_iff (ddApi : Option DdApi) (fresh : Option String)
    (filled : ¬ (call.series.length = 0 ∧ call.distributions.length = 0)) :
    ((∀ request ∈ call.requests enc ddApi, fresh = some request.apiKey) ∧
        (fresh.isSome → call.HasEncodable enc → call.requests enc ddApi ≠ [])) ↔
      (call.HasEncodable enc → fresh = ddApi.map DdApi.apiKey) := by
  cases ddApi with
  | none =>
    have nothing : call.requests enc none = [] := rfl
    cases fresh <;> simp [nothing]
  | some api =>
    have posted := requests_eq_nil_iff enc call api filled
    constructor
    · rintro ⟨carried, -⟩ encodable
      obtain ⟨request, h⟩ := List.exists_mem_of_ne_nil _ (fun e => posted.1 e encodable)
      rw [carried request h, requests_apiKey enc call h]
      rfl
    · intro same
      refine ⟨?_, ?_⟩
      · intro request h
        have encodable : call.HasEncodable enc := by
          by_contra absent
          rw [posted.2 absent] at h
          cases h
        rw [same encodable, requests_apiKey enc call h]
        rfl
      · intro _ encodable e
        exact posted.1 e encodable

end FlushCall

/-! ## A sequence of flushes -/

namespace Flusher

variable (enc : Encoders V B) (f : Flusher)

/-- A call without metrics leaves the flusher as it is and posts nothing. -/
theorem flushMetrics_of_empty {call : FlushCall V B}
    (empty : call.series.length = 0 ∧ call.distributions.length = 0) :
    f.flushMetrics enc call = (⟨⟨none, [], []⟩, []⟩, f) := by
  rw [flushMetrics, if_pos empty]

theorem shipsFresh_of_empty {call : FlushCall V B}
    (empty : call.series.length = 0 ∧ call.distributions.length = 0) : ShipsFresh enc f call := by
  refine ⟨?_, ?_⟩
  · simp [flushMetrics_of_empty enc f empty]
  · obtain ⟨hs, hd⟩ := empty
    simp [FlushCall.HasEncodable, List.length_eq_zero_iff.1 hs, List.length_eq_zero_iff.1 hd]

theorem shipsFresh_of_filled {call : FlushCall V B}
    (filled : ¬ (call.series.length = 0 ∧ call.distributions.length = 0)) :
    ShipsFresh enc f call ↔ (call.HasEncodable enc →
      f.freshKey call = (f.getDdApi call.resolution).1.map DdApi.apiKey) := by
  have requests : (f.flushMetrics enc call).1.requests =
      call.requests enc (f.getDdApi call.resolution).1 := by
    rw [flushMetrics, if_neg filled]
    rfl
  rw [← call.requests_fresh_iff enc _ _ filled, ← requests]
  exact ⟨fun h => ⟨h.carried, h.ships⟩, fun h => ⟨h.1, h.2⟩⟩

/-- Once the cell is filled no call changes the flusher. -/
theorem step_of_filled {ddApi : Option DdApi} (filled : f.ddApi = some ddApi)
    (call : FlushCall V B) : step enc f call = some f := by
  unfold step flushMetrics getDdApi
  rw [filled]
  split <;> rfl

/-- From then on a call is fresh when the factory still hands out the cached key. -/
theorem shipsFresh_of_cached {ddApi : Option DdApi} (filled : f.ddApi = some ddApi)
    (call : FlushCall V B) :
    ShipsFresh enc f call ↔ (call.HasEncodable enc → f.freshKey call = ddApi.map DdApi.apiKey) := by
  by_cases empty : call.series.length = 0 ∧ call.distributions.length = 0
  · obtain ⟨hs, hd⟩ := id empty
    simp [shipsFresh_of_empty enc f empty, FlushCall.HasEncodable, List.length_eq_zero_iff.1 hs,
      List.length_eq_zero_iff.1 hd]
  · have cached : (f.getDdApi call.resolution).1 = ddApi := by rw [getDdApi, filled]
    rw [shipsFresh_of_filled enc f empty, cached]

/-- The first call that has anything to flush asks the factory. -/
theorem shipsFresh_of_unused (unused : f.ddApi = none) (call : FlushCall V B) :
    ShipsFresh enc f call := by
  by_cases empty : call.series.length = 0 ∧ call.distributions.length = 0
  · exact shipsFresh_of_empty enc f empty
  · rw [shipsFresh_of_filled enc f empty, getDdApi, unused]
    intro _
    have key : DdApi.apiKey ∘ f.ddApiOf = id := rfl
    simp [freshKey, key]

/-- With the key of the factory's last load in the cell, a call is fresh unless a load is due and
the resolver has another answer. -/
theorem shipsFresh_of_loaded {interval : Nat} {loaded : ApiKeyState} {ddApi : Option DdApi}
    (factory : f.apiKeyFactory = .dynamic (some interval) loaded) (filled : f.ddApi = some ddApi)
    (key : ddApi.map DdApi.apiKey = loaded.apiKey) (call : FlushCall V B) :
    ShipsFresh enc f call ↔ (call.HasEncodable enc → loaded.Due (some interval) call.resolution →
      call.resolution.answer = loaded.apiKey) := by
  rw [shipsFresh_of_cached enc f filled, key, freshKey, factory, ApiKeyFactory.getApiKey,
    ApiKeyState.afterCall_apiKey_eq_iff _ _ _ _ rfl]

end Flusher

/-- A new flusher over a factory that reloads ships every flush of a sequence with the key the
factory would return at it if and only if no flush with something to post, after the first that
has anything to flush, finds the reload interval elapsed and the resolver's answer changed. -/
theorem flushes_shipFresh_iff (enc : Encoders V B) (interval : Nat) (state : ApiKeyState)
    (metricsIntakeUrlPrefix : String) (retryStrategy : RetryStrategy) (compressionLevel : Int)
    (calls : List (FlushCall V B)) :
    Runs.Along (Flusher.step enc) (ShipsFresh enc)
        (.new (.dynamic (some interval) state) metricsIntakeUrlPrefix retryStrategy
          compressionLevel) calls ↔
      KeyUnchanged enc interval state calls := by
  induction calls with
  | nil => simp [Runs.Along, KeyUnchanged]
  | cons call rest ih =>
    simp only [Runs.Along, Flusher.shipsFresh_of_unused enc (.new ..) rfl call, true_and,
      Flusher.step, Option.some.injEq, forall_eq']
    by_cases empty : call.series.length = 0 ∧ call.distributions.length = 0
    · rw [Flusher.flushMetrics_of_empty enc _ empty, KeyUnchanged, if_pos empty, ← ih]
    · rw [KeyUnchanged, if_neg empty, Flusher.flushMetrics, if_neg empty]
      -- the cell is filled now, so the flusher stays as this call leaves it
      refine (Runs.along_iff_of_fixed (Flusher.step_of_filled enc _ rfl) rest).trans ?_
      refine forall₂_congr ?_
      intro later _
      exact Flusher.shipsFresh_of_loaded enc _ rfl rfl
        (by simp [Function.comp_def, Flusher.ddApiOf]) later

/-! ## A rotated key -/

namespace Example

/-- One counter to flush at second `second`, while the resolver answers `answer`. -/
def flushAt (second : Nat) (answer : Option String) : FlushCall Nat Unit where
  series := [point "a"]
  distributions := []
  resolution := ⟨second * 10 ^ 9, second * 10 ^ 9, answer, second * 10 ^ 9⟩
  seriesNet := fun _ => ⟨fun _ => true, fun _ => .ok ⟨.accepted⟩⟩
  sketchNet := fun _ => ⟨fun _ => true, fun _ => .ok ⟨.accepted⟩⟩

end Example

/-- With a reload interval of one second, a flush ten seconds after the first still ships with
the first key. -/
theorem flush_ships_with_old_key :
    ¬ ∀ calls : List (FlushCall Nat Unit),
      Runs.Along (Flusher.step Example.encoders) (ShipsFresh Example.encoders)
        (.new (.newFromResolver (some (10 ^ 9))) "https://api.datadoghq.com" (.immediate 1) 3)
        calls := by
  intro all
  obtain ⟨-, later⟩ := all [Example.flushAt 0 (some "old"), Example.flushAt 10 (some "new")]
  obtain ⟨fresh, -⟩ := later _ rfl
  have due : (⟨some "old", some 0⟩ : ApiKeyState).Due (some (10 ^ 9))
      (Example.flushAt 10 (some "new")).resolution := ⟨rfl, rfl⟩
  have same := (Flusher.shipsFresh_of_loaded _ _ rfl rfl rfl _).1 fresh
    (.inl ⟨_, List.mem_cons_self, _, rfl⟩) due
  exact absurd same (by decide)

end ServerlessComponents.Dogstatsd
