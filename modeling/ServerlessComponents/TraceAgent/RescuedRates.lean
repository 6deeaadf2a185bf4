import ServerlessComponents.TraceAgent.RescueClock
import ServerlessComponents.TraceSampler.RateBookkeeping

/-!
# The rates on the rescued traces

The backend scales the rescued traces up by the rate on their root. In exact arithmetic, whatever
the calls of all clones and however they interleave, every rate written is a rate: positive and at
most 1.

## Main result

* `RescueSystem.rates_sound` — the decisions and the payloads that are returned.
-/
namespace ServerlessComponents.TraceSampler

variable {K : Type} [Field K] [LinearOrder K] [IsStrictOrderedRing K]

/-- A rate to scale up by. -/
def IsRate (rate : K) : Prop := 0 < rate ∧ rate ≤ 1

theorem IsRate.mul {a b : K} (ha : IsRate a) (hb : IsRate b) : IsRate (a * b) :=
  ⟨mul_pos ha.1 hb.1, mul_le_one₀ ha.2 hb.1.le hb.2⟩

theorem isRate_one : IsRate (1 : K) := ⟨zero_lt_one, le_rfl⟩

namespace Sampler

/-- The rates a sampler can give are rates. -/
structure Sound (s : Sampler K K) : Prop where
  kept : s.RatesKept
  extra : IsRate s.extraRate
  lowest : 0 ≤ s.lowestRate

variable {s : Sampler K K}

omit [IsStrictOrderedRing K] in
theorem updateRates_extraRate (s : Sampler K K) (previousBucket newBucket : Int) :
    (s.updateRates previousBucket newBucket).extraRate = s.extraRate := by
  unfold updateRates
  split <;> rfl

theorem lowestRate_updateRates (kept : s.RatesKept) (lowest : 0 ≤ s.lowestRate)
    (newBucket : Int) : 0 ≤ (s.updateRates s.lastBucketId newBucket).lowestRate := by
  by_cases empty : s.seen.entries = []
  · rwa [updateRates_of_empty empty]
  · have least := lowestIsLeast_updateRates empty s.lastBucketId newBucket
    rcases least.1 with one | ⟨sig, stored⟩
    · rw [one]
      exact zero_le_one
    · exact (ratesPositive_updateRates kept.positive kept.target newBucket sig _ stored).le

theorem sound_countWeightedSig (sound : s.Sound) (now : Int) (sig : Signature) (n : K) :
    (s.countWeightedSig now sig n).1.Sound := by
  refine ⟨ratesKept_countWeightedSig sound.kept now sig n, ?_, ?_⟩
  · have extra : (s.countWeightedSig now sig n).1.extraRate = (s.enterBucket now).1.extraRate := rfl
    rw [extra, enterBucket_eq]
    split
    · exact sound.extra
    · exact (updateRates_extraRate s _ _).symm ▸ sound.extra
  · have lowest : (s.countWeightedSig now sig n).1.lowestRate = (s.enterBucket now).1.lowestRate :=
      rfl
    rw [lowest, enterBucket_eq]
    split
    · exact sound.lowest
    · exact lowestRate_updateRates sound.kept sound.lowest _

/-- The rate of the unknown signatures: a share of the target, or the lowest rate. -/
theorem isRate_defaultRate (sound : s.Sound) : IsRate s.defaultRate := by
  have target := sound.kept.target
  have cut {rate : K} (h : IsRate rate) :
      IsRate (if s.lowestRate < rate ∧ (s.lowestRate != 0) = true then s.lowestRate else rate) := by
    split
    next lower =>
      have pos : 0 < s.lowestRate := lt_of_le_of_ne sound.lowest (bne_iff_ne.1 lower.2).symm
      exact ⟨pos, lower.1.le.trans h.2⟩
    next => exact h
  simp only [defaultRate, beq_iff_eq, target.ne', if_false]
  refine cut ?_
  split
  next busy => exact ⟨div_pos target busy.2, (div_le_one busy.2).2 busy.1.le⟩
  next => exact isRate_one

theorem isRate_getSignatureSampleRate (sound : s.Sound) (sig : Signature) :
    IsRate (s.getSignatureSampleRate sig) := by
  unfold getSignatureSampleRate
  split
  next rate stored =>
    have kept := sound.kept
    exact IsRate.mul ⟨kept.positive sig rate stored, kept.le_one sig rate stored⟩ sound.extra
  next => exact isRate_defaultRate sound

theorem sound_new {extraRate targetTps : K} (extra : IsRate extraRate) (target : 0 < targetTps) :
    (new extraRate targetTps : Sampler K K).Sound :=
  ⟨ratesKept_run target [], extra, le_rfl⟩

end Sampler

/-- What is kept is kept at a rate. -/
def SampleDecision.Sound : SampleDecision K → Prop
  | .keep errorsSr => IsRate errorsSr
  | .drop => True

/-- A disabled sampler keeps nothing. -/
def ErrorsSampler.Sound : ErrorsSampler K K → Prop
  | .alwaysKeep _ => True
  | .rateLimited s => s.disabled = true ∨ s.sampler.Sound

omit [IsStrictOrderedRing K] in
theorem sound_applySampleRate [Double K] {trace : TraceView K} {rate : K} (h : IsRate rate) :
    (RateLimitedSampler.applySampleRate trace rate).Sound := by
  unfold RateLimitedSampler.applySampleRate
  split
  · exact h
  · trivial

omit [IsStrictOrderedRing K] in
theorem sound_shrink {s : RateLimitedSampler K K} (sound : s.sampler.Sound) (sig : Signature) :
    (s.shrink sig).1.sampler.Sound := by
  unfold RateLimitedSampler.shrink
  split <;> exact sound

theorem ErrorsSampler.sound_sample [Double K] [Narrow K K] {s : ErrorsSampler K K} (sound : s.Sound)
    (now : Int) (trace : TraceView K) :
    (s.sample now trace).1.Sound ∧ (s.sample now trace).2.Sound := by
  cases s with
  | alwaysKeep disabled =>
    simp only [sample]
    split
    · exact ⟨trivial, trivial⟩
    · exact ⟨trivial, isRate_one⟩
  | rateLimited s =>
    simp only [sample, RateLimitedSampler.sample]
    split
    next guard =>
      have running : s.sampler.Sound := by
        rcases sound with disabled | running
        · rw [guard.1] at disabled
          cases disabled
        · exact running
      have counted := Sampler.sound_countWeightedSig (sound_shrink running
        (computeSignatureWithRootAndEnv trace.spans trace.rootIndex guard.2 trace.env)) now
      exact ⟨.inr (counted _ _),
        sound_applySampleRate (Sampler.isRate_getSignatureSampleRate (counted _ _) _)⟩
    next => exact ⟨sound, trivial⟩

theorem ErrorsSampler.sound_new {config : ErrorSamplerConfig K}
    (extra : IsRate config.extraSampleRate) : (new config : ErrorsSampler K K).Sound := by
  unfold new
  split
  · trivial
  · by_cases target : config.targetTps ≤ 0
    · exact .inl (decide_eq_true target)
    · exact .inr (Sampler.sound_new extra (not_le.1 target))

end ServerlessComponents.TraceSampler

namespace ServerlessComponents.TraceAgent

open TraceSampler

variable {K R X : Type} [Field K] [LinearOrder K]

/-- Every error rate on a span is a rate. -/
def RatesSound (tracerPayloads : List (TracerPayload K R)) : Prop :=
  ∀ tracerPayload ∈ tracerPayloads, ∀ chunk ∈ tracerPayload.chunks, ∀ span ∈ chunk.spans,
    ∀ rate, span.metrics.lookup ERRORS_SR_METRIC_KEY = some rate → IsRate rate

/-- The payloads that error rescue leaves alone are not looked at. -/
def TracerPayloadCollection.RatesSound : TracerPayloadCollection K R X → Prop
  | .v07 tracerPayloads => TraceAgent.RatesSound tracerPayloads
  | _ => True

theorem ratesSound_writeBack {tracerPayloads written : List (TracerPayload K R)} {kept : Kept K}
    (sound : RatesSound tracerPayloads) (rate : IsRate kept.errorsSr)
    (h : writeBack tracerPayloads kept = some written) : RatesSound written := by
  simp only [writeBack, Option.bind_eq_bind, Option.bind_eq_some_iff, guard, Option.pure_def,
    Option.some.injEq] at h
  obtain ⟨tracerPayload, atPayload, chunk, atChunk, -, -, rfl⟩ := h
  have memPayload := List.mem_of_getElem? atPayload
  have memChunk := List.mem_of_getElem? atChunk
  intro other mem chunk' mem' span mem'' found stored
  rcases List.mem_or_eq_of_mem_set mem with old | rfl
  · exact sound other old chunk' mem' span mem'' found stored
  rcases List.mem_or_eq_of_mem_set mem' with old | rfl
  · exact sound tracerPayload memPayload chunk' old span mem'' found stored
  -- the stamped chunk: a span of it is the root with the new metric or as it was
  have stamped := chunk.writes_stamp kept.rootIndex kept.errorsSr
  obtain ⟨i, at_⟩ := List.mem_iff_getElem?.1 mem''
  by_cases root : i = kept.rootIndex
  · subst root
    cases before : chunk.spans[kept.rootIndex]? with
    | none => simp [stamped.missing before] at at_
    | some old =>
      obtain ⟨new, at', -, written, -⟩ := stamped.written old before
      obtain rfl : span = new := Option.some.inj (at_.symm.trans at')
      obtain rfl : kept.errorsSr = found := Option.some.inj (written.symm.trans stored)
      exact rate
  · rw [stamped.others i root] at at_
    exact sound tracerPayload memPayload chunk memChunk span (List.mem_of_getElem? at_) found stored

theorem ratesSound_foldlM {kept : List (Kept K)} {tracerPayloads written : List (TracerPayload K R)}
    (sound : RatesSound tracerPayloads) (rates : ∀ k ∈ kept, IsRate k.errorsSr)
    (h : kept.foldlM writeBack tracerPayloads = some written) : RatesSound written := by
  induction kept generalizing tracerPayloads with
  | nil =>
    cases h
    exact sound
  | cons k rest ih =>
    obtain ⟨next, first, later⟩ := Option.bind_eq_some_iff.1 h
    exact ih (ratesSound_writeBack sound (rates k List.mem_cons_self) first)
      (fun k' mem => rates k' (List.mem_cons_of_mem k mem)) later

theorem isRate_of_kept {c : Consultation K} {k : Kept K} (sound : c.decision.Sound)
    (h : c.kept = some k) : IsRate k.errorsSr := by
  unfold Consultation.kept at h
  split at h <;> cases h
  next decision =>
    rw [decision] at sound
    exact sound

namespace RescueSystem

/-- The decisions on the payload of a call, as far as it has come, and where the payloads come in
`clean` its error rates. -/
def CallSound (clean : Prop) : RescueCall K R X → Prop
  | .absent | .gone => True
  | .waiting _ tracerPayloads | .locked _ tracerPayloads => clean → RatesSound tracerPayloads
  | .sampling _ tracerPayloads _ _ consultations =>
    (clean → RatesSound tracerPayloads) ∧ ∀ c ∈ consultations, c.decision.Sound
  | .returned payload => clean → payload.RatesSound

/-- The sampler can give rates only, and has. -/
structure Sound (clean : Prop) (s : RescueSystem K K R X) : Prop where
  sampler : s.shared.sampler.Sound
  asked : ∀ c ∈ s.asked, c.decision.Sound
  calls : ∀ i, CallSound clean (s.call i)

/-- What is begun carries no error rate that is none. -/
def BeginsSound : RescueAction K R X → Prop
  | .begin _ _ payload => payload.RatesSound
  | .lock _ | .readClock .. | .sample _ | .unlock _ | .abandon _ => True

variable {clean : Prop} {s s' : RescueSystem K K R X} {a : RescueAction K R X}

theorem callSound_update {call : Nat → RescueCall K R X} (calls : ∀ i, CallSound clean (call i))
    {i : Nat} {next : RescueCall K R X} (sound : CallSound clean next) (j : Nat) :
    CallSound clean (Function.update call i next j) :=
  (Function.forall_update_iff call fun _ => CallSound clean).2 ⟨sound, fun j _ => calls j⟩ j

theorem callSound_entry (getRootSpanIndex : GetRootSpanIndex K R) (s : RescueSystem K K R X)
    (config : RescueConfig) {payload : TracerPayloadCollection K R X}
    (sound : clean → payload.RatesSound) :
    CallSound clean (s.entry getRootSpanIndex config payload) := by
  unfold entry
  split
  · split
    · exact sound
    · split <;> exact sound
  · exact sound

variable [IsStrictOrderedRing K] [Double K] [Narrow K K] {getRootSpanIndex : GetRootSpanIndex K R}

theorem sound_consult {tracerPayloads : List (TracerPayload K R)} {now : Int}
    {sampler sampler' : ErrorsSampler K K} {c : Candidate} {consultation : Consultation K}
    (sound : sampler.Sound)
    (asked : consult tracerPayloads now sampler c = some (sampler', consultation)) :
    sampler'.Sound ∧ consultation.decision.Sound := by
  simp only [consult, Option.bind_eq_bind, Option.bind_eq_some_iff, Option.pure_def,
    Option.some.injEq, Prod.mk.injEq] at asked
  obtain ⟨_, -, _, -, root, -, rfl, rfl⟩ := asked
  exact ErrorsSampler.sound_sample sound now _

theorem sound_step (sound : s.Sound clean) (begins : clean → BeginsSound a)
    (h : s.step getRootSpanIndex a = some s') : s'.Sound clean := by
  cases a with
  | begin i config payload =>
    simp only [step] at h
    split at h <;> cases h
    exact ⟨sound.sampler, sound.asked,
      callSound_update sound.calls (callSound_entry getRootSpanIndex s config begins)⟩
  | lock i =>
    simp only [step] at h
    split at h <;> cases h
    next config tracerPayloads waiting free =>
      have call := sound.calls i
      rw [waiting] at call
      exact ⟨sound.sampler, sound.asked, callSound_update sound.calls call⟩
  | readClock i clock =>
    simp only [step] at h
    split at h <;> cases h
    next config tracerPayloads locked =>
      have call := sound.calls i
      rw [locked] at call
      exact ⟨sound.sampler, sound.asked, callSound_update sound.calls ⟨call, by simp⟩⟩
  | sample i =>
    simp only [step] at h
    split at h
    next config tracerPayloads now c rest consultations sampling =>
      have call := sound.calls i
      rw [sampling] at call
      split at h <;> cases h
      next sampler consultation asked =>
        obtain ⟨after, decision⟩ := sound_consult sound.sampler asked
        refine ⟨after, ?_, callSound_update sound.calls ⟨call.1, ?_⟩⟩
        · intro c mem
          rcases List.mem_append.1 mem with old | new
          · exact sound.asked c old
          · exact List.mem_singleton.1 new ▸ decision
        · intro c mem
          rcases List.mem_append.1 mem with old | new
          · exact call.2 c old
          · exact List.mem_singleton.1 new ▸ decision
      next => exact ⟨sound.sampler, sound.asked, callSound_update sound.calls trivial⟩
    next => cases h
  | unlock i =>
    simp only [step] at h
    split at h <;> cases h
    next config tracerPayloads now consultations sampling =>
      have call := sound.calls i
      rw [sampling] at call
      refine ⟨sound.sampler, sound.asked, callSound_update sound.calls ?_⟩
      cases written : (consultations.filterMap Consultation.kept).foldlM writeBack
          tracerPayloads with
      | none => trivial
      | some after =>
        intro allClean
        refine ratesSound_foldlM (call.1 allClean) ?_ written
        intro k mem
        obtain ⟨c, mem, kept⟩ := List.mem_filterMap.1 mem
        exact isRate_of_kept (call.2 c mem) kept
  | abandon i =>
    simp only [step] at h
    split at h <;> cases h
    exact ⟨sound.sampler, sound.asked, callSound_update sound.calls trivial⟩

/-- In every interleaving of the calls of all clones, for all readings of the clock and whatever
rates the tracers send: what the sampler keeps it keeps at a positive rate of at most 1; and if the
payloads come with no other error rate, they are returned with no other. -/
theorem rates_sound (getRootSpanIndex : GetRootSpanIndex K R) (config : ErrorSamplerConfig K)
    (extra : IsRate config.extraSampleRate) (actions : List (RescueAction K R X))
    (s : RescueSystem K K R X)
    (run : Runs.exec (step getRootSpanIndex) (init config) actions = some s) :
    (∀ c ∈ s.asked, ∀ rate, c.decision = .keep rate → 0 < rate ∧ rate ≤ 1) ∧
      ((∀ a ∈ actions, BeginsSound a) →
        ∀ i payload, s.call i = .returned payload → payload.RatesSound) := by
  have start : (init config : RescueSystem K K R X).Sound (∀ a ∈ actions, BeginsSound a) :=
    ⟨ErrorsSampler.sound_new extra, nofun, fun _ => trivial⟩
  have sound : s.Sound (∀ a ∈ actions, BeginsSound a) :=
    Runs.invariant_along (fun _ _ _ => sound_step) start
      (Runs.along_of_forall (fun a mem clean => clean a mem) _) run
  refine ⟨?_, ?_⟩
  · intro c mem rate keep
    have decision := sound.asked c mem
    rw [keep] at decision
    exact decision
  · intro clean i payload returned
    have call := sound.calls i
    rw [returned] at call
    exact call clean

/-! ## Two clones -/

section Exact

/-- Exact numbers, converted as the floats are where both agree. -/
local instance convertedDouble : Double ℚ where
  isFinite _ := true
  toU64 q := UInt64.ofNat q.floor.toNat
  ofU64 n := n.toNat

local instance convertedNarrow : Narrow ℚ ℚ := ⟨id⟩

theorem rates_sound_two_clones :
    ∃ s : RescueSystem ℚ ℚ Unit Unit,
      Runs.exec (step Example.firstSpan) (init ⟨.rateLimited, 10, 1⟩) jumpingClock = some s ∧
      s.asked.length = 2 ∧
      (∀ c ∈ s.asked, ∀ rate, c.decision = .keep rate → 0 < rate ∧ rate ≤ 1) ∧
      ∀ i payload, s.call i = .returned payload → payload.RatesSound := by
  have asked : (Runs.exec (step Example.firstSpan) (init ⟨.rateLimited, 10, 1⟩ :
      RescueSystem ℚ ℚ Unit Unit) jumpingClock).map (fun s => s.asked.length) = some 2 := by
    decide +kernel
  obtain ⟨s, run, asked⟩ := Option.map_eq_some_iff.1 asked
  have sound := rates_sound Example.firstSpan ⟨.rateLimited, 10, 1⟩ isRate_one jumpingClock s run
  have unstamped : Example.failedRequest.RatesSound := by
    simp [Example.failedRequest, TracerPayloadCollection.RatesSound, RatesSound]
  have begins : ∀ a ∈ jumpingClock, BeginsSound a := by
    simp [jumpingClock, BeginsSound, unstamped]
  exact ⟨s, run, asked, sound.1, sound.2 begins⟩

end Exact

end RescueSystem

end ServerlessComponents.TraceAgent
