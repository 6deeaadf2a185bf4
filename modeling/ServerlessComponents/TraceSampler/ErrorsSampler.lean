import ServerlessComponents.TraceSampler.RateLimited

/-!
# The error sampler

`ErrorsSampler` dispatches to one of the two rescue strategies its configuration selects.
-/
namespace ServerlessComponents.TraceSampler

inductive ErrorsSampler (S D : Type*) where
  | alwaysKeep (disabled : Bool)
  | rateLimited (sampler : RateLimitedSampler S D)

namespace ErrorsSampler

variable {S D : Type*} [Zero S] [Add S] [LT S] [DecidableLT S] [Max S] [Widen S D] [Narrow S D]
  [Double D] [Zero D] [One D] [Sub D] [Mul D] [Div D] [NatCast D] [OfScientific D] [LT D]
  [DecidableLT D] [LE D] [DecidableLE D] [BEq D]

def new (config : ErrorSamplerConfig D) : ErrorsSampler S D :=
  match config.mode with
  | .alwaysKeep => .alwaysKeep (config.targetTps ≤ 0)
  | .rateLimited => .rateLimited (.new config)

def isDisabled : ErrorsSampler S D → Bool
  | .alwaysKeep disabled => disabled
  | .rateLimited s => s.disabled

/-- Count a trace and decide whether to rescue it; a malformed chunk is not rescued. -/
def sample (s : ErrorsSampler S D) (nowUnixSecs : Int) (trace : TraceView D) :
    ErrorsSampler S D × SampleDecision D :=
  match s with
  | .alwaysKeep disabled =>
    if disabled = true ∨ trace.spans.length ≤ trace.rootIndex then (.alwaysKeep disabled, .drop)
    else (.alwaysKeep disabled, .keep 1)
  | .rateLimited s =>
    let (s, decision) := s.sample nowUnixSecs trace
    (.rateLimited s, decision)

end ErrorsSampler

end ServerlessComponents.TraceSampler
