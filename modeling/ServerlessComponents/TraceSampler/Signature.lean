import Mathlib.Algebra.Group.Nat.Defs
import Mathlib.Data.List.Sort

/-!
# Trace signatures

The signature of a trace and the decision by trace ID (`signature.rs`), with the views of a trace
the sampler reads (`lib.rs`). The arithmetic of `f32` and `f64` is left open: a development over
floats and one over exact numbers instantiate the same definitions.
-/
namespace ServerlessComponents.TraceSampler

/-- The conversions of `f64` to and from integers. -/
class Double (D : Type*) where
  isFinite : D → Bool
  /-- `as u64`, which truncates and saturates. -/
  toU64 : D → UInt64
  ofU64 : UInt64 → D

/-- `f64::from` on an `f32`. -/
class Widen (S D : Type*) where
  widen : S → D

/-- `as f32` on an `f64`. -/
class Narrow (S D : Type*) where
  narrow : D → S

abbrev Signature := UInt64

structure SpanView where
  service : String
  name : String
  resource : String
  error : Bool
  httpStatusCode : Option String
  errorType : Option String
  deriving DecidableEq, Repr

structure TraceView (D : Type*) where
  env : String
  traceId : UInt64
  rootIndex : Nat
  rootGlobalSampleRate : D
  spans : List SpanView

def OFFSET32 : UInt32 := 2166136261
def PRIME32 : UInt32 := 16777619
def SAMPLER_HASHER : UInt64 := 1111111111111111111

namespace Fnv1a32

def writeChar (hash : UInt32) (c : UInt8) : UInt32 := (hash ^^^ c.toUInt32) * PRIME32

def write (hash : UInt32) (data : String) : UInt32 := data.toUTF8.toList.foldl writeChar hash

end Fnv1a32

/-- FNV-1a over env, service, name and error, then what is present of the rest. -/
def computeSpanHash (span : SpanView) (env : String) (withResource : Bool) : UInt32 :=
  let h := Fnv1a32.write OFFSET32 env
  let h := Fnv1a32.write h span.service
  let h := Fnv1a32.write h span.name
  let h := Fnv1a32.writeChar h (if span.error then 1 else 0)
  let h := if withResource then Fnv1a32.write h span.resource else h
  let h := match span.httpStatusCode with
    | some code => Fnv1a32.write h code
    | none => h
  match span.errorType with
    | some typ => Fnv1a32.write h typ
    | none => h

/-- XOR the distinct hashes of a sorted list into the root's hash. -/
def mergeHashes (rootHash : UInt32) : List UInt32 → UInt32
  | [] => rootHash
  | first :: rest =>
    (rest.foldl (fun (last, traceHash) hash =>
      if hash ≠ last then (hash, traceHash ^^^ hash) else (last, traceHash))
      (first, first ^^^ rootHash)).2

/-- The caller guards the index of the root. -/
def computeSignatureWithRootAndEnv (spans : List SpanView) (rootIndex : Nat)
    (inBounds : rootIndex < spans.length) (env : String) : Signature :=
  let rootHash := computeSpanHash (spans.get ⟨rootIndex, inBounds⟩) env true
  let spanHashes := spans.map fun span => computeSpanHash span env false
  (mergeHashes rootHash (spanHashes.insertionSort (· ≤ ·))).toUInt64

/-- Keep a trace by its ID; the product of the ID wraps around. -/
def sampleByRate {D : Type*} [Double D] [One D] [Mul D] [LT D] [DecidableLT D] (traceId : UInt64)
    (rate : D) : Bool :=
  if rate < 1 then
    traceId * SAMPLER_HASHER < Double.toU64 (rate * Double.ofU64 (UInt64.ofNat (2 ^ 64 - 1)))
  else true

end ServerlessComponents.TraceSampler
