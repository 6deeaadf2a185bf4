import ServerlessComponents.Library.Bisection
import ServerlessComponents.TraceAgent.Processors

/-!
# Splitting oversized payloads

`split_tracer_payload` cuts the chunks of a payload in halves and measures every half anew, with the
other fields of the payload around it. It ends whatever is measured, since a half has fewer chunks.
-/
namespace ServerlessComponents.TraceAgent

variable {D R X H : Type}

/-- The payload with other chunks. -/
def TracerPayload.withChunks (tp : TracerPayload D R) (chunks : List (TraceChunk D R)) :
    TracerPayload D R :=
  { tp with chunks }

@[simp]
theorem TracerPayload.chunks_withChunks (tp : TracerPayload D R) (chunks : List (TraceChunk D R)) :
    (tp.withChunks chunks).chunks = chunks :=
  rfl

section Split

variable (encodedLen : TracerPayload D R → Nat) (maxSize : Nat)

/-- A call of `split_tracer_payload` returns these pieces. -/
inductive SplitReturns : TracerPayload D R → List (TracerPayload D R) → Prop
  | fits {tp} (within : encodedLen tp ≤ maxSize) : SplitReturns tp [tp]
  | single {tp} (over_ : ¬ encodedLen tp ≤ maxSize) (single : ¬ tp.chunks.length > 1) :
      SplitReturns tp [tp]
  | bisects {tp first second} (over_ : ¬ encodedLen tp ≤ maxSize) (several : tp.chunks.length > 1)
      (left : SplitReturns (tp.withChunks (tp.chunks.take (tp.chunks.length / 2))) first)
      (right : SplitReturns (tp.withChunks (tp.chunks.drop (tp.chunks.length / 2))) second) :
      SplitReturns tp (first ++ second)

/-- The pieces of a payload: its chunks in order, all else as it was, and none over the limit that
could be cut. -/
structure SplitInto (tp : TracerPayload D R) (pieces : List (TracerPayload D R)) : Prop where
  chunks : pieces.flatMap (·.chunks) = tp.chunks
  others : ∀ piece ∈ pieces, piece.withChunks tp.chunks = tp
  bounded : ∀ piece ∈ pieces, encodedLen piece ≤ maxSize ∨ piece.chunks.length ≤ 1
  fits : encodedLen tp ≤ maxSize → pieces = [tp]

variable {encodedLen maxSize} {tp : TracerPayload D R} {pieces : List (TracerPayload D R)}

/-- The chunks are cut, and each part is put in a copy of the payload. -/
theorem SplitReturns.cuts (returns : SplitReturns encodedLen maxSize tp pieces) :
    ∃ parts, Bisection.Cuts (fun chunks => encodedLen (tp.withChunks chunks) ≤ maxSize)
      tp.chunks parts ∧ pieces = parts.map tp.withChunks := by
  induction returns with
  | fits within => exact ⟨_, .whole (.inl within), rfl⟩
  | single _ single => exact ⟨_, .whole (.inr (Nat.not_lt.1 single)), rfl⟩
  | bisects over_ several _ _ first second =>
    obtain ⟨left, cuts, rfl⟩ := first
    obtain ⟨right, cuts', rfl⟩ := second
    exact ⟨left ++ right, .halves over_ several cuts cuts', List.map_append.symm⟩

theorem SplitReturns.unique {pieces' : List (TracerPayload D R)}
    (returns : SplitReturns encodedLen maxSize tp pieces)
    (returns' : SplitReturns encodedLen maxSize tp pieces') : pieces = pieces' := by
  obtain ⟨parts, cuts, rfl⟩ := returns.cuts
  obtain ⟨parts', cuts', rfl⟩ := returns'.cuts
  rw [cuts.unique cuts']

/-- The number of chunks is fuel enough. -/
theorem splitReturns_of_le {fuel : Nat} (enough : tp.chunks.length ≤ fuel) :
    SplitReturns encodedLen maxSize tp (splitTracerPayload encodedLen maxSize fuel tp) := by
  induction fuel generalizing tp with
  | zero =>
    by_cases within : encodedLen tp ≤ maxSize
    · exact .fits within
    · exact .single within (by omega)
  | succ fuel ih =>
    rw [splitTracerPayload]
    split_ifs with within several
    · exact .fits within
    · refine .bisects within several (ih ?_) (ih ?_)
      · rw [TracerPayload.chunks_withChunks, List.length_take]
        omega
      · rw [TracerPayload.chunks_withChunks, List.length_drop]
        omega
    · exact .single within several

theorem splitReturns_iff :
    SplitReturns encodedLen maxSize tp pieces ↔
      pieces = splitTracerPayload encodedLen maxSize tp.chunks.length tp := by
  constructor
  · exact fun returns => returns.unique (splitReturns_of_le le_rfl)
  · rintro rfl
    exact splitReturns_of_le le_rfl

theorem splitInto_of_returns (returns : SplitReturns encodedLen maxSize tp pieces) :
    SplitInto encodedLen maxSize tp pieces := by
  obtain ⟨parts, cuts, rfl⟩ := returns.cuts
  constructor
  · rw [List.flatMap_map]
    exact List.flatMap_id'.trans cuts.flatten
  · intro piece mem
    obtain ⟨chunks, _, rfl⟩ := List.mem_map.1 mem
    rfl
  · intro piece mem
    obtain ⟨chunks, part, rfl⟩ := List.mem_map.1 mem
    exact cuts.bounded part
  · intro within
    rw [cuts.eq_of_accepts within]
    rfl

end Split

/-- Every payload is split into pieces, in order, and what `process_traces` declares for a piece of
several chunks is within the limit of a request. -/
theorem splitOversizedPayloads_pieces (encodedLen : TracerPayload D R → Nat)
    (payloads : List (TracerPayload D R)) (maxSize : Nat) :
    (∀ tp pieces, SplitReturns encodedLen maxSize tp pieces ↔
      pieces = splitTracerPayload encodedLen maxSize tp.chunks.length tp) ∧
    (∃ split, splitOversizedPayloads encodedLen payloads maxSize = split.flatten ∧
      List.Forall₂ (SplitInto encodedLen maxSize) payloads split) ∧
    (splitOversizedPayloads encodedLen payloads maxSize).flatMap (·.chunks) =
      payloads.flatMap (·.chunks) ∧
    ∀ decoded : DecodedTraces D R X H, decoded.payload = .v07 payloads →
      ∀ sendData ∈ decoded.sendDatas encodedLen, ∃ tp, sendData.tracerPayload = .v07 [tp] ∧
        sendData.size = encodedLen tp + V07_ENVELOPE_OVERHEAD_BYTES ∧
        (1 < tp.chunks.length → sendData.size ≤ MAX_CONTENT_SIZE_BYTES) := by
  have into (maxSize : Nat) (tp : TracerPayload D R) : SplitInto encodedLen maxSize tp
      (splitTracerPayload encodedLen maxSize tp.chunks.length tp) :=
    splitInto_of_returns (splitReturns_of_le le_rfl)
  refine ⟨fun tp pieces => splitReturns_iff, ⟨_, rfl, ?_⟩, ?_, ?_⟩
  · rw [List.forall₂_map_right_iff, List.forall₂_same]
    exact fun tp _ => into maxSize tp
  · rw [splitOversizedPayloads, List.flatMap_assoc]
    exact List.flatMap_congr fun tp _ => (into maxSize tp).chunks
  · intro decoded payload sendData mem
    rw [DecodedTraces.sendDatas, payload, pieces, List.map_map] at mem
    obtain ⟨piece, split, rfl⟩ := List.mem_map.1 mem
    obtain ⟨tp, _, part⟩ := List.mem_flatMap.1 split
    refine ⟨piece, rfl, rfl, fun several => ?_⟩
    have within := ((into _ tp).bounded piece part).resolve_right (Nat.not_le.2 several)
    exact Nat.add_le_of_le_sub (by decide) within

end ServerlessComponents.TraceAgent
