import Mathlib.Data.List.Basic

/-!
# Splitting encoded text

The bytes of an ASCII character do not occur in the encoding of any other character, so encoded text
can be split at them before or after it is decoded.

## Main results

* `splitOn_encode` — the pieces of encoded text are the encoded pieces.
* `isSome_decode_iff` — bytes are text exactly if all their pieces are.
-/
namespace Utf8

/-- The encoding of some characters. -/
def encode (chars : List Char) : List UInt8 := chars.flatMap String.utf8EncodeChar

/-- The text that some bytes encode, if they do. -/
def decode (bytes : List UInt8) : Option String := String.fromUTF8? bytes.toByteArray

theorem encode_append (chars more : List Char) :
    encode (chars ++ more) = encode chars ++ encode more :=
  List.flatMap_append

theorem decode_eq_some_iff {bytes : List UInt8} {s : String} :
    decode bytes = some s ↔ encode s.toList = bytes := by
  have encoded : (encode s.toList).toByteArray = s.toByteArray := String.utf8Encode_toList
  rw [← List.toByteArray_inj, encoded, decode, String.fromUTF8?]
  constructor
  · intro decoded
    split at decoded
    · cases decoded
      rfl
    · cases decoded
  · intro same
    rw [dif_pos (same ▸ s.isValidUTF8)]
    exact congrArg some (String.toByteArray_inj.1 same.symm)

theorem decode_encode (chars : List Char) : decode (encode chars) = some (.ofList chars) := by
  rw [decode_eq_some_iff, String.toList_ofList]

theorem isSome_decode_iff_exists {bytes : List UInt8} :
    (decode bytes).isSome ↔ ∃ chars, encode chars = bytes := by
  rw [Option.isSome_iff_exists]
  constructor
  · rintro ⟨s, decoded⟩
    exact ⟨s.toList, decode_eq_some_iff.1 decoded⟩
  · rintro ⟨chars, rfl⟩
    exact ⟨_, decode_encode chars⟩

/-! ## ASCII separators -/

section Separator

variable {sep c : Char} {bytes : List UInt8} {s : String}

theorem utf8EncodeChar_of_ascii (ascii : sep.toNat < 128) :
    String.utf8EncodeChar sep = [UInt8.ofNat sep.toNat] := by
  have small : sep.val.toNat ≤ 127 := Nat.le_of_lt_succ ascii
  simp only [String.utf8EncodeChar, small, if_true]
  rfl

/-- The byte of an ASCII character stands for this character only. -/
theorem not_mem_utf8EncodeChar (ascii : sep.toNat < 128) (other : c ≠ sep) :
    UInt8.ofNat sep.toNat ∉ String.utf8EncodeChar c := by
  intro mem
  have low_byte (n : Nat) (eq : UInt8.ofNat sep.toNat = UInt8.ofNat n) : sep.toNat = n % 256 := by
    have values := congrArg UInt8.toNat eq
    simp only [UInt8.toNat_ofNat'] at values
    omega
  unfold String.utf8EncodeChar at mem
  dsimp only at mem
  -- one byte is the character's own number, and all bytes of longer encodings are above 127
  split at mem
  · have eq := low_byte _ (List.mem_singleton.1 mem)
    refine other (Char.toNat_inj.1 ?_)
    change c.val.toNat = _
    omega
  · split at mem
    · simp only [List.mem_cons, List.not_mem_nil, or_false] at mem
      rcases mem with eq | eq <;> have := low_byte _ eq <;> omega
    · split at mem
      · simp only [List.mem_cons, List.not_mem_nil, or_false] at mem
        rcases mem with eq | eq | eq <;> have := low_byte _ eq <;> omega
      · simp only [List.mem_cons, List.not_mem_nil, or_false] at mem
        rcases mem with eq | eq | eq | eq <;> have := low_byte _ eq <;> omega

theorem splitOn_append_of_not_mem {α : Type*} [DecidableEq α] {d : α} {l : List α} (none : d ∉ l)
    (more : List α) : (l ++ more).splitOn d = (more.splitOn d).modifyHead (l ++ ·) := by
  induction l with
  | nil =>
    rw [List.nil_append]
    cases more.splitOn d <;> rfl
  | cons x rest ih =>
    rw [List.mem_cons, not_or] at none
    rw [List.cons_append, List.splitOn_cons_eq_if_modifyHead, ih none.2,
      if_neg (by simpa using Ne.symm none.1)]
    cases more.splitOn d <;> rfl

theorem splitOn_encode (ascii : sep.toNat < 128) (chars : List Char) :
    (encode chars).splitOn (UInt8.ofNat sep.toNat) = (chars.splitOn sep).map encode := by
  induction chars with
  | nil => rfl
  | cons c rest ih =>
    have first : encode (c :: rest) = String.utf8EncodeChar c ++ encode rest := List.flatMap_cons
    rw [first, List.splitOn_cons_eq_if_modifyHead]
    by_cases same : c = sep
    · subst same
      rw [utf8EncodeChar_of_ascii ascii, List.singleton_append,
        List.splitOn_cons_eq_if_modifyHead, ih, if_pos (beq_self_eq_true _),
        if_pos (beq_self_eq_true _)]
      rfl
    · rw [splitOn_append_of_not_mem (not_mem_utf8EncodeChar ascii same), ih,
        if_neg (by simpa using same)]
      cases rest.splitOn sep <;> rfl

/-- The pieces of bytes that are text are the pieces of the text. -/
theorem map_decode_splitOn (ascii : sep.toNat < 128) (decoded : decode bytes = some s) :
    (bytes.splitOn (UInt8.ofNat sep.toNat)).map decode =
      ((s.toList.splitOn sep).map String.ofList).map some := by
  rw [← decode_eq_some_iff.1 decoded, splitOn_encode ascii, List.map_map, List.map_map]
  exact List.map_congr_left fun chars _ => decode_encode chars

theorem isSome_decode_intercalate (ascii : sep.toNat < 128) {pieces : List (List UInt8)}
    (text : ∀ piece ∈ pieces, (decode piece).isSome) :
    (decode ([UInt8.ofNat sep.toNat].intercalate pieces)).isSome := by
  simp only [isSome_decode_iff_exists] at text ⊢
  induction pieces with
  | nil => exact ⟨[], rfl⟩
  | cons piece rest ih =>
    obtain ⟨chars, eq⟩ := text piece List.mem_cons_self
    obtain ⟨others, eq'⟩ := ih fun other mem => text other (List.mem_cons_of_mem _ mem)
    cases rest with
    | nil => exact ⟨chars, by simpa using eq⟩
    | cons next rest =>
      refine ⟨chars ++ [sep] ++ others, ?_⟩
      rw [encode_append, encode_append, eq, eq', List.intercalate_cons_cons]
      simp [encode, utf8EncodeChar_of_ascii ascii]

theorem isSome_decode_iff (ascii : sep.toNat < 128) :
    (decode bytes).isSome ↔
      ∀ piece ∈ bytes.splitOn (UInt8.ofNat sep.toNat), (decode piece).isSome := by
  constructor
  · intro text piece mem
    obtain ⟨chars, rfl⟩ := isSome_decode_iff_exists.1 text
    rw [splitOn_encode ascii] at mem
    obtain ⟨part, -, rfl⟩ := List.mem_map.1 mem
    exact isSome_decode_iff_exists.2 ⟨part, rfl⟩
  · intro text
    have whole := isSome_decode_intercalate ascii text
    rwa [List.intercalate_splitOn] at whole

end Separator

end Utf8
