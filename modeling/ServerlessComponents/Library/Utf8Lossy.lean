import ServerlessComponents.Library.Utf8

/-!
# Lossy decoding

Bytes that are no text are decoded too: where no character can be read, the longest start of one, or
else a single byte, becomes U+FFFD.

## Main results

* `decodeLossy_encode` — encoded text is read back unchanged.
-/
namespace Utf8

/-- The ranges of the bytes that follow a first byte; `none` for a byte that starts no character. -/
def following (first : Nat) : Option (List (Nat × Nat)) :=
  if first < 0x80 then some []
  else if first < 0xC2 then none
  else if first < 0xE0 then some [(0x80, 0xBF)]
  else if first = 0xE0 then some [(0xA0, 0xBF), (0x80, 0xBF)]
  else if first = 0xED then some [(0x80, 0x9F), (0x80, 0xBF)]
  else if first < 0xF0 then some [(0x80, 0xBF), (0x80, 0xBF)]
  else if first = 0xF0 then some [(0x90, 0xBF), (0x80, 0xBF), (0x80, 0xBF)]
  else if first < 0xF4 then some [(0x80, 0xBF), (0x80, 0xBF), (0x80, 0xBF)]
  else if first = 0xF4 then some [(0x80, 0x8F), (0x80, 0xBF), (0x80, 0xBF)]
  else none

def InRange (range : Nat × Nat) (b : UInt8) : Prop := range.1 ≤ b.toNat ∧ b.toNat ≤ range.2

instance (range : Nat × Nat) (b : UInt8) : Decidable (InRange range b) :=
  inferInstanceAs (Decidable (_ ∧ _))

/-- The longest part of the bytes that is in the ranges. -/
def continuation : List (Nat × Nat) → List UInt8 → List UInt8
  | range :: ranges, b :: rest => if InRange range b then b :: continuation ranges rest else []
  | _, _ => []

/-- The character of a first byte and what follows it, replaced when it is cut short. -/
def charOf (first : Nat) (ranges : List (Nat × Nat)) (continuation : List UInt8) : Char :=
  if continuation.length < ranges.length then '\uFFFD'
  else
    let lead := if ranges.isEmpty then first else first % (64 >>> ranges.length)
    .ofNat (continuation.foldl (fun value b => 64 * value + b.toNat % 64) lead)

/-- At most `fuel` characters. -/
def lossyChars : List UInt8 → Nat → List Char
  | first :: rest, fuel + 1 =>
    match following first.toNat with
    | none => '\uFFFD' :: lossyChars rest fuel
    | some ranges =>
      let taken := continuation ranges rest
      charOf first.toNat ranges taken :: lossyChars (rest.drop taken.length) fuel
  | _, _ => []

/-- `String::from_utf8_lossy`; every character takes a byte at least. -/
def decodeLossy (bytes : List UInt8) : String := .ofList (lossyChars bytes bytes.length)

/-! ## Whole characters -/

theorem continuation_append {ranges : List (Nat × Nat)} {bytes : List UInt8}
    (fits : List.Forall₂ InRange ranges bytes) (rest : List UInt8) :
    continuation ranges (bytes ++ rest) = bytes := by
  induction fits with
  | nil => cases rest <;> rfl
  | cons inRange _ ih => rw [List.cons_append, continuation, if_pos inRange, ih]

theorem lossyChars_whole {first : UInt8} {ranges : List (Nat × Nat)} {bytes : List UInt8}
    (starts : following first.toNat = some ranges) (fits : List.Forall₂ InRange ranges bytes)
    (rest : List UInt8) (fuel : Nat) :
    lossyChars (first :: bytes ++ rest) (fuel + 1) =
      charOf first.toNat ranges bytes :: lossyChars rest fuel := by
  simp only [List.cons_append, lossyChars, starts, continuation_append fits, List.drop_left]

/-! ## What follows the first byte of an encoding -/

theorem following_two {v : Nat} (low : 127 < v) (high : v ≤ 2047) :
    following (v / 64 % 32 + 192) = some [(0x80, 0xBF)] := by
  rw [following, if_neg (by omega), if_neg (by omega), if_pos (by omega)]

theorem following_three {v : Nat} (low : 2047 < v) (high : v ≤ 65535)
    (valid : v < 55296 ∨ 57343 < v) : ∃ least greatest,
    following (v / 4096 % 16 + 224) = some [(least, greatest), (0x80, 0xBF)] ∧
      least ≤ v / 64 % 64 + 128 ∧ v / 64 % 64 + 128 ≤ greatest := by
  -- shorter encodings are left out below, and the surrogates are the second half of 0xED
  by_cases first : v / 4096 % 16 = 0
  · rw [first]
    exact ⟨0xA0, 0xBF, rfl, by omega, by omega⟩
  by_cases surrogates : v / 4096 % 16 = 13
  · rw [surrogates]
    exact ⟨0x80, 0x9F, rfl, by omega, by omega⟩
  refine ⟨0x80, 0xBF, ?_, by omega, by omega⟩
  rw [following, if_neg (by omega), if_neg (by omega), if_neg (by omega), if_neg (by omega),
    if_neg (by omega), if_pos (by omega)]

theorem following_four {v : Nat} (low : 65535 < v) (high : v < 1114112) : ∃ least greatest,
    following (v / 262144 % 8 + 240) = some [(least, greatest), (0x80, 0xBF), (0x80, 0xBF)] ∧
      least ≤ v / 4096 % 64 + 128 ∧ v / 4096 % 64 + 128 ≤ greatest := by
  by_cases first : v / 262144 % 8 = 0
  · rw [first]
    exact ⟨0x90, 0xBF, rfl, by omega, by omega⟩
  by_cases last : v / 262144 % 8 = 4
  · rw [last]
    exact ⟨0x80, 0x8F, rfl, by omega, by omega⟩
  refine ⟨0x80, 0xBF, ?_, by omega, by omega⟩
  rw [following, if_neg (by omega), if_neg (by omega), if_neg (by omega), if_neg (by omega),
    if_neg (by omega), if_neg (by omega), if_neg (by omega), if_pos (by omega)]

theorem inRange_ofNat {low high n : Nat} (ge : low ≤ n) (le : n ≤ high) (lt : n < 256) :
    InRange (low, high) (UInt8.ofNat n) := by
  rw [InRange, UInt8.toNat_ofNat_of_lt' lt]
  exact ⟨ge, le⟩

/-- The first character of some text is read, and the rest of the bytes is left. -/
theorem lossyChars_utf8EncodeChar (c : Char) (rest : List UInt8) (fuel : Nat) :
    lossyChars (String.utf8EncodeChar c ++ rest) (fuel + 1) = c :: lossyChars rest fuel := by
  have valid : c.val.toNat < 55296 ∨ 57343 < c.val.toNat ∧ c.val.toNat < 1114112 := c.valid
  have number : ∀ n, n = c.val.toNat → Char.ofNat n = c := by
    rintro n rfl
    exact Char.ofNat_toNat c
  unfold String.utf8EncodeChar
  dsimp only
  generalize c.val.toNat = v at valid number
  have toNat : ∀ n < 256, (UInt8.ofNat n).toNat = n := fun n lt => UInt8.toNat_ofNat_of_lt' lt
  split_ifs with one two three
  · have starts : following (UInt8.ofNat v).toNat = some [] := by
      rw [toNat _ (by omega), following, if_pos (by omega)]
    rw [lossyChars_whole starts .nil, toNat _ (by omega)]
    exact congrArg (· :: _) (number v rfl)
  · have starts : following (UInt8.ofNat (v / 64 % 32 + 192)).toNat = some [(0x80, 0xBF)] := by
      rw [toNat _ (by omega)]
      exact following_two (by omega) two
    rw [lossyChars_whole starts (.cons (inRange_ofNat (by omega) (by omega) (by omega)) .nil),
      toNat _ (by omega)]
    refine congrArg (· :: _) (number _ ?_)
    simp only [List.foldl_cons, List.foldl_nil, toNat _ (show v % 64 + 128 < 256 by omega)]
    simp
    omega
  · obtain ⟨least, greatest, starts, ge, le⟩ := following_three (v := v) (by omega) three (by omega)
    rw [← toNat (v / 4096 % 16 + 224) (by omega)] at starts
    rw [lossyChars_whole starts (.cons (inRange_ofNat ge le (by omega))
      (.cons (inRange_ofNat (by omega) (by omega) (by omega)) .nil)), toNat _ (by omega)]
    refine congrArg (· :: _) (number _ ?_)
    simp only [List.foldl_cons, List.foldl_nil, toNat _ (show v % 64 + 128 < 256 by omega),
      toNat _ (show v / 64 % 64 + 128 < 256 by omega)]
    simp
    omega
  · obtain ⟨least, greatest, starts, ge, le⟩ := following_four (v := v) (by omega) (by omega)
    rw [← toNat (v / 262144 % 8 + 240) (by omega)] at starts
    rw [lossyChars_whole starts (.cons (inRange_ofNat ge le (by omega))
      (.cons (inRange_ofNat (by omega) (by omega) (by omega))
        (.cons (inRange_ofNat (by omega) (by omega) (by omega)) .nil))), toNat _ (by omega)]
    refine congrArg (· :: _) (number _ ?_)
    simp only [List.foldl_cons, List.foldl_nil, toNat _ (show v % 64 + 128 < 256 by omega),
      toNat _ (show v / 64 % 64 + 128 < 256 by omega),
      toNat _ (show v / 4096 % 64 + 128 < 256 by omega)]
    simp
    omega

theorem lossyChars_encode (chars : List Char) {fuel : Nat} (enough : chars.length ≤ fuel) :
    lossyChars (encode chars) fuel = chars := by
  induction chars generalizing fuel with
  | nil => cases fuel <;> rfl
  | cons c rest ih =>
    obtain ⟨fuel, rfl⟩ := Nat.exists_eq_add_one.2 (Nat.zero_lt_of_lt enough)
    rw [encode, List.flatMap_cons, lossyChars_utf8EncodeChar]
    exact congrArg _ (ih (Nat.le_of_succ_le_succ enough))

theorem length_le_length_encode (chars : List Char) : chars.length ≤ (encode chars).length := by
  induction chars with
  | nil => exact Nat.le_refl 0
  | cons c rest ih =>
    have : 0 < (String.utf8EncodeChar c).length := by
      rw [String.length_utf8EncodeChar]
      exact c.utf8Size_pos
    rw [encode, List.flatMap_cons, List.length_append, List.length_cons]
    change _ ≤ _ + (encode rest).length
    omega

theorem decodeLossy_encode (chars : List Char) : decodeLossy (encode chars) = .ofList chars :=
  congrArg String.ofList (lossyChars_encode chars (length_le_length_encode chars))

example : decodeLossy [0x67, 0xFF, 0xE2, 0x82, 0x7A] = "g\uFFFD\uFFFDz" := by decide

end Utf8
