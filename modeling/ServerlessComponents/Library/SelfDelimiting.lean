import Mathlib.Data.List.Basic
import Mathlib.Logic.Function.Basic
import Mathlib.Tactic.NormNum

/-!
# Writers whose output can be read back

A writer is self-delimiting when what it writes for a value, followed by anything, tells the value
and what follows. Such writers compose without separators; a writer that is only injective becomes
one by a terminator that it does not write itself.

## Main results

* `SelfDelimiting.flatMap` — a list of values up to a terminator that begins none of them.
* `SelfDelimiting.of_jsonString` — JSON strings.
* `SelfDelimiting.of_decimal` — decimal numbers up to a character that is no digit.
-/

/-- What is written for a value tells it, whatever is written next. -/
def SelfDelimiting {α σ : Type*} (write : α → List σ) : Prop :=
  ∀ ⦃a b : α⦄ ⦃r s : List σ⦄, write a ++ r = write b ++ s → a = b ∧ r = s

namespace SelfDelimiting

variable {α β σ : Type*} {write : α → List σ} {write' : β → List σ}

theorem injective (h : SelfDelimiting write) : Function.Injective write := by
  intro a b same
  have next : write a ++ [] = write b ++ [] := by rw [same]
  exact (h next).1

/-- A reader that gives the value and what follows. -/
theorem of_read (read : List σ → Option (α × List σ))
    (reads : ∀ a r, read (write a ++ r) = some (a, r)) : SelfDelimiting write := by
  intro a b r s same
  have both : some (a, r) = some (b, s) := by rw [← reads a r, same, reads b s]
  simpa using both

theorem comp {f : β → α} (h : SelfDelimiting write) (inj : Function.Injective f) :
    SelfDelimiting fun b => write (f b) := by
  intro a b r s same
  obtain ⟨same, rest⟩ := h same
  exact ⟨inj same, rest⟩

/-- A fixed text around what is written. -/
theorem between (h : SelfDelimiting write) (before after : List σ) :
    SelfDelimiting fun a => before ++ write a ++ after := by
  intro a b r s same
  have inner : write a ++ (after ++ r) = write b ++ (after ++ s) := by simpa using same
  obtain ⟨rfl, rest⟩ := h inner
  exact ⟨rfl, List.append_cancel_left rest⟩

theorem prod (h : SelfDelimiting write) (h' : SelfDelimiting write') :
    SelfDelimiting fun p : α × β => write p.1 ++ write' p.2 := by
  rintro ⟨a, b⟩ ⟨c, d⟩ r s same
  have first : write a ++ (write' b ++ r) = write c ++ (write' d ++ s) := by simpa using same
  obtain ⟨rfl, second⟩ := h first
  obtain ⟨rfl, rest⟩ := h' second
  exact ⟨rfl, rest⟩

/-- A terminator ends what does not have it. -/
theorem of_terminator {terminator : σ} (inj : Function.Injective write)
    (absent : ∀ a, terminator ∉ write a) : SelfDelimiting fun a => write a ++ [terminator] := by
  suffices cut : ∀ l m r s : List σ, terminator ∉ l → terminator ∉ m →
      l ++ terminator :: r = m ++ terminator :: s → l = m ∧ r = s by
    intro a b r s same
    obtain ⟨same, rest⟩ := cut _ _ r s (absent a) (absent b) (by simpa using same)
    exact ⟨inj same, rest⟩
  intro l
  induction l with
  | nil =>
    intro m r s _ hm same
    cases m with
    | nil => simpa using same
    | cons c m =>
      obtain ⟨rfl, -⟩ := List.cons.inj same
      simp at hm
  | cons c l ih =>
    intro m r s hl hm same
    cases m with
    | nil =>
      obtain ⟨rfl, -⟩ := List.cons.inj same
      simp at hl
    | cons d m =>
      obtain ⟨rfl, tail⟩ := List.cons.inj same
      obtain ⟨rfl, rest⟩ := ih m r s (fun mem => hl (List.mem_cons_of_mem _ mem))
        (fun mem => hm (List.mem_cons_of_mem _ mem)) tail
      exact ⟨rfl, rest⟩

/-- A separator stands before every piece but the first. -/
theorem intercalate_cons (separator : List σ) (piece : List σ) (pieces : List (List σ)) :
    separator.intercalate (piece :: pieces) = piece ++ pieces.flatMap (separator ++ ·) := by
  induction pieces generalizing piece with
  | nil => simp [List.intercalate]
  | cons next pieces ih =>
    rw [List.intercalate_cons_cons, ih, List.flatMap_cons, List.append_assoc, List.append_assoc]

/-- A separator stands after every piece but the last. -/
theorem intercalate_concat (separator : List σ) (pieces : List (List σ)) (piece : List σ) :
    separator.intercalate (pieces ++ [piece]) = pieces.flatMap (· ++ separator) ++ piece := by
  induction pieces with
  | nil => simp [List.intercalate]
  | cons first pieces ih =>
    cases pieces with
    | nil => simp [List.intercalate]
    | cons next pieces =>
      rw [List.cons_append, List.cons_append, List.intercalate_cons_cons, ← List.cons_append, ih]
      simp

/-- A list of values up to a terminator that begins none of them. -/
theorem flatMap (h : SelfDelimiting write) {terminator : σ}
    (absent : ∀ a r, (write a ++ r).head? ≠ some terminator) :
    SelfDelimiting fun as : List α => as.flatMap write ++ [terminator] := by
  intro as
  induction as with
  | nil =>
    rintro (_ | ⟨b, bs⟩) r s same
    · simpa using same
    · have first := congrArg List.head? same
      simp only [List.flatMap_cons, List.append_assoc] at first
      exact absurd first.symm (absent b _)
  | cons a as ih =>
    rintro (_ | ⟨b, bs⟩) r s same
    · have first := congrArg List.head? same
      simp only [List.flatMap_cons, List.append_assoc] at first
      exact absurd first (absent a _)
    · simp only [List.flatMap_cons, List.append_assoc] at same
      obtain ⟨rfl, later⟩ := h same
      obtain ⟨rfl, rest⟩ := ih (b := bs) (r := r) (s := s) (by simpa using later)
      exact ⟨rfl, rest⟩

/-- The same with a separator between the values. -/
theorem separated (h : SelfDelimiting write) {separator terminator : σ}
    (differ : separator ≠ terminator) (absent : ∀ a r, (write a ++ r).head? ≠ some terminator) :
    SelfDelimiting fun as : List α => [separator].intercalate (as.map write) ++ [terminator] := by
  have later : SelfDelimiting fun as : List α =>
      (as.flatMap fun a => separator :: write a) ++ [terminator] := by
    have one : SelfDelimiting fun a => separator :: write a := by
      simpa using h.between [separator] []
    exact one.flatMap fun a r => by simpa using differ
  rintro (_ | ⟨a, as⟩) (_ | ⟨b, bs⟩) r s same
  · simpa using same
  · have first := congrArg List.head? same
    simp only [List.map_cons, intercalate_cons, List.append_assoc] at first
    exact absurd first.symm (absent b _)
  · have first := congrArg List.head? same
    simp only [List.map_cons, intercalate_cons, List.append_assoc] at first
    exact absurd first (absent a _)
  · simp only [List.map_cons, intercalate_cons, List.append_assoc, List.flatMap_map] at same
    obtain ⟨rfl, tail⟩ := h same
    obtain ⟨rfl, rest⟩ := later (a := as) (b := bs) (r := r) (s := s) (by simpa using tail)
    exact ⟨rfl, rest⟩

/-- A list of values up to the end, where each value leaves a trace. -/
theorem flatMap_injective (h : SelfDelimiting write) (nonempty : ∀ a, write a ≠ []) :
    Function.Injective fun as : List α => as.flatMap write := by
  intro as
  induction as with
  | nil =>
    rintro (_ | ⟨b, bs⟩) same
    · rfl
    · simp [nonempty] at same
  | cons a as ih =>
    rintro (_ | ⟨b, bs⟩) same
    · simp [nonempty] at same
    · simp only [List.flatMap_cons] at same
      obtain ⟨rfl, tail⟩ := h same
      rw [ih tail]

/-- The same with a separator between the values. -/
theorem intercalate_injective (h : SelfDelimiting write) (nonempty : ∀ a, write a ≠ [])
    (separator : List σ) :
    Function.Injective fun as : List α => separator.intercalate (as.map write) := by
  have later : Function.Injective fun as : List α => as.flatMap fun a => separator ++ write a := by
    have one : SelfDelimiting fun a => separator ++ write a := by simpa using h.between separator []
    exact one.flatMap_injective (by simp [nonempty])
  rintro (_ | ⟨a, as⟩) (_ | ⟨b, bs⟩) same
  · rfl
  · simp [intercalate_cons, nonempty] at same
  · simp [intercalate_cons, nonempty] at same
  · simp only [List.map_cons, intercalate_cons, List.flatMap_map] at same
    obtain ⟨rfl, tail⟩ := h same
    rw [later tail]

/-! ## JSON strings -/

def hexDigit (n : Nat) : Char := if n < 10 then Char.ofNat (48 + n) else Char.ofNat (87 + n)

def hexValue (c : Char) : Nat := if c.toNat < 58 then c.toNat - 48 else c.toNat - 87

theorem hexValue_hexDigit {n : Nat} (lt : n < 16) : hexValue (hexDigit n) = n := by
  revert n
  decide

/-- A character of a JSON string: the quotation mark, the backslash and the control characters are
escaped. -/
def jsonChar (c : Char) : List Char :=
  if c = '"' then ['\\', '"']
  else if c = '\\' then ['\\', '\\']
  else if c = Char.ofNat 8 then ['\\', 'b']
  else if c = '\t' then ['\\', 't']
  else if c = '\n' then ['\\', 'n']
  else if c = Char.ofNat 12 then ['\\', 'f']
  else if c = '\r' then ['\\', 'r']
  else if c.toNat < 32 then ['\\', 'u', '0', '0', hexDigit (c.toNat / 16), hexDigit (c.toNat % 16)]
  else [c]

def jsonString (cs : List Char) : List Char := '"' :: (cs.flatMap jsonChar ++ ['"'])

/-- The character that a written one begins with. -/
def readJsonChar : List Char → Option (Char × List Char)
  | '\\' :: '"' :: r => some ('"', r)
  | '\\' :: '\\' :: r => some ('\\', r)
  | '\\' :: 'b' :: r => some (Char.ofNat 8, r)
  | '\\' :: 't' :: r => some ('\t', r)
  | '\\' :: 'n' :: r => some ('\n', r)
  | '\\' :: 'f' :: r => some (Char.ofNat 12, r)
  | '\\' :: 'r' :: r => some ('\r', r)
  | '\\' :: 'u' :: '0' :: '0' :: high :: low :: r =>
    some (Char.ofNat (16 * hexValue high + hexValue low), r)
  | c :: r => some (c, r)
  | [] => none

theorem readJsonChar_jsonChar (c : Char) (r : List Char) :
    readJsonChar (jsonChar c ++ r) = some (c, r) := by
  unfold jsonChar
  split_ifs with quote backslash b t n f cr control
  · simp [readJsonChar, quote]
  · simp [readJsonChar, backslash]
  · simp [readJsonChar, b]
  · simp [readJsonChar, t]
  · simp [readJsonChar, n]
  · simp [readJsonChar, f]
  · simp [readJsonChar, cr]
  · have high : hexValue (hexDigit (c.toNat / 16)) = c.toNat / 16 := hexValue_hexDigit (by omega)
    have low : hexValue (hexDigit (c.toNat % 16)) = c.toNat % 16 := hexValue_hexDigit (by omega)
    have whole : 16 * (c.toNat / 16) + c.toNat % 16 = c.toNat := Nat.div_add_mod ..
    simp only [List.cons_append, List.nil_append, readJsonChar, high, low, whole, Char.ofNat_toNat]
  · simp [readJsonChar, backslash]

theorem of_jsonChar : SelfDelimiting jsonChar :=
  .of_read readJsonChar readJsonChar_jsonChar

theorem head_jsonChar (c : Char) (r : List Char) : (jsonChar c ++ r).head? ≠ some '"' := by
  unfold jsonChar
  split_ifs with quote <;> simp [quote]

theorem of_jsonString : SelfDelimiting jsonString := by
  have body := of_jsonChar.flatMap head_jsonChar
  intro a b r s same
  exact body (List.cons.inj same).2

/-! ## Decimal numbers -/

theorem toDigits_injective : Function.Injective (Nat.toDigits 10) := by
  intro m n same
  have value := congrArg (Nat.ofDigitChars 10 · 0) same
  simpa [Nat.ofDigitChars_ten_toDigits] using value

theorem of_decimal {terminator : Char} (notDigit : terminator.isDigit = false) :
    SelfDelimiting fun n => Nat.toDigits 10 n ++ [terminator] := by
  refine .of_terminator toDigits_injective fun n mem => ?_
  have digit := Nat.isDigit_of_mem_toDigits (by omega) (by omega) mem
  simp [notDigit] at digit

end SelfDelimiting
