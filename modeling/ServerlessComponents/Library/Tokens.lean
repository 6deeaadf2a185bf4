import Mathlib.Data.List.TakeWhile

/-!
# Tokens: the non-empty pieces between separators

A list is cut at the elements that satisfy a predicate, and the empty pieces are dropped. Any number
of separators may then stand between two tokens, before the first and after the last one.

## Main results

* `tokens_intercalate` — joined by a separator, tokens are found again.
* `tokens_flatMap` — more separators cut the tokens further.
* `tokens_map` — the elements may be mapped before or after the cuts.
-/
namespace Tokens

variable {α β : Type*} {p q : α → Bool} {l xs ys : List α} {sep : α}

/-- Every list is free of separators, or has a first one. -/
theorem splits_induction {motive : List α → Prop} (p : α → Bool)
    (free : ∀ l, (∀ x ∈ l, p x = false) → motive l)
    (cut : ∀ xs sep ys, (∀ x ∈ xs, p x = false) → p sep → motive ys → motive (xs ++ sep :: ys))
    (l : List α) : motive l := by
  -- the first separator ends the longest part without any
  have parts := List.takeWhile_append_dropWhile (p := fun x => !p x) (l := l)
  have clean : ∀ x ∈ l.takeWhile (fun x => !p x), p x = false := fun x mem => by
    simpa using List.mem_takeWhile_imp mem
  cases rest : l.dropWhile (fun x => !p x) with
  | nil =>
    rw [rest, List.append_nil] at parts
    exact parts ▸ free _ clean
  | cons sep ys =>
    have sep_p : p sep := by
      have head := List.head_dropWhile_not (p := fun x => !p x) (l := l) (by simp [rest])
      simpa [rest] using head
    have shorter : ys.length < l.length := by
      have lengths := congrArg List.length parts
      rw [rest, List.length_append, List.length_cons] at lengths
      omega
    rw [← parts, rest]
    exact cut _ sep ys clean sep_p (splits_induction p free cut ys)
termination_by l.length

theorem not_sep_of_mem_splitOnP {piece : List α} (mem : piece ∈ l.splitOnP p) :
    ∀ x ∈ piece, p x = false := by
  induction l using splits_induction p with
  | free l clean =>
    rw [List.splitOnP_eq_singleton clean, List.mem_singleton] at mem
    exact mem ▸ clean
  | cut xs sep ys clean hsep ih =>
    rw [List.splitOnP_append_cons_of_forall_mem clean sep hsep, List.mem_cons] at mem
    rcases mem with rfl | later
    · exact clean
    · exact ih later

theorem sublist_of_mem_splitOnP {piece : List α} (mem : piece ∈ l.splitOnP p) :
    piece.Sublist l := by
  induction l using splits_induction p with
  | free l clean =>
    rw [List.splitOnP_eq_singleton clean, List.mem_singleton] at mem
    exact mem ▸ List.Sublist.refl _
  | cut xs sep ys clean hsep ih =>
    rw [List.splitOnP_append_cons_of_forall_mem clean sep hsep, List.mem_cons] at mem
    rcases mem with rfl | later
    · exact List.sublist_append_left _ _
    · exact ((ih later).cons sep).trans (List.sublist_append_right _ _)

theorem splitOnP_map (f : β → α) (l : List β) :
    (l.map f).splitOnP p = (l.splitOnP (p ∘ f)).map (List.map f) := by
  induction l using splits_induction (p ∘ f) with
  | free l clean =>
    rw [List.splitOnP_eq_singleton clean, List.splitOnP_eq_singleton (by simpa using clean),
      List.map_singleton]
  | cut xs sep ys clean hsep ih =>
    have clean_map : ∀ y ∈ xs.map f, p y = false := by simpa using clean
    rw [List.map_append, List.map_cons,
      List.splitOnP_append_cons_of_forall_mem clean_map _ hsep,
      List.splitOnP_append_cons_of_forall_mem clean _ hsep, List.map_cons, ih]

/-! ## Tokens -/

def tokens (p : α → Bool) (l : List α) : List (List α) := (l.splitOnP p).filter (! ·.isEmpty)

/-- A list that is its own only token. -/
structure IsToken (p : α → Bool) (l : List α) : Prop where
  ne_nil : l ≠ []
  clean : ∀ x ∈ l, p x = false

@[simp]
theorem tokens_nil : tokens p [] = [] := rfl

theorem isToken_of_mem_tokens {piece : List α} (mem : piece ∈ tokens p l) : IsToken p piece := by
  obtain ⟨split, nonempty⟩ := List.mem_filter.1 mem
  exact ⟨by simpa using nonempty, not_sep_of_mem_splitOnP split⟩

theorem sublist_of_mem_tokens {piece : List α} (mem : piece ∈ tokens p l) : piece.Sublist l :=
  sublist_of_mem_splitOnP (List.mem_filter.1 mem).1

theorem IsToken.tokens_eq (token : IsToken p l) : tokens p l = [l] := by
  rw [tokens, List.splitOnP_eq_singleton token.clean]
  simp [token.ne_nil]

theorem tokens_of_clean (clean : ∀ x ∈ l, p x = false) :
    tokens p l = if l = [] then [] else [l] := by
  split
  · rename_i empty
    rw [empty, tokens_nil]
  · rename_i nonempty
    exact IsToken.tokens_eq ⟨nonempty, clean⟩

theorem tokens_append_cons (hsep : p sep) (xs ys : List α) :
    tokens p (xs ++ sep :: ys) = tokens p xs ++ tokens p ys := by
  rw [tokens, List.splitOnP_append_cons _ _ hsep, List.filter_append, tokens, tokens]

/-- What is not a separator stands in a token. -/
theorem exists_mem_tokens {x : α} (mem : x ∈ l) (other : p x = false) :
    ∃ piece ∈ tokens p l, x ∈ piece := by
  induction l using splits_induction p with
  | free l clean => exact ⟨l, by simp [tokens_of_clean clean, List.ne_nil_of_mem mem], mem⟩
  | cut xs sep ys clean hsep ih =>
    rw [tokens_append_cons hsep]
    rcases List.mem_append.1 mem with first | later
    · refine ⟨xs, List.mem_append_left _ ?_, first⟩
      simp [tokens_of_clean clean, List.ne_nil_of_mem first]
    · rcases List.mem_cons.1 later with rfl | later
      · simp [hsep] at other
      · obtain ⟨piece, cut, inside⟩ := ih later
        exact ⟨piece, List.mem_append_right _ cut, inside⟩

/-- Joined by a separator, tokens are found again. -/
theorem tokens_intercalate (hsep : p sep) {pieces : List (List α)}
    (token : ∀ piece ∈ pieces, IsToken p piece) : tokens p ([sep].intercalate pieces) = pieces := by
  induction pieces with
  | nil => rfl
  | cons piece rest ih =>
    have first := (token piece List.mem_cons_self).tokens_eq
    have others := ih fun other mem => token other (List.mem_cons_of_mem _ mem)
    cases rest with
    | nil => rw [List.intercalate_singleton, first]
    | cons next rest =>
      rw [List.intercalate_cons_cons, List.append_assoc, List.singleton_append,
        tokens_append_cons hsep, first, others, List.singleton_append]

/-- More separators cut the tokens further. -/
theorem tokens_flatMap (more : ∀ x, p x → q x) (l : List α) :
    tokens q l = (tokens p l).flatMap (tokens q) := by
  induction l using splits_induction p with
  | free l clean =>
    rw [tokens_of_clean clean]
    split
    · rename_i empty
      rw [empty, tokens_nil, List.flatMap_nil]
    · rw [List.flatMap_singleton]
  | cut xs sep ys clean hsep ih =>
    rw [tokens_append_cons (more sep hsep), tokens_append_cons hsep, List.flatMap_append, ← ih,
      tokens_of_clean clean]
    split
    · rename_i empty
      rw [empty, tokens_nil, List.flatMap_nil]
    · rw [List.flatMap_singleton]

/-- The elements may be mapped before or after the cuts. -/
theorem tokens_map (f : β → α) (l : List β) :
    tokens p (l.map f) = (tokens (p ∘ f) l).map (List.map f) := by
  rw [tokens, splitOnP_map, List.filter_map, tokens]
  congr 2
  funext piece
  simp

end Tokens
