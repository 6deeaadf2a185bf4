import Mathlib.Data.List.Destutter
import Mathlib.Data.List.Sort

/-!
# Dropping repetitions, consecutive ones and all of them

`List.destutter (· ≠ ·)` drops consecutive repetitions. It leaves every element once exactly if
equal elements stood next to each other, which in two sorted lists behind one another is a matter
of where they meet.

## Main results

* `nodup_filter_destutter_iff` — between two equal elements there is no other.
* `nodup_destutter_append_iff` — sorted lists share at most the last element of one and the first
  of the other.
* `foldl_runs` — a loop that skips repetitions goes over the list without them.
* `filter_eq_filter_iff` — a selection from a sorted list without repetitions is the only sorted one
  of its elements.
-/
namespace Distinct

variable {α : Type*} [DecidableEq α] {l l' : List α} {a b : α}

theorem mem_destutter'_iff : b ∈ l.destutter' (· ≠ ·) a ↔ b = a ∨ b ∈ l := by
  induction l generalizing a with
  | nil => simp
  | cons c rest ih =>
    rw [List.destutter'_cons]
    split
    · rw [List.mem_cons, ih, List.mem_cons]
    · rename_i same
      obtain rfl : a = c := not_not.1 same
      rw [ih, List.mem_cons, or_self_left]

@[simp]
theorem mem_destutter : b ∈ l.destutter (· ≠ ·) ↔ b ∈ l := by
  cases l with
  | nil => rfl
  | cons a rest => rw [List.destutter_cons', mem_destutter'_iff, List.mem_cons]

/-- A loop that remembers the last element, and skips those that are equal to it. -/
theorem foldl_runs {β : Type*} (op : β → α → β) (x : β) (a : α) (l : List α) :
    (l.foldl (fun (last, x) b => if b ≠ last then (b, op x b) else (last, x)) (a, op x a)).2 =
      (l.destutter' (· ≠ ·) a).foldl op x := by
  induction l generalizing a x with
  | nil => rfl
  | cons b rest ih =>
    rw [List.foldl_cons, List.destutter'_cons]
    by_cases same : a = b
    · subst same
      simp only [ne_eq, not_true, if_false]
      exact ih x a
    · simp only [ne_eq, same, Ne.symm same, not_false_iff, if_true, List.foldl_cons]
      exact ih (op x a) b

/-- Equal elements with another one between them survive, all others become one. -/
theorem nodup_filter_destutter'_iff {p : α → Bool} :
    ((l.destutter' (· ≠ ·) a).filter p).Nodup ↔
      ∀ b c, p b → [b, c, b].Sublist (a :: l) → c = b := by
  induction l generalizing a with
  | nil =>
    refine iff_of_true ((List.nodup_singleton a).filter _) fun b c _ sublist => ?_
    simpa using sublist.length_le
  | cons d rest ih =>
    by_cases same : a = d
    · subst same
      rw [List.destutter'_cons_neg _ (not_not.2 rfl), ih]
      refine ⟨fun between b c selected sublist => ?_, fun between b c selected sublist =>
        between b c selected (sublist.cons a)⟩
      cases sublist with
      | cons _ later => exact between b c selected later
      | cons_cons _ later =>
        cases later with
        | cons _ later => exact between a c selected (later.cons_cons a)
        | cons_cons _ _ => rfl
    · have later_iff : a ∈ (rest.destutter' (· ≠ ·) d).filter p ↔ a ∈ rest ∧ p a := by
        simp [mem_destutter'_iff, same]
      rw [List.destutter'_cons_pos _ same]
      constructor
      · intro nodup b c selected sublist
        have between := ih.1 (nodup.sublist ((List.sublist_cons_self a _).filter _))
        cases sublist with
        | cons _ later => exact between b c selected later
        | cons_cons _ later =>
          have again : a ∈ d :: rest := later.subset (by simp)
          rw [List.filter_cons_of_pos (by simpa using selected), List.nodup_cons, later_iff]
            at nodup
          exact absurd ⟨(List.mem_cons.1 again).resolve_left same, selected⟩ nodup.1
      · intro between
        have nodup := ih.2 fun b c selected sublist => between b c selected (sublist.cons a)
        rw [List.filter_cons]
        split
        · refine List.nodup_cons.2 ⟨fun later => same ?_, nodup⟩
          obtain ⟨again, selected⟩ := later_iff.1 later
          have sublist := ((List.singleton_sublist.2 again).cons_cons d).cons_cons a
          exact (between a d selected sublist).symm
        · exact nodup

theorem nodup_filter_destutter_iff {p : α → Bool} :
    ((l.destutter (· ≠ ·)).filter p).Nodup ↔ ∀ b c, p b → [b, c, b].Sublist l → c = b := by
  cases l with
  | nil => simp
  | cons a rest => exact nodup_filter_destutter'_iff

theorem nodup_destutter_iff :
    (l.destutter (· ≠ ·)).Nodup ↔ ∀ b c, [b, c, b].Sublist l → c = b := by
  simpa using nodup_filter_destutter_iff (l := l) (p := fun _ => true)

omit [DecidableEq α] in
/-- Of two elements of a list, one comes before the other. -/
theorem pair_sublist_or (mem : a ∈ l) (mem' : b ∈ l) :
    a = b ∨ [a, b].Sublist l ∨ [b, a].Sublist l := by
  induction l with
  | nil => cases mem
  | cons c rest ih =>
    rcases List.mem_cons.1 mem with rfl | later
    · rcases List.mem_cons.1 mem' with rfl | later'
      · exact .inl rfl
      · exact .inr (.inl ((List.singleton_sublist.2 later').cons_cons a))
    · rcases List.mem_cons.1 mem' with rfl | later'
      · exact .inr (.inr ((List.singleton_sublist.2 later).cons_cons b))
      · exact (ih later later').imp_right (.imp (.cons c) (.cons c))

section Sorted

variable {r : α → α → Prop}

omit [DecidableEq α] in
theorem rel_of_pair_sublist (sorted : l.Pairwise r) (sublist : [a, b].Sublist l) : r a b :=
  List.pairwise_iff_forall_sublist.1 sorted sublist

/-- In a sorted list equal elements stand together. -/
theorem nodup_destutter_append_iff [Std.Refl r] [Std.Antisymm r] (sorted : l.Pairwise r)
    (sorted' : l'.Pairwise r) :
    ((l ++ l').destutter (· ≠ ·)).Nodup ↔
      ∀ a ∈ l, a ∈ l' → (∀ b ∈ l, r b a) ∧ ∀ b ∈ l', r a b := by
  rw [nodup_destutter_iff]
  constructor
  · intro between a mem mem'
    have last := List.singleton_sublist.2 mem
    have first := List.singleton_sublist.2 mem'
    refine ⟨fun b other => ?_, fun b other => ?_⟩
    · rcases pair_sublist_or mem other with rfl | after | before
      · exact Std.Refl.refl a
      · rw [between a b (after.append first)]
        exact Std.Refl.refl a
      · exact rel_of_pair_sublist sorted before
    · rcases pair_sublist_or mem' other with rfl | after | before
      · exact Std.Refl.refl a
      · exact rel_of_pair_sublist sorted' after
      · rw [between a b (last.append before)]
        exact Std.Refl.refl a
  · intro meet a b sublist
    obtain ⟨left, right, split, before, after⟩ := List.sublist_append_iff.1 sublist
    -- the lists meet before the first `a`, before `b`, behind it, or behind the second `a`
    match left with
    | [] =>
      obtain rfl : [a, b, a] = right := split
      have forth := rel_of_pair_sublist sorted' ((List.sublist_append_left [a, b] [a]).trans after)
      have back := rel_of_pair_sublist sorted' ((List.sublist_cons_self a [b, a]).trans after)
      exact Std.Antisymm.antisymm b a back forth
    | [_] =>
      obtain ⟨rfl, rfl⟩ := List.cons_eq_cons.1 split
      have both := meet a (before.subset (by simp)) (after.subset (by simp))
      exact Std.Antisymm.antisymm b a (rel_of_pair_sublist sorted' after)
        (both.2 b (after.subset (by simp)))
    | [_, _] =>
      obtain ⟨rfl, rfl, rfl⟩ : a = _ ∧ b = _ ∧ [a] = right := by simpa using split
      have both := meet a (before.subset (by simp)) (after.subset (by simp))
      exact Std.Antisymm.antisymm b a (both.1 b (before.subset (by simp)))
        (rel_of_pair_sublist sorted before)
    | _ :: _ :: _ :: _ =>
      obtain ⟨rfl, rfl, rfl, rfl, rfl⟩ : a = _ ∧ b = _ ∧ a = _ ∧ [] = _ ∧ [] = right := by
        simpa using split
      have forth := rel_of_pair_sublist sorted ((List.sublist_append_left [a, b] [a]).trans before)
      have back := rel_of_pair_sublist sorted ((List.sublist_cons_self a [b, a]).trans before)
      exact Std.Antisymm.antisymm b a back forth

/-- A sorted list without consecutive repetitions has none. -/
theorem perm_destutter_dedup [Std.Refl r] [Std.Antisymm r] (sorted : l.Pairwise r) :
    (l.destutter (· ≠ ·)).Perm l.dedup := by
  have nodup : (l.destutter (· ≠ ·)).Nodup := by
    rw [← List.append_nil l]
    exact (nodup_destutter_append_iff sorted .nil).2 fun _ _ mem => absurd mem List.not_mem_nil
  refine (List.perm_ext_iff_of_nodup nodup (List.nodup_dedup l)).2 fun a => ?_
  rw [mem_destutter, List.mem_dedup]

omit [DecidableEq α] in
/-- Selected elements of a sorted list against those of a sorted list that has the same elements,
each of them once. -/
theorem filter_eq_filter_iff [Std.Antisymm r] {p : α → Bool}
    (sorted : l.Pairwise r) (sorted' : l'.Pairwise r) (nodup' : l'.Nodup)
    (same : ∀ a, a ∈ l ↔ a ∈ l') : l.filter p = l'.filter p ↔ (l.filter p).Nodup := by
  refine ⟨fun eq => eq ▸ nodup'.filter _, fun nodup => ?_⟩
  have perm : (l.filter p).Perm (l'.filter p) :=
    (List.perm_ext_iff_of_nodup nodup (nodup'.filter _)).2 fun a => by
      simp only [List.mem_filter, same]
  exact perm.eq_of_pairwise' (sorted.filter _) (sorted'.filter _)

omit [DecidableEq α] in
/-- More of them are selected when some is repeated. -/
theorem nodup_filter_of_length_eq {p : α → Bool} (nodup' : l'.Nodup)
    (same : ∀ a, a ∈ l ↔ a ∈ l') (length : (l.filter p).length = (l'.filter p).length) :
    (l.filter p).Nodup := by
  have subset : l'.filter p ⊆ l.filter p := fun a => by
    simp only [List.mem_filter, same]
    exact id
  have subperm := List.subperm_of_subset (nodup'.filter _) subset
  exact (subperm.perm_of_length_le length.le).nodup_iff.1 (nodup'.filter _)

end Sorted

end Distinct
