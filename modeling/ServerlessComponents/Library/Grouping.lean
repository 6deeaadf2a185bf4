import Mathlib.Data.Finset.Card
import Mathlib.Data.List.Dedup
import ServerlessComponents.Library.AssocMap

/-!
# Folding items into a table by key

A table absorbs items one after the other: an item either begins the value of its key or is folded
into it. The value of a key is then the fold of the items with that key, in their order.

## Main results

* `lookup_table` — the value of a key is the fold of its group.
* `values_table` — the values of the table are the folds of the groups, each once.
* `sum_table` — a weight that the folding adds to has the same total over items and table.
* `folds_comp_perm`, `length_folds_comp_iff` — grouping by a coarser key gives the same folds, or as
  many of them, exactly when the coarser key tells the finer keys of the items apart.
-/
namespace Grouping

variable {α κ β : Type*} [DecidableEq κ]

/-- Fold an item into the value of its key. -/
def absorb (key : α → κ) (step : Option β → α → β) (t : AList fun _ : κ => β) (a : α) :
    AList fun _ : κ => β :=
  t.insert (key a) (step (t.lookup (key a)) a)

/-- The table that has absorbed the items. -/
def table (key : α → κ) (step : Option β → α → β) (items : List α) : AList fun _ : κ => β :=
  items.foldl (absorb key step) ∅

/-- The items with a key. -/
def group (key : α → κ) (items : List α) (k : κ) : List α := items.filter fun a => key a = k

/-- The fold of a group, `none` when it is empty. -/
def fold (step : Option β → α → β) (items : List α) : Option β :=
  items.foldl (fun acc a => some (step acc a)) none

/-- The folds of the groups, each once. -/
def folds (key : α → κ) (step : Option β → α → β) (items : List α) : List β :=
  (items.map key).dedup.filterMap fun k => fold step (group key items k)

variable {key : α → κ} {step : Option β → α → β}

theorem table_append (items : List α) (a : α) :
    table key step (items ++ [a]) = absorb key step (table key step items) a := by
  simp [table]

theorem fold_append (items : List α) (a : α) :
    fold step (items ++ [a]) = some (step (fold step items) a) := by
  simp [fold]

theorem lookup_table (items : List α) (k : κ) :
    (table key step items).lookup k = fold step (group key items k) := by
  induction items using List.reverseRecOn with
  | nil => rfl
  | append_singleton items a ih =>
    rw [table_append, absorb, group, List.filter_append]
    by_cases same : key a = k
    · subst same
      rw [AList.lookup_insert, ih]
      simp [fold_append, group]
    · rw [AList.lookup_insert_ne (Ne.symm same), ih]
      simp [group, same]

theorem fold_eq_none_iff {items : List α} : fold step items = none ↔ items = [] := by
  rcases items.eq_nil_or_concat with rfl | ⟨items, a, rfl⟩
  · simp [fold]
  · simp [fold_append]

variable (step) in
theorem mem_table_iff {items : List α} {k : κ} :
    k ∈ table key step items ↔ k ∈ items.map key := by
  rw [← AList.lookup_isSome, lookup_table, Option.isSome_iff_ne_none, ne_eq, fold_eq_none_iff,
    group, List.filter_eq_nil_iff]
  simp

/-- The values of the table, in some order, are the folds of the groups. -/
theorem values_table (items : List α) :
    (table key step items).values.Perm (folds key step items) := by
  have keys : (table key step items).keys.Perm (items.map key).dedup := by
    apply (List.perm_ext_iff_of_nodup (AList.keys_nodup _) (List.nodup_dedup _)).2
    intro k
    rw [List.mem_dedup, ← AList.mem_keys, mem_table_iff]
  rw [AList.values_eq, folds]
  simp only [lookup_table]
  exact keys.filterMap _

/-! ## Totals -/

/-- A weight that each fold step adds to, given what is known of the values under a key, has the
same total over the table as over the items. -/
theorem sum_table {M : Type*} [AddCommMonoid M] (known : κ → β → Prop) {weight : β → M}
    {share : α → M} {items : List α}
    (first : ∀ a ∈ items, known (key a) (step none a) ∧ weight (step none a) = share a)
    (next : ∀ a ∈ items, ∀ b, known (key a) b →
      known (key a) (step (some b) a) ∧ weight (step (some b) a) = weight b + share a) :
    ((table key step items).values.map weight).sum = (items.map share).sum := by
  suffices all : (∀ k b, (table key step items).lookup k = some b → known k b) ∧
      ((table key step items).values.map weight).sum = (items.map share).sum from all.2
  induction items using List.reverseRecOn with
  | nil => exact ⟨fun k b found => by simp [table] at found, rfl⟩
  | append_singleton items a ih =>
    obtain ⟨kept, total⟩ := ih (fun a mem => first a (List.mem_append_left _ mem))
      (fun a mem => next a (List.mem_append_left _ mem))
    have last : a ∈ items ++ [a] := by simp
    rw [table_append, absorb, List.map_append, List.sum_append, ← total]
    have lookup {k : κ} {b b' : β} (now : known (key a) b')
        (found : ((table key step items).insert (key a) b').lookup k = some b) : known k b := by
      by_cases same : k = key a
      · subst same
        rw [AList.lookup_insert] at found
        exact Option.some.inj found ▸ now
      · exact kept k b (by rwa [AList.lookup_insert_ne same] at found)
    cases stored : (table key step items).lookup (key a) with
    | none =>
      obtain ⟨now, weighs⟩ := first a last
      refine ⟨fun k b => lookup now, ?_⟩
      rw [AList.values_insert_of_lookup_eq_none stored]
      simp [weighs, add_comm]
    | some old =>
      obtain ⟨now, weighs⟩ := next a last old (kept _ _ stored)
      refine ⟨fun k b => lookup now, ?_⟩
      obtain ⟨rest, before, after⟩ := AList.values_insert_of_lookup stored
      rw [after, (before.map weight).sum_eq]
      simp [weighs, add_right_comm]

/-! ## Two keys, one coarser than the other -/

/-- No two items have the same coarse key and different fine keys. -/
def Separates {ι : Type*} (coarse : κ → ι) (key : α → κ) (items : List α) : Prop :=
  ∀ a ∈ items, ∀ b ∈ items, coarse (key a) = coarse (key b) → key a = key b

theorem fold_group_isSome {items : List α} {k : κ} (mem : k ∈ items.map key) :
    (fold step (group key items k)).isSome = true := by
  rw [← lookup_table, AList.lookup_isSome]
  exact (mem_table_iff step).2 mem

theorem length_folds (items : List α) :
    (folds key step items).length = (items.map key).toFinset.card := by
  have all_some : ∀ k ∈ (items.map key).dedup, (fold step (group key items k)).isSome = true :=
    fun k mem => fold_group_isSome (List.mem_dedup.1 mem)
  rw [folds, List.length_filterMap_eq_countP, List.countP_eq_length.2 all_some, List.card_toFinset]

variable {ι : Type*} [DecidableEq ι] {coarse : κ → ι}

/-- A coarser key gives as many folds exactly when it separates the finer keys. -/
theorem length_folds_comp_iff (items : List α) :
    (folds (coarse ∘ key) step items).length = (folds key step items).length ↔
      Separates coarse key items := by
  have image : (items.map (coarse ∘ key)).toFinset = (items.map key).toFinset.image coarse := by
    ext i
    simp
  rw [length_folds, length_folds, image, Finset.card_image_iff]
  constructor
  · intro injective a ha b hb
    exact injective (by simpa using ⟨a, ha, rfl⟩) (by simpa using ⟨b, hb, rfl⟩)
  · intro separates k hk l hl
    obtain ⟨a, ha, rfl⟩ := List.mem_map.1 (List.mem_toFinset.1 hk)
    obtain ⟨b, hb, rfl⟩ := List.mem_map.1 (List.mem_toFinset.1 hl)
    exact separates a ha b hb

/-- Where the coarser key separates the finer keys, it gives the same folds. -/
theorem folds_comp_perm {items : List α} (separates : Separates coarse key items) :
    (folds (coarse ∘ key) step items).Perm (folds key step items) := by
  have same_group {a : α} (ha : a ∈ items) :
      group (coarse ∘ key) items (coarse (key a)) = group key items (key a) := by
    apply List.filter_congr
    intro b hb
    have : coarse (key b) = coarse (key a) ↔ key b = key a :=
      ⟨separates b hb a ha, congrArg coarse⟩
    simp only [Function.comp_apply, this]
  have keys : (items.map (coarse ∘ key)).dedup.Perm ((items.map key).dedup.map coarse) := by
    apply (List.perm_ext_iff_of_nodup (List.nodup_dedup _) ?_).2
    · intro i
      simp [List.mem_dedup]
    · refine List.Nodup.map_on ?_ (List.nodup_dedup _)
      intro k hk l hl
      obtain ⟨a, ha, rfl⟩ := List.mem_map.1 (List.mem_dedup.1 hk)
      obtain ⟨b, hb, rfl⟩ := List.mem_map.1 (List.mem_dedup.1 hl)
      exact separates a ha b hb
  refine (keys.filterMap _).trans (.of_eq ?_)
  rw [folds, List.filterMap_map]
  apply List.filterMap_congr
  intro k hk
  obtain ⟨a, ha, rfl⟩ := List.mem_map.1 (List.mem_dedup.1 hk)
  rw [Function.comp_apply, same_group ha]

end Grouping
