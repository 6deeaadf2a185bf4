import Mathlib.Algebra.BigOperators.Group.Finset.Basic
import Mathlib.Data.List.AList

/-!
# Association maps: values mapped in place, sums over the keys

`AList.mapValues` rewrites every value of a map and leaves its keys alone. `AList.Listed` says that
a list holds the entries of a map, in any order; it is how a map that keeps its entries in an order
of its own is compared with one.
-/
namespace AList

variable {α : Type*} {β γ : α → Type*}

/-- Apply a function to every value. -/
def mapValues (f : ∀ a, β a → γ a) (s : AList β) : AList γ where
  entries := s.entries.map fun e => ⟨e.1, f e.1 e.2⟩
  nodupKeys := s.nodupKeys.map₂ f

@[simp]
theorem lookup_mapValues [DecidableEq α] (f : ∀ a, β a → γ a) (s : AList β) (a : α) :
    (s.mapValues f).lookup a = (s.lookup a).map (f a) :=
  List.dlookup_map₂ a

/-- Keep the entries whose values satisfy `p`. -/
def filterValues {β : Type*} (p : β → Bool) (s : AList fun _ : α => β) : AList fun _ : α => β where
  entries := s.entries.filter fun e => p e.2
  nodupKeys := s.nodupKeys.sublist List.filter_sublist

/-- The values, in the order of the entries. -/
def values {β : Type*} (s : AList fun _ : α => β) : List β := s.entries.map (·.2)

@[simp]
theorem values_filterValues {β : Type*} (p : β → Bool) (s : AList fun _ : α => β) :
    (s.filterValues p).values = s.values.filter p := by
  simp only [values, filterValues, List.filter_map]
  rfl

theorem lookup_of_lookup_filterValues {β : Type*} [DecidableEq α] {p : β → Bool}
    {s : AList fun _ : α => β} {a : α} {b : β} (h : (s.filterValues p).lookup a = some b) :
    s.lookup a = some b :=
  mem_lookup_iff.2 (List.mem_of_mem_filter (mem_lookup_iff.1 h))

theorem eq_empty_of_values_eq_nil {β : Type*} {s : AList fun _ : α => β} (h : s.values = []) :
    s = ∅ :=
  ext (List.map_eq_nil_iff.1 h)

theorem lookup_of_mem_entries [DecidableEq α] {s : AList β} {e : Sigma β} (h : e ∈ s.entries) :
    s.lookup e.1 = some e.2 :=
  mem_lookup_iff.2 h

theorem values_eq {β : Type*} [DecidableEq α] (s : AList fun _ : α => β) :
    s.values = s.keys.filterMap s.lookup := by
  rw [values, keys, List.keys, List.filterMap_map, ← List.filterMap_eq_map]
  exact List.filterMap_congr fun e he => (lookup_of_mem_entries he).symm

/-- Inserting under a key that is present replaces one value. -/
theorem values_insert_of_lookup {β : Type*} [DecidableEq α] {s : AList fun _ : α => β} {a : α}
    {b : β} (h : s.lookup a = some b) :
    ∃ rest, s.values.Perm (b :: rest) ∧ ∀ b', (s.insert a b').values = b' :: rest := by
  have present : a ∈ s.entries.keys := lookup_isSome.1 (by rw [h]; rfl)
  obtain ⟨b₀, before, after, -, split, erased⟩ := List.exists_of_kerase present
  have same : b₀ = b := by
    have mem : (⟨a, b₀⟩ : Sigma fun _ : α => β) ∈ s.entries := by simp [split]
    exact Option.some.inj ((lookup_of_mem_entries mem).symm.trans h)
  subst same
  refine ⟨(before ++ after).map (·.2), ?_, ?_⟩
  · rw [values, split, List.map_append, List.map_cons, List.map_append]
    exact List.perm_middle
  · intro b'
    rw [values, entries_insert, erased, List.map_cons]

/-- Inserting under a new key adds a value. -/
theorem values_insert_of_lookup_eq_none {β : Type*} [DecidableEq α] {s : AList fun _ : α => β}
    {a : α} (h : s.lookup a = none) (b : β) : (s.insert a b).values = b :: s.values := by
  have absent : a ∉ s := lookup_eq_none.1 h
  rw [values, entries_insert, List.kerase_of_notMem_keys absent, List.map_cons, values]

/-- The entries in the order of their keys, as a sorted map goes through them. -/
def inOrder {β : Type*} [LinearOrder α] (s : AList fun _ : α => β) : List (α × β) :=
  (s.entries.map fun e => (e.1, e.2)).mergeSort fun a b => decide (a.1 ≤ b.1)

/-- What a sorted map goes through tells the map, and depends on it only. -/
theorem inOrder_eq_iff {β : Type*} [LinearOrder α] {s t : AList fun _ : α => β} :
    s.inOrder = t.inOrder ↔ ∀ a, s.lookup a = t.lookup a := by
  have perm (s : AList fun _ : α => β) : s.inOrder.Perm (s.entries.map fun e => (e.1, e.2)) :=
    List.mergeSort_perm ..
  have pairs : Function.Injective fun e : Sigma fun _ : α => β => (e.1, e.2) := by
    rintro ⟨a, b⟩ ⟨c, d⟩ same
    simpa using same
  constructor
  · intro same a
    have entries : (s.entries.map fun e => (e.1, e.2)).Perm (t.entries.map fun e => (e.1, e.2)) :=
      (perm s).symm.trans (same ▸ perm t)
    exact perm_lookup ((List.map_perm_map_iff pairs).1 entries)
  · intro same
    have entries : s.entries.Perm t.entries := by
      refine List.lookup_ext s.nodupKeys t.nodupKeys fun a b => ?_
      exact Iff.of_eq (congrArg (b ∈ ·) (same a))
    have sorted (s : AList fun _ : α => β) :
        s.inOrder.Pairwise fun a b => decide (a.1 ≤ b.1) = true := by
      refine List.pairwise_mergeSort ?_ ?_ _
      · intro a b c first second
        simp only [decide_eq_true_eq] at *
        exact le_trans first second
      · intro a b
        simpa using le_total a.1 b.1
    have found {s : AList fun _ : α => β} {a : α} {b : β} (mem : (a, b) ∈ s.inOrder) :
        s.lookup a = some b := by
      obtain ⟨e, there, eq⟩ := List.mem_map.1 ((perm s).mem_iff.1 mem)
      cases eq
      exact lookup_of_mem_entries there
    have all : s.inOrder.Perm t.inOrder :=
      ((perm s).trans (entries.map _)).trans (perm t).symm
    refine all.eq_of_pairwise ?_ (sorted s) (sorted t)
    rintro ⟨a, b⟩ ⟨c, d⟩ first second le ge
    simp only [decide_eq_true_eq] at le ge
    obtain rfl : a = c := le_antisymm le ge
    have value : some b = some d := by rw [← found first, same a, found second]
    rw [Option.some.inj value]

theorem sum_keys [DecidableEq α] {M : Type*} [AddCommMonoid M] (s : AList β) (f : α → M) :
    ∑ a ∈ s.keys.toFinset, f a = (s.entries.map fun e => f e.1).sum := by
  rw [List.sum_toFinset _ s.keys_nodup, keys, List.keys, List.map_map]
  rfl

/-! ## Lists of entries -/

/-- The list holds the entries of the map. -/
def Listed {β : Type*} (s : AList fun _ : α => β) (xs : List (α × β)) : Prop :=
  xs.Perm (s.entries.map fun e => (e.1, e.2))

namespace Listed

variable {β : Type*} {s : AList fun _ : α => β} {xs before after : List (α × β)} {a : α} {b : β}

theorem nodup (listed : s.Listed xs) : (xs.map Prod.fst).Nodup := by
  refine (listed.map Prod.fst).nodup_iff.2 ?_
  rw [List.map_map]
  exact s.keys_nodup

variable [DecidableEq α]

theorem lookup (listed : s.Listed xs) (mem : (a, b) ∈ xs) : s.lookup a = some b := by
  obtain ⟨e, stored, same⟩ := List.mem_map.1 (listed.mem_iff.1 mem)
  cases same
  exact lookup_of_mem_entries stored

theorem lookup_eq_none (listed : s.Listed xs) (fresh : ∀ x ∈ xs, x.1 ≠ a) : s.lookup a = none := by
  cases found : s.lookup a with
  | none => rfl
  | some b =>
    have mem : (a, b) ∈ xs :=
      listed.mem_iff.2 (List.mem_map.2 ⟨⟨a, b⟩, mem_lookup_iff.1 found, rfl⟩)
    exact absurd rfl (fresh _ mem)

theorem insert (listed : s.Listed (before ++ (a, b) :: after)) (b' : β) :
    (s.insert a b').Listed (before ++ (a, b') :: after) := by
  have present : a ∈ s.entries.keys :=
    lookup_isSome.1 (by rw [listed.lookup (b := b) (by simp)]; rfl)
  obtain ⟨b₀, front, back, -, split, erased⟩ := List.exists_of_kerase present
  have same : b₀ = b := by
    have mem : (⟨a, b₀⟩ : Sigma fun _ : α => β) ∈ s.entries := by simp [split]
    exact Option.some.inj ((lookup_of_mem_entries mem).symm.trans (listed.lookup (by simp)))
  subst same
  have others : (before ++ after).Perm ((front ++ back).map fun e => (e.1, e.2)) := by
    apply List.Perm.cons_inv (a := (a, b₀))
    calc (a, b₀) :: (before ++ after)
      List.Perm _ (before ++ (a, b₀) :: after) := List.perm_middle.symm
      List.Perm _ ((front ++ ⟨a, b₀⟩ :: back).map fun e => (e.1, e.2)) := split ▸ listed
      List.Perm _ ((a, b₀) :: (front ++ back).map fun e => (e.1, e.2)) := by
        simp
  rw [Listed, entries_insert, erased, List.map_cons]
  exact List.perm_middle.trans (others.cons _)

theorem push (listed : s.Listed xs) (fresh : ∀ x ∈ xs, x.1 ≠ a) (b : β) :
    (s.insert a b).Listed (xs ++ [(a, b)]) := by
  have absent : a ∉ s := AList.lookup_eq_none.1 (listed.lookup_eq_none fresh)
  rw [Listed, entries_insert, List.kerase_of_notMem_keys absent, List.map_cons]
  exact (List.perm_append_singleton _ _).trans (listed.cons _)

omit [DecidableEq α] in
theorem mapValues {γ : Type*} (listed : s.Listed xs) (f : α → β → γ) :
    (s.mapValues f).Listed (xs.map fun x => (x.1, f x.1 x.2)) := by
  rw [Listed, AList.mapValues, List.map_map]
  exact (listed.map _).trans (by rw [List.map_map]; rfl)

end Listed

/-! ## Maps of pairs -/

variable {β : Type*} [DecidableEq α] {xs ys : List (α × β)}

/-- Insert the pairs one after another: the last one under a key stays. -/
def ofPairs (xs : List (α × β)) : AList fun _ : α => β :=
  xs.foldl (fun s x => s.insert x.1 x.2) ∅

theorem ofPairs_concat (xs : List (α × β)) (x : α × β) :
    ofPairs (xs ++ [x]) = (ofPairs xs).insert x.1 x.2 := by
  rw [ofPairs, List.foldl_append, List.foldl_cons, List.foldl_nil, ofPairs]

/-- A loop that inserts what can be parsed. -/
theorem foldl_eq_ofPairs {γ : Type*} {parse : γ → Option (α × β)}
    {step : (AList fun _ : α => β) → γ → AList fun _ : α => β}
    (step_some : ∀ s c x, parse c = some x → step s c = s.insert x.1 x.2)
    (step_none : ∀ s c, parse c = none → step s c = s) (cs : List γ) :
    cs.foldl step ∅ = ofPairs (cs.filterMap parse) := by
  induction cs using List.reverseRecOn with
  | nil => rfl
  | append_singleton cs c ih =>
    rw [List.foldl_append, List.foldl_cons, List.foldl_nil, ih, List.filterMap_append]
    cases parsed : parse c with
    | none => rw [step_none _ c parsed, List.filterMap_cons_none parsed, List.filterMap_nil,
        List.append_nil]
    | some x => rw [step_some _ c x parsed, List.filterMap_cons_some parsed, List.filterMap_nil,
        ofPairs_concat]

theorem lookup_ofPairs (xs : List (α × β)) (a : α) :
    (ofPairs xs).lookup a = xs.reverse.lookup a := by
  induction xs using List.reverseRecOn with
  | nil => rfl
  | append_singleton xs x ih =>
    rw [ofPairs_concat, List.reverse_concat, List.lookup_cons]
    by_cases same : a = x.1
    · rw [same, lookup_insert, beq_self_eq_true]
    · rw [lookup_insert_ne same, ih, beq_eq_false_iff_ne.2 same]

theorem listed_ofPairs (nodup : (xs.map Prod.fst).Nodup) : (ofPairs xs).Listed xs := by
  induction xs using List.reverseRecOn with
  | nil => exact List.Perm.refl _
  | append_singleton xs x ih =>
    rw [List.map_append, List.nodup_append] at nodup
    rw [ofPairs_concat]
    refine (ih nodup.1).push (fun y mem same => ?_) x.2
    exact nodup.2.2 y.1 (List.mem_map_of_mem mem) x.1 (by simp) same

/-- The entries of a map, in any order, make the map again. -/
theorem Listed.lookup_ofPairs {s : AList fun _ : α => β} (listed : s.Listed xs) (a : α) :
    (ofPairs xs).lookup a = s.lookup a := by
  have remade := listed_ofPairs listed.nodup
  cases found : s.lookup a with
  | some b =>
    have mem : (a, b) ∈ xs :=
      listed.mem_iff.2 (List.mem_map.2 ⟨⟨a, b⟩, mem_lookup_iff.1 found, rfl⟩)
    exact remade.lookup mem
  | none =>
    refine remade.lookup_eq_none fun x mem same => ?_
    rw [← same, listed.lookup mem] at found
    cases found

end AList
