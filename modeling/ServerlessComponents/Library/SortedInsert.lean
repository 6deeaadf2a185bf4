import Mathlib.Data.List.Basic
import Mathlib.Order.Lattice

/-!
# Insertion by key

Entries of a list are kept sorted by their keys: a new one goes to the first place where no smaller
key follows. Some elements of another list, which is sorted by key itself, have an entry; an element
that gets one later finds it at its own place.

## Main results

* `insert_filterMap` — insertion is the entry of one more element.
* `keys_sublist` — the keys of one kind of entries among those of another kind.
-/
namespace SortedInsert

variable {K T α : Type*}

/-- The first index whose element fails the test, of a list where no later one passes it. -/
def partitionPoint (p : T → Bool) (l : List T) : Nat := (l.takeWhile p).length

/-- Insert the item before the first entry whose key is not smaller. -/
def insert [LinearOrder K] (entries : List (K × T)) (key : K) (item : T) : List (K × T) :=
  entries.insertIdx (partitionPoint (fun entry => entry.1 < key) entries) (key, item)

theorem insert_between [LinearOrder K] {before after : List (K × T)} {key : K}
    (smaller : ∀ entry ∈ before, entry.1 < key) (greater : ∀ entry ∈ after, key < entry.1)
    (item : T) : insert (before ++ after) key item = before ++ (key, item) :: after := by
  have point : partitionPoint (fun entry => decide (entry.1 < key)) (before ++ after) =
      before.length := by
    rw [partitionPoint, List.takeWhile_append_of_pos (by simpa using smaller)]
    cases after with
    | nil => simp
    | cons entry rest =>
      have not_lt : ¬ entry.1 < key := (greater entry List.mem_cons_self).asymm
      simp [not_lt]
  rw [insert, point]
  exact List.modifyTailIdx_add (List.cons (key, item)) 0 before after

/-! ## The entries of a sorted list -/

section Entries

variable {f : α → Option (K × T)} {id : α → K} {l : List α} {i : Nat} {a a' : α}

/-- An element replaced by one with the same entry. -/
theorem filterMap_set (found : l[i]? = some a) {β : Type*} {g : α → Option β} (same : g a' = g a) :
    (l.set i a').filterMap g = l.filterMap g := by
  obtain ⟨lt, rfl⟩ := List.getElem?_eq_some_iff.1 found
  conv_rhs => rw [← List.take_append_drop i l, List.drop_eq_getElem_cons lt]
  rw [List.set_eq_take_append_cons_drop, if_pos lt]
  simp only [List.filterMap_append, List.filterMap_cons, same]

/-- An element gets its entry: it is inserted among those of the others. -/
theorem insert_filterMap [LinearOrder K] (sorted : l.Pairwise fun b c => id b < id c)
    (keyed : ∀ b ∈ l, ∀ entry, f b = some entry → entry.1 = id b) (found : l[i]? = some a)
    (absent : f a = none) {item : T} (entry : f a' = some (id a, item)) :
    insert (l.filterMap f) (id a) item = (l.set i a').filterMap f := by
  obtain ⟨lt, rfl⟩ := List.getElem?_eq_some_iff.1 found
  have split : l = l.take i ++ l[i] :: l.drop (i + 1) := by
    rw [List.getElem_cons_drop, List.take_append_drop]
  rw [split, List.pairwise_append, List.pairwise_cons] at sorted
  obtain ⟨-, ⟨later, -⟩, earlier⟩ := sorted
  have before : ∀ e ∈ (l.take i).filterMap f, e.1 < id l[i] := by
    intro e mem
    obtain ⟨b, there, eq⟩ := List.mem_filterMap.1 mem
    rw [keyed b (List.mem_of_mem_take there) e eq]
    exact earlier b there l[i] List.mem_cons_self
  have after : ∀ e ∈ (l.drop (i + 1)).filterMap f, id l[i] < e.1 := by
    intro e mem
    obtain ⟨b, there, eq⟩ := List.mem_filterMap.1 mem
    rw [keyed b (List.mem_of_mem_drop there) e eq]
    exact later b there
  calc insert (l.filterMap f) (id l[i]) item
      = insert ((l.take i).filterMap f ++ (l.drop (i + 1)).filterMap f) (id l[i]) item := by
        congr 1
        conv_lhs => rw [split]
        rw [List.filterMap_append, List.filterMap_cons_none absent]
    _ = (l.take i).filterMap f ++ (id l[i], item) :: (l.drop (i + 1)).filterMap f :=
        insert_between before after item
    _ = (l.set i a').filterMap f := by
        rw [List.set_eq_take_append_cons_drop, if_pos lt, List.filterMap_append,
          List.filterMap_cons_some entry]

end Entries

/-- Elements with an entry of one kind that all have one of another kind, under the same key. -/
theorem keys_sublist {U : Type*} {f : α → Option (K × T)} {g : α → Option (K × U)} {l : List α}
    (beside : ∀ a ∈ l, ∀ entry, f a = some entry → ∃ item, g a = some (entry.1, item)) :
    ((l.filterMap f).map Prod.fst).Sublist ((l.filterMap g).map Prod.fst) := by
  induction l with
  | nil => exact .slnil
  | cons a rest ih =>
    have rest_ := ih fun b mem => beside b (List.mem_cons_of_mem a mem)
    cases eq : f a with
    | none =>
      rw [List.filterMap_cons_none eq]
      exact rest_.trans (((List.sublist_cons_self a rest).filterMap g).map Prod.fst)
    | some entry =>
      obtain ⟨item, other⟩ := beside a List.mem_cons_self entry eq
      rw [List.filterMap_cons_some eq, List.filterMap_cons_some other]
      exact rest_.cons_cons _

/-- The keys of the entries come in the order of the elements. -/
theorem keys_sublist_map {f : α → Option (K × T)} {id : α → K} {l : List α}
    (keyed : ∀ a ∈ l, ∀ entry, f a = some entry → entry.1 = id a) :
    ((l.filterMap f).map Prod.fst).Sublist (l.map id) := by
  have beside : ∀ a ∈ l, ∀ entry, f a = some entry →
      ∃ item, some (id a, a) = some (entry.1, item) := by
    intro a mem entry eq
    exact ⟨a, by rw [keyed a mem entry eq]⟩
  have all : (l.filterMap fun a => some (id a, a)).map Prod.fst = l.map id := by
    rw [List.filterMap_eq_map', List.map_map]
    rfl
  exact all ▸ keys_sublist beside

end SortedInsert
