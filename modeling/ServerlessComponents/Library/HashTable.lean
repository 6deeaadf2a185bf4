import Mathlib.Data.List.Nodup

/-!
# A hash table that keeps hash and equality apart

The table files an item under the hash it is given, and a look-up gives a hash and an equality
test: it meets the items filed under that hash and, depending on how the table lies in memory, some
others. A growing table files its items anew, under the hashes a third function gives. Where the
three agree on a key, the table is a map from that key.

## Main results

* `find_of_consistent` — where equal items have equal hashes, a look-up finds the equal item,
  whatever else the probe meets; `find_eq` is the case of a key.
* `exists_split_of_find` — the bucket a look-up stops at, and a change in place of its item.
* `reserve_eq` — growing changes nothing.
* `KeyedBy.push`, `KeyedBy.modify`, `KeyedBy.filter` — the operations keep the agreement.
-/
namespace HashTable

variable {α : Type*}

/-- An occupied bucket: an item and the hash it is filed under. -/
structure Slot (α : Type*) where
  hash : UInt64
  item : α

/-- Which hashes a probe for a hash meets: at least its own. -/
def Probe : Type := { meets : UInt64 → UInt64 → Bool // ∀ hash, meets hash hash = true }

/-- The probe stops at this bucket. -/
def hit (probe : Probe) (hash : UInt64) (eq : α → Bool) (slot : Slot α) : Bool :=
  probe.1 hash slot.hash && eq slot.item

/-- Look an item up by hash and equality. -/
def find (probe : Probe) (hash : UInt64) (eq : α → Bool) (t : List (Slot α)) : Option α :=
  (t.find? (hit probe hash eq)).map Slot.item

/-- Change the item that is found, in its bucket. -/
def modify (probe : Probe) (hash : UInt64) (eq : α → Bool) (f : α → α) :
    List (Slot α) → List (Slot α)
  | [] => []
  | slot :: rest =>
    if hit probe hash eq slot then { slot with item := f slot.item } :: rest
    else slot :: modify probe hash eq f rest

/-- Make room for one more item; a table that grows files its items anew. -/
def reserve (grows : Bool) (hasher : α → UInt64) (t : List (Slot α)) : List (Slot α) :=
  if grows then t.map fun slot => ⟨hasher slot.item, slot.item⟩ else t

/-- The items, in the order of the buckets. -/
def items (t : List (Slot α)) : List α := t.map Slot.item

/-- Every item is filed under its hash. -/
def Filed (hasher : α → UInt64) (t : List (Slot α)) : Prop :=
  ∀ slot ∈ t, slot.hash = hasher slot.item

/-- Items are filed under their keys, and no two have the same key. -/
structure KeyedBy (key : α → UInt64) (t : List (Slot α)) : Prop where
  filed : ∀ slot ∈ t, slot.hash = key slot.item
  nodup : ((items t).map key).Nodup

variable {key hasher : α → UInt64} {t : List (Slot α)}

theorem KeyedBy.nil : KeyedBy key ([] : List (Slot α)) := ⟨nofun, List.nodup_nil⟩

/-- Where equal items have the hash of the look-up, the probe stops at them and at nothing else. -/
theorem hit_of_consistent {probe : Probe} {hash : UInt64} {eq : α → Bool} {slot : Slot α}
    (filed : slot.hash = hasher slot.item)
    (consistent : eq slot.item = true → hasher slot.item = hash) :
    hit probe hash eq slot = eq slot.item := by
  by_cases same : eq slot.item = true
  · have met : probe.1 hash slot.hash = true := by
      rw [filed, consistent same]
      exact probe.2 hash
    rw [hit, met, Bool.true_and]
  · rw [hit, Bool.eq_false_iff.2 same, Bool.and_false]

theorem find_of_consistent (filed : Filed hasher t) (probe : Probe) {hash : UInt64}
    {eq : α → Bool} (consistent : ∀ a, eq a = true → hasher a = hash) :
    find probe hash eq t = (items t).find? eq := by
  have same : ∀ slots ⊆ t, slots.find? (hit probe hash eq) = slots.find? (eq ∘ Slot.item) := by
    intro slots sub
    induction slots with
    | nil => rfl
    | cons slot rest ih =>
      obtain ⟨mem, sub⟩ := List.cons_subset.1 sub
      rw [List.find?_cons, List.find?_cons,
        hit_of_consistent (filed slot mem) (consistent slot.item), ih sub]
      rfl
  rw [find, same t (List.Subset.refl t), items, List.find?_map]

theorem find_eq (keyed : KeyedBy key t) (probe : Probe) (k : UInt64) :
    find probe k (fun a => key a == k) t = (items t).find? fun a => key a == k :=
  find_of_consistent keyed.filed probe fun _ same => eq_of_beq same

theorem reserve_of_filed (filed : Filed hasher t) (grows : Bool) : reserve grows hasher t = t := by
  cases grows with
  | false => rfl
  | true =>
    refine (List.map_congr_left ?_).trans (List.map_id t)
    intro slot mem
    rw [← filed slot mem]
    rfl

theorem reserve_eq (keyed : KeyedBy key t) {hasher : α → UInt64}
    (agree : ∀ a ∈ items t, hasher a = key a) (grows : Bool) : reserve grows hasher t = t :=
  reserve_of_filed (fun slot mem => (keyed.filed slot mem).trans
    (agree slot.item (List.mem_map_of_mem mem)).symm) grows

theorem items_modify (probe : Probe) (hash : UInt64) (eq : α → Bool) {f : α → α} {β : Type*}
    {g : α → β} (kept : ∀ a, g (f a) = g a) (t : List (Slot α)) :
    (items (modify probe hash eq f t)).map g = (items t).map g := by
  induction t with
  | nil => rfl
  | cons slot rest ih =>
    rw [modify]
    split
    · simp [items, kept]
    · simpa [items] using ih

theorem length_modify (probe : Probe) (hash : UInt64) (eq : α → Bool) (f : α → α)
    (t : List (Slot α)) : (modify probe hash eq f t).length = t.length := by
  induction t with
  | nil => rfl
  | cons slot rest ih =>
    rw [modify]
    split
    · rfl
    · simpa using ih

theorem mem_modify {probe : Probe} {hash : UInt64} {eq : α → Bool} {f : α → α} {slot : Slot α}
    (mem : slot ∈ modify probe hash eq f t) :
    slot ∈ t ∨ ∃ old ∈ t, slot = { old with item := f old.item } := by
  induction t with
  | nil => cases mem
  | cons first rest ih =>
    rw [modify] at mem
    split at mem
    · rcases List.mem_cons.1 mem with rfl | mem
      · exact .inr ⟨first, List.mem_cons_self, rfl⟩
      · exact .inl (List.mem_cons_of_mem _ mem)
    · rcases List.mem_cons.1 mem with rfl | mem
      · exact .inl List.mem_cons_self
      · rcases ih mem with mem | ⟨old, hold, rfl⟩
        · exact .inl (List.mem_cons_of_mem _ mem)
        · exact .inr ⟨old, List.mem_cons_of_mem _ hold, rfl⟩

/-- Where the probe stops: at the first bucket it hits, the one that a change in place is made
in. -/
theorem exists_split_of_find {probe : Probe} {hash : UInt64} {eq : α → Bool} {a : α}
    (found : find probe hash eq t = some a) (f : α → α) :
    ∃ before slot after, t = before ++ slot :: after ∧ slot.item = a ∧ eq a = true ∧
      t.findIdx (hit probe hash eq) = before.length ∧
      modify probe hash eq f t = before ++ { slot with item := f a } :: after := by
  induction t with
  | nil => cases found
  | cons slot rest ih =>
    rw [find, List.find?_cons] at found
    rw [modify, List.findIdx_cons]
    cases stops : hit probe hash eq slot with
    | true =>
      rw [stops] at found
      cases found
      exact ⟨[], slot, rest, rfl, rfl, (Bool.and_eq_true_iff.1 stops).2, rfl, rfl⟩
    | false =>
      rw [stops] at found
      obtain ⟨before, stop, after, split, item, same, index, changed⟩ := ih found
      refine ⟨slot :: before, stop, after, congrArg _ split, item, same, congrArg Nat.succ index,
        ?_⟩
      exact congrArg (slot :: ·) changed

theorem exists_modify_of_find {probe : Probe} {hash : UInt64} {eq : α → Bool} {a : α}
    (found : find probe hash eq t = some a) (f : α → α) :
    ∃ before after, items t = before ++ a :: after ∧
      items (modify probe hash eq f t) = before ++ f a :: after := by
  obtain ⟨before, slot, after, split, rfl, -, -, changed⟩ := exists_split_of_find found f
  refine ⟨items before, items after, ?_, ?_⟩
  · rw [split]
    simp [items]
  · rw [changed]
    simp [items]

theorem find_eq_none_iff {probe : Probe} {hash : UInt64} {eq : α → Bool} :
    find probe hash eq t = none ↔ t.findIdx (hit probe hash eq) = t.length := by
  rw [find, Option.map_eq_none_iff, List.find?_eq_none, List.findIdx_eq_length]
  simp

/-! ## Filing -/

theorem Filed.push (filed : Filed hasher t) (a : α) : Filed hasher (t ++ [⟨hasher a, a⟩]) := by
  intro slot mem
  rcases List.mem_append.1 mem with mem | mem
  · exact filed slot mem
  · rw [List.mem_singleton.1 mem]

theorem Filed.modify (filed : Filed hasher t) {probe : Probe} {hash : UInt64} {eq : α → Bool}
    {f : α → α} (kept : ∀ a, hasher (f a) = hasher a) :
    Filed hasher (HashTable.modify probe hash eq f t) := by
  intro slot mem
  rcases mem_modify mem with mem | ⟨old, hold, rfl⟩
  · exact filed slot mem
  · exact (filed old hold).trans (kept old.item).symm

/-- An item with a new key, filed under it. -/
theorem KeyedBy.push (keyed : KeyedBy key t) {a : α} (fresh : ∀ b ∈ items t, key b ≠ key a) :
    KeyedBy key (t ++ [⟨key a, a⟩]) := by
  refine ⟨Filed.push keyed.filed a, ?_⟩
  simp only [items, List.map_append, List.map_singleton]
  apply List.nodup_append.2
  refine ⟨keyed.nodup, List.nodup_singleton _, ?_⟩
  intro k hk k' hk'
  obtain ⟨b, hb, rfl⟩ := List.mem_map.1 hk
  rw [List.mem_singleton.1 hk']
  exact fresh b hb

/-- A change that keeps the keys. -/
theorem KeyedBy.modify (keyed : KeyedBy key t) {probe : Probe} {hash : UInt64} {eq : α → Bool}
    {f : α → α} (kept : ∀ a, key (f a) = key a) :
    KeyedBy key (HashTable.modify probe hash eq f t) := by
  refine ⟨Filed.modify keyed.filed kept, ?_⟩
  rw [items_modify probe hash eq kept]
  exact keyed.nodup

theorem KeyedBy.filter (keyed : KeyedBy key t) (p : α → Bool) :
    KeyedBy key (t.filter fun slot => p slot.item) := by
  constructor
  · intro slot mem
    exact keyed.filed slot (List.mem_of_mem_filter mem)
  · exact keyed.nodup.sublist ((List.filter_sublist.map _).map _)

end HashTable
