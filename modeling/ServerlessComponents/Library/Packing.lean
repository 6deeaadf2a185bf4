import Mathlib.Algebra.GroupWithZero.Nat
import Mathlib.Data.List.Chain
import Mathlib.Data.List.Perm.Subperm

/-!
# Packing a stream of items into batches

Items are put into the current batch one after the other; when the current batch is full, by its
count or by its size, it is closed first, unless nothing has been counted towards its size yet.

## Main results

* `flatten_pack` — the batches hold the items, in order.
* `packed_pack` — every batch is within the limits, and closed by an item that would have reached
  one of them.
* `exists_prefix_mem_pack` — items that fit into one batch and come first are together in one.
* `forall_pack_iff` — when the framed batches of every order are within the limit on bytes.
-/
namespace Packing

variable {α : Type*}

/-- The closed batches, and the current one with its size. -/
structure Packer (α : Type*) where
  batches : List (List α)
  current : List α
  size : Nat

namespace Packer

def empty : Packer α := ⟨[], [], 0⟩

/-- Put an item of a given size into the current batch, closing that batch first if it is full. -/
def push (maxEntries maxBytes : Nat) (p : Packer α) (size : Nat) (a : α) : Packer α :=
  if (maxEntries ≤ p.current.length ∨ maxBytes ≤ p.size + size) ∧ p.size ≠ 0 then
    ⟨p.batches ++ [p.current], [a], size⟩
  else ⟨p.batches, p.current ++ [a], p.size + size⟩

/-- Close the current batch, if there is one. -/
def finish (p : Packer α) : List (List α) :=
  if p.current = [] then p.batches else p.batches ++ [p.current]

/-- Everything put in so far. -/
def items (p : Packer α) : List α := p.batches.flatten ++ p.current

@[simp]
theorem items_push (maxEntries maxBytes : Nat) (p : Packer α) (size : Nat) (a : α) :
    (p.push maxEntries maxBytes size a).items = p.items ++ [a] := by
  unfold push
  split <;> simp [items]

@[simp]
theorem flatten_finish (p : Packer α) : p.finish.flatten = p.items := by
  unfold finish
  grind [items]

end Packer

/-- Pack a list of items. -/
def pack (maxEntries maxBytes : Nat) (size : α → Nat) (l : List α) : List (List α) :=
  (l.foldl (fun p a => p.push maxEntries maxBytes (size a) a) Packer.empty).finish

theorem items_foldl_push (maxEntries maxBytes : Nat) (size : α → Nat) (l : List α) (p : Packer α) :
    (l.foldl (fun p a => p.push maxEntries maxBytes (size a) a) p).items = p.items ++ l := by
  induction l generalizing p with
  | nil => simp
  | cons a rest ih => rw [List.foldl_cons, ih, Packer.items_push, List.append_assoc]; rfl

/-- The batches hold the items, in order. -/
theorem flatten_pack (maxEntries maxBytes : Nat) (size : α → Nat) (l : List α) :
    (pack maxEntries maxBytes size l).flatten = l := by
  rw [pack, Packer.flatten_finish, items_foldl_push]
  rfl

/-! ## Greedy batches -/

section Greedy

variable {maxEntries maxBytes : Nat} {size : α → Nat} {batch : List α} {a : α}

/-- The bytes counted for a batch. -/
def bytes (size : α → Nat) (batch : List α) : Nat := (batch.map size).sum

@[simp] theorem bytes_nil : bytes size [] = 0 := rfl

@[simp] theorem bytes_singleton : bytes size [a] = size a := by simp [bytes]

@[simp] theorem bytes_append (batch more : List α) :
    bytes size (batch ++ more) = bytes size batch + bytes size more := by
  simp [bytes]

theorem bytes_eq_of_perm {l : List α} (same : batch.Perm l) : bytes size batch = bytes size l :=
  (same.map size).sum_nat

theorem bytes_le_of_prefix {l : List α} (before : batch <+: l) :
    bytes size batch ≤ bytes size l := by
  obtain ⟨rest, rfl⟩ := before
  simp

theorem bytes_eq_zero_iff (positive : ∀ a ∈ batch, 0 < size a) :
    bytes size batch = 0 ↔ batch = [] := by
  cases batch with
  | nil => simp
  | cons a rest =>
    have := positive a List.mem_cons_self
    simp [bytes]
    omega

/-- The batch cannot take the item as well without reaching a limit. -/
def Full (maxEntries maxBytes : Nat) (size : α → Nat) (batch : List α) (a : α) : Prop :=
  maxEntries ≤ batch.length ∨ maxBytes ≤ bytes size batch + size a

/-- A batch is not empty, and within the limits; a single item is below no limit on bytes. -/
structure Fits (maxEntries maxBytes : Nat) (size : α → Nat) (batch : List α) : Prop where
  nonempty : batch ≠ []
  entries : batch.length ≤ maxEntries
  bytes : bytes size batch < maxBytes ∨ batch.length = 1

/-- A list packed into batches as greedily as the limits permit. -/
structure Packed (maxEntries maxBytes : Nat) (size : α → Nat) (l : List α)
    (batches : List (List α)) : Prop where
  flatten : batches.flatten = l
  fits : ∀ batch ∈ batches, Fits maxEntries maxBytes size batch
  maximal : batches.IsChain fun batch next =>
    ∃ a, next.head? = some a ∧ Full maxEntries maxBytes size batch a

/-- The invariant of packing: what is closed is as it should be, and the current batch is within
the limits, empty only at the start. -/
structure Packer.Greedy (maxEntries maxBytes : Nat) (size : α → Nat) (p : Packer α) : Prop where
  size_eq : p.size = bytes size p.current
  positive : ∀ a ∈ p.current, 0 < size a
  start : p.current = [] → p.batches = []
  fits : ∀ batch ∈ p.batches, Fits maxEntries maxBytes size batch
  current_fits : p.current ≠ [] → Fits maxEntries maxBytes size p.current
  maximal : (p.batches ++ [p.current]).IsChain fun batch next =>
    ∃ a, next.head? = some a ∧ Full maxEntries maxBytes size batch a

namespace Packer

variable {p : Packer α}

theorem greedy_empty : (empty : Packer α).Greedy maxEntries maxBytes size :=
  ⟨rfl, by simp [empty], fun _ => rfl, by simp [empty], by simp [empty], .singleton _⟩

/-- A batch that something is added to takes part in the packing as before. -/
theorem Greedy.append_maximal (greedy : p.Greedy maxEntries maxBytes size) (a : α) :
    (p.batches ++ [p.current ++ [a]]).IsChain fun batch next =>
      ∃ b, next.head? = some b ∧ Full maxEntries maxBytes size batch b := by
  by_cases first : p.current = []
  · rw [greedy.start first]
    exact .singleton _
  · have closed := List.isChain_append.1 greedy.maximal
    refine List.isChain_append.2 ⟨closed.1, .singleton _, ?_⟩
    intro batch last next next_eq
    obtain rfl : next = p.current ++ [a] := by simpa using next_eq.symm
    obtain ⟨b, head, full⟩ := closed.2.2 batch last p.current (by simp)
    exact ⟨b, by simp [head], full⟩

/-- One item keeps the packing greedy, as long as it is counted for something. -/
theorem Greedy.push (greedy : p.Greedy maxEntries maxBytes size) (room : 1 ≤ maxEntries)
    (positive : 0 < size a) : (p.push maxEntries maxBytes (size a) a).Greedy maxEntries maxBytes
      size := by
  have single : Fits maxEntries maxBytes size [a] := ⟨by simp, room, .inr rfl⟩
  have started : p.size ≠ 0 ↔ p.current ≠ [] := by
    rw [greedy.size_eq, Ne, bytes_eq_zero_iff greedy.positive]
  unfold Packer.push
  split
  · -- the current batch is closed, and the item is what would have reached a limit
    rename_i close
    have full : Full maxEntries maxBytes size p.current a := by
      rw [Full, ← greedy.size_eq]
      exact close.1
    refine ⟨by simp, by simpa using positive, by simp, ?_, fun _ => single, ?_⟩
    · intro batch mem
      rcases List.mem_append.1 mem with closed | current
      · exact greedy.fits batch closed
      · obtain rfl := List.mem_singleton.1 current
        exact greedy.current_fits (started.1 close.2)
    · refine List.isChain_append.2 ⟨greedy.maximal, .singleton _, ?_⟩
      intro batch last next next_eq
      obtain rfl : batch = p.current := by simpa using last.symm
      obtain rfl : next = [a] := by simpa using next_eq.symm
      exact ⟨a, rfl, full⟩
  · rename_i keep
    refine ⟨by simp [greedy.size_eq], ?_, by simp, greedy.fits, fun _ => ?_,
      greedy.append_maximal a⟩
    · intro b mem
      rcases List.mem_append.1 mem with old | new
      · exact greedy.positive b old
      · obtain rfl := List.mem_singleton.1 new
        exact positive
    · -- the item either is the first of its batch, or there is room for it below both limits
      by_cases first : p.current = []
      · simpa [first] using single
      · have below : ¬(maxEntries ≤ p.current.length ∨ maxBytes ≤ p.size + size a) :=
          fun full => keep ⟨full, started.2 first⟩
        rw [greedy.size_eq] at below
        refine ⟨by simp, ?_, .inl ?_⟩
        · simp
          omega
        · simp
          omega

theorem Greedy.packed_finish (greedy : p.Greedy maxEntries maxBytes size) :
    Packed maxEntries maxBytes size p.items p.finish := by
  refine ⟨flatten_finish p, ?_, ?_⟩
  · intro batch mem
    unfold finish at mem
    split at mem
    · exact greedy.fits batch mem
    · rename_i started
      rcases List.mem_append.1 mem with closed | current
      · exact greedy.fits batch closed
      · obtain rfl := List.mem_singleton.1 current
        exact greedy.current_fits started
  · unfold finish
    split
    · exact (List.isChain_append.1 greedy.maximal).1
    · exact greedy.maximal

end Packer

theorem greedy_foldl_push (room : 1 ≤ maxEntries) {l : List α} (positive : ∀ a ∈ l, 0 < size a)
    {p : Packer α} (greedy : p.Greedy maxEntries maxBytes size) :
    (l.foldl (fun p a => p.push maxEntries maxBytes (size a) a) p).Greedy maxEntries maxBytes
      size := by
  induction l generalizing p with
  | nil => exact greedy
  | cons a rest ih =>
    exact ih (fun b mem => positive b (List.mem_cons_of_mem a mem))
      (greedy.push room (positive a List.mem_cons_self))

/-- Items that are all counted for something are packed greedily. -/
theorem packed_pack (room : 1 ≤ maxEntries) {l : List α} (positive : ∀ a ∈ l, 0 < size a) :
    Packed maxEntries maxBytes size l (pack maxEntries maxBytes size l) := by
  have start : (Packer.empty : Packer α).Greedy maxEntries maxBytes size := Packer.greedy_empty
  have packed := (greedy_foldl_push room positive start).packed_finish
  rwa [items_foldl_push] at packed

/-- No batch takes fewer than one item, whatever the limit on entries. -/
theorem Packer.Greedy.push_max_one {p : Packer α} {entries : Nat}
    (greedy : p.Greedy entries maxBytes size) (a : α) :
    p.push (max 1 maxEntries) maxBytes (size a) a = p.push maxEntries maxBytes (size a) a := by
  have started : p.size ≠ 0 → 1 ≤ p.current.length := by
    rw [greedy.size_eq, Ne, bytes_eq_zero_iff greedy.positive]
    exact List.length_pos_iff.2
  have same : (max 1 maxEntries ≤ p.current.length ∨ maxBytes ≤ p.size + size a) ∧ p.size ≠ 0 ↔
      (maxEntries ≤ p.current.length ∨ maxBytes ≤ p.size + size a) ∧ p.size ≠ 0 := by
    grind
  simp only [Packer.push, same]

theorem pack_max_one {l : List α} (positive : ∀ a ∈ l, 0 < size a) :
    pack (max 1 maxEntries) maxBytes size l = pack maxEntries maxBytes size l := by
  suffices h : ∀ p : Packer α, p.Greedy (max 1 maxEntries) maxBytes size →
      l.foldl (fun p a => p.push (max 1 maxEntries) maxBytes (size a) a) p =
        l.foldl (fun p a => p.push maxEntries maxBytes (size a) a) p from
    congrArg Packer.finish (h _ Packer.greedy_empty)
  induction l with
  | nil => exact fun _ _ => rfl
  | cons a rest ih =>
    intro p greedy
    rw [List.foldl_cons, List.foldl_cons, greedy.push_max_one a]
    refine ih (fun b mem => positive b (List.mem_cons_of_mem a mem)) _ ?_
    rw [← greedy.push_max_one a]
    exact greedy.push (by omega) (positive a List.mem_cons_self)

/-- A batch of several items is within both limits. -/
theorem limits_of_mem_pack {l : List α} (positive : ∀ a ∈ l, 0 < size a)
    (mem : batch ∈ pack maxEntries maxBytes size l) (several : 1 < batch.length) :
    batch.length ≤ maxEntries ∧ bytes size batch < maxBytes := by
  rw [← pack_max_one positive] at mem
  have fits := (packed_pack (by omega) positive).fits batch mem
  have entries := fits.entries
  have below := fits.bytes
  omega

theorem sublist_of_mem_pack {l : List α} (mem : batch ∈ pack maxEntries maxBytes size l) :
    batch.Sublist l := by
  rw [← flatten_pack maxEntries maxBytes size l]
  exact List.sublist_flatten_of_mem mem

/-! ## Items that fit together -/

/-- Items that fit into the current batch all go there. -/
theorem foldl_push_of_fits {l : List α} {p : Packer α} (counted : p.size = bytes size p.current)
    (entries : (p.current ++ l).length ≤ maxEntries)
    (below : bytes size (p.current ++ l) < maxBytes) :
    l.foldl (fun p a => p.push maxEntries maxBytes (size a) a) p =
      ⟨p.batches, p.current ++ l, bytes size (p.current ++ l)⟩ := by
  induction l generalizing p with
  | nil => simp [← counted]
  | cons a rest ih =>
    have room : ¬(maxEntries ≤ p.current.length ∨ maxBytes ≤ p.size + size a) := by
      simp [bytes] at entries below counted
      omega
    have kept : p.push maxEntries maxBytes (size a) a =
        ⟨p.batches, p.current ++ [a], p.size + size a⟩ := if_neg fun full => room full.1
    rw [List.foldl_cons, kept, ih (by simp [counted]) (by simpa using entries)
      (by simpa [bytes] using below)]
    simp [bytes]

/-- Items that are together in a batch stay together. -/
theorem prefix_foldl_push (maxEntries maxBytes : Nat) (size : α → Nat) (l : List α) {p : Packer α}
    (together : (∃ b ∈ p.batches, batch <+: b) ∨ batch <+: p.current) :
    let q := l.foldl (fun p a => p.push maxEntries maxBytes (size a) a) p
    (∃ b ∈ q.batches, batch <+: b) ∨ batch <+: q.current := by
  induction l generalizing p with
  | nil => exact together
  | cons a rest ih =>
    have pushed : (∃ b ∈ (p.push maxEntries maxBytes (size a) a).batches, batch <+: b) ∨
        batch <+: (p.push maxEntries maxBytes (size a) a).current := by
      unfold Packer.push
      split
      · grind
      · exact together.imp_right fun before => before.trans (List.prefix_append ..)
    exact ih pushed

/-- Items that fit into one batch and come first are together in one. -/
theorem exists_prefix_mem_pack (nonempty : batch ≠ []) (entries : batch.length ≤ maxEntries)
    (below : bytes size batch < maxBytes) (rest : List α) :
    ∃ b ∈ pack maxEntries maxBytes size (batch ++ rest), batch <+: b := by
  have first : batch.foldl (fun p a => p.push maxEntries maxBytes (size a) a) Packer.empty =
      ⟨[], batch, bytes size batch⟩ := foldl_push_of_fits (p := Packer.empty) rfl entries below
  have started : (∃ b ∈ ([] : List (List α)), batch <+: b) ∨ batch <+: batch := .inr List.prefix_rfl
  have stays := prefix_foldl_push maxEntries maxBytes size rest
    (p := ⟨[], batch, bytes size batch⟩) started
  rw [pack, List.foldl_append, first]
  obtain ⟨b, mem, before⟩ | before := stays
  · refine ⟨b, ?_, before⟩
    unfold Packer.finish
    split
    · exact mem
    · exact List.mem_append_left _ mem
  · refine ⟨_, ?_, before⟩
    unfold Packer.finish
    rw [if_neg (List.IsPrefix.ne_nil before nonempty)]
    simp

/-! ## Batches and what they are framed in -/

/-- No several items within both limits come to more bytes than the limit once they are framed. -/
def FramingFits (maxEntries maxBytes : Nat) (size : α → Nat) (framed : List α → Nat)
    (items : List α) : Prop :=
  ∀ selection, selection.Sublist items → 1 < selection.length → selection.length ≤ maxEntries →
    bytes size selection < maxBytes → framed selection ≤ maxBytes

/-- The framed batches of every order stay within the limit exactly if all selections do, provided
that any selection comes first in some order. -/
theorem forall_pack_iff {items : List α} (positive : ∀ a ∈ items, 0 < size a)
    (framed : List α → Nat) (orders : List α → Prop)
    (grows : ∀ {l l'}, l <+: l' → framed l ≤ framed l')
    (unordered : ∀ {l l'}, l.Perm l' → framed l = framed l')
    (rearranged : ∀ l, orders l → l.Perm items)
    (first : ∀ selection, selection.Sublist items → ∃ l, orders l ∧ selection <+: l) :
    (∀ l, orders l → ∀ batch ∈ pack maxEntries maxBytes size l, 1 < batch.length →
      framed batch ≤ maxBytes) ↔ FramingFits maxEntries maxBytes size framed items := by
  constructor
  · intro bounded selection sublist several entries below
    obtain ⟨l, order, rest, rfl⟩ := first selection sublist
    have nonempty : selection ≠ [] := by
      rintro rfl
      simp at several
    obtain ⟨batch, mem, before⟩ := exists_prefix_mem_pack nonempty entries below rest
    have within := bounded _ order batch mem (several.trans_le before.length_le)
    exact (grows before).trans within
  · intro fits l order batch mem several
    have limits := limits_of_mem_pack
      (fun a mem => positive a ((rearranged l order).mem_iff.1 mem)) mem several
    -- the batch is a selection up to the order of its items
    obtain ⟨selection, same, sublist⟩ :=
      (sublist_of_mem_pack mem).subperm.trans (rearranged l order).subperm
    rw [← unordered same]
    exact fits selection sublist (by rwa [same.length_eq]) (by rw [same.length_eq]; exact limits.1)
      (by rw [bytes_eq_of_perm same]; exact limits.2)

end Greedy

end Packing
