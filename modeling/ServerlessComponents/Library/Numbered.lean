import Mathlib.Algebra.BigOperators.Group.Multiset.Basic
import Mathlib.Algebra.GroupWithZero.Nat
import Mathlib.Data.List.Nodup
import Mathlib.Data.List.Perm.Basic

/-!
# Items numbered by round and position

Rounds hand out lists of items. An item is told apart from every other one, of its round or of
another, by the number of the round and its position in it.
-/

structure Numbered (α : Type*) where
  round : Nat
  index : Nat
  item : α
  deriving DecidableEq, Repr

namespace Numbered

variable {α : Type*}

def number (a : Numbered α) : Nat × Nat := (a.round, a.index)

/-- The items of a round, numbered. -/
def ofRound (round : Nat) (items : List α) : List (Numbered α) :=
  items.mapIdx fun index item => ⟨round, index, item⟩

def map {β : Type*} (f : α → β) (a : Numbered α) : Numbered β := ⟨a.round, a.index, f a.item⟩

variable (round : Nat) (items : List α)

@[simp] theorem ofRound_nil : ofRound round ([] : List α) = [] := rfl

@[simp] theorem map_item_ofRound : (ofRound round items).map item = items := by
  apply List.ext_getElem
  · simp [ofRound]
  · intro i _ _
    simp [ofRound]

theorem round_of_mem_ofRound {a : Numbered α} (h : a ∈ ofRound round items) : a.round = round := by
  obtain ⟨i, hi, rfl⟩ := List.mem_iff_getElem.1 h
  simp [ofRound]

theorem exists_mem_ofRound {i : Nat} (lt : i < items.length) :
    ∃ a ∈ ofRound round items, a.index = i :=
  ⟨⟨round, i, items[i]⟩, List.mem_mapIdx.2 ⟨i, lt, rfl⟩, rfl⟩

theorem ofRound_map {β : Type*} (f : α → β) :
    ofRound round (items.map f) = (ofRound round items).map (map f) := by
  apply List.ext_getElem
  · simp [ofRound]
  · intro i _ _
    simp [ofRound, map]

theorem map_number_ofRound :
    (ofRound round items).map number =
      (List.range items.length).map fun index => (round, index) := by
  apply List.ext_getElem
  · simp [ofRound]
  · intro i _ _
    simp [ofRound, number]

theorem nodup_number_ofRound : ((ofRound round items).map number).Nodup := by
  rw [map_number_ofRound]
  refine List.nodup_range.map ?_
  intro i j h
  exact (Prod.mk.inj h).2

theorem nodup_ofRound : (ofRound round items).Nodup :=
  List.Nodup.of_map number (nodup_number_ofRound round items)

/-- The items of one round among those of several, in their order. -/
def inRound (as : List (Numbered α)) : List (Numbered α) := as.filter fun a => a.round = round

theorem inRound_append (as bs : List (Numbered α)) :
    inRound round (as ++ bs) = inRound round as ++ inRound round bs :=
  List.filter_append ..

theorem inRound_eq_self {as : List (Numbered α)} (h : ∀ a ∈ as, a.round = round) :
    inRound round as = as :=
  List.filter_eq_self.2 fun a mem => decide_eq_true (h a mem)

theorem inRound_eq_nil {as : List (Numbered α)} (h : ∀ a ∈ as, a.round ≠ round) :
    inRound round as = [] :=
  List.filter_eq_nil_iff.2 fun a mem => by simpa using h a mem

/-! ## Many rounds -/

/-- The items of consecutive rounds, numbered from `first` on. -/
def ofRounds (first : Nat) : List (List α) → List (Numbered α)
  | [] => []
  | items :: later => ofRound first items ++ ofRounds (first + 1) later

section Rounds

variable (first : Nat) (rounds : List (List α))

@[simp] theorem map_item_ofRounds : (ofRounds first rounds).map item = rounds.flatten := by
  induction rounds generalizing first with
  | nil => rfl
  | cons items later ih => simp [ofRounds, ih]

theorem ofRounds_append (later : List (List α)) :
    ofRounds first (rounds ++ later) =
      ofRounds first rounds ++ ofRounds (first + rounds.length) later := by
  induction rounds generalizing first with
  | nil => rfl
  | cons items rest ih => simp [ofRounds, ih, Nat.add_assoc, Nat.add_comm 1]

theorem round_of_mem_ofRounds {a : Numbered α} (h : a ∈ ofRounds first rounds) :
    first ≤ a.round ∧
      ∃ items, rounds[a.round - first]? = some items ∧ a ∈ ofRound a.round items := by
  induction rounds generalizing first with
  | nil => cases h
  | cons items later ih =>
    rcases List.mem_append.1 h with now | afterwards
    · obtain rfl := round_of_mem_ofRound first items now
      exact ⟨Nat.le_refl _, items, by simp, now⟩
    · obtain ⟨after, items, place, mem⟩ := ih (first + 1) afterwards
      refine ⟨by omega, items, ?_, mem⟩
      obtain ⟨k, hk⟩ : ∃ k, a.round - first = k + 1 := ⟨a.round - (first + 1), by omega⟩
      rw [hk, List.getElem?_cons_succ]
      rwa [show a.round - (first + 1) = k by omega] at place

theorem mem_ofRounds {round : Nat} {items : List α} {a : Numbered α}
    (h : rounds[round]? = some items) (mem : a ∈ ofRound (first + round) items) :
    a ∈ ofRounds first rounds := by
  induction rounds generalizing first round with
  | nil => cases h
  | cons now later ih =>
    cases round with
    | zero =>
      cases h
      exact List.mem_append_left _ mem
    | succ round =>
      refine List.mem_append_right _ (ih (first + 1) h ?_)
      rwa [Nat.add_right_comm]

theorem nodup_number_ofRounds : ((ofRounds first rounds).map number).Nodup := by
  induction rounds generalizing first with
  | nil => exact List.nodup_nil
  | cons items later ih =>
    rw [ofRounds, List.map_append, List.nodup_append]
    refine ⟨nodup_number_ofRound first items, ih (first + 1), ?_⟩
    intro m hm n hn
    obtain ⟨a, ha, rfl⟩ := List.mem_map.1 hm
    obtain ⟨b, hb, rfl⟩ := List.mem_map.1 hn
    have now := round_of_mem_ofRound first items ha
    have after := (round_of_mem_ofRounds (first + 1) later hb).1
    intro same
    have rounds : a.round = b.round := congrArg Prod.fst same
    omega

/-- The items of the first rounds are among all of them, at the front. -/
theorem ofRounds_take_isPrefix (n : Nat) :
    ofRounds first (rounds.take n) <+: ofRounds first rounds := by
  have split := ofRounds_append first (rounds.take n) (rounds.drop n)
  rw [List.take_append_drop] at split
  rw [split]
  exact List.prefix_append ..

theorem mem_ofRounds_take {a : Numbered α} (h : a ∈ ofRounds first rounds) {n : Nat}
    (early : a.round < first + n) : a ∈ ofRounds first (rounds.take n) := by
  have split := ofRounds_append first (rounds.take n) (rounds.drop n)
  rw [List.take_append_drop] at split
  rw [split, List.mem_append] at h
  rcases h with h | late
  · exact h
  · obtain ⟨after, items, found, -⟩ := round_of_mem_ofRounds _ _ late
    by_cases short : rounds.length ≤ n
    · simp [List.drop_eq_nil_of_le short] at found
    · rw [List.length_take, Nat.min_eq_left (by omega)] at after
      omega

/-- The items of one of the rounds. -/
theorem inRound_ofRounds {items : List α} {i : Nat} (found : rounds[i]? = some items) :
    inRound (first + i) (ofRounds first rounds) = ofRound (first + i) items := by
  induction rounds generalizing first i with
  | nil => cases found
  | cons here later ih =>
    rw [ofRounds, inRound_append]
    cases i with
    | zero =>
      cases found
      have later_ : inRound first (ofRounds (first + 1) later) = [] := by
        refine inRound_eq_nil first fun a mem => ?_
        have := (round_of_mem_ofRounds _ _ mem).1
        omega
      have here_ := inRound_eq_self first fun a => round_of_mem_ofRound first items
      rw [Nat.add_zero, later_, here_, List.append_nil]
    | succ i =>
      have here_ : inRound (first + (i + 1)) (ofRound first here) = [] := by
        refine inRound_eq_nil _ fun a mem => ?_
        rw [round_of_mem_ofRound _ _ mem]
        omega
      have later_ := ih (first + 1) (by simpa using found)
      rw [here_, List.nil_append]
      rwa [show first + (i + 1) = first + 1 + i by omega]

end Rounds

/-- Groups that spell out the images of some items are the images of groups of them. -/
theorem exists_groups {β : Type*} {f : β → α} {groups : List (List α)} {items : List β}
    (h : groups.flatten = items.map f) :
    ∃ numbered : List (List β), numbered.map (List.map f) = groups ∧
      numbered.flatten = items := by
  induction groups generalizing items with
  | nil =>
    obtain rfl : items = [] := by simpa using h.symm
    exact ⟨[], rfl, rfl⟩
  | cons group rest ih =>
    obtain ⟨now, later, rfl, hnow, hlater⟩ := List.map_eq_append_iff.1 h.symm
    obtain ⟨numbered, items, flat⟩ := ih hlater.symm
    exact ⟨now :: numbered, by simp [hnow, items], by simp [flat]⟩

/-- The same up to the order within the groups and between them. -/
theorem exists_groups_perm {groups : List (Multiset α)} {items : List (Numbered α)}
    (h : groups.sum = items.map item) :
    ∃ numbered : List (List (Numbered α)),
      (numbered.map fun group => (group.map item : Multiset α)) = groups ∧
        numbered.flatten.Perm items := by
  have listed : (groups.map Multiset.toList).flatten.Perm (items.map item) := by
    rw [← Multiset.coe_eq_coe, ← h]
    clear h
    induction groups with
    | nil => rfl
    | cons group rest ih =>
      rw [List.map_cons, List.flatten_cons, List.sum_cons, ← ih, ← Multiset.coe_add,
        Multiset.coe_toList]
  have named : List.Forall₂ (fun a b => item a = b) items (items.map item) := by
    rw [List.forall₂_map_right_iff, List.forall₂_same]
    exact fun _ _ => rfl
  have moved : Relation.Comp (List.Forall₂ fun a b => item a = b) List.Perm items
      (groups.map Multiset.toList).flatten := ⟨_, named, listed.symm⟩
  rw [List.forall₂_comp_perm_eq_perm_comp_forall₂] at moved
  obtain ⟨shuffled, perm, named⟩ := moved
  have spelled : (groups.map Multiset.toList).flatten = shuffled.map item := by
    have mapped : List.Forall₂ (· = ·) (shuffled.map item) (groups.map Multiset.toList).flatten :=
      List.forall₂_map_left_iff.2 named
    exact (List.forall₂_eq_eq_eq ▸ mapped : shuffled.map item = _).symm
  obtain ⟨numbered, back, rfl⟩ := exists_groups spelled
  refine ⟨numbered, ?_, perm.symm⟩
  calc (numbered.map fun group => (group.map item : Multiset α))
      = (numbered.map (List.map item)).map Multiset.ofList := by
        rw [List.map_map]
        rfl
    _ = groups := by
        rw [back, List.map_map, show Multiset.ofList ∘ Multiset.toList = id from
          funext Multiset.coe_toList, List.map_id]

/-- A list that permutes the images of some items has the images of the items permuted. -/
theorem exists_perm_of_map {β : Type*} {f : α → β} {items : List α} {images : List β}
    (h : (items.map f).Perm images) :
    ∃ shuffled, shuffled.map f = images ∧ items.Perm shuffled := by
  generalize spelled : items.map f = start at h
  induction h generalizing items with
  | nil => exact ⟨items, spelled, .refl _⟩
  | cons b perm ih =>
    obtain ⟨a, rest, rfl, rfl, tail⟩ := List.map_eq_cons_iff.1 spelled
    obtain ⟨shuffled, rfl, moved⟩ := ih tail
    exact ⟨a :: shuffled, rfl, moved.cons a⟩
  | swap b c rest =>
    obtain ⟨a, tail, rfl, rfl, next⟩ := List.map_eq_cons_iff.1 spelled
    obtain ⟨a', later, rfl, rfl, rfl⟩ := List.map_eq_cons_iff.1 next
    exact ⟨a' :: a :: later, rfl, .swap a' a later⟩
  | trans first second ih ih' =>
    obtain ⟨between, spelled, moved⟩ := ih spelled
    obtain ⟨last, spelled, moved'⟩ := ih' spelled
    exact ⟨last, spelled, moved.trans moved'⟩

/-! ## An item leaves its group -/

section Leaving

variable {groups : List (List α)} {i : Nat}

theorem split_at {group : List α} (h : groups[i]? = some group) :
    groups = groups.take i ++ group :: groups.drop (i + 1) := by
  obtain ⟨lt, rfl⟩ := List.getElem?_eq_some_iff.1 h
  rw [List.getElem_cons_drop, List.take_append_drop]

/-- The first item of a group leaves it. -/
theorem flatten_set_perm {a : α} {rest : List α} (h : groups[i]? = some (a :: rest)) :
    groups.flatten.Perm (a :: (groups.set i rest).flatten) := by
  have lt := (List.getElem?_eq_some_iff.1 h).1
  rw [List.set_eq_take_append_cons_drop, if_pos lt]
  calc groups.flatten
      = (groups.take i ++ (a :: rest) :: groups.drop (i + 1)).flatten :=
        congrArg List.flatten (split_at h)
    _ = (groups.take i).flatten ++ a :: (rest ++ (groups.drop (i + 1)).flatten) := by simp
    List.Perm _ (a :: ((groups.take i).flatten ++ (rest ++ (groups.drop (i + 1)).flatten))) :=
        List.perm_middle
    _ = a :: (groups.take i ++ rest :: groups.drop (i + 1)).flatten := by simp

theorem flatten_eraseIdx (h : groups[i]? = some []) :
    (groups.eraseIdx i).flatten = groups.flatten := by
  rw [List.eraseIdx_eq_take_drop_succ]
  conv_rhs => rw [split_at h]
  simp

end Leaving

/-! ## Groups of separate rounds -/

/-- No round has items in two of the groups. -/
def Apart (groups : List (List (Numbered α))) : Prop :=
  groups.Pairwise fun group other => ∀ a ∈ group, ∀ b ∈ other, a.round ≠ b.round

section Apart

variable {groups : List (List (Numbered α))} {i : Nat} {a : Numbered α} {rest : List (Numbered α)}

theorem set_at {β : Type*} {groups : List β} {group : β} (other : β) (h : groups[i]? = some group) :
    groups.set i other = groups.take i ++ other :: groups.drop (i + 1) := by
  rw [List.set_eq_take_append_cons_drop, if_pos (List.getElem?_eq_some_iff.1 h).1]

/-- A group that loses items stays apart from the others. -/
theorem Apart.set (apart : Apart groups) (h : groups[i]? = some (a :: rest)) :
    Apart (groups.set i rest) := by
  rw [Apart, split_at h, List.pairwise_append, List.pairwise_cons] at apart
  obtain ⟨before, ⟨here, after⟩, across⟩ := apart
  rw [Apart, set_at rest h, List.pairwise_append, List.pairwise_cons]
  refine ⟨before, ⟨?_, after⟩, ?_⟩
  · intro other mem b hb
    exact here other mem b (List.mem_cons_of_mem a hb)
  · intro group mem other mem' b hb c hc
    rcases List.mem_cons.1 mem' with rfl | later
    · exact across group mem _ List.mem_cons_self b hb c (List.mem_cons_of_mem a hc)
    · exact across group mem other (List.mem_cons_of_mem _ later) b hb c hc

theorem Apart.eraseIdx (apart : Apart groups) (i : Nat) : Apart (groups.eraseIdx i) :=
  List.Pairwise.sublist (List.eraseIdx_sublist groups i) apart

theorem Apart.concat {group : List (Numbered α)} (apart : Apart groups)
    (new : ∀ b ∈ groups.flatten, ∀ c ∈ group, b.round ≠ c.round) : Apart (groups ++ [group]) := by
  refine List.pairwise_append.2 ⟨apart, List.pairwise_singleton .., ?_⟩
  intro other mem _ mem' b hb c hc
  rw [List.mem_singleton.1 mem'] at hc
  exact new b (List.mem_flatten.2 ⟨other, mem, hb⟩) c hc

/-- The first item of a group leaves it for a place before all groups, and no round notices. -/
theorem Apart.inRound_set (apart : Apart groups) (h : groups[i]? = some (a :: rest))
    (round : Nat) :
    inRound round (a :: (groups.set i rest).flatten) = inRound round groups.flatten := by
  rw [Apart, split_at h, List.pairwise_append] at apart
  have others : ∀ b ∈ (groups.take i).flatten, b.round ≠ a.round := by
    intro b hb
    obtain ⟨group, mem, hb⟩ := List.mem_flatten.1 hb
    exact apart.2.2 group mem _ List.mem_cons_self b hb a List.mem_cons_self
  conv_rhs => rw [split_at h]
  rw [set_at rest h]
  by_cases here : a.round = round
  · -- then the groups before it have nothing of the round
    have none_ : inRound round (groups.take i).flatten = [] :=
      inRound_eq_nil round fun b hb => here ▸ others b hb
    simp only [inRound] at none_ ⊢
    simp [here, none_]
  · simp [inRound, here]

end Apart
/-! ## One group for an item -/

/-- Exactly one of the groups has the item. -/
def InOneGroup (groups : List (List α)) (a : α) : Prop :=
  ∃! k : Nat, ∃ group, groups[k]? = some group ∧ a ∈ group

theorem inOneGroup {groups : List (List α)} (nodup : groups.flatten.Nodup) {a : α}
    (h : a ∈ groups.flatten) : InOneGroup groups a := by
  obtain ⟨group, mem, ha⟩ := List.mem_flatten.1 h
  obtain ⟨k, hk⟩ := List.mem_iff_getElem?.1 mem
  obtain ⟨-, disjoint⟩ := List.nodup_flatten.1 nodup
  have apart {i j : Nat} {first second : List α} (lt : i < j) (hi : groups[i]? = some first)
      (hj : groups[j]? = some second) : first.Disjoint second := by
    obtain ⟨ltFirst, rfl⟩ := List.getElem?_eq_some_iff.1 hi
    obtain ⟨ltSecond, rfl⟩ := List.getElem?_eq_some_iff.1 hj
    exact List.pairwise_iff_getElem.1 disjoint i j ltFirst ltSecond lt
  refine ⟨k, ⟨group, hk, ha⟩, ?_⟩
  rintro j ⟨other, hj, ha'⟩
  rcases Nat.lt_trichotomy j k with lt | rfl | lt
  · exact absurd ha (apart lt hj hk ha')
  · rfl
  · exact absurd ha' (apart lt hk hj ha)

end Numbered
