import Mathlib.Data.List.DropRight
import Mathlib.Data.List.Infix

/-!
# Frames ended by a delimiter

A stream of symbols splits into its part up to the last delimiter and a residue without
delimiters. Reading more of the stream only touches the residue.

## Main results

* `split_unique` — the split is determined by its two properties.
* `terminated_append`, `residue_append` — the split of a longer stream, from the residue.
* `Ends.lines_append` — the lines of a terminated part come first.
* `lineAt_part_iff` — whole lines of a part are whole lines of the stream.
* `isLongest_terminated` — the first part is the longest prefix that ends in the delimiter.
* `rposition_eq` — the split position as a search from the right finds it.
-/
namespace Framing

variable {α : Type*} [DecidableEq α] (d : α)

/-- The stream up to and including its last delimiter. -/
def terminated (stream : List α) : List α := stream.rdropWhile (· ≠ d)

/-- What follows the last delimiter. -/
def residue (stream : List α) : List α := stream.rtakeWhile (· ≠ d)

/-- Empty, or ending in the delimiter. -/
def Ends (l : List α) : Prop := ∀ h : l ≠ [], l.getLast h = d

variable {d}

@[simp] theorem residue_nil : residue d [] = [] := rfl

theorem terminated_concat (l : List α) (x : α) :
    terminated d (l ++ [x]) = if x = d then l ++ [x] else terminated d l := by
  simp only [terminated, List.rdropWhile_concat, decide_eq_true_eq, ite_not]

theorem residue_concat (l : List α) (x : α) :
    residue d (l ++ [x]) = if x = d then [] else residue d l ++ [x] := by
  simp only [residue, List.rtakeWhile_concat, decide_eq_true_eq, ite_not]

@[simp] theorem terminated_append_residue (stream : List α) :
    terminated d stream ++ residue d stream = stream :=
  List.rdropWhile_append_rtakeWhile

theorem take_terminated (stream : List α) :
    stream.take (terminated d stream).length = terminated d stream :=
  (List.prefix_iff_eq_take.1 (List.rdropWhile_prefix _ _)).symm

theorem drop_terminated (stream : List α) :
    stream.drop (terminated d stream).length = residue d stream := by
  have split := List.take_append_drop (terminated d stream).length stream
  rw [take_terminated] at split
  exact List.append_cancel_left (split.trans (terminated_append_residue stream).symm)

theorem length_terminated_add_residue (stream : List α) :
    (terminated d stream).length + (residue d stream).length = stream.length := by
  rw [← List.length_append, terminated_append_residue]

theorem not_mem_residue (stream : List α) : d ∉ residue d stream := by
  intro h
  have := List.mem_rtakeWhile_imp h
  simp at this

theorem ends_terminated (stream : List α) : Ends d (terminated d stream) := by
  intro h
  have := List.rdropWhile_last_not _ _ h
  simpa [terminated] using this

omit [DecidableEq α] in
theorem Ends.append {a b : List α} (ha : Ends d a) (hb : Ends d b) : Ends d (a ++ b) := by
  intro h
  by_cases hn : b = []
  · subst hn
    simpa using ha (by simpa using h)
  · rw [List.getLast_append_of_ne_nil _ hn]
    exact hb hn

/-- A list that ends in the delimiter followed by a list without it is split between them. -/
theorem split_unique {a r : List α} (ha : Ends d a) (hr : d ∉ r) :
    terminated d (a ++ r) = a ∧ residue d (a ++ r) = r := by
  induction r using List.reverseRecOn with
  | nil =>
    rw [List.append_nil]
    constructor
    · apply List.rdropWhile_eq_self_iff.2
      intro h
      simp [ha h]
    · apply List.rtakeWhile_eq_nil_iff.2
      intro h
      simp [ha h]
  | append_singleton r x ih =>
    simp only [List.mem_append, List.mem_singleton, not_or] at hr
    obtain ⟨hd, hres⟩ := ih hr.1
    have hx : x ≠ d := Ne.symm hr.2
    rw [← List.append_assoc, terminated_concat, residue_concat, if_neg hx, if_neg hx, hd, hres]
    exact ⟨rfl, rfl⟩

theorem split_append (stream more : List α) :
    terminated d (stream ++ more) =
        terminated d stream ++ terminated d (residue d stream ++ more) ∧
      residue d (stream ++ more) = residue d (residue d stream ++ more) := by
  have h := split_unique (d := d)
    ((ends_terminated stream).append (ends_terminated (residue d stream ++ more)))
    (not_mem_residue (residue d stream ++ more))
  have whole : terminated d stream ++ terminated d (residue d stream ++ more) ++
      residue d (residue d stream ++ more) = stream ++ more := by
    rw [List.append_assoc, terminated_append_residue, ← List.append_assoc,
      terminated_append_residue]
  rwa [whole] at h

theorem terminated_append (stream more : List α) :
    terminated d (stream ++ more) =
      terminated d stream ++ terminated d (residue d stream ++ more) :=
  (split_append stream more).1

theorem residue_append (stream more : List α) :
    residue d (stream ++ more) = residue d (residue d stream ++ more) :=
  (split_append stream more).2

theorem residue_append_of_not_mem {stream more : List α} (none : d ∉ more) :
    residue d (stream ++ more) = residue d stream ++ more := by
  have split := split_unique (ends_terminated (d := d) stream) (r := residue d stream ++ more)
    (by simp [not_mem_residue, none])
  rw [← List.append_assoc, terminated_append_residue] at split
  exact split.2

theorem residue_eq_self {l : List α} (none : d ∉ l) : residue d l = l := by
  have whole : residue d ([] ++ l) = residue d [] ++ l := residue_append_of_not_mem none
  rwa [List.nil_append, residue_nil, List.nil_append] at whole

theorem mem_terminated_iff {stream : List α} : d ∈ terminated d stream ↔ d ∈ stream := by
  have split := terminated_append_residue (d := d) stream
  have iff : d ∈ stream ↔ d ∈ terminated d stream ++ residue d stream := by rw [split]
  rw [iff, List.mem_append, or_iff_left (not_mem_residue stream)]

theorem terminated_eq_nil_iff {stream : List α} : terminated d stream = [] ↔ d ∉ stream := by
  rw [← mem_terminated_iff]
  constructor
  · intro empty
    simp [empty]
  · intro none
    by_contra ne
    have last := List.getLast_mem ne
    rw [ends_terminated stream ne] at last
    exact none last

/-- A delimiter makes what came before it irrelevant for the residue. -/
theorem residue_append_of_mem {stream more : List α} (mem : d ∈ more) :
    residue d (stream ++ more) = residue d more := by
  have ne : terminated d more ≠ [] := fun empty => terminated_eq_nil_iff.1 empty mem
  have ends : Ends d (stream ++ terminated d more) := by
    intro _
    rw [List.getLast_append_of_ne_nil _ ne]
    exact ends_terminated more ne
  have split := split_unique ends (not_mem_residue (d := d) more)
  rw [List.append_assoc, terminated_append_residue] at split
  exact split.2

variable (d)

/-- `line` is a whole line of the stream, with its delimiter, and starts at `position`. -/
def LineAt (stream : List α) (position : Nat) (line : List α) : Prop :=
  ∃ before content after, stream = before ++ (content ++ [d]) ++ after ∧ before.length = position ∧
    Ends d before ∧ d ∉ content ∧ line = content ++ [d]

variable {d}

omit [DecidableEq α] in
/-- The lines of a terminated part are lines of the stream exactly if the part starts a line. -/
theorem lineAt_part_iff {part : List α} (before after : List α) (ne : part ≠ [])
    (ends : Ends d part) :
    (∀ offset line, LineAt d part offset line →
      LineAt d (before ++ part ++ after) (before.length + offset) line) ↔ Ends d before := by
  constructor
  · intro lines
    have mem : d ∈ part := ends ne ▸ List.getLast_mem ne
    -- the first line of the part
    obtain ⟨content, rest, split, none⟩ := List.eq_append_cons_of_mem mem
    have first : LineAt d part 0 (content ++ [d]) :=
      ⟨[], content, rest, by simpa using split, rfl, fun h => absurd rfl h, none, rfl⟩
    obtain ⟨before', content', after', split', length, ends', _, _⟩ := lines 0 _ first
    have same : before = before' := by
      rw [List.append_assoc, List.append_assoc] at split'
      exact List.append_inj_left split' (by omega)
    exact same ▸ ends'
  · rintro starts offset line ⟨before', content, after', rfl, rfl, ends', none, rfl⟩
    exact ⟨before ++ before', content, after' ++ after, by simp, by simp, starts.append ends', none,
      rfl⟩

variable (d)

/-- `p` is the longest prefix of the stream that is empty or ends in the delimiter. -/
structure IsLongest (stream p : List α) : Prop where
  isPrefix : p <+: stream
  ends : Ends d p
  longest : ∀ q, q <+: stream → Ends d q → q.length ≤ p.length

variable {d}

theorem isLongest_terminated (stream : List α) : IsLongest d stream (terminated d stream) where
  isPrefix := List.rdropWhile_prefix _ _
  ends := ends_terminated stream
  longest q hq he := by
    obtain ⟨rest, rfl⟩ := hq
    have split := terminated_append (d := d) q rest
    rw [show terminated d q = q by simpa using (split_unique he (r := []) (by simp)).1] at split
    rw [split, List.length_append]
    omega

/-- `iter().rposition(p)`: the index of the last item that satisfies `p`. -/
def rposition (p : α → Bool) (l : List α) : Option Nat :=
  (l.reverse.findIdx? p).map (l.length - 1 - ·)

omit [DecidableEq α] in
theorem rposition_concat (p : α → Bool) (l : List α) (x : α) :
    rposition p (l ++ [x]) = if p x then some l.length else rposition p l := by
  simp only [rposition, List.reverse_append, List.reverse_cons, List.reverse_nil, List.nil_append,
    List.cons_append, List.findIdx?_cons, List.length_append, List.length_singleton]
  cases p x
  · simp only [Bool.false_eq_true, if_false, Option.map_map]
    congr 1
    funext i
    simp only [Function.comp_apply]
    omega
  · simp

/-- The length of the terminated part, as the position of the last delimiter gives it. -/
theorem rposition_eq (l : List α) :
    ((rposition (· = d) l).map (· + 1)).getD 0 = (terminated d l).length := by
  induction l using List.reverseRecOn with
  | nil => rfl
  | append_singleton l x ih =>
    rw [terminated_concat, rposition_concat]
    by_cases hx : x = d <;> simp [hx, ih]

/-! ## Lines -/

/-- The terminated lines of a stream, without their delimiters. -/
def lines (d : α) (stream : List α) : List (List α) := (stream.splitOn d).dropLast

theorem splitOn_concat (l : List α) : (l ++ [d]).splitOn d = l.splitOn d ++ [[]] := by
  rw [List.splitOn_append_cons_self, List.splitOn_nil]

theorem Ends.splitOn_eq {part : List α} (ends : Ends d part) :
    part.splitOn d = lines d part ++ [[]] := by
  rcases List.eq_nil_or_concat part with rfl | ⟨before, last, rfl⟩
  · rfl
  · obtain rfl : last = d := by simpa using ends (by simp)
    rw [lines, List.concat_eq_append, splitOn_concat, List.dropLast_concat]

theorem Ends.lines_append {part : List α} (ends : Ends d part) (more : List α) :
    lines d (part ++ more) = lines d part ++ lines d more := by
  rcases List.eq_nil_or_concat part with rfl | ⟨before, last, rfl⟩
  · rfl
  · obtain rfl : last = d := by simpa using ends (by simp)
    rw [lines, lines, lines, List.concat_eq_append, splitOn_concat, List.dropLast_concat,
      List.append_assoc, List.singleton_append, List.splitOn_append_cons_self,
      List.dropLast_append_of_ne_nil (List.splitOn_ne_nil last more)]

theorem lines_flatten {parts : List (List α)} (ends : ∀ part ∈ parts, Ends d part) :
    lines d parts.flatten = parts.flatMap (lines d) := by
  induction parts with
  | nil => rfl
  | cons part rest ih =>
    rw [List.flatten_cons, (ends part List.mem_cons_self).lines_append,
      ih fun other mem => ends other (List.mem_cons_of_mem _ mem), List.flatMap_cons]

theorem lines_eq_nil {l : List α} (none : d ∉ l) : lines d l = [] := by
  rw [lines, List.splitOn_eq_singleton none, List.dropLast_singleton]

/-- The residue has no lines. -/
theorem lines_terminated (stream : List α) : lines d (terminated d stream) = lines d stream := by
  have whole := (ends_terminated (d := d) stream).lines_append (residue d stream)
  rw [terminated_append_residue, lines_eq_nil (not_mem_residue stream), List.append_nil] at whole
  exact whole.symm

theorem lines_concat {line : List α} (none : d ∉ line) : lines d (line ++ [d]) = [line] := by
  rw [lines, splitOn_concat, List.dropLast_concat, List.splitOn_eq_singleton none]

theorem not_mem_of_mem_splitOn {piece stream : List α} (mem : piece ∈ stream.splitOn d) :
    d ∉ piece := by
  induction stream generalizing piece with
  | nil => simp_all
  | cons x rest ih =>
    rw [List.splitOn_cons_eq_if_modifyHead] at mem
    split at mem
    · rcases List.mem_cons.1 mem with rfl | later
      · exact List.not_mem_nil
      · exact ih later
    · rename_i other
      cases pieces : rest.splitOn d with
      | nil => simp [pieces] at mem
      | cons first others =>
        rw [pieces, List.modifyHead_cons] at mem
        rcases List.mem_cons.1 mem with rfl | later
        · have none : d ∉ first := ih (pieces ▸ List.mem_cons_self)
          have ne : x ≠ d := by simpa using other
          simp [none, ne.symm]
        · exact ih (pieces ▸ List.mem_cons_of_mem first later)

theorem not_mem_of_mem_lines {line stream : List α} (mem : line ∈ lines d stream) : d ∉ line :=
  not_mem_of_mem_splitOn (List.mem_of_mem_dropLast mem)

end Framing
