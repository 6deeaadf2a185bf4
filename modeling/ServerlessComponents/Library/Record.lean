import Mathlib.Data.List.AList

/-!
# Records read from a keyed store, and overlays

The fields of a record are read from a store one by one, each under its own key. A field that
cannot be read fails the whole record, so isolation of the fields comes down to one question:
which values can be read at all.

## Main results

* `Schema.extract_ok_iff` — extraction succeeds when every present field can be read.
* `Schema.extract_erase` — dropping a key changes no field but those of that key.
* `overlay_eq_base_iff` — an overlay is invisible where it repeats its base.
-/
namespace Record

/-! ## Extraction -/

/-- The fields of a record: their keys and types, their values when absent, how each is read. -/
structure Schema (K V ε : Type) where
  Field : Type
  fields : List Field
  mem_fields : ∀ f, f ∈ fields
  Ty : Field → Type
  key : Field → K
  absent : ∀ f, Ty f
  decode : ∀ f, V → Except ε (Ty f)

namespace Schema

variable {K V ε : Type} [DecidableEq K] (S : Schema K V ε)

/-- What the store gives for one field. -/
def read (d : AList fun _ : K => V) (f : S.Field) : Except ε (S.Ty f) :=
  match d.lookup (S.key f) with
  | none => .ok (S.absent f)
  | some v => S.decode f v

/-- The error of one entry, if it is under the key of a field that cannot be read. -/
def failure (e : Sigma fun _ : K => V) : Option ε :=
  S.fields.findSome? fun f =>
    if S.key f = e.1 then
      match S.decode f e.2 with
      | .ok _ => none
      | .error err => some err
    else none

/-- Read every field; the first entry that cannot be read fails the record. -/
def extract (d : AList fun _ : K => V) : Except ε (∀ f, S.Ty f) :=
  match d.entries.findSome? S.failure with
  | some err => .error err
  | none => .ok fun f => (S.read d f).toOption.getD (S.absent f)

variable {S} {d : AList fun _ : K => V}

theorem failure_eq_none_iff {e : Sigma fun _ : K => V} :
    S.failure e = none ↔ ∀ f, S.key f = e.1 → ∃ x, S.decode f e.2 = .ok x := by
  simp only [failure, List.findSome?_eq_none_iff]
  constructor
  · intro h f hkey
    have none_at := h f (S.mem_fields f)
    rw [if_pos hkey] at none_at
    cases read : S.decode f e.2 with
    | ok x => exact ⟨x, rfl⟩
    | error err => simp [read] at none_at
  · intro h f _
    split
    · obtain ⟨x, hx⟩ := h f ‹_›
      rw [hx]
    · rfl

theorem findSome?_failure_eq_none_iff :
    d.entries.findSome? S.failure = none ↔
      ∀ f v, d.lookup (S.key f) = some v → ∃ x, S.decode f v = .ok x := by
  simp only [List.findSome?_eq_none_iff, failure_eq_none_iff]
  constructor
  · intro h f v hv
    exact h ⟨S.key f, v⟩ (AList.mem_lookup_iff.1 hv) f rfl
  · intro h e he f hkey
    exact h f e.2 (hkey ▸ AList.mem_lookup_iff.2 he)

/-- Extraction succeeds when every field the store has can be read. -/
theorem extract_ok_iff : (∃ r, S.extract d = .ok r) ↔
    ∀ f v, d.lookup (S.key f) = some v → ∃ x, S.decode f v = .ok x := by
  rw [← findSome?_failure_eq_none_iff]
  cases h : d.entries.findSome? S.failure <;> simp [extract, h]

/-- Each field of an extracted record is what the store gives for it. -/
theorem read_of_extract {r : ∀ f, S.Ty f} (h : S.extract d = .ok r) (f : S.Field) :
    S.read d f = .ok (r f) := by
  have readable := extract_ok_iff.1 ⟨r, h⟩ f
  unfold extract at h
  split at h
  · cases h
  · cases h
    cases hd : d.lookup (S.key f) with
    | none => simp [read, hd, Except.toOption]
    | some v =>
      obtain ⟨x, hx⟩ := readable v hd
      simp [read, hd, hx, Except.toOption]

/-- Dropping a key leaves the fields of the other keys as they are. -/
theorem extract_erase {r : ∀ f, S.Ty f} (h : S.extract d = .ok r) (k : K) :
    ∃ r', S.extract (d.erase k) = .ok r' ∧ ∀ f, S.key f ≠ k → r' f = r f := by
  have readable : ∀ f v, (d.erase k).lookup (S.key f) = some v → ∃ x, S.decode f v = .ok x := by
    intro f v hv
    by_cases hk : S.key f = k
    · subst hk
      rw [AList.lookup_erase] at hv
      cases hv
    · exact extract_ok_iff.1 ⟨r, h⟩ f v (by rwa [AList.lookup_erase_ne hk] at hv)
  obtain ⟨r', hr'⟩ := extract_ok_iff.2 readable
  refine ⟨r', hr', ?_⟩
  intro f hk
  have same : S.read (d.erase k) f = S.read d f := by simp only [read, AList.lookup_erase_ne hk]
  rw [read_of_extract hr', read_of_extract h] at same
  exact Except.ok.inj same

end Schema

/-! ## Overlays -/

variable {F : Type*} {T : F → Type*}

/-- The fields a source sets, over the values they have without it. -/
def overlay (s : ∀ f, Option (T f)) (base : ∀ f, T f) (f : F) : T f := (s f).getD (base f)

/-- An overlay is invisible at a field when it sets nothing there, or what was there already. -/
theorem overlay_eq_base_iff {s : ∀ f, Option (T f)} {base : ∀ f, T f} {f : F} :
    overlay s base f = base f ↔ ∀ x, s f = some x → x = base f := by
  cases h : s f <;> simp [overlay, h]

end Record
