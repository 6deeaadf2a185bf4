import ServerlessComponents.Library.Distinct
import ServerlessComponents.Dogstatsd.Aggregator
import ServerlessComponents.Dogstatsd.ContextMap

/-!
# Tag sections

What a section of tags lists, against the sorted tags that are built from it and the resources that
are read off these. Repetitions are dropped before the tags are sorted, where equal tags need not
stand next to each other.

## Main results

* `TagBuild.canonical_iff` — when two ways to build the same set of tags give the same tags.
* `SortedTags.resources_eq_iff` — when a point has one resource for each resource tag.
-/
namespace ServerlessComponents.Dogstatsd

namespace SortedTags

/-- The tags of a section, one for each part that is not empty. -/
def listed (tagsSection : String) : List (String × String) :=
  ((splitAtChar ',' tagsSection).filter fun s => !s.isEmpty).map parseTag

theorem parse_eq (tagsSection : String) :
    parse tagsSection =
      if MAX_TAGS < ((listed tagsSection).destutter (· ≠ ·)).length then
        .error (.raw s!"Too many tags, more than {MAX_TAGS}")
      else .ok ⟨((listed tagsSection).destutter (· ≠ ·)).insertionSort tagLe⟩ := rfl

theorem parse_eq_ok_iff {tagsSection : String} {tags : SortedTags} :
    parse tagsSection = .ok tags ↔
      ((listed tagsSection).destutter (· ≠ ·)).length ≤ MAX_TAGS ∧
        tags.values = ((listed tagsSection).destutter (· ≠ ·)).insertionSort tagLe := by
  rw [parse_eq]
  split
  · rename_i exceeds
    exact iff_of_false nofun fun ⟨within, _⟩ => exceeds.not_ge within
  · rename_i within
    obtain ⟨values⟩ := tags
    rw [Except.ok.injEq, SortedTags.mk.injEq, eq_comm, and_iff_right (Nat.not_lt.1 within)]

/-! ## The order of tags -/

instance : Std.Refl tagLe := ⟨fun _ => .inr ⟨rfl, String.le_refl _⟩⟩

instance : Std.Antisymm tagLe where
  antisymm a b forth back := by
    rcases forth with lt | ⟨key, value⟩
    · rcases back with lt' | ⟨key', _⟩
      · exact absurd lt' (String.lt_asymm lt)
      · exact absurd lt (key' ▸ String.lt_irrefl _)
    · rcases back with lt' | ⟨_, value'⟩
      · exact absurd lt' (key ▸ String.lt_irrefl _)
      · exact Prod.ext key (String.le_antisymm value value')

instance : IsTrans (String × String) tagLe where
  trans a b c first second := by
    rcases first with lt | ⟨key, value⟩
    · rcases second with lt' | ⟨key', _⟩
      · exact .inl (String.lt_trans lt lt')
      · exact .inl (key' ▸ lt)
    · rcases second with lt' | ⟨key', value'⟩
      · exact .inl (key ▸ lt')
      · exact .inr ⟨key.trans key', String.le_trans value value'⟩

instance : Std.Total tagLe where
  total a b := by
    by_cases before : a.1 < b.1
    · exact .inl (.inl before)
    by_cases behind : b.1 < a.1
    · exact .inr (.inl behind)
    have key : a.1 = b.1 := String.le_antisymm (String.not_lt.1 behind) (String.not_lt.1 before)
    exact (String.le_total a.2 b.2).imp (fun le => .inr ⟨key, le⟩) fun le => .inr ⟨key.symm, le⟩

/-- Strictly before, in the lexicographic order of pairs. -/
def tagLt (a b : String × String) : Prop := a.1 < b.1 ∨ a.1 = b.1 ∧ a.2 < b.2

theorem tagLt_iff {a b : String × String} : tagLt a b ↔ tagLe a b ∧ a ≠ b := by
  constructor
  · rintro (lt | ⟨key, lt⟩)
    · exact ⟨.inl lt, fun eq => absurd lt (eq ▸ String.lt_irrefl _)⟩
    · exact ⟨.inr ⟨key, String.not_lt.1 (String.lt_asymm lt)⟩,
        fun eq => absurd lt (eq ▸ String.lt_irrefl _)⟩
  · rintro ⟨lt | ⟨key, le⟩, ne⟩
    · exact .inl lt
    · refine .inr ⟨key, String.not_le.1 fun ge => ne (Prod.ext key (String.le_antisymm le ge))⟩

/-- Sorted tags increase strictly if no tag is repeated. -/
theorem pairwise_tagLt_iff {values : List (String × String)} (sorted : values.Pairwise tagLe) :
    values.Pairwise tagLt ↔ values.Nodup := by
  constructor
  · exact fun increasing => increasing.imp fun lt => (tagLt_iff.1 lt).2
  · exact fun nodup => (sorted.and nodup).imp tagLt_iff.2

end SortedTags

/-! ## Building tags -/

/-- A way to build tags: sections are parsed, and tags extended by others. -/
inductive TagBuild where
  | parse (tagsSection : String)
  | extend (tags other : TagBuild)

namespace TagBuild

open SortedTags (tagLe tagLt)

def eval : TagBuild → Except ParseError SortedTags
  | .parse tagsSection => SortedTags.parse tagsSection
  | .extend tags other => do return (← tags.eval).extend (← other.eval)

/-- All tags the sections of a build list. -/
def listed : TagBuild → List (String × String)
  | .parse tagsSection => SortedTags.listed tagsSection
  | .extend tags other => tags.listed ++ other.listed

/-- Some section has more than a hundred tags, where a tag and its repetitions directly after it
count once. -/
def Overlong : TagBuild → Prop
  | .parse tagsSection =>
    MAX_TAGS < ((SortedTags.listed tagsSection).destutter (· ≠ ·)).length
  | .extend tags other => tags.Overlong ∨ other.Overlong

/-- The last step of a build leaves no repetition: that of a section, if no other tag stands between
the repetitions of a tag; that of an extension, if what it joins shares at most the last tag of the
one and the first tag of the other. Earlier steps do not matter, since they have sorted what the
extension joins. -/
def Clean : TagBuild → Prop
  | .parse tagsSection =>
    ∀ tag other, [tag, other, tag].Sublist (SortedTags.listed tagsSection) → other = tag
  | .extend tags other =>
    ∀ tag ∈ tags.listed, tag ∈ other.listed →
      (∀ before ∈ tags.listed, tagLe before tag) ∧ ∀ after ∈ other.listed, tagLe tag after

variable {t u : TagBuild} {tags other : SortedTags} {tag : String × String}

theorem eval_extend_eq_ok_iff {result : SortedTags} :
    (extend t u).eval = .ok result ↔
      ∃ tags other, t.eval = .ok tags ∧ u.eval = .ok other ∧ result = tags.extend other := by
  constructor
  · intro ok
    obtain ⟨tags, ok_tags, rest⟩ := exists_of_bind_eq_ok ok
    obtain ⟨other, ok_other, last⟩ := exists_of_bind_eq_ok rest
    exact ⟨tags, other, ok_tags, ok_other, (Except.ok.inj last).symm⟩
  · rintro ⟨tags, other, ok_tags, ok_other, rfl⟩
    rw [eval, ok_tags, ok_other]
    rfl

theorem exists_eval_eq_ok_iff (t : TagBuild) : (∃ tags, t.eval = .ok tags) ↔ ¬t.Overlong := by
  induction t with
  | parse tagsSection =>
    simp only [eval, SortedTags.parse_eq_ok_iff, Overlong, Nat.not_lt]
    exact ⟨fun ⟨_, within, _⟩ => within, fun within => ⟨⟨_⟩, within, rfl⟩⟩
  | extend t u iht ihu =>
    rw [Overlong, not_or, ← iht, ← ihu]
    constructor
    · rintro ⟨result, ok⟩
      obtain ⟨tags, other, ok_tags, ok_other, _⟩ := eval_extend_eq_ok_iff.1 ok
      exact ⟨⟨tags, ok_tags⟩, ⟨other, ok_other⟩⟩
    · rintro ⟨⟨tags, ok_tags⟩, ⟨other, ok_other⟩⟩
      exact ⟨_, eval_extend_eq_ok_iff.2 ⟨tags, other, ok_tags, ok_other, rfl⟩⟩

theorem overlong_of_eval_eq_error {e : ParseError} (error : t.eval = .error e) : t.Overlong := by
  refine not_not.1 fun within => ?_
  obtain ⟨tags, ok⟩ := (exists_eval_eq_ok_iff t).2 within
  exact nomatch error.symm.trans ok

/-- No tag is lost or made up. -/
theorem mem_eval_iff (ok : t.eval = .ok tags) : tag ∈ tags.values ↔ tag ∈ t.listed := by
  induction t generalizing tags with
  | parse tagsSection =>
    rw [(SortedTags.parse_eq_ok_iff.1 ok).2, List.mem_insertionSort, Distinct.mem_destutter]
    rfl
  | extend t u iht ihu =>
    obtain ⟨tags, other, ok_tags, ok_other, rfl⟩ := eval_extend_eq_ok_iff.1 ok
    rw [SortedTags.extend, List.mem_insertionSort, Distinct.mem_destutter, List.mem_append,
      iht ok_tags, ihu ok_other, listed, List.mem_append]

theorem sorted_eval (ok : t.eval = .ok tags) : tags.values.Pairwise tagLe := by
  cases t with
  | parse tagsSection =>
    rw [(SortedTags.parse_eq_ok_iff.1 ok).2]
    exact List.pairwise_insertionSort ..
  | extend t u =>
    obtain ⟨_, _, _, _, rfl⟩ := eval_extend_eq_ok_iff.1 ok
    exact List.pairwise_insertionSort ..

theorem nodup_eval_iff (ok : t.eval = .ok tags) : tags.values.Nodup ↔ t.Clean := by
  cases t with
  | parse tagsSection =>
    rw [(SortedTags.parse_eq_ok_iff.1 ok).2, (List.perm_insertionSort ..).nodup_iff]
    exact Distinct.nodup_destutter_iff
  | extend t u =>
    obtain ⟨tags, other, ok_tags, ok_other, rfl⟩ := eval_extend_eq_ok_iff.1 ok
    rw [SortedTags.extend, (List.perm_insertionSort ..).nodup_iff,
      Distinct.nodup_destutter_append_iff (sorted_eval ok_tags) (sorted_eval ok_other)]
    simp only [mem_eval_iff ok_tags, mem_eval_iff ok_other, Clean]

/-! ### The same tags -/

section Canonical

variable [MetricHasher] {V K : Type}

/-- Metrics with these tags that agree otherwise have one ID and one context. -/
def SameContexts (V K : Type) (tags other : SortedTags) : Prop :=
  ∀ metric metric' : Metric V K, metric.tags = some tags → metric'.tags = some other →
    metric.name = metric'.name → metric.timestamp = metric'.timestamp →
    metric.id = metric'.id ∧ metric.context = metric'.context

theorem sameContexts_refl (tags : SortedTags) : SameContexts V K tags tags := by
  intro metric metric' has_tags has_tags' name timestamp
  have context : metric.context = metric'.context := by
    simp only [Metric.context, has_tags, has_tags', name, timestamp]
  exact ⟨Metric.id_eq_of_context_eq context, context⟩

/-- Both builds fail, or both give the same tags, each of them once and in increasing order. -/
def Canonical (V K : Type) (t u : TagBuild) : Prop :=
  match t.eval, u.eval with
  | .error _, .error _ => True
  | .ok tags, .ok other =>
    tags = other ∧ tags.values.Pairwise tagLt ∧ SameContexts V K tags other
  | _, _ => False

theorem canonical_iff_of_eval_eq_ok (same : ∀ tag, tag ∈ t.listed ↔ tag ∈ u.listed)
    (ok : t.eval = .ok tags) (ok' : u.eval = .ok other) :
    Canonical V K t u ↔ t.Clean ∧ u.Clean := by
  rw [Canonical, ok, ok']
  simp only
  rw [SortedTags.pairwise_tagLt_iff (sorted_eval ok), ← nodup_eval_iff ok, ← nodup_eval_iff ok']
  constructor
  · rintro ⟨rfl, nodup, _⟩
    exact ⟨nodup, nodup⟩
  · rintro ⟨nodup, nodup'⟩
    have perm : tags.values.Perm other.values :=
      (List.perm_ext_iff_of_nodup nodup nodup').2 fun tag => by
        rw [mem_eval_iff ok, mem_eval_iff ok', same]
    obtain ⟨values⟩ := tags
    obtain ⟨values'⟩ := other
    obtain rfl : values = values' := perm.eq_of_pairwise' (sorted_eval ok) (sorted_eval ok')
    exact ⟨rfl, nodup, sameContexts_refl _⟩

/-- Two builds of the same set of tags agree on canonical tags unless only one of them is overlong
or a repetition is left in one of them. -/
theorem canonical_iff (same : ∀ tag, tag ∈ t.listed ↔ tag ∈ u.listed) :
    Canonical V K t u ↔
      t.Overlong ∧ u.Overlong ∨ (¬t.Overlong ∧ ¬u.Overlong) ∧ t.Clean ∧ u.Clean := by
  cases result : t.eval with
  | error e =>
    have overlong := overlong_of_eval_eq_error result
    cases result' : u.eval with
    | error e' =>
      have overlong' := overlong_of_eval_eq_error result'
      simp [Canonical, result, result', overlong, overlong']
    | ok other =>
      have within' := (exists_eval_eq_ok_iff u).1 ⟨other, result'⟩
      simp [Canonical, result, result', overlong, within']
  | ok tags =>
    have within := (exists_eval_eq_ok_iff t).1 ⟨tags, result⟩
    cases result' : u.eval with
    | error e' =>
      have overlong' := overlong_of_eval_eq_error result'
      simp [Canonical, result, result', overlong', within]
    | ok other =>
      have within' := (exists_eval_eq_ok_iff u).1 ⟨other, result'⟩
      rw [canonical_iff_of_eval_eq_ok same result result']
      simp [within, within']

omit [MetricHasher] in
/-- Two tags in either order. -/
theorem canonical_two :
    letI := fnvHasher
    Canonical Int (List Int) (.parse "a:1,b:2") (.parse "b:2,a:1") := by
  let _ := fnvHasher
  have same : ∀ tag, tag ∈ (parse "a:1,b:2").listed ↔ tag ∈ (parse "b:2,a:1").listed := by
    intro tag
    have perm : (parse "a:1,b:2").listed.Perm (parse "b:2,a:1").listed := by decide +kernel
    exact perm.mem_iff
  refine (canonical_iff same).2 (.inr ⟨⟨?_, ?_⟩, ?_, ?_⟩)
  · exact (exists_eval_eq_ok_iff _).1 ⟨_, rfl⟩
  · exact (exists_eval_eq_ok_iff _).1 ⟨_, rfl⟩
  · exact Distinct.nodup_destutter_iff.1 (by decide +kernel)
  · exact Distinct.nodup_destutter_iff.1 (by decide +kernel)

omit [MetricHasher] in
/-- A tag repeated behind another one is kept twice, and one that two sections share may be. -/
theorem repeated_tags_not_canonical :
    letI := fnvHasher
    ((∀ tag, tag ∈ (parse "a:1,b:2,a:1").listed ↔ tag ∈ (parse "a:1,b:2").listed) ∧
      ¬Canonical Int (List Int) (.parse "a:1,b:2,a:1") (.parse "a:1,b:2")) ∧
    (∀ tag, tag ∈ (extend (parse "a:1,c:3") (parse "a:1,b:2")).listed ↔
      tag ∈ (parse "a:1,b:2,c:3").listed) ∧
    ¬Canonical Int (List Int) (extend (parse "a:1,c:3") (parse "a:1,b:2"))
      (.parse "a:1,b:2,c:3") := by
  let _ := fnvHasher
  refine ⟨⟨fun tag => ?_, fun canonical => ?_⟩, fun tag => ?_, fun canonical => ?_⟩
  · have dedup : (parse "a:1,b:2,a:1").listed.dedup.Perm (parse "a:1,b:2").listed := by
      decide +kernel
    rw [← dedup.mem_iff, List.mem_dedup]
  · exact absurd canonical.1 (by decide +kernel)
  · have dedup : (extend (parse "a:1,c:3") (parse "a:1,b:2")).listed.dedup.Perm
        (parse "a:1,b:2,c:3").listed := by decide +kernel
    rw [← dedup.mem_iff, List.mem_dedup]
  · exact absurd canonical.1 (by decide +kernel)

end Canonical

end TagBuild

/-! ## Resources -/

namespace SortedTags

/-- The kind and the name of a tag `dd.internal.resource:<kind>:<name>`. -/
def resourceParts (tag : String × String) : Option (String × String) :=
  if tag.1 = "dd.internal.resource" then splitOnce tag.2 else none

/-- The resources a section asks for, as JSON: one for each of its resource tags, in the order of
the tags. -/
def expectedResources (tagsSection : String) : List (List (String × String)) :=
  ((((listed tagsSection).dedup).insertionSort tagLe).filterMap resourceParts).map
    fun (kind, name) => [("name", name), ("type", kind)]

/-- The name is read where the kind stands, and the kind where the name stands. -/
theorem fields_toResources (tags : SortedTags) :
    tags.toResources.map Resource.fields =
      ((tags.values.filterMap resourceParts).map Prod.swap).map
        fun (kind, name) => [("name", name), ("type", kind)] := by
  rw [toResources, List.map_filterMap, List.map_filterMap, List.map_filterMap]
  refine List.filterMap_congr fun tag _ => ?_
  obtain ⟨key, val⟩ := tag
  unfold resourceParts
  by_cases resource : key = "dd.internal.resource"
  · simp only [resource, if_true, Option.map_map]
    rfl
  · simp [resource]

/-- The resource tags. -/
def isResource (tag : String × String) : Bool := (resourceParts tag).isSome

theorem length_filterMap_resourceParts (tags : List (String × String)) :
    (tags.filterMap resourceParts).length = (tags.filter isResource).length := by
  rw [List.length_filterMap_eq_countP, List.countP_eq_length_filter]
  rfl

theorem filterMap_filter_resourceParts (tags : List (String × String)) :
    (tags.filter isResource).filterMap resourceParts = tags.filterMap resourceParts := by
  rw [List.filterMap_filter]
  refine List.filterMap_congr fun tag _ => ?_
  unfold isResource
  cases resourceParts tag <;> rfl

/-- Each tag of a section once, in their order. -/
def distinct (tagsSection : String) : List (String × String) :=
  (listed tagsSection).dedup.insertionSort tagLe

@[simp]
theorem mem_distinct {tagsSection : String} {tag : String × String} :
    tag ∈ distinct tagsSection ↔ tag ∈ listed tagsSection := by
  simp [distinct]

theorem nodup_distinct (tagsSection : String) : (distinct tagsSection).Nodup :=
  (List.perm_insertionSort ..).nodup_iff.2 (List.nodup_dedup _)

section Parsed

variable {tagsSection : String} {tags : SortedTags} (parsed : parse tagsSection = .ok tags)
include parsed

theorem mem_values_iff (tag : String × String) :
    tag ∈ tags.values ↔ tag ∈ distinct tagsSection := by
  rw [(parse_eq_ok_iff.1 parsed).2, List.mem_insertionSort, Distinct.mem_destutter, mem_distinct]

/-- Resource tags are kept once if no other tag stands between the repetitions of one. -/
theorem nodup_resourceTags_iff :
    (tags.values.filter isResource).Nodup ↔
      ∀ tag other, isResource tag →
        [tag, other, tag].Sublist (listed tagsSection) → other = tag := by
  rw [(parse_eq_ok_iff.1 parsed).2, ((List.perm_insertionSort tagLe _).filter _).nodup_iff]
  exact Distinct.nodup_filter_destutter_iff

theorem filterMap_values_eq (nodup : (tags.values.filter isResource).Nodup) :
    tags.values.filterMap resourceParts = (distinct tagsSection).filterMap resourceParts := by
  have sorted : tags.values.Pairwise tagLe :=
    (parse_eq_ok_iff.1 parsed).2 ▸ List.pairwise_insertionSort ..
  have same : tags.values.filter isResource = (distinct tagsSection).filter isResource :=
    (Distinct.filter_eq_filter_iff sorted (List.pairwise_insertionSort ..)
      (nodup_distinct tagsSection) (mem_values_iff parsed)).2 nodup
  rw [← filterMap_filter_resourceParts, same, filterMap_filter_resourceParts]

theorem nodup_of_length_eq (length : (tags.values.filterMap resourceParts).length =
    ((distinct tagsSection).filterMap resourceParts).length) :
    (tags.values.filter isResource).Nodup := by
  rw [length_filterMap_resourceParts, length_filterMap_resourceParts] at length
  exact Distinct.nodup_filter_of_length_eq (nodup_distinct tagsSection) (mem_values_iff parsed)
    length

/-- The resources of a parsed section are the ones it asks for if each of them is named like its
kind and its repetitions stand next to each other. -/
theorem fields_toResources_eq_iff :
    tags.toResources.map Resource.fields = expectedResources tagsSection ↔
      ∀ tag ∈ listed tagsSection, ∀ kind name, resourceParts tag = some (kind, name) →
        kind = name ∧ ∀ other, [tag, other, tag].Sublist (listed tagsSection) → other = tag := by
  have fields_injective : Function.Injective
      fun (kind, name) => [(("name" : String), (name : String)), ("type", (kind : String))] := by
    rintro ⟨kind, name⟩ ⟨kind', name'⟩ eq
    simp at eq
    exact Prod.ext eq.2 eq.1
  rw [fields_toResources, expectedResources, ← distinct,
    (List.map_injective_iff.2 fields_injective).eq_iff]
  constructor
  · intro eq tag mem kind name parts
    have nodup := nodup_of_length_eq parsed (by rw [← eq, List.length_map])
    rw [filterMap_values_eq parsed nodup] at eq
    have swapped : ∀ parts ∈ (distinct tagsSection).filterMap resourceParts, parts.swap = parts :=
      List.map_eq_map_iff.1 (eq.trans (List.map_id _).symm)
    have named := swapped (kind, name) (List.mem_filterMap.2 ⟨tag, mem_distinct.2 mem, parts⟩)
    have resource : isResource tag = true := by rw [isResource, parts, Option.isSome_some]
    exact ⟨(Prod.mk.inj named).2, fun other =>
      (nodup_resourceTags_iff parsed).1 nodup tag other resource⟩
  · intro named
    have nodup := (nodup_resourceTags_iff parsed).2 fun tag other selected sublist => by
      obtain ⟨⟨kind, name⟩, parts⟩ := Option.isSome_iff_exists.1 selected
      exact (named tag (sublist.subset (by simp)) kind name parts).2 other sublist
    rw [filterMap_values_eq parsed nodup]
    refine (List.map_eq_map_iff.2 fun ⟨kind, name⟩ mem => ?_).trans (List.map_id _)
    obtain ⟨tag, mem_tag, parts⟩ := List.mem_filterMap.1 mem
    rw [(named tag (mem_distinct.1 mem_tag) kind name parts).1]
    rfl

end Parsed

section Point

variable [MetricHasher] {V K : Type}

theorem resources_of_buildMetric {base tags : SortedTags} {entry : Metric V K}
    {point : MetricToShip V} (tagged : entry.tags = some tags)
    (built : buildMetric base entry = some point) : point.resources = tags.toResources := by
  unfold buildMetric at built
  split at built <;> cases built
  rw [tagged]

/-- The point of an entry has exactly the resources its tag section asks for if every resource tag
has one text for kind and name and no other tag between its repetitions. -/
theorem resources_eq_iff {tagsSection : String} {base tags : SortedTags} {entry : Metric V K}
    {point : MetricToShip V} (parsed : parse tagsSection = .ok tags)
    (tagged : entry.tags = some tags) (built : buildMetric base entry = some point) :
    point.resources.map Resource.fields = expectedResources tagsSection ↔
      ∀ tag ∈ listed tagsSection, ∀ kind name, resourceParts tag = some (kind, name) →
        kind = name ∧ ∀ other, [tag, other, tag].Sublist (listed tagsSection) → other = tag := by
  rw [resources_of_buildMetric tagged built]
  exact fields_toResources_eq_iff parsed

/-- The resources in the point of a count with the tags of a section. -/
def shippedResources (tagsSection : String) : Option (List (List (String × String))) :=
  letI := fnvHasher
  (parse tagsSection).toOption.bind fun tags =>
    (buildMetric ⟨[]⟩
      (.ofContext ("requests", some tags, 0) (.count 1) : Metric Int (List Int))).map
        fun point => point.resources.map Resource.fields

omit [MetricHasher] in
theorem resources_eq_host :
    shippedResources "env:prod,dd.internal.resource:host:host" =
      some (expectedResources "env:prod,dd.internal.resource:host:host") := by
  let _ := fnvHasher
  obtain ⟨tags, parsed⟩ : ∃ tags, parse "env:prod,dd.internal.resource:host:host" = .ok tags :=
    ⟨_, rfl⟩
  let entry : Metric Int (List Int) := .ofContext ("requests", some tags, 0) (.count 1)
  obtain ⟨point, built⟩ : ∃ point, buildMetric ⟨[]⟩ entry = some point := ⟨_, rfl⟩
  have shipped : shippedResources "env:prod,dd.internal.resource:host:host" =
      some (point.resources.map Resource.fields) := by
    rw [shippedResources, parsed]
    exact congrArg
      (Option.map fun point : MetricToShip Int => point.resources.map Resource.fields) built
  rw [shipped]
  refine congrArg some ((resources_eq_iff parsed rfl built).2 fun tag mem kind name parts => ?_)
  have listed_eq : listed "env:prod,dd.internal.resource:host:host" =
      [("env", "prod"), ("dd.internal.resource", "host:host")] := by decide +kernel
  rw [listed_eq] at mem ⊢
  refine ⟨?_, fun other sublist => absurd sublist.length_le (by simp)⟩
  rcases List.mem_cons.1 mem with rfl | mem
  · cases parts
  · obtain rfl := List.mem_singleton.1 mem
    cases parts
    rfl

omit [MetricHasher] in
/-- Kind and name change places, and a tag repeated behind another one gives two resources. -/
theorem shippedResources_ne_expected :
    shippedResources "dd.internal.resource:host:web1" =
      some [[("name", "host"), ("type", "web1")]] ∧
    shippedResources "dd.internal.resource:host:web1" ≠
      some (expectedResources "dd.internal.resource:host:web1") ∧
    shippedResources "dd.internal.resource:a:a,b,dd.internal.resource:a:a" ≠
      some (expectedResources "dd.internal.resource:a:a,b,dd.internal.resource:a:a") := by
  decide +kernel

end Point

end SortedTags

end ServerlessComponents.Dogstatsd
