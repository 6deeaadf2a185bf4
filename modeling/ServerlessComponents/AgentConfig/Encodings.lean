import ServerlessComponents.AgentConfig.Env

/-!
# Two encodings of one setting

Processing rules and additional endpoints come as native lists and maps from a file, and as JSON
text from the environment. A native value is decoded element by element, and malformed elements are
skipped; of a text all is decoded or nothing.

## Main results

* `toOption_mapM`, `toOption_deserializeHashMap` — what is decoded at once, by its elements.
* `rules_agree_iff`, `endpoints_agree_iff` — when both encodings of a value give the same.
-/
namespace ServerlessComponents.AgentConfig

/-! ## All or nothing -/

section

variable {α : Type} {d : Value → Except Error α}

/-- The value can be read. -/
def Readable (d : Value → Except Error α) (v : Value) : Prop := ∃ x, d v = .ok x

theorem not_readable_of_error {v : Value} {e : Error} (failed : d v = .error e) :
    ¬ Readable d v := by
  rintro ⟨x, ok⟩
  rw [failed] at ok
  cases ok

theorem toOption_mapM_of_readable {vs : List Value} (readable : ∀ v ∈ vs, Readable d v) :
    (vs.mapM d).toOption = some (vs.filterMap fun v => (d v).toOption) := by
  induction vs with
  | nil => rfl
  | cons v rest ih =>
    obtain ⟨x, first⟩ := readable v List.mem_cons_self
    have others := ih fun w mem => readable w (List.mem_cons_of_mem _ mem)
    cases read : rest.mapM d with
    | error e =>
      rw [read] at others
      cases others
    | ok xs =>
      rw [read] at others
      have same : xs = rest.filterMap fun v => (d v).toOption := Option.some.inj others
      rw [List.mapM_cons, first, read, List.filterMap_cons_some (by rw [first]; rfl), ← same]
      rfl

theorem toOption_mapM_of_not_readable {vs : List Value} {v : Value} (mem : v ∈ vs)
    (malformed : ¬ Readable d v) : (vs.mapM d).toOption = none := by
  induction vs with
  | nil => cases mem
  | cons w rest ih =>
    rw [List.mapM_cons]
    cases first : d w with
    | error e => rfl
    | ok x =>
      rcases List.mem_cons.1 mem with rfl | later
      · exact absurd ⟨x, first⟩ malformed
      · have others := ih later
        cases read : rest.mapM d with
        | error e => rfl
        | ok xs =>
          rw [read] at others
          cases others

theorem filterMap_toOption_eq_nil_iff {vs : List Value} :
    (vs.filterMap fun v => (d v).toOption) = [] ↔ ∀ v ∈ vs, ¬ Readable d v := by
  rw [List.filterMap_eq_nil_iff]
  refine forall₂_congr fun v _ => ?_
  cases read : d v with
  | ok x => exact iff_of_false (by simp [Except.toOption]) (not_not.2 ⟨x, read⟩)
  | error e => exact iff_of_true rfl (not_readable_of_error read)

end

/-! ## Texts -/

/-- The text is one of the JSON value: every type is decoded from it as from the value. -/
structure JsonText [ExternalCrates] (s : String) (v : Value) : Prop where
  nonempty : s ≠ ""
  value : ExternalCrates.jsonFromStr s = some v
  rules : ExternalCrates.processingRulesFromStr s =
    (deserializeVec ProcessingRule.fromValue v).toOption
  endpoints : ExternalCrates.endpointsFromStr s =
    (deserializeHashMap (deserializeVec deserializeString) v).toOption

section

variable [ExternalCrates]

/-! ## Processing rules -/

def IsRule (v : Value) : Prop := Readable ProcessingRule.fromValue v

theorem rules_agree_iff {s : String} {a : List Value} (text : JsonText s (.array a)) :
    deserializeProcessingRules (.string s) = deserializeProcessingRules (.array a) ↔
      a ≠ [] ∧ ((∀ v ∈ a, IsRule v) ∨ ∀ v ∈ a, ¬ IsRule v) := by
  have from_text : ExternalCrates.processingRulesFromStr s =
      (a.mapM ProcessingRule.fromValue).toOption := text.rules
  rw [deserializeProcessingRules, deserializeProcessingRules, from_text, Except.ok.injEq]
  by_cases all : ∀ v ∈ a, IsRule v
  · rw [toOption_mapM_of_readable all, processingRulesOfArray]
    cases a with
    | nil => exact iff_of_false (by simp) (by simp)
    | cons v rest =>
      obtain ⟨x, first⟩ := all v List.mem_cons_self
      refine iff_of_true ?_ ⟨by simp, .inl all⟩
      rw [List.filterMap_cons_some (by rw [first]; rfl)]
      rfl
  · obtain ⟨v, mem, malformed⟩ : ∃ v ∈ a, ¬ IsRule v := by
      simpa using all
    rw [toOption_mapM_of_not_readable mem malformed]
    constructor
    · intro same
      have none_read : processingRulesOfArray a = [] := by
        by_contra some_read
        simp [some_read] at same
      exact ⟨List.ne_nil_of_mem mem, .inr (filterMap_toOption_eq_nil_iff.1 none_read)⟩
    · rintro ⟨-, every | no⟩
      · exact absurd every all
      · have none_read : processingRulesOfArray a = [] := filterMap_toOption_eq_nil_iff.2 no
        rw [none_read]
        rfl

/-! ## Additional endpoints -/

/-- A list of keys. -/
def IsKeys (v : Value) : Prop := Readable (deserializeVec deserializeString) v

/-- What the native decoder does with one entry. -/
def insertEndpoint (result : HashMap (List String)) (e : String × Value) : HashMap (List String) :=
  match e.2 with
  | .array arr => result.insert e.1 (arr.filterMap Value.asStr)
  | _ => result

omit [ExternalCrates] in
theorem endpointsOfMap_eq (es : List (String × Value)) :
    endpointsOfMap es = es.foldl insertEndpoint ∅ :=
  rfl

omit [ExternalCrates] in
/-- The keys of a list that is one are the strings in it. -/
theorem IsKeys.eq {v : Value} (keys : IsKeys v) :
    ∃ arr, v = .array arr ∧
      deserializeVec deserializeString v = .ok (arr.filterMap Value.asStr) := by
  obtain ⟨xs, read⟩ := keys
  cases v with
  | array arr =>
    refine ⟨arr, rfl, ?_⟩
    have strings : ∀ w ∈ arr, Readable deserializeString w := by
      intro w mem
      by_contra malformed
      have failed := toOption_mapM_of_not_readable mem malformed
      rw [deserializeVec] at read
      rw [read] at failed
      cases failed
    have decoded := toOption_mapM_of_readable strings
    have same : (fun w => (deserializeString w).toOption) = Value.asStr := by
      funext w
      cases w <;> rfl
    rw [deserializeVec] at read ⊢
    rw [read, same] at decoded
    rw [read]
    exact congrArg Except.ok (Option.some.inj decoded)
  | _ => cases read

omit [ExternalCrates] in
theorem foldlM_of_isKeys {es : List (String × Value)} (keys : ∀ e ∈ es, IsKeys e.2)
    (map : HashMap (List String)) :
    es.foldlM (fun map e => (deserializeVec deserializeString e.2).map fun x => map.insert e.1 x)
      map = (.ok (es.foldl insertEndpoint map) : Except Error _) := by
  induction es generalizing map with
  | nil => rfl
  | cons e rest ih =>
    obtain ⟨arr, shape, read⟩ := (keys e List.mem_cons_self).eq
    rw [List.foldlM_cons, read, List.foldl_cons, insertEndpoint, shape]
    exact ih (fun e mem => keys e (List.mem_cons_of_mem _ mem)) _

omit [ExternalCrates] in
theorem foldlM_of_not_isKeys {es : List (String × Value)} {e : String × Value} (mem : e ∈ es)
    (malformed : ¬ IsKeys e.2) (map : HashMap (List String)) :
    (es.foldlM (fun map e => (deserializeVec deserializeString e.2).map fun x =>
      map.insert e.1 x) map).toOption = none := by
  induction es generalizing map with
  | nil => cases mem
  | cons first rest ih =>
    rw [List.foldlM_cons]
    cases read : deserializeVec deserializeString first.2 with
    | error err => rfl
    | ok xs =>
      rcases List.mem_cons.1 mem with rfl | later
      · exact absurd ⟨xs, read⟩ malformed
      · exact ih later _

omit [ExternalCrates] in
/-- Something is inserted as soon as one value is a list. -/
theorem foldl_insertEndpoint_eq_empty_iff {es : List (String × Value)}
    {map : HashMap (List String)} :
    es.foldl insertEndpoint map = ∅ ↔ map = ∅ ∧ ∀ e ∈ es, ∀ arr, e.2 ≠ .array arr := by
  induction es generalizing map with
  | nil => simp
  | cons e rest ih =>
    rw [List.foldl_cons, ih, List.forall_mem_cons, insertEndpoint]
    split
    · rename_i arr shape
      refine iff_of_false (fun both => ?_) fun both => both.2.1 arr shape
      have mem : e.1 ∈ (∅ : HashMap (List String)) := both.1 ▸ AList.mem_insert _ |>.2 (.inl rfl)
      exact AList.notMem_empty _ mem
    · rename_i other
      exact ⟨fun both => ⟨both.1, other, both.2⟩, fun both => ⟨both.1, both.2.2⟩⟩

theorem endpoints_agree_iff {s : String} {es : List (String × Value)}
    (text : JsonText s (.dict es)) :
    deserializeAdditionalEndpoints (.string s) = deserializeAdditionalEndpoints (.dict es) ↔
      (∀ e ∈ es, IsKeys e.2) ∨ ∀ e ∈ es, ∀ arr, e.2 ≠ .array arr := by
  have nonempty : s.isEmpty = false := by simpa using text.nonempty
  rw [deserializeAdditionalEndpoints, deserializeAdditionalEndpoints, nonempty, text.endpoints,
    deserializeHashMap, Except.ok.injEq, endpointsOfMap_eq]
  by_cases all : ∀ e ∈ es, IsKeys e.2
  · rw [foldlM_of_isKeys all]
    exact iff_of_true rfl (.inl all)
  · obtain ⟨e, mem, malformed⟩ : ∃ e ∈ es, ¬ IsKeys e.2 := by simpa using all
    rw [foldlM_of_not_isKeys mem malformed]
    constructor
    · intro same
      exact .inr (foldl_insertEndpoint_eq_empty_iff.1 same.symm).2
    · rintro (every | lists)
      · exact absurd every all
      · exact (foldl_insertEndpoint_eq_empty_iff.2 ⟨rfl, lists⟩).symm

/-! ## Both settings -/

theorem encodings_agree_iff :
    (∀ (s : String) (a : List Value), JsonText s (.array a) →
      (deserializeProcessingRules (.string s) = deserializeProcessingRules (.array a) ↔
        a ≠ [] ∧ ((∀ v ∈ a, IsRule v) ∨ ∀ v ∈ a, ¬ IsRule v))) ∧
    ∀ (s : String) (es : List (String × Value)), JsonText s (.dict es) →
      (deserializeAdditionalEndpoints (.string s) = deserializeAdditionalEndpoints (.dict es) ↔
        (∀ e ∈ es, IsKeys e.2) ∨ ∀ e ∈ es, ∀ arr, e.2 ≠ .array arr) :=
  ⟨fun _ _ text => rules_agree_iff text, fun _ _ text => endpoints_agree_iff text⟩

end

/-- External crates that read one text. -/
@[reducible]
def textCrates (s : String) (v : Value) : ExternalCrates :=
  { plainCrates with
    jsonFromStr := fun text => if text = s then some v else none
    processingRulesFromStr := fun text =>
      if text = s then (deserializeVec ProcessingRule.fromValue v).toOption else none
    endpointsFromStr := fun text =>
      if text = s then (deserializeHashMap (deserializeVec deserializeString) v).toOption
      else none }

theorem jsonText_textCrates {s : String} {v : Value} (nonempty : s ≠ "") :
    @JsonText (textCrates s v) s v :=
  @JsonText.mk (textCrates s v) s v nonempty (if_pos rfl) (if_pos rfl) (if_pos rfl)

/-- A rule next to a number. -/
def ruleAndNumber : List Value :=
  [.dict [("type", .string "exclude_at_match"), ("name", .string "n"), ("pattern", .string "p")],
    .num (.u64 5)]

def ruleAndNumberText : String :=
  "[\x7b\"type\":\"exclude_at_match\",\"name\":\"n\",\"pattern\":\"p\"\x7d,5]"

/-- As a list it has one rule, as a text none. -/
theorem encodings_disagree :
    ¬ ∀ (crates : ExternalCrates) (s : String) (a : List Value), @JsonText crates s (.array a) →
      @deserializeProcessingRules crates (.string s) =
        @deserializeProcessingRules crates (.array a) := by
  intro agree
  have same := congrArg Except.toOption <|
    agree (textCrates ruleAndNumberText (.array ruleAndNumber)) ruleAndNumberText ruleAndNumber
      (jsonText_textCrates (by decide))
  revert same
  decide +kernel

theorem encodings_agree_iff_ruleAndNumber :
    @deserializeProcessingRules (textCrates ruleAndNumberText (.array ruleAndNumber))
        (.string ruleAndNumberText) =
      @deserializeProcessingRules (textCrates ruleAndNumberText (.array ruleAndNumber))
        (.array ruleAndNumber) ↔
    ruleAndNumber ≠ [] ∧ ((∀ v ∈ ruleAndNumber, IsRule v) ∨ ∀ v ∈ ruleAndNumber, ¬ IsRule v) :=
  (@encodings_agree_iff (textCrates ruleAndNumberText (.array ruleAndNumber))).1
    ruleAndNumberText ruleAndNumber (jsonText_textCrates (by decide))

end ServerlessComponents.AgentConfig
