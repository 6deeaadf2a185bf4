import ServerlessComponents.Dogstatsd.ContextMap

/-!
# The fields of a message

A message as the pieces between its pipes: the name with its values, the type and the optional
fields. The optional fields are read one by one; each of them fails or sets something by itself, so
that the last one of a kind decides.

## Main results

* `parse_toOption_eq_of_perm` — the order of the optional fields does not matter.
-/
namespace ServerlessComponents.Dogstatsd

/-! ## The pieces of a message -/

/-- The type of a message, empty when there is none. -/
def messageType (input : String) : String :=
  match (nextField input).2 with
  | some remaining => (nextField remaining).1
  | none => ""

/-- The optional fields of a message. -/
def messageFields (input : String) : List String :=
  match (nextField input).2 with
  | some remaining => optionalFields (nextField remaining).2
  | none => []

/-- The first piece of a list is what stands before the first separator. -/
theorem splitOn_of_mem {α : Type} [DecidableEq α] {a : α} {l : List α} (mem : a ∈ l) :
    l.splitOn a = l.takeWhile (· ≠ a) :: ((l.dropWhile (· ≠ a)).drop 1).splitOn a := by
  induction l with
  | nil => cases mem
  | cons b rest ih =>
    rw [List.splitOn_cons_eq_if_modifyHead]
    by_cases sep : b = a
    · simp [sep]
    · have later : a ∈ rest := (List.mem_cons.1 mem).resolve_left fun eq => sep eq.symm
      simp [sep, ih later]

/-- What `next_field` takes off is the first piece, and the others are left. -/
theorem splitAtChar_nextField (input : String) :
    splitAtChar '|' input = (nextField input).1 :: optionalFields (nextField input).2 := by
  unfold nextField
  split
  · rename_i pipe
    simp [splitAtChar, splitOn_of_mem pipe, optionalFields]
  · rename_i none
    simp [splitAtChar, List.splitOn_eq_singleton none, optionalFields]

/-- The pieces of a message are its name with the values, its type and its optional fields. -/
theorem pieces_eq_cons_iff {input name type : String} {fields : List String} :
    splitAtChar '|' input = name :: type :: fields ↔
      (nextField input).1 = name ∧ ∃ remaining, (nextField input).2 = some remaining ∧
        (nextField remaining).1 = type ∧ optionalFields (nextField remaining).2 = fields := by
  rw [splitAtChar_nextField, List.cons.injEq]
  refine and_congr_right fun _ => ?_
  cases rest : (nextField input).2 with
  | none => simp [optionalFields]
  | some remaining =>
    rw [optionalFields, splitAtChar_nextField, List.cons.injEq]
    simp

theorem messageType_of_pieces {input name type : String} {fields : List String}
    (pieces : splitAtChar '|' input = name :: type :: fields) :
    messageType input = type ∧ messageFields input = fields := by
  obtain ⟨-, remaining, rest, first, others⟩ := pieces_eq_cons_iff.1 pieces
  rw [messageType, messageFields, rest]
  exact ⟨first, others⟩

/-! ## What a field sets -/

theorem stripPrefix_timestamp_of_tags {field tags : String}
    (stripped : stripPrefix "#" field = some tags) : stripPrefix "T" field = none := by
  unfold stripPrefix at stripped ⊢
  split at stripped
  · rename_i first
    obtain ⟨rest, eq⟩ := first
    rw [← eq]
    exact if_neg (by simp)
  · cases stripped

theorem getLast?_filterMap_cons_or {α β : Type} (f : α → Option β) (a : α) (l : List α)
    (b : Option β) :
    ((a :: l).filterMap f).getLast?.or b = (l.filterMap f).getLast?.or ((f a).or b) := by
  cases image : f a with
  | none => simp [image]
  | some c =>
    simp only [List.filterMap_cons, image, List.getLast?_cons]
    cases (l.filterMap f).getLast? <;> rfl

theorem toOption_eq_of_forall {ε α : Type} {x y : Except ε α} (h : ∀ a, x = .ok a ↔ y = .ok a) :
    x.toOption = y.toOption := by
  cases x with
  | ok a => rw [(h a).1 rfl]
  | error e =>
    cases y with
    | ok b => cases (h b).2 rfl
    | error e' => rfl

/-- What at most one entry sets does not depend on the order of the entries. -/
theorem getLast?_filterMap_eq_of_perm {α β : Type} {f : α → Option β} {keep p : α → Bool}
    {l l' : List α} (dropped : ∀ a, keep a = false → f a = none)
    (same : (l.filter keep).Perm (l'.filter keep)) (once : l.countP p ≤ 1)
    (sets : ∀ a, p a = false → f a = none) :
    (l.filterMap f).getLast? = (l'.filterMap f).getLast? := by
  have kept (list : List α) : (list.filter keep).filterMap f = list.filterMap f := by
    refine List.filterMap_filter.trans (List.filterMap_congr fun a _ => ?_)
    cases keeps : keep a with
    | false => simp [dropped a keeps]
    | true => rfl
  have images : (l.filterMap f).Perm (l'.filterMap f) := by
    rw [← kept l, ← kept l']
    exact same.filterMap f
  have few : (l.filterMap f).length ≤ 1 := by
    rw [List.length_filterMap_eq_countP]
    refine (List.countP_mono_left fun a _ set => ?_).trans once
    by_contra off
    rw [sets a (by simpa using off)] at set
    cases set
  cases list : l.filterMap f with
  | nil =>
    rw [list] at images
    rw [images.nil_eq]
  | cons b rest =>
    rw [list] at images few
    obtain rfl : rest = [] := by simpa using few
    rw [List.singleton_perm.1 images]

section Fields

variable (V : Type) [DoubleText V]

/-- The tags a field sets. -/
def fieldTags (field : String) : Option SortedTags :=
  (stripPrefix "#" field).bind fun tags => (SortedTags.parse tags).toOption

/-- The timestamp a field sets, in whole seconds. -/
def fieldTimestamp (field : String) : Option Int :=
  (stripPrefix "T" field).bind fun sec =>
    (DoubleText.parse sec : Except String V).toOption.map DoubleText.roundToI64

/-- The field is read without an error. -/
def FieldAccepted (field : String) : Prop := ∃ fields, parseField V ⟨none, none⟩ field = .ok fields

/-- A field is accepted by itself, and sets its tags and its timestamp over those before it. -/
theorem parseField_eq_ok_iff {fields fields' : OptionalFields} {field : String} :
    parseField V fields field = .ok fields' ↔ FieldAccepted V field ∧
      ⟨(fieldTags field).or fields.tags, (fieldTimestamp V field).or fields.timestamp⟩ =
        fields' := by
  unfold FieldAccepted parseField fieldTags fieldTimestamp
  by_cases empty : field.isEmpty
  · obtain rfl : field = "" := by simpa using empty
    have no_tags : stripPrefix "#" "" = none := if_neg (by simp)
    have no_timestamp : stripPrefix "T" "" = none := if_neg (by simp)
    rw [no_tags, no_timestamp]
    simp
  · rw [if_neg empty, if_neg empty]
    cases tags : stripPrefix "#" field with
    | some tagsSection =>
      rw [stripPrefix_timestamp_of_tags tags]
      cases parsed : SortedTags.parse tagsSection <;> simp [parsed, Except.map, Except.toOption]
    | none =>
      cases sec : stripPrefix "T" field with
      | some text =>
        by_cases blank : text.isEmpty
        · simp [blank]
        · cases parsed : (DoubleText.parse text : Except String V) <;>
            simp [blank, parsed, Except.toOption]
      | none =>
        cases rate : stripPrefix "@" field with
        | some text => cases parsed : (DoubleText.parse text : Except String V) <;> simp [parsed]
        | none => simp

/-- The tags of the last field that sets some. -/
def setTags (fields : List String) : Option SortedTags := (fields.filterMap fieldTags).getLast?

/-- The timestamp of the last field that sets one. -/
def setTimestamp (fields : List String) : Option Int :=
  (fields.filterMap (fieldTimestamp V)).getLast?

/-- The last field of a kind decides, and one that is not accepted fails the message. -/
theorem foldlM_parseField_eq_ok_iff {fields fields' : OptionalFields} {list : List String} :
    list.foldlM (parseField V) fields = .ok fields' ↔ (∀ field ∈ list, FieldAccepted V field) ∧
      ⟨(list.filterMap fieldTags).getLast?.or fields.tags,
        (list.filterMap (fieldTimestamp V)).getLast?.or fields.timestamp⟩ = fields' := by
  induction list generalizing fields with
  | nil => simp [pure, Except.pure]
  | cons field rest ih =>
    rw [List.foldlM_cons, List.forall_mem_cons, getLast?_filterMap_cons_or,
      getLast?_filterMap_cons_or]
    constructor
    · intro read
      obtain ⟨mid, first, later⟩ := exists_of_bind_eq_ok read
      obtain ⟨accepted, rfl⟩ := (parseField_eq_ok_iff V).1 first
      obtain ⟨others, rfl⟩ := ih.1 later
      exact ⟨⟨accepted, others⟩, rfl⟩
    · rintro ⟨⟨accepted, others⟩, rfl⟩
      rw [(parseField_eq_ok_iff V).2 ⟨accepted, rfl⟩]
      exact ih.2 ⟨others, rfl⟩

variable {V} {K : Type} [MetricHasher] [DDSketch V K]

/-- A message is accepted when each of its pieces is. -/
theorem parse_eq_ok_iff {now clock : Int} {input : String} {metric : RawMetric V K} :
    parse now clock input = .ok metric ↔
      ∃ nameAndValue type fields, splitAtChar '|' input = nameAndValue :: type :: fields ∧
      ∃ name values, SortedTags.splitOnce nameAndValue = some (name, values) ∧
        name.isEmpty = false ∧ values.isEmpty = false ∧ type.isEmpty = false ∧
      ∃ val value, firstValue values = .ok (val : V) ∧ valueOfType type val = .ok value ∧
        (∀ field ∈ fields, FieldAccepted V field) ∧
        metric = .new now clock name value (setTags fields) (setTimestamp V fields) := by
  constructor
  · intro parsed
    unfold parse at parsed
    simp only at parsed
    split at parsed
    · cases parsed
    · rename_i name values split
      split at parsed
      · cases parsed
      · rename_i named
        split at parsed
        · cases parsed
        · rename_i remaining rest
          split at parsed
          · cases parsed
          · rename_i typed
            obtain ⟨val, first, parsed⟩ := exists_of_bind_eq_ok parsed
            obtain ⟨value, of_type, parsed⟩ := exists_of_bind_eq_ok parsed
            obtain ⟨read, loop, parsed⟩ := exists_of_bind_eq_ok parsed
            obtain ⟨accepted, rfl⟩ := (foldlM_parseField_eq_ok_iff V).1 loop
            cases parsed
            simp only [Bool.or_eq_true, not_or, Bool.not_eq_true] at named
            refine ⟨_, _, _, pieces_eq_cons_iff.2 ⟨rfl, remaining, rest, rfl, rfl⟩, name, values,
              split, named.1, named.2, by simpa using typed, val, value, first, of_type, accepted,
              ?_⟩
            simp [RawMetric.new, setTags, setTimestamp]
  · rintro ⟨nameAndValue, type, fields, pieces, name, values, split, named, valued, typed, val,
      value, first, of_type, accepted, rfl⟩
    obtain ⟨rfl, remaining, rest, rfl, rfl⟩ := pieces_eq_cons_iff.1 pieces
    have loop : (optionalFields (nextField remaining).2).foldlM (parseField V) ⟨none, none⟩ =
        .ok ⟨setTags (optionalFields (nextField remaining).2),
          setTimestamp V (optionalFields (nextField remaining).2)⟩ :=
      (foldlM_parseField_eq_ok_iff V).2 ⟨accepted, by simp [setTags, setTimestamp]⟩
    unfold parse
    simp only [split, rest, named, valued, typed, first, loop, Bool.or_self, if_false,
      Bool.false_eq_true]
    change (valueOfType (nextField remaining).1 val >>= fun _ => _) = _
    rw [of_type]
    rfl

/-! ## The order of the optional fields -/

/-- A field of tags. -/
def isTagsField (field : String) : Bool := (stripPrefix "#" field).isSome

/-- A timestamp field. -/
def isTimestampField (field : String) : Bool := (stripPrefix "T" field).isSome

omit [DoubleText V] [MetricHasher] in
theorem fieldTags_of_other {field : String} (other : isTagsField field = false) :
    fieldTags field = none := by
  have unprefixed : stripPrefix "#" field = none := by simpa [isTagsField] using other
  rw [fieldTags, unprefixed, Option.bind_none]

omit [MetricHasher] in
theorem fieldTimestamp_of_other {field : String} (other : isTimestampField field = false) :
    fieldTimestamp V field = none := by
  have unprefixed : stripPrefix "T" field = none := by simpa [isTimestampField] using other
  rw [fieldTimestamp, unprefixed, Option.bind_none]

omit [DoubleText V] [MetricHasher] in
theorem other_of_isEmpty {field : String} (blank : (!field.isEmpty) = false) :
    isTagsField field = false ∧ isTimestampField field = false := by
  obtain rfl : field = "" := by simpa using blank
  decide

omit [MetricHasher] in
theorem accepted_iff_of_perm {fields fields' : List String}
    (same : (fields.filter fun field => !field.isEmpty).Perm
      (fields'.filter fun field => !field.isEmpty)) :
    (∀ field ∈ fields, FieldAccepted V field) ↔ ∀ field ∈ fields', FieldAccepted V field := by
  have blank {field : String} (empty : field.isEmpty = true) : FieldAccepted V field :=
    ⟨⟨none, none⟩, if_pos empty⟩
  have filtered (list : List String) : (∀ field ∈ list, FieldAccepted V field) ↔
      ∀ field ∈ list.filter fun field => !field.isEmpty, FieldAccepted V field := by
    refine ⟨fun all field mem => all field (List.mem_filter.1 mem).1, fun all field mem => ?_⟩
    by_cases empty : field.isEmpty = true
    · exact blank empty
    · exact all field (List.mem_filter.2 ⟨mem, by simpa using empty⟩)
  rw [filtered fields, filtered fields']
  exact forall_congr' fun field => imp_congr_left same.mem_iff

/-- A message with the same fields in another order, or with empty fields between them, gives the
same metric, or an error as well. -/
theorem parse_toOption_eq_of_perm {input input' nameAndValue type : String}
    {fields fields' : List String}
    (pieces : splitAtChar '|' input = nameAndValue :: type :: fields)
    (pieces' : splitAtChar '|' input' = nameAndValue :: type :: fields')
    (same : (fields.filter fun field => !field.isEmpty).Perm
      (fields'.filter fun field => !field.isEmpty))
    (tags_once : fields.countP isTagsField ≤ 1)
    (timestamp_once : fields.countP isTimestampField ≤ 1) (now clock : Int) :
    (parse now clock input : Except ParseError (RawMetric V K)).toOption =
      (parse now clock input').toOption := by
  have tags : setTags fields = setTags fields' :=
    getLast?_filterMap_eq_of_perm (fun _ blank => fieldTags_of_other (other_of_isEmpty blank).1)
      same tags_once fun _ => fieldTags_of_other
  have timestamp : setTimestamp V fields = setTimestamp V fields' :=
    getLast?_filterMap_eq_of_perm
      (fun _ blank => fieldTimestamp_of_other (other_of_isEmpty blank).2) same timestamp_once
      fun _ => fieldTimestamp_of_other
  refine toOption_eq_of_forall fun metric => ?_
  rw [parse_eq_ok_iff, parse_eq_ok_iff, pieces, pieces']
  constructor
  · rintro ⟨_, _, _, split, name, values, named, nonempty, valued, typed, val, value, first,
      of_type, accepted, rfl⟩
    cases split
    rw [tags, timestamp]
    exact ⟨_, _, _, rfl, name, values, named, nonempty, valued, typed, val, value, first, of_type,
      (accepted_iff_of_perm same).1 accepted, rfl⟩
  · rintro ⟨_, _, _, split, name, values, named, nonempty, valued, typed, val, value, first,
      of_type, accepted, rfl⟩
    cases split
    rw [← tags, ← timestamp]
    exact ⟨_, _, _, rfl, name, values, named, nonempty, valued, typed, val, value, first, of_type,
      (accepted_iff_of_perm same).2 accepted, rfl⟩

omit [DoubleText V] [MetricHasher] in
/-- All four known fields, turned round and with empty ones between them. -/
theorem parse_toOption_eq_four :
    letI := fnvHasher
    letI := listSketch
    letI := intText
    (parse 100 100 "requests:2|c|@1|#env:prod,team|T90|c:f00d" :
        Except ParseError (RawMetric Int (List Int))).toOption =
      (parse 100 100 "requests:2|c||c:f00d|T90|||#env:prod,team|@1|").toOption := by
  let _ := fnvHasher
  let _ := listSketch
  let _ := intText
  have pieces : splitAtChar '|' "requests:2|c|@1|#env:prod,team|T90|c:f00d" =
      "requests:2" :: "c" :: ["@1", "#env:prod,team", "T90", "c:f00d"] := by decide
  have pieces' : splitAtChar '|' "requests:2|c||c:f00d|T90|||#env:prod,team|@1|" =
      "requests:2" :: "c" :: ["", "c:f00d", "T90", "", "", "#env:prod,team", "@1", ""] := by decide
  exact parse_toOption_eq_of_perm pieces pieces' (by decide) (by decide) (by decide) 100 100

end Fields

/-- A number written in decimal digits. -/
def readDigits (digits : List Char) : Option Nat :=
  if digits.isEmpty then none
  else digits.foldlM (fun n c => if c.isDigit then some (10 * n + (c.toNat - 48)) else none) 0

/-- Whole numbers as text, read digit by digit. -/
@[reducible]
def decimalText : DoubleText Int where
  parse s :=
    let number : Option Int := match s.toList with
      | '-' :: digits => (readDigits digits).map fun n => -n
      | digits => (readDigits digits).map fun n => n
    match number with
    | some n => .ok n
    | none => .error "invalid float literal"
  roundToI64 n := n

end ServerlessComponents.Dogstatsd
