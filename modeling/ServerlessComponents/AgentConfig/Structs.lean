import ServerlessComponents.AgentConfig.Settings

/-!
# Fields of a struct

What reading one field of a struct gives, for each deserializer the file uses. Reading a field
never fails, and what it gives is stated as what the value of the field sets.
-/
namespace ServerlessComponents.AgentConfig

/-- `deserialize_with_default` at an `Option`. -/
def deserializeOptionWithDefault {α : Type} (d : Value → Except Error α) :
    Value → Except Error (Option α) :=
  deserializeWithDefault none (deserializeOption d)

/-! ## Fields of a struct -/

section

variable {ε α β : Type}

@[simp]
theorem ok_bind (a : α) (f : α → Except ε β) : (Except.ok a >>= f) = f a := rfl

@[simp]
theorem toOption_ok (a : α) : (Except.ok a : Except ε α).toOption = some a := rfl

@[simp]
theorem accepted_deserializeString : accepted deserializeString = Setting.string := rfl

@[simp]
theorem accepted_logLevel : accepted LogLevel.deserialize = Setting.levelOrWarn := by
  funext v
  cases v <;> rfl

end

/-- The value of a field, if there is a struct that has it. -/
def memberOf (o : Option Value) (i : Nat) (name : String) : Option Value := o.bind (·.member i name)

@[simp]
theorem memberOf_some (v : Value) (i : Nat) (name : String) :
    memberOf (some v) i name = v.member i name := rfl

/-- What a field holds that is its default unless its value is accepted. -/
def readOr {α : Type} (default : α) (d : Value → Except Error α) (o : Option Value) : α :=
  (o.bind (accepted d)).getD default

section

variable {α : Type} (v : Value) (i : Nat) (name : String)

theorem defaultField_of_eq {d : Value → Except Error (Option α)} {s : Value → Option α}
    (hd : ∀ x, d x = .ok (s x)) :
    defaultField v i name none d = .ok ((v.member i name).bind s) := by
  unfold defaultField
  cases v.member i name <;> simp [hd, Except.mapError]

theorem defaultField_of_total {d : Value → Except Error α} {default : α}
    (hd : ∀ x, d x = .ok ((accepted d x).getD default)) :
    defaultField v i name default d = .ok (readOr default d (v.member i name)) := by
  unfold defaultField readOr
  cases v.member i name with
  | none => rfl
  | some x => simp [hd x, Except.mapError]

@[simp]
theorem defaultField_optionWithDefault (d : Value → Except Error α) :
    defaultField v i name none (deserializeOptionWithDefault d) =
      .ok ((v.member i name).bind (accepted d)) :=
  defaultField_of_eq v i name (deserializeWithDefault_option d)

@[simp]
theorem defaultField_optionLossless (d : Value → Except Error α) :
    defaultField v i name none (deserializeOptionLossless d) =
      .ok ((v.member i name).bind (accepted d)) :=
  defaultField_of_eq v i name (deserializeOptionLossless_eq d)

/-- A default is given for null as well, if null is not accepted. -/
theorem defaultField_withDefault {d : Value → Except Error α} {default : α}
    (hnull : (d .null).toOption = none) :
    defaultField v i name default (deserializeWithDefault default d) =
      .ok (readOr default d (v.member i name)) := by
  unfold defaultField readOr
  cases v.member i name with
  | none => rfl
  | some x =>
    cases x <;> simp [deserializeWithDefault_eq, accepted, hnull, Except.mapError]

@[simp]
theorem defaultField_vec (d : Value → Except Error α) :
    defaultField v i name [] (deserializeWithDefault [] (deserializeVec d)) =
      .ok (readOr [] (deserializeVec d) (v.member i name)) :=
  defaultField_withDefault v i name rfl

@[simp]
theorem defaultField_hashMap (d : Value → Except Error α) :
    defaultField v i name ∅ (deserializeWithDefault ∅ (deserializeHashMap d)) =
      .ok (readOr ∅ (deserializeHashMap d) (v.member i name)) :=
  defaultField_withDefault v i name rfl

@[simp]
theorem defaultField_features :
    defaultField v i name [] deserializeCommaThenSpaceSeparatedStringOrList =
      .ok (readOr [] deserializeCommaThenSpaceSeparatedStringOrList (v.member i name)) :=
  defaultField_of_total v i name fun x => by cases x <;> rfl

@[simp]
theorem defaultField_string :
    defaultField v i name none deserializeOptionalString =
      .ok ((v.member i name).bind Setting.string) :=
  defaultField_of_eq v i name deserializeOptionalString_eq

@[simp]
theorem defaultField_tags :
    defaultField v i name ∅ deserializeKeyValuePairArrayToHashmap =
      .ok (readOr ∅ deserializeKeyValuePairArrayToHashmap (v.member i name)) :=
  defaultField_of_total v i name fun x => by
    unfold deserializeKeyValuePairArrayToHashmap
    cases x with
    | array vs => cases h : deserializeVec deserializeString (.array vs) <;> simp [accepted, h]
    | _ => rfl

@[simp]
theorem defaultField_serviceMapping :
    defaultField v i name ∅ deserializeServiceMapping =
      .ok (readOr ∅ deserializeServiceMapping (v.member i name)) :=
  defaultField_of_total v i name fun x => by cases x <;> rfl

/-- A struct with a default is read field by field. -/
theorem defaultField_of_read {d : Value → Except Error α} {read : Option Value → α} {default : α}
    (hd : ∀ w, deserializeWithDefault default d w = .ok (read (some w)))
    (h : read none = default) :
    defaultField v i name default (deserializeWithDefault default d) =
      .ok (read (v.member i name)) := by
  unfold defaultField
  cases v.member i name with
  | none => rw [h]
  | some x => simp [hd x, Except.mapError]

/-- So is an optional struct, with the default where there is none. -/
theorem getD_accepted_of_read {d : Value → Except Error α} {read : Option Value → α} {default : α}
    (hd : ∀ w, deserializeWithDefault default d w = .ok (read (some w)))
    (hnull : (d .null).toOption = none) (h : read none = default) (o : Option Value) :
    (o.bind (accepted d)).getD default = read o := by
  cases o with
  | none => exact h.symm
  | some w =>
    have same : accepted d w = (d w).toOption := by
      cases w <;> first | rfl | exact hnull.symm
    rw [Option.bind_some, same]
    exact Except.ok.inj ((deserializeWithDefault_eq default d w).symm.trans (hd w))

theorem bind_accepted_of_read {β : Type} {d : Value → Except Error α} {read : Option Value → α}
    {default : α} {g : α → Option β}
    (hd : ∀ w, deserializeWithDefault default d w = .ok (read (some w)))
    (hnull : (d .null).toOption = none) (h : read none = default) (hg : g default = none)
    (o : Option Value) : (o.bind (accepted d)).bind g = g (read o) := by
  rw [← getD_accepted_of_read hd hnull h o]
  cases o.bind (accepted d) with
  | none => exact hg.symm
  | some x => rfl

variable [ExternalCrates]

@[simp]
theorem defaultField_text :
    defaultField v i name none deserializeStringOrInt =
      .ok ((v.member i name).bind Setting.text) :=
  defaultField_of_eq v i name deserializeStringOrInt_eq

@[simp]
theorem defaultField_styles :
    defaultField v i name [] deserializeTracePropagationStyle =
      .ok (readOr [] deserializeTracePropagationStyle (v.member i name)) :=
  defaultField_of_total v i name fun x => by cases x <;> rfl

@[simp]
theorem defaultField_bool :
    defaultField v i name none deserializeOptionalBoolFromAnything =
      .ok ((v.member i name).bind Setting.bool) :=
  defaultField_of_eq v i name deserializeOptionalBoolFromAnything_eq

@[simp]
theorem defaultField_processingRules :
    defaultField v i name none deserializeProcessingRules =
      .ok ((v.member i name).bind Setting.processingRules) :=
  defaultField_of_eq v i name deserializeProcessingRules_eq

@[simp]
theorem defaultField_replaceRules :
    defaultField v i name none deserializeApmReplaceRules =
      .ok ((v.member i name).bind Setting.replaceRules) :=
  defaultField_of_eq v i name deserializeApmReplaceRules_eq

@[simp]
theorem defaultField_endpoints :
    defaultField v i name ∅ deserializeAdditionalEndpoints =
      .ok (readOr ∅ deserializeAdditionalEndpoints (v.member i name)) :=
  defaultField_of_total v i name fun x => by cases x <;> rfl

end

end ServerlessComponents.AgentConfig
