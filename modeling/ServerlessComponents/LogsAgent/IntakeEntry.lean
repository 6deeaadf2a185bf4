import Mathlib.Logic.Function.Basic
import Mathlib.Tactic.Ring
import ServerlessComponents.AgentConfig.Value
import ServerlessComponents.Library.AssocMap
import ServerlessComponents.Library.Numbered
import ServerlessComponents.LogsAgent.Batching

/-!
# Intake entries as JSON

`intake_entry.rs`: an entry is written as one object, its attributes between the fields of the
struct. When an object is read, a member under a field's name goes to that field and any other one
to the attributes.

The text of JSON is `serde_json`'s; its functions are parameters.

## Main results

* `round_trips_iff` — the entries that are read back.
* `batches_decode_iff` — the same for the batches of any run of the aggregator.
-/
namespace ServerlessComponents.LogsAgent

open AgentConfig (Value HashMap)

/-- The fields that are left out when they are `None`. -/
inductive OptionalField where
  | hostname
  | service
  | ddsource
  | ddtags
  | status
  deriving DecidableEq, Repr

inductive Field where
  | message
  | timestamp
  | optional (f : OptionalField)
  deriving DecidableEq, Repr

def OptionalField.name : OptionalField → String
  | .hostname => "hostname"
  | .service => "service"
  | .ddsource => "ddsource"
  | .ddtags => "ddtags"
  | .status => "status"

def Field.name : Field → String
  | .message => "message"
  | .timestamp => "timestamp"
  | .optional f => f.name

/-- The field a key stands for; any other key is an attribute. -/
def Field.ofKey : String → Option Field
  | "message" => some .message
  | "timestamp" => some .timestamp
  | "hostname" => some (.optional .hostname)
  | "service" => some (.optional .service)
  | "ddsource" => some (.optional .ddsource)
  | "ddtags" => some (.optional .ddtags)
  | "status" => some (.optional .status)
  | _ => none

/-- `attributes` is written in the order of its entries. -/
structure IntakeEntry where
  message : String
  timestamp : Int64
  hostname : Option String
  service : Option String
  ddsource : Option String
  ddtags : Option String
  status : Option String
  attributes : HashMap Value

namespace IntakeEntry

def fromMessage (message : String) (timestamp : Int64) : IntakeEntry :=
  ⟨message, timestamp, none, none, none, none, none, ∅⟩

def optional (e : IntakeEntry) : OptionalField → Option String
  | .hostname => e.hostname
  | .service => e.service
  | .ddsource => e.ddsource
  | .ddtags => e.ddtags
  | .status => e.status

/-! ## Writing -/

/-- Digits without a sign are read as a `u64`. -/
def ofI64 (n : Int64) : Value := .num (if 0 ≤ n then .u64 n.toUInt64 else .i64 n)

def optionalMember (e : IntakeEntry) (f : OptionalField) : Option (String × Value) :=
  (e.optional f).map fun s => (f.name, .string s)

def attributeMembers (e : IntakeEntry) : List (String × Value) :=
  e.attributes.entries.map fun a => (a.1, a.2)

/-- The members of the object, in the order they are written. -/
def members (e : IntakeEntry) : List (String × Value) :=
  [("message", .string e.message), ("timestamp", ofI64 e.timestamp)] ++
    [.hostname, .service, .ddsource, .ddtags, .status].filterMap e.optionalMember ++
    if e.attributes.entries.isEmpty then [] else e.attributeMembers

def serialize (e : IntakeEntry) : Value := .dict e.members

end IntakeEntry

/-! ## Reading -/

inductive JsonError where
  /-- The text is not one of JSON. -/
  | malformed (e : String)
  | invalidType (actual : Value) (expected : String)
  | duplicateField (name : String)
  | missingField (name : String)
  deriving Repr

def readString : Value → Except JsonError String
  | .string s => .ok s
  | v => .error (.invalidType v "a string")

def readI64 : Value → Except JsonError Int64
  | .num (.u64 n) =>
    if n.toNat < 2 ^ 63 then .ok n.toInt64 else .error (.invalidType (.num (.u64 n)) "i64")
  | .num (.i64 n) => .ok n
  | v => .error (.invalidType v "i64")

def readOptionalString : Value → Except JsonError (Option String)
  | .null => .ok none
  | v => (readString v).map some

/-- What the visitor has met. -/
structure Fields where
  message : Option String := none
  timestamp : Option Int64 := none
  optional : OptionalField → Option (Option String) := fun _ => none
  collect : List (String × Value) := []

namespace Fields

def setOptional (s : Fields) (f : OptionalField) (x : Option String) : Fields :=
  { s with optional := Function.update s.optional f (some x) }

theorem setOptional_self (s : Fields) (f : OptionalField) (x : Option String) :
    (s.setOptional f x).optional f = some x :=
  Function.update_self ..

theorem setOptional_of_ne (s : Fields) {f g : OptionalField} (x : Option String) (ne : g ≠ f) :
    (s.setOptional f x).optional g = s.optional g :=
  Function.update_of_ne ne ..

/-- The next member of the object; a field must not come twice. -/
def visit (s : Fields) (m : String × Value) : Except JsonError Fields :=
  match Field.ofKey m.1 with
  | some .message =>
    if s.message.isSome then .error (.duplicateField "message")
    else (readString m.2).map fun x => { s with message := some x }
  | some .timestamp =>
    if s.timestamp.isSome then .error (.duplicateField "timestamp")
    else (readI64 m.2).map fun x => { s with timestamp := some x }
  | some (.optional f) =>
    if (s.optional f).isSome then .error (.duplicateField f.name)
    else (readOptionalString m.2).map (s.setOptional f)
  | none => .ok { s with collect := s.collect ++ [m] }

/-- The end of the object. -/
def finish (s : Fields) : Except JsonError IntakeEntry :=
  match s.message, s.timestamp with
  | none, _ => .error (.missingField "message")
  | some _, none => .error (.missingField "timestamp")
  | some message, some timestamp =>
    .ok {
      message, timestamp
      hostname := (s.optional .hostname).join
      service := (s.optional .service).join
      ddsource := (s.optional .ddsource).join
      ddtags := (s.optional .ddtags).join
      status := (s.optional .status).join
      attributes := AList.ofPairs s.collect }

end Fields

namespace IntakeEntry

def deserialize : Value → Except JsonError IntakeEntry
  | .dict members => members.foldlM Fields.visit {} >>= Fields.finish
  | v => .error (.invalidType v "struct IntakeEntry")

section Text

variable (parse : Bytes → Except JsonError Value)

def fromStr (json : Bytes) : Except JsonError IntakeEntry := parse json >>= deserialize

/-- `serde_json::from_slice` at `Vec<IntakeEntry>`. -/
def vecFromSlice (json : Bytes) : Except JsonError (List IntakeEntry) :=
  parse json >>= fun
    | .array vs => vs.mapM deserialize
    | v => .error (.invalidType v "a sequence")

end Text

/-- Two maps are equal when they have the same values under the same keys. -/
structure Same (a b : IntakeEntry) : Prop where
  message : a.message = b.message
  timestamp : a.timestamp = b.timestamp
  optional : ∀ f, a.optional f = b.optional f
  attributes : ∀ key, a.attributes.lookup key = b.attributes.lookup key

end IntakeEntry

/-! ## Keys -/

theorem Field.ofKey_name (f : Field) : ofKey f.name = some f := by
  cases f with
  | message => rfl
  | timestamp => rfl
  | optional f => cases f <;> rfl

theorem Field.ofKey_eq_some_iff {key : String} {f : Field} : ofKey key = some f ↔ key = f.name := by
  constructor
  · intro h
    unfold ofKey at h
    split at h <;> cases h <;> rfl
  · rintro rfl
    exact ofKey_name f

theorem Field.ofKey_eq_none_iff {key : String} : ofKey key = none ↔ ∀ f : Field, key ≠ f.name := by
  rw [Option.eq_none_iff_forall_ne_some]
  simp only [ne_eq, ofKey_eq_some_iff]

/-! ## The visitor -/

theorem exists_of_map_eq_ok {α β : Type} {x : Except JsonError α} {f : α → β} {b : β}
    (mapped : x.map f = .ok b) : ∃ a, x = .ok a ∧ f a = b := by
  cases x with
  | error e => cases mapped
  | ok a =>
    cases mapped
    exact ⟨a, rfl, rfl⟩

namespace Fields

variable {s t : Fields} {m : String × Value} {ms : List (String × Value)}

theorem visit_attribute (other : Field.ofKey m.1 = none) :
    s.visit m = .ok { s with collect := s.collect ++ [m] } := by
  rw [visit, other]

theorem visit_optional {f : OptionalField} (unset : s.optional f = none) (x : String) :
    s.visit (f.name, .string x) = .ok (s.setOptional f (some x)) := by
  have field : Field.ofKey f.name = some (.optional f) := Field.ofKey_name (.optional f)
  unfold visit
  simp only [field, unset]
  rfl

/-- The loop over attributes. -/
theorem foldlM_attributes (others : ∀ m ∈ ms, Field.ofKey m.1 = none) :
    ms.foldlM visit s = .ok { s with collect := s.collect ++ ms } := by
  induction ms generalizing s with
  | nil => simp [pure, Except.pure]
  | cons m rest ih =>
    have later : ∀ n ∈ rest, Field.ofKey n.1 = none := fun n mem =>
      others n (List.mem_cons_of_mem m mem)
    rw [List.foldlM_cons, visit_attribute (others m List.mem_cons_self)]
    refine (ih later).trans ?_
    simp

/-- The loop over the optional fields of an entry, each at most once. -/
theorem foldlM_optional (e : IntakeEntry) {fs : List OptionalField} (nodup : fs.Nodup)
    (unset : ∀ f ∈ fs, s.optional f = none) :
    (fs.filterMap e.optionalMember).foldlM visit s =
      .ok { s with
        optional := fun f => if f ∈ fs then (e.optional f).map some else s.optional f } := by
  induction fs generalizing s with
  | nil => simp [pure, Except.pure]
  | cons f rest ih =>
    obtain ⟨fresh, nodup⟩ := List.nodup_cons.1 nodup
    have here := unset f List.mem_cons_self
    have later : ∀ g ∈ rest, s.optional g = none := fun g mem =>
      unset g (List.mem_cons_of_mem f mem)
    cases value : e.optional f with
    | none =>
      have skipped : e.optionalMember f = none := by rw [IntakeEntry.optionalMember, value]; rfl
      rw [List.filterMap_cons_none skipped, ih nodup later]
      congr 2
      funext g
      by_cases same : g = f
      · subst same
        simp [fresh, here, value]
      · simp [same]
    | some x =>
      have written : e.optionalMember f = some (f.name, .string x) := by
        rw [IntakeEntry.optionalMember, value]; rfl
      have others : ∀ g ∈ rest, (s.setOptional f (some x)).optional g = none := by
        intro g mem
        have ne : g ≠ f := fun same => fresh (same ▸ mem)
        rw [setOptional_of_ne s _ ne]
        exact later g mem
      rw [List.filterMap_cons_some written, List.foldlM_cons, visit_optional here]
      refine (ih nodup others).trans ?_
      congr 2
      funext g
      by_cases same : g = f
      · rw [same, if_neg fresh, if_pos List.mem_cons_self, value, setOptional_self,
          Option.map_some]
      · have mem : g ∈ f :: rest ↔ g ∈ rest := by simp [same]
        simp only [mem, setOptional_of_ne s _ same]

/-- Only attributes are collected. -/
theorem visit_collect (collected : ∀ n ∈ s.collect, Field.ofKey n.1 = none)
    (visited : s.visit m = .ok t) : ∀ n ∈ t.collect, Field.ofKey n.1 = none := by
  unfold visit at visited
  split at visited
  next =>
    split at visited
    · cases visited
    · obtain ⟨x, -, rfl⟩ := exists_of_map_eq_ok visited
      exact collected
  next =>
    split at visited
    · cases visited
    · obtain ⟨x, -, rfl⟩ := exists_of_map_eq_ok visited
      exact collected
  next =>
    split at visited
    · cases visited
    · obtain ⟨x, -, rfl⟩ := exists_of_map_eq_ok visited
      exact collected
  next other =>
    cases visited
    intro n mem
    rcases List.mem_append.1 mem with old | new
    · exact collected n old
    · rw [List.mem_singleton.1 new]
      exact other

theorem foldlM_collect (collected : ∀ n ∈ s.collect, Field.ofKey n.1 = none)
    (visited : ms.foldlM visit s = .ok t) : ∀ n ∈ t.collect, Field.ofKey n.1 = none := by
  induction ms generalizing s with
  | nil =>
    cases visited
    exact collected
  | cons m rest ih =>
    rw [List.foldlM_cons] at visited
    cases first : s.visit m with
    | error e =>
      rw [first] at visited
      cases visited
    | ok s' =>
      rw [first] at visited
      exact ih (visit_collect collected first) visited

end Fields

/-! ## The round trip -/

theorem exists_of_forall₂ {α β : Type} {R : α → β → Prop} {xs : List α} {ys : List β}
    (related : List.Forall₂ R xs ys) {x : α} (mem : x ∈ xs) : ∃ y ∈ ys, R x y := by
  induction related with
  | nil => cases mem
  | @cons a b _ _ here _ ih =>
    rcases List.mem_cons.1 mem with rfl | tail
    · exact ⟨b, List.mem_cons_self, here⟩
    · obtain ⟨y, mem', related⟩ := ih tail
      exact ⟨y, List.mem_cons_of_mem b mem', related⟩

namespace IntakeEntry

variable {e e' : IntakeEntry}

theorem readI64_ofI64 (n : Int64) : readI64 (ofI64 n) = .ok n := by
  unfold ofI64
  by_cases nonneg : 0 ≤ n
  · rw [if_pos nonneg, readI64, if_pos, Int64.toInt64_toUInt64]
    rw [Int64.toNat_toUInt64_of_le nonneg]
    exact n.toNatClampNeg_lt
  · rw [if_neg nonneg, readI64]

/-- What the visitor has met after the fields of an entry. -/
def fields (e : IntakeEntry) : Fields where
  message := some e.message
  timestamp := some e.timestamp
  optional f := (e.optional f).map some

theorem foldlM_fields (e : IntakeEntry) :
    ([("message", .string e.message), ("timestamp", ofI64 e.timestamp)] ++
      [.hostname, .service, .ddsource, .ddtags, .status].filterMap e.optionalMember).foldlM
        Fields.visit {} = .ok e.fields := by
  have message : Fields.visit {} ("message", .string e.message) =
      .ok { message := some e.message } := rfl
  have timestamp : Fields.visit { message := some e.message } ("timestamp", ofI64 e.timestamp) =
      .ok { message := some e.message, timestamp := some e.timestamp } := by
    have read := readI64_ofI64 e.timestamp
    rw [Fields.visit]
    simp only [Field.ofKey, read]
    rfl
  rw [List.foldlM_append, List.foldlM_cons, message]
  show (List.foldlM _ _ _ >>= _) = _
  rw [List.foldlM_cons, timestamp]
  refine (Fields.foldlM_optional e (by decide) (fun _ _ => rfl)).trans ?_
  congr 2
  funext f
  cases f <;> rfl

theorem attributeMembers_of_plain (plain : ∀ f : Field, f.name ∉ e.attributes) :
    ∀ m ∈ e.attributeMembers, Field.ofKey m.1 = none := by
  intro m mem
  obtain ⟨a, stored, rfl⟩ := List.mem_map.1 mem
  rw [Field.ofKey_eq_none_iff]
  rintro f same
  exact plain f (same ▸ AList.mem_keys.2 (List.mem_map_of_mem stored))

theorem same_finish (e : IntakeEntry) :
    ∃ e', Fields.finish { e.fields with collect := e.attributeMembers } = .ok e' ∧ e.Same e' := by
  have back : ∀ x : Option String, (x.map some).join = x := by
    rintro (none | x) <;> rfl
  refine ⟨_, rfl, rfl, rfl, ?_, ?_⟩
  · intro f
    cases f <;> exact (back _).symm
  · intro key
    exact (AList.Listed.lookup_ofPairs (List.Perm.refl _) key).symm

theorem deserialize_serialize (plain : ∀ f : Field, f.name ∉ e.attributes) :
    ∃ e', deserialize e.serialize = .ok e' ∧ e.Same e' := by
  have skipped : (if e.attributes.entries.isEmpty then [] else e.attributeMembers) =
      e.attributeMembers := by
    split
    · rename_i empty
      rw [attributeMembers, List.isEmpty_iff.1 empty]
      rfl
    · rfl
  have visited : e.members.foldlM Fields.visit {} =
      .ok { e.fields with collect := e.attributeMembers } := by
    rw [members, skipped, List.foldlM_append, foldlM_fields]
    exact Fields.foldlM_attributes (attributeMembers_of_plain plain)
  obtain ⟨e', finished, same⟩ := same_finish e
  refine ⟨e', ?_, same⟩
  rw [serialize, deserialize, visited]
  exact finished

/-- No attribute that was read has the name of a field. -/
theorem attributes_of_deserialize {v : Value} (read : deserialize v = .ok e) (f : Field) :
    f.name ∉ e.attributes := by
  cases v with
  | dict members =>
    rw [deserialize] at read
    cases visited : members.foldlM Fields.visit {} with
    | error err =>
      rw [visited] at read
      cases read
    | ok s =>
      have collected := Fields.foldlM_collect (by simp) visited
      have attributes : e.attributes = AList.ofPairs s.collect := by
        rw [visited] at read
        change s.finish = .ok e at read
        unfold Fields.finish at read
        split at read
        · cases read
        · cases read
        · cases read
          rfl
      rw [attributes, ← AList.lookup_eq_none, AList.lookup_ofPairs, List.lookup_eq_none_iff]
      intro m mem
      have other := Field.ofKey_eq_none_iff.1 (collected m (List.mem_reverse.1 mem)) f
      simpa using other.symm
  | _ => cases read

theorem Same.plain (same : e.Same e') (read : ∀ f : Field, f.name ∉ e'.attributes) (f : Field) :
    f.name ∉ e.attributes := by
  rw [← AList.lookup_eq_none, same.attributes, AList.lookup_eq_none]
  exact read f

/-- Reading entry by entry. -/
theorem mapM_deserialize {es : List IntakeEntry}
    (plain : ∀ e ∈ es, ∀ f : Field, f.name ∉ e.attributes) :
    ∃ read, (es.map serialize).mapM deserialize = .ok read ∧ List.Forall₂ Same es read := by
  induction es with
  | nil => exact ⟨[], rfl, .nil⟩
  | cons e rest ih =>
    obtain ⟨e', here, same⟩ := deserialize_serialize (plain e List.mem_cons_self)
    obtain ⟨read, later, sames⟩ := ih fun g mem => plain g (List.mem_cons_of_mem e mem)
    refine ⟨e' :: read, ?_, .cons same sames⟩
    rw [List.map_cons, List.mapM_cons, here, later]
    rfl

theorem attributes_of_mapM {vs : List Value} {es : List IntakeEntry}
    (read : vs.mapM deserialize = .ok es) (mem : e ∈ es) (f : Field) : f.name ∉ e.attributes := by
  induction vs generalizing es with
  | nil =>
    cases read
    cases mem
  | cons v rest ih =>
    rw [List.mapM_cons] at read
    cases here : deserialize v with
    | error err =>
      rw [here] at read
      cases read
    | ok first =>
      cases later : rest.mapM deserialize with
      | error err =>
        rw [here, later] at read
        cases read
      | ok others =>
        rw [here, later] at read
        cases read
        rcases List.mem_cons.1 mem with rfl | tail
        · exact attributes_of_deserialize here f
        · exact ih later tail

end IntakeEntry

/-! ## Texts -/

section Text

variable (text : Value → Bytes) (parse : Bytes → Except JsonError Value)

/-- The values that `serde_json` reads back from their texts, alone or in an array: it limits the
nesting, and may change the last bit of a float. -/
structure ReadsBack (Exact : Value → Prop) : Prop where
  value : ∀ v, Exact v → parse (text v) = .ok v
  array : ∀ vs : List Value, (∀ v ∈ vs, Exact v) → parse (frame (vs.map text)) = .ok (.array vs)

namespace IntakeEntry

def toString (e : IntakeEntry) : Bytes := text e.serialize

def RoundTrips (e : IntakeEntry) : Prop :=
  ∃ e', fromStr parse (e.toString text) = .ok e' ∧ e.Same e'

/-- The entries a batch is read as. -/
def BatchReads (batch : Bytes) (es : List IntakeEntry) : Prop :=
  ∃ read, vecFromSlice parse batch = .ok read ∧ List.Forall₂ Same es read

variable {text parse} {Exact : Value → Prop}

theorem roundTrips_iff (back : ReadsBack text parse Exact) {e : IntakeEntry}
    (exact_ : Exact e.serialize) :
    e.RoundTrips text parse ↔ ∀ f : Field, f.name ∉ e.attributes := by
  have parsed : fromStr parse (e.toString text) = deserialize e.serialize := by
    rw [fromStr, toString, back.value _ exact_]
    rfl
  constructor
  · rintro ⟨e', read, same⟩
    rw [parsed] at read
    exact same.plain (attributes_of_deserialize read)
  · intro plain
    rw [RoundTrips, parsed]
    exact deserialize_serialize plain

theorem batchReads_frame (back : ReadsBack text parse Exact) {es : List IntakeEntry}
    (exact_ : ∀ e ∈ es, Exact e.serialize) (plain : ∀ e ∈ es, ∀ f : Field, f.name ∉ e.attributes) :
    BatchReads parse (frame (es.map (toString text))) es := by
  obtain ⟨read, decoded, sames⟩ := mapM_deserialize plain
  have parsed : parse (frame (es.map (toString text))) = .ok (.array (es.map serialize)) := by
    have array := back.array (es.map serialize) (by simpa using exact_)
    rw [List.map_map] at array
    exact array
  refine ⟨read, ?_, sames⟩
  rw [vecFromSlice, parsed]
  exact decoded

theorem BatchReads.plain {batch : Bytes} {es : List IntakeEntry} (reads : BatchReads parse batch es)
    {e : IntakeEntry} (mem : e ∈ es) (f : Field) : f.name ∉ e.attributes := by
  obtain ⟨read, decoded, sames⟩ := reads
  obtain ⟨e', mem', same⟩ := exists_of_forall₂ sames mem
  refine same.plain ?_ f
  unfold vecFromSlice at decoded
  cases parsed : parse batch with
  | error err =>
    rw [parsed] at decoded
    cases decoded
  | ok v =>
    rw [parsed] at decoded
    cases v with
    | array vs => exact attributes_of_mapM decoded mem'
    | _ => cases decoded

end IntakeEntry

/-! ## Batches -/

inductive Operation where
  | insert (entry : IntakeEntry)
  | getBatch
  | getAllBatches

/-- An aggregator, the entries it took and the batches it returned. -/
structure Session where
  aggregator : Aggregator := .new
  inserted : List IntakeEntry := []
  batches : List Bytes := []

namespace Session

def step (s : Session) : Operation → Session
  | .insert entry =>
    match s.aggregator.insert (fun e => .ok (e.toString text)) entry with
    | (.ok _, agg) => { s with aggregator := agg, inserted := s.inserted ++ [entry] }
    | (.error _, agg) => { s with aggregator := agg }
  | .getBatch =>
    let (batch, agg) := s.aggregator.getBatch
    { s with aggregator := agg, batches := s.batches ++ batch.toList }
  | .getAllBatches =>
    match s.aggregator.getAllBatches (s.aggregator.messages.length + 1) with
    | some (batches, agg) => { s with aggregator := agg, batches := s.batches ++ batches }
    | none => s

def run (ops : List Operation) : Session := ops.foldl (step text) {}

/-- What the aggregator took and does not hold any more. -/
def returned (s : Session) : List IntakeEntry :=
  s.inserted.take (s.inserted.length - s.aggregator.messages.length)

/-- The batches are read as the groups, and these are the entries in their order. -/
structure Reads (s : Session) (groups : List (List IntakeEntry)) (queued : List IntakeEntry) :
    Prop where
  batches : List.Forall₂ (IntakeEntry.BatchReads parse) s.batches groups
  queue : s.aggregator.messages = queued.map (IntakeEntry.toString text)
  inserted : groups.flatten ++ queued = s.inserted

/-- A session is a run of the aggregator. -/
def History (s : Session) : Prop :=
  Run (fun e : IntakeEntry => .ok (e.toString text)) s.aggregator
    (s.inserted.map (IntakeEntry.toString text)) s.batches

variable {text parse} {Exact : Value → Prop} {s : Session}

theorem history_insert (history : s.History text) (entry : IntakeEntry) :
    (s.step text (.insert entry)).History text := by
  have inserted := Run.insert entry history
  unfold History step
  cases large : decide ((entry.toString text).length > maxLogBytes) with
  | true =>
    simp only [Aggregator.insert, Aggregator.accepted, of_decide_eq_true large, if_true,
      List.append_nil] at inserted ⊢
    exact inserted
  | false =>
    simp only [Aggregator.insert, Aggregator.accepted, of_decide_eq_false large, if_false,
      List.map_append, List.map_cons, List.map_nil] at inserted ⊢
    exact inserted

theorem history_step (history : s.History text) (op : Operation) :
    (s.step text op).History text := by
  cases op with
  | insert entry => exact history_insert history entry
  | getBatch => exact Run.getBatch history
  | getAllBatches =>
    simp only [step]
    split
    next all => exact Run.getAllBatches _ history all
    next => exact history

theorem history_run (ops : List Operation) : (run text ops).History text := by
  induction ops using List.reverseRecOn with
  | nil => exact Run.new
  | append_singleton ops op ih =>
    rw [run, List.foldl_append]
    exact history_step ih op

theorem mem_inserted_step {op : Operation} {e : IntakeEntry} (mem : e ∈ (s.step text op).inserted) :
    e ∈ s.inserted ∨ op = .insert e := by
  cases op with
  | insert entry =>
    simp only [step] at mem
    split at mem
    next =>
      rcases List.mem_append.1 mem with old | new
      · exact .inl old
      · exact .inr (by rw [List.mem_singleton.1 new])
    next => exact .inl mem
  | getBatch => exact .inl mem
  | getAllBatches =>
    simp only [step] at mem
    split at mem
    next => exact .inl mem
    next => exact .inl mem

theorem mem_inserted_run {ops : List Operation} {e : IntakeEntry}
    (mem : e ∈ (run text ops).inserted) : .insert e ∈ ops := by
  induction ops using List.reverseRecOn with
  | nil => cases mem
  | append_singleton ops op ih =>
    rw [run, List.foldl_append] at mem
    rcases mem_inserted_step mem with old | rfl
    · exact List.mem_append_left _ (ih old)
    · simp

theorem returned_eq {front queued : List IntakeEntry} (split : s.inserted = front ++ queued)
    (length : s.aggregator.messages.length = queued.length) : s.returned = front := by
  rw [returned, split, List.length_append, length, Nat.add_sub_cancel, List.take_left]

theorem reads_of_plain (back : ReadsBack text parse Exact) (history : s.History text)
    (exact_ : ∀ e ∈ s.inserted, Exact e.serialize)
    (plain : ∀ e ∈ s.returned, ∀ f : Field, f.name ∉ e.attributes) :
    ∃ groups queued, s.Reads text parse groups queued := by
  obtain ⟨raw, framed, carried, -⟩ := history.carries
  obtain ⟨front, queued, split, taken, queue⟩ := List.map_eq_append_iff.1 carried.symm
  obtain ⟨groups, rfl, rfl⟩ := Numbered.exists_groups taken.symm
  rw [returned_eq split (by rw [← queue, List.length_map])] at plain
  refine ⟨groups, queued, ?_, queue.symm, split.symm⟩
  rw [framed, List.forall₂_map_left_iff, List.forall₂_map_left_iff, List.forall₂_same]
  intro group mem
  have within : ∀ e ∈ group, e ∈ groups.flatten := fun e h => List.mem_flatten_of_mem mem h
  apply IntakeEntry.batchReads_frame back
  · intro e h
    exact exact_ e (split ▸ List.mem_append_left _ (within e h))
  · intro e h
    exact plain e (within e h)

theorem Reads.plain {groups : List (List IntakeEntry)} {queued : List IntakeEntry}
    (reads : s.Reads text parse groups queued) {e : IntakeEntry} (mem : e ∈ s.returned)
    (f : Field) : f.name ∉ e.attributes := by
  rw [returned_eq reads.inserted.symm (by rw [reads.queue, List.length_map])] at mem
  obtain ⟨group, found, mem⟩ := List.mem_flatten.1 mem
  obtain ⟨batch, -, read⟩ := exists_of_forall₂ reads.batches.flip found
  exact IntakeEntry.BatchReads.plain read mem f

end Session

/-- An entry is read back, alone or from a batch, unless one of its attributes has the name of a
field. -/
theorem round_trips_iff {Exact : Value → Prop} (back : ReadsBack text parse Exact) :
    (∀ e : IntakeEntry, Exact e.serialize →
      (e.RoundTrips text parse ↔ ∀ f : Field, f.name ∉ e.attributes)) ∧
    ∀ ops : List Operation, (∀ e, .insert e ∈ ops → Exact e.serialize) →
      ((∃ groups queued, (Session.run text ops).Reads text parse groups queued) ↔
        ∀ e ∈ (Session.run text ops).returned, ∀ f : Field, f.name ∉ e.attributes) := by
  refine ⟨fun e exact_ => IntakeEntry.roundTrips_iff back exact_, fun ops exact_ => ?_⟩
  constructor
  · rintro ⟨groups, queued, reads⟩ e mem f
    exact reads.plain mem f
  · intro plain
    exact Session.reads_of_plain back (Session.history_run ops)
      (fun e mem => exact_ e (Session.mem_inserted_run mem)) plain

/-! ## One document -/

/-- A parser that knows one object and the arrays of copies of it. -/
def parseDocument (doc : Value) (json : Bytes) (input : Bytes) : Except JsonError Value :=
  if input = json then .ok doc
  else
    let n := input.length / (json.length + 1)
    if input = frame (List.replicate n json) then .ok (.array (List.replicate n doc))
    else .error (.malformed "expected value")

theorem length_frame_replicate {json : Bytes} (long : 2 ≤ json.length) (n : Nat) :
    (frame (List.replicate n json)).length / (json.length + 1) = n := by
  have total : totalLength (List.replicate n json) = n * json.length := by
    simp [totalLength]
  rw [frame_length, total, List.length_replicate]
  cases n with
  | zero => exact Nat.div_eq_of_lt (by omega)
  | succ n =>
    have whole : (n + 1) * json.length + (n + 1 - 1) + 2 = 1 + (json.length + 1) * (n + 1) := by
      ring_nf
      omega
    rw [whole, Nat.add_mul_div_left _ _ (by omega), Nat.div_eq_of_lt (by omega), Nat.zero_add]

theorem readsBack_document {doc : Value} {json : Bytes} (object : json.head? = some 123)
    (long : 2 ≤ json.length) : ReadsBack (fun _ => json) (parseDocument doc json) (· = doc) where
  value := by
    rintro v rfl
    rw [parseDocument, if_pos rfl]
  array := by
    intro vs all
    have copies : vs = List.replicate vs.length doc := List.eq_replicate_of_mem all
    have texts : vs.map (fun _ => json) = List.replicate vs.length json := List.map_const' ..
    have other : frame (List.replicate vs.length json) ≠ json := by
      intro same
      rw [← same] at object
      simp [frame, openBracket] at object
    rw [texts, parseDocument, if_neg other]
    simp only [length_frame_replicate long, if_true]
    rw [← copies]

/-- An attribute of its own. -/
def started : IntakeEntry :=
  { IntakeEntry.fromMessage "up" 1 with attributes := .singleton "cold" (.bool true) }

def startedJson : Bytes :=
  "\x7b\"message\":\"up\",\"timestamp\":1,\"cold\":true\x7d".toList.map fun c => c.toNat.toUInt8

/-- An attribute with the name of a field. -/
def stopped : IntakeEntry :=
  { IntakeEntry.fromMessage "down" 2 with
    status := some "error", attributes := .singleton "status" (.string "lost") }

def stoppedJson : Bytes :=
  "\x7b\"message\":\"down\",\"timestamp\":2,\"status\":\"error\",\"status\":\"lost\"\x7d".toList
    |>.map fun c => c.toNat.toUInt8

theorem started_plain (f : Field) : f.name ∉ started.attributes := by
  intro mem
  have other : Field.ofKey "cold" = none := rfl
  exact Field.ofKey_eq_none_iff.1 other f (List.mem_singleton.1 mem).symm

theorem round_trips_iff_started :
    started.RoundTrips (fun _ => startedJson) (parseDocument started.serialize startedJson) ∧
      ∃ groups queued,
        (Session.run (fun _ => startedJson) [.insert started, .insert started, .getBatch]).Reads
          (fun _ => startedJson) (parseDocument started.serialize startedJson) groups queued := by
  have back : ReadsBack (fun _ => startedJson) (parseDocument started.serialize startedJson)
    (· = started.serialize) := readsBack_document (by decide) (by decide)
  have only : ∀ e, .insert e ∈ [Operation.insert started, .insert started, .getBatch] →
      e = started := by simp
  refine ⟨((round_trips_iff _ _ back).1 started rfl).2 started_plain, ?_⟩
  refine ((round_trips_iff _ _ back).2 _ fun e mem => by rw [only e mem]).2 fun e mem f => ?_
  rw [only e (Session.mem_inserted_run (List.mem_of_mem_take mem))]
  exact started_plain f

theorem not_round_trips_stopped :
    ¬ stopped.RoundTrips (fun _ => stoppedJson) (parseDocument stopped.serialize stoppedJson) := by
  have back : ReadsBack (fun _ => stoppedJson) (parseDocument stopped.serialize stoppedJson)
    (· = stopped.serialize) := readsBack_document (by decide) (by decide)
  intro h
  exact (IntakeEntry.roundTrips_iff back rfl).1 h (.optional .status) (List.mem_singleton.2 rfl)

end Text

end ServerlessComponents.LogsAgent
