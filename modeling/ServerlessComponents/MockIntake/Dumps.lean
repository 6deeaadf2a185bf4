import Mathlib.Data.List.AList
import Std.Data.String.ToNat
import ServerlessComponents.Library.Runs
import ServerlessComponents.MockIntake.Summaries

/-!
# Request dumps

With `dump_dir` every decoded attempt is written to a file of its own. The directory may be shared:
several intakes dump into it at once, also ones that were started again, and other programs add
files to it. Opening with `create_new` is one step of the file system; `write_all` writes in as many
pieces as the system makes of it.

The serializer of the envelope is another package's; it is a parameter.

## Main result

* `dumps_kept` — what is in the directory stays, each dump has a file of its own with its envelope
  in it, and a dump is given up only in a directory of more than a thousand files.
-/
namespace ServerlessComponents.MockIntake

/-! ## One dump -/

structure Envelope (V : Type) where
  requestId : Nat
  endpoint : String
  encoding : String
  status : Nat
  payload : V
  deriving DecidableEq, Repr

/-- An attempt a handler has dealt with, with what else `dump_request` reads: the process and the
nanoseconds of the clock. -/
structure DumpCall (V : Type) where
  requestId : Nat
  endpoint : String
  headers : HeaderMap
  handled : HandledRequest V
  processId : Nat
  nanos : Nat

/-- At least four digits. -/
def paddedId (requestId : Nat) : String :=
  let digits := toString requestId
  "".pushn '0' (4 - digits.length) ++ digits

def DumpCall.envelope {V : Type} (call : DumpCall V) (payload : V) : Envelope V where
  requestId := call.requestId
  endpoint := call.endpoint
  encoding := contentEncoding call.headers
  status := call.handled.status.asU16
  payload := payload

def DumpCall.base {V : Type} (call : DumpCall V) : String :=
  let slug := call.endpoint.map fun c => if c = '/' then '_' else c
  s!"{slug}-{paddedId call.requestId}-{call.processId}-{call.nanos}"

def dumpPath (base : String) (suffix : Nat) : String :=
  if suffix = 0 then base ++ ".json" else base ++ "-" ++ toString suffix ++ ".json"

/-- How far `dump_request` is. -/
inductive DumpPhase where
  | opening (suffix : Nat)
  | writing (path : String) (written : Nat)
  /-- `write_all` has returned, all written or not. -/
  | closed (path : String) (written : Nat)
  /-- The file system refused for another reason than the name. -/
  | notCreated
  | gaveUp
  deriving DecidableEq, Repr

structure Dump where
  base : String
  json : List UInt8
  phase : DumpPhase := .opening 0
  deriving DecidableEq, Repr

/-- The file of the dump, with how much has been written to it. -/
def DumpPhase.file : DumpPhase → Option (String × Nat)
  | .writing path written | .closed path written => some (path, written)
  | .opening _ | .notCreated | .gaveUp => none

/-- How many names have been found taken. -/
def DumpPhase.tried : DumpPhase → Nat
  | .opening suffix => suffix
  | .gaveUp => 1001
  | .writing .. | .closed .. | .notCreated => 0

/-- The dump of an attempt; there is none if the attempt was not decoded, or is not serializable. -/
def DumpCall.dump {V : Type} (toVecPretty : Envelope V → Option (List UInt8)) (call : DumpCall V) :
    Option Dump :=
  call.handled.decoded.bind fun payload =>
    (toVecPretty (call.envelope payload)).map fun json =>
      { base := call.base, json := json ++ ['\n'.toUInt8] }

/-! ## The directory -/

structure DumpDir where
  files : AList fun _ : String => List UInt8 := ∅
  dumps : List Dump := []

inductive DumpAction (V : Type) where
  /-- A handler comes to its dump. -/
  | handled (call : DumpCall V)
  /-- The file system answers `open` by whether the name is taken. -/
  | opens (dump : Nat)
  | openFails (dump : Nat)
  | writes (dump : Nat) (count : Nat)
  | writeFails (dump : Nat)
  /-- Another program makes a file. -/
  | other (path : String) (content : List UInt8)

namespace DumpDir

variable {V : Type}

def setPhase (s : DumpDir) (i : Nat) (phase : DumpPhase) : DumpDir :=
  { s with dumps := s.dumps.modify i ({ · with phase }) }

/-- `open` with `create_new`. -/
def tryOpen (s : DumpDir) (i : Nat) (base : String) (suffix : Nat) : DumpDir :=
  if dumpPath base suffix ∈ s.files then
    s.setPhase i (if 1000 < suffix + 1 then .gaveUp else .opening (suffix + 1))
  else
    { s.setPhase i (.writing (dumpPath base suffix) 0) with
      files := s.files.insert (dumpPath base suffix) [] }

/-- A piece goes to the end of the file. -/
def append (s : DumpDir) (i : Nat) (json : List UInt8) (path : String) (written count : Nat) :
    DumpDir :=
  let piece := (json.drop written).take count
  let phase : DumpPhase :=
    if written + count = json.length then .closed path (written + count)
    else .writing path (written + count)
  { s.setPhase i phase with
    files := s.files.insert path ((s.files.lookup path).getD [] ++ piece) }

def step (toVecPretty : Envelope V → Option (List UInt8)) (s : DumpDir) :
    DumpAction V → Option DumpDir
  | .handled call => some { s with dumps := s.dumps ++ (call.dump toVecPretty).toList }
  | .opens i =>
    match s.dumps[i]? with
    | some ⟨base, _, .opening suffix⟩ => some (s.tryOpen i base suffix)
    | _ => none
  | .openFails i =>
    match s.dumps[i]? with
    | some ⟨_, _, .opening _⟩ => some (s.setPhase i .notCreated)
    | _ => none
  | .writes i count =>
    match s.dumps[i]? with
    | some ⟨_, json, .writing path written⟩ =>
      if 0 < count ∧ written + count ≤ json.length then some (s.append i json path written count)
      else none
    | _ => none
  | .writeFails i =>
    match s.dumps[i]? with
    | some ⟨_, _, .writing path written⟩ => some (s.setPhase i (.closed path written))
    | _ => none
  | .other path content =>
    if path ∈ s.files then none else some { s with files := s.files.insert path content }

/-! ## What a step does -/

/-- Every dump has found its names taken or has a file of its own, with the beginning of its
envelope in it. -/
structure Kept (s : DumpDir) : Prop where
  tried : ∀ (i : Nat) d, s.dumps[i]? = some d → ∀ j < d.phase.tried, dumpPath d.base j ∈ s.files
  contents : ∀ (i : Nat) d path written, s.dumps[i]? = some d →
    d.phase.file = some (path, written) → s.files.lookup path = some (d.json.take written)
  apart : ∀ (i j : Nat) d e path n m, s.dumps[i]? = some d → s.dumps[j]? = some e →
    d.phase.file = some (path, n) → e.phase.file = some (path, m) → i = j

/-- The file has this content, and nobody is writing to it. -/
structure Settled (path : String) (content : List UInt8) (s : DumpDir) : Prop where
  found : s.files.lookup path = some content
  left : ∀ (i : Nat) d written, s.dumps[i]? = some d → d.phase ≠ .writing path written

section Steps

variable {s s' : DumpDir} {i j : Nat} {d : Dump} {path : String} {content : List UInt8}

theorem getElem?_setPhase (s : DumpDir) (i j : Nat) (phase : DumpPhase) :
    (s.setPhase i phase).dumps[j]? =
      if i = j then s.dumps[j]?.map ({ · with phase }) else s.dumps[j]? := by
  simp only [setPhase, List.getElem?_modify]
  split <;> simp

/-- The dump of the step or one it leaves alone. -/
theorem found_setPhase {e : Dump} {phase : DumpPhase} (at_ : s.dumps[i]? = some d)
    (found : (s.setPhase i phase).dumps[j]? = some e) :
    i = j ∧ e = { d with phase } ∨ i ≠ j ∧ s.dumps[j]? = some e := by
  rw [getElem?_setPhase] at found
  split at found
  next same =>
    subst same
    rw [at_] at found
    exact .inl ⟨rfl, (Option.some.inj found).symm⟩
  next differ => exact .inr ⟨differ, found⟩

theorem mem_of_lookup {files : AList fun _ : String => List UInt8}
    (found : files.lookup path = some content) : path ∈ files := by
  by_contra absent
  rw [AList.lookup_eq_none.2 absent] at found
  cases found

theorem Kept.mem_files (start : s.Kept) {written : Nat} (at_ : s.dumps[i]? = some d)
    (file : d.phase.file = some (path, written)) : path ∈ s.files :=
  mem_of_lookup (start.contents i d path written at_ file)

/-- A new file belongs to no dump that has one. -/
theorem Kept.insertNew (start : s.Kept) (absent : path ∉ s.files) (content : List UInt8) :
    { s with files := s.files.insert path content }.Kept := by
  refine ⟨?_, ?_, start.apart⟩
  · intro i d found j lt
    exact AList.mem_insert _ |>.2 (.inr (start.tried i d found j lt))
  · intro i d other written found file
    have differ : other ≠ path := by
      rintro rfl
      exact absent (start.mem_files found file)
    simp only [AList.lookup_insert_ne differ]
    exact start.contents i d other written found file

/-- The dump keeps its file or still has none. -/
theorem Kept.setPhase (start : s.Kept) {phase : DumpPhase} (at_ : s.dumps[i]? = some d)
    (file : phase.file = d.phase.file) (tried : ∀ j < phase.tried, dumpPath d.base j ∈ s.files) :
    (s.setPhase i phase).Kept := by
  have before {j : Nat} {e : Dump} (found : (s.setPhase i phase).dumps[j]? = some e) :
      ∃ e', s.dumps[j]? = some e' ∧ e'.json = e.json ∧ e'.phase.file = e.phase.file := by
    rcases found_setPhase at_ found with ⟨rfl, rfl⟩ | ⟨-, old⟩
    · exact ⟨d, at_, rfl, file.symm⟩
    · exact ⟨e, old, rfl, rfl⟩
  refine ⟨?_, ?_, ?_⟩
  · intro j e found
    rcases found_setPhase at_ found with ⟨-, rfl⟩ | ⟨-, old⟩
    · exact tried
    · exact start.tried j e old
  · intro j e path written found here
    obtain ⟨e', old, same, files⟩ := before found
    exact same ▸ start.contents j e' path written old (files.trans here)
  · intro j k e f path n m found found' here here'
    obtain ⟨e', old, -, files⟩ := before found
    obtain ⟨f', old', -, files'⟩ := before found'
    exact start.apart j k e' f' path n m old old' (files.trans here) (files'.trans here')

theorem Kept.tryOpen (start : s.Kept) {base : String} {json : List UInt8} {suffix : Nat}
    (at_ : s.dumps[i]? = some ⟨base, json, .opening suffix⟩) : (s.tryOpen i base suffix).Kept := by
  have taken := start.tried i _ at_
  unfold DumpDir.tryOpen
  split
  next mem =>
    have more : ∀ j < suffix + 1, dumpPath base j ∈ s.files := by
      intro j lt
      rcases Nat.lt_succ_iff_lt_or_eq.1 lt with earlier | rfl
      · exact taken j earlier
      · exact mem
    refine start.setPhase at_ ?_ ?_
    · split <;> rfl
    · intro j lt
      refine more j ?_
      split at lt <;> simp only [DumpPhase.tried] at lt <;> omega
  next absent =>
    have opened := start.insertNew absent []
    refine ⟨?_, ?_, ?_⟩
    · intro j e found
      rcases found_setPhase at_ found with ⟨-, rfl⟩ | ⟨-, old⟩
      · simp [DumpPhase.tried]
      · exact opened.tried j e old
    · intro j e path written found here
      rcases found_setPhase at_ found with ⟨-, rfl⟩ | ⟨-, old⟩
      · cases here
        simp [AList.lookup_insert]
      · exact opened.contents j e path written old here
    · -- no other dump has this name for its file
      have fresh {j : Nat} {e : Dump} {n : Nat} (old : s.dumps[j]? = some e)
          (here : e.phase.file = some (dumpPath base suffix, n)) : False :=
        absent (start.mem_files old here)
      intro j k e f path n m found found' here here'
      rcases found_setPhase at_ found with ⟨rfl, rfl⟩ | ⟨-, old⟩ <;>
        rcases found_setPhase at_ found' with ⟨rfl, rfl⟩ | ⟨-, old'⟩
      · rfl
      · cases here
        exact (fresh old' here').elim
      · cases here'
        exact (fresh old here).elim
      · exact start.apart j k e f path n m old old' here here'

theorem Kept.append (start : s.Kept) {base : String} {json : List UInt8} {written : Nat}
    (at_ : s.dumps[i]? = some ⟨base, json, .writing path written⟩) (count : Nat) :
    (s.append i json path written count).Kept := by
  have content := start.contents i _ path written at_ rfl
  have file : (if written + count = json.length then DumpPhase.closed path (written + count)
      else .writing path (written + count)).file = some (path, written + count) := by
    split <;> rfl
  have none_tried : (if written + count = json.length then DumpPhase.closed path (written + count)
      else .writing path (written + count)).tried = 0 := by
    split <;> rfl
  refine ⟨?_, ?_, ?_⟩
  · intro j e found
    rcases found_setPhase at_ found with ⟨-, rfl⟩ | ⟨-, old⟩
    · simp [none_tried]
    · exact fun k lt => AList.mem_insert _ |>.2 (.inr (start.tried j e old k lt))
  · intro j e other n found here
    rcases found_setPhase at_ found with ⟨rfl, rfl⟩ | ⟨differ, old⟩
    · obtain ⟨rfl, rfl⟩ : path = other ∧ written + count = n := by
        simpa using file.symm.trans here
      simp [DumpDir.append, content, List.take_add]
    · have apart : other ≠ path := by
        rintro rfl
        exact differ (start.apart i j _ e other written n at_ old rfl here)
      simp only [DumpDir.append, AList.lookup_insert_ne apart]
      exact start.contents j e other n old here
  · intro j k e f other n m found found' here here'
    rcases found_setPhase at_ found with ⟨rfl, rfl⟩ | ⟨-, old⟩ <;>
      rcases found_setPhase at_ found' with ⟨rfl, rfl⟩ | ⟨-, old'⟩
    · rfl
    · obtain ⟨rfl, -⟩ : path = other ∧ _ := by simpa using file.symm.trans here
      exact start.apart i k _ f path written m at_ old' rfl here'
    · obtain ⟨rfl, -⟩ : path = other ∧ _ := by simpa using file.symm.trans here'
      exact start.apart j i e _ path n written old at_ here rfl
    · exact start.apart j k e f other n m old old' here here'

/-- A file somebody has finished with. -/
theorem Kept.settled (start : s.Kept) {written : Nat} (at_ : s.dumps[i]? = some d)
    (closed : d.phase = .closed path written) : s.Settled path (d.json.take written) := by
  have file : d.phase.file = some (path, written) := by rw [closed]; rfl
  refine ⟨start.contents i d path written at_ file, ?_⟩
  intro j e n found writing
  obtain rfl : i = j := start.apart i j d e path written n at_ found file (by rw [writing]; rfl)
  obtain rfl : d = e := Option.some.inj (at_.symm.trans found)
  cases closed.symm.trans writing

/-- A dump that is not about to write to the file moves on. -/
theorem Settled.setPhase (start : s.Settled path content) {phase : DumpPhase}
    (at_ : s.dumps[i]? = some d) (elsewhere : ∀ written, phase ≠ .writing path written) :
    (s.setPhase i phase).Settled path content := by
  refine ⟨start.found, ?_⟩
  intro j e written found
  rcases found_setPhase at_ found with ⟨-, rfl⟩ | ⟨-, old⟩
  · exact elsewhere written
  · exact start.left j e written old

/-- Another file gets a content. -/
theorem Settled.insert (start : s.Settled path content) {other : String} (differ : path ≠ other)
    (content' : List UInt8) :
    { s with files := s.files.insert other content' }.Settled path content :=
  ⟨(AList.lookup_insert_ne differ).trans start.found, start.left⟩

theorem Settled.ne_of_notMem (start : s.Settled path content) {other : String}
    (absent : other ∉ s.files) : path ≠ other := by
  rintro rfl
  exact absent (mem_of_lookup start.found)

end Steps

section Step

variable {toVecPretty : Envelope V → Option (List UInt8)} {s s' : DumpDir} {a : DumpAction V}

/-- A dump that comes to the directory has tried no name. -/
theorem found_requested {call : DumpCall V} {i : Nat} {d : Dump}
    (found : (s.dumps ++ (call.dump toVecPretty).toList)[i]? = some d) :
    s.dumps[i]? = some d ∨ d.phase = .opening 0 := by
  rw [List.getElem?_append] at found
  split at found
  next => exact .inl found
  next =>
    refine .inr ?_
    have mem := List.mem_of_getElem? found
    simp only [DumpCall.dump, Option.mem_toList, Option.bind_eq_some_iff,
      Option.map_eq_some_iff] at mem
    obtain ⟨payload, -, json, -, rfl⟩ := mem
    rfl

theorem kept_step (start : s.Kept) (h : s.step toVecPretty a = some s') : s'.Kept := by
  cases a with
  | handled call =>
    cases h
    refine ⟨?_, ?_, ?_⟩
    · intro i d found
      rcases found_requested found with old | new
      · exact start.tried i d old
      · simp [new, DumpPhase.tried]
    · intro i d path written found file
      rcases found_requested found with old | new
      · exact start.contents i d path written old file
      · simp [new, DumpPhase.file] at file
    · intro i j d e path n m found found' file file'
      rcases found_requested found with old | new
      · rcases found_requested found' with old' | new'
        · exact start.apart i j d e path n m old old' file file'
        · simp [new', DumpPhase.file] at file'
      · simp [new, DumpPhase.file] at file
  | opens i =>
    simp only [step] at h
    split at h <;> cases h
    next base json suffix at_ => exact start.tryOpen at_
  | openFails i =>
    simp only [step] at h
    split at h <;> cases h
    next base json suffix at_ => exact start.setPhase at_ rfl (by simp [DumpPhase.tried])
  | writes i count =>
    simp only [step] at h
    split at h
    next base json path written at_ =>
      split at h <;> cases h
      exact start.append at_ count
    next => cases h
  | writeFails i =>
    simp only [step] at h
    split at h <;> cases h
    next base json path written at_ => exact start.setPhase at_ rfl (by simp [DumpPhase.tried])
  | other path content =>
    simp only [step] at h
    split at h <;> cases h
    next absent => exact start.insertNew absent _

theorem settled_step {path : String} {content : List UInt8} (start : s.Settled path content)
    (h : s.step toVecPretty a = some s') : s'.Settled path content := by
  cases a with
  | handled call =>
    cases h
    refine ⟨start.found, ?_⟩
    intro i d written found
    rcases found_requested found with old | new
    · exact start.left i d written old
    · simp [new]
  | opens i =>
    simp only [step] at h
    split at h <;> cases h
    next base json suffix at_ =>
      unfold tryOpen
      split
      next => exact start.setPhase at_ (by intro written; split <;> simp)
      next absent =>
        have differ := start.ne_of_notMem absent
        refine (start.setPhase at_ ?_).insert differ []
        rintro written ⟨⟩
        exact differ rfl
  | openFails i =>
    simp only [step] at h
    split at h <;> cases h
    next base json suffix at_ => exact start.setPhase at_ nofun
  | writes i count =>
    simp only [step] at h
    split at h
    next base json other written at_ =>
      split at h <;> cases h
      have differ : path ≠ other := by
        rintro rfl
        exact start.left i _ written at_ rfl
      refine (start.setPhase at_ ?_).insert differ _
      intro n
      split
      · nofun
      · rintro ⟨⟩
        exact differ rfl
    next => cases h
  | writeFails i =>
    simp only [step] at h
    split at h <;> cases h
    next base json other written at_ => exact start.setPhase at_ nofun
  | other path' content' =>
    simp only [step] at h
    split at h <;> cases h
    next absent => exact start.insert (start.ne_of_notMem absent) content'

end Step

/-! ## Runs -/

section Runs

variable (toVecPretty : Envelope V → Option (List UInt8)) {s t u : DumpDir}

/-- What a dump is to write, and under which name. -/
def requests (s : DumpDir) : List (String × List UInt8) := s.dumps.map fun d => (d.base, d.json)

/-- What an action asks to be dumped. -/
def requested : DumpAction V → List (String × List UInt8)
  | .handled call => (call.dump toVecPretty).toList.map fun d => (d.base, d.json)
  | .opens _ | .openFails _ | .writes .. | .writeFails _ | .other .. => []

variable {toVecPretty}

theorem requests_setPhase (s : DumpDir) (i : Nat) (phase : DumpPhase) :
    (s.setPhase i phase).requests = s.requests := by
  refine List.ext_getElem? ?_
  intro j
  simp only [requests, List.getElem?_map, getElem?_setPhase]
  split
  · cases s.dumps[j]? <;> rfl
  · rfl

theorem requests_step {a : DumpAction V} (h : s.step toVecPretty a = some t) :
    t.requests = s.requests ++ requested toVecPretty a := by
  cases a with
  | handled call =>
    cases h
    simp [requests, requested]
  | opens i =>
    simp only [step] at h
    split at h <;> cases h
    unfold tryOpen
    split <;> simp only [requested, List.append_nil]
    all_goals exact requests_setPhase s i _
  | openFails i | writeFails i =>
    simp only [step] at h
    split at h <;> cases h
    simp only [requested, List.append_nil]
    exact requests_setPhase s i _
  | writes i count =>
    simp only [step] at h
    split at h
    · split at h <;> cases h
      simp only [requested, List.append_nil]
      exact requests_setPhase s i _
    · cases h
  | other path content =>
    simp only [step] at h
    split at h <;> cases h
    simp [requested, requests]

theorem requests_run {actions : List (DumpAction V)}
    (run : Runs.exec (step toVecPretty) s actions = some t) :
    t.requests = s.requests ++ actions.flatMap (requested toVecPretty) := by
  induction actions generalizing s with
  | nil =>
    cases run
    simp
  | cons a rest ih =>
    obtain ⟨next, h, run⟩ := Runs.exec_cons_eq_some.1 run
    rw [ih run, requests_step h, List.flatMap_cons, List.append_assoc]

theorem dumpPath_injective (base : String) : Function.Injective (dumpPath base) := by
  intro i j same
  have texts := congrArg String.toList same
  unfold dumpPath at texts
  split at texts <;> split at texts
  · omega
  · simp at texts
  · simp at texts
  · have digits : (toString i).toList = (toString j).toList := by simpa using texts
    exact Nat.repr_injective (String.toList_inj.1 digits)

/-- A dump is given up for want of a name only among more than a thousand files. -/
theorem Kept.crowded (kept : s.Kept) {i : Nat} {d : Dump} (at_ : s.dumps[i]? = some d)
    (gaveUp : d.phase = .gaveUp) : 1001 ≤ s.files.keys.length := by
  have taken : (List.range 1001).map (dumpPath d.base) ⊆ s.files.keys := by
    intro path mem
    obtain ⟨j, lt, rfl⟩ := List.mem_map.1 mem
    refine AList.mem_keys.1 (kept.tried i d at_ j ?_)
    rw [gaveUp]
    exact List.mem_range.1 lt
  have distinct : ((List.range 1001).map (dumpPath d.base)).Nodup :=
    List.nodup_range.map (dumpPath_injective d.base)
  simpa using (List.subperm_of_subset distinct taken).length_le

/-- For every order of the steps of any number of dumps into a directory that others add to as well:
the dumps are those of the decoded attempts, in their order; what was in the directory is still
there; each dump that was opened has a file of its own with as much of its envelope as it has
written, and once it is closed the file never changes again; and a dump is given up only when the
directory has more than a thousand files. -/
theorem dumps_kept {before after : List (DumpAction V)} (start : s.dumps = [])
    (run : Runs.exec (step toVecPretty) s before = some t)
    (later : Runs.exec (step toVecPretty) t after = some u) :
    t.requests = before.flatMap (requested toVecPretty) ∧
      (∀ path content, s.files.lookup path = some content →
        t.files.lookup path = some content) ∧
      (∀ d ∈ t.dumps, ∀ path written, d.phase.file = some (path, written) →
        t.files.lookup path = some (d.json.take written) ∧
          (d.phase = .closed path written →
            u.files.lookup path = some (d.json.take written))) ∧
      (∀ (i j : Nat) (d e : Dump) (path : String) (n m : Nat), t.dumps[i]? = some d →
        t.dumps[j]? = some e → d.phase.file = some (path, n) → e.phase.file = some (path, m) →
          i = j) ∧
      ∀ d ∈ t.dumps, d.phase = .gaveUp → 1001 ≤ t.files.keys.length := by
  have kept : t.Kept := by
    refine Runs.invariant (fun _ _ _ => kept_step) ?_ run
    constructor <;> simp [start]
  refine ⟨?_, ?_, ?_, kept.apart, ?_⟩
  · simpa [requests, start] using requests_run run
  · intro path content found
    have settled : s.Settled path content := ⟨found, by simp [start]⟩
    exact (Runs.invariant (fun _ _ _ => settled_step) settled run).found
  · intro d mem path written file
    obtain ⟨i, at_⟩ := List.mem_iff_getElem?.1 mem
    refine ⟨kept.contents i d path written at_ file, ?_⟩
    intro closed
    exact (Runs.invariant (fun _ _ _ => settled_step) (kept.settled at_ closed) later).found
  · intro d mem gaveUp
    obtain ⟨i, at_⟩ := List.mem_iff_getElem?.1 mem
    exact kept.crowded at_ gaveUp

/-- Two dumps of one name: the second finds it taken and gets the next. -/
theorem dumps_kept_two :
    let call : DumpCall Unit := ⟨1, "/api/v0.2/traces", [], ⟨.accepted, some ()⟩, 7, 9⟩
    let toVecPretty (_ : Envelope Unit) : Option (List UInt8) := some [48]
    ∃ t u, Runs.exec (step toVecPretty) {} [.handled call, .handled call, .opens 0, .opens 1,
        .writes 0 2] = some t ∧
      Runs.exec (step toVecPretty) t [.opens 1, .writes 1 1] = some u ∧
      t.dumps[0]?.map (·.phase) = some (.closed (dumpPath call.base 0) 2) ∧
      u.files.lookup (dumpPath call.base 0) = some [48, 10] := by
  intro call toVecPretty
  have differ : dumpPath call.base 1 ≠ dumpPath call.base 0 := by
    simp [(dumpPath_injective call.base).eq_iff]
  have taken (v : List UInt8) : dumpPath call.base 0 ∈
      (AList.singleton (dumpPath call.base 0) v : AList fun _ : String => List UInt8) :=
    AList.mem_keys.2 (List.mem_singleton_self _)
  have free (v : List UInt8) : dumpPath call.base 1 ∉
      (AList.singleton (dumpPath call.base 0) v : AList fun _ : String => List UInt8) :=
    fun mem => differ (List.mem_singleton.1 (AList.mem_keys.1 mem))
  have found (v : List UInt8) : AList.lookup (dumpPath call.base 0)
      (AList.singleton (dumpPath call.base 0) v : AList fun _ : String => List UInt8) = some v :=
    List.dlookup_cons_eq _ _ _
  have newline : '\n'.toUInt8 = 10 := rfl
  let first : Dump := ⟨call.base, [48, 10], .closed (dumpPath call.base 0) 2⟩
  let t : DumpDir := {
    files := (AList.insert (dumpPath call.base 0) [] ∅).insert (dumpPath call.base 0) [48, 10]
    dumps := [first, ⟨call.base, [48, 10], .opening 1⟩] }
  let u : DumpDir := {
    files := (t.files.insert (dumpPath call.base 1) []).insert (dumpPath call.base 1) [48]
    dumps := [first, ⟨call.base, [48, 10], .writing (dumpPath call.base 1) 1⟩] }
  have run : Runs.exec (step toVecPretty) {} [.handled call, .handled call, .opens 0, .opens 1,
      .writes 0 2] = some t := by
    simp [Runs.exec, step, DumpCall.dump, tryOpen, append, setPhase, toVecPretty, call, t, first,
      taken, found, newline]
  have later : Runs.exec (step toVecPretty) t [.opens 1, .writes 1 1] = some u := by
    simp [Runs.exec, step, tryOpen, append, setPhase, t, u, free]
  refine ⟨t, u, run, later, rfl, ?_⟩
  exact ((dumps_kept rfl run later).2.2.1 first (by simp [t]) _ 2 rfl).2 rfl

end Runs

end DumpDir

end ServerlessComponents.MockIntake
