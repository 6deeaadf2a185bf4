import Mathlib.Data.List.Sort
import Mathlib.Data.Prod.Lex
import Mathlib.Data.String.Basic
import Mathlib.Data.UInt
import ServerlessComponents.Library.Grouping
import ServerlessComponents.Library.SelfDelimiting
import ServerlessComponents.MockIntake.Intake

/-!
# Request summaries

With `request_summaries` the intake prints one line for each handled request. The line of a stats
payload lists the hits of every aggregation key, summed over the clients and the time buckets, in
the order of the keys. Texts are escaped, so that the line can be read back: two payloads get the
same line exactly if their hits are the same under every key.

The names of the trileans are another package's; they are a parameter.

## Main results

* `StatsGroupKey.render_tells` — a rendered key tells the key.
* `logSummary_stats_iff` — what the line says about the payload.
-/
namespace ServerlessComponents.MockIntake

/-! ## Payloads -/

/-- What the key and the hits of an entry are made of. -/
structure ClientGroupedStats where
  service : String
  name : String
  resource : String
  type : String
  dbType : String
  httpStatusCode : Nat
  grpcStatusCode : String
  httpMethod : String
  httpEndpoint : String
  spanKind : String
  synthetics : Bool
  isTraceRoot : Int
  serviceSource : String
  peerTags : List String
  spanDerivedPrimaryTags : List String
  additionalMetricTags : List String
  hits : UInt64

structure ClientStatsBucket where
  stats : List ClientGroupedStats

structure ClientStatsPayload where
  service : String
  env : String
  version : String
  hostname : String
  containerId : String
  tags : List String
  gitCommitSha : String
  imageTag : String
  processTags : String
  processTagsHash : Nat
  agentAggregation : String
  stats : List ClientStatsBucket

structure StatsPayload where
  stats : List ClientStatsPayload

/-! ## Keys -/

/-- All dimensions of an entry, with sorted tags. -/
structure StatsGroupKey where
  clientService : String
  clientEnv : String
  clientVersion : String
  clientHostname : String
  clientContainerId : String
  clientTags : List String
  clientGitCommitSha : String
  clientImageTag : String
  clientProcessTags : String
  clientProcessTagsHash : Nat
  clientAgentAggregation : String
  statsService : String
  statsName : String
  statsResource : String
  statsType : String
  statsDbType : String
  statsHttpStatusCode : Nat
  statsGrpcStatusCode : String
  statsHttpMethod : String
  statsHttpEndpoint : String
  statsSpanKind : String
  statsSynthetics : Bool
  statsIsTraceRoot : Int
  statsServiceSource : String
  statsPeerTags : List String
  statsSpanDerivedPrimaryTags : List String
  statsAdditionalMetricTags : List String

def sorted (tags : List String) : List String := tags.mergeSort fun a b => a ≤ b

theorem sorted_eq_iff {tags tags' : List String} :
    sorted tags = sorted tags' ↔ tags.Perm tags' := by
  have perm (tags : List String) : (sorted tags).Perm tags := List.mergeSort_perm ..
  constructor
  · intro same
    exact (perm tags).symm.trans (same ▸ perm tags')
  · intro shuffled
    have all : (sorted tags).Perm (sorted tags') :=
      (perm tags).trans (shuffled.trans (perm tags').symm)
    exact all.eq_of_sortedLE List.sortedLE_mergeSort List.sortedLE_mergeSort

/-- The value of a field, by the way it is compared and rendered. -/
inductive Field where
  | text (value : String)
  | tags (values : List String)
  | number (value : Nat)
  | flag (value : Bool)
  | trilean (value : Int)

namespace Field

def kind : Field → Nat
  | text _ => 0
  | tags _ => 1
  | number _ => 2
  | flag _ => 3
  | trilean _ => 4

/-- Fields of one kind compare by their values. -/
def sortKey : Field → ℕ ×ₗ String ×ₗ List String ×ₗ ℤ
  | text value => toLex (0, toLex (value, toLex ([], 0)))
  | tags values => toLex (1, toLex ("", toLex (values, 0)))
  | number value => toLex (2, toLex ("", toLex ([], value)))
  | flag value => toLex (3, toLex ("", toLex ([], value.toNat)))
  | trilean value => toLex (4, toLex ("", toLex ([], value)))

theorem sortKey_injective : Function.Injective sortKey := by
  intro f g same
  cases f <;> cases g <;> simp_all [sortKey]
  next a b => cases a <;> cases b <;> simp_all

instance : LinearOrder Field := LinearOrder.lift' sortKey sortKey_injective

end Field

namespace StatsGroupKey

def new (client : ClientStatsPayload) (grouped : ClientGroupedStats) : StatsGroupKey where
  clientService := client.service
  clientEnv := client.env
  clientVersion := client.version
  clientHostname := client.hostname
  clientContainerId := client.containerId
  clientTags := sorted client.tags
  clientGitCommitSha := client.gitCommitSha
  clientImageTag := client.imageTag
  clientProcessTags := client.processTags
  clientProcessTagsHash := client.processTagsHash
  clientAgentAggregation := client.agentAggregation
  statsService := grouped.service
  statsName := grouped.name
  statsResource := grouped.resource
  statsType := grouped.type
  statsDbType := grouped.dbType
  statsHttpStatusCode := grouped.httpStatusCode
  statsGrpcStatusCode := grouped.grpcStatusCode
  statsHttpMethod := grouped.httpMethod
  statsHttpEndpoint := grouped.httpEndpoint
  statsSpanKind := grouped.spanKind
  statsSynthetics := grouped.synthetics
  statsIsTraceRoot := grouped.isTraceRoot
  statsServiceSource := grouped.serviceSource
  statsPeerTags := sorted grouped.peerTags
  statsSpanDerivedPrimaryTags := sorted grouped.spanDerivedPrimaryTags
  statsAdditionalMetricTags := sorted grouped.additionalMetricTags

/-- Two entries agree but for their hits and the order of their tags. -/
def SameEntry (client client' : ClientStatsPayload) (grouped grouped' : ClientGroupedStats) :
    Prop :=
  (client.tags.Perm client'.tags ∧ grouped.peerTags.Perm grouped'.peerTags ∧
    grouped.spanDerivedPrimaryTags.Perm grouped'.spanDerivedPrimaryTags ∧
    grouped.additionalMetricTags.Perm grouped'.additionalMetricTags) ∧
  { client with tags := [], stats := [] } = { client' with tags := [], stats := [] } ∧
  { grouped with
    peerTags := [], spanDerivedPrimaryTags := [], additionalMetricTags := [], hits := 0 } =
  { grouped' with
    peerTags := [], spanDerivedPrimaryTags := [], additionalMetricTags := [], hits := 0 }

theorem new_eq_new_iff {client client' : ClientStatsPayload}
    {grouped grouped' : ClientGroupedStats} :
    new client grouped = new client' grouped' ↔ SameEntry client client' grouped grouped' := by
  unfold SameEntry
  simp only [new, StatsGroupKey.mk.injEq, sorted_eq_iff, ClientStatsPayload.mk.injEq,
    ClientGroupedStats.mk.injEq, and_true]
  tauto

/-- The fields but the last, with the names they are rendered under. -/
def leading (key : StatsGroupKey) : List (String × Field) :=
  [("client.service", .text key.clientService),
    ("client.env", .text key.clientEnv),
    ("client.version", .text key.clientVersion),
    ("client.hostname", .text key.clientHostname),
    ("client.container_id", .text key.clientContainerId),
    ("client.tags", .tags key.clientTags),
    ("client.git_commit_sha", .text key.clientGitCommitSha),
    ("client.image_tag", .text key.clientImageTag),
    ("client.process_tags", .text key.clientProcessTags),
    ("client.process_tags_hash", .number key.clientProcessTagsHash),
    ("client.agent_aggregation", .text key.clientAgentAggregation),
    ("stats.service", .text key.statsService),
    ("stats.name", .text key.statsName),
    ("stats.resource", .text key.statsResource),
    ("stats.type", .text key.statsType),
    ("stats.db_type", .text key.statsDbType),
    ("stats.http_status_code", .number key.statsHttpStatusCode),
    ("stats.grpc_status_code", .text key.statsGrpcStatusCode),
    ("stats.http_method", .text key.statsHttpMethod),
    ("stats.http_endpoint", .text key.statsHttpEndpoint),
    ("stats.span_kind", .text key.statsSpanKind),
    ("stats.synthetics", .flag key.statsSynthetics),
    ("stats.is_trace_root", .trilean key.statsIsTraceRoot),
    ("stats.service_source", .text key.statsServiceSource),
    ("stats.peer_tags", .tags key.statsPeerTags),
    ("stats.span_derived_primary_tags", .tags key.statsSpanDerivedPrimaryTags)]

def fields (key : StatsGroupKey) : List (String × Field) :=
  key.leading ++ [("stats.additional_metric_tags", .tags key.statsAdditionalMetricTags)]

theorem eq_of_fields {key key' : StatsGroupKey} (same : key.leading = key'.leading)
    (last : key.statsAdditionalMetricTags = key'.statsAdditionalMetricTags) : key = key' := by
  cases key
  cases key'
  simp_all [leading]

/-- Keys are compared field by field. -/
def sortKey (key : StatsGroupKey) : List Field := key.fields.map Prod.snd

theorem sortKey_injective : Function.Injective sortKey := by
  intro key key' same
  cases key
  cases key'
  simp_all [sortKey, fields, leading]

instance : LinearOrder StatsGroupKey := LinearOrder.lift' sortKey sortKey_injective

end StatsGroupKey

/-! ## Rendering -/

/-- The names of the trileans, by their number; they are words, and each is the name of one. -/
structure TrileanNames where
  asStrName : Int → Option String
  inj : ∀ {v w name}, asStrName v = some name → asStrName w = some name → v = w
  word : ∀ {v name}, asStrName v = some name → ∀ w : Int, name ≠ toString w

/-- A number has digits and a sign. -/
theorem all_toString_int (w : Int) :
    (toString w).toList.all (fun c => c.isDigit || c = '-') = true := by
  have digits (n : Nat) : n.repr.toList.all (fun c => c.isDigit || c = '-') = true := by
    rw [Nat.toList_repr, List.all_eq_true]
    intro c mem
    simp [Nat.isDigit_of_mem_toDigits (by omega) (by omega) mem]
  rw [Int.toString_eq_repr, Int.repr_eq_if]
  split
  · exact digits _
  · rw [String.toList_append, List.all_append, digits]
    rfl

/-- The three trileans of the stats protocol. -/
def protobufTrileans : TrileanNames where
  asStrName
    | 0 => some "NOT_SET"
    | 1 => some "TRUE"
    | 2 => some "FALSE"
    | _ => none
  inj {v w name} hv hw := by
    grind
  word {v name} hv w same := by
    have digits := all_toString_int w
    rw [← same] at digits
    split at hv <;> cases hv <;> exact absurd digits (by decide)

/-- `serde_json::to_string` of a string. -/
def escape (value : String) : String := String.ofList (SelfDelimiting.jsonString value.toList)

def renderTags (tags : List String) : String := "[" ++ ",".intercalate (tags.map escape) ++ "]"

section Render

variable (names : TrileanNames)

def trileanName (value : Int) : String := (names.asStrName value).getD (toString value)

def Field.render : Field → String
  | text value => escape value
  | tags values => renderTags values
  | number value => toString value
  | flag value => toString value
  | trilean value => escape (trileanName names value)

def StatsGroupKey.render (key : StatsGroupKey) : String :=
  " ".intercalate (key.fields.map fun (name, field) => name ++ "=" ++ field.render names)

theorem toList_escape (value : String) :
    (escape value).toList = SelfDelimiting.jsonString value.toList := String.toList_ofList

theorem escape_tells : SelfDelimiting fun value => (escape value).toList := by
  simp only [toList_escape]
  exact SelfDelimiting.of_jsonString.comp fun a b => String.toList_inj.1

theorem renderTags_tells : SelfDelimiting fun tags => (renderTags tags).toList := by
  have list : SelfDelimiting fun tags : List String =>
      ['['] ++ ([','].intercalate (tags.map fun tag => (escape tag).toList) ++ [']']) ++ [] := by
    refine SelfDelimiting.between (escape_tells.separated (by decide) ?_) ['['] []
    simp [toList_escape, SelfDelimiting.jsonString]
  have spelled (tags : List String) : (renderTags tags).toList =
      ['['] ++ ([','].intercalate (tags.map fun tag => (escape tag).toList) ++ [']']) ++ [] := by
    simp [renderTags, String.toList_intercalate, Function.comp_def]
  simpa only [spelled] using list

theorem toString_int_injective : Function.Injective (toString : Int → String) := by
  have digits {m n : Nat} (same : m.repr = n.repr) : m = n := by
    have lists := congrArg String.toList same
    simpa only [Nat.toList_repr, SelfDelimiting.toDigits_injective.eq_iff] using lists
  have sign {m n : Nat} : m.repr ≠ "-" ++ n.repr := by
    intro same
    have mem : '-' ∈ Nat.toDigits 10 m := by simp [← Nat.toList_repr, same]
    simpa using Nat.isDigit_of_mem_toDigits (by omega) (by omega) mem
  intro v w same
  simp only [Int.toString_eq_repr, Int.repr_eq_if] at same
  split_ifs at same with hv hw hw
  · have := digits same
    omega
  · exact absurd same sign
  · exact absurd same.symm sign
  · have := digits ((String.append_right_inj "-").1 same)
    omega

theorem trileanName_injective : Function.Injective (trileanName names) := by
  intro v w same
  unfold trileanName at same
  cases first : names.asStrName v with
  | none =>
    cases second : names.asStrName w with
    | none =>
      rw [first, second] at same
      exact toString_int_injective same
    | some name =>
      rw [first, second] at same
      exact absurd same.symm (names.word second v)
  | some name =>
    cases second : names.asStrName w with
    | none =>
      rw [first, second] at same
      exact absurd same (names.word first w)
    | some name' =>
      rw [first, second] at same
      obtain rfl : name = name' := same
      exact names.inj first second

variable {names}

/-- A field before a blank tells its value, given its kind. -/
theorem Field.tells {f g : Field} (kinds : f.kind = g.kind) {r s : List Char}
    (same : (f.render names).toList ++ ' ' :: r = (g.render names).toList ++ ' ' :: s) :
    f = g ∧ r = s := by
  cases f with
  | text value =>
    cases g with
    | text value' =>
      obtain ⟨rfl, rest⟩ := escape_tells same
      exact ⟨rfl, by simpa using rest⟩
    | _ => simp [kind] at kinds
  | tags values =>
    cases g with
    | tags values' =>
      obtain ⟨rfl, rest⟩ := renderTags_tells same
      exact ⟨rfl, by simpa using rest⟩
    | _ => simp [kind] at kinds
  | number value =>
    cases g with
    | number value' =>
      have digits : Nat.toDigits 10 value ++ [' '] ++ r = Nat.toDigits 10 value' ++ [' '] ++ s := by
        simpa [render, Nat.toString_eq_repr, Nat.toList_repr] using same
      obtain ⟨rfl, rest⟩ := SelfDelimiting.of_decimal (by decide) digits
      exact ⟨rfl, rest⟩
    | _ => simp [kind] at kinds
  | flag value =>
    cases g with
    | flag value' =>
      have yes : (toString true).toList = ['t', 'r', 'u', 'e'] := rfl
      have no : (toString false).toList = ['f', 'a', 'l', 's', 'e'] := rfl
      cases value <;> cases value' <;> simp_all [render]
    | _ => simp [kind] at kinds
  | trilean value =>
    cases g with
    | trilean value' =>
      obtain ⟨same, rest⟩ := escape_tells same
      obtain rfl := trileanName_injective names same
      exact ⟨rfl, by simpa using rest⟩
    | _ => simp [kind] at kinds

/-- A rendered field of a key, with the blank after it. -/
def piece (names : TrileanNames) (field : String × Field) : List Char :=
  field.1.toList ++ '=' :: (field.2.render names).toList ++ [' ']

/-- The pieces of two lists of fields with the same names and kinds. -/
theorem pieces_tell {fields fields' : List (String × Field)}
    (shape : fields.map (fun f => (f.1, f.2.kind)) = fields'.map fun f => (f.1, f.2.kind))
    {r s : List Char}
    (same : fields.flatMap (piece names) ++ r = fields'.flatMap (piece names) ++ s) :
    fields = fields' ∧ r = s := by
  induction fields generalizing fields' with
  | nil =>
    obtain rfl : fields' = [] := by simpa using shape.symm
    exact ⟨rfl, same⟩
  | cons f fields ih =>
    obtain ⟨name, value⟩ := f
    obtain ⟨⟨name', value'⟩, later, rfl, head, shapes⟩ := List.map_eq_cons_iff.1 shape.symm
    obtain ⟨rfl, kinds⟩ : name' = name ∧ value'.kind = value.kind := by simpa using head
    simp only [List.flatMap_cons, piece, List.append_assoc, List.append_cancel_left_eq,
      List.cons_append, List.nil_append, List.cons.injEq, true_and] at same
    obtain ⟨rfl, tail⟩ := Field.tells kinds.symm same
    obtain ⟨rfl, rest⟩ := ih shapes.symm tail
    exact ⟨rfl, rest⟩

/-- A rendered key tells the key, whatever follows it. -/
theorem StatsGroupKey.render_tells : SelfDelimiting fun key : StatsGroupKey =>
    (key.render names).toList := by
  have spelled (key : StatsGroupKey) : (key.render names).toList =
      key.leading.flatMap (piece names) ++ ("stats.additional_metric_tags=".toList ++
        (renderTags key.statsAdditionalMetricTags).toList) := by
    have blank : " ".toList = [' '] := rfl
    have pieces : key.leading.flatMap (piece names) = key.leading.flatMap fun field =>
        (field.1 ++ "=" ++ field.2.render names).toList ++ [' '] := by
      refine congrArg (key.leading.flatMap ·) (funext fun field => ?_)
      simp [piece]
    rw [render, String.toList_intercalate, fields, blank, List.map_append, List.map_append,
      List.map_map, List.map_map, List.map_singleton, SelfDelimiting.intercalate_concat,
      List.flatMap_map, pieces]
    simp [Field.render]
  have shape (key key' : StatsGroupKey) : key.leading.map (fun f => (f.1, f.2.kind)) =
      key'.leading.map fun f => (f.1, f.2.kind) := by
    simp [leading, Field.kind]
  intro key key' r s same
  simp only [spelled, List.append_assoc] at same
  obtain ⟨leading, tail⟩ := pieces_tell (shape key key') same
  obtain ⟨last, rest⟩ := renderTags_tells (List.append_cancel_left tail)
  exact ⟨eq_of_fields leading last, rest⟩

example : StatsGroupKey.render protobufTrileans
    ⟨"mock-intake-smoke", "local", "smoke", "", "", ["a:2", "z:1"], "", "", "", 0, "", "svc",
      "smoke.request", "GET /a", "web", "", 200, "", "", "", "server", false, 1, "", [], [], []⟩ =
    "client.service=\"mock-intake-smoke\" client.env=\"local\" client.version=\"smoke\" " ++
    "client.hostname=\"\" client.container_id=\"\" client.tags=[\"a:2\",\"z:1\"] " ++
    "client.git_commit_sha=\"\" client.image_tag=\"\" client.process_tags=\"\" " ++
    "client.process_tags_hash=0 client.agent_aggregation=\"\" stats.service=\"svc\" " ++
    "stats.name=\"smoke.request\" stats.resource=\"GET /a\" stats.type=\"web\" " ++
    "stats.db_type=\"\" stats.http_status_code=200 stats.grpc_status_code=\"\" " ++
    "stats.http_method=\"\" stats.http_endpoint=\"\" stats.span_kind=\"server\" " ++
    "stats.synthetics=false stats.is_trace_root=\"TRUE\" stats.service_source=\"\" " ++
    "stats.peer_tags=[] stats.span_derived_primary_tags=[] stats.additional_metric_tags=[]" := by
  decide +kernel

variable (names)

/-! ## Hits by key -/

/-- The entries of a payload with their keys, in the order of the loops. -/
def StatsPayload.groupedStats (payload : StatsPayload) : List (StatsGroupKey × UInt64) :=
  payload.stats.flatMap fun client => client.stats.flatMap fun bucket =>
    bucket.stats.map fun grouped => (.new client grouped, grouped.hits)

/-- The sums are those of `u64` in a release build; a debug build stops on an overflow. -/
def statsHitsByKey (payload : StatsPayload) : AList fun _ : StatsGroupKey => UInt64 :=
  Grouping.table Prod.fst (fun groups grouped => groups.getD 0 + grouped.2) payload.groupedStats

def StatusCode.asU16 : StatusCode → Nat
  | .accepted => 202
  | .badRequest => 400
  | .notFound => 404
  | .methodNotAllowed => 405
  | .payloadTooLarge => 413
  | .unsupportedMediaType => 415
  | .internalServerError => 500

def renderGroup (group : StatsGroupKey × UInt64) : String :=
  "hits=" ++ toString group.2.toNat ++ " " ++ group.1.render names

/-- The part of the line about the groups. -/
def renderGroups (groups : AList fun _ : StatsGroupKey => UInt64) : String :=
  " | groups=" ++ toString groups.entries.length ++ " | " ++
    "; ".intercalate (groups.inOrder.map (renderGroup names))

def logSummary (requestId : Nat) (endpoint : String) (headers : HeaderMap) (status : StatusCode)
    (payloadCount : Nat) (groups : Option (AList fun _ : StatsGroupKey => UInt64)) : String :=
  let line := s!"mock-intake: request {requestId} | POST {endpoint} | " ++
    s!"encoding={contentEncoding headers} | status={status.asU16} | payloads={payloadCount}"
  match groups with
  | none => line
  | some groups => line ++ renderGroups names groups

/-- What the entries of a payload with a key have hit, if there are any. -/
def StatsPayload.hitsOf (payload : StatsPayload) (key : StatsGroupKey) : Option UInt64 :=
  match payload.groupedStats.filter fun grouped => grouped.1 = key with
  | [] => none
  | entries => some (entries.map Prod.snd).sum

theorem lookup_statsHitsByKey (payload : StatsPayload) (key : StatsGroupKey) :
    (statsHitsByKey payload).lookup key = payload.hitsOf key := by
  have fold (entries : List (StatsGroupKey × UInt64)) (start : Option UInt64) :
      entries.foldl (fun groups grouped => some (groups.getD 0 + grouped.2)) start =
        match entries with
        | [] => start
        | entries => some (start.getD 0 + (entries.map Prod.snd).sum) := by
    induction entries generalizing start with
    | nil => rfl
    | cons entry entries ih =>
      rw [List.foldl_cons, ih]
      cases entries with
      | nil => simp
      | cons next entries => simp [UInt64.add_assoc]
  rw [statsHitsByKey, Grouping.lookup_table, Grouping.fold, Grouping.group, fold,
    StatsPayload.hitsOf]
  cases payload.groupedStats.filter fun grouped => grouped.1 = key with
  | nil => rfl
  | cons entry entries => simp

variable {names}

/-- A rendered group tells its key and its hits. -/
theorem renderGroup_tells : SelfDelimiting fun group : StatsGroupKey × UInt64 =>
    (renderGroup names group).toList := by
  have spelled (group : StatsGroupKey × UInt64) : (renderGroup names group).toList =
      "hits=".toList ++
        (Nat.toDigits 10 group.2.toNat ++ [' '] ++ (group.1.render names).toList) := by
    simp [renderGroup, Nat.toList_repr]
  rintro ⟨key, hits⟩ ⟨key', hits'⟩ r s same
  simp only [spelled, List.append_assoc, List.append_cancel_left_eq] at same
  have digits : Nat.toDigits 10 hits.toNat ++ [' '] ++ ((key.render names).toList ++ r) =
      Nat.toDigits 10 hits'.toNat ++ [' '] ++ ((key'.render names).toList ++ s) := by
    simpa using same
  obtain ⟨sameHits, tail⟩ := SelfDelimiting.of_decimal (by decide) digits
  obtain ⟨rfl, rest⟩ := StatsGroupKey.render_tells tail
  rw [UInt64.toNat.inj sameHits]
  exact ⟨rfl, rest⟩

theorem renderGroups_eq_iff {groups groups' : AList fun _ : StatsGroupKey => UInt64} :
    renderGroups names groups = renderGroups names groups' ↔ groups.inOrder = groups'.inOrder := by
  have spelled (groups : AList fun _ : StatsGroupKey => UInt64) :
      (renderGroups names groups).toList = " | groups=".toList ++
        (Nat.toDigits 10 groups.inOrder.length ++ [' '] ++ ("| ".toList ++ "; ".toList.intercalate
          (groups.inOrder.map fun group => (renderGroup names group).toList))) := by
    simp [renderGroups, AList.inOrder, String.toList_intercalate, Nat.toList_repr,
      Function.comp_def]
  rw [← String.toList_inj, spelled, spelled]
  constructor
  · intro same
    obtain ⟨-, tail⟩ := SelfDelimiting.of_decimal (by decide) (List.append_cancel_left same)
    exact renderGroup_tells.intercalate_injective (by simp [renderGroup]) _
      (List.append_cancel_left tail)
  · intro same
    rw [same]

/-- Two stats payloads get the same summary exactly if their hits are the same under every key,
however their clients, buckets, entries and tags are ordered and their hits are spread; a key with
no hits is another thing than a key without an entry. Entries have the same key exactly if they
agree but for their hits and the order of their tags. -/
theorem logSummary_stats_iff (names : TrileanNames) (requestId : Nat) (headers : HeaderMap)
    (status : StatusCode) (payloadCount : Nat) (payload payload' : StatsPayload) :
    (logSummary names requestId "/api/v0.2/stats" headers status payloadCount
        (some (statsHitsByKey payload)) =
      logSummary names requestId "/api/v0.2/stats" headers status payloadCount
        (some (statsHitsByKey payload')) ↔
      ∀ key, payload.hitsOf key = payload'.hitsOf key) ∧
    ∀ client client' grouped grouped',
      StatsGroupKey.new client grouped = .new client' grouped' ↔
        StatsGroupKey.SameEntry client client' grouped grouped' := by
  refine ⟨?_, fun _ _ _ _ => StatsGroupKey.new_eq_new_iff⟩
  simp only [← lookup_statsHitsByKey, ← AList.inOrder_eq_iff]
  unfold logSummary
  dsimp only
  rw [String.append_right_inj]
  exact renderGroups_eq_iff

end Render

end ServerlessComponents.MockIntake
