import Mathlib.Data.List.Sort
import Mathlib.Data.String.Basic
import ServerlessComponents.AgentConfig.Value
import ServerlessComponents.Library.AssocMap
import ServerlessComponents.Library.Tokens

/-!
# The tags of `DD_TAGS`

`Tags` of the trace agent's `config.rs`: the text is cut at commas and white space, and a token with
exactly one colon is a tag. `function_tags` puts the tags into one sorted list again.

## Main results

* `tags_fromEnvString` — the tags as a map of pairs, the last one under a key stays.
* `functionTags_eq_of_iterations` — the rendered text does not depend on the order of the hash map.
* `lookup_fromEnvString_functionTags` — plain tags are read back from the rendered text.
-/
namespace ServerlessComponents.TraceAgent.Config

open AgentConfig (HashMap isWhitespace split splitWhitespace)
open Tokens (tokens IsToken)

/-- Without the cell that keeps the rendered text. -/
structure Tags where
  tags : HashMap String

namespace Tags

def new : Tags := ⟨∅⟩

/-- `env_tags.replace(',', " ")` -/
def normalized (envTags : String) : String :=
  String.ofList (envTags.toList.map fun c => if c = ',' then ' ' else c)

/-- The key and the value of a tag may be empty. -/
def insertToken (tags : HashMap String) (kv : String) : HashMap String :=
  match split (· = ':') kv with
  | [key, value] => tags.insert key value
  | _ => tags

def fromEnvString (envTags : String) : Tags :=
  ⟨(splitWhitespace (normalized envTags)).foldl insertToken ∅⟩

variable (t : Tags)

/-- An order in which the hash map may give its entries. -/
def Iteration : Type := { order : List (String × String) // t.tags.Listed order }

variable {t}

def format (tag : String × String) : String := tag.1 ++ ":" ++ tag.2

def functionTags (order : t.Iteration) : Option String :=
  if t.tags.entries.isEmpty then none
  else some (",".intercalate ((order.1.map format).mergeSort fun a b => a ≤ b))

/-! ## Reading -/

def isSeparator (c : Char) : Bool := c = ',' || isWhitespace c

/-- The tokens of the text. -/
def words (envTags : String) : List String := (tokens isSeparator envTags.toList).map String.ofList

theorem splitWhitespace_eq (s : String) :
    splitWhitespace s = (tokens isWhitespace s.toList).map String.ofList := by
  rw [splitWhitespace, split, List.filter_map, tokens]
  congr 2
  funext piece
  cases piece with
  | nil => rfl
  | cons c rest => simp

/-- A comma separates as a blank does. -/
theorem splitWhitespace_normalized (envTags : String) :
    splitWhitespace (normalized envTags) = words envTags := by
  have separators : (isWhitespace ∘ fun c => if c = ',' then ' ' else c) = isSeparator := by
    funext c
    by_cases comma : c = ','
    · simp [isSeparator, comma, show isWhitespace ' ' = true by decide]
    · simp [isSeparator, comma]
  rw [splitWhitespace_eq, normalized, String.toList_ofList, Tokens.tokens_map, separators, words,
    List.map_map]
  refine List.map_congr_left fun piece mem => congrArg String.ofList ?_
  -- there is no comma left in a token
  conv_rhs => rw [← List.map_id piece]
  refine List.map_congr_left fun c hc => ?_
  have clean := (Tokens.isToken_of_mem_tokens mem).clean c hc
  rw [isSeparator, Bool.or_eq_false_iff] at clean
  exact if_neg (by simpa using clean.1)

def parseTag (kv : String) : Option (String × String) :=
  match split (· = ':') kv with
  | [key, value] => some (key, value)
  | _ => none

/-- The tags as a map of pairs, the last one under a key stays. -/
theorem tags_fromEnvString (envTags : String) :
    (fromEnvString envTags).tags = AList.ofPairs ((words envTags).filterMap parseTag) := by
  rw [fromEnvString, splitWhitespace_normalized]
  refine AList.foldl_eq_ofPairs (fun tags kv tag parsed => ?_) (fun tags kv parsed => ?_) _
  · rw [parseTag] at parsed
    rw [insertToken]
    split at parsed
    · cases parsed
      rfl
    · cases parsed
  · rw [parseTag] at parsed
    rw [insertToken]
    split at parsed
    · cases parsed
    · rfl

theorem parseTag_eq_some_iff {kv key value : String} :
    parseTag kv = some (key, value) ↔
      kv = format (key, value) ∧ ':' ∉ key.toList ∧ ':' ∉ value.toList := by
  have pieces_eq : split (· = ':') kv = (kv.toList.splitOn ':').map String.ofList := rfl
  constructor
  · intro parsed
    obtain ⟨a, b, cut, rfl, rfl⟩ : ∃ a b, kv.toList.splitOn ':' = [a, b] ∧
        String.ofList a = key ∧ String.ofList b = value := by
      rw [parseTag, pieces_eq] at parsed
      match pieces : kv.toList.splitOn ':', parsed with
      | [a, b], parsed => exact ⟨a, b, rfl, by simpa using parsed⟩
    have whole : [':'].intercalate (kv.toList.splitOn ':') = kv.toList :=
      List.intercalate_splitOn ':'
    rw [cut, List.intercalate_cons_cons, List.intercalate_singleton] at whole
    refine ⟨String.toList_inj.1 ?_, ?_, ?_⟩
    · simp [format, ← whole]
    · intro mem
      have piece : a ∈ kv.toList.splitOn ':' := by simp [cut]
      simpa using Tokens.not_sep_of_mem_splitOnP piece ':' (by simpa using mem)
    · intro mem
      have piece : b ∈ kv.toList.splitOn ':' := by simp [cut]
      simpa using Tokens.not_sep_of_mem_splitOnP piece ':' (by simpa using mem)
  · rintro ⟨rfl, key_clean, value_clean⟩
    have cut : (format (key, value)).toList.splitOn ':' = [key.toList, value.toList] := by
      have chars : (format (key, value)).toList = key.toList ++ ':' :: value.toList := by
        simp [format]
      rw [chars, List.splitOn_append_cons_self_of_not_mem key_clean,
        List.splitOn_eq_singleton value_clean]
    simp [parseTag, pieces_eq, cut]

/-! ## Rendering -/

/-- Neither the key nor the value has a separator or a colon. -/
structure Plain (tag : String × String) : Prop where
  key_clean : ∀ c ∈ tag.1.toList, isSeparator c = false
  value_clean : ∀ c ∈ tag.2.toList, isSeparator c = false
  key_colon : ':' ∉ tag.1.toList
  value_colon : ':' ∉ tag.2.toList

theorem plain_of_mem_words {envTags : String} {tag : String × String}
    (mem : tag ∈ (words envTags).filterMap parseTag) : Plain tag := by
  obtain ⟨kv, word, parsed⟩ := List.mem_filterMap.1 mem
  obtain ⟨piece, token, rfl⟩ := List.mem_map.1 word
  obtain ⟨shape, key_colon, value_colon⟩ := parseTag_eq_some_iff.1 parsed
  have clean := (Tokens.isToken_of_mem_tokens token).clean
  have chars : piece = tag.1.toList ++ ':' :: tag.2.toList := by
    simpa [format] using congrArg String.toList shape
  subst chars
  exact ⟨fun c hc => clean c (by simp [hc]), fun c hc => clean c (by simp [hc]), key_colon,
    value_colon⟩

/-- A plain tag is one token, and is read as it was written. -/
theorem Plain.isToken {tag : String × String} (plain : Plain tag) :
    IsToken isSeparator (format tag).toList where
  ne_nil := by simp [format]
  clean := by
    intro c mem
    simp only [format, String.toList_append, List.mem_append] at mem
    rcases mem with (key | colon) | value
    · exact plain.key_clean c key
    · obtain rfl : c = ':' := by simpa using colon
      decide
    · exact plain.value_clean c value

theorem Plain.parseTag_format {tag : String × String} (plain : Plain tag) :
    parseTag (format tag) = some tag :=
  parseTag_eq_some_iff.2 ⟨rfl, plain.key_colon, plain.value_colon⟩

/-- Sorting forgets the order of the hash map. -/
theorem functionTags_eq_of_iterations (order order' : t.Iteration) :
    functionTags order = functionTags order' := by
  have perm : (order.1.map format).Perm (order'.1.map format) :=
    (order.2.trans order'.2.symm).map format
  have sorted (l : List String) : (l.mergeSort fun a b => a ≤ b).Pairwise (· ≤ ·) :=
    List.pairwise_mergeSort' (· ≤ ·) l
  have same : ((order.1.map format).mergeSort fun a b => a ≤ b) =
      (order'.1.map format).mergeSort fun a b => a ≤ b := by
    refine List.Perm.eq_of_pairwise' (sorted _) (sorted _) ?_
    exact (List.mergeSort_perm _ _).trans (perm.trans (List.mergeSort_perm _ _).symm)
  rw [functionTags, functionTags, same]

/-- The rendered text has the tags as its tokens, in order. -/
theorem words_functionTags (order : t.Iteration) (plain : ∀ tag ∈ order.1, Plain tag) :
    words ((functionTags order).getD "") = (order.1.map format).mergeSort fun a b => a ≤ b := by
  have text : (functionTags order).getD "" =
      ",".intercalate ((order.1.map format).mergeSort fun a b => a ≤ b) := by
    rw [functionTags]
    split
    · rename_i empty
      have none : order.1 = [] := List.perm_nil.1 <| by
        simpa [AList.Listed, List.isEmpty_iff.1 empty] using order.2
      rw [none, List.map_nil, List.mergeSort_nil, String.intercalate_nil]
      rfl
    · rfl
  have token : ∀ piece ∈ ((order.1.map format).mergeSort fun a b => a ≤ b).map String.toList,
      IsToken isSeparator piece := by
    intro piece mem
    obtain ⟨kv, sorted, rfl⟩ := List.mem_map.1 mem
    obtain ⟨tag, listed, rfl⟩ := List.mem_map.1 (List.mem_mergeSort.1 sorted)
    exact (plain tag listed).isToken
  rw [text, words, String.toList_intercalate]
  have comma : ",".toList = [','] := rfl
  rw [comma, Tokens.tokens_intercalate (by decide) token, List.map_map]
  exact (List.map_congr_left fun s _ => String.ofList_toList).trans (List.map_id _)

/-- Plain tags are read back from the rendered text. -/
theorem lookup_fromEnvString_functionTags (order : t.Iteration)
    (plain : ∀ tag ∈ order.1, Plain tag) (key : String) :
    (fromEnvString ((functionTags order).getD "")).tags.lookup key = t.tags.lookup key := by
  rw [tags_fromEnvString, words_functionTags order plain]
  refine AList.Listed.lookup_ofPairs ?_ key
  -- the sorted tokens are parsed to the entries, in another order
  have parsed : (order.1.map format).filterMap parseTag = order.1 := by
    rw [List.filterMap_map]
    calc order.1.filterMap (parseTag ∘ format)
        = order.1.filterMap some :=
          List.filterMap_congr fun tag mem => (plain tag mem).parseTag_format
      _ = order.1 := List.filterMap_some
  have perm := (List.mergeSort_perm (order.1.map format) fun a b => a ≤ b).filterMap parseTag
  rw [parsed] at perm
  exact perm.trans order.2

/-- All tags that were read are plain. -/
theorem plain_of_iteration {envTags : String} (order : (fromEnvString envTags).Iteration) :
    ∀ tag ∈ order.1, Plain tag := by
  intro tag mem
  have found := order.2.lookup (a := tag.1) (b := tag.2) mem
  rw [tags_fromEnvString, AList.lookup_ofPairs] at found
  obtain ⟨before, after, split, -⟩ := List.lookup_eq_some_iff.1 found
  have listed : tag ∈ (words envTags).filterMap parseTag := by
    rw [← List.mem_reverse, split]
    simp
  exact plain_of_mem_words listed

theorem function_tags_round_trip (envTags : String)
    (order order' : (fromEnvString envTags).Iteration) :
    functionTags order = functionTags order' ∧
      ∀ key, (fromEnvString ((functionTags order).getD "")).tags.lookup key =
        (fromEnvString envTags).tags.lookup key :=
  ⟨functionTags_eq_of_iterations order order',
    lookup_fromEnvString_functionTags order (plain_of_iteration order)⟩

end Tags

end ServerlessComponents.TraceAgent.Config
