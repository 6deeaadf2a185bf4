import ServerlessComponents.AgentConfig.Deserializers
import ServerlessComponents.TraceAgent.Tags

/-!
# The two readers of `DD_TAGS`

`Tags::from_env_string` of the trace agent and `deserialize_key_value_pairs` of the agent
configuration read one variable. Both insert what their tokens say one after another. The
configuration cuts at commas and blanks only, and a value may have colons; the trace agent cuts at
all white space, and a token has exactly one colon.

## Main results

* `tags_eq_of_readAlike` — the same map, where every token is read alike.
* `readAlike_of_lookup_eq` — for one token this is also necessary.
-/
namespace ServerlessComponents.TraceAgent.Config.Tags

open AgentConfig (HashMap isWhitespace split deserializeKeyValuePairs parseKeyValuePairs
  parseKeyValueTag insertTag splitOnce)
open Tokens (tokens)

/-! ## The reader of the configuration -/

def isListSeparator (c : Char) : Bool := c = ',' || c = ' '

/-- The tokens of the configuration. -/
def listWords (value : String) : List String :=
  (tokens isListSeparator value.toList).map String.ofList

theorem splitOnce_append {c : Char} {before after : List Char} (clean : c ∉ before) :
    splitOnce c (String.ofList (before ++ c :: after)) =
      (String.ofList before, some (String.ofList after)) := by
  have all : ∀ d ∈ before, decide (d ≠ c) = true := by
    intro d mem
    have other : d ≠ c := fun same => clean (same ▸ mem)
    exact decide_eq_true other
  have cut : (before ++ c :: after).span (· ≠ c) = (before, c :: after) := by
    rw [List.span_eq_takeWhile_dropWhile, List.takeWhile_append_of_pos all,
      List.dropWhile_append_of_pos all]
    simp
  rw [splitOnce, String.toList_ofList, cut]

theorem splitOnce_of_not_mem {c : Char} {s : String} (none : c ∉ s.toList) :
    splitOnce c s = (s, Option.none) := by
  have all : ∀ d ∈ s.toList, decide (d ≠ c) = true := by
    intro d mem
    have other : d ≠ c := fun same => none (same ▸ mem)
    exact decide_eq_true other
  have cut : s.toList.span (· ≠ c) = (s.toList, []) := by
    rw [List.span_eq_takeWhile_dropWhile, List.takeWhile_eq_self_iff.2 all,
      List.dropWhile_eq_nil_iff.2 all]
  rw [splitOnce, cut]
  exact congrArg (·, Option.none) String.ofList_toList

theorem parseKeyValueTag_eq_some_iff {tag key value : String} :
    parseKeyValueTag tag = some (key, value) ↔
      tag = format (key, value) ∧ ':' ∉ key.toList ∧ key ≠ "" ∧ value ≠ "" := by
  constructor
  · intro parsed
    by_cases colon : ':' ∈ tag.toList
    · obtain ⟨before, after, chars, clean⟩ := List.eq_append_cons_of_mem colon
      obtain rfl : tag = String.ofList (before ++ ':' :: after) :=
        String.toList_inj.1 (by rw [chars, String.toList_ofList])
      rw [parseKeyValueTag, splitOnce_append clean] at parsed
      split at parsed
      · rename_i key' value' parts
        split at parsed
        · rename_i nonempty
          cases parsed
          cases parts
          refine ⟨String.toList_inj.1 (by simp [format]), by simpa using clean, ?_, ?_⟩
          · simpa using (Bool.and_eq_true_iff.1 nonempty).1
          · simpa using (Bool.and_eq_true_iff.1 nonempty).2
        · cases parsed
      · cases parsed
    · rw [parseKeyValueTag, splitOnce_of_not_mem colon] at parsed
      cases parsed
  · rintro ⟨rfl, clean, key_ne, value_ne⟩
    have chars : format (key, value) = String.ofList (key.toList ++ ':' :: value.toList) :=
      String.toList_inj.1 (by simp [format])
    rw [parseKeyValueTag, chars, splitOnce_append clean, String.ofList_toList,
      String.ofList_toList]
    simp [key_ne, value_ne]

theorem parseKeyValuePairs_eq (value : String) :
    parseKeyValuePairs value = AList.ofPairs ((listWords value).filterMap parseKeyValueTag) := by
  have words_eq : (split (fun c => c = ',' || c = ' ') value).filter (! ·.isEmpty) =
      listWords value := by
    rw [split, List.filter_map, listWords, tokens]
    congr 2
    funext piece
    cases piece with
    | nil => rfl
    | cons c rest => simp
  rw [parseKeyValuePairs, words_eq]
  refine AList.foldl_eq_ofPairs (fun map tag pair parsed => ?_) (fun map tag parsed => ?_) _
  · rw [insertTag, parsed]
  · rw [insertTag, parsed]

/-- The trace agent cuts the tokens of the configuration further. -/
theorem words_eq_flatMap (ddTags : String) : words ddTags = (listWords ddTags).flatMap words := by
  have more : ∀ c, isListSeparator c → isSeparator c := by
    intro c sep
    rw [isListSeparator, Bool.or_eq_true, decide_eq_true_iff, decide_eq_true_iff] at sep
    rcases sep with rfl | rfl <;> decide
  rw [words, Tokens.tokens_flatMap more, List.map_flatMap, listWords, List.flatMap_map]
  exact List.flatMap_congr fun piece _ => by rw [words, String.toList_ofList]

/-! ## Tokens that are read alike -/

/-- A token of the configuration without a colon, or with one colon between two texts, or of which
neither reader takes anything. -/
inductive ReadAlike (word : String) : Prop where
  | noColon (none : ':' ∉ word.toList)
  | tag (key value : String) (shape : word = format (key, value)) (key_ne : key ≠ "")
      (value_ne : value ≠ "") (plain : Plain (key, value))
  | malformed (first : word.toList.head? = some ':')
      (others : ∀ token ∈ words word, token.toList.count ':' ≠ 1)

/-- A token of the trace agent is a tag when it has exactly one colon. -/
theorem parseTag_eq_none_iff {kv : String} : parseTag kv = none ↔ kv.toList.count ':' ≠ 1 := by
  constructor
  · intro none one
    obtain ⟨before, after, chars, clean⟩ :=
      List.eq_append_cons_of_mem (List.count_pos_iff.1 (by omega : 0 < kv.toList.count ':'))
    have later : ':' ∉ after := by
      rw [chars, List.count_append, List.count_cons_self, List.count_eq_zero.2 clean] at one
      exact List.count_eq_zero.1 (by omega)
    have parsed : parseTag kv = some (String.ofList before, String.ofList after) := by
      refine parseTag_eq_some_iff.2 ⟨String.toList_inj.1 ?_, by simpa using clean,
        by simpa using later⟩
      simp [format, chars]
    rw [parsed] at none
    cases none
  · intro other
    cases parsed : parseTag kv with
    | none => rfl
    | some tag =>
      obtain ⟨shape, key_clean, value_clean⟩ := parseTag_eq_some_iff.1 parsed
      refine absurd ?_ other
      rw [shape]
      simp [format, List.count_eq_zero.2 key_clean, List.count_eq_zero.2 value_clean]

/-- Both readers take the same from it. -/
theorem ReadAlike.parsed_eq {word : String} (alike : ReadAlike word) :
    (words word).filterMap parseTag = (parseKeyValueTag word).toList := by
  cases alike with
  | noColon none =>
    have dropped : parseKeyValueTag word = Option.none := by
      cases parsed : parseKeyValueTag word with
      | none => rfl
      | some tag =>
        obtain ⟨shape, -⟩ := parseKeyValueTag_eq_some_iff.1 parsed
        exact absurd (by simp [shape, format]) none
    rw [dropped, Option.toList_none, List.filterMap_eq_nil_iff]
    intro token mem
    obtain ⟨piece, cut, rfl⟩ := List.mem_map.1 mem
    refine parseTag_eq_none_iff.2 ?_
    have clean : ':' ∉ piece := fun colon => none ((Tokens.sublist_of_mem_tokens cut).mem colon)
    rw [String.toList_ofList, List.count_eq_zero.2 clean]
    exact Nat.zero_ne_one
  | tag key value shape key_ne value_ne plain =>
    subst shape
    rw [words, plain.isToken.tokens_eq, List.map_singleton, String.ofList_toList,
      List.filterMap_cons_some plain.parseTag_format, List.filterMap_nil,
      parseKeyValueTag_eq_some_iff.2 ⟨rfl, plain.key_colon, key_ne, value_ne⟩, Option.toList_some]
  | malformed first others =>
    have dropped : parseKeyValueTag word = Option.none := by
      cases parsed : parseKeyValueTag word with
      | none => rfl
      | some tag =>
        obtain ⟨shape, clean, key_ne, -⟩ := parseKeyValueTag_eq_some_iff.1 parsed
        -- the first colon would end an empty key
        cases key : tag.1.toList with
        | nil => exact absurd (String.toList_inj.1 key) key_ne
        | cons c rest =>
          rw [key, List.mem_cons, not_or] at clean
          have head : c = ':' := by simpa [shape, format, key] using first
          exact absurd head.symm clean.1
    rw [dropped, Option.toList_none, List.filterMap_eq_nil_iff]
    exact fun token mem => parseTag_eq_none_iff.2 (others token mem)

/-- Where every token is read alike, both readers make the same map. -/
theorem tags_eq_of_readAlike {ddTags : String} (alike : ∀ word ∈ listWords ddTags, ReadAlike word) :
    (fromEnvString ddTags).tags = parseKeyValuePairs ddTags := by
  rw [tags_fromEnvString, parseKeyValuePairs_eq, words_eq_flatMap, List.filterMap_flatMap,
    List.filterMap_eq_flatMap_toList]
  exact congrArg AList.ofPairs (List.flatMap_congr fun word mem => (alike word mem).parsed_eq)

/-- A token with a colon that the configuration drops has nothing before its first colon, or
nothing after its only one. -/
theorem colon_of_parseKeyValueTag_eq_none {word : String} (parsed : parseKeyValueTag word = none)
    (colon : ':' ∈ word.toList) :
    word.toList.head? = some ':' ∨ word.toList.count ':' = 1 := by
  obtain ⟨before, after, chars, clean⟩ := List.eq_append_cons_of_mem colon
  cases before with
  | nil => exact .inl (by simp [chars])
  | cons c rest =>
    refine .inr ?_
    have last : after = [] := by
      by_contra nonempty
      have tag : parseKeyValueTag word =
          some (String.ofList (c :: rest), String.ofList after) := by
        refine parseKeyValueTag_eq_some_iff.2 ⟨String.toList_inj.1 ?_, by simpa using clean,
          by simp, by simpa using nonempty⟩
        simp [format, chars]
      rw [tag] at parsed
      cases parsed
    rw [chars, last, List.count_append, List.count_eq_zero.2 clean]
    rfl

/-- Where the trace agent takes no tag from a token, no part of it has exactly one colon. -/
theorem count_ne_one_of_lookup_eq_none {word : String}
    (nothing : ∀ key, (AList.ofPairs ((words word).filterMap parseTag)).lookup key = none) :
    ∀ token ∈ words word, token.toList.count ':' ≠ 1 := by
  intro token mem
  refine parseTag_eq_none_iff.1 ?_
  cases read : parseTag token with
  | none => rfl
  | some tag =>
    have absent := nothing tag.1
    rw [AList.lookup_ofPairs] at absent
    have present : tag ∈ ((words word).filterMap parseTag).reverse :=
      List.mem_reverse.2 (List.mem_filterMap.2 ⟨token, mem, read⟩)
    simpa using List.lookup_eq_none_iff.1 absent tag present

/-- A token that is not read alike makes a difference, if it is the only one. -/
theorem readAlike_of_lookup_eq {word : String}
    (same : ∀ key, (AList.ofPairs ((words word).filterMap parseTag)).lookup key =
      (AList.ofPairs (parseKeyValueTag word).toList).lookup key) : ReadAlike word := by
  cases parsed : parseKeyValueTag word with
  | some tag =>
    obtain ⟨shape, -, key_ne, value_ne⟩ := parseKeyValueTag_eq_some_iff.1 parsed
    have found := same tag.1
    rw [parsed, Option.toList_some, AList.lookup_ofPairs, AList.lookup_ofPairs,
      List.reverse_singleton, List.lookup_cons_self] at found
    obtain ⟨before, after, split, -⟩ := List.lookup_eq_some_iff.1 found
    have mem : tag ∈ (words word).filterMap parseTag := by
      rw [← List.mem_reverse, split]
      simp
    exact .tag tag.1 tag.2 shape key_ne value_ne (plain_of_mem_words mem)
  | none =>
    have dropped := count_ne_one_of_lookup_eq_none fun key => by
      rw [same key, parsed, AList.lookup_ofPairs]
      rfl
    by_cases colon : ':' ∈ word.toList
    · rcases colon_of_parseKeyValueTag_eq_none parsed colon with first | once
      · exact .malformed first dropped
      · -- the part with this colon has no other one
        obtain ⟨piece, cut, inside⟩ := Tokens.exists_mem_tokens (p := isSeparator) colon (by decide)
        have few := (Tokens.sublist_of_mem_tokens cut).count_le ':'
        have some_ := List.count_pos_iff.2 inside
        refine absurd ?_ (dropped (String.ofList piece) (List.mem_map_of_mem cut))
        rw [String.toList_ofList]
        omega
    · exact .noColon colon

/-! ## Both readers -/

theorem tag_readers_agree (ddTags : String) :
    deserializeKeyValuePairs (.string ddTags) = .ok (parseKeyValuePairs ddTags) ∧
      (∀ key, (fromEnvString ddTags).tags.lookup key =
        ((words ddTags).filterMap parseTag).reverse.lookup key) ∧
      (∀ key, (parseKeyValuePairs ddTags).lookup key =
        ((listWords ddTags).filterMap parseKeyValueTag).reverse.lookup key) ∧
      ((∀ word ∈ listWords ddTags, ReadAlike word) →
        ∀ key, (fromEnvString ddTags).tags.lookup key = (parseKeyValuePairs ddTags).lookup key) ∧
      ∀ word, listWords ddTags = [word] →
        (∀ key, (fromEnvString ddTags).tags.lookup key =
          (parseKeyValuePairs ddTags).lookup key) → ReadAlike word := by
  refine ⟨rfl, fun key => ?_, fun key => ?_, fun alike key => ?_, fun word single same => ?_⟩
  · rw [tags_fromEnvString, AList.lookup_ofPairs]
  · rw [parseKeyValuePairs_eq, AList.lookup_ofPairs]
  · rw [tags_eq_of_readAlike alike]
  · refine readAlike_of_lookup_eq fun key => ?_
    have found := same key
    rw [tags_fromEnvString, parseKeyValuePairs_eq, words_eq_flatMap, single,
      List.flatMap_singleton] at found
    rw [found]
    cases parsed : parseKeyValueTag word with
    | none => rw [List.filterMap_cons_none parsed, List.filterMap_nil, Option.toList_none]
    | some tag => rw [List.filterMap_cons_some parsed, List.filterMap_nil, Option.toList_some]

/-- A tag whose value has a colon is kept by the configuration only. -/
theorem tag_readers_disagree :
    ¬ ∀ (ddTags : String) (tags : HashMap String),
      deserializeKeyValuePairs (.string ddTags) = .ok tags →
        ∀ key, (fromEnvString ddTags).tags.lookup key = tags.lookup key := by
  intro agree
  have found := agree "url:http://x" _ rfl "url"
  revert found
  decide +kernel

end ServerlessComponents.TraceAgent.Config.Tags
