import SteadyStore.Proofs.Json.Paths
import SteadyStore.Proofs.Store.Memory
/-!
# What a search finds

A search in a store in memory finds the documents of one schema in which a path leads to a text, and
no others: once each and in the order of their keys (`search_follows_path`). A text nested under a path
is found on that path, under no other value and on no shorter path.
-/

namespace SteadyStore.MemoryStore

open Json (Reaches)

/-! ## Documents that match -/

theorem holdsAt_iff {path : List String} {value : String} {document : Json} :
    holdsAt path value document = true ↔ Reaches path document (.text value) := by
  rw [← Json.at?_eq_some_iff, holdsAt]
  cases document.at? path with
  | none => simp
  | some found => cases found <;> simp

section Hits
variable (s : MemoryStore) (schema : String) (path : List String) (value : String)

/-- The entries of the schema whose documents hold the text at the end of the path. -/
def hits : List (String × Json) :=
  (s.collection schema).entries.filter fun entry => holdsAt path value entry.2

theorem findAll_eq_hits : s.findAll schema path value = (s.hits schema path value).map Prod.snd := by
  rw [findAll, NameMap.values, List.filter_map]
  rfl

variable {s schema path value} in
theorem mem_hits {entry : String × Json} :
    entry ∈ s.hits schema path value ↔
      s.get? ⟨schema, entry.1⟩ = some entry.2 ∧ Reaches path entry.2 (.text value) := by
  rw [hits, List.mem_filter, holdsAt_iff, get?_eq_collection, ← NameMap.mem_entries]

/-- The documents found stand at the keys that match, in ascending order. -/
theorem exists_keys_findAll :
    ∃ keys : List String, keys.Pairwise (· < ·) ∧
      (s.findAll schema path value).map some = keys.map (fun key => s.get? ⟨schema, key⟩) ∧
      ∀ key, key ∈ keys ↔
        ∃ document, s.get? ⟨schema, key⟩ = some document ∧ Reaches path document (.text value) := by
  refine ⟨(s.hits schema path value).map Prod.fst, ?_, ?_, fun key => ?_⟩
  · exact List.pairwise_map.2 ((s.collection schema).ascending.filter _)
  · rw [findAll_eq_hits, List.map_map, List.map_map]
    exact List.map_congr_left fun entry hit => (mem_hits.1 hit).1.symm
  · rw [List.mem_map]
    constructor
    · rintro ⟨⟨_, document⟩, hit, rfl⟩
      exact ⟨document, mem_hits.1 hit⟩
    · rintro ⟨document, matching⟩
      exact ⟨(key, document), mem_hits.2 matching, rfl⟩

end Hits

/-- What is found in a schema depends on the documents of that schema only. -/
theorem findAll_congr {s other : MemoryStore} {schema : String}
    (same : ∀ key, other.get? ⟨schema, key⟩ = s.get? ⟨schema, key⟩) (path : List String)
    (value : String) : other.findAll schema path value = s.findAll schema path value := by
  have collections : other.collection schema = s.collection schema := by
    refine NameMap.ext_get? fun key => ?_
    have here := same key
    rwa [get?_eq_collection, get?_eq_collection] at here
  rw [findAll, collections, findAll]

/-! ## Searches -/

/-- The document is among those that the search finds. -/
def Finds (s : MemoryStore) (schema : String) (path : List String) (value : String)
    (document : Json) : Prop :=
  ∃ documents, (DataStore.search schema path value s).value = .ok documents ∧
    document ∈ documents

theorem value_search {path : List String} (h : path ≠ []) (schema value : String)
    (s : MemoryStore) :
    (DataStore.search schema path value s).value = .ok (s.findAll schema path value) := by
  simp [DataStore.search, search, h]

theorem state_search (schema : String) (path : List String) (value : String) (s : MemoryStore) :
    (DataStore.search schema path value s).state = s := by
  simp only [DataStore.search, search]
  split <;> rfl

theorem finds_iff {s : MemoryStore} {schema : String} {path : List String} (h : path ≠ [])
    {value : String} {document : Json} :
    s.Finds schema path value document ↔
      ∃ key, s.get? ⟨schema, key⟩ = some document ∧ Reaches path document (.text value) := by
  obtain ⟨keys, -, listed, matching⟩ := s.exists_keys_findAll schema path value
  have member : s.Finds schema path value document ↔
      some document ∈ keys.map (fun key => s.get? ⟨schema, key⟩) := by
    rw [← listed, Finds, value_search h]
    simp
  rw [member, List.mem_map]
  constructor
  · rintro ⟨key, hit, here⟩
    obtain ⟨_, found, reaches⟩ := (matching key).1 hit
    rw [here] at found
    cases found
    exact ⟨key, here, reaches⟩
  · rintro ⟨key, here, reaches⟩
    exact ⟨key, (matching key).2 ⟨document, here, reaches⟩, here⟩

/-- A search on a path finds the documents of the schema in which the path leads through objects to a
text that is the value: the document at each key that matches, once and in the order of the keys. It
looks at no other schema and changes nothing. A path in two parts is followed part by part, so a text
that is nested under a path is found on all of that path, and only there and only as itself. Without a
path there is nothing to search for, whether or not the schema is in use. -/
theorem search_follows_path (s : MemoryStore) (schema : String) :
    (∀ (path : List String) (value : String), path ≠ [] →
      ∃ (keys : List String) (documents : List Json),
        (DataStore.search schema path value s).value = .ok documents ∧
        documents.map some = keys.map (fun key => s.get? ⟨schema, key⟩) ∧
        keys.Pairwise (· < ·) ∧
        ∀ key, key ∈ keys ↔
          ∃ document, s.get? ⟨schema, key⟩ = some document ∧ Reaches path document (.text value)) ∧
    -- The documents of other schemas make no difference.
    (∀ (other : MemoryStore) (path : List String) (value : String),
      (∀ key, other.get? ⟨schema, key⟩ = s.get? ⟨schema, key⟩) →
      (DataStore.search schema path value other).value =
        (DataStore.search schema path value s).value) ∧
    (∀ path value, (DataStore.search schema path value s).state = s) ∧
    -- Paths in parts.
    (∀ (p q : List String) (document : Json),
      document.at? (p ++ q) = (document.at? p).bind (Json.at? q)) ∧
    (∀ (p q : List String) (document value : Json), Reaches (p ++ q) document value ↔
      ∃ between, Reaches p document between ∧ Reaches q between value) ∧
    -- Nested texts.
    (∀ (path : List String) (value key : String), path ≠ [] →
      let nested := Json.nest path (.text value)
      let stored := s.put ⟨schema, key⟩ nested
      stored.Finds schema path value nested ∧
      (∀ other, other ≠ value → ¬stored.Finds schema path other nested) ∧
      ∀ p q other, path = p ++ q → p ≠ [] → q ≠ [] → ¬stored.Finds schema p other nested) ∧
    ∀ value, (DataStore.search schema [] value s).value = .error (.invalidFieldPath schema) := by
  refine ⟨fun path value given => ?_, fun other path value same => ?_, fun path value => ?_,
    fun p q => Json.at?_append p q, fun p q document value => Json.reaches_append,
    fun path value key given => ?_, fun value => rfl⟩
  · obtain ⟨keys, ascending, listed, matching⟩ := s.exists_keys_findAll schema path value
    exact ⟨keys, _, value_search given schema value s, listed, ascending, matching⟩
  · by_cases given : path = []
    · rw [given]
      rfl
    · rw [value_search given, value_search given, findAll_congr same]
  · exact state_search schema path value s
  · intro nested stored
    -- Where a path leads in the nested text is known, so no other text is there.
    refine ⟨?_, fun other different found => ?_, fun p q other split part rest found => ?_⟩
    · refine (finds_iff given).2 ⟨key, ?_, Json.at?_eq_some_iff.1 (Json.at?_nest path _)⟩
      exact (get?_put s _ _ nested).trans (if_pos rfl)
    · obtain ⟨_, -, reaches⟩ := (finds_iff given).1 found
      have leads := Json.at?_eq_some_iff.2 reaches
      rw [Json.at?_nest] at leads
      cases leads
      exact different rfl
    · obtain ⟨_, -, reaches⟩ := (finds_iff part).1 found
      have leads := Json.at?_eq_some_iff.2 reaches
      rw [show nested = Json.nest (p ++ q) (.text value) from split ▸ rfl,
        Json.at?_nest_append] at leads
      exact Json.nest_ne_text rest _ _ (Option.some.inj leads)

end SteadyStore.MemoryStore
