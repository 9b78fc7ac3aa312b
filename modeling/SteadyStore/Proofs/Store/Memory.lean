import SteadyStore.Proofs.NameMap.Entries
import SteadyStore.Store.Memory
/-!
# Reading a store in memory

What is read at an address after a document was written (`get?_put`) or deleted (`get?_remove`) at
another or the same one.
-/

namespace SteadyStore.MemoryStore

theorem get?_eq_collection (s : MemoryStore) (doc : Address) :
    s.get? doc = (s.collection doc.schema).get? doc.key := by
  unfold get? collection
  cases s.collections.get? doc.schema <;> rfl

theorem collection_put (s : MemoryStore) (doc : Address) (value : Json) (schema : String) :
    (s.put doc value).collection schema =
      if schema = doc.schema then (s.collection doc.schema).insert doc.key value
      else s.collection schema := by
  rw [collection, put, NameMap.get?_insert]
  split <;> rfl

/-- A written document is read back, and all others are what they were. -/
theorem get?_put (s : MemoryStore) (doc other : Address) (value : Json) :
    (s.put doc value).get? other = if other = doc then some value else s.get? other := by
  obtain ⟨schema, key⟩ := doc
  obtain ⟨otherSchema, otherKey⟩ := other
  rw [get?_eq_collection, collection_put, get?_eq_collection]
  simp only [Address.mk.injEq]
  by_cases same : otherSchema = schema
  · subst same
    simp only [if_true, true_and, NameMap.get?_insert]
  · simp only [same, if_false, false_and]

/-- What is kept of a schema after a deletion in it: what is left, unless nothing is. -/
theorem get?_collections_remove (s : MemoryStore) (doc : Address) (schema : String) :
    (s.remove doc).collections.get? schema =
      if schema = doc.schema then
        let rest := (s.collection doc.schema).erase doc.key
        if rest.isEmpty then none else some rest
      else s.collections.get? schema := by
  rw [remove, collection]
  cases kept : s.collections.get? doc.schema with
  | none =>
    dsimp only [Option.getD_none]
    by_cases same : schema = doc.schema
    · rw [if_pos same, same, kept]
      rfl
    · rw [if_neg same]
  | some held =>
    dsimp only [Option.getD_some]
    by_cases last : (held.erase doc.key).isEmpty = true
    · rw [if_pos last, if_pos last, NameMap.get?_erase]
    · rw [if_neg last, if_neg last, NameMap.get?_insert]

theorem collection_remove (s : MemoryStore) (doc : Address) (schema : String) :
    (s.remove doc).collection schema =
      if schema = doc.schema then (s.collection doc.schema).erase doc.key
      else s.collection schema := by
  rw [collection, get?_collections_remove]
  by_cases same : schema = doc.schema
  · rw [if_pos same, if_pos same]
    dsimp only
    split
    · -- The collection goes with its last document, and then the schema has none.
      rename_i last
      exact NameMap.ext_get? fun key => (NameMap.isEmpty_iff.1 last key).symm
    · rfl
  · rw [if_neg same, if_neg same]
    rfl

/-- A deleted document is gone, and all others are what they were. -/
theorem get?_remove (s : MemoryStore) (doc other : Address) :
    (s.remove doc).get? other = if other = doc then none else s.get? other := by
  obtain ⟨schema, key⟩ := doc
  obtain ⟨otherSchema, otherKey⟩ := other
  rw [get?_eq_collection, collection_remove, get?_eq_collection]
  simp only [Address.mk.injEq]
  by_cases same : otherSchema = schema
  · subst same
    simp only [if_true, true_and, NameMap.get?_erase]
  · simp only [same, if_false, false_and]

end SteadyStore.MemoryStore
