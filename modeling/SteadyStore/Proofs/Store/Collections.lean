import Mathlib.Data.List.Nodup
import SteadyStore.Proofs.Store.Memory
/-!
# Collections of a store in memory

A collection is kept as long as it has documents (`Tidy`), which every operation preserves. In a
tidy store the collections are the schemas in use (`Tidy.mem_schemas`), and deleting what is not
there leaves the store as it is (`Tidy.remove_eq_self`). The size of a store is the number of the
addresses with a document (`length_addresses`).
-/

namespace SteadyStore.MemoryStore

/-- No collection is kept without documents. -/
def Tidy (s : MemoryStore) : Prop :=
  ∀ schema collection, s.collections.get? schema = some collection → collection.isEmpty = false

variable {s : MemoryStore} {doc : Address}

theorem tidy_empty : empty.Tidy := by
  rintro schema collection ⟨⟩

theorem Tidy.put (tidy : s.Tidy) (doc : Address) (value : Json) : (s.put doc value).Tidy := by
  intro schema collection kept
  rw [MemoryStore.put, NameMap.get?_insert] at kept
  split at kept
  · cases kept
    rw [Bool.eq_false_iff, Ne, NameMap.isEmpty_iff]
    intro none
    have written := none doc.key
    rw [NameMap.get?_insert, if_pos rfl] at written
    cases written
  · exact tidy schema collection kept

theorem Tidy.remove (tidy : s.Tidy) (doc : Address) : (s.remove doc).Tidy := by
  intro schema collection kept
  rw [get?_collections_remove] at kept
  split at kept
  · dsimp only at kept
    split at kept
    · cases kept
    · rename_i left
      cases kept
      exact Bool.eq_false_iff.2 left
  · exact tidy schema collection kept

/-- Deleting what is not there changes nothing, whether or not its schema is in use. -/
theorem Tidy.remove_eq_self (tidy : s.Tidy) (missing : s.get? doc = none) : s.remove doc = s := by
  unfold MemoryStore.remove
  cases kept : s.collections.get? doc.schema with
  | none => rfl
  | some collection =>
    have absent : collection.get? doc.key = none := by
      rw [get?, kept] at missing
      exact missing
    dsimp only
    rw [NameMap.erase_of_get? absent, tidy _ _ kept, NameMap.insert_of_get? kept]
    rfl

/-- The collections are the schemas with a document. -/
theorem Tidy.mem_schemas (tidy : s.Tidy) {schema : String} :
    schema ∈ s.collections.keys ↔ ∃ key value, s.get? ⟨schema, key⟩ = some value := by
  rw [NameMap.mem_keys]
  constructor
  · rintro ⟨collection, kept⟩
    have used : ¬∀ key, collection.get? key = none := by
      rw [← NameMap.isEmpty_iff, tidy schema collection kept]
      nofun
    obtain ⟨key, held⟩ := not_forall.1 used
    obtain ⟨value, held⟩ := Option.ne_none_iff_exists'.1 held
    exact ⟨key, value, by rw [get?, kept]; exact held⟩
  · rintro ⟨key, value, held⟩
    obtain ⟨collection, kept, -⟩ := Option.bind_eq_some_iff.1 held
    exact ⟨collection, kept⟩

/-! ## Addresses -/

/-- The addresses with a document, schema by schema. -/
def addresses (s : MemoryStore) : List Address :=
  s.collections.entries.flatMap fun entry => entry.2.keys.map (Address.mk entry.1)

theorem mem_addresses : doc ∈ s.addresses ↔ ∃ value, s.get? doc = some value := by
  rw [addresses, List.mem_flatMap]
  constructor
  · rintro ⟨⟨schema, collection⟩, inUse, member⟩
    obtain ⟨key, held, rfl⟩ := List.mem_map.1 member
    obtain ⟨value, held⟩ := NameMap.mem_keys.1 held
    exact ⟨value, by rw [get?, NameMap.mem_entries.1 inUse]; exact held⟩
  · rintro ⟨value, held⟩
    obtain ⟨collection, kept, held⟩ := Option.bind_eq_some_iff.1 held
    exact ⟨(doc.schema, collection), NameMap.mem_entries.2 kept,
      List.mem_map.2 ⟨doc.key, NameMap.mem_keys.2 ⟨value, held⟩, rfl⟩⟩

theorem nodup_addresses (s : MemoryStore) : s.addresses.Nodup := by
  refine List.nodup_flatMap.2 ⟨fun entry _ => ?_, ?_⟩
  · exact entry.2.nodup_keys.map fun _ _ same => (Address.mk.inj same).2
  · -- Addresses of different collections differ in their schemas.
    refine s.collections.ascending.imp fun less => ?_
    intro doc first second
    obtain ⟨_, -, rfl⟩ := List.mem_map.1 first
    obtain ⟨_, -, same⟩ := List.mem_map.1 second
    exact absurd ((Address.mk.inj same).1 ▸ less) (String.lt_irrefl _)

/-- The size counts each address with a document once. -/
theorem length_addresses (s : MemoryStore) : s.addresses.length = s.size := by
  rw [addresses, size, NameMap.values]
  induction s.collections.entries with
  | nil => rfl
  | cons entry entries ih =>
    rw [List.flatMap_cons, List.length_append, ih, List.length_map, NameMap.keys, List.length_map]
    rfl

end SteadyStore.MemoryStore
