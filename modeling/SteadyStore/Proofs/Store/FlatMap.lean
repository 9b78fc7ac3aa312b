import Mathlib.Data.Finmap
import Mathlib.Data.Finset.Sort
import SteadyStore.Proofs.Store.Collections
/-!
# A store in memory is a flat map

Seen from outside there are no collections: a store in memory answers every call as a map from
addresses to documents does (`Flattens.perform`), and so do whole runs of calls
(`Flattens.after`). What such a map holds at an address was stored there last, and was not deleted
since (`get?_after`). `after_empty_flat` sums this up for runs from an empty store.
-/

namespace SteadyStore

/-! ## Calls -/

namespace MemoryStore

/-- A call of a store in memory. -/
inductive Call
  | store (doc : Address) (value : Json)
  | retrieve (doc : Address)
  | delete (doc : Address)
  | search (schema : String) (path : List String) (value : String)
  | schemas
  | size

/-- What a call is answered. -/
inductive Answer
  | stored (result : StoreResult Unit)
  | retrieved (result : StoreResult (Option Json))
  | deleted (result : StoreResult Unit)
  | found (result : StoreResult (List Json))
  | schemas (names : List String)
  | size (count : Nat)

/-- The address at which a call may change the document. -/
def Call.changed? : Call → Option Address
  | .store doc _ | .delete doc => some doc
  | _ => none

/-- The answer to a call, and the store after it. -/
def perform (s : MemoryStore) : Call → Answer × MemoryStore
  | .store doc value =>
    let step := DataStore.store doc value s
    (.stored step.value, step.state)
  | .retrieve doc =>
    let step := DataStore.retrieve doc s
    (.retrieved step.value, step.state)
  | .delete doc =>
    let step := DataStore.delete doc s
    (.deleted step.value, step.state)
  | .search schema path value =>
    let step := DataStore.search schema path value s
    (.found step.value, step.state)
  | .schemas => (.schemas (DataStore.schemas s), s)
  | .size => (.size s.size, s)

/-- The store after some calls. -/
def after (s : MemoryStore) (calls : List Call) : MemoryStore :=
  calls.foldl (fun s call => (s.perform call).2) s

theorem perform_store (s : MemoryStore) (doc : Address) (value : Json) :
    (s.perform (.store doc value)).2 = s.put doc value := rfl

theorem perform_delete (s : MemoryStore) (doc : Address) :
    (s.perform (.delete doc)).2 = s.remove doc := rfl

theorem after_concat (s : MemoryStore) (calls : List Call) (call : Call) :
    s.after (calls ++ [call]) = ((s.after calls).perform call).2 := List.foldl_concat ..

end MemoryStore

/-! ## Flat maps -/

/-- Documents by their addresses, without collections. -/
abbrev FlatMap := Finmap fun _ : Address => Json

namespace FlatMap

open MemoryStore (Call Answer)

/-- The names of the schemas in use, in ascending order. -/
def schemas (m : FlatMap) : List String := (m.keys.image Address.schema).sort

/-- The documents of a schema, in the order of their keys. -/
def documents (m : FlatMap) (schema : String) : List Json :=
  ((m.keys.filter (·.schema = schema)).image Address.key).sort.filterMap fun key =>
    m.lookup ⟨schema, key⟩

def perform (m : FlatMap) : Call → Answer × FlatMap
  | .store doc value => (.stored (.ok ()), m.insert doc value)
  | .retrieve doc => (.retrieved (.ok (m.lookup doc)), m)
  | .delete doc => (.deleted (.ok ()), m.erase doc)
  | .search schema path value =>
    (.found (if path.isEmpty then .error (.invalidFieldPath schema)
      else .ok ((m.documents schema).filter (MemoryStore.holdsAt path value))), m)
  | .schemas => (.schemas m.schemas, m)
  | .size => (.size m.keys.card, m)

def after (m : FlatMap) (calls : List Call) : FlatMap :=
  calls.foldl (fun m call => (m.perform call).2) m

end FlatMap

namespace MemoryStore

/-- The store holds what the map holds, and keeps no empty collections. -/
structure Flattens (s : MemoryStore) (m : FlatMap) : Prop where
  tidy : s.Tidy
  get?_eq : ∀ doc, s.get? doc = m.lookup doc

theorem flattens_empty : Flattens empty ∅ where
  tidy := tidy_empty
  get?_eq _ := rfl

namespace Flattens

variable {s : MemoryStore} {m : FlatMap} (same : Flattens s m)

include same

/-! ### What a call changes -/

theorem put (doc : Address) (value : Json) : Flattens (s.put doc value) (m.insert doc value) where
  tidy := same.tidy.put doc value
  get?_eq other := by
    rw [get?_put]
    split
    · rename_i here
      rw [here, Finmap.lookup_insert]
    · rename_i elsewhere
      rw [Finmap.lookup_insert_of_ne m elsewhere, same.get?_eq]

theorem remove (doc : Address) : Flattens (s.remove doc) (m.erase doc) where
  tidy := same.tidy.remove doc
  get?_eq other := by
    rw [get?_remove]
    split
    · rename_i here
      rw [here, Finmap.lookup_erase]
    · rename_i elsewhere
      rw [Finmap.lookup_erase_ne elsewhere, same.get?_eq]

/-! ### What a call is answered -/

theorem mem_keys {doc : Address} : doc ∈ m.keys ↔ ∃ value, s.get? doc = some value := by
  rw [Finmap.mem_keys, Finmap.mem_iff, same.get?_eq]

theorem keys_eq : m.keys = s.addresses.toFinset := by
  ext doc
  rw [same.mem_keys, List.mem_toFinset, mem_addresses]

theorem size_eq : s.size = m.keys.card := by
  rw [same.keys_eq, List.toFinset_card_of_nodup s.nodup_addresses, length_addresses]

theorem schemas_eq : s.collections.keys = m.schemas := by
  have names : s.collections.keys.toFinset = m.keys.image Address.schema := by
    ext schema
    rw [List.mem_toFinset, same.tidy.mem_schemas, Finset.mem_image]
    constructor
    · rintro ⟨key, value, held⟩
      exact ⟨⟨schema, key⟩, same.mem_keys.2 ⟨value, held⟩, rfl⟩
    · rintro ⟨⟨_, key⟩, inUse, rfl⟩
      obtain ⟨value, held⟩ := same.mem_keys.1 inUse
      exact ⟨key, value, held⟩
  rw [FlatMap.schemas, ← names]
  exact ((List.toFinset_sort _ s.collections.nodup_keys).2
    (s.collections.pairwise_keys.imp le_of_lt)).symm

theorem documents_eq (schema : String) : (s.collection schema).values = m.documents schema := by
  have held : ∀ key, (s.collection schema).get? key = m.lookup ⟨schema, key⟩ := fun key => by
    rw [← same.get?_eq, get?_eq_collection]
  have keys : (s.collection schema).keys.toFinset =
      (m.keys.filter (·.schema = schema)).image Address.key := by
    ext key
    simp only [List.mem_toFinset, NameMap.mem_keys, held, Finset.mem_image, Finset.mem_filter,
      Finmap.mem_keys, Finmap.mem_iff]
    constructor
    · rintro found
      exact ⟨⟨schema, key⟩, ⟨found, rfl⟩, rfl⟩
    · rintro ⟨doc, ⟨found, rfl⟩, rfl⟩
      exact found
  rw [FlatMap.documents, ← keys, NameMap.values_eq_filterMap,
    (List.toFinset_sort _ (s.collection schema).nodup_keys).2
      ((s.collection schema).pairwise_keys.imp le_of_lt)]
  exact List.filterMap_congr fun key _ => held key

/-- A call is answered as by the map, and leaves what the map becomes. -/
theorem perform (call : Call) :
    (s.perform call).1 = (m.perform call).1 ∧
      Flattens (s.perform call).2 (m.perform call).2 := by
  cases call with
  | store doc value => exact ⟨rfl, same.put doc value⟩
  | retrieve doc =>
    exact ⟨congrArg (fun found => Answer.retrieved (.ok found)) (same.get?_eq doc), same⟩
  | delete doc => exact ⟨rfl, same.remove doc⟩
  | search schema path value =>
    simp only [MemoryStore.perform, FlatMap.perform, DataStore.search, MemoryStore.search, findAll,
      same.documents_eq]
    split
    · exact ⟨rfl, same⟩
    · exact ⟨rfl, same⟩
  | schemas => exact ⟨congrArg Answer.schemas same.schemas_eq, same⟩
  | size => exact ⟨congrArg Answer.size same.size_eq, same⟩

theorem after (calls : List Call) : Flattens (s.after calls) (m.after calls) := by
  induction calls generalizing s m with
  | nil => exact same
  | cons call calls ih => exact ih (same.perform call).2

end Flattens

/-! ## Histories -/

/-- The last call that may have changed the document at an address stored this value there. -/
def LastStored (calls : List Call) (doc : Address) (value : Json) : Prop :=
  ∃ earlier later, calls = earlier ++ .store doc value :: later ∧
    ∀ call ∈ later, call.changed? ≠ some doc

variable {doc : Address} {value : Json}

theorem not_lastStored_nil : ¬LastStored [] doc value := by
  rintro ⟨earlier, later, split, -⟩
  simp at split

theorem lastStored_concat {calls : List Call} {call : Call} :
    LastStored (calls ++ [call]) doc value ↔
      call = .store doc value ∨ call.changed? ≠ some doc ∧ LastStored calls doc value := by
  constructor
  · rintro ⟨earlier, later, split, kept⟩
    rcases List.eq_nil_or_concat later with rfl | ⟨later, last, rfl⟩
    · obtain ⟨-, same⟩ := List.append_inj' split rfl
      exact .inl (List.singleton_inj.1 same)
    · rw [List.concat_eq_append, ← List.cons_append, ← List.append_assoc] at split
      obtain ⟨before, same⟩ := List.append_inj' split rfl
      obtain rfl := List.singleton_inj.1 same
      exact .inr ⟨kept call (by simp), earlier, later, before,
        fun other member => kept other (by simp [member])⟩
  · rintro (rfl | ⟨elsewhere, earlier, later, rfl, kept⟩)
    · exact ⟨calls, [], rfl, by simp⟩
    · refine ⟨earlier, later ++ [call], by simp, fun other member => ?_⟩
      rcases List.mem_append.1 member with before | last
      · exact kept other before
      · rw [List.mem_singleton.1 last]
        exact elsewhere

theorem Call.changed?_eq_some {call : Call} (here : call.changed? = some doc) :
    (∃ value, call = .store doc value) ∨ call = .delete doc := by
  cases call with
  | store other value =>
    cases here
    exact .inl ⟨value, rfl⟩
  | delete other =>
    cases here
    exact .inr rfl
  | _ => cases here

/-- A call leaves the documents at all addresses but its own as they are. -/
theorem get?_perform (s : MemoryStore) {call : Call} (elsewhere : call.changed? ≠ some doc) :
    (s.perform call).2.get? doc = s.get? doc := by
  cases call with
  | store other value =>
    have different : doc ≠ other := fun same => elsewhere (congrArg some same.symm)
    exact (get?_put s other doc value).trans (if_neg different)
  | delete other =>
    have different : doc ≠ other := fun same => elsewhere (congrArg some same.symm)
    exact (get?_remove s other doc).trans (if_neg different)
  | search schema path value =>
    simp only [perform, DataStore.search, search]
    split <;> rfl
  | _ => rfl

/-- A store holds at an address what was stored there last, unless it was deleted since. -/
theorem get?_after (calls : List Call) :
    (empty.after calls).get? doc = some value ↔ LastStored calls doc value := by
  -- The last call decides, if it is at this address, and else the calls before it.
  induction calls using List.reverseRecOn with
  | nil => exact iff_of_false (fun held => nomatch held) not_lastStored_nil
  | append_singleton calls call ih =>
    rw [lastStored_concat, after_concat]
    by_cases here : call.changed? = some doc
    · rcases Call.changed?_eq_some here with ⟨stored, rfl⟩ | rfl
      · rw [perform_store, get?_put, if_pos rfl]
        simp [Call.changed?]
      · rw [perform_delete, get?_remove, if_pos rfl]
        simp [Call.changed?]
    · have other : call ≠ .store doc value := fun same => here (same ▸ rfl)
      rw [get?_perform _ here, ih]
      exact ⟨fun stored => .inr ⟨here, stored⟩, fun either => (either.resolve_left other).2⟩

/-- After any calls an initially empty store is a flat map: it answers every call as the map does
to which the same was done. -/
theorem after_empty_flat (calls : List Call) :
    let s := empty.after calls
    let live := fun doc => ∃ value, LastStored calls doc value
    (∀ call, (s.perform call).1 = (FlatMap.perform (FlatMap.after ∅ calls) call).1) ∧
    -- A document is read as it was stored last, unless it was deleted since.
    (∀ doc, ∃ found, (DataStore.retrieve doc s).value = .ok found ∧
      ∀ value, found = some value ↔ LastStored calls doc value) ∧
    -- A call changes no document but the one at its own address.
    (∀ call doc, call.changed? ≠ some doc →
      (DataStore.retrieve doc (s.perform call).2).value = (DataStore.retrieve doc s).value) ∧
    -- No collection is kept without documents, so the collections are the schemas in use.
    s.Tidy ∧ (DataStore.schemas s).Nodup ∧
    (∀ schema, schema ∈ DataStore.schemas s ↔ ∃ key, live ⟨schema, key⟩) ∧
    -- The size is the number of the addresses with a document.
    (∃ addresses : Finset Address, (∀ doc, doc ∈ addresses ↔ live doc) ∧
      s.size = addresses.card) ∧
    -- Deleting what is not there changes nothing.
    ∀ doc, ¬live doc → (DataStore.delete doc s).state = s := by
  intro s live
  have same : Flattens s (FlatMap.after ∅ calls) := flattens_empty.after calls
  have held : ∀ doc, (∃ value, s.get? doc = some value) ↔ live doc := fun doc =>
    exists_congr fun value => get?_after calls
  refine ⟨fun call => (same.perform call).1,
    fun doc => ⟨s.get? doc, rfl, fun value => get?_after calls⟩,
    fun call doc elsewhere => ?_, same.tidy, s.collections.nodup_keys, fun schema => ?_,
    ⟨s.addresses.toFinset, fun doc => ?_, ?_⟩, fun doc dead => ?_⟩
  · exact congrArg Except.ok (get?_perform s elsewhere)
  · rw [← exists_congr fun key => held ⟨schema, key⟩]
    exact same.tidy.mem_schemas
  · rw [List.mem_toFinset, mem_addresses, held]
  · rw [List.toFinset_card_of_nodup s.nodup_addresses, length_addresses]
  · refine same.tidy.remove_eq_self ?_
    rw [Option.eq_none_iff_forall_ne_some]
    exact fun value stored => dead ((held doc).1 ⟨value, stored⟩)

/-- Two addresses that read the same are two places. -/
example (value : Json) :
    Address.text ⟨"a/b", "c"⟩ = Address.text ⟨"a", "b/c"⟩ ∧
      (empty.after [.store ⟨"a/b", "c"⟩ value]).get? ⟨"a", "b/c"⟩ = none :=
  ⟨by decide, rfl⟩

end MemoryStore

end SteadyStore
