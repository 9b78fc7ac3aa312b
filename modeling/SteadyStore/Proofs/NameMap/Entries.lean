import Mathlib.Data.List.Sort
import Mathlib.Data.String.Basic
import SteadyStore.NameMap
/-!
# A map is what it holds

The entries of a map are its names with what the map holds there (`mem_entries`), in the order of
the names. So two maps that hold the same at every name are one map (`ext_get?`), and writing what
is there already, or erasing what is not, leaves a map as it is.
-/

namespace SteadyStore

theorem lookupEntry_eq_some_iff {α : Type} {name : String} {value : α}
    {entries : List (String × α)} (ascending : Ascending entries) :
    lookupEntry name entries = some value ↔ (name, value) ∈ entries := by
  induction entries with
  | nil => simp [lookupEntry]
  | cons entry rest ih =>
    obtain ⟨above, sorted⟩ := List.pairwise_cons.1 ascending
    rw [lookupEntry]
    split
    · rename_i same
      constructor
      · rintro ⟨⟩
        exact same ▸ List.mem_cons_self
      · intro member
        rcases List.mem_cons.1 member with rfl | later
        · rfl
        -- A later entry has a greater name.
        · have greater := above _ later
          exact absurd (same ▸ greater) (String.lt_irrefl _)
    · rename_i different
      rw [ih sorted, List.mem_cons]
      exact ⟨.inr, fun member => member.resolve_left fun first => different (first ▸ rfl)⟩

namespace NameMap

variable {α : Type} {m : NameMap α} {name : String} {value : α}

theorem mem_entries : (name, value) ∈ m.entries ↔ m.get? name = some value :=
  (lookupEntry_eq_some_iff m.ascending).symm

theorem mem_keys : name ∈ m.keys ↔ ∃ value, m.get? name = some value := by
  constructor
  · intro member
    obtain ⟨⟨_, value⟩, inEntries, rfl⟩ := List.mem_map.1 member
    exact ⟨value, mem_entries.1 inEntries⟩
  · rintro ⟨value, held⟩
    exact List.mem_map.2 ⟨(name, value), mem_entries.2 held, rfl⟩

theorem pairwise_keys (m : NameMap α) : m.keys.Pairwise (· < ·) :=
  List.pairwise_map.2 m.ascending

theorem nodup_keys (m : NameMap α) : m.keys.Nodup :=
  m.pairwise_keys.imp ne_of_lt

theorem nodup_entries (m : NameMap α) : m.entries.Nodup := m.nodup_keys.of_map

/-- The values are what the map holds at its names. -/
theorem values_eq_filterMap (m : NameMap α) : m.values = m.keys.filterMap m.get? := by
  have held : ∀ entry ∈ m.entries, m.get? entry.1 = some entry.2 := fun _ => mem_entries.1
  rw [values, keys, List.filterMap_map, ← List.filterMap_eq_map]
  exact List.filterMap_congr fun entry member => (held entry member).symm

theorem isEmpty_iff : m.isEmpty = true ↔ ∀ name, m.get? name = none := by
  rw [isEmpty, List.isEmpty_iff, List.eq_nil_iff_forall_not_mem]
  constructor
  · intro none name
    rw [Option.eq_none_iff_forall_ne_some]
    exact fun value held => none (name, value) (mem_entries.2 held)
  · rintro none ⟨name, value⟩ member
    rw [mem_entries, none] at member
    cases member

/-- Two maps that hold the same are the same. -/
theorem ext_get? {m n : NameMap α} (same : ∀ name, m.get? name = n.get? name) : m = n := by
  have perm : m.entries.Perm n.entries :=
    (List.perm_ext_iff_of_nodup m.nodup_entries n.nodup_entries).2 fun ⟨name, value⟩ => by
      rw [mem_entries, mem_entries, same]
  have entries : m.entries = n.entries :=
    perm.eq_of_pairwise (fun _ _ _ _ less greater => absurd (String.lt_trans less greater)
      (String.lt_irrefl _)) m.ascending n.ascending
  cases m
  cases n
  cases entries
  rfl

theorem insert_of_get? (held : m.get? name = some value) : m.insert name value = m := by
  refine ext_get? fun other => ?_
  rw [get?_insert]
  split
  · rename_i same
    rw [same, held]
  · rfl

theorem erase_of_get? (missing : m.get? name = none) : m.erase name = m := by
  refine ext_get? fun other => ?_
  rw [get?_erase]
  split
  · rename_i same
    rw [same, missing]
  · rfl

end NameMap

end SteadyStore
