/-!
# Maps from names

A map keeps its entries in ascending order of their names, one entry to a name.
What a map holds at a name is `get?`; `get?_insert` and `get?_erase` say how the
operations change it, and `keys` and `values` list a map in the order of its
names.
-/

namespace SteadyStore

/-! ## Entries -/

/-- Puts an entry where its name belongs, in place of one with the same name. -/
def insertEntry {α : Type} (name : String) (value : α) : List (String × α) → List (String × α)
  | [] => [(name, value)]
  | entry :: rest =>
    if name < entry.1 then (name, value) :: entry :: rest
    else if name = entry.1 then (name, value) :: rest
    else entry :: insertEntry name value rest

/-- The value of the first entry with a name. -/
def lookupEntry {α : Type} (name : String) : List (String × α) → Option α
  | [] => none
  | entry :: rest => if name = entry.1 then some entry.2 else lookupEntry name rest

/-- Entries in ascending order of their names. -/
def Ascending {α : Type} (entries : List (String × α)) : Prop :=
  entries.Pairwise fun a b => a.1 < b.1

theorem mem_insertEntry {α : Type} {name : String} {value : α} {entry : String × α}
    {entries : List (String × α)} (h : entry ∈ insertEntry name value entries) :
    entry = (name, value) ∨ entry ∈ entries := by
  induction entries with
  | nil => simpa [insertEntry] using h
  | cons first rest ih =>
    rw [insertEntry] at h
    split at h
    · simpa using h
    · split at h
      · rcases List.mem_cons.1 h with h | h
        · exact .inl h
        · exact .inr (List.mem_cons_of_mem _ h)
      · rcases List.mem_cons.1 h with h | h
        · exact .inr (h ▸ List.mem_cons_self)
        · exact (ih h).imp id (List.mem_cons_of_mem _)

theorem Ascending.insertEntry {α : Type} {name : String} {value : α} {entries : List (String × α)}
    (h : Ascending entries) : Ascending (insertEntry name value entries) := by
  induction entries with
  | nil => simp [SteadyStore.insertEntry, Ascending]
  | cons first rest ih =>
    obtain ⟨above, sorted⟩ := List.pairwise_cons.1 h
    rw [SteadyStore.insertEntry]
    split
    · rename_i less
      refine List.pairwise_cons.2 ⟨fun entry member => ?_, h⟩
      rcases List.mem_cons.1 member with rfl | member
      · exact less
      · exact String.lt_trans less (above entry member)
    · split
      · rename_i same
        exact List.pairwise_cons.2 ⟨fun entry member => same ▸ above entry member, sorted⟩
      · rename_i notLess different
        refine List.pairwise_cons.2 ⟨fun entry member => ?_, ih sorted⟩
        rcases mem_insertEntry member with rfl | member
        · exact Std.lt_of_le_of_ne (String.not_lt.1 notLess) (Ne.symm different)
        · exact above entry member

theorem lookupEntry_insertEntry {α : Type} (name other : String) (value : α)
    (entries : List (String × α)) :
    lookupEntry other (insertEntry name value entries) =
      if other = name then some value else lookupEntry other entries := by
  induction entries with
  | nil => simp [insertEntry, lookupEntry]
  | cons first rest ih =>
    rw [insertEntry]
    split
    · simp [lookupEntry]
    · split
      · rename_i same
        by_cases h : other = name <;> simp_all [lookupEntry]
      · rename_i different
        by_cases h : other = first.1
        · simp [lookupEntry, h, Ne.symm different]
        · simp [lookupEntry, h, ih]

theorem lookupEntry_filter_ne {α : Type} (name other : String) (entries : List (String × α)) :
    lookupEntry other (entries.filter (·.1 ≠ name)) =
      if other = name then none else lookupEntry other entries := by
  induction entries with
  | nil => simp [lookupEntry]
  | cons first rest ih =>
    by_cases h : first.1 = name
    · rw [List.filter_cons_of_neg (by simp [h]), ih]
      by_cases ho : other = name <;> simp [lookupEntry, ho, h]
    · rw [List.filter_cons_of_pos (by simp [h])]
      by_cases ho : other = first.1
      · simp [lookupEntry, ho, h]
      · rw [lookupEntry, if_neg ho, lookupEntry, if_neg ho, ih]

/-! ## Maps -/

/-- A map from names to values. -/
structure NameMap (α : Type) where
  entries : List (String × α)
  ascending : Ascending entries

namespace NameMap

variable {α : Type}

def empty : NameMap α := ⟨[], List.Pairwise.nil⟩

def get? (m : NameMap α) (name : String) : Option α := lookupEntry name m.entries

def insert (m : NameMap α) (name : String) (value : α) : NameMap α :=
  ⟨insertEntry name value m.entries, m.ascending.insertEntry⟩

def erase (m : NameMap α) (name : String) : NameMap α :=
  ⟨m.entries.filter (·.1 ≠ name), m.ascending.filter _⟩

def isEmpty (m : NameMap α) : Bool := m.entries.isEmpty

def size (m : NameMap α) : Nat := m.entries.length

def keys (m : NameMap α) : List String := m.entries.map (·.1)

def values (m : NameMap α) : List α := m.entries.map (·.2)

/-- The map with the given entries. The last entry of a name counts. -/
def ofList (entries : List (String × α)) : NameMap α :=
  entries.foldl (fun m entry => m.insert entry.1 entry.2) empty

theorem get?_insert (m : NameMap α) (name other : String) (value : α) :
    (m.insert name value).get? other = if other = name then some value else m.get? other :=
  lookupEntry_insertEntry name other value m.entries

theorem get?_erase (m : NameMap α) (name other : String) :
    (m.erase name).get? other = if other = name then none else m.get? other :=
  lookupEntry_filter_ne name other m.entries

end NameMap

end SteadyStore
