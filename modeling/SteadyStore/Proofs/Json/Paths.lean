import SteadyStore.Json.Basic
/-!
# Following a path through a document

A path leads through objects, field by field (`Reaches`), and `at?` finds where it leads
(`at?_eq_some_iff`). What is nested under a path is what the path leads to, and every shorter part of
the path leads to an object (`at?_nest_append`).
-/

namespace SteadyStore.Json

/-- The path leads from a document through its objects, field by field, to a value. -/
inductive Reaches : List String → Json → Json → Prop
  | here (value : Json) : Reaches [] value value
  | field {name : String} {path : List String} {entries : List (String × Json)}
    {inner value : Json} (held : lookupEntry name entries = some inner)
    (rest : Reaches path inner value) : Reaches (name :: path) (.fields entries) value

theorem at?_eq_some_iff {path : List String} {document value : Json} :
    document.at? path = some value ↔ Reaches path document value := by
  induction path generalizing document with
  | nil =>
    constructor
    · intro here
      cases here
      exact .here _
    · intro reaches
      cases reaches
      rfl
  | cons name path ih =>
    rw [at?, Option.bind_eq_some_iff]
    constructor
    · rintro ⟨inner, held, rest⟩
      -- Only objects have fields.
      cases document with
      | fields entries => exact .field held (ih.1 rest)
      | _ => cases held
    · intro reaches
      cases reaches with
      | field held rest => exact ⟨_, held, ih.2 rest⟩

/-- A path in two parts is followed part by part. -/
theorem reaches_append {p q : List String} {document value : Json} :
    Reaches (p ++ q) document value ↔
      ∃ between, Reaches p document between ∧ Reaches q between value := by
  simp only [← at?_eq_some_iff, at?_append, Option.bind_eq_some_iff]

/-! ## Nested values -/

/-- The value under a path of objects with one field each. -/
def nest (path : List String) (value : Json) : Json :=
  path.foldr (fun name inner => .object [(name, inner)]) value

theorem at?_nest_append (p q : List String) (value : Json) :
    (nest (p ++ q) value).at? p = some (nest q value) := by
  induction p with
  | nil => rfl
  | cons name p ih =>
    have field : (nest (name :: p ++ q) value).field? name = some (nest (p ++ q) value) := by
      simp [nest, object, field?, insertEntry, lookupEntry]
    rw [at?, field]
    exact ih

theorem at?_nest (path : List String) (value : Json) : (nest path value).at? path = some value := by
  have whole := at?_nest_append path [] value
  rw [List.append_nil] at whole
  exact whole

/-- Under a path that is not empty there is an object, not a text. -/
theorem nest_ne_text {path : List String} (h : path ≠ []) (value : Json) (text : String) :
    nest path value ≠ .text text := by
  cases path with
  | nil => exact absurd rfl h
  | cons name path => nofun

end SteadyStore.Json
