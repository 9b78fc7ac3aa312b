import SteadyStore.Error.WriteFailure
import SteadyStore.Proofs.TypeName.Descriptor
/-!
# Types declared inside other items

The full name of a type spells out the items around it: modules and functions, generic items with their
arguments, and implementations (`fullName`). It is cut at its first bracket, wherever that stands. So
the type is named by the first item around it that has brackets, and by its own name only if there is
none (`unqualified_fullName`).
-/

namespace SteadyStore.TypeName

/-! ## Full names -/

/-- What stands between angle brackets is not looked at. -/
def angled (inside : List Char) : List Char := '<' :: inside ++ ['>']

/-- An item that a type can be declared in. -/
inductive Component
  /-- A module, or a function or type without arguments. -/
  | plain (item : Identifier)
  /-- A type with its arguments. -/
  | generic (item : Identifier) (arguments : List Char)
  /-- What a type does as a trait. -/
  | asTrait (self trait : List Char)
  /-- An implementation of a trait for a type. -/
  | implFor (trait self : List Char)

namespace Component

def text : Component → List Char
  | .plain item => item.chars
  | .generic item arguments => item.chars ++ angled arguments
  | .asTrait self trait => angled (self ++ " as ".toList ++ trait)
  | .implFor trait self => angled ("impl ".toList ++ trait ++ " for ".toList ++ self)

/-- What stands in front of the first bracket of an item, if there is one. -/
def beforeBracket? : Component → Option (List Char)
  | .plain _ => none
  | .generic item _ => some item.chars
  | .asTrait _ _ | .implFor _ _ => some []

theorem exists_item_of_beforeBracket? {component : Component}
    (none : component.beforeBracket? = none) : ∃ item, component = .plain item := by
  cases component with
  | plain item => exact ⟨item, rfl⟩
  | generic | asTrait | implFor => cases none

theorem text_of_beforeBracket? {component : Component} {front : List Char}
    (some : component.beforeBracket? = some front) :
    ∃ rest, component.text = front ++ '<' :: rest := by
  cases component with
  | plain => cases some
  | generic | asTrait | implFor =>
    cases some
    exact ⟨_, rfl⟩

end Component

def argumentText : Option (List Char) → List Char
  | none => []
  | some arguments => angled arguments

/-- The full name of a type that is declared inside some items, the outermost first. -/
def fullName (enclosing : List Component) (name : Identifier) (arguments : Option (List Char)) :
    List Char :=
  enclosing.flatMap (fun item => item.text ++ [':', ':']) ++ (name.chars ++ argumentText arguments)

/-- What the type is named by. -/
def namedBy (enclosing : List Component) (name : Identifier) : List Char :=
  (enclosing.findSome? Component.beforeBracket?).getD name.chars

theorem fullName_cons (component : Component) (enclosing : List Component) (name : Identifier)
    (arguments : Option (List Char)) :
    fullName (component :: enclosing) name arguments =
      component.text ++ ([':', ':'] ++ fullName enclosing name arguments) := by
  simp [fullName]

/-! ## Cut at the first bracket -/

/-- Nothing, or what an angle bracket opens. -/
def StartsAngled (cs : List Char) : Prop := ∀ c ∈ cs.head?, c = '<'

theorem startsAngled_cons (cs : List Char) : StartsAngled ('<' :: cs) := by
  rintro c ⟨⟩
  rfl

theorem startsAngled_argumentText (arguments : Option (List Char)) :
    StartsAngled (argumentText arguments) := by
  cases arguments with
  | none => rintro c ⟨⟩
  | some arguments => exact startsAngled_cons _

theorem StartsAngled.not_isNameChar {cs : List Char} (starts : StartsAngled cs) :
    ∀ c ∈ cs.head?, isNameChar c = false := by
  intro c first
  rw [starts c first]
  decide

theorem StartsAngled.takeWhile_before {cs : List Char} (starts : StartsAngled cs) :
    (before [' ', '+', ' '] cs).takeWhile (· ≠ '<') = [] := by
  cases cs with
  | nil => rfl
  | cons c cs =>
    obtain rfl : c = '<' := starts c rfl
    simp [before]

/-- In front of its first bracket a full name consists of modules and what the type is named by. -/
theorem exists_front (enclosing : List Component) (name : Identifier)
    (arguments : Option (List Char)) :
    ∃ modules rest, StartsAngled rest ∧
      fullName enclosing name arguments =
        modulesText modules ++ namedBy enclosing name ++ rest := by
  induction enclosing with
  | nil => exact ⟨[], argumentText arguments, startsAngled_argumentText arguments, rfl⟩
  | cons component enclosing ih =>
    rw [fullName_cons, namedBy, List.findSome?_cons]
    cases bracket : component.beforeBracket? with
    | none =>
      obtain ⟨item, rfl⟩ := Component.exists_item_of_beforeBracket? bracket
      obtain ⟨modules, rest, starts, shape⟩ := ih
      refine ⟨item :: modules, rest, starts, ?_⟩
      rw [shape]
      simp [modulesText, namedBy, Component.text]
    | some front =>
      obtain ⟨rest, shape⟩ := Component.text_of_beforeBracket? bracket
      refine ⟨[], '<' :: rest ++ ([':', ':'] ++ fullName enclosing name arguments),
        startsAngled_cons _, ?_⟩
      rw [shape]
      simp [modulesText]

/-! ## Nothing in front of a full name goes -/

theorem isNameChar_of_mem_namedBy (enclosing : List Component) (name : Identifier) :
    ∀ c ∈ namedBy enclosing name, isNameChar c = true := by
  cases first : enclosing.findSome? Component.beforeBracket? with
  | none =>
    rw [namedBy, first]
    exact name.isNameChar_of_mem
  | some front =>
    obtain ⟨component, -, bracket⟩ := List.exists_of_findSome?_eq_some first
    rw [namedBy, first]
    cases component with
    | plain => cases bracket
    | generic item =>
      cases bracket
      exact item.isNameChar_of_mem
    | asTrait | implFor =>
      cases bracket
      intro c member
      cases member

theorem endsFirm_fullName (enclosing : List Component) (name : Identifier)
    (arguments : Option (List Char)) : EndsFirm (fullName enclosing name arguments) := by
  refine EndsFirm.append_left ?_ _
  cases arguments with
  | none => exact (List.append_nil name.chars).symm ▸ name.endsFirm
  | some arguments => exact (endsFirm_append_char (by decide) _).append_left name.chars

/-- A full name starts with an identifier or with a bracket. -/
theorem startsWithName_or_angled (enclosing : List Component) (name : Identifier)
    (arguments : Option (List Char)) :
    StartsWithName (fullName enclosing name arguments) ∨
      ∃ rest, fullName enclosing name arguments = '<' :: rest := by
  cases enclosing with
  | nil => exact .inl (name.startsWithName (startsAngled_argumentText arguments).not_isNameChar)
  | cons component enclosing =>
    rw [fullName_cons]
    cases component with
    | plain item =>
      refine .inl (item.startsWithName ?_)
      rintro c ⟨⟩
      decide
    | generic item inside =>
      rw [Component.text, List.append_assoc]
      exact .inl (item.startsWithName (startsAngled_cons _).not_isNameChar)
    | asTrait | implFor => exact .inr ⟨_, rfl⟩

/-- A full name is taken for a path as it stands. -/
theorem unqualified_eq_ofPath (enclosing : List Component) (name : Identifier)
    (arguments : Option (List Char)) :
    unqualified (fullName enclosing name arguments) = ofPath (fullName enclosing name arguments) := by
  have ends := endsFirm_fullName enclosing name arguments
  rcases startsWithName_or_angled enclosing name arguments with starts | ⟨rest, shape⟩
  · exact unqualified_of_path (starts.bare_eq_self ends) (starts.between?_eq_none (by decide) _)
      (starts.between?_eq_none (by decide) _)
  · rw [shape] at ends ⊢
    exact unqualified_of_path (bare_eq_self_of_opensBracket (by decide) ends)
      (between?_eq_none (by decide) _ _) (between?_eq_none (by decide) _ _)

theorem unqualified_fullName (enclosing : List Component) (name : Identifier)
    (arguments : Option (List Char)) :
    unqualified (fullName enclosing name arguments) = namedBy enclosing name := by
  obtain ⟨modules, rest, starts, shape⟩ := exists_front enclosing name arguments
  rw [unqualified_eq_ofPath, shape]
  exact ofPath_modulesText (isNameChar_of_mem_namedBy enclosing name) starts.takeWhile_before modules

/-! ## What a type is named by -/

/-- A type is identified by its name, whatever its own arguments, if no item around it has brackets.
Else it is identified by what stands in front of the first of these brackets, which is the name of a
generic item, or nothing at all if the item is what a type does as a trait. -/
theorem identity_of_fullName (enclosing : List Component) (name : Identifier)
    (arguments : Option (List Char)) (id : String) :
    Identity.ofTypeName (String.ofList (fullName enclosing name arguments)) id =
      ⟨String.ofList (namedBy enclosing name), id⟩ ∧
    ((∀ item ∈ enclosing, item.beforeBracket? = none) → namedBy enclosing name = name.chars) ∧
    (namedBy enclosing name = [] ↔ enclosing.findSome? Component.beforeBracket? = some []) := by
  refine ⟨?_, fun plain => ?_, ?_⟩
  · rw [Identity.ofTypeName, ofText, String.toList_ofList, unqualified_fullName]
  · rw [namedBy, List.findSome?_eq_none_iff.2 plain, Option.getD_none]
  · rw [namedBy]
    cases enclosing.findSome? Component.beforeBracket? with
    | none => simp [name.chars_ne_nil]
    | some front => simp

/-- The type of a function of vectors is named as vectors are, and a type declared in what another type
does as a trait is not named at all. -/
theorem identity_of_function_in_generic :
    let alloc : Identifier := ⟨"alloc".toList, by decide, List.all_eq_true.1 (by decide), by decide⟩
    let vec : Identifier := ⟨"vec".toList, by decide, List.all_eq_true.1 (by decide), by decide⟩
    let vector : Identifier := ⟨"Vec".toList, by decide, List.all_eq_true.1 (by decide), by decide⟩
    let new : Identifier := ⟨"new".toList, by decide, List.all_eq_true.1 (by decide), by decide⟩
    let clone : Identifier := ⟨"clone".toList, by decide, List.all_eq_true.1 (by decide), by decide⟩
    let copy : Identifier := ⟨"Copy".toList, by decide, List.all_eq_true.1 (by decide), by decide⟩
    let inGeneric := fullName [.plain alloc, .plain vec, .generic vector "u8".toList] new none
    let inTrait := fullName
      [.asTrait "case::Case".toList "core::clone::Clone".toList, .plain clone] copy none
    let failure : WriteFailure :=
      ⟨Identity.ofTypeName (String.ofList inTrait) "case-77", .permanent 1 (.failed "no" none)⟩
    inGeneric = "alloc::vec::Vec<u8>::new".toList ∧ unqualified inGeneric = vector.chars ∧
      unqualified inGeneric ≠ new.chars ∧
      inTrait = "<case::Case as core::clone::Clone>::clone::Copy".toList ∧
      failure.text = "Failed to store : case-77" := by
  intro alloc vec vector new clone copy inGeneric inTrait failure
  have named : unqualified inGeneric = vector.chars := unqualified_fullName _ _ _
  have unnamed : ofText (String.ofList inTrait) = "" := by
    rw [ofText, String.toList_ofList, unqualified_fullName]
    rfl
  refine ⟨by decide, named, ?_, by decide, ?_⟩
  · rw [named]
    decide
  · show "Failed to store " ++ (Identity.ofTypeName (String.ofList inTrait) "case-77").text = _
    rw [Identity.ofTypeName, unnamed]
    rfl

end SteadyStore.TypeName
