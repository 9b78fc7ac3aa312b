import Mathlib.Data.List.Forall2
import SteadyStore.Proofs.TypeName.Descriptor
import SteadyStore.Proofs.TypeName.Slices
/-!
# Naming ends

What a name is made of is shorter than the text that is named (`length_lt_of_inBrackets`), so every text
has a name that is reached in finitely many steps (`reduces_iff`). Together with what splitting does to
any text this is `parts_of_any_text`.
-/

namespace SteadyStore.TypeName

/-! ## The steps -/

/-- What a slice, an array or a tuple encloses. -/
def InBrackets (cs inner : List Char) : Prop :=
  between? '[' ']' (bare cs) = some inner ∨ between? '(' ')' (bare cs) = some inner

theorem length_lt_of_inBrackets {cs inner part : List Char} (inside : InBrackets cs inner)
    {separator : Char} (member : part ∈ splitOutsideBrackets separator inner) :
    part.length < cs.length := by
  have piece : part.length ≤ inner.length := length_le_of_mem_splitOutsideBrackets member
  have enclosed : inner.length < (bare cs).length := inside.elim length_between?_lt length_between?_lt
  have trimmed : (bare cs).length ≤ cs.length := length_bare_le cs
  omega

/-- The name of a text, with the names of the parts that it is made of. -/
inductive Reduces : List Char → List Char → Prop
  | element {cs inner first name : List Char} {others : List (List Char)} :
    between? '[' ']' (bare cs) = some inner → splitOutsideBrackets ';' inner = first :: others →
    Reduces first name → Reduces cs (name ++ ['[', ']'])
  | elements {cs inner : List Char} {names : List (List Char)} :
    between? '[' ']' (bare cs) = none → between? '(' ')' (bare cs) = some inner →
    List.Forall₂ Reduces (elementsOf inner) names →
    Reduces cs ('(' :: List.intercalate [',', ' '] names ++ [')'])
  | path {cs : List Char} :
    between? '[' ']' (bare cs) = none → between? '(' ')' (bare cs) = none →
    Reduces cs (ofPath (bare cs))

/-! ## Each text has one name -/

theorem length_lt_of_mem_elementsOf {cs inner part : List Char} (inside : InBrackets cs inner)
    (member : part ∈ elementsOf inner) : part.length < cs.length :=
  length_lt_of_inBrackets inside (List.mem_filter.1 member).1

theorem reduces_unqualified (cs : List Char) : Reduces cs (unqualified cs) := by
  induction length : cs.length using Nat.strong_induction_on generalizing cs with
  | _ n ih =>
  subst length
  cases array : between? '[' ']' (bare cs) with
  | some inner =>
    obtain ⟨first, others, parts⟩ := exists_first_part ';' inner
    have member : first ∈ splitOutsideBrackets ';' inner := parts ▸ List.mem_cons_self
    rw [unqualified_of_array rfl array, parts]
    exact .element array parts (ih _ (length_lt_of_inBrackets (.inl array) member) first rfl)
  | none =>
    cases tuple : between? '(' ')' (bare cs) with
    | some inner =>
      rw [unqualified_of_tuple rfl array tuple]
      refine .elements array tuple (List.forall₂_map_right_iff.2 (List.forall₂_same.2 ?_))
      exact fun part member => ih _ (length_lt_of_mem_elementsOf (.inr tuple) member) part rfl
    | none =>
      rw [unqualified_of_path rfl array tuple]
      exact .path array tuple

theorem eq_map_of_forall₂ (f : List Char → List Char) {parts names : List (List Char)}
    (reduced : List.Forall₂ Reduces parts names)
    (each : ∀ part ∈ parts, ∀ name, Reduces part name → name = f part) : names = parts.map f := by
  induction reduced with
  | nil => rfl
  | cons first _ ih =>
    rw [List.map_cons, ← each _ List.mem_cons_self _ first,
      ← ih fun part member => each part (List.mem_cons_of_mem _ member)]

theorem Reduces.eq_unqualified {cs name : List Char} (reduced : Reduces cs name) :
    name = unqualified cs := by
  induction length : cs.length using Nat.strong_induction_on generalizing cs name with
  | _ n ih =>
  subst length
  cases reduced with
  | @element _ inner first name others array parts reduced =>
    have member : first ∈ splitOutsideBrackets ';' inner := parts ▸ List.mem_cons_self
    rw [unqualified_of_array rfl array, parts, List.headD_cons,
      ih _ (length_lt_of_inBrackets (.inl array) member) reduced rfl]
  | @elements _ inner names array tuple reduced =>
    have each := eq_map_of_forall₂ unqualified reduced fun part member name reduced =>
      ih _ (length_lt_of_mem_elementsOf (.inr tuple) member) reduced rfl
    rw [unqualified_of_tuple rfl array tuple, each]
  | path array tuple => rw [unqualified_of_path rfl array tuple]

theorem reduces_iff {cs name : List Char} : Reduces cs name ↔ name = unqualified cs :=
  ⟨Reduces.eq_unqualified, fun same => same ▸ reduces_unqualified cs⟩

/-! ## Any text -/

/-- Any text has a first part. Joined again its parts are the text, and it is cut at the separators that
no bracket encloses and nowhere else. The parts are slices between characters. What brackets enclose has
parts that are shorter than the whole, and so the text is reduced to just one name. -/
theorem parts_of_any_text {separator : Char} (opens : opensBracket separator = false)
    (closes : closesBracket separator = false) (cs : List Char) :
    (∃ first others, splitOutsideBrackets separator cs = first :: others) ∧
    List.intercalate [separator] (splitOutsideBrackets separator cs) = cs ∧
    (∀ front back, IsCut separator cs front back ↔
      cs = front ++ separator :: back ∧ depthBehind 0 front = 0) ∧
    (places separator cs).mapM (sliceAt? cs) = some (splitOutsideBrackets separator cs) ∧
    (∀ inner, InBrackets cs inner → ∀ mark, ∀ part ∈ splitOutsideBrackets mark inner,
      part.length < cs.length) ∧
    ∀ name, Reduces cs name ↔ name = unqualified cs := by
  refine ⟨exists_first_part separator cs, intercalate_splitOutsideBrackets separator cs,
    fun front back => isCut_iff opens closes, mapM_sliceAt?_places separator cs, ?_, ?_⟩
  · intro inner inside mark part member
    exact length_lt_of_inBrackets inside member
  · intro name
    exact reduces_iff

/-- Brackets may be missing on either side, and characters may take more than a byte. -/
theorem parts_of_unbalanced_text :
    let cs := "ß>,(é,ü),<,".toList
    opensBracket ',' = false ∧ closesBracket ',' = false ∧
      places ',' cs = [(0, 3), (4, 11), (12, 14)] ∧
      (places ',' cs).mapM (sliceAt? cs) = some ["ß>".toList, "(é,ü)".toList, "<,".toList] := by
  intro cs
  obtain ⟨-, -, -, slices, -⟩ := parts_of_any_text (rfl : opensBracket ',' = false) rfl cs
  exact ⟨rfl, rfl, by decide, slices.trans (by decide)⟩

end SteadyStore.TypeName
