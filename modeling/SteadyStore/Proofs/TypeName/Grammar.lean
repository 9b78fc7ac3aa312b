import SteadyStore.Proofs.TypeName.Splitting
/-!
# Types and their texts

A type is a path with type arguments, a reference, a slice, an array, a tuple or a set of bounds
(`TypeExpr`). Its text writes it out in full (`TypeExpr.text`). Its descriptor keeps the last
component of each path and the brackets of slices, arrays and tuples (`TypeExpr.descriptor`).

A comma or a semicolon in the text of a type stands between brackets, and every bracket is closed
again. So the text stays in one piece at any depth (`TypeExpr.staysWhole_text`).
-/

namespace SteadyStore.TypeName

/-! ## Identifiers -/

/-- The marks that stand between identifiers. -/
def marks : List Char := ['&', '<', '>', '[', ']', '(', ')', ',', ';', ':', '+']

/-- The character can stand in an identifier. -/
def isNameChar (c : Char) : Bool := !isBlank c && !marks.contains c

/-- The words that stand in front of a type. -/
def keywords : List (List Char) := [['m', 'u', 't'], ['d', 'y', 'n']]

/-- A name in the text of a type. -/
structure Identifier where
  chars : List Char
  chars_ne_nil : chars ≠ []
  isNameChar_of_mem : ∀ c ∈ chars, isNameChar c = true
  not_mem_keywords : chars ∉ keywords

theorem not_isBlank_of_isNameChar {c : Char} (plain : isNameChar c = true) : isBlank c = false := by
  simp only [isNameChar, Bool.and_eq_true, Bool.not_eq_true'] at plain
  exact plain.1

theorem ne_of_isNameChar {c mark : Char} (plain : isNameChar c = true)
    (apart : isNameChar mark = false) : c ≠ mark := by
  rintro rfl
  exact Bool.false_ne_true (apart.symm.trans plain)

theorem not_opensBracket_of_isNameChar {c : Char} (plain : isNameChar c = true) :
    opensBracket c = false := by
  have less := ne_of_isNameChar plain (by decide : isNameChar '<' = false)
  have square := ne_of_isNameChar plain (by decide : isNameChar '[' = false)
  have round := ne_of_isNameChar plain (by decide : isNameChar '(' = false)
  simp [opensBracket, less, square, round]

theorem not_closesBracket_of_isNameChar {c : Char} (plain : isNameChar c = true) :
    closesBracket c = false := by
  have greater := ne_of_isNameChar plain (by decide : isNameChar '>' = false)
  have square := ne_of_isNameChar plain (by decide : isNameChar ']' = false)
  have round := ne_of_isNameChar plain (by decide : isNameChar ')' = false)
  simp [closesBracket, greater, square, round]

/-! ## Types -/

mutual

/-- A type as its full name spells it out. -/
inductive TypeExpr
  | named (path : TypePath)
  | reference (target : TypeExpr)
  | slice (element : TypeExpr)
  | array (element : TypeExpr) (length : Nat)
  | tuple (elements : List TypeExpr)
  | dyn (principal : TypePath) (others : List TypePath)

/-- A path of modules to a name, which may take type arguments. -/
inductive TypePath
  | mk (modules : List Identifier) (last : Identifier) (arguments : List TypeExpr)

end

def TypePath.last : TypePath → Identifier
  | .mk _ last _ => last

/-- The elements of a tuple. A single one keeps its comma. -/
def elementsText : List (List Char) → List Char
  | [element] => element ++ [',']
  | elements => List.intercalate [',', ' '] elements

/-- The type arguments behind a path, if there are any. -/
def argumentsText : List (List Char) → List Char
  | [] => []
  | arguments => '<' :: List.intercalate [',', ' '] arguments ++ ['>']

/-- The length of an array, behind its elements. -/
def lengthText (length : Nat) : List Char := ';' :: ' ' :: Nat.toDigits 10 length

def modulesText (modules : List Identifier) : List Char :=
  modules.flatMap fun component => component.chars ++ [':', ':']

mutual

/-- The full name of a type. -/
def TypeExpr.text : TypeExpr → List Char
  | .named path => path.text
  | .reference target => '&' :: target.text
  | .slice element => '[' :: element.text ++ [']']
  | .array element length => '[' :: (element.text ++ lengthText length) ++ [']']
  | .tuple elements => '(' :: elementsText (texts elements) ++ [')']
  | .dyn principal others => 'd' :: 'y' :: 'n' :: ' ' :: (principal.text ++ boundsText others)

def TypePath.text : TypePath → List Char
  | .mk modules last arguments =>
    modulesText modules ++ last.chars ++ argumentsText (texts arguments)

def texts : List TypeExpr → List (List Char)
  | [] => []
  | type :: types => type.text :: texts types

/-- The bounds behind the first. -/
def boundsText : List TypePath → List Char
  | [] => []
  | bound :: bounds => ' ' :: '+' :: ' ' :: (bound.text ++ boundsText bounds)

end

mutual

/-- What the full name of a type is reduced to. -/
def TypeExpr.descriptor : TypeExpr → List Char
  | .named path => path.last.chars
  | .reference target => target.descriptor
  | .slice element => element.descriptor ++ ['[', ']']
  | .array element _ => element.descriptor ++ ['[', ']']
  | .tuple elements => '(' :: List.intercalate [',', ' '] (descriptors elements) ++ [')']
  | .dyn principal _ => principal.last.chars

def descriptors : List TypeExpr → List (List Char)
  | [] => []
  | type :: types => type.descriptor :: descriptors types

end

/-! ## Types stay in one piece -/

section
variable {separator : Char} {depth : Nat}

/-- A mark that separates types or follows the element of an array. -/
def IsSeparator (separator : Char) : Prop := separator = ',' ∨ separator = ';'

theorem IsSeparator.not_isNameChar (separates : IsSeparator separator) :
    isNameChar separator = false := by
  rcases separates with rfl | rfl <;> decide

theorem IsSeparator.staysWhole_nameChars (separates : IsSeparator separator) {cs : List Char}
    (depth : Nat) (plain : ∀ c ∈ cs, isNameChar c = true) : StaysWhole separator depth cs :=
  staysWhole_of_forall fun c member =>
    staysWhole_char (not_opensBracket_of_isNameChar (plain c member))
      (not_closesBracket_of_isNameChar (plain c member))
      fun _ => ne_of_isNameChar (plain c member) separates.not_isNameChar

/-- The marks outside brackets separate no types. -/
theorem IsSeparator.staysWhole_marks (separates : IsSeparator separator) (cs : List Char)
    (depth : Nat) (among : ∀ c ∈ cs, c ∈ ['&', ':', '+', ' ']) : StaysWhole separator depth cs := by
  refine staysWhole_of_forall fun c member => ?_
  have mark := among c member
  simp only [List.mem_cons, List.not_mem_nil, or_false] at mark
  rcases separates with rfl | rfl <;> rcases mark with rfl | rfl | rfl | rfl <;>
    exact staysWhole_char (by decide) (by decide) fun _ => by decide

/-- Between brackets even a comma keeps a text in one piece. -/
theorem staysWhole_comma : StaysWhole separator (depth + 1) [',', ' '] :=
  staysWhole_of_forall fun c member => by
    have comma : c = ',' ∨ c = ' ' := by simpa using member
    rcases comma with rfl | rfl <;>
      exact staysWhole_char (by decide) (by decide) fun outside => absurd outside (by simp)

theorem staysWhole_lengthText (length : Nat) :
    StaysWhole separator (depth + 1) (lengthText length) := by
  refine staysWhole_of_forall fun c member => ?_
  have inside : depth + 1 = 0 → c ≠ separator := fun outside => absurd outside (by simp)
  simp only [lengthText, List.mem_cons] at member
  rcases member with rfl | rfl | digit
  · exact staysWhole_char (by decide) (by decide) inside
  · exact staysWhole_char (by decide) (by decide) inside
  · have digit := Nat.isDigit_of_mem_toDigits (by decide) (by decide) digit
    refine staysWhole_char (Bool.eq_false_iff.2 fun opens => ?_)
      (Bool.eq_false_iff.2 fun closes => ?_) inside
    · simp only [opensBracket, Bool.or_eq_true, decide_eq_true_eq] at opens
      rcases opens with (rfl | rfl) | rfl <;> exact absurd digit (by decide)
    · simp only [closesBracket, Bool.or_eq_true, decide_eq_true_eq] at closes
      rcases closes with (rfl | rfl) | rfl <;> exact absurd digit (by decide)

theorem staysWhole_elementsText {elements : List (List Char)}
    (each : ∀ element ∈ elements, StaysWhole separator (depth + 1) element) :
    StaysWhole separator (depth + 1) (elementsText elements) := by
  unfold elementsText
  split
  · have comma : StaysWhole separator (depth + 1) [','] :=
      staysWhole_char (by decide) (by decide) fun outside => absurd outside (by simp)
    exact (each _ List.mem_cons_self).append comma
  · exact staysWhole_intercalate staysWhole_comma each

theorem staysWhole_argumentsText {arguments : List (List Char)}
    (each : ∀ argument ∈ arguments, StaysWhole separator (depth + 1) argument) :
    StaysWhole separator depth (argumentsText arguments) := by
  unfold argumentsText
  split
  · exact staysWhole_nil
  · exact (staysWhole_intercalate staysWhole_comma each).enclosed (by decide) (by decide)

theorem staysWhole_modulesText (separates : IsSeparator separator) (modules : List Identifier) :
    StaysWhole separator depth (modulesText modules) := by
  induction modules with
  | nil => exact staysWhole_nil
  | cons component modules ih =>
    have name := separates.staysWhole_nameChars depth component.isNameChar_of_mem
    have colons := separates.staysWhole_marks [':', ':'] depth (by simp)
    exact (name.append colons).append ih

mutual

/-- A type is split neither at the commas nor at the semicolons in its text. -/
theorem TypeExpr.staysWhole_text (separates : IsSeparator separator) (type : TypeExpr)
    (depth : Nat) : StaysWhole separator depth type.text := by
  cases type with
  | named path => exact path.staysWhole_text separates depth
  | reference target =>
    have mark := separates.staysWhole_marks ['&'] depth (by simp)
    exact mark.append (target.staysWhole_text separates depth)
  | slice element =>
    have inside := element.staysWhole_text separates (depth + 1)
    exact inside.enclosed (by decide) (by decide)
  | array element length =>
    have inside := element.staysWhole_text separates (depth + 1)
    exact (inside.append (staysWhole_lengthText length)).enclosed (by decide) (by decide)
  | tuple elements =>
    have inside := staysWhole_texts separates elements (depth + 1)
    exact (staysWhole_elementsText inside).enclosed (by decide) (by decide)
  | dyn principal others =>
    have word : StaysWhole separator depth ['d', 'y', 'n'] :=
      separates.staysWhole_nameChars depth (List.all_eq_true.1 (by decide))
    have blank := separates.staysWhole_marks [' '] depth (by simp)
    have first := principal.staysWhole_text separates depth
    exact (word.append blank).append (first.append (staysWhole_boundsText separates others depth))

theorem TypePath.staysWhole_text (separates : IsSeparator separator) (path : TypePath)
    (depth : Nat) : StaysWhole separator depth path.text := by
  obtain ⟨modules, last, arguments⟩ := path
  have name := separates.staysWhole_nameChars depth last.isNameChar_of_mem
  exact ((staysWhole_modulesText separates modules).append name).append
    (staysWhole_argumentsText (staysWhole_texts separates arguments (depth + 1)))

theorem staysWhole_texts (separates : IsSeparator separator) (types : List TypeExpr)
    (depth : Nat) : ∀ text ∈ texts types, StaysWhole separator depth text := by
  cases types with
  | nil => simp [texts]
  | cons type types =>
    simp only [texts, List.mem_cons]
    rintro text (rfl | member)
    · exact type.staysWhole_text separates depth
    · exact staysWhole_texts separates types depth text member

theorem staysWhole_boundsText (separates : IsSeparator separator) (bounds : List TypePath)
    (depth : Nat) : StaysWhole separator depth (boundsText bounds) := by
  cases bounds with
  | nil => exact staysWhole_nil
  | cons bound bounds =>
    have plus := separates.staysWhole_marks [' ', '+', ' '] depth (by simp)
    have first := bound.staysWhole_text separates depth
    exact plus.append (first.append (staysWhole_boundsText separates bounds depth))

end

end

end SteadyStore.TypeName
