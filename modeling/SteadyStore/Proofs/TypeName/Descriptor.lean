import SteadyStore.Document
import SteadyStore.Proofs.TypeName.Ends
/-!
# The descriptor of a type

The full name of every type is reduced to its descriptor (`TypeExpr.unqualified_text`), by
induction on the type. References and the word in front of bounds go. The element of a slice or an
array is the first part of what its brackets enclose (`head_split_array`), and a tuple is cut into
its elements and at no type argument (`elementsOf_elementsText`).
-/

namespace SteadyStore.TypeName

/-! ## The three ways to a name -/

section
variable {cs ds inner : List Char}

/-- The elements of a tuple, with the blanks around them. -/
def elementsOf (inner : List Char) : List (List Char) :=
  (splitOutsideBrackets ',' inner).filter fun part => !(trimBlanks part).isEmpty

theorem unqualified_of_array (left : bare cs = ds) (array : between? '[' ']' ds = some inner) :
    unqualified cs = unqualified ((splitOutsideBrackets ';' inner).headD []) ++ ['[', ']'] := by
  subst left
  rw [unqualified]
  split
  · rename_i same
    cases array.symm.trans same
    rfl
  · rename_i other
    cases array.symm.trans other

theorem unqualified_of_tuple (left : bare cs = ds) (array : between? '[' ']' ds = none)
    (tuple : between? '(' ')' ds = some inner) :
    unqualified cs =
      '(' :: List.intercalate [',', ' '] ((elementsOf inner).map unqualified) ++ [')'] := by
  subst left
  rw [unqualified]
  split
  · rename_i other
    cases array.symm.trans other
  · split
    · rename_i same
      cases tuple.symm.trans same
      rw [← List.attach_map_subtype_val (elementsOf inner)]
      simp [elementsOf]
    · rename_i other
      cases tuple.symm.trans other

theorem unqualified_of_path (left : bare cs = ds) (array : between? '[' ']' ds = none)
    (tuple : between? '(' ')' ds = none) : unqualified cs = ofPath ds := by
  subst left
  rw [unqualified]
  split
  · rename_i other
    cases array.symm.trans other
  · split
    · rename_i other
      cases tuple.symm.trans other
    · rfl

/-- The name depends on nothing that goes before the type is looked at. -/
theorem unqualified_congr (same : bare cs = bare ds) : unqualified cs = unqualified ds := by
  cases array : between? '[' ']' (bare ds) with
  | some inner => rw [unqualified_of_array same array, unqualified_of_array rfl array]
  | none =>
    cases tuple : between? '(' ')' (bare ds) with
    | some inner =>
      rw [unqualified_of_tuple same array tuple, unqualified_of_tuple rfl array tuple]
    | none => rw [unqualified_of_path same array tuple, unqualified_of_path rfl array tuple]

end

/-! ## Types without their references and words -/

theorem TypeExpr.bare_text (type : TypeExpr) :
    bare type.text = dropDyn (dropMut (type.text.dropWhile (· = '&'))) := by
  rw [bare, type.trimBlanks_text]

theorem bare_reference (target : TypeExpr) :
    bare (TypeExpr.reference target).text = bare target.text := by
  rw [TypeExpr.bare_text, TypeExpr.bare_text]
  rfl

theorem bare_named (path : TypePath) :
    bare (TypeExpr.named path).text = path.text ++ boundsText [] := by
  rw [← path.text_eq_bounds]
  exact path.startsWithName_text.bare_eq_self path.endsFirm_text

theorem bare_dyn (principal : TypePath) (others : List TypePath) :
    bare (TypeExpr.dyn principal others).text = principal.text ++ boundsText others := by
  rw [TypeExpr.bare_text]
  exact (principal.startsWithName_bounds others).dropDyn_eq_self

theorem TypeExpr.bare_eq_text {type : TypeExpr} {c : Char} {rest : List Char}
    (front : type.text = c :: rest) (opens : opensBracket c = true) :
    bare type.text = type.text := by
  have ends := front ▸ type.endsFirm_text
  rw [front, bare_eq_self_of_opensBracket opens ends]

theorem between?_enclosed (opening closing : Char) (inner : List Char) :
    between? opening closing (opening :: inner ++ [closing]) = some inner := by
  simp [between?]

theorem between?_eq_none {opening c : Char} (other : c ≠ opening) (closing : Char)
    (rest : List Char) : between? opening closing (c :: rest) = none := by
  simp [between?, other]

theorem StartsWithName.between?_eq_none {cs : List Char} (starts : StartsWithName cs)
    {opening : Char} (mark : isNameChar opening = false) (closing : Char) :
    between? opening closing cs = none := by
  obtain ⟨c, rest, rfl, plain⟩ := starts.exists_cons
  exact TypeName.between?_eq_none (ne_of_isNameChar plain mark) closing rest

/-! ## The element of a slice, and the elements of a tuple -/

theorem head_split_slice (element : TypeExpr) :
    (splitOutsideBrackets ';' element.text).headD [] = element.text := by
  rw [splitOutsideBrackets_of_staysWhole (element.staysWhole_text (.inr rfl) 0)]
  rfl

theorem head_split_array (element : TypeExpr) (length : Nat) :
    (splitOutsideBrackets ';' (element.text ++ lengthText length)).headD [] = element.text := by
  rw [lengthText, splitOutsideBrackets_append (element.staysWhole_text (.inr rfl) 0) (by decide)
    (by decide)]
  rfl

/-- The texts of the elements as they stand between commas, each but the first behind a blank. -/
def behindCommas : List (List Char) → List (List Char)
  | [] => []
  | part :: parts => part :: parts.map ([' '] ++ ·)

theorem mem_behindCommas {part : List Char} {parts : List (List Char)}
    (member : part ∈ behindCommas parts) : ∃ p ∈ parts, part = p ∨ part = ' ' :: p := by
  cases parts with
  | nil => cases member
  | cons first parts =>
    rcases List.mem_cons.1 member with rfl | member
    · exact ⟨part, List.mem_cons_self, .inl rfl⟩
    · obtain ⟨p, among, rfl⟩ := List.mem_map.1 member
      exact ⟨p, List.mem_cons_of_mem first among, .inr rfl⟩

theorem map_behindCommas {f : List Char → β} (blank : ∀ cs, f (' ' :: cs) = f cs)
    (parts : List (List Char)) : (behindCommas parts).map f = parts.map f := by
  cases parts with
  | nil => rfl
  | cons part parts => simp [behindCommas, blank]

theorem texts_eq_map (types : List TypeExpr) : texts types = types.map TypeExpr.text := by
  induction types with
  | nil => rfl
  | cons type types ih => rw [texts, ih, List.map_cons]

/-- Nothing stands behind the comma of a single element, or in a tuple without any. -/
theorem split_elementsText (types : List TypeExpr) :
    splitOutsideBrackets ',' (elementsText (texts types)) = behindCommas (texts types) ++
      if types.length = 1 ∨ types = [] then [[]] else [] := by
  have whole (type : TypeExpr) : StaysWhole ',' 0 type.text := type.staysWhole_text (.inl rfl) 0
  rcases types with _ | ⟨type, _ | ⟨next, types⟩⟩
  · rfl
  · exact splitOutsideBrackets_append (whole type) (by decide) (by decide) []
  · have gap : StaysWhole ',' 0 [' '] := staysWhole_char (by decide) (by decide) fun _ => by decide
    have others : ∀ part ∈ texts (next :: types), StaysWhole ',' 0 part :=
      staysWhole_texts (.inl rfl) (next :: types) 0
    simpa [texts, elementsText, behindCommas] using
      splitOutsideBrackets_intercalate (by decide) (by decide) gap (whole type) others

/-- What a tuple encloses is cut into the elements and nowhere else. -/
theorem elementsOf_elementsText (types : List TypeExpr) :
    elementsOf (elementsText (texts types)) = behindCommas (texts types) := by
  have kept : ∀ part ∈ behindCommas (texts types), (!(trimBlanks part).isEmpty) = true := by
    intro part member
    obtain ⟨text, among, shape⟩ := mem_behindCommas member
    rw [texts_eq_map] at among
    obtain ⟨type, -, rfl⟩ := List.mem_map.1 among
    have trimmed : trimBlanks part = type.text := by
      rcases shape with rfl | rfl
      · exact type.trimBlanks_text
      · exact (trimBlanks_cons_blank type.text).trans type.trimBlanks_text
    obtain ⟨c, first, -⟩ := type.startsFirm_text
    obtain ⟨rest, shape⟩ := List.head?_eq_some_iff.1 first
    rw [trimmed, shape]
    rfl
  rw [elementsOf, split_elementsText, List.filter_append, List.filter_eq_self.2 kept]
  split <;> exact List.append_nil _

theorem trimBlanks_elementsOf (types : List TypeExpr) :
    (elementsOf (elementsText (texts types))).map trimBlanks = texts types := by
  rw [elementsOf_elementsText, map_behindCommas trimBlanks_cons_blank, texts_eq_map, List.map_map]
  exact List.map_congr_left fun type _ => type.trimBlanks_text

/-! ## Every type is reduced to its descriptor -/

theorem unqualified_cons_blank (cs : List Char) : unqualified (' ' :: cs) = unqualified cs :=
  unqualified_congr rfl

theorem unqualified_of_bounds {cs : List Char} {principal : TypePath} {others : List TypePath}
    (left : bare cs = principal.text ++ boundsText others) :
    unqualified cs = principal.last.chars := by
  have starts := principal.startsWithName_bounds others
  rw [unqualified_of_path left (starts.between?_eq_none (by decide) _)
    (starts.between?_eq_none (by decide) _), ofPath_text]

mutual

theorem TypeExpr.unqualified_text (type : TypeExpr) : unqualified type.text = type.descriptor := by
  cases type with
  | named path => exact unqualified_of_bounds (bare_named path)
  | reference target =>
    rw [unqualified_congr (bare_reference target), target.unqualified_text, TypeExpr.descriptor]
  | slice element =>
    have whole := TypeExpr.bare_eq_text (rfl : (TypeExpr.slice element).text = _) (by decide)
    rw [unqualified_of_array whole (between?_enclosed '[' ']' element.text), head_split_slice,
      element.unqualified_text, TypeExpr.descriptor]
  | array element length =>
    have whole := TypeExpr.bare_eq_text (rfl : (TypeExpr.array element length).text = _) (by decide)
    rw [unqualified_of_array whole (between?_enclosed '[' ']' (element.text ++ lengthText length)),
      head_split_array, element.unqualified_text, TypeExpr.descriptor]
  | tuple elements =>
    have whole := TypeExpr.bare_eq_text (rfl : (TypeExpr.tuple elements).text = _) (by decide)
    rw [unqualified_of_tuple whole (between?_eq_none (by decide) _ _)
      (between?_enclosed '(' ')' (elementsText (texts elements))), elementsOf_elementsText,
      map_behindCommas unqualified_cons_blank, map_unqualified_texts elements, TypeExpr.descriptor]
  | dyn principal others => exact unqualified_of_bounds (bare_dyn principal others)

theorem map_unqualified_texts (types : List TypeExpr) :
    (texts types).map unqualified = descriptors types := by
  cases types with
  | nil => rfl
  | cons type types =>
    rw [texts, List.map_cons, type.unqualified_text, map_unqualified_texts types, descriptors]

end

example : ofText "(&[T; 2], dyn A<B, C> + D)" = "(T[], A)" := by cbv

/-- The identity of a value names the descriptor of its type. No comma and no semicolon of a type
argument cuts an element of a slice, an array or a tuple. -/
theorem TypeExpr.identity_of_text (type : TypeExpr) (id : String) :
    ofText (String.ofList type.text) = String.ofList type.descriptor ∧
      Identity.ofTypeName (String.ofList type.text) id = ⟨String.ofList type.descriptor, id⟩ ∧
      (splitOutsideBrackets ';' type.text).headD [] = type.text ∧
      (∀ length, (splitOutsideBrackets ';' (type.text ++ lengthText length)).headD [] = type.text) ∧
      ∀ elements, (elementsOf (elementsText (texts elements))).map trimBlanks = texts elements := by
  have reduced : ofText (String.ofList type.text) = String.ofList type.descriptor := by
    rw [ofText, String.toList_ofList, type.unqualified_text]
  refine ⟨reduced, ?_, head_split_slice type, head_split_array type, trimBlanks_elementsOf⟩
  rw [Identity.ofTypeName, reduced]

end SteadyStore.TypeName
