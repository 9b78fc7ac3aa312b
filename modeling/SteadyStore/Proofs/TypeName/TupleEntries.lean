import SteadyStore.Proofs.TypeName.Descriptor
import SteadyStore.Proofs.TypeName.Nesting
/-!
# The entries of a tuple

Texts joined by commas come back if and only if none of them is cut and the depth is zero behind each but
the last (`split_intercalate_eq_iff`). Where the brackets of the elements of a tuple match, they are never
taken together: its entries are those of each element by itself (`map_elementsOf_elementsText`). So there
is one for each element, if no arrow exposes a comma of an element, and more of them otherwise
(`entries_of_tuple`). A bracket that a literal stands for is not matched, and takes elements together.
-/

namespace SteadyStore.TypeName

/-! ## Texts are split by themselves -/

section
variable {β : Type} {f : List Char → β}

/-- A blank in front goes into the first part. -/
theorem exists_split_cons_blank (cs : List Char) :
    ∃ first others, splitOutsideBrackets ',' cs = first :: others ∧
      splitOutsideBrackets ',' (' ' :: cs) = (' ' :: first) :: others := by
  obtain ⟨first, others, parts⟩ := exists_first_part ',' cs
  refine ⟨first, others, parts, ?_⟩
  change splitFrom ',' (depthAfter 0 ' ') cs = first :: others at parts
  rw [splitOutsideBrackets, splitFrom_cons rfl rfl, if_neg (by simp), parts]
  rfl

theorem map_split_cons_blank (blind : ∀ cs, f (' ' :: cs) = f cs) (cs : List Char) :
    (splitOutsideBrackets ',' (' ' :: cs)).map f = (splitOutsideBrackets ',' cs).map f := by
  obtain ⟨first, others, parts, blank⟩ := exists_split_cons_blank cs
  rw [parts, blank, List.map_cons, List.map_cons, blind]

theorem map_elementsOf_cons_blank (blind : ∀ cs, f (' ' :: cs) = f cs) (cs : List Char) :
    (elementsOf (' ' :: cs)).map f = (elementsOf cs).map f := by
  obtain ⟨first, others, parts, blank⟩ := exists_split_cons_blank cs
  rw [elementsOf, elementsOf, parts, blank, List.filter_cons, List.filter_cons, trimBlanks_cons_blank]
  split
  · rw [List.map_cons, List.map_cons, blind]
  · rfl

theorem split_intercalate {text : List Char} {texts : List (List Char)}
    (level : ∀ t ∈ text :: texts, depthBehind 0 t = 0) :
    splitOutsideBrackets ',' (List.intercalate [',', ' '] (text :: texts)) =
      splitOutsideBrackets ',' text ++
        texts.flatMap fun text => splitOutsideBrackets ',' (' ' :: text) := by
  have between : depthBehind 0 [' '] = 0 := rfl
  exact splitOutsideBrackets_intercalate_level rfl rfl between (level text List.mem_cons_self)
    fun t member => level t (List.mem_cons_of_mem text member)

/-- Nothing stands behind the comma of a single element. -/
theorem elementsOf_elementsText_singleton {text : List Char} (level : depthBehind 0 text = 0) :
    elementsOf (elementsText [text]) = elementsOf text := by
  have cut : splitOutsideBrackets ',' (text ++ [',']) = splitOutsideBrackets ',' text ++ [[]] :=
    splitFrom_append_separator rfl rfl level []
  rw [elementsText, elementsOf, cut, List.filter_append]
  exact List.append_nil _

/-- Whatever the texts are, each contributes what it is split into by itself. -/
theorem map_elementsOf_elementsText (blind : ∀ cs, f (' ' :: cs) = f cs)
    {texts : List (List Char)} (level : ∀ text ∈ texts, depthBehind 0 text = 0) :
    (elementsOf (elementsText texts)).map f = texts.flatMap fun text => (elementsOf text).map f := by
  rcases texts with _ | ⟨text, _ | ⟨next, texts⟩⟩
  · rfl
  · rw [elementsOf_elementsText_singleton (level text List.mem_cons_self), List.flatMap_singleton]
  · have parts : elementsOf (elementsText (text :: next :: texts)) =
        elementsOf text ++ (next :: texts).flatMap fun text => elementsOf (' ' :: text) := by
      change (splitOutsideBrackets ','
        (List.intercalate [',', ' '] (text :: next :: texts))).filter _ = _
      rw [split_intercalate level, List.filter_append, List.filter_flatMap]
      rfl
    rw [parts, List.map_append, List.map_flatMap]
    simp only [map_elementsOf_cons_blank blind]
    rfl

end

/-! ## Texts that come back -/

theorem count_dropWhile {p : Char → Bool} {c : Char} (other : p c = false) (cs : List Char) :
    (cs.dropWhile p).count c = cs.count c := by
  induction cs with
  | nil => rfl
  | cons d cs ih =>
    rw [List.dropWhile_cons]
    split
    next dropped =>
      have apart : d ≠ c := by
        rintro rfl
        rw [other] at dropped
        cases dropped
      rw [ih, List.count_cons_of_ne apart]
    next => rfl

/-- Trimming takes no character that is no blank. -/
theorem count_trimBlanks {c : Char} (firm : isBlank c = false) (cs : List Char) :
    (trimBlanks cs).count c = cs.count c := by
  rw [trimBlanks, trimTrailingBlanks, List.count_reverse, count_dropWhile firm, List.count_reverse,
    count_dropWhile firm]

theorem isEmpty_trimBlanks {c : Char} {cs : List Char} (member : c ∈ cs) (firm : isBlank c = false) :
    (trimBlanks cs).isEmpty = false := by
  have kept : c ∈ trimBlanks cs := by
    rw [← List.count_pos_iff, count_trimBlanks firm]
    exact List.count_pos_iff.2 member
  exact List.isEmpty_eq_false_iff_exists_mem.2 ⟨c, kept⟩

/-- The place of a mark is fixed by the number of marks in front of it. -/
theorem eq_of_append_cons_eq {mark : Char} {front back start rest : List Char}
    (same : front ++ mark :: back = start ++ mark :: rest)
    (counts : front.count mark = start.count mark) : front = start := by
  rcases List.append_eq_append_iff.1 same with ⟨between, rfl, shape⟩ | ⟨between, rfl, shape⟩
  all_goals
    cases between with
    | nil => simp
    | cons c between =>
      obtain ⟨rfl, -⟩ := List.cons_eq_cons.1 shape
      rw [List.count_append, List.count_cons_self] at counts
      omega

/-- A first part that is a text up to blanks is that text, as it has the same commas. -/
theorem head_split_of_trimBlanks {text back next : List Char} {rest : List (List Char)}
    (same : (splitOutsideBrackets ',' (text ++ ',' :: back)).map trimBlanks =
      trimBlanks text :: next :: rest) :
    (splitOutsideBrackets ',' (text ++ ',' :: back)).headD [] = text := by
  have lossless := intercalate_splitOutsideBrackets ',' (text ++ ',' :: back)
  obtain ⟨first, more, parts, trimmed, others⟩ := List.map_eq_cons_iff.1 same
  obtain ⟨second, more, rfl, -⟩ := List.map_eq_cons_iff.1 others
  have commas : first.count ',' = text.count ',' := by
    rw [← count_trimBlanks rfl first, trimmed, count_trimBlanks rfl text]
  rw [parts, List.intercalate_cons_cons, List.append_assoc] at lossless
  rw [parts]
  exact eq_of_append_cons_eq lossless commas

/-- The first of several texts comes back if and only if it is not cut itself and leaves the depth at
zero. The others are then split as if they stood alone. -/
theorem split_intercalate_cons_eq_iff (text next : List Char) (texts : List (List Char)) :
    (splitOutsideBrackets ',' (List.intercalate [',', ' '] (text :: next :: texts))).map trimBlanks =
        (text :: next :: texts).map trimBlanks ↔
      (¬HasCut ',' 0 text ∧ depthBehind 0 text = 0) ∧
        (splitOutsideBrackets ',' (List.intercalate [',', ' '] (next :: texts))).map trimBlanks =
          (next :: texts).map trimBlanks := by
  generalize rest : List.intercalate [',', ' '] (next :: texts) = others
  have joined : List.intercalate [',', ' '] (text :: next :: texts) = text ++ ',' :: ' ' :: others := by
    rw [List.intercalate_cons_cons, rest, List.append_assoc]
    rfl
  have parts (whole : ¬HasCut ',' 0 text ∧ depthBehind 0 text = 0) :
      (splitOutsideBrackets ',' (text ++ ',' :: ' ' :: others)).map trimBlanks =
        trimBlanks text :: (splitOutsideBrackets ',' others).map trimBlanks := by
    rw [split_append_of_not_hasCut rfl rfl whole.1 whole.2, List.map_cons,
      map_split_cons_blank trimBlanks_cons_blank]
  rw [joined, List.map_cons]
  constructor
  · intro same
    have whole := (head_split_append_iff rfl rfl).1 (head_split_of_trimBlanks same)
    rw [parts whole, List.cons_eq_cons] at same
    exact ⟨whole, same.2⟩
  · rintro ⟨whole, same⟩
    rw [parts whole, same]

/-- Texts come back from their list if and only if none of them is cut and the depth is zero behind each
but the last. -/
theorem split_intercalate_eq_iff {texts : List (List Char)} (any : texts ≠ []) :
    (splitOutsideBrackets ',' (List.intercalate [',', ' '] texts)).map trimBlanks =
        texts.map trimBlanks ↔
      (∀ text ∈ texts, ¬HasCut ',' 0 text) ∧ ∀ text ∈ texts.dropLast, depthBehind 0 text = 0 := by
  obtain ⟨text, texts, rfl⟩ := List.exists_cons_of_ne_nil any
  clear any
  induction texts generalizing text with
  | nil =>
    rw [List.intercalate_singleton, List.forall_mem_singleton, List.dropLast_singleton,
      and_iff_left fun _ member => absurd member List.not_mem_nil, ← length_split_eq_one_iff rfl rfl]
    constructor
    · intro same
      simpa using congrArg List.length same
    · intro alone
      rw [split_eq_singleton alone]
  | cons next texts ih =>
    have behind : (∀ t ∈ (text :: next :: texts).dropLast, depthBehind 0 t = 0) ↔
        depthBehind 0 text = 0 ∧ ∀ t ∈ (next :: texts).dropLast, depthBehind 0 t = 0 := by
      rw [List.dropLast_cons_cons, List.forall_mem_cons]
    rw [split_intercalate_cons_eq_iff, ih next, behind, List.forall_mem_cons (a := text),
      and_and_and_comm]

theorem elementsOf_eq_singleton {text : List Char} (uncut : ¬HasCut ',' 0 text)
    (firm : ∃ c ∈ text, isBlank c = false) : elementsOf text = [text] := by
  obtain ⟨c, member, firm⟩ := firm
  have kept : (!(trimBlanks text).isEmpty) = true := by
    rw [isEmpty_trimBlanks member firm]
    rfl
  rw [elementsOf, split_eq_singleton ((length_split_eq_one_iff rfl rfl).2 uncut)]
  exact List.filter_cons_of_pos kept

/-! ## Elements -/

/-- The text of a type: no comma and no semicolon stands outside its brackets. -/
structure Element where
  pieces : List Piece
  not_separator : ∀ c, Piece.plain c ∈ pieces → ¬IsSeparator c.char
  exists_firm : ∃ c ∈ textOf pieces, isBlank c = false

namespace Element

def text (e : Element) : List Char := textOf e.pieces

/-- The element falls into parts at this separator. -/
def IsCutAt (e : Element) (separator : Char) : Prop := Exposed separator 0 e.pieces

theorem depthBehind_text (e : Element) : depthBehind 0 e.text = 0 := by
  rw [text, depthBehind_textOf, Nat.zero_sub]

theorem hasCut_text_iff (e : Element) {separator : Char} (separates : IsSeparator separator) :
    HasCut separator 0 e.text ↔ e.IsCutAt separator :=
  hasCut_textOf_iff separates e.pieces 0

theorem length_split_eq_one_iff (e : Element) {separator : Char} (separates : IsSeparator separator) :
    (splitOutsideBrackets separator e.text).length = 1 ↔ ¬e.IsCutAt separator := by
  rw [TypeName.length_split_eq_one_iff separates.not_opensBracket separates.not_closesBracket,
    e.hasCut_text_iff separates]

end Element

/-! ## One entry or more -/

theorem exists_brackets_of_group {separator : Char} (separates : IsSeparator separator)
    {pair : BracketPair} {inside : List Piece} {front back : List Char}
    (shape : (Piece.group pair inside).text = front ++ separator :: back) :
    (∃ c ∈ front, opensBracket c = true) ∧ ∃ c ∈ back, closesBracket c = true := by
  have opens : opensBracket pair.opening = true := by cases pair <;> rfl
  have closes : closesBracket pair.closing = true := by cases pair <;> rfl
  have last : (separator :: back).getLast? = some pair.closing := by
    rw [← List.getLast?_append_cons front, ← shape]
    exact List.getLast?_concat
  constructor
  · cases front with
    | nil => exact absurd (List.cons_eq_cons.1 shape).1 (separates.ne_opening pair)
    | cons c front =>
      obtain ⟨rfl, -⟩ := List.cons_eq_cons.1 shape
      exact ⟨_, List.mem_cons_self, opens⟩
  · cases back with
    | nil => exact absurd (Option.some.inj last).symm (separates.ne_closing pair)
    | cons c back =>
      rw [List.getLast?_cons_cons] at last
      exact ⟨_, List.mem_of_getLast? last, closes⟩

/-- A separator stands between brackets if it does not stand outside all of them. -/
theorem exists_brackets_around {separator : Char} (separates : IsSeparator separator)
    {pieces : List Piece} (outside : ∀ c, Piece.plain c ∈ pieces → c.char ≠ separator)
    {front back : List Char} (shape : textOf pieces = front ++ separator :: back) :
    (∃ c ∈ front, opensBracket c = true) ∧ ∃ c ∈ back, closesBracket c = true := by
  induction pieces generalizing front with
  | nil => exact absurd shape.symm (List.append_ne_nil_of_right_ne_nil _ (List.cons_ne_nil _ _))
  | cons piece pieces ih =>
    have others {front : List Char} (shape : textOf pieces = front ++ separator :: back) :=
      ih (fun c member => outside c (List.mem_cons_of_mem piece member)) shape
    rw [textOf, List.append_eq_append_iff] at shape
    rcases shape with ⟨front, rfl, shape⟩ | ⟨rest, shape, behind⟩
    · -- The separator stands behind the piece.
      obtain ⟨⟨c, member, opens⟩, closes⟩ := others shape
      exact ⟨⟨c, List.mem_append_right _ member, opens⟩, closes⟩
    · cases rest with
      | nil =>
        have next : textOf pieces = [] ++ separator :: back := behind.symm
        obtain ⟨⟨c, member, -⟩, -⟩ := others next
        cases member
      | cons d rest =>
        obtain ⟨rfl, rfl⟩ := List.cons_eq_cons.1 behind
        have member : separator ∈ piece.text := shape ▸ List.mem_append_right _ List.mem_cons_self
        cases piece with
        | plain c => exact absurd (List.mem_singleton.1 member).symm (outside c List.mem_cons_self)
        | arrow => exact absurd member separates.not_mem_arrow
        | group pair inside =>
          obtain ⟨opens, c, member, closes⟩ := exists_brackets_of_group separates shape
          exact ⟨opens, c, List.mem_append_left _ member, closes⟩

theorem isBlank_of_opensBracket {c : Char} (opens : opensBracket c = true) : isBlank c = false := by
  simp only [opensBracket, Bool.or_eq_true, decide_eq_true_eq] at opens
  rcases opens with (rfl | rfl) | rfl <;> decide

theorem isBlank_of_closesBracket {c : Char} (closes : closesBracket c = true) :
    isBlank c = false := by
  simp only [closesBracket, Bool.or_eq_true, decide_eq_true_eq] at closes
  rcases closes with (rfl | rfl) | rfl <;> decide

namespace Element

theorem elementsOf_text (e : Element) (whole : ¬e.IsCutAt ',') : elementsOf e.text = [e.text] :=
  elementsOf_eq_singleton ((e.hasCut_text_iff (.inl rfl)).not.2 whole) e.exists_firm

/-- The first part of an element that is cut holds an opening bracket, and the last a closing one. -/
theorem two_le_length_elementsOf (e : Element) (cut : e.IsCutAt ',') :
    2 ≤ (elementsOf e.text).length := by
  have around {front back : List Char} (isCut : IsCut ',' e.text front back) :
      (∃ c ∈ front, opensBracket c = true) ∧ ∃ c ∈ back, closesBracket c = true :=
    exists_brackets_around (.inl rfl) (fun c member same => e.not_separator c member (.inl same))
      ((isCut_iff rfl rfl).1 isCut).1
  obtain ⟨first, others, parts⟩ := exists_first_part ',' e.text
  rcases List.eq_nil_or_concat' others with rfl | ⟨between, last, rfl⟩
  · have alone : (splitOutsideBrackets ',' e.text).length = 1 := by rw [parts, List.length_singleton]
    exact absurd cut ((e.length_split_eq_one_iff (.inl rfl)).1 alone)
  · obtain ⟨⟨c, begins, opens⟩, -⟩ := around
      ⟨[first], between ++ [last], List.cons_ne_nil _ _, by simp, parts, rfl, rfl⟩
    obtain ⟨-, d, ends, closes⟩ := around
      ⟨first :: between, [last], List.cons_ne_nil _ _, List.cons_ne_nil _ _, parts, rfl, rfl⟩
    rw [List.intercalate_singleton] at begins ends
    have keepsFirst := isEmpty_trimBlanks begins (isBlank_of_opensBracket opens)
    have keepsLast := isEmpty_trimBlanks ends (isBlank_of_closesBracket closes)
    rw [elementsOf, parts]
    simp [keepsFirst, keepsLast]

theorem length_elementsOf_eq_one_iff (e : Element) :
    (elementsOf e.text).length = 1 ↔ ¬e.IsCutAt ',' := by
  constructor
  · intro alone cut
    have := e.two_le_length_elementsOf cut
    omega
  · intro whole
    rw [e.elementsOf_text whole, List.length_singleton]

theorem elementsOf_ne_nil (e : Element) : elementsOf e.text ≠ [] := by
  by_cases cut : e.IsCutAt ','
  · exact List.length_pos_iff.1 (by have := e.two_le_length_elementsOf cut; omega)
  · rw [e.elementsOf_text cut]
    exact List.cons_ne_nil _ _

end Element

section
variable {α β : Type} {l : List α} {f : α → List β}

theorem length_le_length_flatMap (any : ∀ a ∈ l, f a ≠ []) : l.length ≤ (l.flatMap f).length := by
  induction l with
  | nil => exact Nat.zero_le _
  | cons a l ih =>
    have first : 0 < (f a).length := List.length_pos_iff.2 (any a List.mem_cons_self)
    have others := ih fun b member => any b (List.mem_cons_of_mem a member)
    rw [List.flatMap_cons, List.length_append, List.length_cons]
    omega

theorem length_flatMap_eq_iff (any : ∀ a ∈ l, f a ≠ []) :
    (l.flatMap f).length = l.length ↔ ∀ a ∈ l, (f a).length = 1 := by
  induction l with
  | nil => exact iff_of_true rfl fun a member => absurd member List.not_mem_nil
  | cons a l ih =>
    have anyOther : ∀ b ∈ l, f b ≠ [] := fun b member => any b (List.mem_cons_of_mem a member)
    have first : 0 < (f a).length := List.length_pos_iff.2 (any a List.mem_cons_self)
    have others := length_le_length_flatMap anyOther
    rw [List.forall_mem_cons, ← ih anyOther, List.flatMap_cons, List.length_append, List.length_cons]
    omega

end

/-! ## Tuples and arrays -/

theorem unqualified_tuple (inner : List Char) :
    unqualified ('(' :: inner ++ [')']) =
      '(' :: List.intercalate [',', ' '] ((elementsOf inner).map unqualified) ++ [')'] := by
  have ends : EndsFirm ('(' :: inner ++ [')']) := endsFirm_append_char (by decide) _
  exact unqualified_of_tuple (bare_eq_self_of_opensBracket rfl ends)
    (between?_eq_none (by decide) _ _) (between?_enclosed '(' ')' inner)

section
variable (elements : List Element)

theorem level_texts : ∀ text ∈ elements.map Element.text, depthBehind 0 text = 0 := by
  intro text member
  obtain ⟨e, -, rfl⟩ := List.mem_map.1 member
  exact e.depthBehind_text

/-- There is one entry for each element, unless an element is cut. -/
theorem length_elementsOf_elements :
    (elementsOf (elementsText (elements.map Element.text))).length = elements.length ↔
      ∀ e ∈ elements, ¬e.IsCutAt ',' := by
  have entries := congrArg List.length
    (map_elementsOf_elementsText trimBlanks_cons_blank (level_texts elements))
  rw [List.length_map, List.flatMap_map] at entries
  rw [entries, length_flatMap_eq_iff fun e member => ?_]
  · simp only [List.length_map, Element.length_elementsOf_eq_one_iff]
  · simpa using e.elementsOf_ne_nil

theorem split_elements_iff (any : elements ≠ []) :
    (splitOutsideBrackets ',' (List.intercalate [',', ' '] (elements.map Element.text))).map trimBlanks =
      (elements.map Element.text).map trimBlanks ↔ ∀ e ∈ elements, ¬e.IsCutAt ',' := by
  have level : ∀ text ∈ (elements.map Element.text).dropLast, depthBehind 0 text = 0 :=
    fun text member => level_texts elements text (List.dropLast_subset _ member)
  rw [split_intercalate_eq_iff (by simpa using any), and_iff_left level, List.forall_mem_map]
  simp only [Element.hasCut_text_iff _ (.inl rfl)]

end

/-- What is named in a tuple of texts that are not cut is each of them. -/
theorem unqualified_tuple_of_uncut {texts : List (List Char)}
    (uncut : ∀ text ∈ texts, ¬HasCut ',' 0 text) (level : ∀ text ∈ texts, depthBehind 0 text = 0)
    (firm : ∀ text ∈ texts, ∃ c ∈ text, isBlank c = false) :
    unqualified ('(' :: elementsText texts ++ [')']) =
      '(' :: List.intercalate [',', ' '] (texts.map unqualified) ++ [')'] := by
  have alone : (texts.flatMap fun text => (elementsOf text).map unqualified) =
      texts.map unqualified := by
    rw [List.map_eq_flatMap]
    refine List.flatMap_congr fun text member => ?_
    rw [elementsOf_eq_singleton (uncut text member) (firm text member), List.map_singleton]
  rw [unqualified_tuple, map_elementsOf_elementsText unqualified_cons_blank level, alone]

/-- What stands in front of the length of an array is its element, unless the element is cut. -/
theorem head_split_lengthText_iff (e : Element) (length : Nat) :
    (splitOutsideBrackets ';' (e.text ++ lengthText length)).headD [] = e.text ↔ ¬e.IsCutAt ';' := by
  rw [lengthText, head_split_append_iff rfl rfl, and_iff_left e.depthBehind_text,
    e.hasCut_text_iff (.inr rfl)]

/-! ## All tuples -/

/-- The entries of a tuple are those of its elements, one after the other. There is one for each element
if and only if no comma of an element is exposed by the arrows in front of it, and the same holds of the
semicolon behind the element of an array. An arrow outside brackets exposes nothing, and one inside
exposes what stands behind it between the same brackets, if no others enclose these.

Texts of any kind, with brackets that need not match, come back if and only if none of them is cut and
the depth is zero behind each but the last. -/
theorem entries_of_tuple (elements : List Element) :
    let texts := elements.map Element.text
    let tuple := '(' :: elementsText texts ++ [')']
    unqualified tuple = '(' :: List.intercalate [',', ' ']
      (texts.flatMap fun text => (elementsOf text).map unqualified) ++ [')'] ∧
    ((elementsOf (elementsText texts)).length = elements.length ↔ ∀ e ∈ elements, ¬e.IsCutAt ',') ∧
    ((∀ e ∈ elements, ¬e.IsCutAt ',') →
      unqualified tuple = '(' :: List.intercalate [',', ' '] (texts.map unqualified) ++ [')']) ∧
    (elements ≠ [] →
      ((splitOutsideBrackets ',' (List.intercalate [',', ' '] texts)).map trimBlanks =
        texts.map trimBlanks ↔ ∀ e ∈ elements, ¬e.IsCutAt ',')) ∧
    (∀ (e : Element) length,
      (splitOutsideBrackets ';' (e.text ++ lengthText length)).headD [] = e.text ↔ ¬e.IsCutAt ';') ∧
    (∀ (e : Element) separator, IsSeparator separator →
      (∀ pair inside, Piece.group pair inside ∈ e.pieces → arrowsOf inside = 0) →
      ¬e.IsCutAt separator) ∧
    (∀ (e : Element) front pair before c after back,
      e.pieces = front ++ .group pair (before ++ .plain c :: after) :: back → 0 < arrowsOf before →
      e.IsCutAt c.char) ∧
    (∀ listed : List (List Char), listed ≠ [] →
      ((splitOutsideBrackets ',' (List.intercalate [',', ' '] listed)).map trimBlanks =
          listed.map trimBlanks ↔
        (∀ text ∈ listed, ¬HasCut ',' 0 text) ∧
          ∀ text ∈ listed.dropLast, depthBehind 0 text = 0)) ∧
    (∀ listed : List (List Char),
      (∀ text ∈ listed, ¬HasCut ',' 0 text) → (∀ text ∈ listed, depthBehind 0 text = 0) →
      (∀ text ∈ listed, ∃ c ∈ text, isBlank c = false) →
      unqualified ('(' :: elementsText listed ++ [')']) =
        '(' :: List.intercalate [',', ' '] (listed.map unqualified) ++ [')']) ∧
    ∀ text length, (splitOutsideBrackets ';' (text ++ lengthText length)).headD [] = text ↔
      ¬HasCut ';' 0 text ∧ depthBehind 0 text = 0 := by
  intro texts tuple
  have level := level_texts elements
  have entries : unqualified tuple = '(' :: List.intercalate [',', ' ']
      (texts.flatMap fun text => (elementsOf text).map unqualified) ++ [')'] := by
    rw [unqualified_tuple, map_elementsOf_elementsText unqualified_cons_blank level]
  refine ⟨entries, length_elementsOf_elements elements, fun whole => ?_, split_elements_iff elements,
    head_split_lengthText_iff, ?_, ?_, fun _ => split_intercalate_eq_iff,
    fun _ => unqualified_tuple_of_uncut, fun _ _ => head_split_append_iff rfl rfl⟩
  · refine unqualified_tuple_of_uncut ?_ level ?_
    · refine List.forall_mem_map.2 fun e member => ?_
      rw [e.hasCut_text_iff (.inl rfl)]
      exact whole e member
    · exact List.forall_mem_map.2 fun e _ => e.exists_firm
  · intro e separator separates inside
    exact not_exposed_of_no_arrow_inside
      (fun c member same => e.not_separator c member (same ▸ separates)) inside
  · intro e front pair before c after back shape arrow
    rw [Element.IsCutAt, shape]
    exact exposed_of_arrow_inside front back pair arrow c after

/-- The characters of a text that are no brackets. -/
def plainPieces (text : String) : List Piece :=
  text.toList.filterMap fun c =>
    if plain : opensBracket c = false ∧ closesBracket c = false then
      some (.plain ⟨c, plain.1, plain.2⟩)
    else none

/-- A type that takes a function and a number, with a number behind it, makes a tuple of three. The
element of an array of arrays is cut as well, if it holds functions. A bracket that is a literal takes
the elements behind it together with its own. -/
theorem entries_around_lone_brackets :
    let function := plainPieces "fn" ++ .group .round (plainPieces "u8") :: plainPieces " " ++
      .arrow :: plainPieces " u8"
    let result := plainPieces "core::result::Result" ++
      [.group .angle (function ++ plainPieces ", u8")]
    let functions := [Piece.group .square (function ++ plainPieces "; 2")]
    let literal := "driver::types::Chr<'('>".toList
    (textOf result = "core::result::Result<fn(u8) -> u8, u8>".toList ∧
      (splitOutsideBrackets ',' (List.intercalate [',', ' '] [textOf result, "u8".toList])).length = 3 ∧
      ofText "(core::result::Result<fn(u8) -> u8, u8>, u8)" = "(Result, u8>, u8)") ∧
    (textOf functions = "[fn(u8) -> u8; 2]".toList ∧
      (splitOutsideBrackets ';' (textOf functions ++ lengthText 3)).headD [] =
        "[fn(u8) -> u8".toList) ∧
    depthBehind 0 literal = 1 ∧
    (splitOutsideBrackets ','
      (List.intercalate [',', ' '] [literal, "u8".toList, "u16".toList])).length = 1 ∧
    ofText "(driver::types::Chr<'('>, u8, u16)" = "(Chr)" := by
  intro function result functions literal
  refine ⟨⟨by decide +kernel, by decide +kernel, ?_⟩, ⟨by decide +kernel, by decide +kernel⟩,
    by decide +kernel, by decide +kernel, ?_⟩
  · have entries : elementsOf "core::result::Result<fn(u8) -> u8, u8>, u8".toList =
        ["core::result::Result<fn(u8) -> u8".toList, " u8>".toList, " u8".toList] := by decide +kernel
    have tuple : unqualified "(core::result::Result<fn(u8) -> u8, u8>, u8)".toList = _ :=
      unqualified_tuple "core::result::Result<fn(u8) -> u8, u8>, u8".toList
    rw [ofText, tuple, entries, List.map_cons, List.map_cons, List.map_singleton,
      unqualified_of_path rfl rfl rfl, unqualified_of_path rfl rfl rfl, unqualified_of_path rfl rfl rfl]
    rfl
  · have entries : elementsOf "driver::types::Chr<'('>, u8, u16".toList =
        ["driver::types::Chr<'('>, u8, u16".toList] := by decide +kernel
    have tuple : unqualified "(driver::types::Chr<'('>, u8, u16)".toList = _ :=
      unqualified_tuple "driver::types::Chr<'('>, u8, u16".toList
    rw [ofText, tuple, entries, List.map_singleton, unqualified_of_path rfl rfl rfl]
    rfl

end SteadyStore.TypeName
