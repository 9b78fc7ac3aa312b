import Mathlib.Data.List.DropRight
import SteadyStore.Proofs.TypeName.Grammar
/-!
# How the text of a type begins and ends

No text of a type begins or ends with a blank (`TypeExpr.trimBlanks_text`). A path starts with an
identifier, which is no keyword, so no word in front of it is dropped
(`StartsWithName.dropMut_eq_self`, `StartsWithName.dropDyn_eq_self`). Of a path and its bounds the
last component is left (`ofPath_text`).
-/

namespace SteadyStore.TypeName

/-! ## Nothing to trim -/

/-- The first character is no blank. -/
def StartsFirm (cs : List Char) : Prop := ∃ c ∈ cs.head?, isBlank c = false

/-- The last character is no blank. -/
def EndsFirm (cs : List Char) : Prop := ∃ c ∈ cs.getLast?, isBlank c = false

theorem EndsFirm.append_left {ds : List Char} (ends : EndsFirm ds) (cs : List Char) :
    EndsFirm (cs ++ ds) := by
  obtain ⟨c, last, firm⟩ := ends
  refine ⟨c, ?_, firm⟩
  rw [List.getLast?_append, Option.mem_def.1 last]
  rfl

theorem endsFirm_append_char {c : Char} (firm : isBlank c = false) (cs : List Char) :
    EndsFirm (cs ++ [c]) :=
  EndsFirm.append_left ⟨c, rfl, firm⟩ cs

theorem Identifier.endsFirm (name : Identifier) : EndsFirm name.chars :=
  ⟨name.chars.getLast name.chars_ne_nil, List.getLast?_eq_some_getLast name.chars_ne_nil,
    not_isBlank_of_isNameChar (name.isNameChar_of_mem _ (List.getLast_mem name.chars_ne_nil))⟩

theorem trimBlanks_eq_self {cs : List Char} (starts : StartsFirm cs) (ends : EndsFirm cs) :
    trimBlanks cs = cs := by
  obtain ⟨c, first, firm⟩ := starts
  obtain ⟨rest, rfl⟩ : ∃ rest, cs = c :: rest := List.head?_eq_some_iff.1 first
  have leading : (c :: rest).dropWhile isBlank = c :: rest :=
    List.dropWhile_cons_of_neg (by simp [firm])
  have trailing : (c :: rest).rdropWhile isBlank = c :: rest := by
    refine List.rdropWhile_eq_self_iff.2 fun nonempty => ?_
    obtain ⟨d, last, firm⟩ := ends
    rw [List.getLast?_eq_some_getLast nonempty, Option.mem_some_iff] at last
    simp [last, firm]
  rw [trimBlanks, leading]
  exact trailing

theorem trimBlanks_cons_blank (cs : List Char) : trimBlanks (' ' :: cs) = trimBlanks cs := rfl

/-! ## Names in front -/

/-- An identifier stands in front, as far as characters of identifiers go. -/
def StartsWithName (cs : List Char) : Prop :=
  ∃ name : Identifier, cs.takeWhile isNameChar = name.chars

theorem Identifier.startsWithName (name : Identifier) {rest : List Char}
    (apart : ∀ c ∈ rest.head?, isNameChar c = false) : StartsWithName (name.chars ++ rest) := by
  refine ⟨name, ?_⟩
  have stops : rest.takeWhile isNameChar = [] := by
    cases rest with
    | nil => rfl
    | cons c rest => simp [apart c rfl]
  rw [List.takeWhile_append_of_pos name.isNameChar_of_mem, stops, List.append_nil]

theorem StartsWithName.exists_cons {cs : List Char} (starts : StartsWithName cs) :
    ∃ c rest, cs = c :: rest ∧ isNameChar c = true := by
  obtain ⟨name, front⟩ := starts
  cases cs with
  | nil => exact absurd front.symm name.chars_ne_nil
  | cons c rest =>
    refine ⟨c, rest, rfl, ?_⟩
    by_contra other
    rw [List.takeWhile_cons_of_neg other] at front
    exact name.chars_ne_nil front.symm

theorem StartsWithName.startsFirm {cs : List Char} (starts : StartsWithName cs) :
    StartsFirm cs := by
  obtain ⟨c, rest, rfl, plain⟩ := starts.exists_cons
  exact ⟨c, rfl, not_isBlank_of_isNameChar plain⟩

theorem isNameChar_of_mem_keyword {word : List Char} (keyword : word ∈ keywords) :
    ∀ c ∈ word, isNameChar c = true := by
  have every : keywords.all (·.all isNameChar) = true := by decide
  exact List.all_eq_true.1 (List.all_eq_true.1 every word keyword)

theorem not_startsWithName_keyword (word : List Char) (keyword : word ∈ keywords)
    (rest : List Char) : ¬StartsWithName (word ++ ' ' :: rest) := by
  rintro ⟨name, front⟩
  rw [List.takeWhile_append_of_pos (isNameChar_of_mem_keyword keyword),
    List.takeWhile_cons_of_neg (by decide), List.append_nil] at front
  exact name.not_mem_keywords (front ▸ keyword)

theorem StartsWithName.dropMut_eq_self {cs : List Char} (starts : StartsWithName cs) :
    dropMut cs = cs := by
  unfold dropMut
  split
  · rename_i rest
    exact absurd starts (not_startsWithName_keyword ['m', 'u', 't'] (by decide) rest)
  · rfl

theorem StartsWithName.dropDyn_eq_self {cs : List Char} (starts : StartsWithName cs) :
    dropDyn cs = cs := by
  unfold dropDyn
  split
  · rename_i rest
    exact absurd starts (not_startsWithName_keyword ['d', 'y', 'n'] (by decide) rest)
  · rfl

/-! ## Nothing in front that goes -/

theorem StartsWithName.bare_eq_self {cs : List Char} (starts : StartsWithName cs)
    (ends : EndsFirm cs) : bare cs = cs := by
  obtain ⟨c, rest, shape, plain⟩ := starts.exists_cons
  have noMark : cs.dropWhile (· = '&') = cs := by
    have other : c ≠ '&' := ne_of_isNameChar plain (by decide)
    rw [shape]
    exact List.dropWhile_cons_of_neg (by simp [other])
  rw [bare, trimBlanks_eq_self starts.startsFirm ends, noMark, starts.dropMut_eq_self,
    starts.dropDyn_eq_self]

/-- Nothing in front of a bracket goes. -/
theorem bare_eq_self_of_opensBracket {c : Char} {rest : List Char} (opens : opensBracket c = true)
    (ends : EndsFirm (c :: rest)) : bare (c :: rest) = c :: rest := by
  simp only [opensBracket, Bool.or_eq_true, decide_eq_true_eq] at opens
  rw [bare, trimBlanks_eq_self ⟨c, rfl, ?_⟩ ends]
  · rcases opens with (rfl | rfl) | rfl <;> rfl
  · rcases opens with (rfl | rfl) | rfl <;> decide

/-! ## Paths -/

theorem TypePath.startsWithName (path : TypePath) {rest : List Char}
    (apart : ∀ c ∈ rest.head?, isNameChar c = false) : StartsWithName (path.text ++ rest) := by
  obtain ⟨modules, last, arguments⟩ := path
  cases modules with
  | nil =>
    rw [TypePath.text, modulesText, List.flatMap_nil, List.nil_append, List.append_assoc]
    refine last.startsWithName ?_
    cases arguments with
    | nil => exact apart
    | cons argument arguments =>
      rintro c ⟨⟩
      decide
  | cons component modules =>
    rw [TypePath.text, modulesText, List.flatMap_cons]
    simp only [List.append_assoc]
    refine component.startsWithName ?_
    rintro c ⟨⟩
    decide

theorem boundsText_head (bounds : List TypePath) :
    ∀ c ∈ (boundsText bounds).head?, isNameChar c = false := by
  cases bounds with
  | nil => simp [boundsText]
  | cons bound bounds =>
    rintro c ⟨⟩
    decide

theorem TypePath.endsFirm_text (path : TypePath) : EndsFirm path.text := by
  obtain ⟨modules, last, arguments⟩ := path
  cases arguments with
  | nil =>
    rw [TypePath.text, texts, argumentsText, List.append_nil]
    exact last.endsFirm.append_left _
  | cons argument arguments =>
    exact (endsFirm_append_char (by decide) _).append_left _

theorem endsFirm_bounds (principal : TypePath) (others : List TypePath) :
    EndsFirm (principal.text ++ boundsText others) := by
  induction others generalizing principal with
  | nil =>
    rw [boundsText, List.append_nil]
    exact principal.endsFirm_text
  | cons bound others ih => exact ((ih bound).append_left [' ', '+', ' ']).append_left _

theorem TypePath.startsWithName_bounds (principal : TypePath) (others : List TypePath) :
    StartsWithName (principal.text ++ boundsText others) :=
  principal.startsWithName (boundsText_head others)

theorem TypePath.text_eq_bounds (path : TypePath) : path.text = path.text ++ boundsText [] :=
  (List.append_nil path.text).symm

theorem TypePath.startsWithName_text (path : TypePath) : StartsWithName path.text :=
  path.text_eq_bounds ▸ path.startsWithName_bounds []

theorem TypeExpr.startsFirm_text (type : TypeExpr) : StartsFirm type.text := by
  cases type with
  | named path => exact path.startsWithName_text.startsFirm
  | _ => exact ⟨_, rfl, by decide⟩

theorem TypeExpr.endsFirm_text (type : TypeExpr) : EndsFirm type.text := by
  cases type with
  | named path => exact path.endsFirm_text
  | reference target => exact target.endsFirm_text.append_left ['&']
  | dyn principal others =>
    exact (endsFirm_bounds principal others).append_left ['d', 'y', 'n', ' ']
  | _ => exact endsFirm_append_char (by decide) _

theorem TypeExpr.trimBlanks_text (type : TypeExpr) : trimBlanks type.text = type.text :=
  trimBlanks_eq_self type.startsFirm_text type.endsFirm_text

/-! ## The last component -/

theorem before_append {first : Char} {mark cs : List Char} (absent : first ∉ cs)
    (rest : List Char) :
    before (first :: mark) (cs ++ rest) = cs ++ before (first :: mark) rest := by
  induction cs with
  | nil => rfl
  | cons c cs ih =>
    simp only [List.mem_cons, not_or] at absent
    simp [before, absent.1, ih absent.2]

theorem afterColons?_of_not_mem {cs : List Char} (absent : ':' ∉ cs) : afterColons? cs = none := by
  induction cs with
  | nil => rfl
  | cons c cs ih =>
    simp only [List.mem_cons, not_or] at absent
    simp [afterColons?, ih absent.2, Ne.symm absent.1]

theorem afterColons?_append {cs : List Char} (absent : ':' ∉ cs) (start : List Char) :
    afterColons? (start ++ ':' :: ':' :: cs) = some cs := by
  induction start with
  | nil =>
    have noColon : cs.head? ≠ some ':' := fun first => absent (List.mem_of_mem_head? first)
    simp [afterColons?, afterColons?_of_not_mem absent, noColon]
  | cons c start ih => simp [afterColons?, ih]

theorem lastComponent_of_not_mem {cs : List Char} (absent : ':' ∉ cs) : lastComponent cs = cs := by
  rw [lastComponent, afterColons?_of_not_mem absent, Option.getD_none]

theorem lastComponent_append {cs : List Char} (absent : ':' ∉ cs) (start : List Char) :
    lastComponent (start ++ ':' :: ':' :: cs) = cs := by
  rw [lastComponent, afterColons?_append absent, Option.getD_some]

theorem not_mem_of_plain {cs : List Char} (plain : ∀ c ∈ cs, isNameChar c = true) {mark : Char}
    (apart : isNameChar mark = false) : mark ∉ cs := fun member =>
  Bool.false_ne_true (apart.symm.trans (plain mark member))

/-- Modules go when there are any, whatever stands in front of them. -/
theorem lastComponent_modulesText {modules : List Identifier} (any : modules ≠ []) {cs : List Char}
    (plain : ∀ c ∈ cs, isNameChar c = true) (start : List Char) :
    lastComponent (start ++ (modulesText modules ++ cs)) = cs := by
  obtain ⟨front, component, rfl⟩ := (List.eq_nil_or_concat' modules).resolve_left any
  have shape : start ++ (modulesText (front ++ [component]) ++ cs) =
      start ++ modulesText front ++ component.chars ++ ':' :: ':' :: cs := by
    simp [modulesText]
  rw [shape, lastComponent_append (not_mem_of_plain plain (by decide))]

/-- Only colons and characters of identifiers stand in a path without type arguments. -/
theorem not_mem_path {cs : List Char} (plain : ∀ c ∈ cs, isNameChar c = true) {mark : Char}
    (apart : isNameChar mark = false) (other : mark ≠ ':') (modules : List Identifier) :
    mark ∉ modulesText modules ++ cs := by
  intro member
  rcases List.mem_append.1 member with member | member
  · obtain ⟨component, -, member⟩ := List.mem_flatMap.1 member
    rcases List.mem_append.1 member with member | member
    · exact not_mem_of_plain component.isNameChar_of_mem apart member
    · exact other (by simpa using member)
  · exact not_mem_of_plain plain apart member

/-- Nothing is named of what stands behind the bracket that opens type arguments, or the mark between
bounds. -/
theorem ofPath_append {front rest : List Char}
    (apart : before [' ', '+', ' '] (front ++ rest) = front ++ before [' ', '+', ' '] rest)
    (noArguments : '<' ∉ front)
    (behind : (before [' ', '+', ' '] rest).takeWhile (· ≠ '<') = []) :
    ofPath (front ++ rest) = lastComponent front := by
  have kept : ∀ c ∈ front, decide (c ≠ '<') = true := fun c member =>
    decide_eq_true fun same => noArguments (same ▸ member)
  rw [ofPath, apart, List.takeWhile_append_of_pos kept, behind, List.append_nil]

/-- A plus may stand in the type arguments already, but only behind the bracket that opens them. -/
theorem before_arguments (arguments : List TypeExpr) (others : List TypePath) :
    (before [' ', '+', ' '] (argumentsText (texts arguments) ++ boundsText others)).takeWhile
      (· ≠ '<') = [] := by
  cases arguments with
  | cons argument arguments => simp [texts, argumentsText, before]
  | nil =>
    cases others with
    | nil => rfl
    | cons bound others => simp [texts, argumentsText, boundsText, before]

/-- Of a path without type arguments the modules go. -/
theorem ofPath_modulesText {cs rest : List Char} (plain : ∀ c ∈ cs, isNameChar c = true)
    (behind : (before [' ', '+', ' '] rest).takeWhile (· ≠ '<') = []) (modules : List Identifier) :
    ofPath (modulesText modules ++ cs ++ rest) = cs := by
  have noBlank := not_mem_path plain (by decide : isNameChar ' ' = false) (by decide) modules
  have noArguments := not_mem_path plain (by decide : isNameChar '<' = false) (by decide) modules
  rw [ofPath_append (before_append noBlank rest) noArguments behind]
  by_cases any : modules = []
  · rw [any, modulesText, List.flatMap_nil, List.nil_append,
      lastComponent_of_not_mem (not_mem_of_plain plain (by decide))]
  · exact lastComponent_modulesText any plain []

/-- Bounds and type arguments go, then the modules. -/
theorem ofPath_text (path : TypePath) (others : List TypePath) :
    ofPath (path.text ++ boundsText others) = path.last.chars := by
  obtain ⟨modules, last, arguments⟩ := path
  rw [TypePath.text, List.append_assoc,
    ofPath_modulesText last.isNameChar_of_mem (before_arguments arguments others)]
  rfl

end SteadyStore.TypeName
