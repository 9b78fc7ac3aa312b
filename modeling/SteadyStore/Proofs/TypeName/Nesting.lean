import SteadyStore.Proofs.TypeName.Cuts
import SteadyStore.Proofs.TypeName.Grammar
/-!
# Arrows between brackets

In the text of a type all brackets match, if the one in an arrow is not counted (`Piece`). Splitting
does count it, as a closing bracket. So behind a text the depth is less by the number of its arrows, and
never less than zero (`depthBehind_textOf`). A separator between brackets is taken for one outside when
the arrows in front of it use up the depth of these brackets (`hasCut_textOf_iff`).
-/

namespace SteadyStore.TypeName

/-! ## Matching brackets -/

/-- A character that is no bracket. -/
structure Plain where
  char : Char
  opens : opensBracket char = false
  closes : closesBracket char = false

inductive BracketPair
  | angle
  | square
  | round
deriving DecidableEq, Repr

namespace BracketPair

def opening : BracketPair → Char
  | .angle => '<'
  | .square => '['
  | .round => '('

def closing : BracketPair → Char
  | .angle => '>'
  | .square => ']'
  | .round => ')'

theorem depthAfter_opening (pair : BracketPair) (depth : Nat) :
    depthAfter depth pair.opening = depth + 1 := by
  cases pair <;> rfl

theorem depthAfter_closing (pair : BracketPair) (depth : Nat) :
    depthAfter depth pair.closing = depth - 1 := by
  cases pair <;> rfl

end BracketPair

/-- A piece of a text in which all brackets match but those of arrows. -/
inductive Piece
  | plain (c : Plain)
  /-- The mark in front of what a function returns. -/
  | arrow
  | group (pair : BracketPair) (inside : List Piece)

mutual

def Piece.text : Piece → List Char
  | .plain c => [c.char]
  | .arrow => ['-', '>']
  | .group pair inside => pair.opening :: textOf inside ++ [pair.closing]

def textOf : List Piece → List Char
  | [] => []
  | piece :: pieces => piece.text ++ textOf pieces

end

mutual

/-- The number of arrows at any depth. -/
def Piece.arrows : Piece → Nat
  | .plain _ => 0
  | .arrow => 1
  | .group _ inside => arrowsOf inside

def arrowsOf : List Piece → Nat
  | [] => 0
  | piece :: pieces => piece.arrows + arrowsOf pieces

end

/-! ## The depth behind a text -/

theorem depthAfter_plain (c : Plain) (depth : Nat) : depthAfter depth c.char = depth :=
  depthAfter_of_not_bracket c.opens c.closes depth

mutual

theorem Piece.depthBehind_text (piece : Piece) (depth : Nat) :
    depthBehind depth piece.text = depth - piece.arrows := by
  cases piece with
  | plain c => exact depthAfter_plain c depth
  | arrow => rfl
  | group pair inside =>
    have behind := depthBehind_textOf inside (depth + 1)
    change depthBehind (depthAfter depth pair.opening) (textOf inside ++ [pair.closing]) = _
    rw [pair.depthAfter_opening, depthBehind_append, behind]
    change depthAfter _ pair.closing = _
    rw [pair.depthAfter_closing, Piece.arrows]
    omega

/-- Each arrow takes one level, and what stands between brackets takes no other. -/
theorem depthBehind_textOf (pieces : List Piece) (depth : Nat) :
    depthBehind depth (textOf pieces) = depth - arrowsOf pieces := by
  cases pieces with
  | nil => rfl
  | cons piece pieces =>
    rw [textOf, depthBehind_append, piece.depthBehind_text, depthBehind_textOf pieces, arrowsOf]
    omega

end

/-! ## Exposed separators -/

mutual

/-- A separator stands where the arrows in front of it have used up the depth. -/
def Piece.Exposes (separator : Char) (depth : Nat) : Piece → Prop
  | .plain c => c.char = separator ∧ depth = 0
  | .arrow => False
  | .group _ inside => Exposed separator (depth + 1) inside

/-- In one of the pieces, or between them, a separator stands where the arrows in front of it have used
up the depth. -/
def Exposed (separator : Char) (depth : Nat) : List Piece → Prop
  | [] => False
  | piece :: pieces =>
    piece.Exposes separator depth ∨ Exposed separator (depth - piece.arrows) pieces

end

section
variable {separator : Char} {depth : Nat}

theorem exposed_append {pieces others : List Piece} :
    Exposed separator depth (pieces ++ others) ↔
      Exposed separator depth pieces ∨ Exposed separator (depth - arrowsOf pieces) others := by
  induction pieces generalizing depth with
  | nil => simp [Exposed, arrowsOf]
  | cons piece pieces ih =>
    rw [List.cons_append, Exposed, Exposed, ih, arrowsOf, Nat.sub_sub, or_assoc]

theorem IsSeparator.not_opensBracket (separates : IsSeparator separator) :
    opensBracket separator = false := by
  rcases separates with rfl | rfl <;> rfl

theorem IsSeparator.not_closesBracket (separates : IsSeparator separator) :
    closesBracket separator = false := by
  rcases separates with rfl | rfl <;> rfl

theorem IsSeparator.ne_opening (separates : IsSeparator separator) (pair : BracketPair) :
    pair.opening ≠ separator := by
  rcases separates with rfl | rfl <;> cases pair <;> decide

theorem IsSeparator.ne_closing (separates : IsSeparator separator) (pair : BracketPair) :
    pair.closing ≠ separator := by
  rcases separates with rfl | rfl <;> cases pair <;> decide

theorem IsSeparator.not_mem_arrow (separates : IsSeparator separator) :
    separator ∉ Piece.arrow.text := by
  rcases separates with rfl | rfl <;> decide

theorem not_hasCut_of_not_mem {cs : List Char} (absent : separator ∉ cs) :
    ¬HasCut separator depth cs := by
  rintro ⟨front, back, rfl, -⟩
  exact absent (List.mem_append_right front List.mem_cons_self)

theorem hasCut_singleton {c : Char} :
    HasCut separator depth [c] ↔ c = separator ∧ depth = 0 := by
  rw [hasCut_cons, or_iff_left not_hasCut_nil]

mutual

theorem Piece.hasCut_text_iff (separates : IsSeparator separator) (piece : Piece) (depth : Nat) :
    HasCut separator depth piece.text ↔ piece.Exposes separator depth := by
  cases piece with
  | plain c => exact hasCut_singleton
  | arrow => exact iff_of_false (not_hasCut_of_not_mem separates.not_mem_arrow) id
  | group pair inside =>
    have notOpening : ¬(pair.opening = separator ∧ depth = 0) := fun same =>
      separates.ne_opening pair same.1
    have notClosing (level : Nat) : ¬(pair.closing = separator ∧ level = 0) := fun same =>
      separates.ne_closing pair same.1
    rw [Piece.text, List.cons_append, hasCut_cons, or_iff_right notOpening, pair.depthAfter_opening,
      hasCut_append, hasCut_singleton, or_iff_left (notClosing _),
      hasCut_textOf_iff separates inside, Piece.Exposes]

/-- Splitting cuts at the exposed separators. -/
theorem hasCut_textOf_iff (separates : IsSeparator separator) (pieces : List Piece) (depth : Nat) :
    HasCut separator depth (textOf pieces) ↔ Exposed separator depth pieces := by
  cases pieces with
  | nil => exact iff_of_false not_hasCut_nil id
  | cons piece pieces =>
    rw [textOf, hasCut_append, piece.hasCut_text_iff separates, piece.depthBehind_text,
      hasCut_textOf_iff separates pieces, Exposed]

end

/-! ## What an arrow exposes -/

mutual

theorem Piece.not_exposes_of_arrows_lt (piece : Piece) {depth : Nat} (few : piece.arrows < depth) :
    ¬piece.Exposes separator depth := by
  cases piece with
  | plain c => exact fun exposed => absurd exposed.2 (Nat.ne_of_gt few)
  | arrow => exact id
  | group pair inside => exact not_exposed_of_arrowsOf_lt inside (Nat.lt_succ_of_lt few)

/-- There is nothing exposed between more brackets than there are arrows. -/
theorem not_exposed_of_arrowsOf_lt (pieces : List Piece) {depth : Nat}
    (few : arrowsOf pieces < depth) : ¬Exposed separator depth pieces := by
  cases pieces with
  | nil => exact id
  | cons piece pieces =>
    rw [arrowsOf] at few
    rintro (first | later)
    · exact piece.not_exposes_of_arrows_lt (by omega) first
    · exact not_exposed_of_arrowsOf_lt pieces (by omega) later

end

/-- An arrow that stands outside all brackets exposes nothing. -/
theorem not_exposed_of_no_arrow_inside {pieces : List Piece}
    (outside : ∀ c, Piece.plain c ∈ pieces → c.char ≠ separator)
    (inside : ∀ pair inside, Piece.group pair inside ∈ pieces → arrowsOf inside = 0) :
    ¬Exposed separator 0 pieces := by
  induction pieces with
  | nil => exact id
  | cons piece pieces ih =>
    rintro (first | later)
    · cases piece with
      | plain c => exact outside c List.mem_cons_self first.1
      | arrow => exact first
      | group pair enclosed =>
        have none : arrowsOf enclosed = 0 := inside pair enclosed List.mem_cons_self
        exact not_exposed_of_arrowsOf_lt enclosed (by omega) first
    · rw [Nat.zero_sub] at later
      exact ih (fun c member => outside c (List.mem_cons_of_mem piece member))
        (fun pair enclosed member => inside pair enclosed (List.mem_cons_of_mem piece member)) later

/-- An arrow between brackets that no others enclose exposes what stands behind it there. -/
theorem exposed_of_arrow_inside (front back : List Piece) (pair : BracketPair)
    {before : List Piece} (arrow : 0 < arrowsOf before) (c : Plain) (after : List Piece) :
    Exposed c.char 0 (front ++ .group pair (before ++ .plain c :: after) :: back) := by
  have usedUp : 0 - arrowsOf front + 1 - arrowsOf before = 0 := by omega
  refine exposed_append.2 (.inr (.inl (exposed_append.2 (.inr (.inl ⟨rfl, ?_⟩)))))
  exact usedUp

end

end SteadyStore.TypeName
