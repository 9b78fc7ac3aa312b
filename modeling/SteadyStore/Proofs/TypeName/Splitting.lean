import SteadyStore.TypeName
/-!
# Texts that stay in one piece

A text stays in one piece if splitting puts all of it into one part and goes on behind it at the
bracket depth it started from (`StaysWhole`). What matching brackets enclose stays in one piece
one level up (`StaysWhole.enclosed`), whatever separators it holds. So a list of such texts is
split just between them (`splitOutsideBrackets_intercalate`).
-/

namespace SteadyStore.TypeName

/-- Puts a text in front of the first part. -/
def prepend (cs : List Char) (parts : List (List Char)) : List (List Char) :=
  cs.foldr consFirst parts

theorem prepend_append (cs ds : List Char) (parts : List (List Char)) :
    prepend (cs ++ ds) parts = prepend cs (prepend ds parts) := List.foldr_append

theorem prepend_part (cs part : List Char) (parts : List (List Char)) :
    prepend cs (part :: parts) = (cs ++ part) :: parts := by
  induction cs with
  | nil => rfl
  | cons c cs ih =>
    change consFirst c (prepend cs (part :: parts)) = _
    rw [ih]
    rfl

theorem closesBracket_of_opensBracket {c : Char} (opens : opensBracket c = true) :
    closesBracket c = false := by
  simp only [opensBracket, Bool.or_eq_true, decide_eq_true_eq] at opens
  rcases opens with (rfl | rfl) | rfl <;> decide

/-! ## One piece -/

/-- From this bracket depth on, the text goes into one part, and what follows is split at the
same depth. -/
def StaysWhole (separator : Char) (depth : Nat) (cs : List Char) : Prop :=
  ∀ rest, splitFrom separator depth (cs ++ rest) = prepend cs (splitFrom separator depth rest)

section
variable {separator : Char} {depth : Nat} {cs ds : List Char}

theorem staysWhole_nil : StaysWhole separator depth [] := fun _ => rfl

theorem StaysWhole.append (first : StaysWhole separator depth cs)
    (second : StaysWhole separator depth ds) : StaysWhole separator depth (cs ++ ds) := by
  intro rest
  rw [List.append_assoc, first, second, prepend_append]

theorem staysWhole_char {c : Char} (opens : opensBracket c = false)
    (closes : closesBracket c = false) (apart : depth = 0 → c ≠ separator) :
    StaysWhole separator depth [c] := by
  intro rest
  have notCut : ¬(c = separator ∧ depth = 0) := fun ⟨same, outside⟩ => apart outside same
  simp [splitFrom, prepend, opens, closes, notCut]

theorem staysWhole_of_forall (each : ∀ c ∈ cs, StaysWhole separator depth [c]) :
    StaysWhole separator depth cs := by
  induction cs with
  | nil => exact staysWhole_nil
  | cons c cs ih =>
    have others := ih fun d member => each d (List.mem_cons_of_mem c member)
    exact (each c List.mem_cons_self).append others

/-- Brackets take what they enclose one level down and back. -/
theorem StaysWhole.enclosed {opening closing : Char} (inside : StaysWhole separator (depth + 1) cs)
    (opens : opensBracket opening = true) (closes : closesBracket closing = true) :
    StaysWhole separator depth (opening :: cs ++ [closing]) := by
  intro rest
  have notOpens : opensBracket closing = false := by
    refine Bool.eq_false_iff.2 fun opens => ?_
    rw [closesBracket_of_opensBracket opens] at closes
    exact Bool.false_ne_true closes
  have behind : splitFrom separator (depth + 1) (closing :: rest) =
      consFirst closing (splitFrom separator depth rest) := by
    simp [splitFrom, depthAfter, notOpens, closes]
  calc splitFrom separator depth (opening :: cs ++ [closing] ++ rest)
      = consFirst opening (splitFrom separator (depth + 1) (cs ++ closing :: rest)) := by
        simp [splitFrom, depthAfter, opens]
    _ = consFirst opening (prepend cs (consFirst closing (splitFrom separator depth rest))) := by
        rw [inside, behind]
    _ = prepend (opening :: cs ++ [closing]) (splitFrom separator depth rest) := by
        rw [prepend_append]
        rfl

theorem staysWhole_intercalate {gap : List Char} {parts : List (List Char)}
    (between : StaysWhole separator depth gap)
    (each : ∀ part ∈ parts, StaysWhole separator depth part) :
    StaysWhole separator depth (List.intercalate gap parts) := by
  induction parts with
  | nil => exact staysWhole_nil
  | cons part parts ih =>
    have first := each part List.mem_cons_self
    have others := ih fun p member => each p (List.mem_cons_of_mem part member)
    cases parts with
    | nil => rwa [List.intercalate_singleton]
    | cons next parts =>
      rw [List.intercalate_cons_cons]
      exact (first.append between).append others

/-! ## Splitting between pieces -/

theorem splitOutsideBrackets_of_staysWhole (whole : StaysWhole separator 0 cs) :
    splitOutsideBrackets separator cs = [cs] := by
  have split := whole []
  rwa [List.append_nil, splitFrom, prepend_part, List.append_nil] at split

theorem splitOutsideBrackets_append (whole : StaysWhole separator 0 cs)
    (opens : opensBracket separator = false) (closes : closesBracket separator = false)
    (rest : List Char) :
    splitOutsideBrackets separator (cs ++ separator :: rest) =
      cs :: splitOutsideBrackets separator rest := by
  have cut : splitFrom separator 0 (separator :: rest) = [] :: splitFrom separator 0 rest := by
    simp [splitFrom, opens, closes]
  rw [splitOutsideBrackets, whole, cut, prepend_part, List.append_nil]
  rfl

/-- What stands in front of a list can be counted to its first text. -/
theorem append_intercalate_cons (front gap text : List Char) (texts : List (List Char)) :
    front ++ List.intercalate gap (text :: texts) =
      List.intercalate gap ((front ++ text) :: texts) := by
  cases texts <;> simp [List.intercalate_cons_cons]

/-- Pieces behind separators are split into just these pieces. What follows each separator stays
in front of the next piece. -/
theorem splitOutsideBrackets_intercalate {gap part : List Char} {parts : List (List Char)}
    (opens : opensBracket separator = false) (closes : closesBracket separator = false)
    (between : StaysWhole separator 0 gap) (whole : StaysWhole separator 0 part)
    (each : ∀ part ∈ parts, StaysWhole separator 0 part) :
    splitOutsideBrackets separator (List.intercalate (separator :: gap) (part :: parts)) =
      part :: parts.map (gap ++ ·) := by
  induction parts generalizing part with
  | nil => exact List.intercalate_singleton ▸ splitOutsideBrackets_of_staysWhole whole
  | cons next parts ih =>
    -- The gap becomes the beginning of the next piece.
    have joined := append_intercalate_cons gap (separator :: gap) next parts
    have others := ih (between.append (each next List.mem_cons_self)) fun p member =>
      each p (List.mem_cons_of_mem next member)
    rw [List.intercalate_cons_cons, List.append_assoc, List.cons_append,
      splitOutsideBrackets_append whole opens closes, joined, others, List.map_cons]

end

end SteadyStore.TypeName
