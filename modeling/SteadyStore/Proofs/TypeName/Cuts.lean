import SteadyStore.Proofs.TypeName.Splitting
/-!
# Where a text is cut

The parts of a text, joined again, give it back (`intercalate_splitOutsideBrackets`). It is cut at the
separators at bracket depth zero and nowhere else (`isCut_iff`), so it stays in one part if and only if
there is no such separator (`length_split_eq_one_iff`). Whether what stands in front of a separator is the
first part is told by this text alone (`head_split_append_iff`).
-/

namespace SteadyStore.TypeName

/-- The bracket depth behind a text that starts at the given depth. -/
def depthBehind (depth : Nat) (cs : List Char) : Nat := cs.foldl depthAfter depth

theorem depthBehind_append (depth : Nat) (cs ds : List Char) :
    depthBehind depth (cs ++ ds) = depthBehind (depthBehind depth cs) ds := List.foldl_append

section
variable {separator : Char} {depth : Nat} {cs front back : List Char}

/-! ## Nothing is lost -/

theorem intercalate_consFirst {gap : List Char} {parts : List (List Char)} (any : parts ≠ [])
    (c : Char) : List.intercalate gap (consFirst c parts) = c :: List.intercalate gap parts := by
  obtain ⟨part, parts, rfl⟩ := List.exists_cons_of_ne_nil any
  cases parts with
  | nil => rw [consFirst, List.intercalate_singleton, List.intercalate_singleton]
  | cons next parts =>
    rw [consFirst, List.intercalate_cons_cons, List.intercalate_cons_cons]
    rfl

theorem intercalate_splitFrom (separator : Char) (depth : Nat) (cs : List Char) :
    List.intercalate [separator] (splitFrom separator depth cs) = cs := by
  induction cs generalizing depth with
  | nil => exact List.intercalate_singleton
  | cons c cs ih =>
    rw [splitFrom]
    split
    · rw [intercalate_consFirst (splitFrom_ne_nil _ _ _), ih]
    · split
      next cut =>
        rw [List.intercalate_cons_of_ne_nil (splitFrom_ne_nil _ _ _), ih, cut.1]
        rfl
      next =>
        rw [intercalate_consFirst (splitFrom_ne_nil _ _ _), ih]

theorem intercalate_splitOutsideBrackets (separator : Char) (cs : List Char) :
    List.intercalate [separator] (splitOutsideBrackets separator cs) = cs :=
  intercalate_splitFrom separator 0 cs

/-- There is a first part, even of nothing. -/
theorem exists_first_part (separator : Char) (cs : List Char) :
    ∃ first others, splitOutsideBrackets separator cs = first :: others :=
  List.exists_cons_of_ne_nil (splitFrom_ne_nil separator 0 cs)

/-! ## Separators outside brackets -/

theorem depthAfter_of_not_bracket {c : Char} (opens : opensBracket c = false)
    (closes : closesBracket c = false) (depth : Nat) : depthAfter depth c = depth := by
  simp [depthAfter, opens, closes]

theorem splitFrom_cons (opens : opensBracket separator = false)
    (closes : closesBracket separator = false) (depth : Nat) (c : Char) (cs : List Char) :
    splitFrom separator depth (c :: cs) =
      if c = separator ∧ depth = 0 then [] :: splitFrom separator 0 cs
      else consFirst c (splitFrom separator (depthAfter depth c) cs) := by
  by_cases bracket : (opensBracket c || closesBracket c) = true
  · have other : ¬(c = separator ∧ depth = 0) := by
      rintro ⟨rfl, -⟩
      simp [opens, closes] at bracket
    rw [splitFrom, if_pos bracket, if_neg other]
  · have noBracket : opensBracket c = false ∧ closesBracket c = false := by simpa using bracket
    rw [splitFrom, if_neg bracket, depthAfter_of_not_bracket noBracket.1 noBracket.2]

theorem consFirst_append {parts : List (List Char)} (any : parts ≠ []) (c : Char)
    (others : List (List Char)) : consFirst c (parts ++ others) = consFirst c parts ++ others := by
  obtain ⟨part, parts, rfl⟩ := List.exists_cons_of_ne_nil any
  rfl

/-- A separator at depth zero cuts: each side is split on its own. -/
theorem splitFrom_append_separator (opens : opensBracket separator = false)
    (closes : closesBracket separator = false) (outside : depthBehind depth front = 0)
    (back : List Char) :
    splitFrom separator depth (front ++ separator :: back) =
      splitFrom separator depth front ++ splitOutsideBrackets separator back := by
  induction front generalizing depth with
  | nil =>
    rw [List.nil_append, splitFrom_cons opens closes, if_pos ⟨rfl, outside⟩]
    rfl
  | cons c front ih =>
    rw [List.cons_append, splitFrom_cons opens closes, splitFrom_cons opens closes, ih outside]
    split
    next cut =>
      obtain ⟨rfl, rfl⟩ := cut
      have level : depthBehind 0 front = 0 := by
        rwa [depthBehind, List.foldl_cons, depthAfter_of_not_bracket opens closes] at outside
      rw [ih level]
      rfl
    next => exact consFirst_append (splitFrom_ne_nil _ _ _) c _

/-- Between two parts the depth is zero. -/
theorem depthBehind_of_splitFrom (opens : opensBracket separator = false)
    (closes : closesBracket separator = false) {before after : List (List Char)}
    (any : before ≠ []) (more : after ≠ [])
    (parts : splitFrom separator depth cs = before ++ after) :
    depthBehind depth (List.intercalate [separator] before) = 0 := by
  induction cs generalizing depth before with
  | nil =>
    rcases List.append_eq_singleton_iff.1 parts.symm with ⟨none, -⟩ | ⟨-, none⟩
    · exact absurd none any
    · exact absurd none more
  | cons c cs ih =>
    obtain ⟨first, before, rfl⟩ := List.exists_cons_of_ne_nil any
    rw [splitFrom_cons opens closes] at parts
    split at parts
    next cut =>
      obtain ⟨rfl, rfl⟩ := cut
      rw [List.cons_append, List.cons_eq_cons] at parts
      obtain ⟨rfl, parts⟩ := parts
      cases before with
      | nil => rw [List.intercalate_singleton]; rfl
      | cons next before =>
        rw [List.intercalate_cons_cons]
        change depthBehind (depthAfter 0 c) (List.intercalate [c] (next :: before)) = 0
        rw [depthAfter_of_not_bracket opens closes]
        exact ih (List.cons_ne_nil _ _) parts
    next =>
      obtain ⟨part, others, shape⟩ := List.exists_cons_of_ne_nil
        (splitFrom_ne_nil separator (depthAfter depth c) cs)
      rw [shape, consFirst, List.cons_append, List.cons_eq_cons] at parts
      obtain ⟨rfl, rfl⟩ := parts
      -- Without the character, the first part is the first part of what follows it.
      have behind : depthBehind (depthAfter depth c)
          (List.intercalate [separator] (part :: before)) = 0 := ih (List.cons_ne_nil _ _) shape
      rwa [show (c :: part) :: before = consFirst c (part :: before) from rfl,
        intercalate_consFirst (List.cons_ne_nil _ _)]

/-! ## Cuts -/

/-- The parts of a text up to some place make up `front`, and the others `back`. -/
def IsCut (separator : Char) (cs front back : List Char) : Prop :=
  ∃ before after, before ≠ [] ∧ after ≠ [] ∧ splitOutsideBrackets separator cs = before ++ after ∧
    List.intercalate [separator] before = front ∧ List.intercalate [separator] after = back

theorem intercalate_append {gap : List Char} {before after : List (List Char)} (any : before ≠ [])
    (more : after ≠ []) :
    List.intercalate gap (before ++ after) =
      List.intercalate gap before ++ gap ++ List.intercalate gap after := by
  induction before with
  | nil => exact absurd rfl any
  | cons part before ih =>
    cases before with
    | nil =>
      rw [List.singleton_append, List.intercalate_cons_of_ne_nil more, List.intercalate_singleton]
    | cons next before =>
      rw [List.cons_append, List.intercalate_cons_of_ne_nil (by simp), ih (List.cons_ne_nil _ _),
        List.intercalate_cons_cons]
      simp only [List.append_assoc]

/-- A text is cut just at the separators that no bracket encloses. -/
theorem isCut_iff (opens : opensBracket separator = false)
    (closes : closesBracket separator = false) :
    IsCut separator cs front back ↔ cs = front ++ separator :: back ∧ depthBehind 0 front = 0 := by
  constructor
  · rintro ⟨before, after, any, more, parts, rfl, rfl⟩
    refine ⟨?_, depthBehind_of_splitFrom opens closes any more parts⟩
    have joined := intercalate_splitOutsideBrackets separator cs
    rw [parts, intercalate_append any more, List.append_assoc] at joined
    exact joined.symm
  · rintro ⟨rfl, outside⟩
    exact ⟨splitOutsideBrackets separator front, splitOutsideBrackets separator back,
      splitFrom_ne_nil _ _ _, splitFrom_ne_nil _ _ _,
      splitFrom_append_separator opens closes outside back,
      intercalate_splitOutsideBrackets _ _, intercalate_splitOutsideBrackets _ _⟩

/-- A separator stands at depth zero. -/
def HasCut (separator : Char) (depth : Nat) (cs : List Char) : Prop :=
  ∃ front back, cs = front ++ separator :: back ∧ depthBehind depth front = 0

theorem length_split_eq_one_iff (opens : opensBracket separator = false)
    (closes : closesBracket separator = false) :
    (splitOutsideBrackets separator cs).length = 1 ↔ ¬HasCut separator 0 cs := by
  constructor
  · rintro alone ⟨front, back, cut⟩
    obtain ⟨before, after, any, more, parts, -, -⟩ := (isCut_iff opens closes).2 cut
    obtain ⟨part, single⟩ := List.length_eq_one_iff.1 alone
    rcases List.append_eq_singleton_iff.1 (parts.symm.trans single) with ⟨none, -⟩ | ⟨-, none⟩
    · exact any none
    · exact more none
  · intro uncut
    obtain ⟨part, parts, shape⟩ := exists_first_part separator cs
    cases parts with
    | nil => rw [shape, List.length_singleton]
    | cons next parts =>
      have cut : IsCut separator cs _ _ :=
        ⟨[part], next :: parts, List.cons_ne_nil _ _, List.cons_ne_nil _ _, shape, rfl, rfl⟩
      exact absurd ⟨_, _, (isCut_iff opens closes).1 cut⟩ uncut

/-- The only part of a text is the text. -/
theorem split_eq_singleton (alone : (splitOutsideBrackets separator cs).length = 1) :
    splitOutsideBrackets separator cs = [cs] := by
  obtain ⟨part, single⟩ := List.length_eq_one_iff.1 alone
  have joined := intercalate_splitOutsideBrackets separator cs
  rw [single, List.intercalate_singleton] at joined
  rw [single, joined]

/-- Nothing follows a part that is the whole text. -/
theorem eq_nil_of_split_eq_cons {others : List (List Char)}
    (parts : splitOutsideBrackets separator cs = cs :: others) : others = [] := by
  have joined := intercalate_splitOutsideBrackets separator cs
  cases others with
  | nil => rfl
  | cons next others =>
    rw [parts, List.intercalate_cons_cons, List.append_assoc] at joined
    exact absurd (List.append_right_eq_self.1 joined) (List.cons_ne_nil _ _)

/-- A text that is not cut and leaves the depth at zero is the first part, if a separator follows. -/
theorem split_append_of_not_hasCut (opens : opensBracket separator = false)
    (closes : closesBracket separator = false) (uncut : ¬HasCut separator 0 front)
    (level : depthBehind 0 front = 0) (back : List Char) :
    splitOutsideBrackets separator (front ++ separator :: back) =
      front :: splitOutsideBrackets separator back := by
  have alone := split_eq_singleton ((length_split_eq_one_iff opens closes).2 uncut)
  rw [splitOutsideBrackets, splitFrom_append_separator opens closes level,
    show splitFrom separator 0 front = [front] from alone]
  rfl

/-- No other text in front of a separator is the first part. -/
theorem head_split_append_iff (opens : opensBracket separator = false)
    (closes : closesBracket separator = false) :
    (splitOutsideBrackets separator (front ++ separator :: back)).headD [] = front ↔
      ¬HasCut separator 0 front ∧ depthBehind 0 front = 0 := by
  constructor
  · intro head
    obtain ⟨first, others, parts⟩ := exists_first_part separator (front ++ separator :: back)
    obtain rfl : first = front := by rwa [parts] at head
    have joined := intercalate_splitOutsideBrackets separator (first ++ separator :: back)
    cases others with
    | nil =>
      rw [parts, List.intercalate_singleton] at joined
      exact absurd (List.append_right_eq_self.1 joined.symm) (List.cons_ne_nil _ _)
    | cons next others =>
      have cut : IsCut separator (first ++ separator :: back) first _ :=
        ⟨[first], next :: others, List.cons_ne_nil _ _, List.cons_ne_nil _ _, parts,
          List.intercalate_singleton, rfl⟩
      have level : depthBehind 0 first = 0 := ((isCut_iff opens closes).1 cut).2
      refine ⟨?_, level⟩
      -- On its own the first part is not cut either.
      obtain ⟨start, more, alone⟩ := exists_first_part separator first
      rw [splitOutsideBrackets, splitFrom_append_separator opens closes level,
        show splitFrom separator 0 first = start :: more from alone, List.cons_append,
        List.cons_eq_cons] at parts
      obtain rfl : start = first := parts.1
      rw [← length_split_eq_one_iff opens closes, alone, eq_nil_of_split_eq_cons alone,
        List.length_singleton]
  · rintro ⟨uncut, level⟩
    rw [split_append_of_not_hasCut opens closes uncut level]
    rfl

theorem not_hasCut_nil : ¬HasCut separator depth [] := by
  rintro ⟨front, back, shape, -⟩
  exact List.append_ne_nil_of_right_ne_nil front (List.cons_ne_nil separator back) shape.symm

theorem hasCut_cons {c : Char} :
    HasCut separator depth (c :: cs) ↔
      c = separator ∧ depth = 0 ∨ HasCut separator (depthAfter depth c) cs := by
  constructor
  · rintro ⟨front, back, shape, outside⟩
    cases front with
    | nil => exact .inl ⟨(List.cons_eq_cons.1 shape).1, outside⟩
    | cons d front =>
      obtain ⟨rfl, rest⟩ := List.cons_eq_cons.1 shape
      exact .inr ⟨front, back, rest, outside⟩
  · rintro (⟨rfl, outside⟩ | ⟨front, back, rfl, outside⟩)
    · exact ⟨[], cs, rfl, outside⟩
    · exact ⟨c :: front, back, rfl, outside⟩

theorem hasCut_append {ds : List Char} :
    HasCut separator depth (cs ++ ds) ↔
      HasCut separator depth cs ∨ HasCut separator (depthBehind depth cs) ds := by
  induction cs generalizing depth with
  | nil => exact (or_iff_right not_hasCut_nil).symm
  | cons c cs ih =>
    rw [List.cons_append, hasCut_cons, hasCut_cons, ih, or_assoc]
    rfl

/-! ## Texts between separators -/

/-- Texts that leave the depth at zero are split one by one. What follows each separator stays in front
of the next text. -/
theorem splitOutsideBrackets_intercalate_level (opens : opensBracket separator = false)
    (closes : closesBracket separator = false) {gap text : List Char} {texts : List (List Char)}
    (between : depthBehind 0 gap = 0) (level : depthBehind 0 text = 0)
    (each : ∀ text ∈ texts, depthBehind 0 text = 0) :
    splitOutsideBrackets separator (List.intercalate (separator :: gap) (text :: texts)) =
      splitOutsideBrackets separator text ++
        texts.flatMap fun text => splitOutsideBrackets separator (gap ++ text) := by
  induction texts generalizing text with
  | nil => rw [List.intercalate_singleton, List.flatMap_nil, List.append_nil]
  | cons next texts ih =>
    -- The gap becomes the beginning of the next text.
    have joined := append_intercalate_cons gap (separator :: gap) next texts
    have begins : depthBehind 0 (gap ++ next) = 0 := by
      rw [depthBehind_append, between, each next List.mem_cons_self]
    have others := ih begins fun text member => each text (List.mem_cons_of_mem next member)
    rw [List.intercalate_cons_cons, List.append_assoc, List.cons_append, splitOutsideBrackets,
      splitFrom_append_separator opens closes level, joined, others, List.flatMap_cons]
    rfl

end

end SteadyStore.TypeName
