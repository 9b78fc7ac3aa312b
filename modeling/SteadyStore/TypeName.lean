import SteadyStore.Text.Blank
/-!
# Unqualified type names

The full name of a type spells out modules, references and type arguments.
`TypeName.unqualified` keeps what a reader wants to see in a log: the last component of
a path, `Element[]` for slices and arrays, and `(A, B)` for tuples.

`splitOutsideBrackets` cuts a text at the separators outside all brackets. Its parts are
never longer than the text (`length_le_of_mem_splitOutsideBrackets`), so the recursion
into slices and tuples ends.
-/

namespace SteadyStore.TypeName

/-! ## Splitting outside brackets -/

def opensBracket (c : Char) : Bool := c = '<' || c = '[' || c = '('

def closesBracket (c : Char) : Bool := c = '>' || c = ']' || c = ')'

/-- The bracket depth after a character. A closing bracket too many leaves it at
zero. -/
def depthAfter (depth : Nat) (c : Char) : Nat :=
  if opensBracket c then depth + 1 else if closesBracket c then depth - 1 else depth

/-- Puts a character in front of the first part. -/
def consFirst (c : Char) : List (List Char) → List (List Char)
  | [] => [[c]]
  | part :: parts => (c :: part) :: parts

/-- The parts of a text that starts at the given bracket depth. -/
def splitFrom (separator : Char) : Nat → List Char → List (List Char)
  | _, [] => [[]]
  | depth, c :: rest =>
    if opensBracket c || closesBracket c then
      consFirst c (splitFrom separator (depthAfter depth c) rest)
    else if c = separator ∧ depth = 0 then [] :: splitFrom separator 0 rest
    else consFirst c (splitFrom separator depth rest)

/-- The parts of a text between the separators that no bracket encloses. -/
def splitOutsideBrackets (separator : Char) (cs : List Char) : List (List Char) :=
  splitFrom separator 0 cs

theorem mem_consFirst {c : Char} {part : List Char} {parts : List (List Char)}
    (h : part ∈ consFirst c parts) :
    part = [c] ∨ (∃ p ∈ parts, part = c :: p) ∨ part ∈ parts := by
  cases parts with
  | nil => simp [consFirst] at h; exact .inl h
  | cons p ps =>
    simp only [consFirst, List.mem_cons] at h
    rcases h with rfl | h
    · exact .inr (.inl ⟨p, by simp, rfl⟩)
    · exact .inr (.inr (by simp [h]))

theorem splitFrom_ne_nil (separator : Char) (depth : Nat) (cs : List Char) :
    splitFrom separator depth cs ≠ [] := by
  cases cs with
  | nil => simp [splitFrom]
  | cons c rest =>
    have consFirst_ne (parts) : consFirst c parts ≠ [] := by cases parts <;> simp [consFirst]
    rw [splitFrom]
    split
    · exact consFirst_ne _
    · split
      · simp
      · exact consFirst_ne _

theorem length_le_of_mem_splitFrom {separator : Char} {cs part : List Char} :
    ∀ {depth : Nat}, part ∈ splitFrom separator depth cs → part.length ≤ cs.length := by
  induction cs generalizing part with
  | nil => intro depth h; simp_all [splitFrom]
  | cons c rest ih =>
    intro depth h
    have ofConsFirst {d} (h : part ∈ consFirst c (splitFrom separator d rest)) :
        part.length ≤ (c :: rest).length := by
      rcases mem_consFirst h with rfl | ⟨p, hp, rfl⟩ | hp
      · simp
      · simpa using ih hp
      · exact Nat.le_succ_of_le (ih hp)
    rw [splitFrom] at h
    split at h
    · exact ofConsFirst h
    · split at h
      · rcases List.mem_cons.1 h with rfl | h
        · simp
        · exact Nat.le_succ_of_le (ih h)
      · exact ofConsFirst h

theorem length_le_of_mem_splitOutsideBrackets {separator : Char} {cs part : List Char}
    (h : part ∈ splitOutsideBrackets separator cs) : part.length ≤ cs.length :=
  length_le_of_mem_splitFrom h

/-! ## Names -/

/-- Drops the words `mut ` in front. -/
def dropMut : List Char → List Char
  | 'm' :: 'u' :: 't' :: ' ' :: rest => dropMut rest
  | cs => cs

/-- Drops the words `dyn ` in front. -/
def dropDyn : List Char → List Char
  | 'd' :: 'y' :: 'n' :: ' ' :: rest => dropDyn rest
  | cs => cs

/-- The text of a type without blanks around it, and without the references, and
then the words, in front of it. -/
def bare (cs : List Char) : List Char :=
  dropDyn (dropMut ((trimBlanks cs).dropWhile (· = '&')))

/-- What stands between an opening character and a closing one at the other end. -/
def between? (opening closing : Char) : List Char → Option (List Char)
  | [] => none
  | c :: rest =>
    if c = opening ∧ rest.getLast? = some closing then some rest.dropLast else none

/-- The text before the first occurrence of a mark. -/
def before (mark : List Char) : List Char → List Char
  | [] => []
  | c :: rest => if mark.isPrefixOf (c :: rest) then [] else c :: before mark rest

/-- The text after the last `::`, if there is one. -/
def afterColons? : List Char → Option (List Char)
  | [] => none
  | c :: rest =>
    match afterColons? rest with
    | some component => some component
    | none => if c = ':' ∧ rest.head? = some ':' then some rest.tail else none

/-- The last component of a path. -/
def lastComponent (cs : List Char) : List Char := (afterColons? cs).getD cs

/-- The name of a path: what is added to it and its type arguments go, and then
all components but the last. -/
def ofPath (cs : List Char) : List Char :=
  lastComponent ((before [' ', '+', ' '] cs).takeWhile (· ≠ '<'))

theorem length_dropMut_le (cs : List Char) : (dropMut cs).length ≤ cs.length := by
  fun_induction dropMut cs with
  | case1 rest ih => simp only [List.length_cons]; omega
  | case2 => exact Nat.le_refl _

theorem length_dropDyn_le (cs : List Char) : (dropDyn cs).length ≤ cs.length := by
  fun_induction dropDyn cs with
  | case1 rest ih => simp only [List.length_cons]; omega
  | case2 => exact Nat.le_refl _

theorem length_trimBlanks_le (cs : List Char) : (trimBlanks cs).length ≤ cs.length := by
  have dropped (p : Char → Bool) (l : List Char) : (l.dropWhile p).length ≤ l.length :=
    (List.dropWhile_suffix p).length_le
  have outer := dropped isBlank (cs.dropWhile isBlank).reverse
  have inner := dropped isBlank cs
  simp only [trimBlanks, trimTrailingBlanks, List.length_reverse] at *
  omega

theorem length_bare_le (cs : List Char) : (bare cs).length ≤ cs.length := by
  refine Nat.le_trans (length_dropDyn_le _) (Nat.le_trans (length_dropMut_le _) ?_)
  exact Nat.le_trans (List.dropWhile_suffix _).length_le (length_trimBlanks_le cs)

theorem length_between?_lt {opening closing : Char} {cs inner : List Char}
    (h : between? opening closing cs = some inner) : inner.length < cs.length := by
  cases cs with
  | nil => simp [between?] at h
  | cons c rest =>
    simp only [between?] at h
    split at h
    · simp only [Option.some.injEq] at h
      subst h
      simp only [List.length_dropLast, List.length_cons]
      omega
    · simp at h

/-- The first part of a bracketed text is shorter than the type it belongs to. -/
theorem length_first_lt {opening closing separator : Char} {cs inner : List Char}
    (h : between? opening closing (bare cs) = some inner) :
    ((splitOutsideBrackets separator inner).headD []).length < cs.length := by
  have inside := length_between?_lt h
  have whole := length_bare_le cs
  cases hs : splitOutsideBrackets separator inner with
  | nil => simp only [List.headD_nil, List.length_nil]; omega
  | cons part parts =>
    have member : part ∈ splitOutsideBrackets separator inner := hs ▸ List.mem_cons_self
    have := length_le_of_mem_splitOutsideBrackets member
    simp only [List.headD_cons]
    omega

/-- The unqualified name of a type. -/
def unqualified (cs : List Char) : List Char :=
  match array : between? '[' ']' (bare cs) with
  | some inner => unqualified ((splitOutsideBrackets ';' inner).headD []) ++ ['[', ']']
  | none =>
    match tuple : between? '(' ')' (bare cs) with
    | some inner =>
      let elements := (splitOutsideBrackets ',' inner).filter fun part => !(trimBlanks part).isEmpty
      '(' :: List.intercalate [',', ' '] (elements.attach.map fun ⟨part, member⟩ =>
        have : part.length < cs.length := by
          have := length_le_of_mem_splitOutsideBrackets (List.mem_filter.1 member).1
          have := length_between?_lt tuple
          have := length_bare_le cs
          omega
        unqualified part) ++ [')']
    | none => ofPath (bare cs)
termination_by cs.length
decreasing_by
  · exact length_first_lt array
  · assumption

/-- The unqualified name of the type with a full name. -/
def ofText (full : String) : String := String.ofList (unqualified full.toList)

end SteadyStore.TypeName
