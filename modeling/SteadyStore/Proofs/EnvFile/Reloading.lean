import SteadyStore.EnvFile.Reader
/-!
# Loading an environment file again

What is documented of a reader of environment files (`Reader.Documented`) is about single lines: it reads
them in order, sets a variable only if it is missing, and stops at the first bad line. So a variable that
was missing has its first assignment in the end (`apply_eq_some_iff`), and a file that is read again
changes nothing (`apply_apply`), although the variables that are set decide which text a line assigns.
-/

namespace SteadyStore.EnvFile.Reader

variable {Line : Type} {reader : Reader Line}

/-- What is documented of a reader. -/
structure Documented (reader : Reader Line) : Prop where
  apply_nil : ∀ vars, reader.apply vars [] = vars
  /-- Lines are read in the order of the file. -/
  in_order : ∀ vars line lines, reader.reads line ≠ .bad →
    reader.apply vars (line :: lines) = reader.apply (reader.apply vars [line]) lines
  /-- Nothing is read from the first bad line on. What was set before stays. -/
  stops_at_bad : ∀ vars line lines, reader.reads line = .bad →
    reader.apply vars (line :: lines) = vars
  /-- A variable that is set is never overridden. -/
  never_overrides : ∀ vars line name text, vars name = some text →
    reader.apply vars [line] name = some text
  /-- An assignment sets its variable, if that is missing, to the text that it has there. -/
  sets : ∀ vars line name text, reader.reads line = .assign name text → vars name = none →
    reader.apply vars [line] name = some (text vars)
  /-- A line sets no other variable. -/
  sets_only : ∀ vars line name, (∀ text, reader.reads line ≠ .assign name text) →
    reader.apply vars [line] name = vars name

/-- The line neither is bad nor assigns to the name. -/
def Passes (reader : Reader Line) (name : String) (line : Line) : Prop :=
  reader.reads line ≠ .bad ∧ ∀ text, reader.reads line ≠ .assign name text

/-- The value is the one of the first assignment to the name, with the variables that are set at that
line. No line in front of it is bad. -/
def FirstAssigned (reader : Reader Line) (vars : Variables) (lines : List Line)
    (name value : String) : Prop :=
  ∃ before line after text, lines = before ++ line :: after ∧
    (∀ earlier ∈ before, reader.Passes name earlier) ∧
    reader.reads line = .assign name text ∧ text (reader.apply vars before) = value

namespace Documented

variable (documented : reader.Documented) {vars : Variables} {name value : String}

include documented

/-! ## Reading again -/

/-- A file changes no variable that is set. -/
theorem keeps (set : vars name = some value) (lines : List Line) :
    reader.apply vars lines name = some value := by
  induction lines generalizing vars with
  | nil => rwa [documented.apply_nil]
  | cons line lines ih =>
    by_cases bad : reader.reads line = .bad
    · rwa [documented.stops_at_bad vars line lines bad]
    · rw [documented.in_order vars line lines bad]
      exact ih (documented.never_overrides vars line name value set)

/-- The variable of an assignment is set behind its line, by that line or before. -/
theorem isSome_of_assign {line : Line} {text : Variables → String}
    (assigns : reader.reads line = .assign name text) (lines : List Line) :
    (reader.apply vars (line :: lines) name).isSome := by
  have set : ∃ value, reader.apply vars [line] name = some value := by
    cases found : vars name with
    | none => exact ⟨_, documented.sets vars line name text assigns found⟩
    | some value => exact ⟨value, documented.never_overrides vars line name value found⟩
  obtain ⟨value, set⟩ := set
  rw [documented.in_order vars line lines (by rw [assigns]; nofun), documented.keeps set]
  rfl

/-- A file changes nothing if every variable that it sets is set. -/
theorem apply_of_covers {later : Variables} {lines : List Line}
    (covers : ∀ name, (reader.apply vars lines name).isSome → (later name).isSome) :
    reader.apply later lines = later := by
  induction lines generalizing vars with
  | nil => exact documented.apply_nil later
  | cons line lines ih =>
    by_cases bad : reader.reads line = .bad
    · exact documented.stops_at_bad later line lines bad
    have unchanged : reader.apply later [line] = later := by
      funext name
      cases found : later name with
      | some value => exact documented.never_overrides later line name value found
      | none =>
        rw [← found]
        refine documented.sets_only later line name fun text assigns => ?_
        have set := covers name (documented.isSome_of_assign assigns lines)
        rw [found] at set
        cases set
    rw [documented.in_order vars line lines bad] at covers
    rw [documented.in_order later line lines bad, unchanged]
    exact ih covers

/-- Reading lines twice is reading them once. -/
theorem apply_apply (vars : Variables) (lines : List Line) :
    reader.apply (reader.apply vars lines) lines = reader.apply vars lines :=
  documented.apply_of_covers fun _ set => set

/-! ## First assignments -/

omit documented in
theorem not_firstAssigned_nil : ¬reader.FirstAssigned vars [] name value := by
  rintro ⟨before, line, after, text, split, -⟩
  simp at split

omit documented in
theorem not_firstAssigned_of_bad {line : Line} (bad : reader.reads line = .bad) (lines : List Line) :
    ¬reader.FirstAssigned vars (line :: lines) name value := by
  rintro ⟨before, first, after, text, split, passed, assigns, -⟩
  cases before with
  | nil =>
    obtain ⟨rfl, -⟩ := List.cons.inj split
    rw [bad] at assigns
    cases assigns
  | cons head before =>
    obtain ⟨rfl, -⟩ := List.cons.inj split
    exact (passed line List.mem_cons_self).1 bad

theorem firstAssigned_of_assign {line : Line} {text : Variables → String}
    (assigns : reader.reads line = .assign name text) (lines : List Line) :
    reader.FirstAssigned vars (line :: lines) name value ↔ text vars = value := by
  constructor
  · rintro ⟨before, first, after, other, split, passed, assigned, rfl⟩
    cases before with
    | nil =>
      obtain ⟨rfl, -⟩ := List.cons.inj split
      obtain ⟨-, rfl⟩ := Statement.assign.inj (assigns.symm.trans assigned)
      rw [documented.apply_nil]
    | cons head before =>
      obtain ⟨rfl, -⟩ := List.cons.inj split
      exact absurd assigns ((passed line List.mem_cons_self).2 text)
  · rintro rfl
    exact ⟨[], line, lines, text, rfl, by simp, assigns, by rw [documented.apply_nil]⟩

/-- A line that passes only sets other variables. -/
theorem firstAssigned_of_passes {line : Line} (passes : reader.Passes name line)
    (lines : List Line) :
    reader.FirstAssigned vars (line :: lines) name value ↔
      reader.FirstAssigned (reader.apply vars [line]) lines name value := by
  have next (before : List Line) : reader.apply vars (line :: before) = _ :=
    documented.in_order vars line before passes.1
  constructor
  · rintro ⟨before, first, after, text, split, passed, assigns, same⟩
    cases before with
    | nil =>
      obtain ⟨rfl, -⟩ := List.cons.inj split
      exact absurd assigns (passes.2 text)
    | cons head before =>
      obtain ⟨rfl, rest⟩ := List.cons.inj split
      rw [next] at same
      exact ⟨before, first, after, text, rest, (List.forall_mem_cons.1 passed).2, assigns, same⟩
  · rintro ⟨before, first, after, text, rfl, passed, assigns, same⟩
    rw [← next] at same
    exact ⟨line :: before, first, after, text, rfl, List.forall_mem_cons.2 ⟨passes, passed⟩,
      assigns, same⟩

/-- A missing variable is set to its first assignment in front of the first bad line, and stays
missing if there is none. -/
theorem apply_eq_some_iff (missing : vars name = none) (lines : List Line) :
    reader.apply vars lines name = some value ↔ reader.FirstAssigned vars lines name value := by
  induction lines generalizing vars with
  | nil =>
    rw [documented.apply_nil, missing]
    exact iff_of_false nofun not_firstAssigned_nil
  | cons line lines ih =>
    by_cases passes : reader.Passes name line
    · have still : reader.apply vars [line] name = none :=
        (documented.sets_only vars line name passes.2).trans missing
      rw [documented.in_order vars line lines passes.1, documented.firstAssigned_of_passes passes]
      exact ih still
    cases reads : reader.reads line with
    | bad =>
      rw [documented.stops_at_bad vars line lines reads, missing]
      exact iff_of_false nofun (not_firstAssigned_of_bad reads lines)
    | nothing => exact absurd ⟨by rw [reads]; nofun, by rw [reads]; nofun⟩ passes
    | assign other text =>
      -- A line that does not pass assigns to this name, unless it is bad.
      obtain rfl : other = name := by
        refine Classical.byContradiction fun different => passes ⟨by rw [reads]; nofun, ?_⟩
        intro again assigns
        exact different (Statement.assign.inj (reads.symm.trans assigns)).1
      have set := documented.sets vars line other text reads missing
      rw [documented.in_order vars line lines (by rw [reads]; nofun), documented.keeps set,
        documented.firstAssigned_of_assign reads, Option.some.injEq]

end Documented

end SteadyStore.EnvFile.Reader
