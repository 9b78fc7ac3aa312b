import SteadyStore.EnvFile.Load
import SteadyStore.Proofs.EnvFile.Reloading
/-!
# Files of assignments

The variables that are set decide the value that a line assigns, but not the name that it assigns to,
nor whether it is bad (`ofChars_eq`). So the reader of files of assignments does what is documented of
readers (`documented_reader`).
-/

namespace SteadyStore.EnvFile

/-! ## A line without its value -/

namespace Line

/-- What a line says, the value aside. -/
def outline : Line → Line
  | .skip => .skip
  | .assign name _ => .assign name ""
  | .bad => .bad

end Line

/-- Whether a value is bad does not depend on the variables that it names. -/
theorem isSome_readValue (vars other : Variables) (state : ValueState) (cs : List Char) :
    (readValue vars state cs).isSome = (readValue other state cs).isSome := by
  fun_induction readValue vars state cs with
  | case21 inQuotes soFar c cs ends noBrace rest named plain =>
    -- A character that ends a name starts the next one or stands for itself.
    rw [readValue, if_neg ends, if_neg noBrace]
    simp only [Option.isSome_map]
    by_cases next : c = '$'
    · simpa [rest, next] using named
    · simpa [rest, next] using plain
  | _ => simp_all [readValue]

namespace Line

theorem outline_ofChars (vars other : Variables) (cs : List Char) :
    (ofChars vars cs).outline = (ofChars other cs).outline := by
  unfold ofChars
  dsimp only
  split
  · rfl
  cases readTarget? (trimBlanks cs) with
  | none => rfl
  | some target =>
    obtain ⟨name, rest⟩ := target
    dsimp only
    split
    · rfl
    have same := isSome_readValue vars other (.plain false) (rest.dropWhile isBlank)
    cases here : readValue vars (.plain false) (rest.dropWhile isBlank) <;>
      cases there : readValue other (.plain false) (rest.dropWhile isBlank) <;>
      simp [here, there] at same <;> rfl

end Line

/-- What the line says that makes a statement, once variables are set. -/
def Statement.line (vars : Variables) : Statement → Line
  | .nothing => .skip
  | .assign name text => .assign name (text vars)
  | .bad => .bad

theorem ofChars_eq (vars : Variables) (line : List Char) :
    Line.ofChars vars line = (statement line).line vars := by
  have same := Line.outline_ofChars (fun _ => none) vars line
  unfold statement
  -- Without variables the line says the same, but for the value.
  cases unset : Line.ofChars (fun _ => none) line <;> rw [unset] at same <;>
    cases set : Line.ofChars vars line <;> rw [set] at same <;>
    simp_all [Line.outline, Statement.line]

/-! ## Line by line -/

variable {vars : Variables} {line : List Char}

theorem applyLines_nothing (reads : statement line = .nothing) (lines : List (List Char)) :
    applyLines vars (line :: lines) = applyLines vars lines := by
  rw [applyLines, ofChars_eq, reads]
  rfl

theorem applyLines_assign {name : String} {text : Variables → String}
    (reads : statement line = .assign name text) (lines : List (List Char)) :
    applyLines vars (line :: lines) = applyLines (vars.setDefault name (text vars)) lines := by
  rw [applyLines, ofChars_eq, reads]
  rfl

theorem applyLines_bad (reads : statement line = .bad) (lines : List (List Char)) :
    applyLines vars (line :: lines) = vars := by
  rw [applyLines, ofChars_eq, reads]
  rfl

/-- A line that is not bad is read, and then those behind it. -/
theorem applyLines_cons (fine : statement line ≠ .bad) (lines : List (List Char)) :
    applyLines vars (line :: lines) = applyLines (applyLines vars [line]) lines := by
  cases reads : statement line with
  | nothing => rw [applyLines_nothing reads, applyLines_nothing reads, applyLines]
  | assign name text => rw [applyLines_assign reads, applyLines_assign reads, applyLines]
  | bad => exact absurd reads fine

theorem documented_reader : reader.Documented where
  apply_nil _ := rfl
  in_order _ _ lines fine := applyLines_cons fine lines
  stops_at_bad _ _ lines bad := applyLines_bad bad lines
  never_overrides vars line name text set := by
    change applyLines vars [line] name = some text
    cases reads : statement line with
    | nothing => rwa [applyLines_nothing reads]
    | assign other value =>
      rw [applyLines_assign reads]
      exact Variables.setDefault_keeps set (value vars)
    | bad => rwa [applyLines_bad reads]
  sets vars line name text reads missing := by
    change applyLines vars [line] name = some (text vars)
    rw [applyLines_assign reads, applyLines, Variables.setDefault, if_pos rfl, missing,
      Option.getD_none]
  sets_only vars line name others := by
    change applyLines vars [line] name = vars name
    cases reads : statement line with
    | nothing => rw [applyLines_nothing reads, applyLines]
    | assign other value =>
      have apart : name ≠ other := fun same => others value (same ▸ reads)
      rw [applyLines_assign reads, applyLines, Variables.setDefault, if_neg apart]
    | bad => rw [applyLines_bad reads]

end SteadyStore.EnvFile
