import SteadyStore.Number.Power
/-!
# Binary floating point numbers of 64 bits

A finite number is a sign and a magnitude, and the magnitude is a count of the
least positive number, `2 ^ (-1074)`. The magnitudes in use are those whose
binary digits fit in 53 places (`Representable`), so every operation is exact
arithmetic on counts followed by one rounding to the nearest such count, ties
to the even one (`roundRatio`).
-/

namespace SteadyStore

/-! ## The grid of magnitudes -/

/-- How many units of `2 ^ (-1074)` make one. -/
def unitsPerOne : Nat := twoPow 1074

/-- Magnitudes of this many units and more are out of range. -/
def unitsLimit : Nat := twoPow 2098

/-- The distance between neighbouring magnitudes around `units`. -/
def gridStep (units : Nat) : Nat := twoPow (units.log2 - 52)

/-- The count is the magnitude of a number of 53 binary digits, in range. -/
def Representable (units : Nat) : Prop := units < unitsLimit ∧ gridStep units ∣ units

instance (units : Nat) : Decidable (Representable units) :=
  inferInstanceAs (Decidable (units < unitsLimit ∧ gridStep units ∣ units))

theorem gridStep_pos (units : Nat) : 0 < gridStep units := twoPow_pos _

/-- Counts of at most 53 binary digits are one unit apart. -/
theorem gridStep_eq_one {units : Nat} (h : units < twoPow 53) : gridStep units = 1 := by
  have : units.log2 - 52 = 0 := by
    rcases Nat.eq_zero_or_pos units with rfl | hp
    · simp
    · have := (log2_lt_iff (by omega)).2 h
      omega
  rw [gridStep, this, twoPow_zero]

theorem unitsLimit_pos : 0 < unitsLimit := twoPow_pos 2098

theorem representable_zero : Representable 0 := ⟨unitsLimit_pos, Nat.dvd_zero _⟩

/-- The whole number nearest to `num / den`, a tie going to the even one. -/
def nearestEven (num den : Nat) : Nat :=
  let quotient := num / den
  let twice := 2 * (num % den)
  if twice < den then quotient
  else if den < twice then quotient + 1
  else quotient + quotient % 2

theorem le_nearestEven (num den : Nat) : num / den ≤ nearestEven num den := by
  unfold nearestEven; dsimp only; split <;> (try split) <;> omega

theorem nearestEven_le (num den : Nat) : nearestEven num den ≤ num / den + 1 := by
  unfold nearestEven; dsimp only; split <;> (try split) <;> omega

/-- The magnitude nearest to `num / den` units, range aside. -/
def nearestUnits (num den : Nat) : Nat :=
  let step := gridStep (num / den)
  nearestEven num (den * step) * step

/-- A multiple of a step by at most 53 binary digits lies on the grid. -/
theorem gridStep_dvd_mul {digits exponent : Nat} (h : digits ≤ twoPow 53) :
    gridStep (digits * twoPow exponent) ∣ digits * twoPow exponent := by
  rcases Nat.eq_zero_or_pos digits with rfl | hp
  · simp
  rcases Nat.lt_or_ge digits (twoPow 53) with hlt | hge
  · have hne : digits * twoPow exponent ≠ 0 := Nat.ne_of_gt (Nat.mul_pos hp (twoPow_pos _))
    have hlog : (digits * twoPow exponent).log2 < 53 + exponent := by
      rw [log2_lt_iff hne, twoPow_add]
      exact (Nat.mul_lt_mul_right (twoPow_pos _)).2 hlt
    exact Nat.dvd_trans (twoPow_dvd (by omega)) (Nat.dvd_mul_left _ _)
  · have : digits = twoPow 53 := Nat.le_antisymm h hge
    subst this
    rw [← twoPow_add, gridStep, log2_twoPow]
    exact twoPow_dvd (by omega)

/-- At most 53 binary digits are left of a count divided by its step. -/
theorem div_gridStep_lt (units : Nat) : units / gridStep units < twoPow 53 := by
  rcases Nat.eq_zero_or_pos units with rfl | hp
  · rw [Nat.zero_div]
    exact twoPow_pos _
  rw [Nat.div_lt_iff_lt_mul (gridStep_pos _), gridStep, ← twoPow_add]
  exact Nat.lt_of_lt_of_le (lt_twoPow_log2 _) (twoPow_le (by omega))

theorem nearestUnits_dvd (num den : Nat) :
    gridStep (nearestUnits num den) ∣ nearestUnits num den := by
  refine gridStep_dvd_mul (Nat.le_trans (nearestEven_le _ _) ?_)
  rw [← Nat.div_div_eq_div_mul]
  exact div_gridStep_lt _

/-! ## Numbers -/

/-- A number of 64 bits: not a number, an infinity, or a sign and a magnitude. -/
inductive Binary64
  | nan
  | infinite (negative : Bool)
  | finite (negative : Bool) (units : Nat) (onGrid : Representable units)
deriving DecidableEq

namespace Binary64

/-- The number nearest to `num / den` units, with the given sign; infinite when
that is out of range. -/
def roundRatio (negative : Bool) (num den : Nat) : Binary64 :=
  if h : nearestUnits num den < unitsLimit then
    .finite negative (nearestUnits num den) ⟨h, nearestUnits_dvd num den⟩
  else .infinite negative

/-- The number nearest to the fraction `num / den`. -/
def ofRatio (num den : Nat) : Binary64 := roundRatio false (num * unitsPerOne) den

/-- The number nearest to a count. -/
def ofNat (n : Nat) : Binary64 := ofRatio n 1

/-- Zero, with a sign. -/
def zero (negative : Bool) : Binary64 := .finite negative 0 representable_zero

def one : Binary64 := ofNat 1

def isFinite : Binary64 → Bool
  | .finite _ _ _ => true
  | _ => false

def neg : Binary64 → Binary64
  | .nan => .nan
  | .infinite negative => .infinite (!negative)
  | .finite negative units onGrid => .finite (!negative) units onGrid

/-! ## Arithmetic -/

/-- Opposite magnitudes cancel to positive zero. -/
def add : Binary64 → Binary64 → Binary64
  | .nan, _ | _, .nan => .nan
  | .infinite a, .infinite b => if a = b then .infinite a else .nan
  | .infinite a, .finite _ _ _ => .infinite a
  | .finite _ _ _, .infinite b => .infinite b
  | .finite a x _, .finite b y _ =>
    if a = b then roundRatio a (x + y) 1
    else if x = y then zero false
    else if y < x then roundRatio a (x - y) 1
    else roundRatio b (y - x) 1

/-- Zero times infinity is not a number. -/
def mul : Binary64 → Binary64 → Binary64
  | .nan, _ | _, .nan => .nan
  | .infinite a, .infinite b => .infinite (a != b)
  | .infinite a, .finite b y _ => if y = 0 then .nan else .infinite (a != b)
  | .finite a x _, .infinite b => if x = 0 then .nan else .infinite (a != b)
  | .finite a x _, .finite b y _ => roundRatio (a != b) (x * y) unitsPerOne

/-- Zero by zero and infinity by infinity are not numbers. -/
def div : Binary64 → Binary64 → Binary64
  | .nan, _ | _, .nan => .nan
  | .infinite _, .infinite _ => .nan
  | .infinite a, .finite b _ _ => .infinite (a != b)
  | .finite a _ _, .infinite b => zero (a != b)
  | .finite a x _, .finite b y _ =>
    if y = 0 then (if x = 0 then .nan else .infinite (a != b))
    else roundRatio (a != b) (x * unitsPerOne) y

/-- The power loop: `square` runs through the repeated squares of the base, and
each set digit of the exponent, lowest first, multiplies it into `product`. -/
def powLoop (product square : Binary64) (exponent : Nat) : Binary64 :=
  let product := if exponent % 2 = 1 then mul product square else product
  if exponent / 2 = 0 then product
  else powLoop product (mul square square) (exponent / 2)
termination_by exponent

/-- A power by repeated squaring, rounding after each multiplication. -/
def pow (base : Binary64) (exponent : Nat) : Binary64 := powLoop one base exponent

/-! ## Order -/

/-- The signed count of units of a finite number. -/
def signedUnits (negative : Bool) (units : Nat) : Int :=
  if negative then -(units : Int) else units

/-- Both zeros are equal, and nothing compares with what is not a number. -/
def lt : Binary64 → Binary64 → Bool
  | .nan, _ | _, .nan => false
  | .infinite a, .infinite b => a && !b
  | .infinite a, .finite _ _ _ => a
  | .finite _ _ _, .infinite b => !b
  | .finite a x _, .finite b y _ => signedUnits a x < signedUnits b y

/-- Numerical equality: both zeros are equal, and what is not a number equals
nothing. -/
def equals : Binary64 → Binary64 → Bool
  | .infinite a, .infinite b => a = b
  | .finite a x _, .finite b y _ => signedUnits a x = signedUnits b y
  | _, _ => false

def le (a b : Binary64) : Bool := lt a b || equals a b

/-! ## Interchange format -/

/-- The exponent and fraction fields of a magnitude, as one number. -/
def fieldBits (units : Nat) : Nat := (units.log2 - 52) * twoPow 52 + units / gridStep units

/-- The 64 bits of a number; `none` for the many forms of not a number. -/
def toBits? : Binary64 → Option Nat
  | .nan => none
  | .infinite negative => some ((if negative then twoPow 63 else 0) + 2047 * twoPow 52)
  | .finite negative units _ => some ((if negative then twoPow 63 else 0) + fieldBits units)

theorem isFinite_iff {x : Binary64} :
    x.isFinite = true ↔ ∃ negative units onGrid, x = .finite negative units onGrid := by
  constructor
  · intro h
    cases x with
    | finite negative units onGrid => exact ⟨negative, units, onGrid, rfl⟩
    | _ => simp [isFinite] at h
  · rintro ⟨negative, units, onGrid, rfl⟩
    rfl

end Binary64

end SteadyStore
