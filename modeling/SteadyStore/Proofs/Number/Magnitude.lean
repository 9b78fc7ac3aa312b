import SteadyStore.Proofs.Number.Rounding
/-!
# Numbers that are not negative

The numbers that are not negative are ordered up to infinity (`UpTo`). Rounding keeps that order
(`upTo_roundRatio`), and so do products of numbers from one on (`UpTo.mul`), which are never less
than one themselves and never undefined.
-/

namespace SteadyStore.Binary64

/-! ## The order -/

/-- Neither number is negative, and the first is at most the second. -/
inductive UpTo : Binary64 → Binary64 → Prop
  | finite {x y : Nat} {hx : Representable x} {hy : Representable y} (h : x ≤ y) :
    UpTo (.finite false x hx) (.finite false y hy)
  | infinite {x : Nat} {hx : Representable x} : UpTo (.finite false x hx) (.infinite false)
  | both : UpTo (.infinite false) (.infinite false)

theorem UpTo.trans {a b c : Binary64} (ab : a.UpTo b) (bc : b.UpTo c) : a.UpTo c := by
  cases ab with
  | finite h =>
    cases bc with
    | finite h' => exact .finite (Nat.le_trans h h')
    | infinite => exact .infinite
  | infinite =>
    cases bc
    exact .infinite
  | both => exact bc

theorem UpTo.refl_right {a b : Binary64} (h : a.UpTo b) : b.UpTo b := by
  cases h with
  | finite => exact .finite (Nat.le_refl _)
  | infinite => exact .both
  | both => exact .both

/-- Infinity comes last. -/
theorem UpTo.to_infinite {a b : Binary64} (h : a.UpTo b) : a.UpTo (.infinite false) := by
  cases h with
  | finite => exact .infinite
  | infinite => exact .infinite
  | both => exact .both

/-- Below a finite number all are finite. -/
theorem UpTo.exists_finite {a b : Binary64} (h : a.UpTo b) (finite : b.isFinite = true) :
    ∃ x y hx hy, a = .finite false x hx ∧ b = .finite false y hy ∧ x ≤ y := by
  cases h with
  | @finite x y hx hy le => exact ⟨x, y, hx, hy, rfl, rfl, le⟩
  | infinite | both => cases finite

theorem lt_finite {x y : Nat} {hx : Representable x} {hy : Representable y} :
    lt (.finite false x hx) (.finite false y hy) = true ↔ x < y := by
  simp [lt, signedUnits]

theorem le_finite {a b : Bool} {x y : Nat} {hx : Representable x} {hy : Representable y} :
    le (.finite a x hx) (.finite b y hy) = true ↔ signedUnits a x ≤ signedUnits b y := by
  simp only [le, lt, equals, Bool.or_eq_true, decide_eq_true_eq]
  omega

/-! ## Rounding -/

theorem representable_nearestUnits {num den : Nat} (h : nearestUnits num den < unitsLimit) :
    Representable (nearestUnits num den) :=
  ⟨h, nearestUnits_dvd num den⟩

theorem roundRatio_of_nearestUnits (negative : Bool) {num den x : Nat}
    (rounded : nearestUnits num den = x) (hx : Representable x) :
    roundRatio negative num den = .finite negative x hx := by
  subst rounded
  exact dif_pos hx.1

theorem roundRatio_eq {num den x : Nat} (rounded : nearestUnits num den = x)
    (hx : Representable x) : roundRatio false num den = .finite false x hx :=
  roundRatio_of_nearestUnits false rounded hx

theorem roundRatio_of_le {negative : Bool} {num den : Nat}
    (h : unitsLimit ≤ nearestUnits num den) : roundRatio negative num den = .infinite negative :=
  dif_neg (Nat.not_lt.2 h)

theorem upTo_roundRatio {num num' den : Nat} (hd : 0 < den) (h : num ≤ num') :
    (roundRatio false num den).UpTo (roundRatio false num' den) := by
  have order := nearestUnits_mono hd h
  rcases Nat.lt_or_ge (nearestUnits num' den) unitsLimit with inRange' | beyond'
  · have inRange := Nat.lt_of_le_of_lt order inRange'
    rw [roundRatio_eq rfl (representable_nearestUnits inRange'),
      roundRatio_eq rfl (representable_nearestUnits inRange)]
    exact .finite order
  · rw [roundRatio_of_le beyond']
    rcases Nat.lt_or_ge (nearestUnits num den) unitsLimit with inRange | beyond
    · rw [roundRatio_eq rfl (representable_nearestUnits inRange)]
      exact .infinite
    · rw [roundRatio_of_le beyond]
      exact .both

/-- A magnitude on the grid is its own rounding. -/
theorem roundRatio_of_representable {x den : Nat} (hd : 0 < den) (hx : Representable x) :
    roundRatio false (x * den) den = .finite false x hx :=
  roundRatio_eq (nearestUnits_of_dvd hd hx.2) hx

/-! ## One -/

theorem unitsPerOne_pos : 0 < unitsPerOne := twoPow_pos 1074

/-- A power of two in range is on the grid. -/
theorem representable_twoPow {exponent : Nat} (h : exponent < 2098) :
    Representable (twoPow exponent) := by
  refine ⟨twoPow_lt h, ?_⟩
  have onGrid : gridStep (1 * twoPow exponent) ∣ 1 * twoPow exponent :=
    gridStep_dvd_mul (twoPow_le (Nat.zero_le 53))
  rwa [Nat.one_mul] at onGrid

theorem representable_unitsPerOne : Representable unitsPerOne :=
  representable_twoPow (by decide)

theorem one_eq : one = .finite false unitsPerOne representable_unitsPerOne := by
  rw [one, ofNat, ofRatio, Nat.mul_comm 1]
  exact roundRatio_of_representable Nat.one_pos representable_unitsPerOne

/-- The number is not less than one. -/
inductive AtLeastOne : Binary64 → Prop
  | finite {x : Nat} {hx : Representable x} (h : unitsPerOne ≤ x) : AtLeastOne (.finite false x hx)
  | infinite : AtLeastOne (.infinite false)

theorem atLeastOne_one : AtLeastOne one := by
  rw [one_eq]
  exact .finite (Nat.le_refl _)

theorem AtLeastOne.one_upTo {a : Binary64} (ha : a.AtLeastOne) : one.UpTo a := by
  rw [one_eq]
  cases ha with
  | finite h => exact .finite h
  | infinite => exact .infinite

theorem AtLeastOne.of_upTo {a b : Binary64} (ha : a.AtLeastOne) (h : a.UpTo b) : b.AtLeastOne := by
  cases h with
  | finite le =>
    cases ha with
    | finite one => exact .finite (Nat.le_trans one le)
  | infinite => exact .infinite
  | both => exact .infinite

/-- What is finite and not at most one is at least one. -/
theorem atLeastOne_of_not_le {a : Binary64} (finite : a.isFinite = true)
    (above : le a one = false) : a.AtLeastOne := by
  obtain ⟨negative, units, onGrid, rfl⟩ := isFinite_iff.1 finite
  rw [one_eq, ← Bool.not_eq_true, le_finite] at above
  cases negative with
  | false =>
    refine .finite ?_
    simp only [signedUnits, Bool.false_eq_true, if_false] at above
    omega
  | true =>
    simp only [signedUnits, Bool.false_eq_true, if_false, if_true] at above
    omega

/-! ## Sums and products -/

theorem add_finite {x y : Nat} {hx : Representable x} {hy : Representable y} :
    add (.finite false x hx) (.finite false y hy) = roundRatio false (x + y) 1 := by
  simp only [add, if_true]

theorem mul_finite {x y : Nat} {hx : Representable x} {hy : Representable y} :
    mul (.finite false x hx) (.finite false y hy) = roundRatio false (x * y) unitsPerOne := rfl

theorem AtLeastOne.mul_infinite {a : Binary64} (ha : a.AtLeastOne) :
    mul a (.infinite false) = .infinite false := by
  cases ha with
  | finite h =>
    have := unitsPerOne_pos
    exact if_neg (by omega)
  | infinite => rfl

theorem AtLeastOne.infinite_mul {a : Binary64} (ha : a.AtLeastOne) :
    mul (.infinite false) a = .infinite false := by
  cases ha with
  | finite h =>
    have := unitsPerOne_pos
    exact if_neg (by omega)
  | infinite => rfl

theorem AtLeastOne.one_mul {a : Binary64} (ha : a.AtLeastOne) : mul one a = a := by
  cases ha with
  | @finite x hx h =>
    rw [one_eq, mul_finite, Nat.mul_comm]
    exact roundRatio_of_representable unitsPerOne_pos hx
  | infinite => exact atLeastOne_one.mul_infinite

theorem mul_upTo_infinite {a b : Binary64} (ha : a.AtLeastOne) (hb : b.AtLeastOne) :
    (a.mul b).UpTo (.infinite false) := by
  cases ha with
  | finite h =>
    cases hb with
    | finite h' => exact (upTo_roundRatio unitsPerOne_pos (Nat.le_refl _)).to_infinite
    | infinite =>
      rw [(AtLeastOne.finite h).mul_infinite]
      exact .both
  | infinite =>
    rw [hb.infinite_mul]
    exact .both

/-- A product of numbers from one on grows with its factors. -/
theorem UpTo.mul {a a' b b' : Binary64} (haa' : a.UpTo a') (hbb' : b.UpTo b') (ha : a.AtLeastOne)
    (hb : b.AtLeastOne) : (a.mul b).UpTo (a'.mul b') := by
  have ha' := ha.of_upTo haa'
  have hb' := hb.of_upTo hbb'
  cases haa' with
  | finite h =>
    cases hbb' with
    | finite h' => exact upTo_roundRatio unitsPerOne_pos (Nat.mul_le_mul h h')
    | infinite | both =>
      rw [ha'.mul_infinite]
      exact mul_upTo_infinite ha hb
  | infinite | both =>
    rw [hb'.infinite_mul]
    exact mul_upTo_infinite ha hb

theorem AtLeastOne.mul {a b : Binary64} (ha : a.AtLeastOne) (hb : b.AtLeastOne) :
    (a.mul b).AtLeastOne := by
  have order : (one.mul one).UpTo (a.mul b) :=
    ha.one_upTo.mul hb.one_upTo atLeastOne_one atLeastOne_one
  rw [atLeastOne_one.one_mul] at order
  exact atLeastOne_one.of_upTo order

/-- A product with a finite number grows with the other factor, as long as it is finite. -/
theorem UpTo.finite_mul {i : Nat} {hi : Representable i} {a b : Binary64} (h : a.UpTo b)
    (finite : (Binary64.mul (.finite false i hi) b).isFinite = true) :
    (Binary64.mul (.finite false i hi) a).UpTo (Binary64.mul (.finite false i hi) b) := by
  cases h with
  | finite le => exact upTo_roundRatio unitsPerOne_pos (Nat.mul_le_mul_left i le)
  | infinite | both =>
    simp only [Binary64.mul] at finite
    split at finite <;> cases finite

end SteadyStore.Binary64
