import Mathlib.Data.List.TakeWhile
import SteadyStore.Proofs.Number.DecimalText
import SteadyStore.Proofs.Settings.Loading
/-!
# Configurations that are written down

A valid retry configuration can be written into its four variables, as decimals with any blanks
around them, and is loaded from there again (`load_of_writtenIn`).
-/

namespace SteadyStore

/-! ## Blanks around a text -/

/-- There is no blank in the text. -/
def IsFirm (cs : List Char) : Prop := ∀ c ∈ cs, isBlank c = false

theorem isFirm_nil : IsFirm [] := by
  intro c mem
  cases mem

theorem IsFirm.cons {c : Char} {cs : List Char} (first : isBlank c = false) (rest : IsFirm cs) :
    IsFirm (c :: cs) :=
  List.forall_mem_cons.2 ⟨first, rest⟩

theorem IsFirm.append {cs ds : List Char} (left : IsFirm cs) (right : IsFirm ds) :
    IsFirm (cs ++ ds) :=
  List.forall_mem_append.2 ⟨left, right⟩

/-- Only the blanks around a text are dropped. -/
theorem trimBlanks_append {before cs after : List Char} (leading : ∀ c ∈ before, isBlank c = true)
    (firm : IsFirm cs) (trailing : ∀ c ∈ after, isBlank c = true) :
    trimBlanks (before ++ (cs ++ after)) = cs := by
  unfold trimBlanks trimTrailingBlanks
  rw [List.dropWhile_append_of_pos leading]
  cases cs with
  | nil =>
    rw [List.nil_append, List.dropWhile_eq_nil_iff.2 trailing]
    rfl
  | cons c cs =>
    have behind : ∀ c ∈ after.reverse, isBlank c = true := by
      intro c mem
      exact trailing c (List.mem_reverse.1 mem)
    have last : (c :: cs).reverse.dropWhile isBlank = (c :: cs).reverse := by
      rw [List.dropWhile_eq_self_iff]
      intro nonempty
      rw [firm _ (List.mem_reverse.1 (List.getElem_mem nonempty))]
      exact Bool.false_ne_true
    rw [List.cons_append, List.dropWhile_cons_of_neg (by simp [firm c]), ← List.cons_append,
      List.reverse_append, List.dropWhile_append_of_pos behind, last, List.reverse_reverse]

theorem not_isBlank_of_isDigit {c : Char} (digit : c.isDigit = true) : isBlank c = false := by
  simp only [Char.isDigit, Bool.and_eq_true, decide_eq_true_eq] at digit
  have low : 48 ≤ c.toNat := UInt32.le_iff_toNat_le.1 digit.1
  have high : c.toNat ≤ 57 := UInt32.le_iff_toNat_le.1 digit.2
  rw [← Bool.not_eq_true]
  intro blank
  obtain ⟨range, mem, first, last⟩ := CodeRanges.contains_eq_true_iff.1 blank
  simp only [blankRanges, List.mem_cons, List.not_mem_nil, or_false] at mem
  rcases mem with rfl | rfl | rfl | rfl | rfl | rfl | rfl | rfl | rfl | rfl <;> omega

theorem Digits.isFirm (digits : Digits) : IsFirm digits.chars := by
  intro c mem
  exact not_isBlank_of_isDigit (digits.isDigit_of_mem c mem)

theorem Sign.isFirm (sign : Sign) : IsFirm sign.chars := by
  cases sign with
  | absent => exact isFirm_nil
  | plus | minus => exact isFirm_nil.cons (by decide)

theorem ExponentText.isFirm (text : ExponentText) : IsFirm text.chars := by
  apply IsFirm.cons
  · rcases text.isMark with e | e <;> rw [e] <;> decide
  · exact text.sign.isFirm.append text.digits.isFirm

theorem DecimalText.isFirm (text : DecimalText) : IsFirm text.chars := by
  have point : IsFirm text.pointChars := by
    unfold pointChars
    cases text.fraction? with
    | none => exact isFirm_nil
    | some digits => exact digits.isFirm.cons (by decide)
  have exponent : IsFirm text.exponentChars := by
    unfold exponentChars
    cases text.exponent? with
    | none => exact isFirm_nil
    | some exponent => exact exponent.isFirm
  exact text.sign.isFirm.append (text.whole.isFirm.append (point.append exponent))

/-! ## Reading what was written -/

namespace ValueReader

theorem le_ofDigitChars (count : ℕ) (cs : List Char) : count ≤ Nat.ofDigitChars 10 cs count := by
  induction cs generalizing count with
  | nil => exact Nat.le_refl count
  | cons c cs ih =>
    have first : count ≤ 10 * count + (c.toNat - '0'.toNat) := by omega
    exact Nat.le_trans first (ih _)

/-- Digits are read as long as the whole count is in range. -/
theorem readDigits_of_le {greatest count : ℕ} {beyond : ValueFault} {cs : List Char}
    (digits : ∀ c ∈ cs, c.isDigit = true) (inRange : Nat.ofDigitChars 10 cs count ≤ greatest) :
    readDigits greatest beyond count cs = .ok (Nat.ofDigitChars 10 cs count) := by
  induction cs generalizing count with
  | nil => rfl
  | cons c cs ih =>
    obtain ⟨digit, digits⟩ := List.forall_mem_cons.1 digits
    have next : 10 * count + (c.toNat - '0'.toNat) ≤ greatest :=
      Nat.le_trans (le_ofDigitChars _ cs) inRange
    rw [readDigits, if_pos digit]
    dsimp only
    rw [if_pos next]
    exact ih digits inRange

/-- The digits of a count in range are read as the count. -/
theorem count_ofCount {greatest n : ℕ} (inRange : n ≤ greatest) :
    count greatest (Digits.ofCount n).chars = .ok n := by
  have whole : Nat.ofDigitChars 10 (Digits.ofCount n).chars 0 = n := digitsValue_ofCount n
  have read : readDigits greatest .tooLarge 0 (Digits.ofCount n).chars = .ok n := by
    rw [readDigits_of_le (Digits.ofCount n).isDigit_of_mem (by rwa [whole]), whole]
  have digits := (Digits.ofCount n).isDigit_of_mem
  have some := Digits.ofCount_ne_nil n
  cases chars : (Digits.ofCount n).chars with
  | nil => exact absurd chars some
  | cons c cs =>
    rw [chars] at read digits
    have noPlus : c ≠ '+' := ne_of_isDigit (digits c List.mem_cons_self) rfl
    unfold count
    simpa [noPlus, readCount] using read

theorem word64_ofCount (n : UInt64) : word64 (Digits.ofCount n.toNat).chars = .ok n := by
  have inRange : n.toNat ≤ UInt64.size - 1 := Nat.le_sub_one_of_lt n.toNat_lt
  rw [word64, count_ofCount inRange]
  exact congrArg Except.ok UInt64.ofNat_toNat

theorem word32_ofCount (n : UInt32) : word32 (Digits.ofCount n.toNat).chars = .ok n := by
  have inRange : n.toNat ≤ UInt32.size - 1 := Nat.le_sub_one_of_lt n.toNat_lt
  rw [word32, count_ofCount inRange]
  exact congrArg Except.ok UInt32.ofNat_toNat

theorem decimal_of_value {text : DecimalText} {x : Binary64} (finite : x.isFinite = true)
    (nonzero : x.value ≠ 0) (same : text.value = x.value) : decimal text.chars = .ok x := by
  have read := DecimalText.ofChars?_of_value finite nonzero same
  cases chars : text.chars with
  | nil =>
    rw [chars] at read
    cases read
  | cons c cs =>
    rw [chars] at read
    simp only [decimal, read]

end ValueReader

theorem Binary64.AtLeastOne.value_ne_zero {a : Binary64} (ha : a.AtLeastOne)
    (finite : a.isFinite = true) : a.value ≠ 0 := by
  cases ha with
  | finite least =>
    have one := magnitude_le.2 least
    rw [magnitude_unitsPerOne] at one
    exact ne_of_gt (lt_of_lt_of_le one_pos one)
  | infinite => cases finite

/-! ## Variables -/

namespace Variables

/-- The variable is set to the text, with any blanks around it. -/
def Spells (vars : Variables) (name : String) (text : List Char) : Prop :=
  ∃ before after : List Char, (∀ c ∈ before ++ after, isBlank c = true) ∧
    vars name = some (String.ofList (before ++ (text ++ after)))

/-- A text needs no blanks around it. -/
theorem spells_of_eq {vars : Variables} {name text : String} (set : vars name = some text) :
    vars.Spells name text.toList := by
  refine ⟨[], [], by simp, ?_⟩
  rw [set, List.nil_append, List.append_nil, String.ofList_toList]

/-- What a text spells is found. -/
theorem Spells.result_value {α : Type} {vars : Variables} {name : String} {text : List Char}
    {value : α} {read : ValueReader α} (spells : vars.Spells name text) (firm : IsFirm text)
    (means : read text = .ok value) (default : α) :
    (Lookup.value vars read name default).result = .ok value := by
  obtain ⟨before, after, blanks, set⟩ := spells
  obtain ⟨leading, trailing⟩ := List.forall_mem_append.1 blanks
  unfold Lookup.value
  simp only [set, Lookup.valueOf, String.toList_ofList, trimBlanks_append leading firm trailing, means]
  rfl

end Variables

/-- The span is a whole number of milliseconds, and the number takes no more than 64 bits. -/
def Duration.InMillis (d : Duration) : Prop := ∃ millis : UInt64, d = .ofMillis millis

theorem Duration.millis_ofMillis (millis : UInt64) : (ofMillis millis).millis = millis.toNat :=
  Nat.mul_div_cancel millis.toNat (by decide)

namespace RetryConfig

/-- The four variables spell the configuration: the delays in milliseconds and the number of attempts
as counts, and the multiplier as any decimal that has its value. -/
structure WrittenIn (vars : Variables) (config : RetryConfig) : Prop where
  initialDelay : vars.Spells initialVariable (toString config.initialDelay.millis).toList
  multiplier : ∃ text : DecimalText, text.value = config.multiplier.value ∧
    vars.Spells multiplierVariable text.chars
  maxDelay : vars.Spells maxVariable (toString config.maxDelay.millis).toList
  maxAttempts : vars.Spells maxAttemptsVariable (toString config.maxAttempts.toNat).toList

theorem toList_toString (n : ℕ) : (toString n).toList = (Digits.ofCount n).chars := by
  rw [Nat.toString_eq_ofList_toDigits, String.toList_ofList]
  rfl

theorem loadFields_of_writtenIn {vars : Variables} {config : RetryConfig} (valid : config.Valid)
    (initial : config.initialDelay.InMillis) (max : config.maxDelay.InMillis)
    (written : config.WrittenIn vars) : (loadFields vars).result = .ok config := by
  obtain ⟨initialDelay, multiplier, maxDelay, maxAttempts⟩ := config
  obtain ⟨initialMillis, rfl⟩ := initial
  obtain ⟨maxMillis, rfl⟩ := max
  obtain ⟨initialText, ⟨decimal, same, multiplierText⟩, maxText, attemptsText⟩ := written
  dsimp only at initialText maxText attemptsText multiplierText same
  rw [Duration.millis_ofMillis, toList_toString] at initialText maxText
  rw [toList_toString] at attemptsText
  have nonzero := (Binary64.atLeastOne_of_not_le valid.finite valid.growing).value_ne_zero valid.finite
  have number := ValueReader.decimal_of_value valid.finite nonzero same
  have initialFound := initialText.result_value (Digits.isFirm _)
    (ValueReader.word64_ofCount initialMillis)
  have multiplierFound := multiplierText.result_value decimal.isFirm number
  have maxFound := maxText.result_value (Digits.isFirm _) (ValueReader.word64_ofCount maxMillis)
  have attemptsFound := attemptsText.result_value (Digits.isFirm _)
    (ValueReader.word32_ofCount maxAttempts)
  unfold loadFields
  rw [Lookup.bind_of_ok (initialFound _), Lookup.bind_of_ok (multiplierFound _),
    Lookup.bind_of_ok (maxFound _), Lookup.bind_of_ok (attemptsFound _)]
  rfl

/-! ## Writing -/

/-- The variables that spell a configuration without blanks. -/
def spelled (config : RetryConfig) (multiplier : DecimalText) : Variables := fun name =>
  if name = initialVariable then some (toString config.initialDelay.millis)
  else if name = multiplierVariable then some (String.ofList multiplier.chars)
  else if name = maxVariable then some (toString config.maxDelay.millis)
  else if name = maxAttemptsVariable then some (toString config.maxAttempts.toNat)
  else none

theorem writtenIn_spelled {config : RetryConfig} {multiplier : DecimalText}
    (same : multiplier.value = config.multiplier.value) :
    config.WrittenIn (config.spelled multiplier) := by
  have apart : multiplierVariable ≠ initialVariable ∧ maxVariable ≠ initialVariable ∧
      maxVariable ≠ multiplierVariable ∧ maxAttemptsVariable ≠ initialVariable ∧
      maxAttemptsVariable ≠ multiplierVariable ∧ maxAttemptsVariable ≠ maxVariable := by decide
  constructor
  · apply Variables.spells_of_eq
    simp only [spelled, if_true]
  · have set : config.spelled multiplier multiplierVariable = some (String.ofList multiplier.chars) := by
      simp only [spelled, apart, if_true, if_false]
    have spells := Variables.spells_of_eq set
    rw [String.toList_ofList] at spells
    exact ⟨multiplier, same, spells⟩
  · apply Variables.spells_of_eq
    simp only [spelled, apart, if_true, if_false]
  · apply Variables.spells_of_eq
    simp only [spelled, apart, if_true, if_false]

/-- A valid configuration with delays in milliseconds can be written down, and is loaded from any
variables in which it is written. -/
theorem load_of_writtenIn {config : RetryConfig} (valid : config.Valid)
    (initial : config.initialDelay.InMillis) (max : config.maxDelay.InMillis) :
    (∃ vars, WrittenIn vars config) ∧
      ∀ vars, WrittenIn vars config → (load vars).result = .ok config := by
  constructor
  · obtain ⟨negative, units, onGrid, multiplier⟩ := Binary64.isFinite_iff.1 valid.finite
    refine ⟨config.spelled (.exact negative units), writtenIn_spelled ?_⟩
    rw [multiplier]
    exact DecimalText.value_exact
  · intro vars written
    have fields := loadFields_of_writtenIn valid initial max written
    rcases (load_of_fields fields).2.2 with ⟨-, loaded⟩ | ⟨fault, -, notValid, -⟩
    · exact loaded
    · exact absurd valid notValid

/-- The longest delays in milliseconds and the most attempts. -/
def greatest : RetryConfig where
  initialDelay := .ofMillis (UInt64.ofNat (UInt64.size - 1))
  multiplier := .ofNat (twoPow 1)
  maxDelay := .ofMillis (UInt64.ofNat (UInt64.size - 1))
  maxAttempts := UInt32.ofNat (UInt32.size - 1)

/-- Two, in two places behind the point and with an exponent. -/
def twoText : DecimalText where
  sign := .plus
  whole := ⟨[], List.all_eq_true.1 (by decide)⟩
  fraction? := some ⟨['0', '2'], List.all_eq_true.1 (by decide)⟩
  exponent? := some ⟨'E', .inr rfl, .absent, ⟨['2'], List.all_eq_true.1 (by decide)⟩, by decide⟩
  someDigit := .inr ⟨_, rfl, by decide⟩

theorem value_twoText : twoText.value = 2 := by
  have factor : twoText.sign.factor = 1 := rfl
  have whole : digitsValue twoText.whole.chars = 0 := rfl
  have fraction : digitsValue twoText.fraction = 2 := by decide
  have places : twoText.fraction.length = 2 := rfl
  have exponent : twoText.exponent = 2 := by decide
  rw [DecimalText.value, factor, whole, fraction, places, exponent]
  norm_num

def greatestVariables : Variables := fun name =>
  if name = initialVariable then some "\u2003\t18446744073709551615"
  else if name = multiplierVariable then some "\u3000+.02E2\n"
  else if name = maxVariable then some "18446744073709551615\u0085 "
  else if name = maxAttemptsVariable then some " 4294967295\u00a0"
  else none

theorem load_greatest :
    greatest.Valid ∧ greatest.initialDelay.InMillis ∧ greatest.maxDelay.InMillis ∧
      greatest.WrittenIn greatestVariables ∧
      (load greatestVariables).result = .ok greatest := by
  have valid : greatest.Valid :=
    ⟨by decide, by decide +kernel, by decide +kernel, by decide +kernel⟩
  have written : greatest.WrittenIn greatestVariables := by
    refine ⟨⟨['\u2003', '\t'], [], List.all_eq_true.1 (by decide), by decide +kernel⟩,
      ⟨twoText, ?_, ['\u3000'], ['\n'], List.all_eq_true.1 (by decide), by decide +kernel⟩,
      ⟨[], ['\u0085', ' '], List.all_eq_true.1 (by decide), by decide +kernel⟩,
      ⟨[' '], ['\u00a0'], List.all_eq_true.1 (by decide), by decide +kernel⟩⟩
    rw [value_twoText, greatest, Binary64.value_ofNat_twoPow (by decide), pow_one]
  exact ⟨valid, ⟨_, rfl⟩, ⟨_, rfl⟩, written,
    (load_of_writtenIn valid ⟨_, rfl⟩ ⟨_, rfl⟩).2 greatestVariables written⟩

end RetryConfig

end SteadyStore
