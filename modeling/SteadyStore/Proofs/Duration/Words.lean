import SteadyStore.Duration
/-!
# Spans in words

A span fits two words: 64 bits for its whole seconds, and 32 for the nanoseconds past them
(`words`). Sums are made word by word, with a carry from the nanoseconds into the seconds, and are
the longest span where the seconds do not fit (`words_add`).
-/

namespace SteadyStore.Duration

structure Words where
  seconds : UInt64
  nanos : UInt32
deriving DecidableEq

def words (d : Duration) : Words := ⟨UInt64.ofNat d.seconds, UInt32.ofNat d.subsecond⟩

/-- The sum of two words, if it fits. One that does not has wrapped around, and is less than
both. -/
def checkedAdd (a b : UInt64) : Option UInt64 := if a + b < a then none else some (a + b)

/-- The sum of two spans, if its seconds fit. -/
def Words.checkedAdd (a b : Words) : Option Words :=
  (Duration.checkedAdd a.seconds b.seconds).bind fun seconds =>
    let nanos := a.nanos + b.nanos
    if nanos < 1000000000 then some ⟨seconds, nanos⟩
    else (Duration.checkedAdd seconds 1).map fun seconds => ⟨seconds, nanos - 1000000000⟩

/-- The sum of two spans, or the longest span. -/
def Words.saturatingAdd (a b : Words) : Words := (a.checkedAdd b).getD longest.words

theorem checkedAdd_of_lt {a b : UInt64} (fits : a.toNat + b.toNat < UInt64.size) :
    checkedAdd a b = some (a + b) := by
  rw [checkedAdd, if_neg]
  rw [UInt64.lt_iff_toNat_lt, UInt64.toNat_add]
  simp only [UInt64.size] at fits
  omega

theorem checkedAdd_of_le {a b : UInt64} (exceeds : UInt64.size ≤ a.toNat + b.toNat) :
    checkedAdd a b = none := by
  rw [checkedAdd, if_pos]
  have := a.toNat_lt
  have := b.toNat_lt
  rw [UInt64.lt_iff_toNat_lt, UInt64.toNat_add]
  simp only [UInt64.size] at exceeds
  omega

/-! ## The words of a span -/

theorem seconds_lt (d : Duration) : d.seconds < UInt64.size := by
  have := d.inRange
  simp only [seconds, longestNanos, UInt64.size] at *
  omega

theorem subsecond_lt (d : Duration) : d.subsecond < 1000000000 := Nat.mod_lt _ (by decide)

theorem seconds_words (d : Duration) : d.words.seconds.toNat = d.seconds :=
  UInt64.toNat_ofNat_of_lt' d.seconds_lt

theorem nanos_words (d : Duration) : d.words.nanos.toNat = d.subsecond :=
  UInt32.toNat_ofNat_of_lt' (Nat.lt_trans d.subsecond_lt (by decide))

theorem words_eq {d : Duration} {w : Words} (seconds : d.seconds = w.seconds.toNat)
    (nanos : d.subsecond = w.nanos.toNat) : d.words = w := by
  rw [words, seconds, nanos, UInt64.ofNat_toNat, UInt32.ofNat_toNat]

theorem nanos_eq (d : Duration) : d.nanos = d.seconds * 1000000000 + d.subsecond :=
  (Nat.div_add_mod' ..).symm

/-! ## Sums -/

theorem nanos_ofNanos (nanos : Nat) : (ofNanos nanos).nanos = min nanos longestNanos := rfl

/-- The nanoseconds of two spans are below two seconds together, which fits their word. -/
theorem toNat_nanos_add (a b : Duration) :
    (a.words.nanos + b.words.nanos).toNat = a.subsecond + b.subsecond := by
  have := a.subsecond_lt
  have := b.subsecond_lt
  rw [UInt32.toNat_add, nanos_words, nanos_words]
  omega

theorem toNat_seconds_add {a b : Duration} (fits : a.seconds + b.seconds < UInt64.size) :
    (a.words.seconds + b.words.seconds).toNat = a.seconds + b.seconds := by
  rw [UInt64.toNat_add, seconds_words, seconds_words]
  exact Nat.mod_eq_of_lt fits

theorem add_eq_longest {a b : Duration} (exceeds : longestNanos ≤ a.nanos + b.nanos) :
    a + b = longest :=
  ext_nanos (Nat.min_eq_right exceeds)

/-- The words of a sum that fits are those that hold it. -/
theorem words_add_of_le {a b : Duration} {w : Words} (fits : a.nanos + b.nanos ≤ longestNanos)
    (same : w.seconds.toNat * 1000000000 + w.nanos.toNat = a.nanos + b.nanos)
    (below : w.nanos.toNat < 1000000000) : (a + b).words = w := by
  have sum : (a + b).nanos = a.nanos + b.nanos := Nat.min_eq_left fits
  refine words_eq ?_ ?_
  · rw [seconds, sum]
    omega
  · rw [subsecond, sum]
    omega

/-- The sum of two spans is made word by word: no word of it wraps around, and the longest span
stands for a sum whose seconds do not fit. -/
theorem words_add (a b : Duration) : (a + b).words = a.words.saturatingAdd b.words := by
  have aNanos := a.nanos_eq
  have bNanos := b.nanos_eq
  have aBelow := a.subsecond_lt
  have bBelow := b.subsecond_lt
  have nanos := toNat_nanos_add a b
  have second : (1000000000 : UInt32).toNat = 1000000000 := rfl
  have bound : longestNanos + 1 = UInt64.size * 1000000000 := by decide
  rw [Words.saturatingAdd, Words.checkedAdd]
  by_cases fits : a.seconds + b.seconds < UInt64.size
  · rw [checkedAdd_of_lt (by rwa [seconds_words, seconds_words]), Option.bind_some]
    have seconds := toNat_seconds_add fits
    dsimp only
    split
    · rename_i below
      rw [UInt32.lt_iff_toNat_lt, nanos, second] at below
      rw [Option.getD_some]
      refine words_add_of_le (by omega) ?_ ?_
      · rw [seconds, nanos]
        omega
      · rwa [nanos]
    · -- A second is carried over.
      rename_i carried
      rw [UInt32.lt_iff_toNat_lt, nanos, second, Nat.not_lt] at carried
      have rest : (a.words.nanos + b.words.nanos - 1000000000).toNat =
          a.subsecond + b.subsecond - 1000000000 := by
        rw [UInt32.toNat_sub_of_le _ _ (by rwa [UInt32.le_iff_toNat_le, nanos]), nanos, second]
      by_cases room : a.seconds + b.seconds + 1 < UInt64.size
      · have next : (a.words.seconds + b.words.seconds + 1).toNat = a.seconds + b.seconds + 1 := by
          rw [UInt64.toNat_add, seconds]
          exact Nat.mod_eq_of_lt room
        rw [checkedAdd_of_lt (by rwa [seconds]), Option.map_some, Option.getD_some]
        refine words_add_of_le (by omega) ?_ ?_
        · rw [next, rest]
          omega
        · rw [rest]
          omega
      · rw [checkedAdd_of_le (by rw [seconds]; exact Nat.not_lt.1 room), Option.map_none,
          add_eq_longest (by omega)]
        rfl
  · rw [checkedAdd_of_le (by rw [seconds_words, seconds_words]; exact Nat.not_lt.1 fits),
      Option.bind_none, add_eq_longest (by omega)]
    rfl

end SteadyStore.Duration
