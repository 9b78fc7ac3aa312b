import Mathlib.Data.Nat.EvenOddRec
import SteadyStore.Proofs.Number.Magnitude
/-!
# Powers by repeated squaring

The loop takes a binary digit of the exponent in each turn (`powLoop_even`, `powLoop_odd`), and
rounds each product. Powers of numbers from one on still grow with the exponent (`pow_upTo_pow`):
counting up turns the lowest digits from ones to zeros and the next digit from zero to one. The
products for those ones are not above the square for that one, and what follows is the same for both.
-/

namespace SteadyStore.Binary64

/-! ## Digits of the exponent -/

theorem powLoop_zero (product square : Binary64) : powLoop product square 0 = product := by
  rw [powLoop]
  rfl

/-- A turn of the loop, also when it is the last one. -/
theorem powLoop_turn (product square : Binary64) (exponent : Nat) :
    powLoop product square exponent =
      powLoop (if exponent % 2 = 1 then mul product square else product) (mul square square)
        (exponent / 2) := by
  by_cases last : exponent / 2 = 0
  · rw [last, powLoop_zero, powLoop]
    exact if_pos last
  · rw [powLoop]
    exact if_neg last

theorem powLoop_even (product square : Binary64) (n : Nat) :
    powLoop product square (2 * n) = powLoop product (mul square square) n := by
  rw [powLoop_turn, Nat.mul_mod_right, Nat.mul_div_cancel_left n Nat.two_pos]
  rfl

theorem powLoop_odd (product square : Binary64) (n : Nat) :
    powLoop product square (2 * n + 1) =
      powLoop (mul product square) (mul square square) n := by
  have digit : (2 * n + 1) % 2 = 1 := by omega
  have rest : (2 * n + 1) / 2 = n := by omega
  rw [powLoop_turn, if_pos digit, rest]

/-! ## Powers grow -/

theorem AtLeastOne.powLoop {product square : Binary64} (hp : product.AtLeastOne)
    (hs : square.AtLeastOne) (n : Nat) : (powLoop product square n).AtLeastOne := by
  -- Over the binary digits of the exponent.
  induction n using Nat.evenOddRec generalizing product square with
  | h0 => rwa [powLoop_zero]
  | h_even n ih =>
    rw [powLoop_even]
    exact ih hp (hs.mul hs)
  | h_odd n ih =>
    rw [powLoop_odd]
    exact ih (hp.mul hs) (hs.mul hs)

theorem AtLeastOne.pow {base : Binary64} (hb : base.AtLeastOne) (n : Nat) :
    (base.pow n).AtLeastOne :=
  atLeastOne_one.powLoop hb n

/-- The same digits keep the order of two products. -/
theorem UpTo.powLoop {product product' square : Binary64} (order : product.UpTo product')
    (hp : product.AtLeastOne) (hs : square.AtLeastOne) (n : Nat) :
    (powLoop product square n).UpTo (powLoop product' square n) := by
  induction n using Nat.evenOddRec generalizing product product' square with
  | h0 => rwa [powLoop_zero, powLoop_zero]
  | h_even n ih =>
    rw [powLoop_even, powLoop_even]
    exact ih order hp (hs.mul hs)
  | h_odd n ih =>
    rw [powLoop_odd, powLoop_odd]
    exact ih (order.mul hs.one_upTo.refl_right hp hs) (hp.mul hs) (hs.mul hs)

/-- The product for the ones that a carry clears is at most the square for the digit that it sets,
so the loop that counts one further gets at least as far. -/
theorem powLoop_upTo_carry {product square : Binary64} (order : product.UpTo square)
    (hp : product.AtLeastOne) (n : Nat) :
    (powLoop product square n).UpTo (powLoop one square (n + 1)) := by
  induction n using Nat.evenOddRec generalizing product square with
  | h0 =>
    rw [powLoop_zero, powLoop_odd one square 0, powLoop_zero, (hp.of_upTo order).one_mul]
    exact order
  | h_even n ih =>
    -- The digit is set, and the digits above are the same.
    have hs := hp.of_upTo order
    rw [powLoop_even, powLoop_odd, hs.one_mul]
    exact order.powLoop hp (hs.mul hs) n
  | h_odd n ih =>
    -- The digit is cleared, and the carry goes on.
    have hs := hp.of_upTo order
    rw [powLoop_odd, show 2 * n + 1 + 1 = 2 * (n + 1) by omega, powLoop_even]
    exact ih (order.mul hs.one_upTo.refl_right hp hs) (hp.mul hs)

theorem pow_upTo_pow_succ {base : Binary64} (hb : base.AtLeastOne) (n : Nat) :
    (base.pow n).UpTo (base.pow (n + 1)) :=
  powLoop_upTo_carry hb.one_upTo atLeastOne_one n

/-- Powers of a number from one on grow with the exponent, although each is rounded on a way of its
own. -/
theorem pow_upTo_pow {base : Binary64} (hb : base.AtLeastOne) {m n : Nat} (h : m ≤ n) :
    (base.pow m).UpTo (base.pow n) := by
  induction n, h using Nat.le_induction with
  | base => exact (hb.pow m).one_upTo.refl_right
  | succ n _ ih => exact ih.trans (pow_upTo_pow_succ hb n)

end SteadyStore.Binary64
