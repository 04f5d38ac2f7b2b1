import Mathlib.Analysis.SpecialFunctions.Log.Base
import Mathlib.Data.Nat.Log
import Mathlib.Data.Prod.Lex

/-! # The scale of a number

A positive number is between two multiples of a power of the base that follow one
another, the factor being less than the base.  The exponent and the factor grow
with the number, and the exponent is the truncated quotient of two logarithms. -/
set_option autoImplicit false

universe u

namespace Scale

/-- Conversion to an integer, towards zero. -/
def truncate {R : Type u} [Ring R] [LinearOrder R] [FloorRing R] (x : R) : ℤ :=
  if 0 ≤ x then ⌊x⌋ else ⌈x⌉

/-- The number starts with the digit `lead` at the place `exponent`. -/
structure IsLeading (base n exponent lead : Nat) : Prop where
  pos : 1 ≤ lead
  digit : lead < base
  below : lead * base ^ exponent ≤ n
  above : n < (lead + 1) * base ^ exponent

section Leading
variable {base n m exponent exponent' lead lead' : Nat}

theorem isLeading_log (large : 1 < base) (some : n ≠ 0) :
    IsLeading base n (Nat.log base n) (n / base ^ Nat.log base n) := by
  have low := Nat.pow_log_le_self base some
  have high := Nat.lt_pow_succ_log_self large n
  have power : 0 < base ^ Nat.log base n := Nat.pow_pos (by omega)
  refine ⟨Nat.div_pos low power, ?_, Nat.div_mul_le_self n _, ?_⟩
  · rw [Nat.div_lt_iff_lt_mul power, ← Nat.pow_succ']
    exact high
  · rw [← Nat.div_lt_iff_lt_mul power]
    exact Nat.lt_succ_self _

/-- The number is between two powers that follow one another. -/
theorem IsLeading.between (leading : IsLeading base n exponent lead) :
    base ^ exponent ≤ n ∧ n < base ^ (exponent + 1) := by
  constructor
  · calc base ^ exponent = 1 * base ^ exponent := (Nat.one_mul _).symm
      _ ≤ lead * base ^ exponent := Nat.mul_le_mul_right _ leading.pos
      _ ≤ n := leading.below
  · calc n < (lead + 1) * base ^ exponent := leading.above
      _ ≤ base * base ^ exponent := Nat.mul_le_mul_right _ leading.digit
      _ = base ^ (exponent + 1) := Nat.pow_succ'.symm

/-- A larger number has a larger exponent, or the same and a larger digit. -/
theorem IsLeading.le (leading : IsLeading base n exponent lead)
    (leading' : IsLeading base m exponent' lead') (le : n ≤ m) :
    toLex (exponent, lead) ≤ toLex (exponent', lead') := by
  have digit := leading.digit
  have positive : 0 < base := by omega
  rw [Prod.Lex.toLex_le_toLex']
  constructor
  · by_contra larger
    have powers : base ^ (exponent' + 1) ≤ base ^ exponent :=
      Nat.pow_le_pow_right positive (Nat.lt_of_not_le larger)
    have low := leading.between.1
    have high := leading'.between.2
    omega
  · intro same
    obtain rfl : exponent = exponent' := same
    have bound : lead * base ^ exponent < (lead' + 1) * base ^ exponent :=
      (leading.below.trans le).trans_lt leading'.above
    exact Nat.le_of_lt_succ (Nat.lt_of_mul_lt_mul_right bound)

end Leading

/-! ## Real logarithms -/

theorem truncate_natCast {R : Type u} [Ring R] [LinearOrder R] [IsStrictOrderedRing R]
    [FloorRing R] (n : Nat) : truncate (n : R) = n := by
  unfold truncate
  rw [if_pos (Nat.cast_nonneg n), Int.floor_natCast]

theorem truncate_log_div_log {base n : Nat} (large : 1 < base) (some : 0 < n) :
    truncate (Real.log n / Real.log base) = Nat.log base n := by
  have large' : (1 : ℝ) < base := by exact_mod_cast large
  have some' : (1 : ℝ) ≤ n := by exact_mod_cast some
  unfold truncate
  rw [Real.log_div_log, if_pos (Real.logb_nonneg large' some'),
    Real.floor_logb_natCast (Nat.cast_nonneg n), Int.log_natCast]

end Scale
