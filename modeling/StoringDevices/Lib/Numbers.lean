import Mathlib.Algebra.Order.Field.Rat
import Mathlib.Tactic.NormNum
import Mathlib.Tactic.Ring

/-! # Numbers as they are stored and shown

The decimal text of a number has no character but digits and a dash.  A word holds
the value of the number it is converted from, and of a power, as long as they fit.
A quotient is off by the rest. -/
set_option autoImplicit false

namespace Numbers

/-! ## Decimal texts -/

theorem natText_without {c : Char} (noDigit : c.isDigit = false) (n : Nat) :
    c ∉ (toString n).toList := by
  rw [Nat.toString_eq_repr, Nat.toList_repr]
  intro member
  rw [Nat.isDigit_of_mem_toDigits (by decide) (by decide) member] at noDigit
  cases noDigit

theorem intText_without {c : Char} (noDigit : c.isDigit = false) (noDash : c ≠ '-') (n : Int) :
    c ∉ (toString n).toList := by
  cases n with
  | ofNat n => exact natText_without noDigit n
  | negSucc n =>
      have shape : toString (Int.negSucc n) = "-" ++ toString (n + 1) := rfl
      rw [shape, String.toList_append, List.mem_append, not_or]
      exact ⟨by simpa using noDash, natText_without noDigit (n + 1)⟩

/-! ## Words -/

theorem toUInt64_toNat {x : Int64} {n : Nat} (value : x.toInt = n) : x.toUInt64.toNat = n := by
  have nonneg : 0 ≤ x := by
    rw [Int64.le_iff_toInt_le, Int64.toInt_zero, value]
    omega
  rw [Int64.toNat_toUInt64_of_le nonneg, Int64.toNatClampNeg, value, Int.toNat_natCast]

theorem toNat_pow_of_lt {unit : UInt64} :
    ∀ {e : Nat}, unit.toNat ^ e < 2 ^ 64 → (unit ^ e).toNat = unit.toNat ^ e := by
  intro e
  induction e with
  | zero => intro _; rfl
  | succ e ih =>
      intro fits
      by_cases zero : unit.toNat = 0
      · rw [UInt64.pow_succ, UInt64.toNat_mul, zero]
        simp
      · have smaller : unit.toNat ^ e < 2 ^ 64 :=
          (Nat.pow_le_pow_right (Nat.pos_of_ne_zero zero) (Nat.le_succ e)).trans_lt fits
        rw [UInt64.pow_succ, UInt64.toNat_mul, ih smaller, ← pow_succ, Nat.mod_eq_of_lt fits]

/-! ## Quotients -/

theorem quotient_close_iff (n power : Nat) :
    |((n / power : Nat) : ℚ) * power - n| < (power : ℚ) / 10 ↔ 10 * (n % power) < power := by
  have split : ((n / power : Nat) : ℚ) * power - n = -((n % power : Nat) : ℚ) := by
    have whole : (n : ℚ) = power * (n / power : Nat) + (n % power : Nat) := by
      exact_mod_cast (Nat.div_add_mod n power).symm
    rw [whole]
    ring
  rw [split, abs_neg, Nat.abs_cast, lt_div_iff₀ (by norm_num), mul_comm]
  exact_mod_cast Iff.rfl

end Numbers
