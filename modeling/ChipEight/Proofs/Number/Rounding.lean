import ChipEight.Number.Binary64
import Mathlib.Algebra.Order.Field.Power
import Mathlib.Algebra.Order.Ring.Rat
import Mathlib.Data.Rat.Cast.Order
import Mathlib.Tactic.Linarith
import Mathlib.Tactic.Positivity
import Mathlib.Tactic.Ring

/-!
# Rounding to integers

`NearestEven` says what rounding a rational number to an integer means, without saying how it is
done: no integer is nearer, and where another one is equally near the result is even.  It determines
the result and is monotone.  The main statement is that `roundHalfEven` computes it.
-/

namespace ChipEight

/-- `q` is the integer nearest to `x`, and the even one of two equally near integers. -/
structure NearestEven (x : ℚ) (q : ℤ) : Prop where
  nearest (n : ℤ) : |x - q| ≤ |x - n|
  even (n : ℤ) (other : n ≠ q) (tie : |x - n| = |x - q|) : Even q

namespace NearestEven

variable {x y : ℚ} {p q : ℤ}

theorem abs_le_half (near : NearestEven x q) : |x - q| ≤ 1 / 2 := by
  have above := near.nearest (q + 1)
  have below := near.nearest (q - 1)
  push_cast at above below
  rcases abs_cases (x - q) with ⟨value, sign⟩ | ⟨value, sign⟩
  · rcases abs_cases (x - (q + 1)) with ⟨value', sign'⟩ | ⟨value', sign'⟩ <;> linarith
  · rcases abs_cases (x - (q - 1)) with ⟨value', sign'⟩ | ⟨value', sign'⟩ <;> linarith

theorem even_of_abs_eq_half (near : NearestEven x q) (half : |x - q| = 1 / 2) : Even q := by
  rcases abs_cases (x - q) with ⟨value, sign⟩ | ⟨value, sign⟩
  · apply near.even (q + 1) (by omega)
    have rest : x - (q + 1 : ℤ) = -(1 / 2) := by push_cast; linarith
    rw [half, rest, abs_neg]
    exact abs_of_pos (by norm_num)
  · apply near.even (q - 1) (by omega)
    have rest : x - (q - 1 : ℤ) = 1 / 2 := by push_cast; linarith
    rw [half, rest]
    exact abs_of_pos (by norm_num)

/-- Two different integers are at least one apart, so that one within a half is nearest. -/
theorem of_abs_le_half (within : |x - q| ≤ 1 / 2) (even : |x - q| = 1 / 2 → Even q) :
    NearestEven x q := by
  have apart (n : ℤ) (other : n ≠ q) : 1 ≤ |x - n| + |x - q| := by
    have least : (1 : ℚ) ≤ |(n : ℚ) - q| := by
      have : (1 : ℤ) ≤ |n - q| := Int.one_le_abs (sub_ne_zero.mpr other)
      exact_mod_cast this
    have triangle : |(n : ℚ) - q| ≤ |x - n| + |x - q| := by
      have := abs_sub_le (n : ℚ) x q
      rwa [abs_sub_comm (n : ℚ) x] at this
    linarith
  constructor
  · intro n
    by_cases same : n = q
    · rw [same]
    · have := apart n same
      linarith
  · intro n other tie
    apply even
    have := apart n other
    linarith

theorem mono (le : x ≤ y) (left : NearestEven x p) (right : NearestEven y q) : p ≤ q := by
  by_contra above
  have lower := (abs_le.mp left.abs_le_half).1
  have upper := (abs_le.mp right.abs_le_half).2
  -- The two halves meet, so both numbers lie in the middle between `q` and its successor `p`.
  have close : p ≤ q + 1 := by
    have : (p : ℚ) ≤ q + 1 := by linarith
    exact_mod_cast this
  have next : p = q + 1 := by omega
  subst next
  push_cast at lower
  have first : x - (q + 1 : ℤ) = -(1 / 2) := by push_cast; linarith
  have second : y - q = 1 / 2 := by linarith
  have evenP := left.even_of_abs_eq_half (by rw [first, abs_neg]; exact abs_of_pos (by norm_num))
  have evenQ := right.even_of_abs_eq_half (by rw [second]; exact abs_of_pos (by norm_num))
  exact (Int.even_add_one.mp evenP) evenQ

theorem unique (left : NearestEven x p) (right : NearestEven x q) : p = q :=
  le_antisymm (left.mono le_rfl right) (right.mono le_rfl left)

theorem intCast (q : ℤ) : NearestEven q q := by
  apply of_abs_le_half <;> norm_num

variable {t : ℚ}

/-- A fraction up to a half is rounded away, if a half comes to an even integer in this way. -/
theorem add_down (nonneg : 0 ≤ t) (most : t ≤ 1 / 2) (even : t = 1 / 2 → Even q) :
    NearestEven (q + t) q := by
  have distance : |(q : ℚ) + t - q| = t := by
    rw [add_sub_cancel_left]
    exact abs_of_nonneg nonneg
  apply of_abs_le_half <;> rw [distance]
  · exact most
  · exact even

/-- A fraction from a half on is rounded up, if a half comes to an even integer in this way. -/
theorem add_up (least : 1 / 2 ≤ t) (less : t < 1) (even : t = 1 / 2 → Even (q + 1)) :
    NearestEven (q + t) (q + 1) := by
  have distance : |(q : ℚ) + t - (q + 1 : ℤ)| = 1 - t := by
    push_cast
    rw [add_sub_add_left_eq_sub, abs_sub_comm]
    exact abs_of_pos (by linarith)
  apply of_abs_le_half <;> rw [distance]
  · linarith
  · intro half
    exact even (by linarith)

end NearestEven

/-- A distance from a multiple of a unit, in units. -/
theorem abs_sub_mul {unit : ℚ} (positive : 0 < unit) (x n : ℚ) :
    |x - n * unit| = |x / unit - n| * unit := by
  rw [← abs_of_pos positive, ← abs_mul, abs_of_pos positive, sub_mul,
    div_mul_cancel₀ _ positive.ne']

theorem nearestEven_roundHalfEven (num : ℕ) {den : ℕ} (positive : 0 < den) :
    NearestEven (num / den) (roundHalfEven num den) := by
  have den_pos : (0 : ℚ) < den := by exact_mod_cast positive
  -- The quotient is its integer part `k` and a fraction `t`.
  have parts : (num : ℚ) / den = (num / den : ℕ) + (num % den : ℕ) / den := by
    rw [div_eq_iff den_pos.ne', add_mul, div_mul_cancel₀ _ den_pos.ne']
    exact_mod_cast (Nat.div_add_mod' num den).symm
  have nonneg : (0 : ℚ) ≤ (num % den : ℕ) / den := by positivity
  have less : ((num % den : ℕ) : ℚ) / den < 1 := by
    rw [div_lt_one den_pos]
    exact_mod_cast Nat.mod_lt num positive
  have below_iff : 2 * (num % den) < den ↔ ((num % den : ℕ) : ℚ) / den < 1 / 2 := by
    rw [div_lt_div_iff₀ den_pos two_pos, one_mul, mul_comm]
    exact_mod_cast Iff.rfl
  have above_iff : den < 2 * (num % den) ↔ 1 / 2 < ((num % den : ℕ) : ℚ) / den := by
    rw [div_lt_div_iff₀ two_pos den_pos, one_mul, mul_comm _ (2 : ℚ)]
    exact_mod_cast Iff.rfl
  rw [parts]
  simp only [roundHalfEven]
  generalize num / den = k
  generalize ((num % den : ℕ) : ℚ) / den = t at *
  split
  case isTrue below =>
    have small := below_iff.mp below
    exact .add_down nonneg small.le fun half => absurd half small.ne
  case isFalse least =>
    rw [below_iff, not_lt] at least
    split
    case isTrue above =>
      have large := above_iff.mp above
      exact .add_up least less fun half => absurd half large.ne'
    case isFalse most =>
      rw [above_iff, not_lt] at most
      split
      case isTrue even =>
        exact .add_down nonneg most fun _ => by exact_mod_cast Nat.even_iff.mpr even
      case isFalse odd =>
        have next : Even (k + 1) := (Nat.not_even_iff_odd.mp (mt Nat.even_iff.mp odd)).add_one
        exact .add_up least less fun _ => by exact_mod_cast next

end ChipEight
