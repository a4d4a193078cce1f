import ChipEight.Proofs.Number.Rounding

/-!
# The nearest binary64 number

A quotient is scaled to the last place that its binary64 numbers have and rounded to an integer
there.  The rounding goes through integers only.  Here its result is compared with every finite
binary64 number: none is nearer to the quotient, and of two that are equally near the one with the
even mantissa is taken.
-/

namespace ChipEight.Binary64

/-! ## Powers of two -/

theorem scaled_ratio (num den : ℕ) (scale : ℤ) :
    ((scaled num den scale).1 : ℚ) / (scaled num den scale).2 = num / den * 2 ^ scale := by
  unfold scaled
  split
  case isTrue nonneg =>
    have power : ((Nat.pow 2 scale.toNat : ℕ) : ℚ) = 2 ^ scale := by
      rw [Nat.pow_eq, Nat.cast_pow, Nat.cast_ofNat, ← zpow_natCast, Int.toNat_of_nonneg nonneg]
    rw [Nat.cast_mul, power, mul_div_right_comm]
  case isFalse negative =>
    have power : ((Nat.pow 2 (-scale).toNat : ℕ) : ℚ) = (2 ^ scale)⁻¹ := by
      rw [Nat.pow_eq, Nat.cast_pow, Nat.cast_ofNat, ← zpow_natCast,
        Int.toNat_of_nonneg (by omega), zpow_neg]
    rw [Nat.cast_mul, power, ← div_div, div_inv_eq_mul]

theorem scaled_snd_pos (num : ℕ) {den : ℕ} (positive : 0 < den) (scale : ℤ) :
    0 < (scaled num den scale).2 := by
  unfold scaled
  split
  · exact positive
  · exact Nat.mul_pos positive (Nat.pow_pos two_pos)

theorem nearestEven_rounded (mantissa : ℕ) (exponent : ℤ) :
    NearestEven (mantissa * 2 ^ exponent) (rounded mantissa exponent) := by
  have near := nearestEven_roundHalfEven (scaled mantissa 1 exponent).1
    (scaled_snd_pos mantissa one_pos exponent)
  rw [scaled_ratio, Nat.cast_one, div_one] at near
  exact near

theorem zpow_log2_le {n : ℕ} (positive : 0 < n) : (2 : ℚ) ^ (n.log2 : ℤ) ≤ n := by
  rw [zpow_natCast]
  exact_mod_cast Nat.log2_self_le positive.ne'

theorem lt_zpow_log2 (n : ℕ) : (n : ℚ) < 2 ^ ((n.log2 : ℤ) + 1) := by
  have below : n < 2 ^ (n.log2 + 1) := Nat.lt_log2_self
  exact_mod_cast below

/-- `floorLog2` is the exponent of the greatest power of two that is not above a quotient. -/
theorem floorLog2_spec {num den : ℕ} (num_pos : 0 < num) (den_pos : 0 < den) :
    (2 : ℚ) ^ floorLog2 num den ≤ num / den ∧
      (num : ℚ) / den < 2 ^ (floorLog2 num den + 1) := by
  have two_ne : (2 : ℚ) ≠ 0 := two_ne_zero
  have divisor : (0 : ℚ) < den := by exact_mod_cast den_pos
  have guess_iff : (scaled num den (-((num.log2 : ℤ) - den.log2))).2 ≤
      (scaled num den (-((num.log2 : ℤ) - den.log2))).1 ↔
        (2 : ℚ) ^ ((num.log2 : ℤ) - den.log2) ≤ num / den := by
    have positive : (0 : ℚ) < (scaled num den (-((num.log2 : ℤ) - den.log2))).2 := by
      exact_mod_cast scaled_snd_pos num den_pos _
    rw [← @Nat.cast_le ℚ, ← one_le_div positive, scaled_ratio, zpow_neg,
      ← div_eq_mul_inv, one_le_div (zpow_pos two_pos _)]
  have low : (2 : ℚ) ^ ((num.log2 : ℤ) - den.log2 - 1) ≤ num / den := by
    rw [le_div_iff₀ divisor]
    calc (2 : ℚ) ^ ((num.log2 : ℤ) - den.log2 - 1) * den
        ≤ 2 ^ ((num.log2 : ℤ) - den.log2 - 1) * 2 ^ ((den.log2 : ℤ) + 1) :=
          mul_le_mul_of_nonneg_left (lt_zpow_log2 den).le (zpow_pos two_pos _).le
      _ = 2 ^ (num.log2 : ℤ) := by
          rw [← zpow_add₀ two_ne]
          ring_nf
      _ ≤ num := zpow_log2_le num_pos
  have high : (num : ℚ) / den < 2 ^ ((num.log2 : ℤ) - den.log2 + 1) := by
    rw [div_lt_iff₀ divisor]
    calc (num : ℚ) < 2 ^ ((num.log2 : ℤ) + 1) := lt_zpow_log2 num
      _ = 2 ^ ((num.log2 : ℤ) - den.log2 + 1) * 2 ^ (den.log2 : ℤ) := by
          rw [← zpow_add₀ two_ne]
          ring_nf
      _ ≤ 2 ^ ((num.log2 : ℤ) - den.log2 + 1) * den :=
          mul_le_mul_of_nonneg_left (zpow_log2_le den_pos) (zpow_pos two_pos _).le
  simp only [floorLog2]
  split
  case isTrue fits => exact ⟨guess_iff.mp fits, high⟩
  case isFalse exceeds =>
    rw [guess_iff, not_le] at exceeds
    refine ⟨low, ?_⟩
    rw [sub_add_cancel]
    exact exceeds

/-! ## Places -/

section Places

variable {num den : ℕ} (num_pos : 0 < num) (den_pos : 0 < den)
include num_pos den_pos

/-- In units of its last place a quotient has at most fifty-three bits. -/
theorem div_lastPlace_lt : (num : ℚ) / den / 2 ^ lastPlace num den < 2 ^ 53 := by
  rw [div_lt_iff₀ (zpow_pos two_pos _)]
  calc (num : ℚ) / den < 2 ^ (floorLog2 num den + 1) := (floorLog2_spec num_pos den_pos).2
    _ ≤ 2 ^ (53 + lastPlace num den) := by
        apply zpow_le_zpow_right₀ one_le_two
        unfold lastPlace
        omega
    _ = 2 ^ 53 * 2 ^ lastPlace num den := by
        rw [zpow_add₀ two_ne_zero]
        rfl

/-- A quotient whose last place is not the least one has fifty-three bits. -/
theorem le_div_lastPlace (normal : lastPlace num den ≠ -1074) :
    (2 : ℚ) ^ 52 ≤ num / den / 2 ^ lastPlace num den := by
  have place : floorLog2 num den = 52 + lastPlace num den := by
    unfold lastPlace at normal ⊢
    omega
  rw [le_div_iff₀ (zpow_pos two_pos _)]
  calc (2 : ℚ) ^ 52 * 2 ^ lastPlace num den = 2 ^ floorLog2 num den := by
        rw [place, zpow_add₀ two_ne_zero]
        rfl
    _ ≤ num / den := (floorLog2_spec num_pos den_pos).1

end Places

/-! ## Nearest numbers -/

/-- The mantissas and exponents of finite binary64 numbers. -/
def Finite (mantissa : ℕ) (exponent : ℤ) : Prop :=
  mantissa < 2 ^ 53 ∧ -1074 ≤ exponent ∧ exponent ≤ 971

/-- `mantissa * 2 ^ exponent` is the finite binary64 number nearest to `x`.  Of two equally near
ones it is the one with the even mantissa, where the mantissa is taken with all its bits. -/
structure Rounds (x : ℚ) (mantissa : ℕ) (exponent : ℤ) : Prop where
  finite : Finite mantissa exponent
  normal : 2 ^ 52 ≤ mantissa ∨ exponent = -1074
  nearest (m : ℕ) (e : ℤ) (format : Finite m e) :
    |x - mantissa * 2 ^ exponent| ≤ |x - m * 2 ^ e|
  even (m : ℕ) (e : ℤ) (format : Finite m e)
    (other : (m : ℚ) * 2 ^ e ≠ mantissa * 2 ^ exponent)
    (tie : |x - m * 2 ^ e| = |x - mantissa * 2 ^ exponent|) : Even mantissa

/-- A binary64 number is a multiple of the last place of a quotient, or else some multiple is nearer
to the quotient. -/
theorem multiple_or_farther {num den : ℕ} (num_pos : 0 < num) (den_pos : 0 < den) {m : ℕ} {e : ℤ}
    (format : Finite m e) :
    (∃ n : ℤ, (m : ℚ) * 2 ^ e = n * 2 ^ lastPlace num den) ∨
      ∃ n : ℤ, |(num : ℚ) / den - n * 2 ^ lastPlace num den| < |(num : ℚ) / den - m * 2 ^ e| := by
  by_cases coarse : lastPlace num den ≤ e
  · refine .inl ⟨m * 2 ^ (e - lastPlace num den).toNat, ?_⟩
    push_cast
    rw [← zpow_natCast, Int.toNat_of_nonneg (by omega), mul_assoc, ← zpow_add₀ two_ne_zero,
      sub_add_cancel]
  · -- A finer number has too few bits to come up to the power of two below the quotient.
    refine .inr ⟨2 ^ 52, ?_⟩
    have bottom := (le_div_iff₀ (zpow_pos two_pos _)).mp
      (le_div_lastPlace num_pos den_pos (by have := format.2.1; omega))
    have finer : (m : ℚ) * 2 ^ e < 2 ^ 52 * 2 ^ lastPlace num den :=
      calc (m : ℚ) * 2 ^ e < 2 ^ 53 * 2 ^ e := by
            apply mul_lt_mul_of_pos_right _ (zpow_pos two_pos _)
            exact_mod_cast format.1
        _ ≤ 2 ^ 53 * 2 ^ (lastPlace num den - 1) := by
            apply mul_le_mul_of_nonneg_left _ (by positivity)
            exact zpow_le_zpow_right₀ one_le_two (by omega)
        _ = 2 ^ 52 * 2 ^ lastPlace num den := by
            rw [zpow_sub_one₀ two_ne_zero]
            ring
    push_cast
    rw [abs_of_nonneg (by linarith), abs_of_pos (by linarith)]
    linarith

/-- A quotient in units of its last place, rounded to an integer. -/
def units (num den : ℕ) : ℕ :=
  roundHalfEven (scaled num den (-lastPlace num den)).1 (scaled num den (-lastPlace num den)).2

theorem nearestEven_units (num : ℕ) {den : ℕ} (den_pos : 0 < den) :
    NearestEven ((num : ℚ) / den / 2 ^ lastPlace num den) (units num den) := by
  have near := nearestEven_roundHalfEven (scaled num den (-lastPlace num den)).1
    (scaled_snd_pos num den_pos (-lastPlace num den))
  rw [scaled_ratio, zpow_neg, ← div_eq_mul_inv] at near
  exact near

theorem ofRatio_eq (negative : Bool) {num den : ℕ} (num_pos : 0 < num)
    (small : lastPlace num den ≤ 970) :
    ofRatio negative num den =
      if units num den = Nat.pow 2 53 then
        .finite negative (Nat.pow 2 52) (lastPlace num den + 1)
      else .finite negative (units num den) (lastPlace num den) := by
  have moderate : ¬ 971 < lastPlace num den := by omega
  have moderate' : ¬ 971 < lastPlace num den + 1 := by omega
  rw [ofRatio, if_neg num_pos.ne']
  unfold units
  by_cases full : roundHalfEven (scaled num den (-lastPlace num den)).1
      (scaled num den (-lastPlace num den)).2 = Nat.pow 2 53
  · simp only [full, if_true, if_neg moderate']
  · simp only [full, if_false, if_neg moderate]

section Quotients

variable {num den : ℕ} (num_pos : 0 < num) (den_pos : 0 < den)
include num_pos den_pos

theorem units_le : units num den ≤ 2 ^ 53 := by
  have top : NearestEven (((2 ^ 53 : ℤ) : ℚ)) (2 ^ 53) := .intCast _
  have below : (num : ℚ) / den / 2 ^ lastPlace num den ≤ ((2 ^ 53 : ℤ) : ℚ) := by
    push_cast
    exact (div_lastPlace_lt num_pos den_pos).le
  exact_mod_cast (nearestEven_units num den_pos).mono below top

theorem le_units (normal : lastPlace num den ≠ -1074) : 2 ^ 52 ≤ units num den := by
  have bottom : NearestEven (((2 ^ 52 : ℤ) : ℚ)) (2 ^ 52) := .intCast _
  have above : ((2 ^ 52 : ℤ) : ℚ) ≤ (num : ℚ) / den / 2 ^ lastPlace num den := by
    push_cast
    exact le_div_lastPlace num_pos den_pos normal
  exact_mod_cast bottom.mono above (nearestEven_units num den_pos)

/-- A number that is the rounded multiple of the last place is nearest among all binary64
numbers. -/
theorem rounds_of_eq_units {mantissa : ℕ} {exponent : ℤ} (finite : Finite mantissa exponent)
    (normal : 2 ^ 52 ≤ mantissa ∨ exponent = -1074)
    (same : (mantissa : ℚ) * 2 ^ exponent = units num den * 2 ^ lastPlace num den)
    (parity : Even (units num den) → Even mantissa) : Rounds (num / den) mantissa exponent := by
  have near := nearestEven_units num den_pos
  have unit : (0 : ℚ) < 2 ^ lastPlace num den := zpow_pos two_pos _
  have nearest (n : ℤ) : |(num : ℚ) / den - mantissa * 2 ^ exponent| ≤
      |(num : ℚ) / den - n * 2 ^ lastPlace num den| := by
    rw [same, abs_sub_mul unit, abs_sub_mul unit]
    exact mul_le_mul_of_nonneg_right (near.nearest n) unit.le
  refine ⟨finite, normal, fun m e format => ?_, fun m e format other tie => ?_⟩
  · rcases multiple_or_farther num_pos den_pos format with ⟨n, multiple⟩ | ⟨n, farther⟩
    · rw [multiple]
      exact nearest n
    · exact (nearest n).trans farther.le
  · rcases multiple_or_farther num_pos den_pos format with ⟨n, multiple⟩ | ⟨n, farther⟩
    · rw [multiple, same] at other tie
      rw [abs_sub_mul unit, abs_sub_mul unit] at tie
      apply parity
      have even := near.even n (by rintro rfl; exact other (by push_cast; rfl))
        (mul_right_cancel₀ unit.ne' tie)
      exact_mod_cast even
    · exact absurd tie ((nearest n).trans_lt farther).ne'

/-- A quotient below the range of infinity becomes the nearest binary64 number. -/
theorem ofRatio_rounds (negative : Bool) (small : lastPlace num den ≤ 970) :
    ∃ mantissa exponent, ofRatio negative num den = .finite negative mantissa exponent ∧
      (mantissa : ℚ) * 2 ^ exponent = units num den * 2 ^ lastPlace num den ∧
      Rounds (num / den) mantissa exponent := by
  have least : -1074 ≤ lastPlace num den := le_max_right _ _
  rw [ofRatio_eq negative num_pos small]
  by_cases full : units num den = Nat.pow 2 53
  · have same : ((Nat.pow 2 52 : ℕ) : ℚ) * 2 ^ (lastPlace num den + 1) =
        units num den * 2 ^ lastPlace num den := by
      rw [full, zpow_add_one₀ two_ne_zero, Nat.pow_eq, Nat.pow_eq]
      push_cast
      ring
    refine ⟨_, _, if_pos full, same, ?_⟩
    apply rounds_of_eq_units num_pos den_pos _ (.inl le_rfl) same fun _ => by decide
    exact ⟨by decide, by omega, by omega⟩
  · refine ⟨_, _, if_neg full, rfl, ?_⟩
    have below := lt_of_le_of_ne (units_le num_pos den_pos) full
    apply rounds_of_eq_units num_pos den_pos ⟨below, least, by omega⟩ _ rfl id
    by_cases lowest : lastPlace num den = -1074
    · exact .inr lowest
    · exact .inl (le_units num_pos den_pos lowest)

end Quotients

end ChipEight.Binary64
