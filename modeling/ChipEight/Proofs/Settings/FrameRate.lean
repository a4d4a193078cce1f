import ChipEight.Proofs.Number.Binary64
import ChipEight.Settings.Rate

/-!
# Cycles in a frame

The quotient of the two rates is rounded twice, to a binary64 number and then to an integer.  For
fewer than 2⁵² cycles in a second this is the same as rounding the exact quotient once.  The first
rounding moves a quotient `c / h` by less than `1 / (2 * h)`, and unless it is in the middle between
two integers it is at least that far from every such middle.  A quotient in the middle is a binary64
number itself.
-/

namespace ChipEight

namespace NearestEven

variable {c h s : ℕ} {m q : ℤ}

/-- A quotient that is not in the middle between two integers keeps away from it. -/
theorem abs_add_le_of_ne_half (h_pos : 0 < h) (near : NearestEven (c / h) q)
    (untied : |(c : ℚ) / h - q| ≠ 1 / 2) : 2 * |(c : ℚ) / h - q| + 1 / h ≤ 1 := by
  have divisor : (0 : ℚ) < h := by exact_mod_cast h_pos
  have strict : |(c : ℚ) / h - q| < 1 / 2 := lt_of_le_of_ne near.abs_le_half untied
  -- Times the divisor this is a comparison of integers, which leaves a gap of one.
  have integral : 2 * |(c : ℤ) - q * h| < h := by
    have scaled : 2 * |(c : ℚ) - q * h| < h := by
      have closer := mul_lt_mul_of_pos_right strict divisor
      rw [abs_sub_mul divisor]
      linarith
    exact_mod_cast scaled
  have apart : 2 * |(c : ℚ) - q * h| + 1 ≤ h := by exact_mod_cast integral
  rw [abs_sub_mul divisor] at apart
  rw [← mul_le_mul_iff_left₀ divisor, add_mul, one_div_mul_cancel divisor.ne']
  linarith

/-- A number in the middle between two integers is unchanged by rounding to a finer power of two. -/
theorem eq_of_tie {x : ℚ} (scaled : NearestEven (x * 2 ^ (s + 1)) m) (tie : |x - q| = 1 / 2) :
    (m : ℚ) / 2 ^ (s + 1) = x := by
  obtain ⟨k, odd⟩ : ∃ k : ℤ, x = k / 2 := by
    rcases abs_cases (x - q) with ⟨value, -⟩ | ⟨value, -⟩
    · exact ⟨2 * q + 1, by push_cast; linarith⟩
    · exact ⟨2 * q - 1, by push_cast; linarith⟩
  have integral : x * 2 ^ (s + 1) = ((k * 2 ^ s : ℤ) : ℚ) := by
    rw [odd, pow_succ]
    push_cast
    ring
  rw [integral] at scaled
  rw [scaled.unique (.intCast _), ← integral, mul_div_cancel_right₀ _ (by positivity)]

/-- Rounding a quotient first to multiples of a power of two below the inverse of its divisor does
not change what it is rounded to. -/
theorem div_of_scaled (h_pos : 0 < h) (fine : h < 2 ^ (s + 1))
    (scaled : NearestEven (c / h * 2 ^ (s + 1)) m) (near : NearestEven (c / h) q) :
    NearestEven (m / 2 ^ (s + 1)) q := by
  have divisor : (0 : ℚ) < h := by exact_mod_cast h_pos
  have power : (0 : ℚ) < 2 ^ (s + 1) := by positivity
  by_cases tie : |(c : ℚ) / h - q| = 1 / 2
  · rw [eq_of_tie scaled tie]
    exact near
  · have gap := abs_add_le_of_ne_half h_pos near tie
    have moved : |(m : ℚ) / 2 ^ (s + 1) - c / h| < 1 / h / 2 := by
      have units : |(m : ℚ) / 2 ^ (s + 1) - c / h| * 2 ^ (s + 1) ≤ 1 / 2 := by
        rw [← abs_sub_mul power, abs_sub_comm]
        exact scaled.abs_le_half
      have wide : (h : ℚ) < 2 ^ (s + 1) := by exact_mod_cast fine
      calc |(m : ℚ) / 2 ^ (s + 1) - c / h| ≤ 1 / 2 / 2 ^ (s + 1) := (le_div_iff₀ power).mpr units
        _ < 1 / 2 / h := div_lt_div_of_pos_left (by norm_num) divisor wide
        _ = 1 / h / 2 := div_right_comm 1 2 (h : ℚ)
    have triangle := abs_sub_le ((m : ℚ) / 2 ^ (s + 1)) (c / h) q
    have strict : |(m : ℚ) / 2 ^ (s + 1) - q| < 1 / 2 := by linarith
    exact .of_abs_le_half strict.le fun half => absurd half strict.ne

/-- A number from zero up to a half is rounded to zero. -/
theorem zero_of_le_half {x : ℚ} (nonneg : 0 ≤ x) (most : x ≤ 1 / 2) : NearestEven x 0 := by
  have near := add_down (q := 0) nonneg most fun _ => Even.zero
  rwa [Int.cast_zero, zero_add] at near

/-- Where the power of two is not below the inverse of the divisor, but the dividend is small, both
roundings give zero. -/
theorem div_of_scaled_coarse (h_pos : 0 < h) (coarse : 2 ^ (s + 1) ≤ h)
    (double : 2 * c ≤ 2 ^ (s + 1))
    (scaled : NearestEven (c / h * 2 ^ (s + 1)) m) (near : NearestEven (c / h) q) :
    NearestEven (m / 2 ^ (s + 1)) q := by
  have divisor : (0 : ℚ) < h := by exact_mod_cast h_pos
  have power : (0 : ℚ) < 2 ^ (s + 1) := by positivity
  have wide : (2 : ℚ) ^ (s + 1) ≤ h := by exact_mod_cast coarse
  have twice : 2 * (c : ℚ) ≤ 2 ^ (s + 1) := by exact_mod_cast double
  have zero : q = 0 := by
    apply near.unique (.zero_of_le_half (by positivity) _)
    rw [div_le_div_iff₀ divisor two_pos]
    linarith
  have few : (c : ℚ) / h * 2 ^ (s + 1) ≤ (c : ℤ) := by
    rw [div_mul_eq_mul_div, div_le_iff₀ divisor]
    exact mul_le_mul_of_nonneg_left wide (Nat.cast_nonneg c)
  have most : (m : ℚ) ≤ c := by exact_mod_cast scaled.mono few (.intCast c)
  have least : (0 : ℚ) ≤ m := by
    have nonneg : ((0 : ℤ) : ℚ) ≤ c / h * 2 ^ (s + 1) := by
      rw [Int.cast_zero]
      positivity
    exact_mod_cast (intCast 0).mono nonneg scaled
  rw [zero]
  apply zero_of_le_half (div_nonneg least power.le)
  rw [div_le_div_iff₀ power two_pos]
  linarith

end NearestEven

/-! ## Rounding twice -/

section Quotients

open Binary64

variable {c h : ℕ} (c_pos : 0 < c) (small : c < 2 ^ 52) (h_pos : 0 < h)
include c_pos small h_pos

/-- The last bit of a quotient below 2⁵² stands for a fraction. -/
theorem lastPlace_neg : lastPlace c h < 0 := by
  have below : (2 : ℚ) ^ floorLog2 c h < 2 ^ (52 : ℤ) :=
    calc (2 : ℚ) ^ floorLog2 c h ≤ c / h := (floorLog2_spec c_pos h_pos).1
      _ ≤ c := div_le_self (Nat.cast_nonneg c) (by exact_mod_cast h_pos)
      _ < 2 ^ (52 : ℤ) := by exact_mod_cast small
  have bits := (zpow_lt_zpow_iff_right₀ one_lt_two).mp below
  unfold lastPlace
  omega

/-- A unit that is not below `1 / h` is the least one, and the quotient then has few units. -/
theorem two_mul_le_of_coarse {s : ℕ} (place : lastPlace c h = -((s + 1 : ℕ) : ℤ))
    (coarse : 2 ^ (s + 1) ≤ h) : 2 * c ≤ 2 ^ (s + 1) := by
  have divisor : (0 : ℚ) < h := by exact_mod_cast h_pos
  have wide : (2 : ℚ) ^ (s + 1) ≤ h := by exact_mod_cast coarse
  have least : 53 ≤ s + 1 := by
    by_contra more
    have full := le_div_lastPlace c_pos h_pos (by omega)
    rw [place, zpow_neg, zpow_natCast, div_inv_eq_mul, div_mul_eq_mul_div, le_div_iff₀ divisor]
      at full
    have bits : (2 : ℚ) ^ 52 * h ≤ c * h :=
      full.trans (mul_le_mul_of_nonneg_left wide (Nat.cast_nonneg c))
    have large : (2 : ℚ) ^ 52 ≤ c := le_of_mul_le_mul_right bits divisor
    exact absurd small (Nat.not_lt.mpr (by exact_mod_cast large))
  calc 2 * c ≤ 2 * 2 ^ 52 := Nat.mul_le_mul_left 2 small.le
    _ = 2 ^ 53 := (pow_succ' 2 52).symm
    _ ≤ 2 ^ (s + 1) := Nat.pow_le_pow_right two_pos least

/-- Rounding to the last place of a quotient does not change the integer that the quotient is
rounded to. -/
theorem nearestEven_units_mul {q : ℤ} (near : NearestEven (c / h) q) :
    NearestEven (units c h * 2 ^ lastPlace c h) q := by
  have rounded := nearestEven_units c h_pos
  obtain ⟨s, place⟩ : ∃ s : ℕ, lastPlace c h = -((s + 1 : ℕ) : ℤ) :=
    ⟨(-lastPlace c h - 1).toNat, by have := lastPlace_neg c_pos small h_pos; omega⟩
  rw [place, zpow_neg, zpow_natCast, div_inv_eq_mul] at rounded
  rw [place, zpow_neg, zpow_natCast, ← div_eq_mul_inv]
  rcases Nat.lt_or_ge h (2 ^ (s + 1)) with fine | coarse
  · exact rounded.div_of_scaled h_pos fine near
  · have double := two_mul_le_of_coarse c_pos small h_pos place coarse
    exact rounded.div_of_scaled_coarse h_pos coarse double near

/-- The quotient of the rates is the binary64 number nearest to it, and that number is rounded to
the integer nearest to the quotient. -/
theorem quotient_rounds {q : ℤ} (near : NearestEven (c / h) q) :
    ∃ mantissa exponent, Rate.quotient c h = .ok (.finite false mantissa exponent) ∧
      Rounds (c / h) mantissa exponent ∧ (rounded mantissa exponent : ℤ) = q := by
  have moderate : lastPlace c h ≤ 970 := by
    have := lastPlace_neg c_pos small h_pos
    omega
  obtain ⟨mantissa, exponent, ratio, value, rounds⟩ := ofRatio_rounds c_pos h_pos false moderate
  refine ⟨mantissa, exponent, ?_, rounds, ?_⟩
  · have divides : ((h : ℕ) : ℤ) ≠ 0 := by omega
    have signs : (decide ((c : ℤ) < 0) != decide ((h : ℤ) < 0)) = false := by
      rw [decide_eq_false (Int.natCast_nonneg c).not_gt,
        decide_eq_false (Int.natCast_nonneg h).not_gt]
      rfl
    rw [Rate.quotient, if_neg divides, ofQuotient, signs, Int.natAbs_natCast, Int.natAbs_natCast,
      ratio]
  · have direct := nearestEven_units_mul c_pos small h_pos near
    rw [← value] at direct
    exact (nearestEven_rounded mantissa exponent).unique direct

end Quotients

/-! ## The number of cycles -/

namespace Settings

/-- Positive rates with fewer than 2⁵² cycles in a second. -/
def Moderate (settings : Settings) : Prop :=
  1 ≤ settings.cyclesPerSecond ∧ settings.cyclesPerSecond < 2 ^ 52 ∧ 1 ≤ settings.timerHz

/-- The exact number of cycles between two ticks. -/
def exactRate (settings : Settings) : ℚ :=
  settings.cyclesPerSecond / settings.timerHz

theorem exists_nearestEven (settings : Settings) (moderate : settings.Moderate) :
    ∃ q : ℤ, NearestEven settings.exactRate q ∧
      settings.cyclesPerFrame = .ok (max 1 q).toNat ∧
      ∃ mantissa exponent,
        Rate.quotient settings.cyclesPerSecond settings.timerHz =
          .ok (.finite false mantissa exponent) ∧
        Binary64.Rounds settings.exactRate mantissa exponent := by
  obtain ⟨cycles, small, ticks⟩ := moderate
  unfold exactRate cyclesPerFrame
  generalize settings.cyclesPerSecond = c at *
  generalize settings.timerHz = h at *
  obtain ⟨c, rfl⟩ := Int.eq_ofNat_of_zero_le (by omega : 0 ≤ c)
  obtain ⟨h, rfl⟩ := Int.eq_ofNat_of_zero_le (by omega : 0 ≤ h)
  have c_pos : 0 < c := by omega
  have h_pos : 0 < h := by omega
  have near := nearestEven_roundHalfEven c h_pos
  obtain ⟨mantissa, exponent, ratio, rounds, same⟩ :=
    quotient_rounds c_pos (by exact_mod_cast small) h_pos near
  simp only [Int.cast_natCast]
  refine ⟨_, near, ?_, mantissa, exponent, ratio, rounds⟩
  rw [Rate.cyclesPerFrame, ratio, ← same]
  rfl

/-- More cycles in a second and fewer ticks make the exact rate greater. -/
theorem exactRate_le {slow fast : Settings} (moderate : fast.Moderate)
    (cycles : slow.cyclesPerSecond ≤ fast.cyclesPerSecond) (ticks : fast.timerHz ≤ slow.timerHz) :
    slow.exactRate ≤ fast.exactRate := by
  have divisor : (0 : ℚ) < fast.timerHz := by exact_mod_cast moderate.2.2
  have nonneg : (0 : ℚ) ≤ fast.cyclesPerSecond := by
    exact_mod_cast (by have := moderate.1; omega : (0 : ℤ) ≤ fast.cyclesPerSecond)
  unfold exactRate
  apply div_le_div₀ nonneg _ divisor
  · exact_mod_cast ticks
  · exact_mod_cast cycles

/-- The number of cycles in a frame is within a half of the exact rate, unless that is below a
half. -/
theorem two_mul_abs_le {settings : Settings} {q : ℤ} (moderate : settings.Moderate)
    (near : NearestEven settings.exactRate q)
    (frequent : settings.timerHz ≤ 2 * settings.cyclesPerSecond) :
    2 * |max 1 q * settings.timerHz - settings.cyclesPerSecond| ≤ settings.timerHz := by
  have divisor : (0 : ℚ) < settings.timerHz := by exact_mod_cast moderate.2.2
  have within : |settings.exactRate - (max 1 q : ℤ)| ≤ 1 / 2 := by
    rcases le_or_gt 1 q with positive | zero
    · rw [max_eq_right positive]
      exact near.abs_le_half
    · have above : 1 / 2 ≤ settings.exactRate := by
        rw [exactRate, div_le_div_iff₀ two_pos divisor, one_mul, mul_comm]
        exact_mod_cast frequent
      have below := (abs_le.mp near.abs_le_half).2
      have most : (q : ℚ) ≤ 0 := by exact_mod_cast Int.lt_add_one_iff.mp zero
      rw [max_eq_left zero.le, abs_le]
      constructor <;> push_cast <;> linarith
  have scaled := mul_le_mul_of_nonneg_right within divisor.le
  rw [exactRate, ← abs_sub_mul divisor] at scaled
  have double : 2 * |(settings.cyclesPerSecond : ℚ) - (max 1 q : ℤ) * settings.timerHz| ≤
      settings.timerHz := by linarith
  rw [abs_sub_comm]
  exact_mod_cast double

/-- The number of cycles in a frame is the exact rate, rounded once to the nearest integer with ties
to even, and at least one: rounding the rate to a binary64 number before changes nothing.  It grows
with the cycles in a second, falls with the ticks in a second, and misses the exact rate by at most
a half where that is at least a half. -/
theorem cycles_per_frame_exactly_rounded {settings : Settings} (moderate : settings.Moderate) :
    ∃ (n : ℕ) (q : ℤ), settings.cyclesPerFrame = .ok n ∧
      NearestEven settings.exactRate q ∧ (n : ℤ) = max 1 q ∧
      (∃ mantissa exponent,
        Rate.quotient settings.cyclesPerSecond settings.timerHz =
          .ok (.finite false mantissa exponent) ∧
        Binary64.Rounds settings.exactRate mantissa exponent) ∧
      (∀ other : Settings, other.Moderate → settings.cyclesPerSecond ≤ other.cyclesPerSecond →
        other.timerHz ≤ settings.timerHz → ∃ m, other.cyclesPerFrame = .ok m ∧ n ≤ m) ∧
      (settings.timerHz ≤ 2 * settings.cyclesPerSecond →
        2 * |(n : ℤ) * settings.timerHz - settings.cyclesPerSecond| ≤ settings.timerHz) := by
  obtain ⟨q, near, frame, quotient⟩ := settings.exists_nearestEven moderate
  have number : ((max 1 q).toNat : ℤ) = max 1 q := Int.toNat_of_nonneg (by omega)
  refine ⟨(max 1 q).toNat, q, frame, near, number, quotient, ?_, ?_⟩
  · intro other rates cycles ticks
    obtain ⟨p, nearer, otherFrame, -⟩ := other.exists_nearestEven rates
    have le : q ≤ p := near.mono (exactRate_le rates cycles ticks) nearer
    exact ⟨_, otherFrame, by omega⟩
  · intro frequent
    rw [number]
    exact two_mul_abs_le moderate near frequent

/-- The greatest odd number of cycles, over two ticks, lies in the middle between two integers. -/
theorem cycles_per_frame_exactly_rounded_tie :
    Moderate { cyclesPerSecond := 4503599627370495, timerHz := 2 } ∧
    ∃ (n : ℕ) (q : ℤ),
      cyclesPerFrame { cyclesPerSecond := 4503599627370495, timerHz := 2 } = .ok n ∧
      NearestEven (exactRate { cyclesPerSecond := 4503599627370495, timerHz := 2 }) q ∧
      (n : ℤ) = max 1 q ∧ 2 * |(n : ℤ) * 2 - 4503599627370495| ≤ 2 := by
  have moderate : Moderate { cyclesPerSecond := 4503599627370495, timerHz := 2 } := by
    unfold Moderate
    decide
  obtain ⟨n, q, frame, near, number, -, -, error⟩ := cycles_per_frame_exactly_rounded moderate
  exact ⟨moderate, n, q, frame, near, number, error (by decide)⟩

end Settings

end ChipEight
