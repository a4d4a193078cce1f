import ChipEight.Settings.EntryValue

/-!
# Cycles in a frame

The number of instructions between two ticks of the timer is the quotient of the two rates, taken
as a binary64 number, rounded to an integer with ties to even, and at least one.
-/

namespace ChipEight.Rate

/-- At least one cycle. -/
def atLeastOne (n : Int) : Nat :=
  (max 1 n).toNat

/-- The integer nearest to a quotient, ties to even. -/
def ofBinary : Binary64 → Except RateError Nat
  | .nan => .error (.notIntegral .notANumber)
  | .infinite _ => .error (.notIntegral .infinite)
  | .finite negative mantissa exponent =>
      .ok (atLeastOne (Binary64.withSign negative (Binary64.rounded mantissa exponent)))

/-- The quotient of two integers as a binary64 number. -/
def quotient (num den : Int) : Except RateError Binary64 :=
  if den = 0 then .error .divisionByZero
  else
    match Binary64.ofQuotient num den with
    | .infinite _ => .error .quotientTooLarge
    | x => .ok x

/-- The cycles of a frame at integer rates. -/
def cyclesPerFrame (cyclesPerSecond timerHz : Int) : Except RateError Nat :=
  match quotient cyclesPerSecond timerHz with
  | .ok x => ofBinary x
  | .error failure => .error failure

/-- An integer as a binary64 number. -/
def toBinary (n : Int) : Except RateError Binary64 :=
  match Binary64.ofInt n with
  | .infinite _ => .error .integerTooLarge
  | x => .ok x

/-- The quotient of two binary64 numbers, the second of which is not zero. -/
def divide : Binary64 → Binary64 → Binary64
  | .nan, _ => .nan
  | _, .nan => .nan
  | .infinite _, .infinite _ => .nan
  | .infinite left, .finite right _ _ => .infinite (left != right)
  | .finite left _ _, .infinite right => Binary64.zero (left != right)
  | .finite left m e, .finite right n f =>
      let (num, den) := Binary64.scaled m n (e - f)
      Binary64.ofRatio (left != right) num den

/-- The cycles of a frame when a rate is a binary64 number. -/
def ofBinaryRates (cyclesPerSecond timerHz : Except RateError Binary64) :
    Except RateError Nat :=
  match cyclesPerSecond, timerHz with
  | .error failure, _ => .error failure
  | _, .error failure => .error failure
  | .ok num, .ok den =>
      if den.isZero then .error .floatDivisionByZero else ofBinary (divide num den)

/-- The cycles of a frame at rates given by any values. -/
def ofValues (cyclesPerSecond timerHz : EntryValue) : Except RateError Nat :=
  match cyclesPerSecond.numeric?, timerHz.numeric? with
  | some (.exact num), some (.exact den) => cyclesPerFrame num den
  | some (.exact num), some (.binary den) => ofBinaryRates (toBinary num) (.ok den)
  | some (.binary num), some (.exact den) => ofBinaryRates (.ok num) (toBinary den)
  | some (.binary num), some (.binary den) => ofBinaryRates (.ok num) (.ok den)
  | _, _ => .error (.notNumbers cyclesPerSecond.kindName timerHz.kindName)

end ChipEight.Rate

/-- The number of cycles that a runner executes for a frame. -/
def ChipEight.Settings.cyclesPerFrame (settings : ChipEight.Settings) :
    Except ChipEight.RateError Nat :=
  ChipEight.Rate.cyclesPerFrame settings.cyclesPerSecond settings.timerHz
