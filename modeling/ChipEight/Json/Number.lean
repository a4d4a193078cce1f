import ChipEight.Json.Basic
import ChipEight.Number.Literal
import ChipEight.Text.Quoted

/-!
# JSON values as numbers

Settings take numbers from integers, truth values, binary64 numbers and texts.  A binary64 number
loses its fraction.
-/

namespace ChipEight

/-- Why a value gives no integer. -/
inductive IntError where
  | infinite
  | notANumber
  | literal (base : Nat) (text : Text)
  | tooManyDigits (count : Nat)
  | notNumeric (kind : String)
deriving DecidableEq

/-- How much of a text that is no number an error shows. -/
def IntError.shownLimit : Nat := 200

/-- The error in words. -/
def IntError.message : IntError → String
  | .infinite => "cannot convert float infinity to integer"
  | .notANumber => "cannot convert float NaN to integer"
  | .literal base text =>
      let shown := String.ofList ((Quoted.ofText text).toList.take shownLimit)
      s!"invalid literal for int() with base {base}: {shown}"
  | .tooManyDigits count => Literal.limitMessage count
  | .notNumeric kind =>
      s!"int() argument must be a string, a bytes-like object or a real number, not '{kind}'"

/-- The integer of a literal, or why a text gives none. -/
def Text.toInt (base : Nat) (text : Text) : Except IntError Int :=
  match Literal.read base text with
  | .ok n => .ok n
  | .error .malformed => .error (.literal base text)
  | .error (.tooManyDigits count) => .error (.tooManyDigits count)

/-- The integer part of a binary64 number. -/
def Binary64.toInt : Binary64 → Except IntError Int
  | .nan => .error .notANumber
  | .infinite _ => .error .infinite
  | .finite negative mantissa exponent =>
      .ok (Binary64.withSign negative (Binary64.truncated mantissa exponent))

namespace Json

/-- The integer that a value stands for. -/
def toInt : Json → Except IntError Int
  | .int n => .ok n
  | .bool true => .ok 1
  | .bool false => .ok 0
  | .float x => x.toInt
  | .str text => text.toInt 10
  | .null => .error (.notNumeric (kindName .null))
  | .arr items => .error (.notNumeric (kindName (.arr items)))
  | .obj fields => .error (.notNumeric (kindName (.obj fields)))

/-- A value as a number for arithmetic: an exact integer or a binary64 number. -/
inductive Numeric where
  | exact (n : Int)
  | binary (x : Binary64)

/-- The number that a value is; truth values count as one and zero. -/
def numeric? : Json → Option Numeric
  | .int n => some (.exact n)
  | .bool true => some (.exact 1)
  | .bool false => some (.exact 0)
  | .float x => some (.binary x)
  | _ => none

end Json

/-- `bound` is at most the number.  Nothing is comparable with a NaN. -/
def Binary64.atLeast (x : Binary64) (bound : Int) : Bool :=
  match x with
  | .nan => false
  | .infinite negative => !negative
  | .finite negative mantissa exponent =>
      let (num, den) := Binary64.scaled mantissa 1 exponent
      decide (bound * den ≤ Binary64.withSign negative num)

/-- The number is at most `bound`.  Nothing is comparable with a NaN. -/
def Binary64.atMost (x : Binary64) (bound : Int) : Bool :=
  match x with
  | .nan => false
  | .infinite negative => negative
  | .finite negative mantissa exponent =>
      let (num, den) := Binary64.scaled mantissa 1 exponent
      decide (Binary64.withSign negative num ≤ bound * den)

/-- Whether two numbers are equal.  Zeros are equal whatever their signs, and a NaN equals
nothing. -/
def Binary64.equals : Binary64 → Binary64 → Bool
  | .infinite left, .infinite right => left == right
  | .finite left m e, .finite right n f =>
      let (num, den) := Binary64.scaled m 1 e
      let (num', den') := Binary64.scaled n 1 f
      decide (Binary64.withSign left num * den' = Binary64.withSign right num' * den)
  | _, _ => false

namespace Json.Numeric

/-- `bound` is at most the number. -/
def atLeast : Numeric → Int → Bool
  | .exact n, bound => decide (bound ≤ n)
  | .binary x, bound => x.atLeast bound

/-- The number is at most `bound`. -/
def atMost : Numeric → Int → Bool
  | .exact n, bound => decide (n ≤ bound)
  | .binary x, bound => x.atMost bound

/-- The number is less than `bound`. -/
def below : Numeric → Int → Bool
  | .exact n, bound => decide (n < bound)
  | .binary x, bound => x.atMost bound && !x.atLeast bound

/-- The number is greater than `bound`. -/
def above : Numeric → Int → Bool
  | .exact n, bound => decide (bound < n)
  | .binary x, bound => x.atLeast bound && !x.atMost bound

/-- Whether two numbers are equal.  A NaN equals nothing. -/
def equals : Numeric → Numeric → Bool
  | .exact m, .exact n => decide (m = n)
  | .binary x, .exact n => x.atLeast n && x.atMost n
  | .exact n, .binary x => x.atLeast n && x.atMost n
  | .binary x, .binary y => x.equals y

end Json.Numeric

/-- Whether a value is a number equal to an integer. -/
def Json.equalsInt (value : Json) (n : Int) : Bool :=
  match value.numeric? with
  | some number => number.atLeast n && number.atMost n
  | none => false

end ChipEight
