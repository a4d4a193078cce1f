/-!
# Binary64 numbers

A binary64 number is held as its sign, its mantissa and its exponent, so that rounding, truncation
and printing are exact arithmetic on natural numbers.  The one rounding rule is
`roundHalfEven`: to the nearest integer, and of two equally near ones to the even one.
-/

namespace ChipEight

/-- The integer nearest to `num / den`; of two equally near integers, the even one. -/
def roundHalfEven (num den : Nat) : Nat :=
  let quotient := num / den
  let rest := num % den
  if 2 * rest < den then quotient
  else if den < 2 * rest then quotient + 1
  else if quotient % 2 = 0 then quotient
  else quotient + 1

/-- A binary64 number.  The finite number with mantissa `m` and exponent `e` is `m * 2 ^ e`, up to
its sign. -/
inductive Binary64 where
  | nan
  | infinite (negative : Bool)
  | finite (negative : Bool) (mantissa : Nat) (exponent : Int)
deriving DecidableEq

namespace Binary64

/-- Zero with a sign. -/
def zero (negative : Bool) : Binary64 :=
  .finite negative 0 (-1074)

/-- `num * 2 ^ scale / den` as a pair of natural numbers. -/
def scaled (num den : Nat) (scale : Int) : Nat × Nat :=
  if 0 ≤ scale then (num * Nat.pow 2 scale.toNat, den) else (num, den * Nat.pow 2 (-scale).toNat)

/-- The exponent of the greatest power of two that is at most `num / den`. -/
def floorLog2 (num den : Nat) : Int :=
  let guess : Int := (num.log2 : Int) - den.log2
  let (n, d) := scaled num den (-guess)
  if d ≤ n then guess else guess - 1

/-- The exponent of the last mantissa bit of the binary64 numbers around `num / den`. -/
def lastPlace (num den : Nat) : Int :=
  max (floorLog2 num den - 52) (-1074)

/-- The binary64 number nearest to `num / den`, ties to the even mantissa.  From the midpoint
between the greatest finite number and its successor on, the result is infinite. -/
def ofRatio (negative : Bool) (num den : Nat) : Binary64 :=
  if num = 0 then
    zero negative
  else
    let place := lastPlace num den
    let (n, d) := scaled num den (-place)
    let mantissa := roundHalfEven n d
    let (mantissa, place) :=
      if mantissa = Nat.pow 2 53 then (Nat.pow 2 52, place + 1) else (mantissa, place)
    if 971 < place then .infinite negative else .finite negative mantissa place

/-- The binary64 number nearest to `digits * 10 ^ exponent`. -/
def ofDecimal (negative : Bool) (digits : Nat) (exponent : Int) : Binary64 :=
  let size : Int := (Nat.toDigits 10 digits).length + exponent
  if digits = 0 then zero negative
  else if 310 < size then .infinite negative
  else if size < -400 then zero negative
  else if 0 ≤ exponent then ofRatio negative (digits * Nat.pow 10 exponent.toNat) 1
  else ofRatio negative digits (Nat.pow 10 (-exponent).toNat)

/-- The binary64 number nearest to an integer. -/
def ofInt (n : Int) : Binary64 :=
  ofRatio (decide (n < 0)) n.natAbs 1

/-- The binary64 number nearest to the quotient of two integers; the divisor is not zero. -/
def ofQuotient (num den : Int) : Binary64 :=
  ofRatio (decide (num < 0) != decide (den < 0)) num.natAbs den.natAbs

/-- Give a magnitude its sign. -/
def withSign (negative : Bool) (n : Nat) : Int :=
  if negative then -(n : Int) else n

/-- The binary64 number nearest to the sum of two.  A sum of zero is negative only if both are. -/
def add : Binary64 → Binary64 → Binary64
  | .nan, _ => .nan
  | _, .nan => .nan
  | .infinite left, .infinite right => if left = right then .infinite left else .nan
  | .infinite left, _ => .infinite left
  | _, .infinite right => .infinite right
  | .finite left m e, .finite right n f =>
      let place := min e f
      let sum :=
        withSign left (m * Nat.pow 2 (e - place).toNat) +
          withSign right (n * Nat.pow 2 (f - place).toNat)
      let (num, den) := scaled sum.natAbs 1 place
      ofRatio (if sum = 0 then left && right else decide (sum < 0)) num den

/-- Whether the number is zero. -/
def isZero : Binary64 → Bool
  | .finite _ 0 _ => true
  | _ => false

/-- The integer part of `mantissa * 2 ^ exponent`. -/
def truncated (mantissa : Nat) (exponent : Int) : Nat :=
  let (n, d) := scaled mantissa 1 exponent
  n / d

/-- The integer nearest to `mantissa * 2 ^ exponent`, ties to even. -/
def rounded (mantissa : Nat) (exponent : Int) : Nat :=
  let (n, d) := scaled mantissa 1 exponent
  roundHalfEven n d

/-- The interchange format: sign, eleven exponent bits, fifty-two mantissa bits. -/
def toBits : Binary64 → UInt64
  | .nan => 0x7ff8000000000000
  | .infinite negative => if negative then 0xfff0000000000000 else 0x7ff0000000000000
  | .finite negative mantissa exponent =>
      let sign : Nat := if negative then Nat.pow 2 63 else 0
      if mantissa < Nat.pow 2 52 then
        UInt64.ofNat (sign + mantissa)
      else
        UInt64.ofNat (sign + (exponent + 1075).toNat * Nat.pow 2 52 + (mantissa - Nat.pow 2 52))

/-- The same number in the processor's format. -/
def toFloat (x : Binary64) : Float :=
  Float.ofBits x.toBits

/-! ## Shortest decimal text -/

/-- The exponent of the greatest power of ten that is at most `num / den`, searched from an upper
bound downwards. -/
def floorLog10From (num den : Nat) : Nat → Int → Int
  | 0, guess => guess
  | fuel + 1, guess =>
      let fits :=
        if 0 ≤ guess then decide (den * Nat.pow 10 guess.toNat ≤ num)
        else decide (den ≤ num * Nat.pow 10 (-guess).toNat)
      if fits then guess else floorLog10From num den fuel (guess - 1)

/-- The two decimals with unit `10 ^ place` around `num / den`: first the nearer one, which is the
even one of two equally near ones. -/
def gridNeighbours (num den : Nat) (place : Int) : Nat × Nat :=
  let (n, d) :=
    if 0 ≤ place then (num, den * Nat.pow 10 place.toNat)
    else (num * Nat.pow 10 (-place).toNat, den)
  let near := roundHalfEven n d
  (near, if near = n / d then near + 1 else n / d)

/-- The fewest digits that read back as the positive number `mantissa * 2 ^ exponent`, with the
place of the last one; of two candidates with equally many digits the nearer one. -/
def shortestFrom (mantissa : Nat) (exponent : Int) (num den : Nat) : Nat → Int → Nat × Int
  | 0, place => ((gridNeighbours num den place).1, place)
  | fuel + 1, place =>
      let (near, far) := gridNeighbours num den place
      let reads (digits : Nat) : Bool :=
        ofDecimal false digits place == .finite false mantissa exponent
      if reads near then (near, place)
      else if reads far then (far, place)
      else shortestFrom mantissa exponent num den fuel (place - 1)

/-- Digits and place of the shortest decimal that reads back as `mantissa * 2 ^ exponent`. -/
def shortest (mantissa : Nat) (exponent : Int) : Nat × Int :=
  let (num, den) := scaled mantissa 1 exponent
  shortestFrom mantissa exponent num den 17 (floorLog10From num den 700 309)

/-- Leave out the zeros at the end of a digit string. -/
def dropZeros (digits : List Char) : List Char :=
  (digits.reverse.dropWhile (· == '0')).reverse

/-- The decimal exponent mark: a sign and at least two digits. -/
def exponentText (n : Int) : String :=
  let digits := Nat.toDigits 10 n.natAbs
  (if n < 0 then "e-" else "e+") ++
    String.ofList (List.replicate (2 - digits.length) '0' ++ digits)

/-- The shortest text of a positive number: positional from `0.0001` up to sixteen digits before
the point, with an exponent otherwise. -/
def positiveText (mantissa : Nat) (exponent : Int) : String :=
  let (value, place) := shortest mantissa exponent
  let all := Nat.toDigits 10 value
  let point : Int := all.length + place
  let digits := dropZeros all
  if -4 < point ∧ point ≤ 16 then
    if point ≤ 0 then
      "0." ++ String.ofList (List.replicate (-point).toNat '0' ++ digits)
    else
      let whole := digits.take point.toNat
      let part := digits.drop point.toNat
      String.ofList (whole ++ List.replicate (point.toNat - whole.length) '0') ++ "." ++
        (if part.isEmpty then "0" else String.ofList part)
  else
    let mark := exponentText (point - 1)
    match digits with
    | [] => "0.0"
    | [first] => String.ofList [first] ++ mark
    | first :: rest => String.ofList [first] ++ "." ++ String.ofList rest ++ mark

/-- The text of a number in a JSON document. -/
def text : Binary64 → String
  | .nan => "NaN"
  | .infinite negative => if negative then "-Infinity" else "Infinity"
  | .finite negative mantissa exponent =>
      (if negative then "-" else "") ++
        (if mantissa = 0 then "0.0" else positiveText mantissa exponent)

end Binary64

end ChipEight
