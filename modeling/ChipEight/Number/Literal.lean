import ChipEight.Number.Hexadecimal
import ChipEight.Text.Basic

/-!
# Reading integers

An integer literal may stand between blanks, may have one sign, and may have single underscores
between its digits.  Digits of every script count, as do the blanks of every script.  In base
sixteen the digits may follow the mark `0x`, and an underscore may follow the mark.  In base ten
the number of digits is limited.
-/

namespace ChipEight.Literal

/-- Why a text is no integer literal: its form is wrong, or it has too many digits. -/
inductive Failure where
  | malformed
  | tooManyDigits (count : Nat)
deriving DecidableEq

/-- The greatest number of digits in base ten. -/
def maxDigits : Nat := 4300

/-- What is said of a number with too many digits. -/
def limitMessage (count : Nat) : String :=
  s!"Exceeds the limit ({maxDigits} digits) for integer string conversion: value has {count} " ++
    "digits; use sys.set_int_max_str_digits() to increase the limit"

/-! ## Characters -/

/-- Code points of the digit zero in the scripts beyond ASCII; nine more digits follow each. -/
def zeros : List Nat :=
  [
    0x660, 0x6f0, 0x7c0, 0x966, 0x9e6, 0xa66, 0xae6, 0xb66, 0xbe6, 0xc66, 0xce6, 0xd66, 0xde6,
    0xe50, 0xed0, 0xf20, 0x1040, 0x1090, 0x17e0, 0x1810, 0x1946, 0x19d0, 0x1a80, 0x1a90, 0x1b50,
    0x1bb0, 0x1c40, 0x1c50, 0xa620, 0xa8d0, 0xa900, 0xa9d0, 0xa9f0, 0xaa50, 0xabf0, 0xff10,
    0x104a0, 0x10d30, 0x11066, 0x110f0, 0x11136, 0x111d0, 0x112f0, 0x11450, 0x114d0, 0x11650,
    0x116c0, 0x11730, 0x118e0, 0x11950, 0x11c50, 0x11d50, 0x11da0, 0x16a60, 0x16ac0, 0x16b50,
    0x1d7ce, 0x1d7d8, 0x1d7e2, 0x1d7ec, 0x1d7f6, 0x1e140, 0x1e2f0, 0x1e950, 0x1fbf0
  ]

/-- The decimal value of a digit of any script. -/
def decimal? (c : Char) : Option Nat :=
  if '0' ≤ c ∧ c ≤ '9' then
    some (c.toNat - '0'.toNat)
  else
    (zeros.find? fun first => decide (first ≤ c.toNat) && decide (c.toNat < first + 10)).map
      fun first => c.toNat - first

/-- Blanks around a number: tab to carriage return, and the space. -/
def isBlank (c : Char) : Bool :=
  (decide (0x09 ≤ c.toNat) && decide (c.toNat ≤ 0x0d)) || c == ' '

/-- The spaces beyond ASCII. -/
def isWideBlank (c : Char) : Bool :=
  let code := c.toNat
  code == 0x85 || code == 0xa0 || code == 0x1680 ||
    (decide (0x2000 ≤ code) && decide (code ≤ 0x200a)) ||
    code == 0x2028 || code == 0x2029 || code == 0x202f || code == 0x205f || code == 0x3000

/-- A code point as a number is read: digits and spaces of every script in their ASCII form, and a
question mark for what cannot occur in a number. -/
def plain : CodePoint → Char
  | .char c =>
      if c.toNat < 0x7f then c
      else
        match decimal? c with
        | some d => Nat.digitChar d
        | none => if isWideBlank c then ' ' else '?'
  | _ => '?'

/-- Whether a character may stand among the digits of a number. -/
def isPart (base : Nat) (c : Char) : Bool :=
  c == '_' || (Hexadecimal.value? c).any fun d => decide (d < base)

/-! ## Numbers -/

/-- Whether a digit stands first and last, and no two underscores stand together. -/
def isSpaced : List Char → Bool
  | [] => false
  | ['_'] => false
  | [_] => true
  | '_' :: _ => false
  | _ :: '_' :: rest => isSpaced rest
  | _ :: rest => isSpaced rest

/-- The number with the given digits; underscores are passed over. -/
def value (base : Nat) (digits : List Char) : Nat :=
  digits.foldl (fun n c =>
    match Hexadecimal.value? c with
    | some d => base * n + d
    | none => n) 0

/-- A number without sign, and nothing but blanks after it.  The digits are looked at first, then
their number, and what follows them last. -/
def readDigits (base : Nat) (text : List Char) : Except Failure Nat :=
  let digits := text.takeWhile (isPart base)
  let count := (digits.filter (· != '_')).length
  if !isSpaced digits then .error .malformed
  else if base = 10 ∧ maxDigits < count then .error (.tooManyDigits count)
  else if (text.dropWhile (isPart base)).all isBlank then .ok (value base digits)
  else .error .malformed

/-- Leave out the mark of base sixteen, with the underscore that may follow it. -/
def dropMark (base : Nat) (text : List Char) : List Char :=
  match base, text with
  | 16, '0' :: 'x' :: '_' :: rest => rest
  | 16, '0' :: 'X' :: '_' :: rest => rest
  | 16, '0' :: 'x' :: rest => rest
  | 16, '0' :: 'X' :: rest => rest
  | _, _ => text

/-- A number with an optional sign. -/
def readSigned (base : Nat) : List Char → Except Failure Int
  | '-' :: rest => (readDigits base (dropMark base rest)).map fun n => -(n : Int)
  | '+' :: rest => (readDigits base (dropMark base rest)).map fun n => (n : Int)
  | text => (readDigits base (dropMark base text)).map fun n => (n : Int)

/-- Read an integer in base ten or sixteen. -/
def read (base : Nat) (text : Text) : Except Failure Int :=
  readSigned base ((text.points.map plain).dropWhile isBlank)

end ChipEight.Literal
