/-!
# Hexadecimal text of integers

Addresses, opcodes and colours are written in upper-case hexadecimal, padded with zeros to a
least width.  The sign of a negative number counts as part of that width.
-/

namespace ChipEight.Hexadecimal

/-- The last hexadecimal digit of a natural number. -/
def lastDigit (n : Nat) : Fin 16 :=
  ⟨n % 16, Nat.mod_lt n (Nat.succ_pos 15)⟩

/-- The upper-case hexadecimal digits of a natural number, most significant first. -/
def digits (n : Nat) : List Char :=
  (Nat.toDigits 16 n).map Char.toUpper

/-- Put zeros in front of a digit string that is shorter than `width`. -/
def padLeft (width : Nat) (text : List Char) : List Char :=
  List.replicate (width - text.length) '0' ++ text

/-- An integer in at least `width` characters, a minus sign included. -/
def padded (width : Nat) (n : Int) : String :=
  if n < 0 then
    String.ofList ('-' :: padLeft (width - 1) (digits n.natAbs))
  else
    String.ofList (padLeft width (digits n.natAbs))

/-- An integer as an address: the mark `0x` and at least four characters. -/
def address (n : Int) : String :=
  "0x" ++ padded 4 n

/-- The lower-case hexadecimal digits of a byte string, two for each byte. -/
def dump (bytes : List UInt8) : String :=
  String.ofList (bytes.flatMap fun byte => padLeft 2 (Nat.toDigits 16 byte.toNat))

/-- The value of a hexadecimal digit of either case. -/
def value? (c : Char) : Option Nat :=
  if '0' ≤ c ∧ c ≤ '9' then some (c.toNat - '0'.toNat)
  else if 'a' ≤ c ∧ c ≤ 'f' then some (c.toNat - 'a'.toNat + 10)
  else if 'A' ≤ c ∧ c ≤ 'F' then some (c.toNat - 'A'.toNat + 10)
  else none

/-- Whether a character may stand between the pairs of digits of a byte string. -/
def isBlank (c : Char) : Bool :=
  c == ' ' || (decide ('\t' ≤ c) && decide (c ≤ '\r'))

/-- The bytes written as pairs of hexadecimal digits from a place on.  A failure is the place where
a digit is missing. -/
def undumpFrom (place : Nat) : List Char → Except Nat (List UInt8)
  | [] => .ok []
  | first :: rest =>
      if isBlank first then undumpFrom (place + 1) rest
      else
        match value? first with
        | none => .error place
        | some high =>
            match rest with
            | [] => .error (place + 1)
            | second :: others =>
                match value? second with
                | none => .error (place + 1)
                | some low =>
                    (undumpFrom (place + 2) others).map fun bytes =>
                      UInt8.ofNat (16 * high + low) :: bytes

/-- The bytes written as pairs of hexadecimal digits, with blanks between the pairs. -/
def undump (text : List Char) : Except Nat (List UInt8) :=
  undumpFrom 0 text

end ChipEight.Hexadecimal
