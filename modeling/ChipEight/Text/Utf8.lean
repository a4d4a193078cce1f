import ChipEight.Number.Hexadecimal
import ChipEight.Text.Basic

/-!
# UTF-8

Text files are read as UTF-8.  Overlong forms, surrogates and code points beyond U+10FFFF are
refused; the failure names the first bytes that cannot be decoded.  Text files are written as UTF-8,
too, and so are the names of files, where some halves of surrogate pairs stand for single bytes.
-/

namespace ChipEight.Utf8

/-- What is wrong with a byte sequence. -/
inductive Cause where
  | badStart
  | badContinuation
  | unexpectedEnd
deriving DecidableEq

/-- The first bytes that cannot be decoded: where they start and how many they are. -/
structure Failure where
  cause : Cause
  first : UInt8
  position : Nat
  length : Nat
deriving DecidableEq

/-- The cause in words. -/
def Cause.text : Cause → String
  | .badStart => "invalid start byte"
  | .badContinuation => "invalid continuation byte"
  | .unexpectedEnd => "unexpected end of data"

/-- The failure in words. -/
def Failure.message (failure : Failure) : String :=
  let start := failure.position
  let stop := failure.position + failure.length - 1
  let place :=
    if failure.length = 1 then
      s!"byte 0x{Hexadecimal.dump [failure.first]} in position {start}"
    else s!"bytes in position {start}-{stop}"
  s!"'utf-8' codec can't decode {place}: {failure.cause.text}"

/-- Whether a byte continues a sequence. -/
def isTail (byte : UInt8) : Bool :=
  decide (0x80 ≤ byte) && decide (byte < 0xC0)

/-- Whether a byte may come second: some first bytes leave out a part of the range. -/
def isSecond (first second : UInt8) : Bool :=
  isTail second &&
    !(first == 0xE0 && decide (second < 0xA0)) && !(first == 0xED && decide (0x9F < second)) &&
    !(first == 0xF0 && decide (second < 0x90)) && !(first == 0xF4 && decide (0x8F < second))

/-- The character of a first byte, of which `bits` counts, and its tail. -/
def assemble (first : UInt8) (bits : Nat) (tail : List UInt8) : Char :=
  Char.ofNat (tail.foldl (fun n byte => 64 * n + byte.toNat % 64) (first.toNat % Nat.pow 2 bits))

/-- Put a character in front of what has been decoded. -/
def cons (c : Char) : Except Failure (List Char) → Except Failure (List Char)
  | .ok rest => .ok (c :: rest)
  | .error failure => .error failure

/-- Decode the bytes from a position on. -/
def decodeFrom (position : Nat) : List UInt8 → Except Failure (List Char)
  | [] => .ok []
  | first :: afterFirst =>
      if first < 0x80 then
        cons (Char.ofNat first.toNat) (decodeFrom (position + 1) afterFirst)
      else if first < 0xC2 ∨ 0xF4 < first then .error ⟨.badStart, first, position, 1⟩
      else
        match afterFirst with
        | [] => .error ⟨.unexpectedEnd, first, position, 1⟩
        | second :: afterSecond =>
            if !isSecond first second then .error ⟨.badContinuation, first, position, 1⟩
            else if first < 0xE0 then
              cons (assemble first 5 [second]) (decodeFrom (position + 2) afterSecond)
            else
              match afterSecond with
              | [] => .error ⟨.unexpectedEnd, first, position, 2⟩
              | third :: afterThird =>
                  if !isTail third then .error ⟨.badContinuation, first, position, 2⟩
                  else if first < 0xF0 then
                    cons (assemble first 4 [second, third])
                      (decodeFrom (position + 3) afterThird)
                  else
                    match afterThird with
                    | [] => .error ⟨.unexpectedEnd, first, position, 3⟩
                    | fourth :: afterFourth =>
                        if !isTail fourth then .error ⟨.badContinuation, first, position, 3⟩
                        else
                          cons (assemble first 3 [second, third, fourth])
                            (decodeFrom (position + 4) afterFourth)

/-- Decode a whole file. -/
def decode (bytes : List UInt8) : Except Failure (List Char) :=
  decodeFrom 0 bytes

/-- Line ends of any form as a single new-line character. -/
def plainLines : List Char → List Char
  | '\r' :: '\n' :: rest => '\n' :: plainLines rest
  | '\r' :: rest => '\n' :: plainLines rest
  | c :: rest => c :: plainLines rest
  | [] => []

/-! ## Encoding -/

/-- Halves of surrogate pairs that cannot be encoded: the first of them, where it stands, and how
many halves stand there together. -/
structure Unencodable where
  first : CodePoint
  position : Nat
  length : Nat
deriving DecidableEq

/-- The failure in words. -/
def Unencodable.message (failure : Unencodable) : String :=
  let start := failure.position
  let stop := failure.position + failure.length - 1
  let digits := String.ofList (Nat.toDigits 16 failure.first.toNat)
  let place :=
    if failure.length = 1 then s!"character '\\u{digits}' in position {start}"
    else s!"characters in position {start}-{stop}"
  s!"'utf-8' codec can't encode {place}: surrogates not allowed"

/-- The bytes of a character. -/
def encodeChar (c : Char) : List UInt8 :=
  (String.ofList [c]).toUTF8.toList

/-- The byte that a code point alone stands for: the low halves U+DC80 to U+DCFF stand for the bytes
that are no text. -/
def soleByte? : CodePoint → Option UInt8
  | .low bits =>
      if 0x80 ≤ bits.val ∧ bits.val ≤ 0xff then some (UInt8.ofNat bits.val) else none
  | _ => none

/-- Encode the code points from a position on.  Some halves may stand for single bytes. -/
def encodeFrom (single? : CodePoint → Option UInt8) (position : Nat) :
    List CodePoint → Except Unencodable (List UInt8)
  | [] => .ok []
  | .char c :: rest =>
      (encodeFrom single? (position + 1) rest).map fun bytes => encodeChar c ++ bytes
  | half :: rest =>
      match single? half with
      | some byte => (encodeFrom single? (position + 1) rest).map fun bytes => byte :: bytes
      | none =>
          .error ⟨half, position, (rest.takeWhile CodePoint.isHalf).length + 1⟩

/-- Encode the name of a file. -/
def encodeName (text : Text) : Except Unencodable (List UInt8) :=
  encodeFrom soleByte? 0 text.points

/-- Encode the contents of a text file, where no half stands for a byte. -/
def encode (text : Text) : Except Unencodable (List UInt8) :=
  encodeFrom (fun _ => none) 0 text.points

end ChipEight.Utf8
