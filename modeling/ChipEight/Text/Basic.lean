/-!
# Text

A text is a list of code points.  Most of them are characters, but a text that comes from an
escape or from an argument may also hold one half of a surrogate pair, which is no character and
has no place in a `String`.
-/

namespace ChipEight

/-- A code point: a character, or the high or low half of a surrogate pair by its ten bits. -/
inductive CodePoint where
  | char (c : Char)
  | high (bits : Fin 1024)
  | low (bits : Fin 1024)
deriving DecidableEq

namespace CodePoint

/-- The number of a code point. -/
def toNat : CodePoint → Nat
  | .char c => c.toNat
  | .high bits => 0xd800 + bits.val
  | .low bits => 0xdc00 + bits.val

/-- Whether a code point is half of a surrogate pair. -/
def isHalf : CodePoint → Bool
  | .char _ => false
  | _ => true

/-- The ten bits of a half. -/
def halfBits (n : Nat) : Fin 1024 :=
  ⟨n % 1024, Nat.mod_lt n (Nat.succ_pos 1023)⟩

/-- The code point of a UTF-16 unit that stands alone. -/
def ofUnit (unit : Nat) : CodePoint :=
  if 0xd800 ≤ unit ∧ unit < 0xdc00 then .high (halfBits unit)
  else if 0xdc00 ≤ unit ∧ unit < 0xe000 then .low (halfBits unit)
  else .char (Char.ofNat unit)

/-- The character of a surrogate pair. -/
def ofPair (first second : Fin 1024) : CodePoint :=
  .char (Char.ofNat (0x10000 + 1024 * first.val + second.val))

/-- Put a code point in front of others; a high half before a low one makes a character. -/
def pairWith : CodePoint → List CodePoint → List CodePoint
  | .high first, .low second :: rest => ofPair first second :: rest
  | point, rest => point :: rest

/-- Join the halves of every surrogate pair. -/
def joinPairs : List CodePoint → List CodePoint
  | [] => []
  | point :: rest => pairWith point (joinPairs rest)

end CodePoint

/-- A text by its code points. -/
structure Text where
  points : List CodePoint
deriving DecidableEq

namespace Text

/-- The text with the given characters. -/
def ofChars (chars : List Char) : Text :=
  ⟨chars.map CodePoint.char⟩

/-- A string as a text. -/
def ofString (string : String) : Text :=
  ofChars string.toList

instance : Coe String Text := ⟨ofString⟩

instance : Inhabited Text := ⟨⟨[]⟩⟩

instance : Append Text := ⟨fun left right => ⟨left.points ++ right.points⟩⟩

/-- Whether a text has no code points. -/
def isEmpty (text : Text) : Bool :=
  text.points.isEmpty

/-- Whether a character occurs in a text. -/
def contains (text : Text) (c : Char) : Bool :=
  text.points.contains (.char c)

/-- The texts one after the other, with a separator between them. -/
def join (separator : Text) : List Text → Text
  | [] => ⟨[]⟩
  | [text] => text
  | text :: rest => text ++ separator ++ join separator rest

/-- A text for display, where half of a surrogate pair is replaced. -/
def display (text : Text) : String :=
  String.ofList (text.points.map fun point =>
    match point with
    | .char c => c
    | _ => Char.ofNat 0xfffd)

end Text

end ChipEight
