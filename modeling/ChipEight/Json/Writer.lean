import ChipEight.Json.Basic
import ChipEight.Number.Hexadecimal

/-!
# Writing JSON

Documents are written in ASCII: every other character is escaped, those beyond U+FFFF as a pair of
surrogates, half a pair as it stands.  A document for a file has one item to a line, indented by
two spaces a level.
-/

namespace ChipEight.Json

/-- The escape `\u` and the four hexadecimal digits of one UTF-16 unit. -/
def unitEscape (unit : Nat) : List Char :=
  '\\' :: 'u' :: Hexadecimal.padLeft 4 (Nat.toDigits 16 unit)

/-- How one character is written inside a string. -/
def escapeChar (c : Char) : List Char :=
  if c = '"' then ['\\', '"']
  else if c = '\\' then ['\\', '\\']
  else if c = '\n' then ['\\', 'n']
  else if c = '\r' then ['\\', 'r']
  else if c = '\t' then ['\\', 't']
  else if c = '\x08' then ['\\', 'b']
  else if c = '\x0c' then ['\\', 'f']
  else if 0x20 ≤ c.toNat ∧ c.toNat ≤ 0x7e then [c]
  else if c.toNat < 0x10000 then unitEscape c.toNat
  else
    unitEscape (0xd800 + (c.toNat - 0x10000) / 0x400) ++
      unitEscape (0xdc00 + (c.toNat - 0x10000) % 0x400)

/-- How one code point is written inside a string. -/
def escapePoint : CodePoint → List Char
  | .char c => escapeChar c
  | half => unitEscape half.toNat

/-- A string with its quotes. -/
def writeString (text : Text) : List Char :=
  '"' :: (text.points.flatMap escapePoint ++ ['"'])

/-- An integer in decimal. -/
def writeInt (n : Int) : List Char :=
  if n < 0 then '-' :: Nat.toDigits 10 n.natAbs else Nat.toDigits 10 n.natAbs

/-- A new line indented to a level. -/
def newLine (level : Nat) : List Char :=
  '\n' :: List.replicate (2 * level) ' '

mutual

/-- The characters of a value that stands at an indentation level. -/
def write (level : Nat) : Json → List Char
  | .null => "null".toList
  | .bool true => "true".toList
  | .bool false => "false".toList
  | .int n => writeInt n
  | .float x => x.text.toList
  | .str text => writeString text
  | .arr [] => "[]".toList
  | .arr (item :: rest) =>
      '[' :: (newLine (level + 1) ++ write (level + 1) item ++ writeItems (level + 1) rest ++
        newLine level ++ [']'])
  | .obj [] => "\x7b\x7d".toList
  | .obj ((key, value) :: rest) =>
      '\x7b' :: (newLine (level + 1) ++ writeString key ++ [':', ' '] ++
        write (level + 1) value ++ writeFields (level + 1) rest ++ newLine level ++ ['\x7d'])

/-- The items of an array after the first. -/
def writeItems (level : Nat) : List Json → List Char
  | [] => []
  | item :: rest => ',' :: (newLine level ++ write level item ++ writeItems level rest)

/-- The fields of an object after the first. -/
def writeFields (level : Nat) : List (Text × Json) → List Char
  | [] => []
  | (key, value) :: rest =>
      ',' :: (newLine level ++ writeString key ++ [':', ' '] ++ write level value ++
        writeFields level rest)

end

/-- A document for a file. -/
def document (value : Json) : String :=
  String.ofList (write 0 value)

end ChipEight.Json
