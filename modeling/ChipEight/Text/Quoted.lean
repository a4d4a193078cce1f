import ChipEight.Number.Hexadecimal
import ChipEight.Text.Basic
import ChipEight.Text.Printable

/-!
# Quoted text in messages

Messages show a text between quotes: single quotes, unless the text holds a single quote and no
double quote.  Backslashes and the chosen quote are escaped, and code points that do not print are
written by their number.
-/

namespace ChipEight.Quoted

/-- The quote that goes around a text. -/
def mark (text : Text) : Char :=
  if text.contains '\'' && !text.contains '"' then '"' else '\''

/-- A number in lower-case hexadecimal, in at least `width` digits. -/
def code (width n : Nat) : List Char :=
  Hexadecimal.padLeft width (Nat.toDigits 16 n)

/-- How one character is written between quotes. -/
def escapeChar (quote c : Char) : List Char :=
  if c = quote ∨ c = '\\' then ['\\', c]
  else if c = '\t' then ['\\', 't']
  else if c = '\n' then ['\\', 'n']
  else if c = '\r' then ['\\', 'r']
  else if Printable.isPrintable c then [c]
  else if c.toNat < 0x100 then '\\' :: 'x' :: code 2 c.toNat
  else if c.toNat < 0x10000 then '\\' :: 'u' :: code 4 c.toNat
  else '\\' :: 'U' :: code 8 c.toNat

/-- How one code point is written between quotes. -/
def escape (quote : Char) : CodePoint → List Char
  | .char c => escapeChar quote c
  | half => '\\' :: 'u' :: code 4 half.toNat

/-- The text between quotes. -/
def ofText (text : Text) : String :=
  let quote := mark text
  String.ofList (quote :: text.points.flatMap (escape quote) ++ [quote])

end ChipEight.Quoted
