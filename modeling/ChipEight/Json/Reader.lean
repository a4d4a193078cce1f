import ChipEight.Json.Basic
import ChipEight.Number.Literal

/-!
# Reading JSON

The reader takes the standard grammar and, besides, the numbers `NaN`, `Infinity` and
`-Infinity`.  A number with a fraction or an exponent is a binary64 number, any other an integer,
and the digits of an integer may be limited in number.  When an object repeats a key, the last value
counts.

Every reading function returns the value with the characters that follow it, or the cause of the
failure with the number of characters from the failure to the end of the text.
-/

namespace ChipEight.Json

/-- Why a text is no JSON document. -/
inductive Cause where
  | byteOrderMark
  | noValue
  | noKey
  | noColon
  | noComma
  | unterminated
  | controlCharacter
  | badEscape
  | badUnit
  | extraData
deriving DecidableEq

/-- The two kinds of values that hold others. -/
inductive Container where
  | array
  | object
deriving DecidableEq

/-- A failure to read: an error in the grammar, with the number of characters that remain from its
place on, an integer with too many digits, or a value that lies too deep. -/
inductive ReadError where
  | grammar (cause : Cause) (remaining : Nat)
  | tooManyDigits (count : Nat)
  | tooDeep (container : Container)
deriving DecidableEq

/-- What was read, and the characters that follow. -/
abbrev Reading (α : Type) := Except ReadError (α × List Char)

/-- The text from the first character on that is no blank. -/
def skipBlank : List Char → List Char
  | c :: rest =>
      if c = ' ' ∨ c = '\t' ∨ c = '\n' ∨ c = '\r' then skipBlank rest else c :: rest
  | [] => []

/-- The text after a literal word, if it starts with that word. -/
def dropWord? : List Char → List Char → Option (List Char)
  | [], text => some text
  | c :: word, d :: text => if c = d then dropWord? word text else none
  | _ :: _, [] => none

/-! ## Strings -/

/-- The value of four hexadecimal digits. -/
def unit? (a b c d : Char) : Option Nat :=
  match Hexadecimal.value? a, Hexadecimal.value? b, Hexadecimal.value? c,
      Hexadecimal.value? d with
  | some a, some b, some c, some d => some (4096 * a + 256 * b + 16 * c + d)
  | _, _, _, _ => none

/-- The character of an escape of one letter. -/
def shortEscape? (c : Char) : Option Char :=
  if c = '"' then some '"'
  else if c = '\\' then some '\\'
  else if c = '/' then some '/'
  else if c = 'b' then some '\x08'
  else if c = 'f' then some '\x0c'
  else if c = 'n' then some '\n'
  else if c = 'r' then some '\r'
  else if c = 't' then some '\t'
  else none

/-- Put a code point in front of a string that has been read. -/
def consPoint (point : CodePoint) : Reading (List CodePoint) → Reading (List CodePoint)
  | .ok (points, rest) => .ok (point :: points, rest)
  | .error failure => .error failure

/-- The code points of a string after its opening quote.  `opening` is the number of characters
from that quote to the end of the text.  The text may not end with the digits of an escape. -/
def readPoints (opening : Nat) : List Char → Reading (List CodePoint)
  | [] => .error (.grammar .unterminated opening)
  | '"' :: rest => .ok ([], rest)
  | '\\' :: 'u' :: a :: b :: c :: d :: rest =>
      match unit? a b c d with
      | none => .error (.grammar .badUnit (rest.length + 5))
      | some unit =>
          if rest.isEmpty then .error (.grammar .badUnit 5)
          else consPoint (CodePoint.ofUnit unit) (readPoints opening rest)
  | '\\' :: 'u' :: rest => .error (.grammar .badUnit (rest.length + 1))
  | '\\' :: c :: rest =>
      match shortEscape? c with
      | some plain => consPoint (.char plain) (readPoints opening rest)
      | none => .error (.grammar .badEscape (rest.length + 2))
  | ['\\'] => .error (.grammar .unterminated opening)
  | c :: rest =>
      if c.toNat < 0x20 then .error (.grammar .controlCharacter (rest.length + 1))
      else consPoint (.char c) (readPoints opening rest)

/-- The rest of a string after its opening quote.  Two escapes that are halves of a surrogate pair
make one character. -/
def readString (opening : Nat) (text : List Char) : Reading Text :=
  match readPoints opening text with
  | .ok (points, rest) => .ok (⟨CodePoint.joinPairs points⟩, rest)
  | .error failure => .error failure

/-! ## Numbers -/

/-- Whether a character is an ASCII digit. -/
def isDigit (c : Char) : Bool :=
  decide ('0' ≤ c) && decide (c ≤ '9')

/-- The number with the given ASCII digits. -/
def ofDigits (digits : List Char) : Nat :=
  digits.foldl (fun n c => 10 * n + (c.toNat - '0'.toNat)) 0

/-- The fraction digits after a point, or none if no digit follows a point. -/
def readFraction : List Char → List Char × List Char
  | '.' :: c :: rest =>
      if isDigit c then (c :: rest.takeWhile isDigit, rest.dropWhile isDigit)
      else ([], '.' :: c :: rest)
  | text => ([], text)

/-- The exponent digits of a text, with their sign, if there are any. -/
def exponentDigits? (negative : Bool) (text : List Char) : Option (Int × List Char) :=
  match text.takeWhile isDigit with
  | [] => none
  | digits =>
      some (Binary64.withSign negative (ofDigits digits), text.dropWhile isDigit)

/-- The exponent after the letter `e`, if there is one. -/
def readExponent? : List Char → Option (Int × List Char)
  | c :: rest =>
      if c = 'e' ∨ c = 'E' then
        match rest with
        | '-' :: after => exponentDigits? true after
        | '+' :: after => exponentDigits? false after
        | _ => exponentDigits? false rest
      else none
  | [] => none

/-- An integer by its digits, of which there may not be more than a limit allows. -/
def readInteger (limit : Option Nat) (negative : Bool) (digits : List Char) :
    Except ReadError Json :=
  if limit.any (· < digits.length) then .error (.tooManyDigits digits.length)
  else .ok (.int (Binary64.withSign negative (ofDigits digits)))

/-- A number whose whole part has been split off. -/
def finishNumber (limit : Option Nat) (negative : Bool) (whole rest : List Char) :
    Reading Json :=
  let (fraction, afterFraction) := readFraction rest
  let scale : Int := -(fraction.length : Int)
  match readExponent? afterFraction with
  | some (exponent, after) =>
      .ok (.float (Binary64.ofDecimal negative (ofDigits (whole ++ fraction)) (exponent + scale)),
        after)
  | none =>
      if fraction.isEmpty then
        (readInteger limit negative whole).map fun number => (number, afterFraction)
      else
        .ok (.float (Binary64.ofDecimal negative (ofDigits (whole ++ fraction)) scale),
          afterFraction)

/-- What is said where no value starts. -/
def noValueAt (text : List Char) : ReadError :=
  .grammar .noValue text.length

/-- A number without its sign.  A whole part of several digits does not start with zero.  `whole`
is the text with the sign. -/
def readUnsigned (limit : Option Nat) (whole : List Char) (negative : Bool) :
    List Char → Reading Json
  | c :: rest =>
      if c = '0' then finishNumber limit negative ['0'] rest
      else if isDigit c then
        finishNumber limit negative (c :: rest.takeWhile isDigit) (rest.dropWhile isDigit)
      else .error (noValueAt whole)
  | [] => .error (noValueAt whole)

/-- A value that is a single word. -/
def readWord? : List Char → Option (Json × List Char)
  | 'n' :: text => (dropWord? "ull".toList text).map fun rest => (.null, rest)
  | 't' :: text => (dropWord? "rue".toList text).map fun rest => (.bool true, rest)
  | 'f' :: text => (dropWord? "alse".toList text).map fun rest => (.bool false, rest)
  | 'N' :: text => (dropWord? "aN".toList text).map fun rest => (.float .nan, rest)
  | 'I' :: text =>
      (dropWord? "nfinity".toList text).map fun rest => (.float (.infinite false), rest)
  | '-' :: text =>
      (dropWord? "Infinity".toList text).map fun rest => (.float (.infinite true), rest)
  | _ => none

/-- A value that is a single word or number. -/
def readScalar (limit : Option Nat) (text : List Char) : Reading Json :=
  match readWord? text with
  | some reading => .ok reading
  | none =>
      match text with
      | '-' :: digits => readUnsigned limit text true digits
      | _ => readUnsigned limit text false text

/-! ## Values -/

mutual

/-- A value at the start of the text, in which `levels` more containers may be opened within each
other. -/
def readValue (limit : Option Nat) : Nat → Nat → List Char → Reading Json
  | 0, _, text => .error (noValueAt text)
  | fuel + 1, levels, text =>
      match text with
      | '"' :: rest =>
          match readString text.length rest with
          | .ok (string, after) => .ok (.str string, after)
          | .error failure => .error failure
      | '[' :: rest =>
          match levels with
          | 0 => .error (.tooDeep .array)
          | inner + 1 =>
              match skipBlank rest with
              | ']' :: after => .ok (.arr [], after)
              | items =>
                  match readItems limit fuel inner items with
                  | .ok (items, after) => .ok (.arr items, after)
                  | .error failure => .error failure
      | '\x7b' :: rest =>
          match levels with
          | 0 => .error (.tooDeep .object)
          | inner + 1 =>
              match skipBlank rest with
              | '\x7d' :: after => .ok (.obj [], after)
              | fields =>
                  match readFields limit fuel inner [] fields with
                  | .ok (fields, after) => .ok (.obj fields, after)
                  | .error failure => .error failure
      | _ => readScalar limit text

/-- The items of an array up to its closing bracket. -/
def readItems (limit : Option Nat) : Nat → Nat → List Char → Reading (List Json)
  | 0, _, text => .error (noValueAt text)
  | fuel + 1, levels, text =>
      match readValue limit fuel levels text with
      | .error failure => .error failure
      | .ok (item, rest) =>
          match skipBlank rest with
          | ']' :: after => .ok ([item], after)
          | ',' :: more =>
              match readItems limit fuel levels (skipBlank more) with
              | .ok (items, after) => .ok (item :: items, after)
              | .error failure => .error failure
          | other => .error (.grammar .noComma other.length)

/-- The fields of an object up to its closing brace, put into the fields before them. -/
def readFields (limit : Option Nat) :
    Nat → Nat → List (Text × Json) → List Char → Reading (List (Text × Json))
  | 0, _, _, text => .error (.grammar .noKey text.length)
  | fuel + 1, levels, fields, text =>
      match text with
      | '"' :: keyText =>
          match readString text.length keyText with
          | .error failure => .error failure
          | .ok (key, afterKey) =>
              match skipBlank afterKey with
              | ':' :: valueText =>
                  match readValue limit fuel levels (skipBlank valueText) with
                  | .error failure => .error failure
                  | .ok (value, rest) =>
                      let fields := insertField key value fields
                      match skipBlank rest with
                      | '\x7d' :: after => .ok (fields, after)
                      | ',' :: more => readFields limit fuel levels fields (skipBlank more)
                      | other => .error (.grammar .noComma other.length)
              | other => .error (.grammar .noColon other.length)
      | _ => .error (.grammar .noKey text.length)

end

/-- Read a whole text in which at most `depth` arrays and objects may lie within each other.  Every
call of a reading function that does not consume a character is followed by one that does, so twice
the length of the text bounds the depth of the calls. -/
def readText (limit : Option Nat) (depth : Nat) (text : List Char) : Except ReadError Json :=
  match text with
  | '\ufeff' :: _ => .error (.grammar .byteOrderMark text.length)
  | _ =>
      match readValue limit (2 * text.length + 2) depth (skipBlank text) with
      | .error failure => .error failure
      | .ok (value, rest) =>
          match skipBlank rest with
          | [] => .ok value
          | other => .error (.grammar .extraData other.length)

/-- Read a document. -/
def read (depth : Nat) (document : String) : Except ReadError Json :=
  readText (some Literal.maxDigits) depth document.toList

/-! ## Messages -/

/-- What a cause says. -/
def Cause.text : Cause → String
  | .byteOrderMark => "Unexpected UTF-8 BOM (decode using utf-8-sig)"
  | .noValue => "Expecting value"
  | .noKey => "Expecting property name enclosed in double quotes"
  | .noColon => "Expecting ':' delimiter"
  | .noComma => "Expecting ',' delimiter"
  | .unterminated => "Unterminated string starting at"
  | .controlCharacter => "Invalid control character at"
  | .badEscape => "Invalid \\escape"
  | .badUnit => "Invalid \\uXXXX escape"
  | .extraData => "Extra data"

/-- A container as errors name it. -/
def Container.name : Container → String
  | .array => "array"
  | .object => "object"

/-- The message of a failure in a document.  An error in the grammar is given with line, column and
offset. -/
def ReadError.message (document : String) : ReadError → String
  | .grammar cause remaining =>
      let text := document.toList
      let before := text.take (text.length - remaining)
      let line := (before.filter (· == '\n')).length + 1
      let column := (before.reverse.takeWhile (· != '\n')).length + 1
      s!"{cause.text}: line {line} column {column} (char {before.length})"
  | .tooManyDigits count => Literal.limitMessage count
  | .tooDeep container =>
      "maximum recursion depth exceeded while decoding a JSON " ++
        s!"{container.name} from a unicode string"

end ChipEight.Json
