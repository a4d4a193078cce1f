import ChipEight.Json.Basic
import ChipEight.Text.Quoted

/-!
# JSON values in messages

Messages show a value in a form of their own: texts between quotes, the truth values and null by
their names, and the parts of a list or an object between brackets.
-/

namespace ChipEight.Json

/-- A binary64 number in a message. -/
def floatShown : Binary64 → String
  | .nan => "nan"
  | .infinite negative => if negative then "-inf" else "inf"
  | x => x.text

mutual

/-- A value in a message. -/
def shown : Json → String
  | .null => "None"
  | .bool true => "True"
  | .bool false => "False"
  | .int n => toString n
  | .float x => floatShown x
  | .str text => Quoted.ofText text
  | .arr items => "[" ++ String.intercalate ", " (shownItems items) ++ "]"
  | .obj fields => "\x7b" ++ String.intercalate ", " (shownFields fields) ++ "\x7d"

/-- The items of a list in a message. -/
def shownItems : List Json → List String
  | [] => []
  | item :: rest => shown item :: shownItems rest

/-- The fields of an object in a message. -/
def shownFields : List (Text × Json) → List String
  | [] => []
  | (key, value) :: rest => (Quoted.ofText key ++ ": " ++ shown value) :: shownFields rest

end

/-- Values between round brackets; a single one is followed by a comma. -/
def tupleShown : List Json → String
  | [single] => "(" ++ single.shown ++ ",)"
  | items => "(" ++ String.intercalate ", " (shownItems items) ++ ")"

/-- A value as a part of a sentence: a text without quotes. -/
def plainText : Json → Text
  | .str text => text
  | value => value.shown

end ChipEight.Json
