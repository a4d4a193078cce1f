import ChipEight.Number.Binary64
import ChipEight.Text.Basic

/-!
# JSON values

Integers and binary64 numbers are told apart, and an object keeps its fields in the order of their
first appearance.
-/

namespace ChipEight

/-- A JSON value. -/
inductive Json where
  | null
  | bool (value : Bool)
  | int (value : Int)
  | float (value : Binary64)
  | str (value : Text)
  | arr (items : List Json)
  | obj (fields : List (Text × Json))
deriving Inhabited

namespace Json

/-- Put a field into an object.  A later value replaces an earlier one at its old place. -/
def insertField (key : Text) (value : Json) : List (Text × Json) → List (Text × Json)
  | [] => [(key, value)]
  | (name, old) :: rest =>
      if name = key then (name, value) :: rest else (name, old) :: insertField key value rest

/-- The value of a field. -/
def field? (fields : List (Text × Json)) (key : Text) : Option Json :=
  (fields.find? fun entry => entry.1 == key).map Prod.snd

/-- The kind of a value, as messages name it. -/
def kindName : Json → String
  | .null => "NoneType"
  | .bool _ => "bool"
  | .int _ => "int"
  | .float _ => "float"
  | .str _ => "str"
  | .arr _ => "list"
  | .obj _ => "dict"

/-- Whether a value counts as true: everything but null, false, the zeros and what is empty. -/
def truthy : Json → Bool
  | .null => false
  | .bool value => value
  | .int value => value != 0
  | .float value => !value.isZero
  | .str value => !value.isEmpty
  | .arr items => !items.isEmpty
  | .obj fields => !fields.isEmpty

end Json

end ChipEight
