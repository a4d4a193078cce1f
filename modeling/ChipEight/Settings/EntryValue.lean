import ChipEight.Json.Number
import ChipEight.Settings.Basic

/-!
# Values of entries

What can be given for an entry of settings before anything is checked: a JSON value, or a list that
was assigned to the entry and is held as a tuple.
-/

namespace ChipEight

/-- A value given for an entry. -/
inductive EntryValue where
  | json (value : Json)
  | tuple (items : List Json)

namespace EntryValue

/-- The value that an assignment gives an entry. -/
def ofAssigned : Json → EntryValue
  | .arr items => .tuple items
  | value => .json value

/-- The kind of a value, as messages name it. -/
def kindName : EntryValue → String
  | .json value => value.kindName
  | .tuple _ => "tuple"

/-- The value in a document. -/
def toJson : EntryValue → Json
  | .json value => value
  | .tuple items => .arr items

/-- The number that a value is. -/
def numeric? : EntryValue → Option Json.Numeric
  | .json value => value.numeric?
  | .tuple _ => none

/-- The integer that a value stands for. -/
def toInt : EntryValue → Except IntError Int
  | .json value => value.toInt
  | .tuple items => .error (.notNumeric (kindName (.tuple items)))

/-- Whether a value is a number equal to an integer. -/
def equalsInt (value : EntryValue) (n : Int) : Bool :=
  match value with
  | .json value => value.equalsInt n
  | .tuple _ => false

/-- The parts that a value is taken apart into: the items of a list, the characters of a text, the
keys of an object. -/
def components : EntryValue → Except SettingsError (List Json)
  | .tuple items => .ok items
  | .json (.arr items) => .ok items
  | .json (.str text) => .ok (text.points.map fun point => .str ⟨[point]⟩)
  | .json (.obj fields) => .ok (fields.map fun field => .str field.1)
  | .json value => .error (.notIterable value.kindName)

end EntryValue

end ChipEight
