import ChipEight.Json.Display
import ChipEight.Json.Number
import ChipEight.Monitor.Refusal

/-!
# Operands

What a JSON value can be used for.  Integers and truth values are whole numbers; they have bits and
can be positions and counts.  Binary64 numbers can only be compared and added.  Lists, texts and
objects have parts and items.
-/

namespace ChipEight.Monitor

/-! ## Numbers -/

/-- The whole number that a value is. -/
def whole? : Json → Option Int
  | .int n => some n
  | .bool value => some value.toNat
  | _ => none

/-- The whole number that a value is, or a mismatch. -/
def wholeOr (cause : Mismatch) (value : Json) : Except Refusal Int :=
  match whole? value with
  | some n => .ok n
  | none => mismatched cause

/-- The integer that a value is, where nothing else can be used. -/
def integer (value : Json) : Except Refusal Int :=
  wholeOr (.notInteger value.kindName) value

/-- The number whose bits an operator takes. -/
def bits (operator : String) (value : Json) : Except Refusal Int :=
  wholeOr (.operands operator value.kindName "int") value

/-- A position in a container. -/
def position (container : String) (value : Json) : Except Refusal Int :=
  wholeOr (.position container value.kindName) value

/-- An end of a range. -/
def rangeEnd (value : Json) : Except Refusal Int :=
  wholeOr .rangeEnd value

/-- How often to repeat something. -/
def times (value : Json) : Except Refusal Nat :=
  (integer value).map Int.toNat

/-- Whether a value is less than a bound. -/
def below (value : Json) (bound : Int) : Except Refusal Bool :=
  match value.numeric? with
  | some number => .ok (number.below bound)
  | none => mismatched (.unordered "<" value.kindName "int")

/-- A number as a binary64 number. -/
def toBinary : Json.Numeric → Except Refusal Binary64
  | .exact n => (Rate.toBinary n).mapError .rate
  | .binary x => .ok x

/-- The sum of two numbers.  It is exact unless one of them is a binary64 number. -/
def sum : Json.Numeric → Json.Numeric → Except Refusal Json.Numeric
  | .exact m, .exact n => .ok (.exact (m + n))
  | left, right => do
      let x ← toBinary left
      let y ← toBinary right
      return .binary (x.add y)

/-- The kind of a number, as messages name it. -/
def numericKind : Json.Numeric → String
  | .exact n => (Json.int n).kindName
  | .binary x => (Json.float x).kindName

/-- Whether the sum of two values is greater than a limit. -/
def sumAbove (left right limit : Json) : Except Refusal Bool :=
  match left.numeric?, right.numeric? with
  | some x, some y => do
      let total ← sum x y
      match whole? limit with
      | some bound => return total.above bound
      | none => mismatched (.unordered ">" (numericKind total) limit.kindName)
  | _, _ => mismatched (.operands "+" left.kindName right.kindName)

/-! ## Parts and items -/

/-- The items of a value: those of a list, the characters of a text, the keys of an object. -/
def items? : Json → Option (List Json)
  | .arr list => some list
  | .str text => some (text.points.map fun point => .str ⟨[point]⟩)
  | .obj fields => some (fields.map fun field => .str field.1)
  | _ => none

/-- The items of a value, or a mismatch. -/
def itemsOr (cause : Mismatch) (value : Json) : Except Refusal (List Json) :=
  match items? value with
  | some list => .ok list
  | none => mismatched cause

/-- The items of a value, one after the other. -/
def items (value : Json) : Except Refusal (List Json) :=
  itemsOr (.noItems value.kindName) value

/-- The two items of a value. -/
def pair (value : Json) : Except Refusal (Json × Json) := do
  match ← itemsOr (.notUnpacked value.kindName) value with
  | [first, second] => return (first, second)
  | list => if list.length < 2 then unfit (.tooFewParts list.length) else unfit .tooManyParts

/-- The part of a value that a name picks. -/
def part (value : Json) (name : Text) : Except Refusal Json :=
  match value with
  | .obj fields =>
      match Json.field? fields name with
      | some found => .ok found
      | none => .error (.noEntry (Json.str name).shown)
  | .str _ => mismatched .textPosition
  | .arr _ => mismatched (.position value.kindName (Json.str name).kindName)
  | _ => mismatched (.noParts value.kindName)

/-- The part of an object that a name picks, if it has one. -/
def part? (value : Json) (name : Text) : Option Json :=
  (part value name).toOption

/-- Whether a value has a field.  Lists and texts hold items, but no fields. -/
def hasField (value : Json) (name : Text) : Except Refusal Bool :=
  match value with
  | .obj fields => .ok (Json.field? fields name).isSome
  | _ => (itemsOr (.noMembers value.kindName) value).map fun _ => false

/-- How a value is written as a key of a table.  Numbers that are equal are the same key. -/
def tableKey (value : Json) : Except Refusal String :=
  match value with
  | .arr _ => mismatched (.noTableKey value.kindName)
  | .obj _ => mismatched (.noTableKey value.kindName)
  | _ =>
      match value.numeric?, value.toInt with
      | some _, .ok n => .ok (if value.equalsInt n then (Json.int n).shown else value.shown)
      | _, _ => .ok value.shown

end ChipEight.Monitor
