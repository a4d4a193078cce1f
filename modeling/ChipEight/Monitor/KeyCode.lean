import ChipEight.Device.Keypad
import ChipEight.Monitor.Operand

/-!
# Key codes under the monitor

A key code is a number from 0 up to, but not including, 16, and it is held as it was given.  Codes
that are equal as numbers name the same key, so that a truth value or a binary64 number may name a
key of the machine.  A number with a fraction names a key that the machine does not have.
-/

namespace ChipEight

/-- A key code as it was given. -/
structure KeyCode where
  value : Json

namespace KeyCode

/-- Whether two codes name the same key. -/
def same (left right : KeyCode) : Bool :=
  match left.value.numeric?, right.value.numeric? with
  | some x, some y => x.equals y
  | _, _ => false

instance : BEq KeyCode := ⟨same⟩

/-- The code that a value is. -/
def ofJson (value : Json) : Except Monitor.Refusal KeyCode :=
  match Monitor.whole? value, value.numeric? with
  | some code, _ => ((Key.ofCode code).map fun _ => ⟨value⟩).mapError .key
  | none, some number =>
      if number.atLeast 0 && number.below 16 then .ok ⟨value⟩
      else Monitor.unfit (.keyOutOfRange value.shown)
  | none, none => Monitor.mismatched (.unordered "<=" "int" value.kindName)

/-- The key of the machine that a code names. -/
def key? (code : KeyCode) : Option Key :=
  match code.value.toInt with
  | .ok n => if code.value.equalsInt n then (Key.ofCode n).toOption else none
  | .error _ => none

/-- Whether a code has bits and digits: it is given as a whole number. -/
def isWhole (code : KeyCode) : Bool :=
  (Monitor.whole? code.value).isSome

end KeyCode

/-- The event of the machine's key that an event is. -/
def KeyEvent.onMachine? (event : KeyEvent KeyCode) : Option (KeyEvent Key) :=
  event.key.key?.map fun key => ⟨key, event.down⟩

namespace Monitor

/-- An event of the key that a value names. -/
def keyEvent (value : Json) (down : Bool) : Except Refusal (KeyEvent KeyCode) :=
  (KeyCode.ofJson value).map fun code => ⟨code, down⟩

/-- Whether the key that a value names is held. -/
def isDown (keypad : Keypad KeyCode) (value : Json) : Except Refusal Bool := do
  let _ ← tableKey value
  return keypad.held.contains ⟨value⟩

end Monitor

end ChipEight
