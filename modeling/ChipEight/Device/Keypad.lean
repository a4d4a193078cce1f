import ChipEight.Number.Hexadecimal

/-!
# Keypad

Keys, of which some are held.  The keypad remembers in which order the held keys went down.  Key
events may also be queued; they take effect, in order, when the queue is drained at the start of a
cycle.  A machine has sixteen keys; what a keypad does with them depends only on which of them are
equal.
-/

namespace ChipEight

/-- A key of the keypad, by its hexadecimal digit. -/
abbrev Key := Fin 16

/-- A key code that names no key. -/
structure KeyError where
  code : Int
deriving DecidableEq

/-- The error in words. -/
def KeyError.message (failure : KeyError) : String :=
  s!"key code must be in [0x0, 0xF], got {failure.code}"

/-- The key with a code. -/
def Key.ofCode (code : Int) : Except KeyError Key :=
  if 0 ≤ code ∧ code < 16 then .ok (Hexadecimal.lastDigit code.toNat) else .error ⟨code⟩

/-- A key goes down or up. -/
structure KeyEvent (K : Type) where
  key : K
  down : Bool
deriving DecidableEq

/-- The held keys, the one held longest first, and the queued events, the oldest first. -/
structure Keypad (K : Type) where
  held : List K
  queue : List (KeyEvent K)
deriving DecidableEq

namespace Keypad

variable {K : Type}

/-- No key is held and nothing is queued. -/
def empty : Keypad K :=
  { held := [], queue := [] }

/-- Whether an event would change which keys are held. -/
def changes [BEq K] (keypad : Keypad K) (event : KeyEvent K) : Bool :=
  keypad.held.contains event.key != event.down

/-- Let an event take effect.  A key that goes down is the most recent one; a key that is already
down keeps its place. -/
def apply [BEq K] (keypad : Keypad K) (event : KeyEvent K) : Keypad K :=
  if keypad.changes event then
    if event.down then { keypad with held := keypad.held ++ [event.key] }
    else { keypad with held := keypad.held.erase event.key }
  else keypad

/-- Queue an event. -/
def post (keypad : Keypad K) (event : KeyEvent K) : Keypad K :=
  { keypad with queue := keypad.queue ++ [event] }

/-- Let events take effect in order, and list those that changed which keys are held. -/
def applyAll [BEq K] (keypad : Keypad K) : List (KeyEvent K) → Keypad K × List (KeyEvent K)
  | [] => (keypad, [])
  | event :: rest =>
      let (after, changed) := (keypad.apply event).applyAll rest
      (after, if keypad.changes event then event :: changed else changed)

/-- Let the queued events take effect, and list those that changed which keys are held. -/
def drain [BEq K] (keypad : Keypad K) : Keypad K × List (KeyEvent K) :=
  ({ keypad with queue := [] } : Keypad K).applyAll keypad.queue

/-- Let go of every key.  Queued events stay queued. -/
def releaseAll (keypad : Keypad K) : Keypad K :=
  { keypad with held := [] }

/-- Whether the key with a code is held; a code that names no key is not. -/
def isDown (keypad : Keypad Key) (code : Int) : Bool :=
  keypad.held.any fun key => decide ((key.val : Int) = code)

/-- The held key that went down last. -/
def last? (keypad : Keypad K) : Option K :=
  keypad.held.getLast?

end Keypad

end ChipEight
