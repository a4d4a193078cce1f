import ChipEight.Device.Keypad
import ChipEight.Fault
import ChipEight.Files.Path

/-!
# Journal

What a machine and its surroundings note while they work.  A notice is kept as its cause; its
level, its source and its text follow from that.
-/

namespace ChipEight

/-- How much a notice matters. -/
inductive Level where
  | debug
  | info
  | warning
  | error
deriving DecidableEq

namespace Level

/-- The level as it is printed. -/
def name : Level → String
  | .debug => "DEBUG"
  | .info => "INFO"
  | .warning => "WARNING"
  | .error => "ERROR"

/-- Levels in ascending order. -/
def rank : Level → Nat
  | .debug => 0
  | .info => 1
  | .warning => 2
  | .error => 3

/-- The level with a name. -/
def ofName? (name : Text) : Option Level :=
  [Level.debug, .info, .warning, .error].find? fun level => level.name == name

end Level

/-- An entry of the journal. -/
inductive Notice where
  | romCopied (size : Nat)
  | romLoaded (size : Nat)
  | romOpened (path : Text)
  | romUnreadable (path : Text) (failure : FileError)
  | keyChanged (event : KeyEvent Key)
  | halted (pc : Nat)
  | faulted (fault : Fault)
  | faultRepeated (fault : Fault)
  | loopStarted
  | loopStopped
  | loopStuck (hundredths : Nat)
  | settingsInvalid (reason : Text)
  | romFailed (path : Text)
deriving DecidableEq

namespace Notice

/-- How much a notice matters. -/
def level : Notice → Level
  | .romCopied _ => .debug
  | .romLoaded _ => .info
  | .romOpened _ => .info
  | .romUnreadable _ _ => .error
  | .keyChanged _ => .debug
  | .halted _ => .error
  | .faulted _ => .warning
  | .faultRepeated _ => .debug
  | .loopStarted => .debug
  | .loopStopped => .debug
  | .loopStuck _ => .warning
  | .settingsInvalid _ => .error
  | .romFailed _ => .error

/-- The part of the program that a notice comes from. -/
def source : Notice → String
  | .romCopied _ => "chip8.memory"
  | .keyChanged _ => "chip8.keypad"
  | .loopStarted => "chip8.runner"
  | .loopStopped => "chip8.runner"
  | .loopStuck _ => "chip8.runner"
  | .settingsInvalid _ => "chip8.cli"
  | .romFailed _ => "chip8.cli"
  | _ => "chip8.emulator"

/-- A number of hundredths with two places. -/
def hundredthsText (n : Nat) : String :=
  s!"{n / 100}.{n / 10 % 10}{n % 10}"

/-- What a notice says. -/
def text : Notice → Text
  | .romCopied size => s!"Copied {size} ROM bytes to 0x200"
  | .romLoaded size => s!"Loaded {size}-byte ROM at 0x200"
  | .romOpened path => "Loading ROM from " ++ path
  | .romUnreadable path failure => "Cannot read ROM " ++ path ++ ": " ++ failure.message
  | .keyChanged event =>
      let direction := if event.down then "down" else "up"
      s!"key 0x{Hexadecimal.padded 0 event.key.val} {direction}"
  | .halted pc => s!"Machine halted at {Hexadecimal.address pc}"
  | .faulted fault => fault.text
  | .faultRepeated fault => s!"{fault.text} (repeated)"
  | .loopStarted => "runner thread started"
  | .loopStopped => "runner thread stopped"
  | .loopStuck hundredths =>
      s!"runner thread did not stop within {hundredthsText hundredths}s"
  | .settingsInvalid reason => "Invalid configuration: " ++ reason
  | .romFailed path => "Failed to load ROM " ++ path

/-- A notice on a line of its own. -/
def line (notice : Notice) : Text :=
  s!"{notice.source} {notice.level.name}: " ++ notice.text

end Notice

end ChipEight
