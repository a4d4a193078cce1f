import ChipEight.Json.Format
import ChipEight.Json.Number

/-!
# Settings

What can be set about a machine and its runner.  Settings are checked when they are made: the rates
are positive, the zoom is at least one and the colours have three components of a byte each.
-/

namespace ChipEight

/-- What a fault does to the program counter. -/
inductive FaultPolicy where
  | freeze
  | skip
  | halt
deriving DecidableEq

/-- The name of a policy in a settings document. -/
def FaultPolicy.name : FaultPolicy → String
  | .freeze => "freeze"
  | .skip => "skip"
  | .halt => "halt"

/-- The policy with a name. -/
def FaultPolicy.ofName? (name : Text) : Option FaultPolicy :=
  [FaultPolicy.freeze, .skip, .halt].find? fun policy => policy.name == name

/-- The entry for the policy.  Of a value that is no text only the kind is kept; the machine then
freezes on faults. -/
inductive PolicyEntry where
  | known (policy : FaultPolicy)
  | other (kind : String)
deriving DecidableEq

/-- A colour by its components; checked settings have components from 0 to 255. -/
structure Color where
  red : Int
  green : Int
  blue : Int
deriving DecidableEq

/-- The components in order. -/
def Color.components (color : Color) : List Int :=
  [color.red, color.green, color.blue]

/-- Settings of a machine and its runner. -/
structure Settings where
  name : Json := .str "CHIP-8"
  cyclesPerSecond : Int := 700
  timerHz : Int := 60
  policy : PolicyEntry := .known .freeze
  shiftUsesVy : Bool := false
  zoom : Int := 15
  onColor : Color := ⟨0, 0x64, 0⟩
  offColor : Color := ⟨0, 0, 0⟩

/-- The entries that settings are made of. -/
inductive Settings.Entry where
  | name
  | cyclesPerSecond
  | timerHz
  | faultPolicy
  | shiftUsesVy
  | zoom
  | onColor
  | offColor
deriving DecidableEq

namespace Settings.Entry

/-- All entries in the order in which they are written. -/
def all : List Entry :=
  [.name, .cyclesPerSecond, .timerHz, .faultPolicy, .shiftUsesVy, .zoom, .onColor, .offColor]

/-- The key of an entry in a document. -/
def key : Entry → Text
  | .name => "name"
  | .cyclesPerSecond => "cycles_per_second"
  | .timerHz => "timer_hz"
  | .faultPolicy => "fault_policy"
  | .shiftUsesVy => "shift_uses_vy"
  | .zoom => "zoom"
  | .onColor => "on_color"
  | .offColor => "off_color"

/-- The entry with a key. -/
def ofKey? (key : Text) : Option Entry :=
  all.find? fun entry => entry.key == key

end Settings.Entry

/-- Why there is no number of cycles for a frame. -/
inductive RateError where
  | divisionByZero
  | floatDivisionByZero
  | quotientTooLarge
  | integerTooLarge
  | notIntegral (failure : IntError)
  | notNumbers (left right : String)
deriving DecidableEq

/-- The error in words. -/
def RateError.message : RateError → String
  | .divisionByZero => "division by zero"
  | .floatDivisionByZero => "float division by zero"
  | .quotientTooLarge => "integer division result too large for a float"
  | .integerTooLarge => "int too large to convert to float"
  | .notIntegral failure => failure.message
  | .notNumbers left right => s!"unsupported operand type(s) for /: '{left}' and '{right}'"

/-- Why settings are refused. -/
inductive SettingsError where
  | notObject (kind : String)
  | number (failure : IntError)
  | unknownPolicy (shown : String)
  | tooFewComponents (count : Nat)
  | tooManyComponents
  | notComponents (kind : String)
  | notIterable (kind : String)
  | unknownName (name : Text)
  | reservedName
  | derivedEntry
  | notComparable (operator kind : String)
  | componentNotComparable (kind : String)
  | cyclesNotPositive
  | timerNotPositive
  | zoomTooSmall
  | invalidColor (components : String)
  | policyWithoutName (kind : String)
  | missingComponent (place : Nat)
  | componentFormat (failure : Json.FormatError)
deriving DecidableEq

namespace SettingsError

/-- The error in words. -/
def message : SettingsError → Text
  | .notObject kind => s!"'{kind}' object has no attribute 'get'"
  | .number failure => failure.message
  | .unknownPolicy shown => s!"{shown} is not a valid FaultPolicy"
  | .tooFewComponents count => s!"not enough values to unpack (expected 3, got {count})"
  | .tooManyComponents => "too many values to unpack (expected 3)"
  | .notComponents kind => s!"cannot unpack non-iterable {kind} object"
  | .notIterable kind => s!"'{kind}' object is not iterable"
  | .unknownName name =>
      "MachineConfig.__init__() got an unexpected keyword argument '" ++ name ++ "'"
  | .reservedName => "MachineConfig.__init__() got multiple values for argument 'self'"
  | .derivedEntry => "property 'cycles_per_frame' of 'MachineConfig' object has no setter"
  | .notComparable operator kind =>
      s!"'{operator}' not supported between instances of '{kind}' and 'int'"
  | .componentNotComparable kind =>
      s!"'<=' not supported between instances of 'int' and '{kind}'"
  | .cyclesNotPositive => "cycles_per_second must be positive"
  | .timerNotPositive => "timer_hz must be positive"
  | .zoomTooSmall => "zoom must be >= 1"
  | .invalidColor components => s!"invalid RGB color: {components}"
  | .policyWithoutName kind => s!"'{kind}' object has no attribute 'value'"
  | .missingComponent place =>
      s!"Replacement index {place} out of range for positional args tuple"
  | .componentFormat failure => failure.message

/-- Whether the error blames the value of an entry, and not its type or the form of the
document. -/
def blamesValue : SettingsError → Bool
  | .number .notANumber => true
  | .number (.literal _ _) => true
  | .number (.tooManyDigits _) => true
  | .unknownPolicy _ => true
  | .tooFewComponents _ => true
  | .tooManyComponents => true
  | .cyclesNotPositive => true
  | .timerNotPositive => true
  | .zoomTooSmall => true
  | .invalidColor _ => true
  | .componentFormat (.unknownCode _) => true
  | _ => false

end SettingsError

end ChipEight
