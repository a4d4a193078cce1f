import ChipEight.Text.Basic

/-!
# Flags of the command line

Every flag has one spelling or two, and either takes a value or stands alone.
-/

namespace ChipEight

/-- The flags. -/
inductive Flag where
  | help
  | config
  | frames
  | cyclesPerSecond
  | faultPolicy
  | legacyShift
  | holdKey
  | realtime
  | screenshot
  | zoom
  | logLevel
deriving DecidableEq

namespace Flag

/-- All flags in the order in which they are listed. -/
def all : List Flag :=
  [.help, .config, .frames, .cyclesPerSecond, .faultPolicy, .legacyShift, .holdKey, .realtime,
    .screenshot, .zoom, .logLevel]

/-- The spellings of a flag. -/
def spellings : Flag → List String
  | .help => ["-h", "--help"]
  | .config => ["--config"]
  | .frames => ["--frames"]
  | .cyclesPerSecond => ["--cycles-per-second"]
  | .faultPolicy => ["--fault-policy"]
  | .legacyShift => ["--legacy-shift"]
  | .holdKey => ["--hold-key"]
  | .realtime => ["--realtime"]
  | .screenshot => ["--screenshot"]
  | .zoom => ["--zoom"]
  | .logLevel => ["--log-level"]

/-- Every spelling with its flag, in order. -/
def table : List (String × Flag) :=
  all.flatMap fun flag => flag.spellings.map fun spelling => (spelling, flag)

/-- The flag with exactly this spelling. -/
def ofSpelling? (text : Text) : Option Flag :=
  (table.find? fun entry => Text.ofString entry.1 == text).map Prod.snd

/-- The spellings that start with a text, with their flags. -/
def startingWith (text : Text) : List (String × Flag) :=
  table.filter fun entry => text.points.isPrefixOf (Text.ofString entry.1).points

/-- Whether a flag takes a value. -/
def takesValue : Flag → Bool
  | .help => false
  | .legacyShift => false
  | .realtime => false
  | _ => true

/-- A flag as errors name it. -/
def title (flag : Flag) : String :=
  String.intercalate "/" flag.spellings

end Flag

end ChipEight
