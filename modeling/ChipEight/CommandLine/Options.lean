import ChipEight.CommandLine.Flag
import ChipEight.Device.Keypad
import ChipEight.Journal
import ChipEight.Number.Literal
import ChipEight.Settings.Basic

/-!
# Options

Reading the arguments of the command.  First every argument is classified, then they are taken
from left to right, and values are converted as they are met.  A flag may be shortened as long as
only one flag starts with what is left.
-/

namespace ChipEight

/-- What is given with a flag: a value, or nothing, when the separator stands in place of the
value. -/
inductive Given (α : Type) where
  | value (content : α)
  | blank
deriving DecidableEq

/-- What the arguments ask for.  A path that is left blank counts as not given. -/
structure Options where
  rom : Text
  config : Option Text := none
  frames : Given Int := .value 600
  cyclesPerSecond : Option (Given Int) := none
  faultPolicy : Option (Given FaultPolicy) := none
  legacyShift : Bool := false
  holdKeys : List (Given Key) := []
  realtime : Bool := false
  screenshot : Option Text := none
  zoom : Option (Given Int) := none
  logLevel : Given Level := .value .warning
deriving DecidableEq

/-- What is wrong with the arguments. -/
inductive UsageError where
  | ambiguous (argument : Text) (spellings : List String)
  | expectedValue (flag : Flag)
  | ignoredValue (flag : Flag) (text : Text)
  | invalidInt (flag : Flag) (text : Text)
  | notHexKey (text : Text)
  | keyOutOfRange (text : Text)
  | invalidChoice (flag : Flag) (text : Text) (choices : List String)
  | missingRom
  | unrecognized (arguments : List Text)
deriving DecidableEq

/-- The error in words. -/
def UsageError.message : UsageError → Text
  | .ambiguous argument spellings =>
      let matching := String.intercalate ", " spellings
      "ambiguous option: " ++ argument ++ s!" could match {matching}"
  | .expectedValue flag => s!"argument {flag.title}: expected one argument"
  | .ignoredValue flag text =>
      s!"argument {flag.title}: ignored explicit argument {Quoted.ofText text}"
  | .invalidInt flag text =>
      s!"argument {flag.title}: invalid int value: {Quoted.ofText text}"
  | .notHexKey text =>
      s!"argument {Flag.holdKey.title}: not a hex key: {Quoted.ofText text}"
  | .keyOutOfRange text =>
      s!"argument {Flag.holdKey.title}: key must be 0-F, got {Quoted.ofText text}"
  | .invalidChoice flag text choices =>
      let quoted := choices.map fun (choice : String) => Quoted.ofText choice
      let listed := String.intercalate ", " quoted
      s!"argument {flag.title}: invalid choice: {Quoted.ofText text} (choose from {listed})"
  | .missingRom => "the following arguments are required: rom"
  | .unrecognized arguments => "unrecognized arguments: " ++ Text.join " " arguments

/-- Why there are no options: help was asked for, or the arguments are wrong. -/
inductive Refusal where
  | help
  | usage (failure : UsageError)
deriving DecidableEq

/-! ## Classifying arguments -/

/-- What an argument is. -/
inductive Token where
  | value (text : Text)
  | separator
  | flag (flag : Flag)
  | flagWith (flag : Flag) (text : Text)
  | cluster (letters : List CodePoint)
  | unknown (text : Text)
deriving DecidableEq

namespace Token

/-- Whether a code point is a decimal digit of any script. -/
def isDigit : CodePoint → Bool
  | .char c => (Literal.decimal? c).isSome
  | _ => false

/-- Whether a text is a minus sign and a decimal number, of which the part before the point may be
missing.  A new line at the end does not count. -/
def isNegativeNumber (text : Text) : Bool :=
  let points := text.points
  let line := if points.getLast? == some (.char '\n') then points.dropLast else points
  match line with
  | .char '-' :: digits =>
      match digits.dropWhile isDigit with
      | [] => !digits.isEmpty
      | .char '.' :: fraction => !fraction.isEmpty && fraction.all isDigit
      | _ => false
  | _ => false

/-- The parts of an argument before and after its first equals sign, if it has one. -/
def splitValue (text : Text) : Text × Option Text :=
  let name : Text := ⟨text.points.takeWhile (· != .char '=')⟩
  match text.points.dropWhile (· != .char '=') with
  | [] => (name, none)
  | _ :: after => (name, some ⟨after⟩)

/-- An argument that starts with a dash and is no flag's spelling: a value if it is a negative
number or holds a space. -/
def unlisted (argument : Text) : Token :=
  if isNegativeNumber argument || argument.contains ' ' then .value argument
  else .unknown argument

/-- A flag by its whole name, with the value after an equals sign. -/
def ofFlag (found : Flag) : Option Text → Token
  | some text => .flagWith found text
  | none => .flag found

/-- An argument with two dashes whose name is shortened. -/
def ofShortened (argument name : Text) (attached : Option Text) : Except UsageError Token :=
  match Flag.startingWith name with
  | [] => .ok (unlisted argument)
  | [(_, found)] => .ok (ofFlag found attached)
  | several => .error (.ambiguous argument (several.map Prod.fst))

/-- Classify one argument before a separator.  What is attached to a flag with one dash, with or
without an equals sign, is a cluster of letters. -/
def classify (argument : Text) : Except UsageError Token :=
  match argument.points with
  | .char '-' :: second :: rest =>
      match Flag.ofSpelling? argument with
      | some found => .ok (.flag found)
      | none =>
          let (name, attached) := splitValue argument
          match Flag.ofSpelling? name, attached with
          | some found, some text =>
              if second = .char '-' then .ok (.flagWith found text)
              else .ok (.cluster text.points)
          | _, _ =>
              if second = .char '-' then ofShortened argument name attached
              else if second = .char 'h' then .ok (.cluster rest)
              else .ok (unlisted argument)
  | _ => .ok (.value argument)

/-- Classify all arguments.  After the separator, which counts once, there are only values. -/
def classifyAll : List Text → Except UsageError (List Token)
  | [] => .ok []
  | argument :: rest =>
      if argument = "--" then .ok (.separator :: rest.map Token.value)
      else
        match classify argument with
        | .error failure => .error failure
        | .ok token =>
            match classifyAll rest with
            | .error failure => .error failure
            | .ok tokens => .ok (token :: tokens)

/-- What asks for help with more letters attached.  The letters have to ask for help, too. -/
def refuseCluster : List CodePoint → Refusal
  | [] => .usage (.ignoredValue .help "")
  | first :: rest =>
      if first != .char 'h' then .usage (.ignoredValue .help ⟨first :: rest⟩)
      else if rest.isEmpty then .help
      else refuseCluster rest

end Token

/-! ## Taking arguments -/

/-- What has been taken so far: the options, whether the program's path is known, and the
arguments that nothing asked for, the last one first. -/
structure Progress where
  options : Options
  romGiven : Bool
  extra : List Text

namespace Progress

/-- Nothing has been taken. -/
def initial : Progress :=
  { options := { rom := "" }, romGiven := false, extra := [] }

/-- Change the options. -/
def set (progress : Progress) (options : Options) : Progress :=
  { progress with options := options }

/-- Set an argument aside. -/
def setAside (progress : Progress) (argument : Text) : Progress :=
  { progress with extra := argument :: progress.extra }

/-- Take the path of the program. -/
def takeRom (progress : Progress) (path : Text) : Progress :=
  { progress with options := { progress.options with rom := path }, romGiven := true }

/-- Read an integer for a flag. -/
def intValue (flag : Flag) (text : Text) : Except UsageError Int :=
  match Literal.read 10 text with
  | .ok n => .ok n
  | .error _ => .error (.invalidInt flag text)

/-- Read a key by its hexadecimal digit. -/
def keyValue (text : Text) : Except UsageError Key :=
  match Literal.read 16 text with
  | .error _ => .error (.notHexKey text)
  | .ok code =>
      match Key.ofCode code with
      | .ok key => .ok key
      | .error _ => .error (.keyOutOfRange text)

/-- Read the name of a policy. -/
def policyValue (text : Text) : Except UsageError FaultPolicy :=
  match FaultPolicy.ofName? text with
  | some policy => .ok policy
  | none => .error (.invalidChoice .faultPolicy text ["freeze", "skip", "halt"])

/-- Read the name of a level. -/
def levelValue (text : Text) : Except UsageError Level :=
  match Level.ofName? text with
  | some level => .ok level
  | none => .error (.invalidChoice .logLevel text ["DEBUG", "INFO", "WARNING", "ERROR"])

/-- Read what is given with a flag.  The separator is no value. -/
def given {α : Type} (read : Text → Except UsageError α) (text : Text) :
    Except UsageError (Given α) :=
  if text = "--" then .ok .blank else (read text).map Given.value

/-- The path that is given with a flag. -/
def pathValue (text : Text) : Option Text :=
  if text = "--" then none else some text

/-- Take a flag with its value. -/
def takeValue (progress : Progress) (flag : Flag) (text : Text) : Except UsageError Progress :=
  let options := progress.options
  match flag with
  | .config => .ok (progress.set { options with config := pathValue text })
  | .frames =>
      (given (intValue flag) text).map fun n => progress.set { options with frames := n }
  | .cyclesPerSecond =>
      (given (intValue flag) text).map fun n =>
        progress.set { options with cyclesPerSecond := some n }
  | .faultPolicy =>
      (given policyValue text).map fun policy =>
        progress.set { options with faultPolicy := some policy }
  | .holdKey =>
      (given keyValue text).map fun key =>
        progress.set { options with holdKeys := options.holdKeys ++ [key] }
  | .screenshot => .ok (progress.set { options with screenshot := pathValue text })
  | .zoom =>
      (given (intValue flag) text).map fun n => progress.set { options with zoom := some n }
  | .logLevel =>
      (given levelValue text).map fun level => progress.set { options with logLevel := level }
  | _ => .error (.ignoredValue flag text)

/-- Take a flag that stands alone. -/
def takeFlag (progress : Progress) (flag : Flag) : Except Refusal Progress :=
  match flag with
  | .help => .error .help
  | .legacyShift => .ok (progress.set { progress.options with legacyShift := true })
  | .realtime => .ok (progress.set { progress.options with realtime := true })
  | _ => .error (.usage (.expectedValue flag))

/-- The options, if everything that is required has been given and nothing is left over. -/
def finish (progress : Progress) : Except Refusal Options :=
  if !progress.romGiven then .error (.usage .missingRom)
  else if progress.extra.isEmpty then .ok progress.options
  else .error (.usage (.unrecognized progress.extra.reverse))

/-- Take the arguments from left to right.  The separator next to the program's path belongs to
it. -/
def takeAll (progress : Progress) : List Token → Except Refusal Options
  | [] => progress.finish
  | .unknown text :: rest => (progress.setAside text).takeAll rest
  | .cluster letters :: _ => .error (Token.refuseCluster letters)
  | .flagWith flag text :: rest =>
      match progress.takeValue flag text with
      | .ok next => next.takeAll rest
      | .error failure => .error (.usage failure)
  | .flag flag :: .value text :: rest =>
      if flag.takesValue then
        match progress.takeValue flag text with
        | .ok next => next.takeAll rest
        | .error failure => .error (.usage failure)
      else
        match progress.takeFlag flag with
        | .ok next => next.takeAll (.value text :: rest)
        | .error refusal => .error refusal
  | .flag flag :: rest =>
      match progress.takeFlag flag with
      | .ok next => next.takeAll rest
      | .error refusal => .error refusal
  | .value text :: .separator :: rest =>
      if progress.romGiven then ((progress.setAside text).setAside "--").takeAll rest
      else (progress.takeRom text).takeAll rest
  | .value text :: rest =>
      if progress.romGiven then (progress.setAside text).takeAll rest
      else (progress.takeRom text).takeAll rest
  | .separator :: .value text :: rest =>
      if progress.romGiven then ((progress.setAside "--").setAside text).takeAll rest
      else (progress.takeRom text).takeAll rest
  | .separator :: rest => (progress.setAside "--").takeAll rest

end Progress

/-- Read the arguments of the command. -/
def Options.parse (arguments : List Text) : Except Refusal Options :=
  match Token.classifyAll arguments with
  | .error failure => .error (.usage failure)
  | .ok tokens => Progress.initial.takeAll tokens

end ChipEight
