import ChipEight.CommandLine.Help
import ChipEight.CommandLine.Options
import ChipEight.Image.Encoding
import ChipEight.Runner.Pacing
import ChipEight.Settings.Document
import ChipEight.Text.Utf8

/-!
# The command

Run a program without a screen: read the settings and the program, run frames, print a line on how
the run went and, if asked, save the last picture.
-/

namespace ChipEight

/-! ## Settings of a run -/

/-- Why a settings file gives no settings. -/
inductive ConfigurationError where
  | file (failure : FileError)
  | encoding (failure : Utf8.Failure)
  | malformed (failure : Json.ReadError) (text : String)
  | refused (failure : SettingsError)

namespace ConfigurationError

/-- The error in words. -/
def message : ConfigurationError → Text
  | .file failure => failure.message
  | .encoding failure => failure.message
  | .malformed failure text => failure.message text
  | .refused failure => failure.message

/-- Whether the command reports the error and ends with a status of its own.  An entry of the wrong
type, or a document whose values lie too deep, breaks the command off instead. -/
def isReported : ConfigurationError → Bool
  | .malformed (.tooDeep _) _ => false
  | .refused failure => failure.blamesValue
  | _ => true

end ConfigurationError

namespace Options

/-- A path that is given and not empty. -/
def pathGiven : Option Text → Option Text
  | some path => if path.isEmpty then none else some path
  | none => none

/-- The least level of notices that are printed. -/
def level (options : Options) : Level :=
  match options.logLevel with
  | .value level => level
  | .blank => .warning

/-- Settings from the contents of a file. -/
def settingsOfFile (depth : Nat) (contents : Except FileError (List UInt8)) :
    Except ConfigurationError Settings :=
  match contents with
  | .error failure => .error (.file failure)
  | .ok bytes =>
      match Utf8.decode bytes with
      | .error failure => .error (.encoding failure)
      | .ok chars =>
          let text := String.ofList (Utf8.plainLines chars)
          match Settings.ofDocument depth text with
          | .error (.malformed failure) => .error (.malformed failure text)
          | .error (.refused failure) => .error (.refused failure)
          | .ok settings => .ok settings

/-- A value that is given, or else the usual one. -/
def orUsual {α : Type} (usual : α) : Option (Given α) → α
  | some (.value content) => content
  | _ => usual

/-- Settings with those entries replaced that the arguments give. -/
def override (options : Options) (settings : Settings) : Settings :=
  { settings with
    cyclesPerSecond := orUsual settings.cyclesPerSecond options.cyclesPerSecond
    policy :=
      match options.faultPolicy with
      | some (.value policy) => .known policy
      | _ => settings.policy
    shiftUsesVy := options.legacyShift || settings.shiftUsesVy
    zoom := orUsual settings.zoom options.zoom }

/-- A number for an entry.  One that is left blank is an empty list. -/
def entryValue : Given Int → EntryValue
  | .value n => .json (.int n)
  | .blank => .json (.arr [])

/-- The draft of settings with the numbers that the arguments give. -/
def overrideDraft (options : Options) (settings : Settings) : Draft :=
  let draft := settings.toDraft
  { draft with
    cyclesPerSecond := (options.cyclesPerSecond.map entryValue).getD draft.cyclesPerSecond
    zoom := (options.zoom.map entryValue).getD draft.zoom }

/-- The settings of a run: those of the file, or the usual ones, with the entries that the arguments
give, checked again. -/
def settings (options : Options) (depth : Nat) (read : Text → Except FileError (List UInt8)) :
    Except ConfigurationError Settings :=
  let base :=
    match pathGiven options.config with
    | some path => settingsOfFile depth (read path)
    | none => .ok {}
  match base with
  | .error failure => .error failure
  | .ok base =>
      if options.faultPolicy = some .blank then .error (.refused (.unknownPolicy "[]"))
      else
        match (options.overrideDraft base).validate with
        | .error failure => .error (.refused failure)
        | .ok () => .ok (options.override base)

end Options

/-! ## Outcomes -/

/-- What breaks the command off. -/
inductive Breakdown where
  | blankLevel
  | configuration (failure : ConfigurationError)
  | rom (failure : LoadError)
  | blankKey
  | blankFrames
  | run (failure : RunError Interruption)
  | unknownFormat (suffix : Text)
  | picture (failure : FileError)
  | render (failure : RenderError)

/-- The breakdown in words. -/
def Breakdown.message : Breakdown → Text
  | .blankLevel => "attribute name must be string, not 'list'"
  | .configuration failure => failure.message
  | .rom (.badPath failure) => failure.message
  | .rom (.interrupted interruption) => interruption.observer.name
  | .blankKey => "'<=' not supported between instances of 'int' and 'list'"
  | .blankFrames => "'list' object cannot be interpreted as an integer"
  | .run (.rate failure) => failure.message
  | .run (.brokenOff interruption) => interruption.observer.name
  | .unknownFormat suffix => "unknown file extension: " ++ suffix
  | .picture failure => failure.message
  | .render failure => failure.message

/-- How the command ends. -/
inductive Ending where
  | exit (status : Nat)
  | broken (breakdown : Breakdown)

/-- A picture to be written to a file. -/
structure Picture where
  path : Text
  format : Image.Format
  image : Image.Sized

/-- All that the command leaves behind. -/
structure Outcome where
  ending : Ending
  stdout : Text
  stderr : List Text
  picture : Option Picture

namespace Outcome

/-- The outcome of arguments that were refused. -/
def ofRefusal : Refusal → Outcome
  | .help => { ending := .exit 0, stdout := Help.text, stderr := [], picture := none }
  | .usage failure =>
      { ending := .exit 2
        stdout := ""
        stderr := Help.usage.map Text.ofString ++ ["chip8: error: " ++ failure.message]
        picture := none }

/-- The outcome when the level of notices is left blank: nothing is done. -/
def ofBlankLevel : Outcome :=
  { ending := .broken .blankLevel, stdout := "", stderr := [], picture := none }

end Outcome

namespace Command

/-- The lines of a journal at a level and above, the oldest first. -/
def logLines (level : Level) (journal : List Notice) : List Text :=
  (journal.reverse.filter fun notice => decide (level.rank ≤ notice.level.rank)).map Notice.line

/-- An outcome without a picture. -/
def ended (options : Options) (journal : List Notice) (stdout : Text) (ending : Ending) :
    Outcome :=
  { ending := ending
    stdout := stdout
    stderr := logLines options.level journal
    picture := none }

/-- Hold keys down, up to the first one that is left blank.  The result says whether there was
none. -/
def holdAll (machine : Machine) : List (Given Key) → Machine × Bool
  | [] => (machine, true)
  | .value key :: rest => holdAll (machine.applyKey ⟨key, true⟩).1 rest
  | .blank :: _ => (machine, false)

/-- Everything before the first frame.  A program is read only after the settings have been
accepted. -/
def prepare (depth : Nat) (options : Options) (read : Text → Except FileError (List UInt8))
    (random : RandomSource) : Except Outcome (Runner Machine) :=
  match options.settings depth read with
  | .error failure =>
      if failure.isReported then
        .error (ended options [.settingsInvalid failure.message] "" (.exit 2))
      else .error (ended options [] "" (.broken (.configuration failure)))
  | .ok settings =>
      match (Machine.create settings random).loadFile options.rom (read options.rom) with
      | (machine, .error failure) =>
          .error (ended options machine.journal "" (.broken (.rom failure)))
      | (machine, .ok false) =>
          .error (ended options (.romFailed options.rom :: machine.journal) "" (.exit 1))
      | (machine, .ok true) =>
          match holdAll machine options.holdKeys with
          | (holding, true) => .ok (Runner.create holding none false)
          | (holding, false) =>
              .error (ended options holding.journal "" (.broken .blankKey))

/-- How the run went. -/
def statusLine (runner : Runner Machine) : String :=
  let machine := runner.machine
  let pc := Hexadecimal.address machine.registers.pc.toNat
  s!"frames={runner.frameCount} instructions={machine.instructionCount} " ++
    s!"faults={machine.faultCount} state={machine.phase.name} pc={pc}\n"

/-- The picture that is to be saved at a path, if the path has a known suffix and can be
written to. -/
def takePicture (imaging : Imaging) (runner : Runner Machine) (path : Text)
    (writable : Text → Except FileError Unit) : Except Breakdown Picture :=
  let place := Path.normal path
  let settings := runner.settings
  let suffix := Lowercase.ofText (Path.suffix place)
  match Image.render imaging runner.machine.screen.lit settings.zoom settings.onColor.components
      settings.offColor.components with
  | .error failure => .error (.render failure)
  | .ok image =>
      match Image.Format.ofSuffix? suffix with
      | none => .error (.unknownFormat suffix)
      | some format =>
          match writable place with
          | .error failure => .error (.picture failure)
          | .ok () => .ok ⟨place, format, image⟩

/-- Everything after the last frame. -/
def conclude (imaging : Imaging) (options : Options) (runner : Runner Machine)
    (writable : Text → Except FileError Unit) : Outcome :=
  let status := statusLine runner
  let journal := runner.machine.journal
  match Options.pathGiven options.screenshot with
  | none => ended options journal status (.exit 0)
  | some path =>
      match takePicture imaging runner path writable with
      | .error breakdown => ended options journal status (.broken breakdown)
      | .ok picture =>
          let saved := status ++ "Saved screen to " ++ picture.path ++ "\n"
          { ended options journal saved (.exit 0) with picture := some picture }

/-- The outcome of a run that broke off. -/
def brokenOff (options : Options) (runner : Runner Machine) (breakdown : Breakdown) : Outcome :=
  ended options runner.machine.journal "" (.broken breakdown)

/-- Run the frames one after the other. -/
def runFrames (options : Options) (runner : Runner Machine) :
    Runner Machine × Except Breakdown Unit :=
  match options.frames with
  | .blank => (runner, .error .blankFrames)
  | .value count =>
      match runner.runFrames count with
      | (after, .ok _) => (after, .ok ())
      | (after, .error failure) => (after, .error (.run failure))

/-- How long the frames take at the timer rate. -/
def duration (T : Type) [TimeScale T] (options : Options) (settings : Settings) :
    Except RateError T :=
  match options.frames with
  | .blank => .error (.notNumbers "list" "int")
  | .value count => TimeScale.span count settings.timerHz

section Paced

variable {C T : Type} [Timekeeper C T] [TimeScale T] [Add T] [Sub T] [Mul T] [OfNat T 4] [LE T]
  [DecidableLE T] [LT T] [DecidableLT T]

/-- Run frames at the pace of a clock, for as long as they take at the timer rate and for at most
`turns` turns of the loop. -/
def runPaced (turns : Nat) (options : Options) (runner : Runner Machine) (clock : C) :
    Runner Machine × C × Except Breakdown Unit :=
  match duration T options runner.settings with
  | .error failure => (runner, clock, .error (.run (.rate failure)))
  | .ok time =>
      match PacedRun.runWithin turns { runner := runner, clock := clock } time with
      | (run, .ok ()) => (run.runner, run.clock, .ok ())
      | (run, .error failure) => (run.runner, run.clock, .error (.run failure))

end Paced

/-- The outcome of a run, finished or not. -/
def outcome (imaging : Imaging) (options : Options) (runner : Runner Machine)
    (result : Except Breakdown Unit) (writable : Text → Except FileError Unit) : Outcome :=
  match result with
  | .ok () => conclude imaging options runner writable
  | .error breakdown => brokenOff options runner breakdown

/-- What the command needs of the computer that it runs on, files and clock apart: how many values
of a document may lie within each other, and the imaging library. -/
structure Platform where
  depth : Nat
  imaging : Imaging

/-- Carry out what the options ask for. -/
def carryOut (platform : Platform) (options : Options)
    (read : Text → Except FileError (List UInt8)) (writable : Text → Except FileError Unit)
    (clock : Clock Float) (random : RandomSource) : Outcome × Clock Float :=
  match prepare platform.depth options read random with
  | .error outcome => (outcome, clock)
  | .ok runner =>
      if options.realtime then
        let (after, later, result) := runPaced PacedRun.horizon options runner clock
        (outcome platform.imaging options after result writable, later)
      else
        let (after, result) := runFrames options runner
        (outcome platform.imaging options after result writable, clock)

/-- The whole command, for given files, a clock and a source of random bytes. -/
def run (platform : Platform) (arguments : List Text)
    (read : Text → Except FileError (List UInt8)) (writable : Text → Except FileError Unit)
    (clock : Clock Float) (random : RandomSource) : Outcome × Clock Float :=
  match Options.parse arguments with
  | .error refusal => (Outcome.ofRefusal refusal, clock)
  | .ok options =>
      if options.logLevel = .blank then (Outcome.ofBlankLevel, clock)
      else carryOut platform options read writable clock random

end Command

end ChipEight
