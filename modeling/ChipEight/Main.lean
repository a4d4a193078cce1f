import ChipEight.CommandLine.Command
import ChipEight.Image.Encoding

/-!
# The program

The command with the files, the clock and the random bytes of the computer that it runs on.
-/

namespace ChipEight.Program

/-- Documents may be nested about a thousand levels deep, and images may be as large as there is
memory for. -/
def platform : Command.Platform where
  depth := 988
  imaging := .byCentres none

/-- The problem behind a failure of the file system. -/
def problemOf : IO.Error → FileProblem
  | .inappropriateType _ code _ => if code = 20 then .notDirectory else .isDirectory
  | .invalidArgument _ 36 _ => .nameTooLong
  | .resourceExhausted _ 36 _ => .nameTooLong
  | _ => .missing

/-- The contents of a file. -/
def readFile (path : Text) : IO (Except FileError (List UInt8)) := do
  match Path.bytes path with
  | .error failure => return .error failure
  | .ok _ =>
      try
        let contents ← IO.FS.readBinFile path.display
        return .ok contents.toList
      catch failure =>
        return .error (.refused (problemOf failure) path)

/-- Write a picture to its file. -/
def writePicture (picture : Picture) : IO (Except FileError Unit) := do
  match Path.bytes picture.path with
  | .error failure => return .error failure
  | .ok _ =>
      let contents := picture.image.image.encode picture.format
      try
        IO.FS.writeBinFile picture.path.display (ByteArray.mk contents.toArray)
        return .ok ()
      catch failure =>
        return .error (.refused (problemOf failure) picture.path)

/-- The computer's clock tells the time in seconds.  Nobody asks a run on it to stop. -/
instance : Timed IO Float where
  read := do
    let nanoseconds ← IO.monoNanosNow
    return nanoseconds.toFloat / 1.0e9
  wait seconds := IO.sleep (seconds * 1000.0).toUInt32
  stopped := return false
  stop := return ()
  goOn := return ()

/-- Turn after turn of the loop, until one of them is the last. -/
partial def pace (schedule : Schedule Float) (runner : Runner Machine) :
    IO (Runner Machine × Except (RunError Interruption) Unit) := do
  match ← Pace.turn false schedule runner with
  | .done after result => return (after, result)
  | .again next after => pace next after

/-- Run frames at the pace of the computer's clock. -/
def runPaced (options : Options) (runner : Runner Machine) :
    IO (Runner Machine × Except (RunError Interruption) Unit) := do
  match Command.duration Float options runner.settings with
  | .error failure => return (runner, .error (.rate failure))
  | .ok seconds =>
      match ← Pace.startWithin runner.settings seconds with
      | .error failure => return (runner, .error (.rate failure))
      | .ok schedule => pace schedule runner

/-- Run the frames that the options ask for. -/
def runAll (options : Options) (runner : Runner Machine) :
    IO (Runner Machine × Except Breakdown Unit) := do
  if options.realtime then
    match ← runPaced options runner with
    | (after, .ok ()) => return (after, .ok ())
    | (after, .error failure) => return (after, .error (.run failure))
  else
    return Command.runFrames options runner

/-- The outcome of a run, with its picture written. -/
def conclude (options : Options) (runner : Runner Machine) (result : Except Breakdown Unit) :
    IO Outcome := do
  let outcome := Command.outcome platform.imaging options runner result fun _ => .ok ()
  match outcome.picture with
  | none => return outcome
  | some picture =>
      match ← writePicture picture with
      | .ok () => return outcome
      | .error failure =>
          return Command.outcome platform.imaging options runner result fun _ => .error failure

/-- Carry out what the options ask for. -/
def carryOut (options : Options) : IO Outcome := do
  if options.logLevel = .blank then
    return Outcome.ofBlankLevel
  let config ← match Options.pathGiven options.config with
    | some path => readFile path
    | none => pure (.ok [])
  let rom ← match options.settings platform.depth fun _ => config with
    | .ok _ => readFile options.rom
    | .error _ => pure (.ok [])
  let read (path : Text) : Except FileError (List UInt8) :=
    if Options.pathGiven options.config = some path then config else rom
  let seed ← IO.rand 0 2147483647
  match Command.prepare platform.depth options read (RandomSource.seeded seed) with
  | .error outcome => return outcome
  | .ok runner =>
      let (after, result) ← runAll options runner
      conclude options after result

/-- Print an outcome and give its status. -/
def finish (outcome : Outcome) : IO UInt32 := do
  for line in outcome.stderr do
    IO.eprintln line.display
  IO.print outcome.stdout.display
  match outcome.ending with
  | .exit status => return status.toUInt32
  | .broken breakdown =>
      IO.eprintln s!"chip8: {breakdown.message.display}"
      return 1

end ChipEight.Program

/-- Run the command with the given arguments. -/
def main (arguments : List String) : IO UInt32 := do
  match ChipEight.Options.parse (arguments.map ChipEight.Text.ofString) with
  | .error refusal => ChipEight.Program.finish (ChipEight.Outcome.ofRefusal refusal)
  | .ok options => ChipEight.Program.finish (← ChipEight.Program.carryOut options)
