import ChipEight.CommandLine.Command
import ChipEight.CommandLine.Flag
import ChipEight.CommandLine.Help
import ChipEight.CommandLine.Options
import ChipEight.Device.CallStack
import ChipEight.Device.DelayTimer
import ChipEight.Device.Extent
import ChipEight.Device.Grid
import ChipEight.Device.Keypad
import ChipEight.Device.Memory
import ChipEight.Device.RandomSource
import ChipEight.Device.Registers
import ChipEight.Device.Screen
import ChipEight.Fault
import ChipEight.Fault.Draft
import ChipEight.Files.Path
import ChipEight.Files.Tree
import ChipEight.Image
import ChipEight.Image.Encoding
import ChipEight.Instruction
import ChipEight.Journal
import ChipEight.Json.Basic
import ChipEight.Json.Display
import ChipEight.Json.Format
import ChipEight.Json.Number
import ChipEight.Json.Reader
import ChipEight.Json.Writer
import ChipEight.Machine.Basic
import ChipEight.Machine.Cycle
import ChipEight.Machine.Execute
import ChipEight.Machine.Load
import ChipEight.Main
import ChipEight.Monitor.Block
import ChipEight.Monitor.Capture
import ChipEight.Monitor.Clock
import ChipEight.Monitor.Console
import ChipEight.Monitor.Image
import ChipEight.Monitor.Index
import ChipEight.Monitor.KeyCode
import ChipEight.Monitor.Memory
import ChipEight.Monitor.Operand
import ChipEight.Monitor.Payload
import ChipEight.Monitor.Refusal
import ChipEight.Monitor.Registers
import ChipEight.Monitor.Screen
import ChipEight.Monitor.Script
import ChipEight.Monitor.Sheet
import ChipEight.Number.Binary64
import ChipEight.Number.Hexadecimal
import ChipEight.Number.Literal
import ChipEight.Number.Word
import ChipEight.Opcode
import ChipEight.Runner.Basic
import ChipEight.Runner.Clock
import ChipEight.Runner.Pacing
import ChipEight.Runner.Schedule
import ChipEight.Settings.Basic
import ChipEight.Settings.Document
import ChipEight.Settings.Draft
import ChipEight.Settings.EntryValue
import ChipEight.Settings.Rate
import ChipEight.Snapshot
import ChipEight.Text.Basic
import ChipEight.Text.Casing
import ChipEight.Text.Lines
import ChipEight.Text.Lowercase
import ChipEight.Text.Printable
import ChipEight.Text.Quoted
import ChipEight.Text.Utf8
import ChipEight.Proofs.Memory
import ChipEight.Proofs.Registers
import ChipEight.Proofs.Machine.Action
import ChipEight.Proofs.Machine.Effect
import ChipEight.Proofs.Machine.Outcome
import ChipEight.Proofs.Machine.FaultAtomicity
import ChipEight.Proofs.Screen.Grid
import ChipEight.Proofs.Screen.Packing
import ChipEight.Proofs.Screen.Picture
import ChipEight.Proofs.Screen.Draw
import ChipEight.Proofs.Screen.DeferredClear
import ChipEight.Proofs.Instruction
import ChipEight.Proofs.Machine.FaultCause
import ChipEight.Proofs.Machine.Arithmetic
import ChipEight.Proofs.Machine.Operation
import ChipEight.Proofs.Machine.Reachable
import ChipEight.Proofs.Machine.Similar
import ChipEight.Proofs.Machine.Reload
import ChipEight.Proofs.Machine.FrozenFault
import ChipEight.Proofs.Machine.FreezeHalt
import ChipEight.Proofs.Machine.DisplayCalls
import ChipEight.Proofs.Machine.Halting
import ChipEight.Proofs.Machine.CallReturn
import ChipEight.Proofs.Machine.Footprint
import ChipEight.Proofs.Snapshot
import ChipEight.Proofs.Screen.RedrawFlag
import ChipEight.Proofs.Runner.Delivery
import ChipEight.Proofs.Keypad.History
import ChipEight.Proofs.Machine.KeyWait
import ChipEight.Proofs.Runner.EarlyExit
import ChipEight.Proofs.Machine.FaultLedger
import ChipEight.Proofs.Machine.SettingsIndependence
import ChipEight.Proofs.Machine.RejectedLoads
import ChipEight.Proofs.Machine.Countdown
import ChipEight.Proofs.Keypad.Calls
import ChipEight.Proofs.Machine.Interleaving
import ChipEight.Proofs.Json.Strings
import ChipEight.Proofs.Json.RoundTrip
import ChipEight.Proofs.Settings.Fields
import ChipEight.Proofs.Settings.Mistyped
import ChipEight.Proofs.Settings.Saved
import ChipEight.Proofs.CommandLine.Configuration
import ChipEight.Proofs.Screen.Parity
import ChipEight.Proofs.Screen.RedrawSoundness
import ChipEight.Proofs.Memory.Loading
import ChipEight.Proofs.Memory.History
import ChipEight.Proofs.Machine.RegisterTransfer
import ChipEight.Proofs.Number.Binary64
import ChipEight.Proofs.Settings.FrameRate
import ChipEight.Proofs.Image
import ChipEight.Proofs.Settings.Usable
import ChipEight.Proofs.Settings.NormalForm
import ChipEight.Proofs.Runner.Course
import ChipEight.Proofs.Runner.Punctuality
import ChipEight.Proofs.Image.Magnification
