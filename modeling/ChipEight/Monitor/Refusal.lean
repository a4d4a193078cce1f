import ChipEight.Device.Extent
import ChipEight.Fault.Draft
import ChipEight.Image
import ChipEight.Machine.Load
import ChipEight.Runner.Basic

/-!
# Refusals

The monitor works on the devices of a machine with values that are given to it as JSON.  A value of
a wrong kind is refused, and so is a value that the device does not take.  A refusal is kept as its
cause; `Refusal.message` puts it into words.
-/

namespace ChipEight.Monitor

/-- A value is of a kind that cannot be used in this way. -/
inductive Mismatch where
  /-- Values of these kinds have no order. -/
  | unordered (operator left right : String)
  /-- An operator does not take values of these kinds. -/
  | operands (operator left right : String)
  /-- A value of this kind is no position in a container. -/
  | position (container kind : String)
  /-- A name is no position in a text. -/
  | textPosition
  /-- A value of this kind has no parts that could be picked. -/
  | noParts (kind : String)
  /-- A value of this kind holds nothing. -/
  | noMembers (kind : String)
  /-- A value of this kind has no items. -/
  | noItems (kind : String)
  /-- A value of this kind has no length. -/
  | noLength (kind : String)
  /-- A value of this kind cannot be taken apart. -/
  | notUnpacked (kind : String)
  /-- A value of this kind is no list of arguments of a maker. -/
  | noArguments (maker kind : String)
  /-- A value of this kind is no table of entries for settings. -/
  | noEntries (kind : String)
  /-- A value is no end of a range. -/
  | rangeEnd
  /-- A value of this kind is no integer. -/
  | notInteger (kind : String)
  /-- A value of this kind is no key of a table. -/
  | noTableKey (kind : String)
  /-- A value of this kind is no name. -/
  | noName (kind : String)
  /-- A value of this kind names no file. -/
  | noPath (kind : String)
  /-- A value of this kind cannot be written to a text file. -/
  | noText (kind : String)
  /-- A value of this kind is no text of hexadecimal digits. -/
  | noHexText (kind : String)
  /-- Bytes cannot be repeated a number of times of this kind. -/
  | noRepetition (kind : String)
  /-- A value of this kind cannot be put behind a text. -/
  | noConcatenation (kind : String)
  /-- A number of this kind has no hexadecimal digits. -/
  | noDigits (kind : String)
  /-- A value of this kind hides an operation. -/
  | noOperation (kind : String)
  /-- A value of this kind is no size of a memory. -/
  | noMemorySize (kind : String)
  /-- A text is no size of a memory. -/
  | textAsMemory
  /-- A truth value is no size of a grid. -/
  | truthAsSize
deriving DecidableEq

/-- The mismatch in words. -/
def Mismatch.message : Mismatch → String
  | .unordered operator left right =>
      s!"'{operator}' not supported between instances of '{left}' and '{right}'"
  | .operands operator left right =>
      s!"unsupported operand type(s) for {operator}: '{left}' and '{right}'"
  | .position container kind => s!"{container} indices must be integers or slices, not {kind}"
  | .textPosition => "string indices must be integers, not 'str'"
  | .noParts kind => s!"'{kind}' object is not subscriptable"
  | .noMembers kind => s!"argument of type '{kind}' is not iterable"
  | .noItems kind => s!"'{kind}' object is not iterable"
  | .noLength kind => s!"object of type '{kind}' has no len()"
  | .notUnpacked kind => s!"cannot unpack non-iterable {kind} object"
  | .noArguments maker kind =>
      s!"chip8.errors.{maker}() argument after * must be an iterable, not {kind}"
  | .noEntries kind =>
      "chip8.config.machine_config.MachineConfig() argument after ** must be a mapping, not " ++
        kind
  | .rangeEnd => "slice indices must be integers or None or have an __index__ method"
  | .notInteger kind => s!"'{kind}' object cannot be interpreted as an integer"
  | .noTableKey kind => s!"unhashable type: '{kind}'"
  | .noName kind => s!"attribute name must be string, not '{kind}'"
  | .noPath kind => s!"expected str, bytes or os.PathLike object, not {kind}"
  | .noText kind => s!"write() argument must be str, not {kind}"
  | .noHexText kind => s!"fromhex() argument must be str, not {kind}"
  | .noRepetition kind => s!"can't multiply sequence by non-int of type '{kind}'"
  | .noConcatenation kind => s!"can only concatenate str (not \"{kind}\") to str"
  | .noDigits kind => s!"%X format: an integer is required, not {kind}"
  | .noOperation kind => s!"'{kind}' object is not callable"
  | .noMemorySize kind => s!"cannot convert '{kind}' object to bytearray"
  | .textAsMemory => "string argument without an encoding"
  | .truthAsSize => "an integer is required"

/-- Numbers between round brackets; a single one is followed by a comma. -/
def shapeText : List Nat → String
  | [single] => s!"({single},)"
  | shape => "(" ++ String.intercalate ", " (shape.map toString) ++ ")"

/-- A value has a right kind, but it does not fit. -/
inductive Misfit where
  /-- A number in the contents of a memory is no byte. -/
  | noByte
  /-- A number in a payload is no byte. -/
  | noPayloadByte
  /-- There is no hexadecimal digit at a place of a text. -/
  | noHexDigit (place : Nat)
  /-- A value has fewer than two parts. -/
  | tooFewParts (count : Nat)
  /-- A value has more than two parts. -/
  | tooManyParts
  /-- A key code that is no integer and names no key, as it is shown. -/
  | keyOutOfRange (shown : String)
  /-- A negative number stands for no open file. -/
  | negativeFile
  /-- An observer has no registration. -/
  | notRegistered
  /-- No cell is named where one is meant. -/
  | noCells
  /-- Several cells are named where one is meant. -/
  | manyCells
  /-- A table is rectangular only in its first dimensions, whose sizes are given. -/
  | ragged (shape : List Nat)
  /-- Coordinates of these shapes cannot be added. -/
  | unlikeShapes (left right : List Nat)
  /-- Coordinates are given in more than one dimension. -/
  | deepCoordinates
  /-- A zoom is less than one. -/
  | zoomTooSmall (zoom : Text)
  /-- An image has no two dimensions. -/
  | flatImage
deriving DecidableEq

/-- The misfit in words. -/
def Misfit.message : Misfit → Text
  | .noByte => "byte must be in range(0, 256)"
  | .noPayloadByte => "bytes must be in range(0, 256)"
  | .noHexDigit place =>
      s!"non-hexadecimal number found in fromhex() arg at position {place}"
  | .tooFewParts count => s!"not enough values to unpack (expected 2, got {count})"
  | .tooManyParts => "too many values to unpack (expected 2)"
  | .keyOutOfRange shown => s!"key code must be in [0x0, 0xF], got {shown}"
  | .negativeFile => "negative file descriptor"
  | .notRegistered => "list.remove(x): x not in list"
  | .noCells =>
      "The truth value of an empty array is ambiguous. Use `array.size > 0` to check that an " ++
        "array is not empty."
  | .manyCells =>
      "The truth value of an array with more than one element is ambiguous. Use a.any() or a.all()"
  | .ragged shape =>
      "setting an array element with a sequence. The requested array has an inhomogeneous " ++
        s!"shape after {shape.length} dimensions. The detected shape was {shapeText shape} + " ++
        "inhomogeneous part."
  | .unlikeShapes left right =>
      s!"operands could not be broadcast together with shapes {shapeText left} " ++
        s!"{shapeText right} "
  | .deepCoordinates => "Cross index must be 1 dimensional"
  | .zoomTooSmall zoom => "zoom must be >= 1, got " ++ zoom
  | .flatImage => "not enough values to unpack (expected 2, got 1)"

/-- A value names no place of a grid. -/
inductive Misplaced where
  /-- Coordinates that are no integers name no cells. -/
  | brokenCoordinate
  /-- More coordinates are given than the grid has axes. -/
  | tooManyAxes (count : Nat)
  /-- A mask has another size than the axis of the grid. -/
  | unlikeMask (axis size given : Nat)
  /-- Indices of these shapes cannot be paired. -/
  | unlikeIndices (shapes : List (List Nat))
deriving DecidableEq

/-- The misplacement in words. -/
def Misplaced.message : Misplaced → String
  | .brokenCoordinate => "arrays used as indices must be of integer (or boolean) type"
  | .tooManyAxes count =>
      s!"too many indices for array: array is 2-dimensional, but {count} were indexed"
  | .unlikeMask axis size given =>
      s!"boolean index did not match indexed array along axis {axis}; size of axis is {size} " ++
        s!"but size of corresponding boolean axis is {given}"
  | .unlikeIndices shapes =>
      "shape mismatch: indexing arrays could not be broadcast together with shapes " ++
        String.join (shapes.map fun shape => s!"{shapeText shape} ")

/-- Why the monitor did not do what it was asked for. -/
inductive Refusal where
  | mismatch (cause : Mismatch)
  | misfit (cause : Misfit)
  | misplaced (cause : Misplaced)
  /-- A table has no entry under a key, as it is shown. -/
  | noEntry (shown : String)
  /-- A value of this kind has no field of this name. -/
  | noField (kind field : String)
  /-- There is no kind of fault with this name. -/
  | noFault (name : Text)
  /-- A text of so many letters cannot be added to coordinates. -/
  | textAsCoordinate (letters : Nat)
  /-- The device reports a fault. -/
  | fault (kind : Fault.Kind) (words : Text)
  /-- A fault cannot be made, or put into words. -/
  | draft (failure : Fault.DraftError)
  | key (failure : KeyError)
  | number (failure : IntError)
  | format (failure : Json.FormatError)
  | register (failure : RegisterError)
  | cell (failure : CellError)
  | extent (failure : Extent.Failure)
  | rate (failure : RateError)
  | render (failure : RenderError)
  | settings (failure : SettingsError)
  | file (failure : FileError)
  /-- The observer with this name interrupted an operation. -/
  | interrupted (observer : Text)
deriving DecidableEq

namespace Refusal

/-- The refusal in words. -/
def message : Refusal → Text
  | .mismatch cause => cause.message
  | .misfit cause => cause.message
  | .misplaced cause => cause.message
  | .noEntry shown => shown
  | .noField kind field => s!"'{kind}' object has no attribute '{field}'"
  | .noFault name => "module 'chip8.errors' has no attribute '" ++ name ++ "'"
  | .textAsCoordinate letters =>
      s!"ufunc 'add' did not contain a loop with signature matching types " ++
        s!"(dtype('<U{letters}'), dtype('int64')) -> None"
  | .fault _ words => words
  | .draft failure => failure.message
  | .key failure => failure.message
  | .number failure => failure.message
  | .format failure => failure.message
  | .register failure => failure.message
  | .cell failure => failure.message
  | .extent failure => failure.message
  | .rate failure => failure.message
  | .render failure => failure.message
  | .settings failure => failure.message
  | .file failure => failure.message
  | .interrupted observer => "listener " ++ observer

/-- The refusal of a device that reports a fault. -/
def ofCause (cause : Fault.Cause) : Refusal :=
  .fault cause.kind cause.text

/-- The refusal for a run that was not finished. -/
def ofRun : RunError Refusal → Refusal
  | .rate failure => .rate failure
  | .brokenOff refusal => refusal

end Refusal

/-- Refuse a value because of its kind. -/
def mismatched {α : Type} (cause : Mismatch) : Except Refusal α :=
  .error (.mismatch cause)

/-- Refuse a value because it does not fit. -/
def unfit {α : Type} (cause : Misfit) : Except Refusal α :=
  .error (.misfit cause)

end ChipEight.Monitor
