import ChipEight.Files.Tree
import ChipEight.Monitor.Operand

/-!
# Payloads, arguments and files under the monitor

Bytes are given as a text of hexadecimal digits, or as one byte that is repeated.  Arguments of a
command line are given as values.  Files are given by their names, each with its bytes, with its
text, or as a directory.
-/

namespace ChipEight.Monitor

/-! ## Payloads -/

/-- The bytes that a text of hexadecimal digits stands for.  A character that is not ASCII is found
before any other that is no digit. -/
def hexBytes (value : Json) : Except Refusal (List UInt8) :=
  match value with
  | .str text =>
      match text.points.findIdx? fun point => decide (128 ≤ point.toNat) with
      | some place => unfit (.noHexDigit place)
      | none =>
          (Hexadecimal.undump text.display.toList).mapError fun place =>
            .misfit (.noHexDigit place)
  | _ => mismatched (.noHexText value.kindName)

/-- The length of a payload that is repeated; a negative count gives none. -/
def repetitions (room : Nat) (value : Json) : Except Refusal Nat := do
  let count ← wholeOr (.noRepetition value.kindName) value
  if count < 0 && Word.fits count then return 0
  else (Extent.ofMemory room count).mapError .extent

/-- The bytes of a pair of a byte and a count. -/
def filled (room : Nat) (value : Json) : Except Refusal (List UInt8) := do
  let (given, count) ← pair value
  let byte ← integer given
  if byte < 0 ∨ 255 < byte then unfit .noPayloadByte
  else
    let length ← repetitions room count
    return List.replicate length (UInt8.ofInt byte)

/-- The bytes that come with a request. -/
def payload (room : Nat) (request : Json) : Except Refusal (List UInt8) := do
  if ← hasField request "fill" then filled room (← part request "fill")
  else hexBytes (← part request "hex")

/-- The bytes that come with a request, if it brings any. -/
def payload? (room : Nat) (request : Json) : Except Refusal (Option (List UInt8)) := do
  if (← hasField request "fill") || (← hasField request "hex") then
    return some (← payload room request)
  else return none

/-! ## Arguments -/

/-- The text of an argument of a command line.  Whether an argument is an option is seen from its
first character, which a number does not have. -/
def argument (value : Json) : Except Refusal Text :=
  if value.truthy && (items? value).isNone then mismatched (.noParts value.kindName)
  else .ok value.plainText

/-! ## Files -/

/-- The bytes of a text file. -/
def textBytes (value : Json) : Except Refusal (List UInt8) :=
  match value with
  | .str text => (Utf8.encode text).mapError fun failure => .file (.unencodable failure)
  | _ => mismatched (.noText value.kindName)

/-- The contents of a file. -/
def fileBytes (room : Nat) (contents : Json) : Except Refusal (List UInt8) := do
  if ← hasField contents "text" then textBytes (← part contents "text")
  else payload room contents

/-- Put a file or a directory into a tree.  Whether there can be such a file is found out before its
contents are looked at. -/
def addFile (room : Nat) (tree : FileTree) (path : Text) (contents : Json) :
    Except Refusal FileTree :=
  match contents with
  | .str ⟨[.char 'd', .char 'i', .char 'r']⟩ => (tree.makeDirectory path).mapError .file
  | _ => do
      let _ ← (tree.writable path).mapError .file
      let bytes ← fileBytes room contents
      (tree.write path bytes).mapError .file

/-- The tree of the files that are given, one after the other. -/
def fileTree (room : Nat) (files : Json) : Except Refusal FileTree :=
  match files with
  | .obj fields => fields.foldlM (fun tree field => addFile room tree field.1 field.2) ⟨[]⟩
  | _ => .error (.noField files.kindName "items")

end ChipEight.Monitor
