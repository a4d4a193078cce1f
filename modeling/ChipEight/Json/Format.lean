import ChipEight.Json.Basic
import ChipEight.Number.Hexadecimal

/-!
# JSON values in hexadecimal

Integers and truth values can be written in hexadecimal; for other values this fails.
-/

namespace ChipEight.Json

/-- Why a value cannot be written in hexadecimal: it is a number or text of another kind, or it has
no formats at all. -/
inductive FormatError where
  | unknownCode (kind : String)
  | noFormats (kind : String)
deriving DecidableEq

/-- The error in words. -/
def FormatError.message : FormatError → String
  | .unknownCode kind => s!"Unknown format code 'X' for object of type '{kind}'"
  | .noFormats kind => s!"unsupported format string passed to {kind}.__format__"

/-- A value in at least `width` hexadecimal digits. -/
def hexadecimal (width : Nat) : Json → Except FormatError String
  | .int n => .ok (Hexadecimal.padded width n)
  | .bool value => .ok (Hexadecimal.padded width value.toNat)
  | .float x => .error (.unknownCode (kindName (.float x)))
  | .str text => .error (.unknownCode (kindName (.str text)))
  | value => .error (.noFormats value.kindName)

end ChipEight.Json
