import ChipEight.Number.Binary64
import ChipEight.Number.Word

/-!
# Extents

How large a memory or a grid can be made.  Sizes have to fit into words, must not be negative, and
there has to be room for what they ask for.  How much room there is depends on the computer.
-/

namespace ChipEight.Extent

/-- Why a memory or a grid of a size cannot be made. -/
inductive Failure where
  | beyondWord
  | negativeCount
  | noRoom
  | beyondDimension
  | negativeDimension
  | tooManyCells
  | noRoomForGrid (height width : Nat)
deriving DecidableEq

/-! ## Quantities of bytes -/

/-- The units in which quantities of bytes are given, each 1024 times the one before. -/
def units : List String :=
  ["bytes", "KiB", "MiB", "GiB", "TiB", "PiB", "EiB"]

/-- Hundredths, tenths or ones, with as many places after the point. -/
def fixed (places n : Nat) : String :=
  match places with
  | 2 => s!"{n / 100}.{n / 10 % 10}{n % 10}"
  | 1 => s!"{n / 10}.{n % 10}"
  | _ => s!"{n}."

/-- A quotient in three digits. -/
def threeDigits (num den : Nat) : String :=
  if roundHalfEven (100 * num) den < 1000 then fixed 2 (roundHalfEven (100 * num) den)
  else if roundHalfEven (10 * num) den < 1000 then fixed 1 (roundHalfEven (10 * num) den)
  else fixed 0 (roundHalfEven num den)

/-- A large quantity of bytes in the greatest unit that fits. -/
def quantity (bytes : Nat) : String :=
  let first := bytes.log2 / 10
  let rank :=
    if roundHalfEven bytes (Nat.pow 1024 first) = 1024 then first + 1 else first
  threeDigits bytes (Nat.pow 1024 rank) ++ " " ++ (units[rank]?.getD "")

/-! ## Checks -/

/-- The failure in words. -/
def Failure.message : Failure → String
  | .beyondWord => Word.noIndex
  | .negativeCount => "negative count"
  | .noRoom => ""
  | .beyondDimension => "Maximum allowed dimension exceeded"
  | .negativeDimension => "negative dimensions are not allowed"
  | .tooManyCells =>
      "array is too big; `arr.size * arr.dtype.itemsize` is larger than the maximum possible size."
  | .noRoomForGrid height width =>
      s!"Unable to allocate {quantity (height * width)} for an array with shape " ++
        s!"({height}, {width}) and data type bool"

/-- The number of bytes of a memory, with room for so many. -/
def ofMemory (room : Nat) (size : Int) : Except Failure Nat :=
  if !Word.fits size then .error .beyondWord
  else if size < 0 then .error .negativeCount
  else if (room : Int) < size then .error .noRoom
  else .ok size.toNat

/-- The numbers of columns and rows of a grid, with room for so many cells. -/
def ofGrid (room : Nat) (width height : Int) : Except Failure (Nat × Nat) :=
  if !Word.fits height || !Word.fits width then .error .beyondDimension
  else if height < 0 ∨ width < 0 then .error .negativeDimension
  else if Word.greatest < height * width then .error .tooManyCells
  else if (room : Int) < height * width then .error (.noRoomForGrid height.toNat width.toNat)
  else .ok (width.toNat, height.toNat)

end ChipEight.Extent
