import ChipEight.Text.Basic

/-!
# Lines

Text as lines.  Besides the new line, the line ends of other conventions count, and a carriage
return with a new line after it counts once.
-/

namespace ChipEight.Text

/-- The code points that end a line. -/
def lineEnds : List Nat :=
  [0x0a, 0x0b, 0x0c, 0x0d, 0x1c, 0x1d, 0x1e, 0x85, 0x2028, 0x2029]

/-- The lines of code points that follow those of an unfinished line, the last of which is given
first. -/
def linesFrom (unfinished : List CodePoint) : List CodePoint → List Text
  | [] => if unfinished.isEmpty then [] else [⟨unfinished.reverse⟩]
  | .char '\r' :: .char '\n' :: rest => ⟨unfinished.reverse⟩ :: linesFrom [] rest
  | point :: rest =>
      if lineEnds.contains point.toNat then ⟨unfinished.reverse⟩ :: linesFrom [] rest
      else linesFrom (point :: unfinished) rest

/-- The lines of a text, without their ends. -/
def lines (text : Text) : List Text :=
  linesFrom [] text.points

end ChipEight.Text
