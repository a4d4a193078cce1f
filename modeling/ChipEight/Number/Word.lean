/-!
# Words

Signed words of 64 bits: which integers fit into one, and what is left of one that does not.
-/

namespace ChipEight.Word

/-- The number of values of a word. -/
def modulus : Nat := 18446744073709551616

/-- The greatest word. -/
def greatest : Int := 9223372036854775807

/-- Whether an integer fits into a word. -/
def fits (n : Int) : Bool :=
  decide (-greatest - 1 ≤ n) && decide (n ≤ greatest)

/-- The word with the same low bits as an integer. -/
def wrap (n : Int) : Int :=
  n.bmod modulus

/-- What is said of an integer that does not fit where a number is meant. -/
def tooLarge : String := "Python int too large to convert to C long"

/-- What is said of an integer that does not fit where a position or a count is meant. -/
def noIndex : String := "cannot fit 'int' into an index-sized integer"

end ChipEight.Word
