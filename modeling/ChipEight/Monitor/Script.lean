import ChipEight.Device.RandomSource
import ChipEight.Monitor.Operand

/-!
# Scripts of random numbers

Under the monitor random numbers are drawn from a list of values, over and over.  The values, and
the list itself, may be of any kind; that they are no numbers is found out by the draw.
-/

namespace ChipEight.Monitor

/-- Where random numbers are drawn from. -/
inductive Script where
  | values (list : Array Json)
  /-- A table with so many entries, none of them under a number. -/
  | table (size : Nat)
  /-- A value of a kind that has no length. -/
  | single (kind : String)

namespace Script

/-- The script that a value is.  What counts as false stands for zeros. -/
def ofJson (value : Json) : Script :=
  if value.truthy then
    match value, items? value with
    | .obj fields, _ => .table fields.length
    | _, some list => .values list.toArray
    | _, none => .single value.kindName
  else .values #[.int 0]

/-- The number of a draw. -/
def draw (script : Script) (n : Nat) : Except Refusal Int :=
  match script with
  | .values list => bits "&" (list[n % list.size]?.getD (.int 0))
  | .table size => .error (.noEntry (Json.int (n % size : Nat)).shown)
  | .single kind => mismatched (.noLength kind)

/-- The random source.  What is no number counts as zero. -/
def source : Script → RandomSource
  | .values list => RandomSource.cycling (list.map fun value => (whole? value).getD 0)
  | _ => RandomSource.cycling #[]

end Script

end ChipEight.Monitor
