import ChipEight.Fault

/-!
# Call stack

A stack of return addresses that holds at most `limit` of them.
-/

namespace ChipEight

/-- Return addresses, the most recent first.  A limit below zero allows none. -/
structure CallStack (limit : Int) where
  frames : List UInt16
  bounded : frames.length ≤ limit.toNat
deriving DecidableEq

namespace CallStack

variable {limit : Int}

/-- The stack without return addresses. -/
def empty : CallStack limit :=
  ⟨[], Nat.zero_le _⟩

/-- The number of return addresses. -/
def depth (stack : CallStack limit) : Nat :=
  stack.frames.length

/-- Put a return address on top. -/
def push (stack : CallStack limit) (address : UInt16) : Except Fault.Cause (CallStack limit) :=
  if room : (stack.depth : Int) < limit then
    .ok ⟨address :: stack.frames, by
      have := stack.bounded
      simp only [depth] at room
      simp only [List.length_cons]
      omega⟩
  else .error (.stackOverflow (stack.depth + 1))

/-- Take the top return address away. -/
def pop (stack : CallStack limit) : Except Fault.Cause (UInt16 × CallStack limit) :=
  match stack with
  | ⟨[], _⟩ => .error .stackUnderflow
  | ⟨address :: rest, bounded⟩ =>
      .ok (address, ⟨rest, Nat.le_trans (Nat.le_succ _) bounded⟩)

/-- The top return address. -/
def peek? (stack : CallStack limit) : Option UInt16 :=
  stack.frames.head?

/-- The return addresses from the oldest to the most recent. -/
def toList (stack : CallStack limit) : List UInt16 :=
  stack.frames.reverse

end CallStack

end ChipEight
