import ChipEight.Machine.Execute
import ChipEight.Proofs.Memory

/-!
# Running actions

An action gives a result together with the machine after it, and a sequence of actions hands the
machine on from one to the next.  A sequence ends at the first failure and keeps the machine of
that moment, so nothing here restores what an earlier action has changed.

Actions that only look at the machine or change it in one go are read off their definitions.  The
four that may fail are characterised by the range or the stack that they check.
-/

namespace ChipEight

namespace CallStack

variable {limit : Int}

/-- The top return address; zero if there is none. -/
def top (stack : CallStack limit) : UInt16 :=
  stack.frames.headD 0

/-- The stack below the top return address. -/
def below (stack : CallStack limit) : CallStack limit :=
  ⟨stack.frames.tail, by
    have bounded := stack.bounded
    rw [List.length_tail]
    omega⟩

/-- The stack with a return address on top, if there is room for it. -/
def above (stack : CallStack limit) (address : UInt16) : CallStack limit :=
  if room : stack.frames.length < limit.toNat then ⟨address :: stack.frames, room⟩ else stack

theorem push_of_lt (stack : CallStack limit) (address : UInt16)
    (room : (stack.depth : Int) < limit) :
    stack.push address = .ok (stack.above address) := by
  have fits : stack.frames.length < limit.toNat := by
    simp only [depth] at room
    omega
  rw [push, dif_pos room, above, dif_pos fits]

theorem push_of_le (stack : CallStack limit) (address : UInt16)
    (full : limit ≤ (stack.depth : Int)) :
    stack.push address = .error (.stackOverflow (stack.depth + 1)) := by
  rw [push, dif_neg (Int.not_lt.mpr full)]

theorem pop_of_ne_zero (stack : CallStack limit) (held : stack.depth ≠ 0) :
    stack.pop = .ok (stack.top, stack.below) := by
  rcases stack with ⟨frames, bounded⟩
  cases frames with
  | nil => exact absurd rfl held
  | cons address rest => rfl

theorem pop_of_eq_zero (stack : CallStack limit) (empty : stack.depth = 0) :
    stack.pop = .error .stackUnderflow := by
  rcases stack with ⟨frames, bounded⟩
  cases frames with
  | nil => rfl
  | cons address rest => exact absurd empty (Nat.succ_ne_zero rest.length)

end CallStack

namespace Machine.Action

variable {α β : Type}

/-! ## Sequences -/

@[simp]
theorem on_lift (result : Except Fault.Cause α) (machine : Machine) :
    (liftM result : Action α).on machine = (result, machine) :=
  rfl

@[simp]
theorem on_get (machine : Machine) :
    (get : Action Machine).on machine = (.ok machine, machine) :=
  rfl

/-- The second action starts on the machine that the first one leaves. -/
theorem on_bind_of_ok {first : Action α} {machine after : Machine} {value : α}
    (ran : first.on machine = (.ok value, after)) (next : α → Action β) :
    (first >>= next).on machine = (next value).on after := by
  simp only [on, bind, ExceptT.bind, ExceptT.run, ExceptT.mk, StateT.bind, StateT.run, Id.run]
    at ran ⊢
  rw [ran]
  rfl

/-- A failure ends the sequence, with the machine that the failed action leaves. -/
theorem on_bind_of_error {first : Action α} {machine after : Machine} {cause : Fault.Cause}
    (ran : first.on machine = (.error cause, after)) (next : α → Action β) :
    (first >>= next).on machine = (.error cause, after) := by
  simp only [on, bind, ExceptT.bind, ExceptT.run, ExceptT.mk, StateT.bind, StateT.run, Id.run]
    at ran ⊢
  rw [ran]
  rfl

theorem on_readV (x : Fin 16) (machine : Machine) :
    (readV x).on machine = (.ok (machine.v x), machine) :=
  rfl

theorem on_get_bind (next : Machine → Action β) (machine : Machine) :
    (get >>= next).on machine = (next machine).on machine :=
  on_bind_of_ok (on_get machine) next

theorem on_lift_bind_of_ok {result : Except Fault.Cause α} {value : α}
    (succeeds : result = .ok value) (next : α → Action β) (machine : Machine) :
    (liftM result >>= next : Action β).on machine = (next value).on machine := by
  subst result
  exact on_bind_of_ok (on_lift _ machine) next

theorem on_lift_bind_of_error {result : Except Fault.Cause α} {cause : Fault.Cause}
    (fails : result = .error cause) (next : α → Action β) (machine : Machine) :
    (liftM result >>= next : Action β).on machine = (.error cause, machine) := by
  subst result
  exact on_bind_of_error (on_lift _ machine) next

end Machine.Action

end ChipEight
