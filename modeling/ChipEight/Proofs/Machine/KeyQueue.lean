import ChipEight.Proofs.Machine.KeyWait
import ChipEight.Proofs.Machine.Unseen

/-!
# The key queue of a machine

A cycle drains the queue by letting one event after the other take effect.  So it does not matter
whether events have been queued before the cycle or have taken effect at once before it, and
draining can be taken up again after a part of the queue has been drained.
-/

namespace ChipEight.Machine

open Keypad

variable {machine : Machine}

/-- The machine after key events have taken effect one by one. -/
def applyKeys (machine : Machine) (events : List (KeyEvent Key)) : Machine :=
  events.foldl (fun machine event => (machine.applyKey event).1) machine

/-- The machine with another key queue. -/
def withQueue (machine : Machine) (queue : List (KeyEvent Key)) : Machine :=
  { machine with keypad := { machine.keypad with queue := queue } }

theorem applyKeys_cons (machine : Machine) (event : KeyEvent Key) (rest : List (KeyEvent Key)) :
    machine.applyKeys (event :: rest) = (machine.applyKey event).1.applyKeys rest :=
  rfl

theorem applyKeys_append (machine : Machine) (earlier later : List (KeyEvent Key)) :
    machine.applyKeys (earlier ++ later) = (machine.applyKeys earlier).applyKeys later :=
  List.foldl_append

/-- An event touches the held keys, and it is noted if it changes them. -/
theorem applyKey_fst_eq (machine : Machine) (event : KeyEvent Key) :
    (machine.applyKey event).1 =
      { machine with
        keypad := machine.keypad.apply event
        journal :=
          (if machine.keypad.changes event then [.keyChanged event] else []) ++
            machine.journal } := by
  unfold applyKey
  split
  · rfl
  · rename_i unchanged
    rw [Keypad.apply, if_neg unchanged]
    rfl

theorem applyKeys_eq (machine : Machine) (events : List (KeyEvent Key)) :
    machine.applyKeys events =
      { machine with
        keypad := (machine.keypad.applyAll events).1
        journal :=
          (machine.keypad.applyAll events).2.reverse.map Notice.keyChanged ++
            machine.journal } := by
  induction events generalizing machine with
  | nil => rfl
  | cons event rest ih =>
      rw [applyKeys_cons, ih, applyKey_fst_eq, applyAll_cons_snd]
      by_cases changes : machine.keypad.changes event = true
      · simp only [if_pos changes, List.reverse_cons, List.map_append, List.append_assoc]
        rfl
      · simp only [if_neg changes, List.nil_append]
        rfl

/-- Draining the queue lets its events take effect one by one. -/
theorem drainKeys_eq_applyKeys (machine : Machine) :
    machine.drainKeys = (machine.withQueue []).applyKeys machine.keypad.queue := by
  rw [applyKeys_eq]
  rfl

theorem applyKey_withQueue (machine : Machine) (event : KeyEvent Key)
    (queue : List (KeyEvent Key)) :
    ((machine.withQueue queue).applyKey event).1 = (machine.applyKey event).1.withQueue queue := by
  unfold applyKey Keypad.apply
  have same : (machine.withQueue queue).keypad.changes event = machine.keypad.changes event := rfl
  rw [same]
  split
  · split <;> rfl
  · rfl

theorem applyKey_queue (machine : Machine) (event : KeyEvent Key) :
    (machine.applyKey event).1.keypad.queue = machine.keypad.queue := by
  rw [applyKey_fst_eq]
  exact machine.keypad.apply_queue event

theorem withQueue_self {queue : List (KeyEvent Key)} (same : machine.keypad.queue = queue) :
    machine.withQueue queue = machine := by
  rw [← same]
  rfl

/-- An event that is queued last takes effect last. -/
theorem drainKeys_queueKey (machine : Machine) (event : KeyEvent Key) :
    (machine.queueKey event).drainKeys = (machine.drainKeys.applyKey event).1 := by
  rw [drainKeys_eq_applyKeys, drainKeys_eq_applyKeys]
  exact (machine.withQueue []).applyKeys_append machine.keypad.queue [event]

/-- Draining goes on where it was left after the first event. -/
theorem drainKeys_of_queue_eq_cons {event : KeyEvent Key} {rest : List (KeyEvent Key)}
    (queued : machine.keypad.queue = event :: rest) :
    ((machine.withQueue rest).applyKey event).1.drainKeys = machine.drainKeys := by
  rw [drainKeys_eq_applyKeys, drainKeys_eq_applyKeys, applyKey_queue, queued, applyKeys_cons,
    ← applyKey_withQueue]
  rfl

theorem drainKeys_of_queue_eq_nil (empty : machine.keypad.queue = []) :
    machine.drainKeys = machine := by
  rw [drainKeys_eq_applyKeys, withQueue_self empty, empty]
  rfl

/-! ## Queued keys and keys set at once -/

/-- The events that are meant by codes; a code that names no key means none. -/
def meantEvents (inputs : List (Int × Bool)) : List (KeyEvent Key) :=
  inputs.filterMap fun input => (Key.ofCode input.1).toOption.map (⟨·, input.2⟩)

/-- Queue an event for each of some codes. -/
def postings (inputs : List (Int × Bool)) : List Operation :=
  inputs.map fun input => .postKey input.1 input.2

/-- Let each of some codes take effect at once. -/
def strokes (inputs : List (Int × Bool)) : List Operation :=
  inputs.map fun input => .setKey input.1 input.2

theorem meantEvents_cons_of_ok {input : Int × Bool} {key : Key}
    (named : Key.ofCode input.1 = .ok key) (rest : List (Int × Bool)) :
    meantEvents (input :: rest) = ⟨key, input.2⟩ :: meantEvents rest := by
  simp only [meantEvents, List.filterMap_cons, named, Except.toOption, Option.map_some]

theorem meantEvents_cons_of_error {input : Int × Bool} {failure : KeyError}
    (unnamed : Key.ofCode input.1 = .error failure) (rest : List (Int × Bool)) :
    meantEvents (input :: rest) = meantEvents rest := by
  simp only [meantEvents, List.filterMap_cons, unnamed, Except.toOption, Option.map_none]

theorem run_postings (machine : Machine) (inputs : List (Int × Bool)) :
    machine.run (postings inputs) =
      machine.withQueue (machine.keypad.queue ++ meantEvents inputs) := by
  induction inputs generalizing machine with
  | nil =>
      rw [meantEvents, List.filterMap_nil, List.append_nil]
      rfl
  | cons input rest ih =>
      rw [postings, List.map_cons, run_cons]
      refine (ih _).trans ?_
      rw [after, postKey]
      cases named : Key.ofCode input.1 with
      | ok key =>
          change withQueue _ ((machine.keypad.queue ++ [⟨key, input.2⟩]) ++ _) = _
          rw [List.append_assoc, meantEvents_cons_of_ok named]
          rfl
      | error failure =>
          rw [meantEvents_cons_of_error named]

theorem run_strokes (machine : Machine) (inputs : List (Int × Bool)) :
    machine.run (strokes inputs) = machine.applyKeys (meantEvents inputs) := by
  induction inputs generalizing machine with
  | nil => rfl
  | cons input rest ih =>
      rw [strokes, List.map_cons, run_cons]
      refine (ih _).trans ?_
      rw [after, setKey]
      cases named : Key.ofCode input.1 with
      | ok key =>
          rw [meantEvents_cons_of_ok named]
          rfl
      | error failure =>
          rw [meantEvents_cons_of_error named]

/-- With an empty queue it comes to the same whether key events are queued before a cycle or take
effect at once. -/
theorem cycle_of_postings (empty : machine.keypad.queue = []) (inputs : List (Int × Bool)) :
    (machine.run (postings inputs)).cycle = (machine.run (strokes inputs)).cycle := by
  have unqueued : (machine.applyKeys (meantEvents inputs)).keypad.queue = [] := by
    rw [applyKeys_eq, ← empty]
    exact machine.keypad.applyAll_queue _
  have drained : (machine.run (postings inputs)).drainKeys =
      (machine.run (strokes inputs)).drainKeys := by
    rw [run_postings, run_strokes, drainKeys_of_queue_eq_nil unqueued, empty,
      drainKeys_eq_applyKeys]
    exact congrArg (applyKeys · (meantEvents inputs)) (withQueue_self empty)
  rw [cycle, cycle, drained]

end ChipEight.Machine
