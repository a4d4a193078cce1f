import ChipEight.Proofs.Machine.Similar
import ChipEight.Proofs.Screen.DeferredClear

/-!
# Programs do not notice that they are displayed

Whoever displays the screen takes its redraw flag down and may flush it.  Both change the grids and
the flag, but not the picture that the screen stands for, and of the screen a program learns only
whether a draw erases a pixel of that picture.  So a run goes the same way with these calls and
without them.
-/

namespace ChipEight

/-- Two screens stand for the same picture. -/
def Screen.SamePicture (first second : Screen 64 32) : Prop :=
  first.image = second.image

/-- Drawing and collisions depend on the picture, not on the grids behind it. -/
theorem agreeOnDraws_samePicture : AgreeOnDraws Screen.SamePicture where
  blank := rfl
  clear := fun _ => (Screen.image_blank _).trans (Screen.image_blank _).symm
  lower := fun same => same
  paint := by
    intro first second same x y sprite fits
    rw [Screen.SamePicture, Screen.image_draw _ _ (by decide) first x y fits,
      Screen.image_draw _ _ (by decide) second x y fits, same]
  collide := by
    intro first second same x y sprite fits
    rw [Bool.eq_iff_iff, Screen.draw_collides_iff_erases _ _ (by decide) first x y fits,
      Screen.draw_collides_iff_erases _ _ (by decide) second x y fits, same]

/-- Screens pass for the same if they stand for the same picture. -/
def Likeness.samePicture : Likeness :=
  ⟨Eq, Screen.SamePicture, agreeOnBytes_eq, agreeOnDraws_samePicture⟩

namespace Machine

/-- What happens to a machine whose screen is displayed: an operation, or a flush of its screen. -/
inductive Event where
  | perform (operation : Operation)
  | flush

/-- The machine after an event. -/
def afterEvent (machine : Machine) : Event → Machine
  | .perform operation => machine.after operation
  | .flush => { machine with screen := machine.screen.flush }

/-- The machine after a sequence of events. -/
def runEvents (machine : Machine) (events : List Event) : Machine :=
  events.foldl afterEvent machine

/-- The operation of an event, unless it only serves the display. -/
def Event.operation? : Event → Option Operation
  | .perform .takeRedraw => none
  | .perform operation => some operation
  | .flush => none

theorem Event.eq_perform_of_operation? {event : Event} {operation : Operation}
    (performs : event.operation? = some operation) : event = .perform operation := by
  cases event with
  | flush => cases performs
  | perform performed => cases performed <;> cases performs <;> rfl

/-- Flushing the screen and taking its flag down leave the picture alone. -/
theorem afterEvent_of_operation?_eq_none (machine : Machine) {event : Event}
    (displays : event.operation? = none) :
    ∃ screen : Screen 64 32, screen.image = machine.screen.image ∧
      machine.afterEvent event = { machine with screen := screen } := by
  cases event with
  | flush => exact ⟨machine.screen.flush, machine.screen.image_flush, rfl⟩
  | perform operation =>
      cases operation with
      | takeRedraw => exact ⟨machine.screen.takeRedraw.2, rfl, rfl⟩
      | _ => cases displays

/-- A machine whose screen is displayed beside one that runs on its own: they may differ in the
grids of the screen and in its redraw flag, but show the same picture. -/
structure Displayed (shown plain : Machine) : Prop where
  twins : Twins Likeness.samePicture shown plain
  reports : SameReports shown plain
  audience : SameAudience shown plain

theorem Displayed.refl (machine : Machine) : Displayed machine machine where
  twins := ⟨rfl, ⟨rfl, rfl, rfl, rfl, rfl, rfl, rfl, rfl, rfl, rfl, rfl⟩, rfl⟩
  reports := ⟨rfl, rfl, rfl⟩
  audience := ⟨rfl, rfl, rfl⟩

variable {shown plain : Machine}

theorem Displayed.after (displayed : Displayed shown plain) (operation : Operation) :
    Displayed (shown.after operation) (plain.after operation) where
  twins := displayed.twins.after operation
  reports := displayed.twins.after_reports displayed.reports operation
  audience := displayed.twins.after_audience displayed.reports displayed.audience operation

/-- An event that only serves the display moves one machine, and the other can stay where it is. -/
theorem Displayed.stay (displayed : Displayed shown plain) {event : Event}
    (displays : event.operation? = none) : Displayed (shown.afterEvent event) plain := by
  obtain ⟨screen, picture, moved⟩ := shown.afterEvent_of_operation?_eq_none displays
  have ⟨⟨settings, similar, phase⟩, reports, audience⟩ := displayed
  rw [moved]
  exact ⟨⟨settings, { similar with screen := picture.trans similar.screen }, phase⟩,
    { reports with }, { audience with }⟩

theorem Displayed.runEvents (displayed : Displayed shown plain) (events : List Event) :
    Displayed (shown.runEvents events) (plain.run (events.filterMap Event.operation?)) := by
  -- Both machines vary: an event that only serves the display takes one of them a step ahead.
  induction events generalizing shown plain with
  | nil => exact displayed
  | cons event rest ih =>
      cases performs : event.operation? with
      | none =>
          rw [List.filterMap_cons_none performs]
          exact ih (displayed.stay performs)
      | some operation =>
          rw [List.filterMap_cons_some performs, Event.eq_perform_of_operation? performs]
          exact ih (displayed.after operation)

/-- Flushing the screen and taking its redraw flag down, as often and whenever one likes, changes
nothing that the program computes with, nor the picture, nor what comes back from any other
operation. -/
theorem display_calls_unnoticed (machine : Machine) (events : List Event) :
    let shown := machine.runEvents events
    let plain := machine.run (events.filterMap Event.operation?)
    shown.registers = plain.registers ∧
      shown.stack = plain.stack ∧
      shown.memory = plain.memory ∧
      shown.timer = plain.timer ∧
      shown.keypad = plain.keypad ∧
      shown.random = plain.random ∧
      shown.phase = plain.phase ∧
      shown.instructionCount = plain.instructionCount ∧
      shown.faultCount = plain.faultCount ∧
      shown.screen.lit.without shown.screen.pending =
        plain.screen.lit.without plain.screen.pending ∧
      ∀ operation, operation ≠ .takeRedraw → shown.answer operation = plain.answer operation := by
  intro shown plain
  have ⟨twins, reports, audience⟩ : Displayed shown plain :=
    (Displayed.refl machine).runEvents events
  have ⟨_, similar, phase⟩ := twins
  refine ⟨similar.registers, similar.stack, similar.memory, similar.timer, similar.keypad,
    similar.random, phase, similar.instructionCount, reports.faultCount, similar.screen, ?_⟩
  intro operation other
  exact twins.answer reports audience fun takes => absurd takes other

end Machine

end ChipEight
