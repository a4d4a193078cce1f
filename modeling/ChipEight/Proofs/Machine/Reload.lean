import ChipEight.Proofs.Machine.FaultLedger
import ChipEight.Snapshot

/-!
# Loading a program erases the history

A load that succeeds leaves nothing of what the machine did before, except for its keys and the
position of its random source.  Two machines that agree on these are twins from the load on,
whatever they went through before it.

The position of a random source is not to be seen.  What counts is the sequence of bytes that are
still to come.  Observers stay registered, and what they have been told is not forgotten: one that
interrupts an operation decides what comes of it.
-/

namespace ChipEight

/-- Two random sources have the same bytes still to come. -/
def RandomSource.SameRest (first second : RandomSource) : Prop :=
  ∀ n, first.output (first.drawn + n) = second.output (second.drawn + n)

theorem RandomSource.SameRest.draw_snd {first second : RandomSource}
    (same : first.SameRest second) : first.draw.2.SameRest second.draw.2 := by
  intro n
  have next := same (1 + n)
  rw [← Nat.add_assoc, ← Nat.add_assoc] at next
  exact next

theorem agreeOnBytes_sameRest : AgreeOnBytes RandomSource.SameRest where
  byte := fun same => same 0
  rest := RandomSource.SameRest.draw_snd

/-- Random sources pass for the same if the same bytes are still to come. -/
def Likeness.upcoming : Likeness :=
  ⟨RandomSource.SameRest, Eq, agreeOnBytes_sameRest, agreeOnDraws_eq⟩

namespace Machine

variable {first second : Machine}

/-- A snapshot does not show the random source. -/
theorem Twins.snapshot (twins : Twins Likeness.upcoming first second) :
    first.snapshot = second.snapshot := by
  have ⟨_, _, memory, registers, stack, screen, keypad, timer, _, count, _⟩ := twins.similar
  have picture : first.screen = second.screen := screen
  rw [Machine.snapshot, Machine.snapshot, memory, registers, stack, picture, keypad, timer, count,
    twins.phase]

/-- A load that succeeds makes twins of machines with the same settings and keys and the same bytes
to come. -/
theorem restart_twins (settings : first.settings = second.settings)
    (keypad : first.keypad = second.keypad) (random : first.random.SameRest second.random)
    (memory : Memory 4096) (size : Nat) :
    Twins Likeness.upcoming (first.restart memory size) (second.restart memory size) where
  settings := settings
  similar :=
    { shift := congrArg Settings.shiftUsesVy settings, random := random, memory := rfl
      registers := rfl, stack := rfl, screen := rfl, keypad := keypad, timer := rfl
      romLoaded := rfl, instructionCount := rfl, lastOpcode := rfl }
  phase := rfl

/-- Twins with the same record of faults and the same audience stay so. -/
theorem Twins.run_answer (twins : Twins Likeness.upcoming first second)
    (reports : SameReports first second) (audience : SameAudience first second)
    (operations : List Operation) (operation : Operation) :
    (first.run operations).answer operation = (second.run operations).answer operation := by
  have together := @run_relates
    (fun first second =>
      Twins Likeness.upcoming first second ∧ SameReports first second ∧
        SameAudience first second)
    (fun _ _ operation ⟨twins, reports, audience⟩ =>
      ⟨twins.after operation, twins.after_reports reports operation,
        twins.after_audience reports audience operation⟩)
    first second ⟨twins, reports, audience⟩ operations
  obtain ⟨twins, reports, audience⟩ := together
  exact twins.answer reports audience fun _ => congrArg Screen.redraw twins.similar.screen

/-- Two machines with the same settings, the same held keys and key events and the same random bytes
to come load the same program, whatever else they hold.  From then on the same operations take them
through the same snapshots and give back the same, unless an observer of one machine interrupts an
operation at a fault, which both report.  Not even then do the answers differ if the machines had
the same observers, who had been told the same and react in the same way. -/
theorem reload_erases_history (first second : Machine) (settings : first.settings = second.settings)
    (held : first.keypad.held = second.keypad.held)
    (queue : first.keypad.queue = second.keypad.queue)
    (random : first.random.SameRest second.random) (rom : List UInt8)
    (fits : rom.length ≤ 3584) (operations : List Operation) :
    let left := (first.loadRom rom).1.run operations
    let right := (second.loadRom rom).1.run operations
    (first.loadRom rom).2 = .ok true ∧ (second.loadRom rom).2 = .ok true ∧
      left.snapshot = right.snapshot ∧
      (∀ operation, Concurs left right operation) ∧
      (SameAudience first second →
        ∀ operation, left.answer operation = right.answer operation) := by
  intro left right
  have keypad : first.keypad = second.keypad := by
    change (⟨first.keypad.held, first.keypad.queue⟩ : Keypad Key) = second.keypad
    rw [held, queue]
  obtain ⟨memory, loaded⟩ := first.memory.loadRom_of_le fits
  have firstLoaded := loadRom_of_ok loaded
  have secondLoaded : second.loadRom rom = (second.restart memory rom.length, .ok true) :=
    loadRom_of_ok loaded
  have start : Twins Likeness.upcoming (first.loadRom rom).1 (second.loadRom rom).1 := by
    rw [firstLoaded, secondLoaded]
    exact restart_twins settings keypad random memory rom.length
  have twins := start.run operations
  refine ⟨congrArg Prod.snd firstLoaded, congrArg Prod.snd secondLoaded, twins.snapshot, ?_, ?_⟩
  · exact twins.similar.concurs twins.phase (congrArg Screen.redraw twins.similar.screen)
  · intro audience
    refine start.run_answer ?_ ?_ operations
    · rw [firstLoaded, secondLoaded]
      exact ⟨rfl, rfl, rfl⟩
    · rw [firstLoaded, secondLoaded]
      exact { audience with }

/-- A machine that has halted at a fault, with three random bytes drawn, and a new one. -/
theorem reload_erases_history_halted :
    let settings : Settings := { policy := .known .halt }
    let used := (create settings ⟨UInt8.ofNat, 3⟩).after .cycle
    let new := create settings ⟨fun n => UInt8.ofNat (3 + n), 0⟩
    used.phase = .halted ∧ new.phase = .running ∧
      ((used.loadRom [0xC0, 0xFF]).1.run [.cycle, .tick]).snapshot =
        ((new.loadRom [0xC0, 0xFF]).1.run [.cycle, .tick]).snapshot := by
  intro settings used new
  have causes : (create settings ⟨UInt8.ofNat, 3⟩).drainKeys.cause? =
      some (.unmappedOpcode 0) := by
    decide +kernel
  obtain ⟨fetched, observers, deliveries, failed⟩ := fetchExecute_of_cause? causes
  have halted : used = _ := failed
  have sameRest : used.random.SameRest new.random := by
    rw [halted]
    intro n
    exact congrArg (fun place => UInt8.ofNat (3 + place)) (Nat.zero_add n).symm
  have reloaded := reload_erases_history used new (by rw [halted]; rfl) (by rw [halted]; rfl)
    (by rw [halted]; rfl) sameRest [0xC0, 0xFF] (by decide) [.cycle, .tick]
  exact ⟨by rw [halted]; rfl, rfl, reloaded.2.2.1⟩

/-- The cycle after a load is interrupted on one of two machines that differ in an observer only. -/
theorem reload_interrupted :
    let plain := create {} (RandomSource.cycling #[])
    let alarmed := (plain.subscribe ⟨"alarm"⟩).assign ⟨"alarm"⟩ fun _ registered =>
      ⟨registered, true⟩
    alarmed.settings = plain.settings ∧ alarmed.keypad = plain.keypad ∧
      alarmed.random = plain.random ∧
      (alarmed.loadRom [0x01, 0x23]).1.cycle.2 ≠ (plain.loadRom [0x01, 0x23]).1.cycle.2 := by
  intro plain alarmed
  obtain ⟨interrupted, finished⟩ :
      ((alarmed.loadRom [0x01, 0x23]).1.answer .cycle).Interrupted ∧
        ¬ ((plain.loadRom [0x01, 0x23]).1.answer .cycle).Interrupted := by
    decide +kernel
  exact ⟨rfl, rfl, rfl, cycle_snd_ne_of_interrupted interrupted finished⟩

end Machine

end ChipEight
