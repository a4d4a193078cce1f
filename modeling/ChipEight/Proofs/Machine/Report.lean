import ChipEight.Machine.Cycle

/-!
# Reports of faults

A fault changes a machine in three steps.  The policy settles the program counter and the phase, the
fault is counted and noted, and then the observers are told.  The first two steps are collected in
`struck`; the third touches nothing but the registrations and the deliveries, and what comes of it
is the `Telling`.

That a fault was reported between two moments is read off the journal: one of the notices added
since then is about it.
-/

namespace ChipEight

theorem toNat_add_two {address : UInt16} (room : address.toNat < 65534) :
    (address + 2).toNat = address.toNat + 2 := by
  have two : (2 : UInt16).toNat = 2 := rfl
  rw [UInt16.toNat_add, two]
  exact Nat.mod_eq_of_lt (by omega)

namespace FaultPolicy

/-- Where a machine goes on after a fault in the cycle that began at `pc`. -/
def resume (policy : FaultPolicy) (pc : UInt16) (fetching : Bool) : UInt16 :=
  if policy = .skip ∧ fetching = false then pc + 2 else pc

/-- The phase of a machine after a fault. -/
def phaseAfter (policy : FaultPolicy) (phase : Phase) : Phase :=
  if policy = .halt then .halted else phase

/-- What is noted before the fault itself. -/
def haltNotices (policy : FaultPolicy) (pc : UInt16) : List Notice :=
  if policy = .halt then [.halted pc.toNat] else []

end FaultPolicy

/-- Whether a notice says that a fault arose, for the first time or again. -/
def Notice.Announces (notice : Notice) (fault : Fault) : Prop :=
  notice = .faulted fault ∨ notice = .faultRepeated fault

/-- What comes of telling observers of a fault: who is registered afterwards, what has been
delivered and who interrupted, if someone did. -/
structure Telling where
  registered : List Observer
  deliveries : List Delivery
  interruption? : Option Interruption

/-- What an operation that has reported a fault gives back. -/
def Telling.answer {α : Type} (telling : Telling) (value : α) : Except Interruption α :=
  match telling.interruption? with
  | none => .ok value
  | some interruption => .error interruption

/-- Two reports give back the same, unless someone interrupts one of them. -/
theorem Telling.answer_eq_or_error {α : Type} (first second : Telling) (value : α) :
    first.answer value = second.answer value ∨
      (∃ interruption, first.answer value = .error interruption) ∨
        ∃ interruption, second.answer value = .error interruption := by
  unfold answer
  cases first.interruption? with
  | some interruption => exact .inr (.inl ⟨interruption, rfl⟩)
  | none =>
      cases second.interruption? with
      | some interruption => exact .inr (.inr ⟨interruption, rfl⟩)
      | none => exact .inl rfl

namespace Conduct

/-- Tell listeners of a fault, one after the other.  After one who interrupts nobody is told. -/
def tell (conduct : Conduct) (delivery : Observer → Delivery) (registered : List Observer)
    (deliveries : List Delivery) : List Observer → Telling
  | [] => ⟨registered, deliveries, none⟩
  | listener :: rest =>
      let reaction := conduct listener (delivery listener :: deliveries) registered
      if reaction.interrupts then
        ⟨reaction.registered, delivery listener :: deliveries, some ⟨listener⟩⟩
      else conduct.tell delivery reaction.registered (delivery listener :: deliveries) rest

/-- Who interrupts a report is one of those who are told. -/
theorem mem_of_interruption?_tell {conduct : Conduct} {delivery : Observer → Delivery}
    {registered listeners : List Observer} {deliveries : List Delivery}
    {interruption : Interruption}
    (interrupted : (conduct.tell delivery registered deliveries listeners).interruption? =
      some interruption) : interruption.observer ∈ listeners := by
  induction listeners generalizing registered deliveries with
  | nil => cases interrupted
  | cons listener rest ih =>
      rw [tell] at interrupted
      split at interrupted
      · cases interrupted
        exact List.mem_cons_self
      · exact List.mem_cons_of_mem listener (ih interrupted)

/-- A circle of observers who never interrupt.  As long as only they are registered, they register
nobody else. -/
structure Calm (conduct : Conduct) (circle : Observer → Prop) : Prop where
  patient : ∀ observer, circle observer → ∀ deliveries registered,
    (conduct observer deliveries registered).interrupts = false
  closed : ∀ observer, circle observer → ∀ deliveries registered,
    (∀ member ∈ registered, circle member) →
      ∀ member ∈ (conduct observer deliveries registered).registered, circle member

/-- Those of a calm circle hear of a fault to the last one and stay among themselves. -/
theorem Calm.tell {conduct : Conduct} {circle : Observer → Prop} (calm : conduct.Calm circle)
    (delivery : Observer → Delivery) {registered listeners : List Observer}
    (inside : ∀ member ∈ registered, circle member)
    (listening : ∀ listener ∈ listeners, circle listener) (deliveries : List Delivery) :
    (conduct.tell delivery registered deliveries listeners).interruption? = none ∧
      ∀ member ∈ (conduct.tell delivery registered deliveries listeners).registered,
        circle member := by
  induction listeners generalizing registered deliveries with
  | nil => exact ⟨rfl, inside⟩
  | cons listener rest ih =>
      obtain ⟨member, others⟩ := List.forall_mem_cons.mp listening
      have silent := calm.patient listener member (delivery listener :: deliveries) registered
      have closed := calm.closed listener member (delivery listener :: deliveries) registered inside
      simp only [Conduct.tell, silent, Bool.false_eq_true, if_false]
      exact ih closed others _

end Conduct

namespace Machine

/-- A fault is reported between two moments: a notice about it has been added to the journal. -/
def Reports (before after : Machine) (fault : Fault) : Prop :=
  ∃ notices, after.journal = notices ++ before.journal ∧
    ∃ notice ∈ notices, notice.Announces fault

/-- What was reported is in the notices that were added. -/
theorem reports_iff {before after : Machine} {notices : List Notice}
    (added : after.journal = notices ++ before.journal) (fault : Fault) :
    before.Reports after fault ↔ ∃ notice ∈ notices, notice.Announces fault := by
  constructor
  · rintro ⟨others, extended, announced⟩
    rw [added] at extended
    rwa [List.append_cancel_right extended]
  · intro announced
    exact ⟨notices, added, announced⟩

/-- The notice of a fault: a warning, unless the last warning was about the same. -/
def noticeOf (machine : Machine) (fault : Fault) : Notice :=
  if machine.lastWarned = some (fault.kind, fault.pc) then .faultRepeated fault
  else .faulted fault

/-- The machine after a fault in the cycle that began at `pc`, before anyone is told of it. -/
def struck (machine : Machine) (cause : Fault.Cause) (pc : UInt16) (fetching : Bool) : Machine :=
  { machine with
    registers :=
      { machine.registers with pc := machine.settings.faultPolicy.resume pc fetching }
    phase := machine.settings.faultPolicy.phaseAfter machine.phase
    faultCount := machine.faultCount + 1
    lastFault := some ⟨cause, some pc.toNat⟩
    lastWarned := some (cause.kind, some pc.toNat)
    journal :=
      machine.noticeOf ⟨cause, some pc.toNat⟩ ::
        (machine.settings.faultPolicy.haltNotices pc ++ machine.journal) }

/-- What is delivered to an observer who is told of a fault. -/
def deliveryOf (machine : Machine) (fault : Fault) (observer : Observer) : Delivery :=
  ⟨observer, fault, machine.registers.pc, machine.phase, machine.faultCount⟩

/-- What comes of telling everyone who is registered of a fault. -/
def told (machine : Machine) (fault : Fault) : Telling :=
  machine.conduct.tell (machine.deliveryOf fault) machine.observers machine.deliveries
    machine.observers

/-- Nobody who is registered, now or after any report, interrupts. -/
def Patient (machine : Machine) : Prop :=
  ∃ circle : Observer → Prop, machine.conduct.Calm circle ∧
    ∀ observer ∈ machine.observers, circle observer

theorem noticeOf_announces_iff (machine : Machine) (fault reported : Fault) :
    (machine.noticeOf fault).Announces reported ↔ reported = fault := by
  unfold noticeOf Notice.Announces
  split <;> simp [eq_comm]

/-! ## The steps of a fault -/

/-- The addition of the policy that skips does not overflow where an instruction was fetched. -/
theorem resume_toNat (policy : FaultPolicy) (pc : UInt16) (fetching : Bool)
    (within : fetching = false → pc.toNat ≤ lastFetch) :
    (policy.resume pc fetching).toNat =
      if policy = .skip ∧ fetching = false then pc.toNat + 2 else pc.toNat := by
  unfold FaultPolicy.resume
  split
  · rename_i skips
    have bound := within skips.2
    simp only [lastFetch] at bound
    exact toNat_add_two (by omega)
  · rfl

theorem settle_eq (machine : Machine) (pc : UInt16) (fetching : Bool) :
    machine.settle pc fetching =
      { machine with
        registers :=
          { machine.registers with pc := machine.settings.faultPolicy.resume pc fetching }
        phase := machine.settings.faultPolicy.phaseAfter machine.phase
        journal := machine.settings.faultPolicy.haltNotices pc ++ machine.journal } := by
  unfold settle
  cases machine.settings.faultPolicy with
  | freeze => rfl
  | skip => cases fetching <;> rfl
  | halt => rfl

theorem record_eq (machine : Machine) (fault : Fault) :
    machine.record fault =
      { machine with
        faultCount := machine.faultCount + 1
        lastFault := some fault
        lastWarned := some (fault.kind, fault.pc)
        journal := machine.noticeOf fault :: machine.journal } := by
  simp only [record, noticeOf]
  by_cases repeated : machine.lastWarned = some (fault.kind, fault.pc)
  · rw [if_pos repeated, if_pos repeated, ← repeated]
    rfl
  · rw [if_neg repeated, if_neg repeated]
    rfl

/-- Observers change who is registered and what has been delivered, and nothing else. -/
theorem notify_eq (machine : Machine) (fault : Fault) (listeners : List Observer) :
    let telling := machine.conduct.tell (machine.deliveryOf fault) machine.observers
      machine.deliveries listeners
    machine.notify fault listeners =
      ({ machine with observers := telling.registered, deliveries := telling.deliveries },
        telling.interruption?) := by
  intro telling
  induction listeners generalizing machine with
  | nil => rfl
  | cons listener rest ih =>
      by_cases interrupts : (machine.conduct listener (machine.deliveryOf fault listener ::
          machine.deliveries) machine.observers).interrupts = true
      · simp only [telling, Conduct.tell, if_pos interrupts]
        exact if_pos interrupts
      · simp only [telling, Conduct.tell, if_neg interrupts]
        exact (if_neg interrupts).trans (ih _)

theorem report_eq (machine : Machine) (fault : Fault) :
    machine.report fault =
      ({ machine.record fault with
          observers := ((machine.record fault).told fault).registered
          deliveries := ((machine.record fault).told fault).deliveries },
        ((machine.record fault).told fault).interruption?) := by
  have registered : (machine.record fault).observers = machine.observers := by
    rw [record_eq]
  rw [report, ← registered]
  exact (machine.record fault).notify_eq fault (machine.record fault).observers

/-- A cycle that fails ends with a report, and comes to its end if nobody interrupts that. -/
theorem fail_report (machine : Machine) (cause : Fault.Cause) (pc : UInt16)
    (fetched : Option Opcode) :
    let reported := (machine.settle pc fetched.isNone).report ⟨cause, some pc.toNat⟩
    (machine.fail cause pc fetched).1 = reported.1 ∧
      (reported.2 = none ∨
        ∃ interruption, (machine.fail cause pc fetched).2 = .error interruption) := by
  simp only [fail]
  rcases (machine.settle pc fetched.isNone).report ⟨cause, some pc.toNat⟩ with
    ⟨after, interruption | interruption⟩
  · exact ⟨rfl, .inl rfl⟩
  · exact ⟨rfl, .inr ⟨interruption, rfl⟩⟩

/-- The whole effect of a fault in a cycle. -/
theorem fail_eq (machine : Machine) (cause : Fault.Cause) (pc : UInt16)
    (fetched : Option Opcode) :
    let struck := machine.struck cause pc fetched.isNone
    let telling := struck.told ⟨cause, some pc.toNat⟩
    machine.fail cause pc fetched =
      ({ struck with observers := telling.registered, deliveries := telling.deliveries },
        telling.answer fetched) := by
  intro struck telling
  have reported : (machine.settle pc fetched.isNone).report ⟨cause, some pc.toNat⟩ =
      ({ struck with observers := telling.registered, deliveries := telling.deliveries },
        telling.interruption?) := by
    rw [report_eq, record_eq, settle_eq]
    rfl
  rw [fail, reported, Telling.answer]
  cases telling.interruption? <;> rfl

theorem fail_fst (machine : Machine) (cause : Fault.Cause) (pc : UInt16)
    (fetched : Option Opcode) :
    ∃ observers deliveries, (machine.fail cause pc fetched).1 =
      { machine.struck cause pc fetched.isNone with
        observers := observers, deliveries := deliveries } :=
  ⟨_, _, congrArg Prod.fst (machine.fail_eq cause pc fetched)⟩

/-! ## Observers that do not interrupt -/

theorem patient_of_unobserved {machine : Machine} (unobserved : machine.observers = []) :
    machine.Patient := by
  refine ⟨fun _ => False, ⟨fun _ => False.elim, fun _ => False.elim⟩, ?_⟩
  rw [unobserved]
  exact List.forall_mem_nil _

/-- Patience is a matter of who is registered and of how observers react. -/
theorem Patient.congr {first second : Machine} (patient : first.Patient)
    (conduct : second.conduct = first.conduct) (observers : second.observers = first.observers) :
    second.Patient := by
  obtain ⟨circle, calm, inside⟩ := patient
  exact ⟨circle, conduct ▸ calm, observers ▸ inside⟩

/-- After a report to patient observers those who are left are patient, too. -/
theorem Patient.told {machine : Machine} (patient : machine.Patient) (fault : Fault) :
    (machine.told fault).interruption? = none ∧
      ({ machine with
          observers := (machine.told fault).registered
          deliveries := (machine.told fault).deliveries } : Machine).Patient := by
  obtain ⟨circle, calm, inside⟩ := patient
  have ⟨silent, within⟩ := calm.tell (machine.deliveryOf fault) inside inside machine.deliveries
  exact ⟨silent, circle, calm, within⟩

theorem Patient.answer_told {α : Type} {machine : Machine} (patient : machine.Patient)
    (fault : Fault) (value : α) : (machine.told fault).answer value = .ok value := by
  rw [Telling.answer, (patient.told fault).1]

end Machine

end ChipEight
