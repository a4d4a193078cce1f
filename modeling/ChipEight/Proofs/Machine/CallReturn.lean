import ChipEight.Proofs.Instruction
import ChipEight.Proofs.Machine.FrozenFault

/-!
# Calls and returns

Of all instructions only calls and returns move the stack, each by one return address, and a fault
does not move it at all.  So the return addresses from before a call, with the one that the call
adds on top of them, stay where they are as long as the stack does not get lower.  The cycle that
takes the stack back to its depth before the call is therefore the return from that call, whatever
the program did in between.
-/

namespace ChipEight.Machine

variable {machine : Machine} {instruction : Instruction}

/-- The next cycle executes a word: it fetches it and reports no fault. -/
def Executes (machine : Machine) (op : Opcode) : Prop :=
  machine.cycle.2 = .ok (some op) ∧ ∀ fault, ¬ machine.Reports machine.cycle.1 fault

theorem executes_nextOpcode (awake : machine.phase ≠ .halted) (succeeds : machine.cause? = none) :
    machine.Executes machine.nextOpcode := by
  obtain ⟨instruction, -, ran⟩ :=
    fetchExecute_eq_of_none (show machine.drainKeys.phase ≠ .halted from awake) succeeds
  refine ⟨congrArg Prod.snd ran, ?_⟩
  intro fault reported
  obtain ⟨cause, causes, -⟩ := (machine.reports_cycle_iff fault).mp reported
  rw [succeeds] at causes
  cases causes

/-- A cycle that executes a word has the effect of its instruction. -/
theorem Executes.cycle_eq {op : Opcode} (executes : machine.Executes op) :
    op = machine.nextOpcode ∧ machine.registers.pc.toNat ≤ lastFetch ∧
      ∃ instruction, Instruction.decode? op = some instruction ∧
        machine.failure? instruction = none ∧
          machine.cycle.1 = machine.drainKeys.executed instruction := by
  obtain ⟨fetched, silent⟩ := executes
  have succeeds : machine.drainKeys.cause? = none := by
    cases causes : machine.cause? with
    | none => exact causes
    | some cause =>
        exact absurd ((machine.reports_cycle_iff _).mpr ⟨cause, causes, rfl⟩) (silent _)
  have outcome := machine.drainKeys.fetchExecute_outcome
  unfold cycle at fetched ⊢
  generalize machine.drainKeys.fetchExecute = result at outcome fetched ⊢
  cases outcome with
  | idle halted => cases fetched
  | strayed awake beyond =>
      rw [cause?_of_lt awake beyond] at succeeds
      cases succeeds
  | refused awake within refuses =>
      rw [cause?_of_le awake within, refuses] at succeeds
      cases succeeds
  | executed awake within decoded unfailing =>
      cases fetched
      exact ⟨rfl, within, _, decoded, unfailing, rfl⟩

theorem executes_iff (machine : Machine) (op : Opcode) :
    machine.Executes op ↔
      machine.phase ≠ .halted ∧ machine.cause? = none ∧ op = machine.nextOpcode := by
  constructor
  · intro executes
    refine ⟨?_, ?_, executes.cycle_eq.1⟩
    · intro halted
      have fetched := executes.1
      rw [cycle, fetchExecute_eq_of_halted (show machine.drainKeys.phase = _ from halted)]
        at fetched
      cases fetched
    · cases causes : machine.cause? with
      | none => rfl
      | some cause =>
          exact absurd ((machine.reports_cycle_iff _).mpr ⟨cause, causes, rfl⟩) (executes.2 _)
  · rintro ⟨awake, succeeds, rfl⟩
    exact executes_nextOpcode awake succeeds

/-! ## How the stack moves -/

theorem above_frames {stack : CallStack 16} (room : stack.depth ≠ 16) (address : UInt16) :
    (stack.above address).frames = address :: stack.frames := by
  have bounded := stack.bounded
  have fits : stack.frames.length < (16 : Int).toNat := by
    simp only [CallStack.depth] at room
    omega
  rw [CallStack.above, dif_pos fits]

theorem top_cons_below {stack : CallStack 16} (held : stack.depth ≠ 0) :
    stack.frames = stack.top :: stack.below.frames := by
  rcases stack with ⟨frames, bounded⟩
  cases frames with
  | nil => exact absurd rfl held
  | cons address rest => rfl

/-- An instruction that is neither a call nor a return leaves the stack alone. -/
theorem executed_frames_cases (succeeds : machine.failure? instruction = none) :
    (machine.executed instruction).stack.frames = machine.stack.frames ∨
      ((∃ target, instruction = .call target) ∧
        (machine.executed instruction).stack.frames =
          machine.registers.advance.pc :: machine.stack.frames) ∨
      (instruction = .ret ∧
        machine.stack.frames =
          (machine.executed instruction).registers.pc ::
            (machine.executed instruction).stack.frames) := by
  cases instruction with
  | ret =>
      have held : machine.stack.depth ≠ 0 := by
        intro empty
        simp [failure?, empty] at succeeds
      exact .inr (.inr ⟨rfl, top_cons_below held⟩)
  | call target =>
      have room : machine.stack.depth ≠ 16 := by
        intro full
        simp [failure?, full] at succeeds
      exact .inr (.inl ⟨⟨target, rfl⟩, above_frames room _⟩)
  | waitKey x =>
      refine .inl ?_
      simp only [executed, effect, awaited]
      cases (machine.fetched machine.nextOpcode).keypad.last? <;> rfl
  | _ => exact .inl rfl

/-- A cycle moves the stack by a call or by a return that it executes, and not otherwise. -/
theorem cycle_frames_cases (machine : Machine) :
    machine.cycle.1.stack.frames = machine.stack.frames ∨
      (∃ op, machine.Executes op ∧ op.family = 0x2 ∧
        machine.cycle.1.stack.frames = machine.registers.advance.pc :: machine.stack.frames) ∨
      (∃ op, machine.Executes op ∧ op.family = 0x0 ∧ op.nn = 0xEE ∧
        machine.stack.frames =
          machine.cycle.1.registers.pc :: machine.cycle.1.stack.frames) := by
  by_cases halted : machine.phase = .halted
  · refine .inl ?_
    rw [cycle, fetchExecute_eq_of_halted (show machine.drainKeys.phase = .halted from halted)]
    rfl
  · cases causes : machine.cause? with
    | some cause =>
        refine .inl ?_
        have ran :=
          fetchExecute_eq_of_some (show machine.drainKeys.cause? = some cause from causes)
        rw [cycle, ran]
        rfl
    | none =>
        have executes := executes_nextOpcode halted causes
        obtain ⟨-, -, instruction, decoded, succeeds, ran⟩ := executes.cycle_eq
        have encoded := Instruction.encodes_of_decode? decoded
        have moved := executed_frames_cases
          (show machine.drainKeys.failure? instruction = none from succeeds)
        rw [ran]
        rcases moved with kept | ⟨⟨target, rfl⟩, pushed⟩ | ⟨rfl, popped⟩
        · exact .inl kept
        · exact .inr (.inl ⟨_, executes, encoded.1, pushed⟩)
        · have digits : machine.nextOpcode.nn = 0xEE :=
            UInt8.toNat_inj.mp (machine.nextOpcode.nn_toNat.trans encoded.2)
          exact .inr (.inr ⟨_, executes, encoded.1, digits, popped⟩)

/-! ## What stays below -/

/-- Return addresses at the bottom of the stack stay there unless the stack gets lower than they
reach. -/
theorem suffix_frames_after {base : List UInt16} (below : base <:+ machine.stack.frames)
    {operation : Operation} (unloaded : ¬ operation.Restarts)
    (deep : base.length ≤ (machine.after operation).stack.depth) :
    base <:+ (machine.after operation).stack.frames := by
  by_cases cycles : operation = .cycle
  · subst cycles
    simp only [after] at deep ⊢
    rcases machine.cycle_frames_cases with kept | ⟨op, -, -, pushed⟩ | ⟨op, -, -, -, popped⟩
    · rw [kept]
      exact below
    · rw [pushed]
      exact below.trans (List.suffix_cons _ _)
    · rw [popped, List.suffix_cons_iff] at below
      rcases below with whole | below
      · -- The base would be as high as the stack was before the return.
        rw [whole, List.length_cons, CallStack.depth] at deep
        omega
      · exact below
  · rw [(machine.standsStill_of_ne_cycle cycles unloaded).stack]
    exact below

theorem suffix_frames_run {base : List UInt16} (below : base <:+ machine.stack.frames)
    {operations : List Operation} (unloaded : ∀ operation ∈ operations, ¬ operation.Restarts)
    (deep : ∀ earlier, earlier <+: operations →
      base.length ≤ (machine.run earlier).stack.depth) :
    base <:+ (machine.run operations).stack.frames := by
  induction operations generalizing machine with
  | nil => exact below
  | cons operation rest ih =>
      obtain ⟨kept, restKept⟩ := List.forall_mem_cons.mp unloaded
      have first : base.length ≤ (machine.after operation).stack.depth :=
        deep [operation] (List.prefix_append [operation] rest)
      refine ih (suffix_frames_after below kept first) restKept ?_
      intro earlier begins
      exact deep (operation :: earlier) ((List.prefix_cons_inj operation).mpr begins)

/-- A call that is executed leaves the address behind itself on top of the stack. -/
theorem cycle_frames_of_call {call : Opcode} (executes : machine.Executes call)
    (calls : call.family = 0x2) :
    machine.cycle.1.stack.frames = machine.registers.advance.pc :: machine.stack.frames := by
  obtain ⟨-, -, instruction, decoded, succeeds, ran⟩ := executes.cycle_eq
  have encoded : (Instruction.call call.nnn).Encodes call.word.toNat :=
    ⟨calls, call.nnn_toNat.symm⟩
  rw [Instruction.decode?_of_encodes encoded] at decoded
  cases decoded
  have room : machine.stack.depth ≠ 16 := by
    intro full
    simp [failure?, full] at succeeds
  rw [ran]
  exact above_frames room _

/-- Calls and returns are well bracketed.  After a call has been executed, let the stack stay higher
than it was before the call, whatever is done meanwhile short of loading a program.  If a cycle then
takes it back to that depth, this cycle executes a return, the program goes on behind the call, and
the stack is the one from before the call. -/
theorem return_matches_call (machine : Machine) (call : Opcode) (executes : machine.Executes call)
    (calls : call.family = 0x2) (between : List Operation)
    (unloaded : ∀ operation ∈ between, ¬ operation.Restarts)
    (deep : ∀ earlier, earlier <+: between →
      machine.stack.depth < (machine.cycle.1.run earlier).stack.depth)
    (back : (machine.cycle.1.run between).cycle.1.stack.depth = machine.stack.depth) :
    let returning := machine.cycle.1.run between
    (∃ op, returning.Executes op ∧ op.family = 0x0 ∧ op.nn = 0xEE) ∧
      returning.cycle.1.registers.pc.toNat = machine.registers.pc.toNat + 2 ∧
      returning.cycle.1.stack.frames = machine.stack.frames := by
  intro returning
  have pushed := cycle_frames_of_call executes calls
  have below : (machine.registers.advance.pc :: machine.stack.frames) <:+
      returning.stack.frames := by
    refine suffix_frames_run (pushed ▸ List.suffix_refl _) unloaded ?_
    intro earlier begins
    exact deep earlier begins
  have high := deep between (List.prefix_refl between)
  rcases returning.cycle_frames_cases with
    kept | ⟨op, -, -, deeper⟩ | ⟨op, returns, family, digits, popped⟩
  · rw [CallStack.depth, kept] at back
    exact absurd back (Nat.ne_of_gt high)
  · rw [CallStack.depth, deeper, List.length_cons] at back
    exact absurd back (Nat.ne_of_gt (Nat.lt_succ_of_lt high))
  · -- The stack is one address higher than before the call, so the base is all of it.
    have whole := below.eq_of_length (by
      rw [popped, List.length_cons, List.length_cons]
      exact congrArg (· + 1) back.symm)
    rw [popped] at whole
    obtain ⟨pc, frames⟩ := List.cons.inj whole
    have within := executes.cycle_eq.2.1
    refine ⟨⟨op, returns, family, digits⟩, ?_, frames.symm⟩
    rw [← pc]
    exact toNat_add_two (by simp only [lastFetch] at within; omega)

/-- A call from inside a call, with a tick before the inner return. -/
theorem return_matches_call_nested :
    let machine := (create {} (RandomSource.cycling #[])).after
      (.loadRom [0x22, 0x04, 0x00, 0x00, 0x22, 0x08, 0x00, 0xEE, 0x00, 0xEE])
    machine.Executes ⟨0x2204⟩ ∧
      (machine.cycle.1.run [.cycle, .tick, .cycle]).cycle.1.registers.pc.toNat = 0x202 ∧
      (machine.cycle.1.run [.cycle, .tick, .cycle]).cycle.1.stack.frames = [] := by
  intro machine
  obtain ⟨word, succeeds, higher, back⟩ : machine.nextOpcode = ⟨0x2204⟩ ∧ machine.cause? = none ∧
      (∀ length ≤ 3, machine.stack.depth <
        (machine.cycle.1.run ([.cycle, .tick, .cycle].take length)).stack.depth) ∧
      (machine.cycle.1.run [.cycle, .tick, .cycle]).cycle.1.stack.depth =
        machine.stack.depth := by
    decide +kernel
  have executes : machine.Executes ⟨0x2204⟩ := by
    rw [← word]
    exact executes_nextOpcode (by decide) succeeds
  have deep : ∀ earlier, earlier <+: [Operation.cycle, .tick, .cycle] →
      machine.stack.depth < (machine.cycle.1.run earlier).stack.depth := by
    intro earlier begins
    rw [List.prefix_iff_eq_take.mp begins]
    exact higher earlier.length begins.length_le
  obtain ⟨-, pc, frames⟩ := return_matches_call machine ⟨0x2204⟩ executes (by decide)
    [.cycle, .tick, .cycle] (by decide) deep back
  exact ⟨executes, pc, frames⟩

end ChipEight.Machine
