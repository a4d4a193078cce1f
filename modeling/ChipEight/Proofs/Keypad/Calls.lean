import ChipEight.Proofs.Keypad.History

/-!
# Calls on a keypad

A keypad is used through four calls, in which keys are named by any integers.  Events reach it on
two ways, at once or by the queue, and the order in which they take effect is not the order in which
they were made.  `Record` says which events take effect, in terms of the codes alone.  What a keypad
shows and gives back is then a matter of that record.
-/

namespace ChipEight

/-- The event with its key named in another way. -/
def KeyEvent.map {K L : Type} (name : K → L) (event : KeyEvent K) : KeyEvent L :=
  ⟨name event.key, event.down⟩

namespace Keypad

/-! ## Keys under other names -/

section Naming

variable {K L : Type} [BEq K] [LawfulBEq K] [BEq L] [LawfulBEq L] {name : K → L}

theorem isDownAfter_map (injective : Function.Injective name)
    (history : List (KeyEvent K)) (key : K) :
    isDownAfter (history.map (KeyEvent.map name)) (name key) = isDownAfter history key := by
  induction history with
  | nil => rfl
  | cons event earlier ih =>
      rw [List.map_cons]
      by_cases same : event.key = key
      · subst same
        exact (isDownAfter_cons_self (event.map name) _).trans
          (isDownAfter_cons_self event _).symm
      · have apart : (event.map name).key ≠ name key := fun equal => same (injective equal)
        rw [isDownAfter_cons_of_ne _ apart, isDownAfter_cons_of_ne _ same, ih]

omit [BEq K] [LawfulBEq K] in
theorem isDownAfter_map_of_forall_ne {code : L} (unnamed : ∀ key, name key ≠ code)
    (history : List (KeyEvent K)) :
    isDownAfter (history.map (KeyEvent.map name)) code = false := by
  induction history with
  | nil => rfl
  | cons event earlier ih =>
      rw [List.map_cons]
      exact (isDownAfter_cons_of_ne _ (unnamed event.key)).trans ih

theorem pressedAt?_map (injective : Function.Injective name)
    (history : List (KeyEvent K)) (key : K) :
    pressedAt? (history.map (KeyEvent.map name)) (name key) = pressedAt? history key := by
  induction history with
  | nil => rfl
  | cons event earlier ih =>
      rw [List.map_cons]
      by_cases same : event.key = key
      · subst same
        have before := isDownAfter_map injective earlier event.key
        simp only [pressedAt?, KeyEvent.map, beq_self_eq_true, if_true] at ih before ⊢
        simp only [before, ih, List.length_map]
      · have apart : (event.map name).key ≠ name key := fun equal => same (injective equal)
        rw [pressedAt?_cons_of_ne _ apart, pressedAt?_cons_of_ne _ same, ih]

/-- What a list of keys knows of the history does not depend on how the keys are named. -/
theorem Recalls.map (injective : Function.Injective name)
    {held : List K} {history : List (KeyEvent K)} (recalls : Recalls held history) :
    Recalls (held.map name) (history.map (KeyEvent.map name)) := by
  constructor
  · intro code
    by_cases named : ∃ key, name key = code
    · obtain ⟨key, rfl⟩ := named
      rw [isDownAfter_map injective, ← recalls.mem_iff, List.mem_map]
      constructor
      · rintro ⟨other, member, same⟩
        rwa [← injective same]
      · intro member
        exact ⟨key, member, rfl⟩
    · have unnamed : ∀ key, name key ≠ code := fun key same => named ⟨key, same⟩
      rw [isDownAfter_map_of_forall_ne unnamed, List.mem_map]
      constructor
      · rintro ⟨key, -, same⟩
        exact absurd same (unnamed key)
      · intro impossible
        cases impossible
  · rw [List.pairwise_map]
    apply recalls.ordered.imp
    intro first second before
    unfold PressedBefore
    rw [pressedAt?_map injective, pressedAt?_map injective]
    exact before

end Naming

/-- The code of a key. -/
def codeOf (key : Key) : Int :=
  key.val

theorem codeOf_injective : Function.Injective codeOf := by
  intro first second same
  exact Fin.ext (Int.ofNat_inj.mp same)

/-- The codes of the held keys, the one held longest first. -/
def codes (keypad : Keypad Key) : List Int :=
  keypad.held.map codeOf

/-! ## Calls -/

/-- What can be done with a keypad. -/
inductive Call where
  | setKey (code : Int) (down : Bool)
  | post (code : Int) (down : Bool)
  | applyPending
  | releaseAll

/-- What comes back from a call. -/
inductive Reply where
  | changed (flag : Bool)
  | count (number : Nat)
  | done
  | refused (failure : KeyError)
deriving DecidableEq

/-- The keypad after a call, and what the call gives back. -/
def call (keypad : Keypad Key) : Call → Keypad Key × Reply
  | .setKey code down =>
      match Key.ofCode code with
      | .ok key => (keypad.apply ⟨key, down⟩, .changed (keypad.changes ⟨key, down⟩))
      | .error failure => (keypad, .refused failure)
  | .post code down =>
      match Key.ofCode code with
      | .ok key => (keypad.post ⟨key, down⟩, .done)
      | .error failure => (keypad, .refused failure)
  | .applyPending => (keypad.drain.1, .count keypad.drain.2.length)
  | .releaseAll => (keypad.releaseAll, .done)

/-- A new keypad after some calls. -/
def afterCalls (calls : List Call) : Keypad Key :=
  calls.foldl (fun keypad next => (keypad.call next).1) Keypad.empty

/-! ## The record of the calls -/

/-- The events that have taken effect, the newest first, and those that are queued, the oldest
first. -/
structure Record where
  felt : List (KeyEvent Int)
  waiting : List (KeyEvent Int)

/-- The event of the key with a code, if there is such a key. -/
def eventOfCode (code : Int) (down : Bool) : List (KeyEvent Int) :=
  if 0 ≤ code ∧ code ≤ 15 then [⟨code, down⟩] else []

/-- Every key goes up. -/
def everyKeyUp : List (KeyEvent Int) :=
  (List.range 16).map fun code : Nat => ⟨code, false⟩

/-- The record after a call. -/
def Record.after (record : Record) : Call → Record
  | .setKey code down => { record with felt := eventOfCode code down ++ record.felt }
  | .post code down => { record with waiting := record.waiting ++ eventOfCode code down }
  | .applyPending => { felt := record.waiting.reverse ++ record.felt, waiting := [] }
  | .releaseAll => { record with felt := everyKeyUp ++ record.felt }

/-- The record of some calls on a new keypad. -/
def recordOf (calls : List Call) : Record :=
  calls.foldl Record.after ⟨[], []⟩

/-- How many of some events, the oldest first, change the state of their key. -/
def changesAfter (history : List (KeyEvent Int)) : List (KeyEvent Int) → Nat
  | [] => 0
  | event :: rest =>
      (if isDownAfter (event :: history) event.key = isDownAfter history event.key then 0 else 1) +
        changesAfter (event :: history) rest

/-! ## Keypads follow the record -/

variable {keypad : Keypad Key} {record : Record} {history : List (KeyEvent Key)}

theorem ofCode_of_between {code : Int} (named : 0 ≤ code ∧ code ≤ 15) :
    ∃ key, Key.ofCode code = .ok key ∧ codeOf key = code := by
  refine ⟨Hexadecimal.lastDigit code.toNat, ?_, ?_⟩
  · rw [Key.ofCode, if_pos ⟨named.1, by omega⟩]
  · simp only [codeOf, Hexadecimal.lastDigit]
    omega

theorem ofCode_of_not_between {code : Int} (unnamed : ¬ (0 ≤ code ∧ code ≤ 15)) :
    Key.ofCode code = .error ⟨code⟩ := by
  rw [Key.ofCode, if_neg]
  omega

/-- A keypad agrees with a record, up to the names of the keys. -/
structure Follows (keypad : Keypad Key) (record : Record) : Prop where
  felt : ∃ history, Recalls keypad.held history ∧ record.felt = history.map (KeyEvent.map codeOf)
  waiting : record.waiting = keypad.queue.map (KeyEvent.map codeOf)

theorem everyKeyUp_eq :
    everyKeyUp = ((List.finRange 16).map (⟨·, false⟩)).map (KeyEvent.map codeOf) := by
  decide

theorem follows_empty : Follows Keypad.empty ⟨[], []⟩ :=
  ⟨⟨[], recalls_nil, rfl⟩, rfl⟩

theorem Follows.call (follows : Follows keypad record) (next : Call) :
    Follows (keypad.call next).1 (record.after next) := by
  obtain ⟨⟨history, recalls, felt⟩, waiting⟩ := follows
  cases next with
  | setKey code down =>
      by_cases named : 0 ≤ code ∧ code ≤ 15
      · obtain ⟨key, found, rfl⟩ := ofCode_of_between named
        simp only [Keypad.call, found, Record.after, eventOfCode, if_pos named]
        refine ⟨⟨_, recalls.apply ⟨key, down⟩, ?_⟩, ?_⟩
        · rw [felt]
          rfl
        · rw [waiting, apply_queue]
      · simp only [Keypad.call, ofCode_of_not_between named, Record.after, eventOfCode,
          if_neg named]
        exact ⟨⟨history, recalls, felt⟩, waiting⟩
  | post code down =>
      by_cases named : 0 ≤ code ∧ code ≤ 15
      · obtain ⟨key, found, rfl⟩ := ofCode_of_between named
        simp only [Keypad.call, found, Record.after, eventOfCode, if_pos named]
        refine ⟨⟨history, recalls, felt⟩, ?_⟩
        rw [waiting, post, List.map_append]
        rfl
      · simp only [Keypad.call, ofCode_of_not_between named, Record.after, eventOfCode,
          if_neg named, List.append_nil]
        exact ⟨⟨history, recalls, felt⟩, waiting⟩
  | applyPending =>
      refine ⟨⟨_, recalls.drain, ?_⟩, ?_⟩
      · rw [Record.after, felt, waiting, ← List.map_reverse, ← List.map_append]
      · rw [Keypad.call, drain_queue]
        rfl
  | releaseAll =>
      have released : Recalls [] ((List.finRange 16).map (⟨·, false⟩) ++ history) :=
        recalls_of_releases List.mem_finRange
      refine ⟨⟨_, released, ?_⟩, waiting⟩
      rw [Record.after, felt, everyKeyUp_eq, ← List.map_append]

theorem follows_afterCalls (calls : List Call) : Follows (afterCalls calls) (recordOf calls) := by
  have after : ∀ {keypad record}, Follows keypad record →
      Follows (calls.foldl (fun keypad next => (keypad.call next).1) keypad)
        (calls.foldl Record.after record) := by
    induction calls with
    | nil => exact id
    | cons next rest ih => exact fun follows => ih (follows.call next)
  exact after follows_empty

theorem Follows.recalls_codes (follows : Follows keypad record) :
    Recalls keypad.codes record.felt := by
  obtain ⟨history, recalls, felt⟩ := follows.felt
  rw [felt]
  exact recalls.map codeOf_injective

/-! ## What calls give back -/

/-- An event tells something new exactly when it changes which keys are held. -/
theorem Recalls.changes_iff (recalls : Recalls keypad.held history) (event : KeyEvent Key) :
    keypad.changes event = true ↔
      ∃ key, ¬ (key ∈ keypad.held ↔ key ∈ (keypad.apply event).held) := by
  constructor
  · intro changes
    refine ⟨event.key, ?_⟩
    rw [Keypad.changes, recalls.contains_eq, bne_iff_ne] at changes
    rw [recalls.mem_iff, (recalls.apply event).mem_iff, isDownAfter_cons_self]
    rwa [← Bool.eq_iff_iff]
  · rintro ⟨key, differs⟩
    apply Decidable.byContradiction
    intro same
    rw [Keypad.apply, if_neg same] at differs
    exact differs Iff.rfl

theorem mem_codes_iff (keypad : Keypad Key) (key : Key) :
    codeOf key ∈ keypad.codes ↔ key ∈ keypad.held := by
  rw [codes, List.mem_map]
  constructor
  · rintro ⟨other, member, same⟩
    rwa [← codeOf_injective same]
  · intro member
    exact ⟨key, member, rfl⟩

theorem Recalls.length_applyAll (recalls : Recalls keypad.held history)
    (events : List (KeyEvent Key)) :
    (keypad.applyAll events).2.length =
      changesAfter (history.map (KeyEvent.map codeOf)) (events.map (KeyEvent.map codeOf)) := by
  induction events generalizing keypad history with
  | nil => rfl
  | cons event rest ih =>
      have later := ih (recalls.apply event)
      have before : isDownAfter (history.map (KeyEvent.map codeOf)) (event.map codeOf).key =
          isDownAfter history event.key := isDownAfter_map codeOf_injective history event.key
      have told : keypad.changes event = true ↔
          ¬ isDownAfter (event.map codeOf :: history.map (KeyEvent.map codeOf))
              (event.map codeOf).key =
            isDownAfter (history.map (KeyEvent.map codeOf)) (event.map codeOf).key := by
        rw [isDownAfter_cons_self, before, Keypad.changes, recalls.contains_eq, bne_iff_ne, ne_comm]
        rfl
      rw [applyAll_cons_snd, List.map_cons, changesAfter]
      by_cases changes : keypad.changes event = true
      · rw [if_pos changes, if_neg (told.mp changes), List.length_cons, later, Nat.add_comm]
        rfl
      · rw [if_neg changes, if_pos (Decidable.not_not.mp (mt told.mpr changes)), later,
          Nat.zero_add]
        rfl

/-- A keypad shows the keys whose latest event that took effect let them go down, in the order in
which they last went down from being up.  A call that names a key tells whether it changed the held
keys, draining the queue tells how many events changed them, and a code that names no key is refused
without any effect. -/
theorem keypad_follows_events (calls : List Call) :
    let keypad := afterCalls calls
    let record := recordOf calls
    keypad.codes.Nodup ∧
      (∀ code, code ∈ keypad.codes ↔ isDownAfter record.felt code = true) ∧
      keypad.codes.Pairwise (PressedBefore record.felt) ∧
      keypad.last?.map codeOf = keypad.codes.getLast? ∧
      (∀ code, keypad.codes.getLast? = some code → PressedLast record.felt code) ∧
      (∀ code down, 0 ≤ code ∧ code ≤ 15 →
        (∃ flag, (keypad.call (.setKey code down)).2 = .changed flag ∧
          (flag = true ↔ ∃ other, ¬ (other ∈ keypad.codes ↔
            other ∈ (keypad.call (.setKey code down)).1.codes))) ∧
        (keypad.call (.post code down)).2 = .done) ∧
      (keypad.call .applyPending).2 = .count (changesAfter record.felt record.waiting) ∧
      ∀ code down, ¬ (0 ≤ code ∧ code ≤ 15) →
        keypad.call (.setKey code down) = (keypad, .refused ⟨code⟩) ∧
          keypad.call (.post code down) = (keypad, .refused ⟨code⟩) := by
  intro keypad record
  have follows : Follows keypad record := follows_afterCalls calls
  have recalls := follows.recalls_codes
  obtain ⟨history, keysRecalled, felt⟩ := follows.felt
  refine ⟨recalls.nodup, recalls.mem_iff, recalls.ordered, List.getLast?_map.symm, ?_, ?_, ?_, ?_⟩
  · intro code last
    exact recalls.pressedLast last
  · intro code down named
    obtain ⟨key, found, rfl⟩ := ofCode_of_between named
    have set : keypad.call (.setKey (codeOf key) down) =
        (keypad.apply ⟨key, down⟩, .changed (keypad.changes ⟨key, down⟩)) := by
      rw [Keypad.call, found]
    have posted : keypad.call (.post (codeOf key) down) = (keypad.post ⟨key, down⟩, .done) := by
      rw [Keypad.call, found]
    rw [set, posted]
    refine ⟨⟨_, rfl, ?_⟩, rfl⟩
    rw [keysRecalled.changes_iff]
    constructor
    · rintro ⟨other, differs⟩
      refine ⟨codeOf other, ?_⟩
      rwa [mem_codes_iff, mem_codes_iff]
    · rintro ⟨code, differs⟩
      by_cases named : ∃ other, codeOf other = code
      · obtain ⟨other, rfl⟩ := named
        refine ⟨other, ?_⟩
        rwa [mem_codes_iff, mem_codes_iff] at differs
      · -- A code that names no key is in neither list.
        have absent : ∀ keypad : Keypad Key, code ∉ keypad.codes := by
          intro keypad member
          obtain ⟨other, -, same⟩ := List.mem_map.mp member
          exact named ⟨other, same⟩
        exact absurd (iff_of_false (absent _) (absent _)) differs
  · have emptied : Recalls ({ keypad with queue := [] } : Keypad Key).held history := keysRecalled
    have counted := emptied.length_applyAll keypad.queue
    rw [← felt, ← follows.waiting] at counted
    exact congrArg Reply.count counted
  · intro code down unnamed
    constructor <;> rw [Keypad.call, ofCode_of_not_between unnamed]

/-- Two keys go down, one of them by way of the queue and again at once; the first goes up and down
again; a code that names no key is refused on both ways. -/
theorem keypad_follows_events_mixed :
    let calls := [.setKey 3 true, .post 7 true, .applyPending, .setKey 7 true, .setKey 3 false,
      .post 3 true, .setKey 16 true, .post (-1) true]
    (0 ≤ (7 : Int) ∧ (7 : Int) ≤ 15) ∧ ¬ (0 ≤ (16 : Int) ∧ (16 : Int) ≤ 15) ∧
      (afterCalls calls).codes = [7] ∧
      (∀ code, code ∈ [7] ↔ isDownAfter (recordOf calls).felt code = true) ∧
      ((afterCalls calls).call .applyPending).2 = .count 1 ∧
      (afterCalls calls).call (.setKey 16 false) = (afterCalls calls, .refused ⟨16⟩) := by
  intro calls
  have held : (afterCalls calls).codes = [7] := by decide
  have counted : changesAfter (recordOf calls).felt (recordOf calls).waiting = 1 := by decide
  obtain ⟨-, member, -, -, -, -, drained, refused⟩ := keypad_follows_events calls
  rw [held] at member
  rw [counted] at drained
  exact ⟨by decide, by decide, held, member, drained, (refused 16 false (by decide)).1⟩

end Keypad

end ChipEight
