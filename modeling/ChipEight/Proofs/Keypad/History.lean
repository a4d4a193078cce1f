import ChipEight.Device.Keypad

/-!
# The history of a keypad

A keypad keeps the held keys in a list and forgets how it came about.  Here the same is said in
terms of all key events that have taken effect.  A key is down if the latest of its events says so,
and its current press is the event by which it went down and has stayed down.  `Recalls` states what
the list knows of the history: which keys are down, in the order of their current presses.

Histories have their newest event first, so that one event more is one constructor more.
-/

namespace ChipEight.Keypad

variable {K : Type} [BEq K]

/-- Whether a key is down after the events of a history. -/
def isDownAfter : List (KeyEvent K) → K → Bool
  | [], _ => false
  | event :: earlier, key => if event.key == key then event.down else isDownAfter earlier key

/-- The current press of a key that is down, by the number of events before it.  A key that goes
down when it is down already is not pressed again. -/
def pressedAt? : List (KeyEvent K) → K → Option Nat
  | [], _ => none
  | event :: earlier, key =>
      if event.key == key then
        if event.down then
          if isDownAfter earlier key then pressedAt? earlier key else some earlier.length
        else none
      else pressedAt? earlier key

/-- Of all keys that are down, this one has been pressed last. -/
def PressedLast (history : List (KeyEvent K)) (key : K) : Prop :=
  ∃ place, pressedAt? history key = some place ∧
    ∀ other later, pressedAt? history other = some later → later ≤ place

/-- One key has been pressed before another. -/
def PressedBefore (history : List (KeyEvent K)) (first second : K) : Prop :=
  ∀ place later, pressedAt? history first = some place →
    pressedAt? history second = some later → place < later

/-- What a list of held keys knows of the history: the keys that are down, in the order of their
current presses. -/
structure Recalls (held : List K) (history : List (KeyEvent K)) : Prop where
  mem_iff : ∀ key, key ∈ held ↔ isDownAfter history key = true
  ordered : held.Pairwise (PressedBefore history)

variable {history : List (KeyEvent K)} {held : List K} {key : K} {place : Nat}

theorem pressedAt?_lt (pressed : pressedAt? history key = some place) :
    place < history.length := by
  induction history with
  | nil => cases pressed
  | cons event earlier ih =>
      have later : pressedAt? earlier key = some place → place < (event :: earlier).length :=
        fun before => Nat.lt_succ_of_lt (ih before)
      unfold pressedAt? at pressed
      split at pressed
      · split at pressed
        · split at pressed
          · exact later pressed
          · cases pressed
            exact Nat.lt_succ_self _
        · cases pressed
      · exact later pressed

/-- The keys that are down are those with a current press. -/
theorem isSome_pressedAt? (history : List (KeyEvent K)) (key : K) :
    (pressedAt? history key).isSome = isDownAfter history key := by
  induction history with
  | nil => rfl
  | cons event earlier ih =>
      rw [pressedAt?, isDownAfter]
      by_cases same : (event.key == key) = true
      · rw [if_pos same, if_pos same]
        cases event.down with
        | false => rfl
        | true =>
            cases down : isDownAfter earlier key with
            | false => rfl
            | true => exact ih.trans down
      · rw [if_neg same, if_neg same]
        exact ih

theorem isDownAfter_of_pressedAt? (pressed : pressedAt? history key = some place) :
    isDownAfter history key = true := by
  rw [← isSome_pressedAt?, pressed]
  rfl

theorem exists_pressedAt? (down : isDownAfter history key = true) :
    ∃ place, pressedAt? history key = some place := by
  rw [← isSome_pressedAt?] at down
  exact Option.isSome_iff_exists.mp down

theorem recalls_nil : Recalls ([] : List K) [] := by
  refine ⟨?_, .nil⟩
  intro key
  simp only [List.not_mem_nil, isDownAfter, Bool.false_eq_true]

theorem Recalls.nodup (recalls : Recalls held history) : held.Nodup := by
  refine recalls.ordered.imp_of_mem ?_
  rintro key _ member - before rfl
  obtain ⟨place, pressed⟩ := exists_pressedAt? ((recalls.mem_iff key).mp member)
  exact Nat.lt_irrefl place (before place place pressed pressed)

/-- The last of the held keys has been pressed last. -/
theorem Recalls.pressedLast (recalls : Recalls held history)
    (last : held.getLast? = some key) : PressedLast history key := by
  obtain ⟨front, rfl⟩ := List.getLast?_eq_some_iff.mp last
  have down := (recalls.mem_iff key).mp List.mem_concat_self
  obtain ⟨place, pressed⟩ := exists_pressedAt? down
  refine ⟨place, pressed, ?_⟩
  intro other later otherPressed
  have member := (recalls.mem_iff other).mpr (isDownAfter_of_pressedAt? otherPressed)
  rcases List.mem_append.mp member with before | same
  · have order := (List.pairwise_append.mp recalls.ordered).2.2 other before key
      List.mem_cons_self
    exact Nat.le_of_lt (order later place otherPressed pressed)
  · rw [List.mem_singleton.mp same, pressed] at otherPressed
    exact Nat.le_of_eq (Option.some.inj otherPressed).symm

/-! ## One event more -/

theorem PressedBefore.congr {later : List (KeyEvent K)} {first second : K}
    (before : PressedBefore history first second)
    (firstKept : pressedAt? later first = pressedAt? history first)
    (secondKept : pressedAt? later second = pressedAt? history second) :
    PressedBefore later first second := by
  unfold PressedBefore
  rw [firstKept, secondKept]
  exact before

variable [LawfulBEq K] {event : KeyEvent K}

theorem isDownAfter_cons_self (event : KeyEvent K) (earlier : List (KeyEvent K)) :
    isDownAfter (event :: earlier) event.key = event.down := by
  rw [isDownAfter, if_pos (beq_self_eq_true _)]

theorem isDownAfter_cons_of_ne (earlier : List (KeyEvent K)) (other : event.key ≠ key) :
    isDownAfter (event :: earlier) key = isDownAfter earlier key := by
  rw [isDownAfter, if_neg (mt eq_of_beq other)]

theorem pressedAt?_cons_of_ne (earlier : List (KeyEvent K)) (other : event.key ≠ key) :
    pressedAt? (event :: earlier) key = pressedAt? earlier key := by
  rw [pressedAt?, if_neg (mt eq_of_beq other)]

/-- A key that goes down when it is up is pressed by this event. -/
theorem pressedAt?_cons_of_press (down : event.down = true)
    (up : isDownAfter history event.key = false) :
    pressedAt? (event :: history) event.key = some history.length := by
  rw [pressedAt?, if_pos (beq_self_eq_true _), if_pos down, up]
  rfl

/-- An event that tells nothing new leaves every current press as it is. -/
theorem pressedAt?_cons_of_same (same : isDownAfter history event.key = event.down) (key : K) :
    pressedAt? (event :: history) key = pressedAt? history key := by
  by_cases other : event.key = key
  · subst other
    rw [pressedAt?, if_pos (beq_self_eq_true _)]
    cases down : event.down with
    | true => rw [if_pos rfl, if_pos (same.trans down)]
    | false =>
        have absent := isSome_pressedAt? history event.key
        rw [same, down, Option.isSome_eq_false_iff, Option.isNone_iff_eq_none] at absent
        rw [absent]
        rfl
  · exact pressedAt?_cons_of_ne history other

theorem Recalls.contains_eq (recalls : Recalls held history) (key : K) :
    held.contains key = isDownAfter history key := by
  rw [Bool.eq_iff_iff, List.contains_iff_mem]
  exact recalls.mem_iff key

theorem Recalls.of_same (recalls : Recalls held history)
    (same : isDownAfter history event.key = event.down) : Recalls held (event :: history) := by
  refine ⟨?_, ?_⟩
  · intro key
    by_cases other : event.key = key
    · subst other
      rw [isDownAfter_cons_self, ← same]
      exact recalls.mem_iff event.key
    · rw [isDownAfter_cons_of_ne history other]
      exact recalls.mem_iff key
  · refine recalls.ordered.imp ?_
    intro first second before
    exact before.congr (pressedAt?_cons_of_same same first) (pressedAt?_cons_of_same same second)

/-- A key that goes down takes the last place. -/
theorem Recalls.of_press (recalls : Recalls held history) (down : event.down = true)
    (up : isDownAfter history event.key = false) :
    Recalls (held ++ [event.key]) (event :: history) := by
  have missing : event.key ∉ held := by
    rw [recalls.mem_iff, up]
    exact Bool.false_ne_true
  have kept : ∀ key ∈ held, pressedAt? (event :: history) key = pressedAt? history key := by
    intro key member
    refine pressedAt?_cons_of_ne history ?_
    rintro rfl
    exact missing member
  refine ⟨?_, List.pairwise_append.mpr ⟨?_, List.pairwise_singleton _ _, ?_⟩⟩
  · intro key
    rw [List.mem_append, List.mem_singleton]
    by_cases other : event.key = key
    · subst other
      rw [isDownAfter_cons_self, down]
      simp only [or_true]
    · rw [isDownAfter_cons_of_ne history other, recalls.mem_iff]
      simp only [Ne.symm other, or_false]
  · refine recalls.ordered.imp_of_mem ?_
    intro first second firstHeld secondHeld before
    exact before.congr (kept first firstHeld) (kept second secondHeld)
  · intro first member second last place later firstPressed secondPressed
    rw [List.mem_singleton.mp last, pressedAt?_cons_of_press down up] at secondPressed
    rw [kept first member] at firstPressed
    rw [← Option.some.inj secondPressed]
    exact pressedAt?_lt firstPressed

/-- A key that goes up leaves the others in their order. -/
theorem Recalls.of_release (recalls : Recalls held history) (up : event.down = false) :
    Recalls (held.erase event.key) (event :: history) := by
  have kept : ∀ key ∈ held.erase event.key,
      pressedAt? (event :: history) key = pressedAt? history key := by
    intro key member
    exact pressedAt?_cons_of_ne history (recalls.nodup.mem_erase_iff.mp member).1.symm
  refine ⟨?_, ?_⟩
  · intro key
    rw [recalls.nodup.mem_erase_iff]
    by_cases other : event.key = key
    · subst other
      rw [isDownAfter_cons_self, up]
      simp only [ne_eq, not_true_eq_false, false_and, Bool.false_eq_true]
    · rw [isDownAfter_cons_of_ne history other, recalls.mem_iff]
      simp only [ne_eq, Ne.symm other, not_false_eq_true, true_and]
  · refine (recalls.ordered.sublist List.erase_sublist).imp_of_mem ?_
    intro first second firstHeld secondHeld before
    exact before.congr (kept first firstHeld) (kept second secondHeld)

/-! ## What a keypad does -/

section Queue

omit [LawfulBEq K]

theorem apply_queue (keypad : Keypad K) (event : KeyEvent K) :
    (keypad.apply event).queue = keypad.queue := by
  unfold apply
  split
  · split <;> rfl
  · rfl

theorem applyAll_queue (keypad : Keypad K) (events : List (KeyEvent K)) :
    (keypad.applyAll events).1.queue = keypad.queue := by
  induction events generalizing keypad with
  | nil => rfl
  | cons event rest ih => exact (ih (keypad.apply event)).trans (keypad.apply_queue event)

theorem applyAll_cons_snd (keypad : Keypad K) (event : KeyEvent K) (rest : List (KeyEvent K)) :
    (keypad.applyAll (event :: rest)).2 =
      if keypad.changes event then event :: ((keypad.apply event).applyAll rest).2
      else ((keypad.apply event).applyAll rest).2 :=
  rfl

theorem drain_queue (keypad : Keypad K) : keypad.drain.1.queue = [] :=
  applyAll_queue _ keypad.queue

end Queue

variable {keypad : Keypad K}

theorem Recalls.apply (recalls : Recalls keypad.held history) (event : KeyEvent K) :
    Recalls (keypad.apply event).held (event :: history) := by
  have contains := recalls.contains_eq event.key
  unfold Keypad.apply
  split
  · rename_i changes
    rw [Keypad.changes, contains, bne_iff_ne] at changes
    split
    · rename_i down
      rw [down] at changes
      exact recalls.of_press down (eq_false_of_ne_true changes)
    · rename_i up
      exact recalls.of_release (eq_false_of_ne_true up)
  · rename_i unchanged
    rw [Keypad.changes, contains, bne_iff_ne, Decidable.not_not] at unchanged
    exact recalls.of_same unchanged

theorem Recalls.applyAll (recalls : Recalls keypad.held history) (events : List (KeyEvent K)) :
    Recalls (keypad.applyAll events).1.held (events.reverse ++ history) := by
  induction events generalizing keypad history with
  | nil => exact recalls
  | cons event rest ih =>
      rw [List.reverse_cons, List.append_assoc]
      exact ih (recalls.apply event)

theorem Recalls.drain (recalls : Recalls keypad.held history) :
    Recalls keypad.drain.1.held (keypad.queue.reverse ++ history) := by
  have emptied : Recalls ({ keypad with queue := [] } : Keypad K).held history := recalls
  exact emptied.applyAll keypad.queue

/-- After every key has gone up, none is down. -/
theorem isDownAfter_of_releases {keys : List K} (key : K) (released : key ∈ keys) :
    isDownAfter (keys.map (⟨·, false⟩) ++ history) key = false := by
  induction keys with
  | nil => cases released
  | cons first rest ih =>
      rw [List.map_cons, List.cons_append, isDownAfter]
      split
      · rfl
      · rename_i other
        refine ih ((List.mem_cons.mp released).resolve_left ?_)
        rintro rfl
        exact other (beq_self_eq_true _)

theorem recalls_of_releases {keys : List K} (every : ∀ key, key ∈ keys) :
    Recalls [] (keys.map (⟨·, false⟩) ++ history) := by
  refine ⟨?_, .nil⟩
  intro key
  simp only [List.not_mem_nil, isDownAfter_of_releases key (every key), Bool.false_eq_true]

/-! ## What the held keys depend on -/

variable {first second : Keypad K}

section Held

omit [LawfulBEq K]

theorem held_apply_congr (event : KeyEvent K) (same : first.held = second.held) :
    (first.apply event).held = (second.apply event).held := by
  have changes : first.changes event = second.changes event := by
    rw [Keypad.changes, Keypad.changes, same]
  unfold Keypad.apply
  rw [changes]
  split
  · split
    · exact congrArg (· ++ [event.key]) same
    · exact congrArg (List.erase · event.key) same
  · exact same

/-- What events make of the held keys does not depend on what is queued. -/
theorem held_applyAll_congr (events : List (KeyEvent K)) (same : first.held = second.held) :
    (first.applyAll events).1.held = (second.applyAll events).1.held := by
  induction events generalizing first second with
  | nil => exact same
  | cons event rest ih => exact ih (held_apply_congr event same)

theorem applyAll_append_fst (keypad : Keypad K) (earlier later : List (KeyEvent K)) :
    (keypad.applyAll (earlier ++ later)).1 = ((keypad.applyAll earlier).1.applyAll later).1 := by
  induction earlier generalizing keypad with
  | nil => rfl
  | cons event rest ih => exact ih (keypad.apply event)

end Held

theorem contains_eq_decide_count_pos (keypad : Keypad K) (key : K) :
    keypad.held.contains key = decide (0 < keypad.held.count key) := by
  rw [Bool.eq_iff_iff, decide_eq_true_iff, List.contains_iff_mem, List.count_pos_iff]

/-- What an event does to its own key depends on nothing but this key. -/
theorem count_apply_congr (event : KeyEvent K)
    (same : first.held.count event.key = second.held.count event.key) :
    (first.apply event).held.count event.key = (second.apply event).held.count event.key := by
  have changes : first.changes event = second.changes event := by
    rw [Keypad.changes, Keypad.changes, contains_eq_decide_count_pos,
      contains_eq_decide_count_pos, same]
  unfold Keypad.apply
  rw [changes]
  split
  · split
    · simp only [List.count_append, same]
    · simp only [List.count_erase_self, same]
  · exact same

theorem count_apply_of_ne (keypad : Keypad K) {event : KeyEvent K} {key : K}
    (other : event.key ≠ key) : (keypad.apply event).held.count key = keypad.held.count key := by
  unfold Keypad.apply
  split
  · split
    · simp only [List.count_append, List.count_singleton, beq_eq_false_iff_ne.mpr other,
        Bool.false_eq_true, if_false, Nat.add_zero]
    · exact List.count_erase_of_ne (Ne.symm other)
  · rfl

/-- Whether a key is held depends on its own events only. -/
theorem count_applyAll_filter {key : K} (events : List (KeyEvent K))
    (same : first.held.count key = second.held.count key) :
    (first.applyAll events).1.held.count key =
      (second.applyAll (events.filter (·.key == key))).1.held.count key := by
  induction events generalizing first second with
  | nil => exact same
  | cons event rest ih =>
      by_cases own : event.key = key
      · subst own
        rw [List.filter_cons, if_pos (beq_self_eq_true event.key)]
        exact ih (count_apply_congr event same)
      · rw [List.filter_cons, if_neg (mt eq_of_beq own)]
        exact ih ((first.count_apply_of_ne own).trans same)

theorem mem_applyAll_iff_of_filter_eq (keypad : Keypad K) {key : K}
    {events others : List (KeyEvent K)}
    (same : events.filter (·.key == key) = others.filter (·.key == key)) :
    key ∈ (keypad.applyAll events).1.held ↔ key ∈ (keypad.applyAll others).1.held := by
  have counts : (keypad.applyAll events).1.held.count key =
      (keypad.applyAll others).1.held.count key := by
    rw [count_applyAll_filter events (Eq.refl (keypad.held.count key)), same,
      ← count_applyAll_filter others rfl]
  rw [← List.count_pos_iff, counts, List.count_pos_iff]

end ChipEight.Keypad
