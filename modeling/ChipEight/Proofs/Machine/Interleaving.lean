import ChipEight.Proofs.Keypad.Calls
import ChipEight.Proofs.Machine.KeyQueue

/-!
# Threads that queue keys

Some threads queue key events while one thread works through cycles.  A post and a get from the
queue are atomic, and a cycle is not: it gets one event after the other, lets each take effect, and
begins to fetch once it has found the queue empty.  Posts fall anywhere in between.

Every event is at any time in one of three places: it has taken effect, it is in the hand of the
thread that works, or it is queued.  Lined up in this order the events stand as they were posted,
and no move changes that (`Interleaving.accounts`).  The moment at which a cycle finds the queue
empty is the one at which the whole cycle may be thought to happen (`Interleaving.linearizes`).
-/

namespace ChipEight.Machine

open Keypad

variable {T : Type}

/-! ## The moves of the threads -/

/-- How far the working thread is in its cycle. -/
inductive Stage where
  | idle
  | draining
  | holding (event : KeyEvent Key)
  | ready
  | working
deriving DecidableEq

/-- The machine that the threads share, and where the working thread is. -/
structure Shared where
  machine : Machine
  stage : Stage

/-- What a thread does in one atomic move.  All but the posts are moves of the thread that works. -/
inductive Move (T : Type) where
  | post (thread : T) (event : KeyEvent Key)
  | start
  | get (event : KeyEvent Key)
  | apply (event : KeyEvent Key)
  | drained
  | fetch
  | finish
deriving DecidableEq

/-- The moves that are possible and what they do. -/
inductive Shared.Moves : Shared → Move T → Shared → Prop where
  | post (machine : Machine) (stage : Stage) (thread : T) (event : KeyEvent Key) :
      Moves ⟨machine, stage⟩ (.post thread event) ⟨machine.queueKey event, stage⟩
  | start (machine : Machine) : Moves ⟨machine, .idle⟩ .start ⟨machine, .draining⟩
  | get (machine : Machine) {event : KeyEvent Key} {rest : List (KeyEvent Key)}
      (queued : machine.keypad.queue = event :: rest) :
      Moves ⟨machine, .draining⟩ (.get event) ⟨machine.withQueue rest, .holding event⟩
  | apply (machine : Machine) (event : KeyEvent Key) :
      Moves ⟨machine, .holding event⟩ (.apply event) ⟨(machine.applyKey event).1, .draining⟩
  | drained (machine : Machine) (empty : machine.keypad.queue = []) :
      Moves ⟨machine, .draining⟩ .drained ⟨machine, .ready⟩
  | fetch (machine : Machine) : Moves ⟨machine, .ready⟩ .fetch ⟨machine, .working⟩
  | finish (machine : Machine) :
      Moves ⟨machine, .working⟩ .finish ⟨machine.fetchExecute.1, .idle⟩

/-- The threads make moves one after the other, in any order that is possible. -/
inductive Interleaving : Shared → List (Move T) → Shared → Prop where
  | nil (shared : Shared) : Interleaving shared [] shared
  | cons {shared next final : Shared} {move : Move T} {rest : List (Move T)}
      (moves : shared.Moves move next) (later : Interleaving next rest final) :
      Interleaving shared (move :: rest) final

/-- What a move posts, and who posts it. -/
def Move.posted? : Move T → Option (T × KeyEvent Key)
  | .post thread event => some (thread, event)
  | _ => none

/-- What a move lets take effect. -/
def Move.applied? : Move T → Option (KeyEvent Key)
  | .apply event => some event
  | _ => none

/-- What a move is, seen as an operation on a machine with one thread. -/
def Move.operation? : Move T → Option Operation
  | .post _ event => some (.postKey (codeOf event.key) event.down)
  | .drained => some .cycle
  | _ => none

/-- The events that have been posted, and by whom. -/
def posted (moves : List (Move T)) : List (T × KeyEvent Key) :=
  moves.filterMap Move.posted?

/-- The events that have taken effect. -/
def applied (moves : List (Move T)) : List (KeyEvent Key) :=
  moves.filterMap Move.applied?

/-- The events in the hand of the working thread. -/
def Stage.inHand : Stage → List (KeyEvent Key)
  | .holding event => [event]
  | _ => []

/-- The events that have not taken effect yet. -/
def Shared.waiting (shared : Shared) : List (KeyEvent Key) :=
  shared.stage.inHand ++ shared.machine.keypad.queue

variable {shared next final : Shared} {move : Move T} {moves : List (Move T)}

theorem Interleaving.split {earlier later : List (Move T)}
    (interleaving : Interleaving shared (earlier ++ later) final) :
    ∃ middle, Interleaving shared earlier middle ∧ Interleaving middle later final := by
  induction earlier generalizing shared with
  | nil => exact ⟨shared, .nil shared, interleaving⟩
  | cons move rest ih =>
      cases interleaving with
      | cons moved onward =>
          obtain ⟨middle, before, after⟩ := ih onward
          exact ⟨middle, .cons moved before, after⟩

/-! ## Nothing is lost and nothing doubled -/

/-- No move loses an event, doubles one or lets one overtake another. -/
theorem Shared.Moves.accounts (moved : shared.Moves move next) :
    shared.waiting ++ (posted [move]).map Prod.snd = applied [move] ++ next.waiting := by
  cases moved with
  | post machine stage thread event =>
      exact List.append_assoc stage.inHand machine.keypad.queue [event]
  | start machine => exact List.append_nil _
  | get machine queued =>
      rw [Shared.waiting, queued]
      exact List.append_nil _
  | apply machine event =>
      simp only [Shared.waiting, applyKey_queue]
      exact List.append_nil _
  | drained machine empty => exact List.append_nil _
  | fetch machine => exact List.append_nil _
  | finish machine =>
      simp only [Shared.waiting, fetchExecute_keypad]
      exact List.append_nil _

theorem posted_cons (move : Move T) (rest : List (Move T)) :
    posted (move :: rest) = posted [move] ++ posted rest :=
  List.filterMap_append (l := [move])

theorem applied_cons (move : Move T) (rest : List (Move T)) :
    applied (move :: rest) = applied [move] ++ applied rest :=
  List.filterMap_append (l := [move])

/-- The events that waited first and those that were posted since have taken effect, in this order,
up to those that wait now. -/
theorem Interleaving.accounts (interleaving : Interleaving shared moves final) :
    shared.waiting ++ (posted moves).map Prod.snd = applied moves ++ final.waiting := by
  induction interleaving with
  | nil shared => exact List.append_nil _
  | @cons shared next final move rest moved later ih =>
      rw [posted_cons, applied_cons, List.map_append, ← List.append_assoc, moved.accounts,
        List.append_assoc, ih, List.append_assoc]

theorem Shared.Moves.held_eq (moved : shared.Moves move next) :
    next.machine.keypad.held =
      (shared.machine.keypad.applyAll (applied [move])).1.held := by
  cases moved with
  | apply machine event =>
      rw [applyKey_fst_eq]
      rfl
  | finish machine =>
      rw [fetchExecute_keypad]
      rfl
  | _ => rfl

/-- The held keys are what the events that have taken effect made of them. -/
theorem Interleaving.held_eq (interleaving : Interleaving shared moves final) :
    final.machine.keypad.held = (shared.machine.keypad.applyAll (applied moves)).1.held := by
  induction interleaving with
  | nil shared => rfl
  | @cons shared next final move rest moved later ih =>
      rw [ih, applied_cons, applyAll_append_fst]
      exact held_applyAll_congr _ moved.held_eq

/-! ## When events take effect -/

/-- The working thread has not found the queue empty yet. -/
def Stage.Drains : Stage → Prop
  | .draining | .holding _ => True
  | _ => False

/-- The thread leaves off draining when nothing waits. -/
theorem Shared.Moves.waiting_eq_nil (moved : shared.Moves move next)
    (drains : shared.stage.Drains) (drained : ¬ next.stage.Drains) : shared.waiting = [] := by
  cases moved with
  | drained machine empty => exact empty
  | post machine stage thread event => exact absurd drains drained
  | get machine queued => exact absurd trivial drained
  | apply machine event => exact absurd trivial drained
  | _ => exact drains.elim

/-- What waits while a thread drains the queue takes effect before the thread leaves off. -/
theorem Interleaving.waiting_prefix (interleaving : Interleaving shared moves final)
    (drains : shared.stage.Drains) (drained : ¬ final.stage.Drains) :
    shared.waiting <+: applied moves := by
  induction interleaving with
  | nil shared => exact absurd drains drained
  | @cons shared next final move rest moved later ih =>
      -- Either the thread goes on draining, with what waited and perhaps more, or nothing waits.
      by_cases onward : next.stage.Drains
      · have kept : shared.waiting <+: applied [move] ++ next.waiting := ⟨_, moved.accounts⟩
        rw [applied_cons]
        exact kept.trans ((List.prefix_append_right_inj _).mpr (ih onward drained))
      · rw [moved.waiting_eq_nil drains onward]
        exact List.nil_prefix

/-- The working thread gets to its fetch only by the move that begins it. -/
theorem Interleaving.fetch_mem (interleaving : Interleaving shared moves final)
    (before : shared.stage ≠ .working) (after : final.stage = .working) : .fetch ∈ moves := by
  induction interleaving with
  | nil shared => exact absurd after before
  | @cons shared next final move rest moved later ih =>
      cases moved with
      | fetch machine => exact List.mem_cons_self
      | post machine stage thread event => exact List.mem_cons_of_mem _ (ih before after)
      | _ =>
          refine List.mem_cons_of_mem _ (ih ?_ after)
          intro working
          cases working

/-- Between its fetch and its end a cycle lets no event take effect. -/
theorem Interleaving.applied_of_working (interleaving : Interleaving shared moves final)
    (working : shared.stage = .working) (unfinished : .finish ∉ moves) : applied moves = [] := by
  induction interleaving with
  | nil shared => rfl
  | @cons shared next final move rest moved later ih =>
      have pending : .finish ∉ rest := fun member => unfinished (List.mem_cons_of_mem _ member)
      cases moved with
      | post machine stage thread event => exact ih working pending
      | finish machine => exact absurd List.mem_cons_self unfinished
      | _ => cases working

/-- A thread that drains the queue has started its cycle and has not fetched in it. -/
theorem Interleaving.started (interleaving : Interleaving shared moves final)
    (drains : final.stage.Drains) :
    (shared.stage.Drains ∧ .fetch ∉ moves ∧ .finish ∉ moves) ∨
      ∃ before within, moves = before ++ .start :: within ∧
        .fetch ∉ within ∧ .finish ∉ within := by
  induction interleaving with
  | nil shared => exact .inl ⟨drains, List.not_mem_nil, List.not_mem_nil⟩
  | @cons shared next final move rest moved later ih =>
      rcases ih drains with ⟨already, unfetched, unfinished⟩ | ⟨before, within, split, clear⟩
      · cases moved with
        | start machine => exact .inr ⟨[], rest, rfl, unfetched, unfinished⟩
        | post machine stage thread event => exact .inl ⟨already, by simp [unfetched, unfinished]⟩
        | get machine queued => exact .inl ⟨trivial, by simp [unfetched, unfinished]⟩
        | apply machine event => exact .inl ⟨trivial, by simp [unfetched, unfinished]⟩
        | _ => exact already.elim
      · exact .inr ⟨move :: before, within, congrArg (move :: ·) split, clear⟩

/-! ## The moment of a cycle -/

/-- Where a machine with one thread is meanwhile.  Its cycle has not begun before the working thread
has found the queue empty, and is over from then on. -/
def Shared.Tracks (shared : Shared) (sequential : Machine) : Prop :=
  match shared.stage with
  | .idle => shared.machine = sequential
  | .draining => shared.machine.drainKeys = sequential.drainKeys
  | .holding event => (shared.machine.applyKey event).1.drainKeys = sequential.drainKeys
  | .ready | .working => shared.machine.fetchExecute.1 = sequential

/-- The operations that a machine with one thread has done meanwhile. -/
def operations (moves : List (Move T)) : List Operation :=
  moves.filterMap Move.operation?

theorem applyKey_queueKey (machine : Machine) (first second : KeyEvent Key) :
    ((machine.queueKey second).applyKey first).1 = (machine.applyKey first).1.queueKey second := by
  refine (machine.applyKey_withQueue first _).trans ?_
  rw [← applyKey_queue machine first]
  rfl

theorem after_postKey (machine : Machine) (event : KeyEvent Key) :
    machine.after (.postKey (codeOf event.key) event.down) = machine.queueKey event := by
  have between : 0 ≤ codeOf event.key ∧ codeOf event.key ≤ 15 := by
    have below := event.key.isLt
    unfold codeOf
    omega
  obtain ⟨key, named, same⟩ := ofCode_of_between between
  rw [after, postKey, named, codeOf_injective same]

theorem Shared.Moves.tracks {sequential : Machine} (moved : shared.Moves move next)
    (tracks : shared.Tracks sequential) :
    next.Tracks (sequential.run (operations [move])) := by
  cases moved with
  | post machine stage thread event =>
      have posted : sequential.run (operations [Move.post thread event]) =
          sequential.queueKey event := after_postKey sequential event
      rw [posted]
      cases stage with
      | idle => exact congrArg (queueKey · event) tracks
      | draining =>
          -- The event is still in time for the cycle that drains the queue.
          have drained : machine.drainKeys = sequential.drainKeys := tracks
          refine (drainKeys_queueKey machine event).trans ?_
          rw [drained, ← drainKeys_queueKey]
      | holding held =>
          have drained : (machine.applyKey held).1.drainKeys = sequential.drainKeys := tracks
          change ((machine.queueKey event).applyKey held).1.drainKeys = _
          rw [applyKey_queueKey, drainKeys_queueKey, drained, ← drainKeys_queueKey]
      | ready =>
          -- From here on the event waits for the next cycle; the rest of this one does not see it.
          have ran : machine.fetchExecute.1 = sequential := tracks
          change (machine.queueKey event).fetchExecute.1 = _
          rw [fetchExecute_queueKey, ran]
      | working =>
          have ran : machine.fetchExecute.1 = sequential := tracks
          change (machine.queueKey event).fetchExecute.1 = _
          rw [fetchExecute_queueKey, ran]
  | start machine => exact congrArg drainKeys tracks
  | get machine queued => exact (drainKeys_of_queue_eq_cons queued).trans tracks
  | apply machine event => exact tracks
  | drained machine empty =>
      -- The single thread makes its whole cycle in this moment.
      have drained : machine.drainKeys = sequential.drainKeys := tracks
      rw [drainKeys_of_queue_eq_nil empty] at drained
      exact congrArg (fun machine => machine.fetchExecute.1) drained
  | fetch machine => exact tracks
  | finish machine => exact tracks

theorem Interleaving.tracks {sequential : Machine} (interleaving : Interleaving shared moves final)
    (tracks : shared.Tracks sequential) :
    final.Tracks (sequential.run (operations moves)) := by
  induction interleaving generalizing sequential with
  | nil shared => exact tracks
  | @cons shared next final move rest moved later ih =>
      have split : operations (move :: rest) = operations [move] ++ operations rest :=
        List.filterMap_append (l := [move])
      rw [split, run_append]
      exact ih (moved.tracks tracks)

/-- Between two cycles the machine is one that a single thread has made by the same posts and
cycles. -/
theorem Interleaving.linearizes {machine : Machine}
    (interleaving : Interleaving ⟨machine, .idle⟩ moves final) (idle : final.stage = .idle) :
    final.machine = machine.run (operations moves) := by
  have tracks := interleaving.tracks (show Shared.Tracks ⟨machine, .idle⟩ machine from rfl)
  unfold Shared.Tracks at tracks
  rwa [idle] at tracks

/-! ## What is held in the end -/

/-- One cycle after the last post, the keys that are held are what the events have made of them in
the order of the posts. -/
theorem Interleaving.cycle_held {machine : Machine}
    (interleaving : Interleaving ⟨machine, .idle⟩ moves final) (idle : final.stage = .idle) :
    final.machine.cycle.1.keypad.held =
      (machine.keypad.applyAll
        (machine.keypad.queue ++ (posted moves).map Prod.snd)).1.held := by
  have accounts := interleaving.accounts
  have queued : final.waiting = final.machine.keypad.queue := by
    rw [Shared.waiting, idle]
    rfl
  rw [queued] at accounts
  calc
    final.machine.cycle.1.keypad.held
      = final.machine.keypad.drain.1.held := by rw [cycle, fetchExecute_keypad]; rfl
    _ = ((machine.keypad.applyAll (applied moves)).1.applyAll
          final.machine.keypad.queue).1.held := held_applyAll_congr _ interleaving.held_eq
    _ = (machine.keypad.applyAll (applied moves ++ final.machine.keypad.queue)).1.held := by
        rw [applyAll_append_fst]
    _ = _ := by rw [← accounts]; rfl

section Owners

variable {A : Type} [DecidableEq A] {first second : List (A × KeyEvent Key)} {key : Key}

/-- The events of one owner. -/
def eventsOf (owner : A) (events : List (A × KeyEvent Key)) : List (KeyEvent Key) :=
  (events.filter (·.1 = owner)).map Prod.snd

/-- No two owners have events of the same key. -/
def Apart (events : List (A × KeyEvent Key)) : Prop :=
  ∀ one ∈ events, ∀ other ∈ events, one.2.key = other.2.key → one.1 = other.1

instance (events : List (A × KeyEvent Key)) : Decidable (Apart events) :=
  inferInstanceAs (Decidable (∀ one ∈ events, ∀ other ∈ events,
    one.2.key = other.2.key → one.1 = other.1))

theorem mem_eventsOf {owner : A} {event : KeyEvent Key} :
    event ∈ eventsOf owner first ↔ (owner, event) ∈ first := by
  simp only [eventsOf, List.mem_map, List.mem_filter, decide_eq_true_eq]
  constructor
  · rintro ⟨⟨_, _⟩, ⟨member, rfl⟩, rfl⟩
    exact member
  · intro member
    exact ⟨(owner, event), ⟨member, rfl⟩, rfl⟩

/-- All events of a key are found with its one owner. -/
theorem filter_key_eq {owner : A} (only : ∀ own ∈ first, own.2.key = key → own.1 = owner) :
    (first.map Prod.snd).filter (·.key == key) = (eventsOf owner first).filter (·.key == key) := by
  rw [eventsOf, List.filter_map, List.filter_map, List.filter_filter]
  refine congrArg _ (List.filter_congr ?_)
  intro own member
  by_cases same : own.2.key = key
  · simp only [Function.comp, same, only own member same, beq_self_eq_true, decide_true,
      Bool.and_true]
  · simp only [Function.comp, beq_eq_false_iff_ne.mpr same, Bool.false_and]

/-- How the events of different owners are mixed does not show in the events of a key. -/
theorem filter_key_congr (apart : Apart first)
    (own : ∀ owner, eventsOf owner first = eventsOf owner second) (key : Key) :
    (first.map Prod.snd).filter (·.key == key) = (second.map Prod.snd).filter (·.key == key) := by
  have shared : ∀ event, event ∈ second → event ∈ first := by
    intro event member
    exact mem_eventsOf.mp ((own event.1).symm ▸ mem_eventsOf.mpr member)
  by_cases used : ∃ event ∈ first, event.2.key = key
  · obtain ⟨event, member, same⟩ := used
    have only : ∀ other ∈ first, other.2.key = key → other.1 = event.1 := by
      intro other otherMember otherSame
      exact apart other otherMember event member (otherSame.trans same.symm)
    have otherOnly : ∀ other ∈ second, other.2.key = key → other.1 = event.1 :=
      fun other otherMember => only other (shared other otherMember)
    rw [filter_key_eq only, own, ← filter_key_eq otherOnly]
  · have unused : ∀ events : List (A × KeyEvent Key), (∀ event ∈ events, event ∈ first) →
        (events.map Prod.snd).filter (·.key == key) = [] := by
      intro events sub
      simp only [List.filter_eq_nil_iff, List.mem_map, beq_iff_eq]
      rintro _ ⟨event, member, rfl⟩ same
      exact used ⟨event, sub event member, same⟩
    rw [unused first fun _ member => member, unused second shared]

end Owners

/-- The events that were queued at first, which no thread has posted, and those posted since. -/
def line (machine : Machine) (moves : List (Move T)) : List (Option T × KeyEvent Key) :=
  machine.keypad.queue.map (none, ·) ++ (posted moves).map fun post => (some post.1, post.2)

theorem line_events (machine : Machine) (moves : List (Move T)) :
    (machine.line moves).map Prod.snd =
      machine.keypad.queue ++ (posted moves).map Prod.snd := by
  simp only [line, List.map_append, List.map_map]
  exact congrArg (· ++ _) (List.map_id _)

theorem eventsOf_line [DecidableEq T] (machine : Machine) (moves : List (Move T)) (thread : T) :
    eventsOf (some thread) (machine.line moves) = eventsOf thread (posted moves) := by
  have old : eventsOf (some thread) (machine.keypad.queue.map ((none : Option T), ·)) = [] := by
    simp [eventsOf]
  have new : eventsOf (some thread) ((posted moves).map fun post => (some post.1, post.2)) =
      eventsOf thread (posted moves) := by
    simp [eventsOf, List.filter_map, Function.comp_def]
  rw [line, eventsOf, List.filter_append, List.map_append]
  exact congr (congrArg _ old) new

theorem Interleaving.sends {machine : Machine}
    (interleaving : Interleaving ⟨machine, .idle⟩ moves final) :
    ∃ sent, sent <+: machine.line moves ∧ sent.map Prod.snd = applied moves := by
  have accounts : machine.keypad.queue ++ (posted moves).map Prod.snd =
      applied moves ++ final.waiting := interleaving.accounts
  rw [← line_events] at accounts
  obtain ⟨sent, waiting, split, same, -⟩ := List.map_eq_append_iff.mp accounts
  exact ⟨sent, ⟨waiting, split.symm⟩, same⟩

/-- What was posted before a cycle started has taken effect when the cycle fetches. -/
theorem Interleaving.line_prefix {machine : Machine} {earlier middle later : List (Move T)}
    (interleaving : Interleaving ⟨machine, .idle⟩
      (earlier ++ .start :: (middle ++ .fetch :: later)) final) :
    (machine.line earlier).map Prod.snd <+: applied (earlier ++ .start :: middle) := by
  obtain ⟨reached, before, onward⟩ := interleaving.split
  cases onward with
  | cons started onward =>
      obtain ⟨fetching, within, last⟩ := onward.split
      have accounts := before.accounts
      cases started with
      | start shared =>
          have drained : ¬ fetching.stage.Drains := by
            cases last with
            | cons fetched _ =>
                cases fetched
                exact id
          have emptied := within.waiting_prefix trivial drained
          rw [line_events]
          refine accounts.symm ▸ ?_
          have split : applied (earlier ++ .start :: middle) = applied earlier ++ applied middle :=
            List.filterMap_append
          rw [split]
          exact (List.prefix_append_right_inj _).mpr emptied

/-- An event takes effect in a cycle that has started and has not fetched, and that fetches before
it ends. -/
theorem Interleaving.applied_between {machine : Machine} {earlier later : List (Move T)}
    {event : KeyEvent Key}
    (interleaving : Interleaving ⟨machine, .idle⟩ (earlier ++ .apply event :: later) final) :
    (∃ before within, earlier = before ++ .start :: within ∧
        .fetch ∉ within ∧ .finish ∉ within) ∧
      ∀ middle rest, later = middle ++ .finish :: rest → .fetch ∈ middle := by
  obtain ⟨reached, before, onward⟩ := interleaving.split
  cases onward with
  | cons moved onward =>
      cases moved with
      | apply shared event =>
          refine ⟨(before.started trivial).resolve_left fun drains => drains.1, ?_⟩
          rintro middle rest rfl
          obtain ⟨ending, within, last⟩ := onward.split
          apply within.fetch_mem
          · intro working
            cases working
          · cases last with
            | cons finished _ =>
                cases finished
                rfl

theorem Interleaving.applied_eq_nil {machine : Machine} {earlier middle later : List (Move T)}
    (interleaving : Interleaving ⟨machine, .idle⟩ (earlier ++ .fetch :: (middle ++ later)) final)
    (unfinished : .finish ∉ middle) : applied middle = [] := by
  obtain ⟨reached, before, onward⟩ := interleaving.split
  cases onward with
  | cons fetched onward =>
      obtain ⟨ending, within, last⟩ := onward.split
      cases fetched with
      | fetch shared => exact within.applied_of_working rfl unfinished

/-- However the threads are interleaved, key events that are queued get neither lost nor doubled:
they take effect in the order of the posts, and so in the order in which each thread posted them;
those that were posted before a cycle started do so before the cycle fetches; none does between a
fetch and the end of its cycle.  Between two cycles the machine is one that a single thread makes by
the same posts and cycles.  If the threads post events of different keys, the keys that are held a
cycle later do not depend on the interleaving.  If nothing was queued before, events queued for a
cycle do what they would do at once. -/
theorem queued_keys_neither_lost_nor_doubled [DecidableEq T] (machine : Machine)
    (moves : List (Move T)) (final : Shared)
    (interleaving : Interleaving ⟨machine, .idle⟩ moves final) :
    (∃ sent, sent <+: machine.line moves ∧ sent.map Prod.snd = applied moves ∧
      (∀ thread, eventsOf (some thread) sent <+: eventsOf thread (posted moves)) ∧
      final.machine.keypad.held = (machine.keypad.applyAll (applied moves)).1.held) ∧
    (∀ earlier middle later, moves = earlier ++ .start :: (middle ++ .fetch :: later) →
      (machine.line earlier).map Prod.snd <+: applied (earlier ++ .start :: middle)) ∧
    (∀ earlier event later, moves = earlier ++ .apply event :: later →
      (∃ before within, earlier = before ++ .start :: within ∧
          .fetch ∉ within ∧ .finish ∉ within) ∧
        ∀ middle rest, later = middle ++ .finish :: rest → .fetch ∈ middle) ∧
    (∀ earlier middle later, moves = earlier ++ .fetch :: (middle ++ later) →
      .finish ∉ middle → applied middle = []) ∧
    (final.stage = .idle → final.machine = machine.run (operations moves)) ∧
    (∀ (others : List (Move T)) (other : Shared), Interleaving ⟨machine, .idle⟩ others other →
      final.stage = .idle → other.stage = .idle →
      (∀ thread, eventsOf thread (posted moves) = eventsOf thread (posted others)) →
      Apart (posted moves) →
      ∀ key, key ∈ final.machine.cycle.1.keypad.held ↔ key ∈ other.machine.cycle.1.keypad.held) ∧
    (machine.keypad.queue = [] → ∀ inputs,
      (machine.run (postings inputs)).cycle = (machine.run (strokes inputs)).cycle) := by
  refine ⟨?_, ?_, ?_, ?_, interleaving.linearizes, ?_, cycle_of_postings⟩
  · obtain ⟨sent, start, same⟩ := interleaving.sends
    refine ⟨sent, start, same, ?_, interleaving.held_eq⟩
    intro thread
    rw [← eventsOf_line machine]
    exact (start.filter _).map _
  · rintro earlier middle later rfl
    exact interleaving.line_prefix
  · rintro earlier event later rfl
    exact interleaving.applied_between
  · rintro earlier middle later rfl
    exact interleaving.applied_eq_nil
  · intro others other another idle otherIdle own apart key
    rw [interleaving.cycle_held idle, another.cycle_held otherIdle]
    refine machine.keypad.mem_applyAll_iff_of_filter_eq ?_
    rw [List.filter_append, List.filter_append, filter_key_congr apart own]

/-- One thread presses a key and lets go of it, another presses a second key.  The second press
falls between the two gets of a cycle, and the release falls after its fetch. -/
theorem queued_keys_neither_lost_nor_doubled_two_threads :
    ∃ (final other : Shared) (moves others : List (Move Bool)),
      moves = [.post false ⟨3, true⟩, .start, .get ⟨3, true⟩, .post true ⟨7, true⟩,
        .apply ⟨3, true⟩, .get ⟨7, true⟩, .apply ⟨7, true⟩, .drained, .fetch,
        .post false ⟨3, false⟩, .finish] ∧
      others = [.post true ⟨7, true⟩, .post false ⟨3, true⟩, .post false ⟨3, false⟩] ∧
      Interleaving ⟨create {} (RandomSource.cycling #[]), .idle⟩ moves final ∧
      Interleaving ⟨create {} (RandomSource.cycling #[]), .idle⟩ others other ∧
      applied moves = [⟨3, true⟩, ⟨7, true⟩] ∧
      final.machine.keypad.held = [3, 7] ∧
      final.machine = (create {} (RandomSource.cycling #[])).run
        [.postKey 3 true, .postKey 7 true, .cycle, .postKey 3 false] ∧
      (∀ key, key ∈ final.machine.cycle.1.keypad.held ↔
        key ∈ other.machine.cycle.1.keypad.held) := by
  have first : Interleaving ⟨create {} (RandomSource.cycling #[]), .idle⟩
      [.post false ⟨3, true⟩, .start, .get ⟨3, true⟩, .post true ⟨7, true⟩, .apply ⟨3, true⟩,
        .get ⟨7, true⟩, .apply ⟨7, true⟩, .drained, .fetch, .post false ⟨3, false⟩, .finish]
      ⟨_, .idle⟩ :=
    .cons (.post _ _ _ _) (.cons (.start _) (.cons (.get _ rfl) (.cons (.post _ _ _ _)
      (.cons (.apply _ _) (.cons (.get _ rfl) (.cons (.apply _ _) (.cons (.drained _ rfl)
        (.cons (.fetch _) (.cons (.post _ _ _ _) (.cons (.finish _) (.nil _)))))))))))
  have second : Interleaving ⟨create {} (RandomSource.cycling #[]), .idle⟩
      [.post true ⟨7, true⟩, .post false ⟨3, true⟩, .post false ⟨3, false⟩] ⟨_, .idle⟩ :=
    .cons (.post _ _ _ _) (.cons (.post _ _ _ _) (.cons (.post _ _ _ _) (.nil _)))
  obtain ⟨⟨_, -, -, -, held⟩, -, -, -, sequential, agree, -⟩ :=
    queued_keys_neither_lost_nor_doubled _ _ _ first
  refine ⟨_, _, _, _, rfl, rfl, first, second, rfl, held, sequential rfl, ?_⟩
  exact agree _ _ second rfl rfl (by decide) (by decide)

end ChipEight.Machine
