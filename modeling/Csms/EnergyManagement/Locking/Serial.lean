import Csms.EnergyManagement.Locking.Chain
import Mathlib.Algebra.GroupWithZero.Nat

/-!
# Handlers run one at a time

The purpose of `withLock`: the handlers of one key exclude each other and run in
the order of the calls, whatever the earlier ones end in, and the map is cleaned
up behind the last of them.  The promise reactions alone bring a queued call to
its handler once the handlers before it have ended.
-/

namespace Csms.EnergyManagement

open Js Transition

universe u

variable {κ : Type u}

/-- How often the promise machinery can still move the call on. -/
def LockCall.reactionsLeft (call : LockCall κ) : Nat :=
  (if call.current = .pending then 1 else 0) + (if call.progress = .queued then 1 else 0)

namespace LockState

def reactionsLeft (state : LockState κ) : Nat :=
  (state.calls.map LockCall.reactionsLeft).sum

theorem sum_map_modify_lt {α : Type u} (weight : α → Nat) (change : α → α) {rows : List α}
    {id : Nat} {row : α} (found : rows[id]? = some row) (lighter : weight (change row) < weight row) :
    ((rows.modify id change).map weight).sum < (rows.map weight).sum := by
  induction rows generalizing id with
  | nil => simp at found
  | cons first rest ih =>
    cases id with
    | zero =>
      obtain rfl := Option.some.inj found
      simpa using lighter
    | succ id =>
      have smaller := ih found
      simpa using smaller

variable {event : LockEvent κ}

section

variable [DecidableEq κ] {state target : LockState κ} (isReaction : event.IsReaction)
    (step : LockEvent.next state event = some target)
include isReaction step

/-- What a promise reaction does: it moves one call on, never past its handler. -/
theorem exists_update_of_isReaction :
    ∃ (id : Nat) (call : LockCall κ) (change : LockCall κ → LockCall κ),
      state.calls[id]? = some call ∧ target = state.update id change ∧ call.Evolves (change call) ∧
      (call.Unfinished → (change call).Unfinished) ∧
      (change call).reactionsLeft < call.reactionsLeft := by
  cases event with
  | withLock | finish => contradiction
  | settleCurrent id =>
    rcases settleCurrent_eq_some_iff.mp step with ⟨call, found, unsettled, _, gateSettled, rfl⟩
    refine ⟨id, call, _, found, rfl, ?_, ?_, ?_⟩
    · exact ⟨rfl, rfl, fun ended => ended, fun settled => absurd unsettled settled⟩
    · exact fun unfinished => unfinished
    · simp [LockCall.reactionsLeft, unsettled, gateSettled]
  | resume id =>
    rcases resume_eq_some_iff.mp step with ⟨call, found, queued, _, rfl⟩
    refine ⟨id, call, _, found, rfl, ?_, ?_, ?_⟩
    · exact ⟨rfl, rfl, fun ended => absurd (Or.inl queued) ended, fun settled => settled⟩
    · exact fun _ => Or.inr rfl
    · simp [LockCall.reactionsLeft, queued]

theorem reactionsLeft_lt : target.reactionsLeft < state.reactionsLeft := by
  rcases exists_update_of_isReaction isReaction step with
    ⟨id, call, change, found, rfl, _, _, fewer⟩
  exact sum_map_modify_lt LockCall.reactionsLeft change found fewer

end

/-- The call is queued or running, and every handler of its key before it has
ended. -/
def IsNext (id : Nat) (key : κ) (state : LockState κ) : Prop :=
  (∃ call, state.calls[id]? = some call ∧ call.key = key ∧ call.Unfinished) ∧
    ∀ (earlier : Nat) (other : LockCall κ), earlier < id →
      state.calls[earlier]? = some other → other.key = key → ¬ other.Unfinished

/-- The handler of the call is running. -/
def Runs (id : Nat) (state : LockState κ) : Prop :=
  ∃ call, state.calls[id]? = some call ∧ call.progress = .running

variable {state : LockState κ}

/-- A reaction that the next call of a key waits for can happen: the chain
settles behind the handler before it, or the call itself comes back. -/
theorem exists_reaction_of_next [DecidableEq κ] (linked : state.Linked) {id : Nat} {key : κ}
    (isNext : state.IsNext id key) (waits : ¬ state.Runs id) :
    ∃ (event : LockEvent κ) (target : LockState κ),
      event.IsReaction ∧ LockEvent.next state event = some target := by
  rcases isNext with ⟨⟨call, found, callKey, unfinished⟩, earlierEnded⟩
  have queued : call.progress = .queued := by
    rcases unfinished with queued | running
    · exact queued
    · exact absurd ⟨call, found, running⟩ waits
  by_cases previousPending : state.promise call.previous = .pending
  · cases previous : call.previous with
    | none =>
      rw [previous] at previousPending
      contradiction
    | some before =>
      rcases linked.chained.previous_last id call before found previous with
        ⟨beforeLt, ⟨link, linkFound, linkKey⟩, _⟩
      have linkEnded : ¬ link.Unfinished :=
        earlierEnded before link beforeLt linkFound (linkKey.trans callKey)
      have linkConsistent := linked.chained.consistent link (List.mem_of_getElem? linkFound)
      have gateSettled : link.gate ≠ .pending := by
        rw [linkConsistent.gate_eq, if_neg linkEnded]
        simp
      have currentPending : link.current = .pending := by
        simpa [previous, promise, linkFound] using previousPending
      have linkAfter := linked.chained.started_after before link linkFound
        (LockCall.started_of_ended linkEnded)
      exact ⟨.settleCurrent before, _, trivial, settleCurrent_eq_some_iff.mpr
        ⟨link, linkFound, currentPending, linkAfter, gateSettled, rfl⟩⟩
  · exact ⟨.resume id, _, trivial,
      resume_eq_some_iff.mpr ⟨call, found, queued, previousPending, rfl⟩⟩

theorem IsNext.of_isReaction [DecidableEq κ] {state target : LockState κ} {id : Nat} {key : κ}
    (isNext : state.IsNext id key) (isReaction : event.IsReaction)
    (step : LockEvent.next state event = some target) : target.IsNext id key := by
  rcases exists_update_of_isReaction isReaction step with
    ⟨moved, call, change, found, rfl, evolves, unfinished, _⟩
  rcases isNext with ⟨⟨waiting, waitingFound, waitingKey, waitingUnfinished⟩, earlierEnded⟩
  constructor
  · rw [getElem?_update]
    split
    · rename_i same
      subst same
      rw [found] at waitingFound ⊢
      obtain rfl := Option.some.inj waitingFound
      exact ⟨change call, rfl, evolves.key_eq.trans waitingKey, unfinished waitingUnfinished⟩
    · exact ⟨waiting, waitingFound, waitingKey, waitingUnfinished⟩
  · intro earlier other isEarlier otherFound sameKey
    rcases exists_of_getElem?_update found evolves otherFound with ⟨old, oldFound, oldEvolves⟩
    rw [oldEvolves.key_eq] at sameKey
    exact oldEvolves.ended (earlierEnded earlier old isEarlier oldFound sameKey)

/-- Whatever the handlers before it ended in, the next call of a key gets to its
handler, in whatever order the promise reactions run. -/
theorem Linked.inevitable_runs [DecidableEq κ] (linked : state.Linked) {id : Nat} {key : κ}
    (isNext : state.IsNext id key) :
    Inevitable LockEvent.next LockEvent.IsReaction (Runs id) state := by
  apply inevitable_of_measure (fun state => state.Linked ∧ state.IsNext id key) reactionsLeft
  · rintro reached ⟨reachedLinked, reachedNext⟩ waits
    exact exists_reaction_of_next reachedLinked reachedNext waits
  · rintro source event target ⟨sourceLinked, sourceNext⟩ isReaction step
    exact ⟨⟨sourceLinked.next event step, sourceNext.of_isReaction isReaction step⟩,
      reactionsLeft_lt isReaction step⟩
  · exact ⟨linked, isNext⟩

/-- What callers of `withLock` rely on. -/
structure Serial [DecidableEq κ] (state : LockState κ) : Prop where
  /-- Handlers of one key exclude each other. -/
  exclusive : ∀ (first second : Nat) (firstCall secondCall : LockCall κ),
    state.calls[first]? = some firstCall → state.calls[second]? = some secondCall →
      firstCall.key = secondCall.key → firstCall.progress = .running →
        secondCall.progress = .running → first = second
  /-- A handler has started only if every earlier handler of its key has ended. -/
  in_order : ∀ (earlier later : Nat) (earlierCall laterCall : LockCall κ), earlier < later →
    state.calls[earlier]? = some earlierCall → state.calls[later]? = some laterCall →
      earlierCall.key = laterCall.key → laterCall.progress ≠ .queued →
        ¬ earlierCall.Unfinished
  /-- A call ends as its own handler did, and the promise it leaves for the next
  call never rejects. -/
  own_outcome : ∀ call ∈ state.calls,
    (∀ outcome, call.progress = .settled outcome → call.handled = some outcome) ∧
      call.current ≠ .rejected
  /-- Once the handlers before it have ended, resolved or rejected, the promise
  reactions bring a queued call to its handler. -/
  never_blocked : ∀ (id : Nat) (key : κ), state.IsNext id key →
    Inevitable LockEvent.next LockEvent.IsReaction (Runs id) state
  /-- The map has an entry exactly while a handler of the key is queued or
  running. -/
  entry_iff : ∀ (key : κ),
    state.locks key ≠ none ↔ ∃ call ∈ state.calls, call.key = key ∧ call.Unfinished

variable [DecidableEq κ]

theorem linked_of_reachable (reachable : Reachable LockEvent.next initial state) : state.Linked :=
  reachable.invariant (fun _ event _ linked step => Linked.next event linked step) linked_initial

omit [DecidableEq κ] in
theorem Chained.exclusive (chained : state.Chained) {first second : Nat}
    {firstCall secondCall : LockCall κ} (firstFound : state.calls[first]? = some firstCall)
    (secondFound : state.calls[second]? = some secondCall)
    (sameKey : firstCall.key = secondCall.key) (firstRuns : firstCall.progress = .running)
    (secondRuns : secondCall.progress = .running) : first = second := by
  have firstStarted : firstCall.progress ≠ .queued := by rw [firstRuns]; simp
  have secondStarted : secondCall.progress ≠ .queued := by rw [secondRuns]; simp
  rcases Nat.lt_trichotomy first second with isBefore | same | isAfter
  · exact absurd (Or.inr firstRuns)
      (chained.ended_of_started secondFound secondStarted isBefore firstFound sameKey)
  · exact same
  · exact absurd (Or.inr secondRuns)
      (chained.ended_of_started firstFound firstStarted isAfter secondFound sameKey.symm)

omit [DecidableEq κ] in
theorem EntriesLast.entry_iff (entries : state.EntriesLast) (key : κ) :
    state.locks key ≠ none ↔ ∃ call ∈ state.calls, call.key = key ∧ call.Unfinished := by
  constructor
  · intro present
    rcases Option.ne_none_iff_exists'.mp present with ⟨id, entry⟩
    rcases entries.entry_last key id entry with ⟨call, found, callKey, unfinished, _⟩
    exact ⟨call, List.mem_of_getElem? found, callKey, unfinished⟩
  · rintro ⟨call, member, callKey, unfinished⟩ absent
    rcases List.mem_iff_getElem?.mp member with ⟨id, found⟩
    exact entries.entry_none key absent id call found callKey unfinished

/-- `withLock` serialises the handlers of each key, for any number of callers and
in every interleaving. -/
theorem withLock_serial {state : LockState κ}
    (reachable : Reachable LockEvent.next initial state) : state.Serial := by
  have linked := linked_of_reachable reachable
  constructor
  · intro first second firstCall secondCall firstFound secondFound
    exact linked.chained.exclusive firstFound secondFound
  · intro earlier later earlierCall laterCall isEarlier earlierFound laterFound sameKey started
    exact linked.chained.ended_of_started laterFound started isEarlier earlierFound sameKey
  · intro call member
    have consistent := linked.chained.consistent call member
    refine ⟨consistent.handled_eq, ?_⟩
    intro rejected
    have fulfilled := (consistent.current_fulfilled (by rw [rejected]; simp)).2
    rw [rejected] at fulfilled
    contradiction
  · intro id key isNext
    exact linked.inevitable_runs isNext
  · exact linked.entries.entry_iff

/-- Two callers of one group, the first of whose handlers rejects. -/
def rejectedFirst : List (LockEvent String) :=
  [.withLock "group", .withLock "group", .resume 0, .finish 0 .rejected, .settleCurrent 0,
    .resume 1]

/-- The second handler runs after the first has rejected. -/
theorem withLock_serial_rejectedFirst :
    ∃ state, rejectedFirst.foldlM LockEvent.next initial = some state ∧ state.Runs 1 ∧
      state.Serial := by
  refine ⟨_, rfl, ⟨_, rfl, rfl⟩, ?_⟩
  apply withLock_serial
  exact reachable_of_foldlM (rfl : rejectedFirst.foldlM LockEvent.next initial = some _)

end LockState

end Csms.EnergyManagement
