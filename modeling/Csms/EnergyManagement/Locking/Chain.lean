import Csms.EnergyManagement.Locking.WithLock

/-!
# The promise chain of the lock

The calls for one key form a chain: the first waits for nothing, and each later
one waits for the `current` of the call before it.  The map names the end of the
chain until its handler has ended, when every handler before it has.  This file
states that as an invariant and proves that every event keeps it.
-/

namespace Csms.EnergyManagement

open Js

universe u

variable {κ : Type u}

namespace LockCall

/-- The local variables of one call agree with each other. -/
structure Consistent (call : LockCall κ) : Prop where
  /-- The gate is released once the handler has ended, and never rejects. -/
  gate_eq : call.gate = if call.Unfinished then .pending else .fulfilled
  /-- The promise left for the next call settles after the gate, and with it. -/
  current_fulfilled : call.current ≠ .pending → ¬ call.Unfinished ∧ call.current = .fulfilled
  /-- The call ends as its handler did. -/
  handled_eq : ∀ outcome, call.progress = .settled outcome → call.handled = some outcome

/-- What a call keeps while it moves on. -/
structure Evolves (call later : LockCall κ) : Prop where
  key_eq : later.key = call.key
  previous_eq : later.previous = call.previous
  ended : ¬ call.Unfinished → ¬ later.Unfinished
  current_settled : call.current ≠ .pending → later.current ≠ .pending

theorem Evolves.refl (call : LockCall κ) : call.Evolves call :=
  ⟨rfl, rfl, id, id⟩

theorem started_of_ended {call : LockCall κ} (ended : ¬ call.Unfinished) :
    call.progress ≠ .queued := by
  intro queued
  exact ended (Or.inl queued)

end LockCall

namespace LockState

/-- The calls of one key are chained in the order they were made. -/
structure Chained (state : LockState κ) : Prop where
  consistent : ∀ call ∈ state.calls, call.Consistent
  /-- A call waits for the last call of its key before it. -/
  previous_last : ∀ (id : Nat) (call : LockCall κ) (before : Nat),
    state.calls[id]? = some call → call.previous = some before →
      before < id ∧
        (∃ link, state.calls[before]? = some link ∧ link.key = call.key) ∧
        ∀ (between : Nat) (other : LockCall κ), before < between → between < id →
          state.calls[between]? = some other → other.key ≠ call.key
  /-- A call waits for nothing when every handler of its key has ended. -/
  unchained : ∀ (id : Nat) (call : LockCall κ),
    state.calls[id]? = some call → call.previous = none →
      ∀ (earlier : Nat) (other : LockCall κ), earlier < id →
        state.calls[earlier]? = some other → other.key = call.key → ¬ other.Unfinished
  /-- A handler starts after the promise its call waits for has settled. -/
  started_after : ∀ (id : Nat) (call : LockCall κ),
    state.calls[id]? = some call → call.progress ≠ .queued →
      state.promise call.previous ≠ .pending

/-- The map names the last call of a key until its handler has ended. -/
structure EntriesLast (state : LockState κ) : Prop where
  entry_last : ∀ (key : κ) (id : Nat), state.locks key = some id →
    ∃ call, state.calls[id]? = some call ∧ call.key = key ∧ call.Unfinished ∧
      ∀ (later : Nat) (other : LockCall κ), id < later →
        state.calls[later]? = some other → other.key ≠ key
  entry_none : ∀ (key : κ), state.locks key = none →
    ∀ (id : Nat) (call : LockCall κ), state.calls[id]? = some call →
      call.key = key → ¬ call.Unfinished

theorem Chained.ended_of_started {state : LockState κ} (chained : state.Chained)
    {id : Nat} {call : LockCall κ} (found : state.calls[id]? = some call)
    (started : call.progress ≠ .queued) {earlier : Nat} {other : LockCall κ}
    (isEarlier : earlier < id) (otherFound : state.calls[earlier]? = some other)
    (sameKey : other.key = call.key) : ¬ other.Unfinished := by
  induction id using Nat.strongRecOn generalizing call with
  | ind id ih =>
    have after := chained.started_after id call found started
    cases previous : call.previous with
    | none => exact chained.unchained id call found previous earlier other isEarlier otherFound sameKey
    | some before =>
      obtain ⟨beforeLt, ⟨link, linkFound, linkKey⟩, noneBetween⟩ :=
        chained.previous_last id call before found previous
      have settled : link.current ≠ .pending := by
        simpa [previous, promise, linkFound] using after
      have linkEnded :=
        ((chained.consistent link (List.mem_of_getElem? linkFound)).current_fulfilled settled).1
      rcases Nat.lt_trichotomy earlier before with further | rfl | between
      · exact ih before beforeLt linkFound (LockCall.started_of_ended linkEnded) further
          (sameKey.trans linkKey.symm)
      · rw [otherFound] at linkFound
        rwa [Option.some.inj linkFound]
      · exact absurd sameKey (noneBetween earlier other between isEarlier otherFound)

section Update

variable {state : LockState κ} {id : Nat} {call : LockCall κ}
  {change : LockCall κ → LockCall κ}

section

variable (found : state.calls[id]? = some call) (evolves : call.Evolves (change call))
include found evolves

theorem exists_of_getElem?_update {other : Nat} {later : LockCall κ}
    (laterFound : (state.update id change).calls[other]? = some later) :
    ∃ earlier, state.calls[other]? = some earlier ∧ earlier.Evolves later := by
  rw [getElem?_update] at laterFound
  split at laterFound
  · rename_i same
    subst same
    rw [found] at laterFound
    obtain rfl := Option.some.inj laterFound
    exact ⟨call, found, evolves⟩
  · exact ⟨later, laterFound, LockCall.Evolves.refl later⟩

theorem exists_getElem?_update {other : Nat} {earlier : LockCall κ}
    (earlierFound : state.calls[other]? = some earlier) :
    ∃ later, (state.update id change).calls[other]? = some later ∧ earlier.Evolves later := by
  rw [getElem?_update]
  split
  · rename_i same
    subst same
    rw [found] at earlierFound ⊢
    obtain rfl := Option.some.inj earlierFound
    exact ⟨change call, rfl, evolves⟩
  · exact ⟨earlier, earlierFound, LockCall.Evolves.refl earlier⟩

theorem promise_update {previous : Option Nat} (settled : state.promise previous ≠ .pending) :
    (state.update id change).promise previous ≠ .pending := by
  cases previous with
  | none => exact settled
  | some before =>
    cases linkFound : state.calls[before]? with
    | none => simp [promise, linkFound] at settled
    | some link =>
      obtain ⟨later, laterFound, linkEvolves⟩ := exists_getElem?_update found evolves linkFound
      have linkSettled : link.current ≠ .pending := by
        simpa [promise, linkFound] using settled
      simpa [promise, laterFound] using linkEvolves.current_settled linkSettled

end

/-- The chain survives a call that stays consistent and starts its handler only
when it may. -/
theorem Chained.update (chained : state.Chained) (found : state.calls[id]? = some call)
    (evolves : call.Evolves (change call)) (consistent : (change call).Consistent)
    (starts : (change call).progress ≠ .queued → state.promise call.previous ≠ .pending) :
    (state.update id change).Chained where
  consistent := by
    intro later member
    obtain ⟨other, laterFound⟩ := List.mem_iff_getElem?.mp member
    rw [getElem?_update] at laterFound
    split at laterFound
    · rename_i same
      subst same
      rw [found] at laterFound
      obtain rfl := Option.some.inj laterFound
      exact consistent
    · exact chained.consistent later (List.mem_of_getElem? laterFound)
  previous_last := by
    intro other later before laterFound previous
    obtain ⟨earlier, earlierFound, earlierEvolves⟩ :=
      exists_of_getElem?_update found evolves laterFound
    rw [earlierEvolves.previous_eq] at previous
    obtain ⟨beforeLt, ⟨link, linkFound, linkKey⟩, noneBetween⟩ :=
      chained.previous_last other earlier before earlierFound previous
    obtain ⟨laterLink, laterLinkFound, linkEvolves⟩ :=
      exists_getElem?_update found evolves linkFound
    refine ⟨beforeLt, ⟨laterLink, laterLinkFound, ?_⟩, ?_⟩
    · rw [linkEvolves.key_eq, linkKey, earlierEvolves.key_eq]
    · intro between laterOther isAfter isBefore otherFound
      obtain ⟨old, oldFound, oldEvolves⟩ := exists_of_getElem?_update found evolves otherFound
      rw [oldEvolves.key_eq, earlierEvolves.key_eq]
      exact noneBetween between old isAfter isBefore oldFound
  unchained := by
    intro other later laterFound previous first laterFirst isEarlier firstFound sameKey
    obtain ⟨earlier, earlierFound, earlierEvolves⟩ :=
      exists_of_getElem?_update found evolves laterFound
    obtain ⟨old, oldFound, oldEvolves⟩ := exists_of_getElem?_update found evolves firstFound
    rw [earlierEvolves.previous_eq] at previous
    rw [oldEvolves.key_eq, earlierEvolves.key_eq] at sameKey
    exact oldEvolves.ended
      (chained.unchained other earlier earlierFound previous first old isEarlier oldFound sameKey)
  started_after := by
    intro other later laterFound started
    apply promise_update found evolves
    rw [getElem?_update] at laterFound
    split at laterFound
    · rename_i same
      subst same
      rw [found] at laterFound
      obtain rfl := Option.some.inj laterFound
      rw [evolves.previous_eq]
      exact starts started
    · exact chained.started_after other later laterFound started

/-- The entries stay right while no handler ends. -/
theorem EntriesLast.update (entries : state.EntriesLast) (found : state.calls[id]? = some call)
    (evolves : call.Evolves (change call))
    (unfinished : call.Unfinished → (change call).Unfinished) :
    (state.update id change).EntriesLast where
  entry_last := by
    intro key last entry
    obtain ⟨lastCall, lastFound, lastKey, lastUnfinished, noneLater⟩ :=
      entries.entry_last key last entry
    have kept : ∃ later, (state.update id change).calls[last]? = some later ∧
        later.key = lastCall.key ∧ later.Unfinished := by
      rw [getElem?_update]
      split
      · rename_i same
        subst same
        rw [found] at lastFound ⊢
        obtain rfl := Option.some.inj lastFound
        exact ⟨change call, rfl, evolves.key_eq, unfinished lastUnfinished⟩
      · exact ⟨lastCall, lastFound, rfl, lastUnfinished⟩
    obtain ⟨later, laterFound, laterKey, laterUnfinished⟩ := kept
    refine ⟨later, laterFound, laterKey.trans lastKey, laterUnfinished, ?_⟩
    intro further other isLater otherFound
    obtain ⟨old, oldFound, oldEvolves⟩ := exists_of_getElem?_update found evolves otherFound
    rw [oldEvolves.key_eq]
    exact noneLater further old isLater oldFound
  entry_none := by
    intro key entry other later laterFound laterKey
    obtain ⟨old, oldFound, oldEvolves⟩ := exists_of_getElem?_update found evolves laterFound
    rw [oldEvolves.key_eq] at laterKey
    exact oldEvolves.ended (entries.entry_none key entry other old oldFound laterKey)

end Update

theorem unfinished_arriving (key : κ) (previous : Option Nat) :
    (LockCall.arriving key previous).Unfinished :=
  Or.inl rfl

theorem consistent_arriving (key : κ) (previous : Option Nat) :
    (LockCall.arriving key previous).Consistent where
  gate_eq := by rw [if_pos (unfinished_arriving key previous)]; rfl
  current_fulfilled := fun settled => absurd rfl settled
  handled_eq := fun _ settled => LockProgress.noConfusion settled

section Arrival

variable [DecidableEq κ] {state : LockState κ}

theorem getElem?_withLock_eq_some_iff (key : κ) (id : Nat) (call : LockCall κ) :
    (state.withLock key).calls[id]? = some call ↔ state.calls[id]? = some call ∨
        id = state.calls.length ∧ call = LockCall.arriving key (state.locks key) :=
  Transition.getElem?_append_singleton_eq_some_iff

theorem promise_withLock (key : κ) {previous : Option Nat}
    (settled : state.promise previous ≠ .pending) :
    (state.withLock key).promise previous ≠ .pending := by
  cases previous with
  | none => exact settled
  | some before =>
    cases linkFound : state.calls[before]? with
    | none => simp [promise, linkFound] at settled
    | some link =>
      have stays := (getElem?_withLock_eq_some_iff key before link).mpr (Or.inl linkFound)
      simpa [promise, linkFound, stays] using settled

theorem Chained.withLock (chained : state.Chained) (entries : state.EntriesLast) (key : κ) :
    (state.withLock key).Chained where
  consistent := by
    intro call member
    rcases List.mem_append.mp member with old | new
    · exact chained.consistent call old
    · rw [List.mem_singleton.mp new]
      exact consistent_arriving key _
  previous_last := by
    intro id call before found previous
    rcases (getElem?_withLock_eq_some_iff key id call).mp found with old | ⟨rfl, rfl⟩
    · rcases chained.previous_last id call before old previous with
        ⟨beforeLt, ⟨link, linkFound, linkKey⟩, noneBetween⟩
      refine ⟨beforeLt, ⟨link, ?_, linkKey⟩, ?_⟩
      · exact (getElem?_withLock_eq_some_iff key before link).mpr (Or.inl linkFound)
      · intro between other isAfter isBefore otherFound
        rcases (getElem?_withLock_eq_some_iff key between other).mp otherFound with
          oldOther | ⟨rfl, _⟩
        · exact noneBetween between other isAfter isBefore oldOther
        · have bound := (List.getElem?_eq_some_iff.mp old).1
          omega
    · -- the new call waits for the call that the map names
      rcases entries.entry_last key before previous with
        ⟨link, linkFound, linkKey, _, noneLater⟩
      refine ⟨(List.getElem?_eq_some_iff.mp linkFound).1, ⟨link, ?_, linkKey⟩, ?_⟩
      · exact (getElem?_withLock_eq_some_iff key before link).mpr (Or.inl linkFound)
      · intro between other isAfter isBefore otherFound
        rcases (getElem?_withLock_eq_some_iff key between other).mp otherFound with
          oldOther | ⟨rfl, _⟩
        · exact noneLater between other isAfter oldOther
        · exact absurd isBefore (Nat.lt_irrefl _)
  unchained := by
    intro id call found previous earlier other isEarlier otherFound sameKey
    have otherOld : state.calls[earlier]? = some other := by
      rcases (getElem?_withLock_eq_some_iff key earlier other).mp otherFound with
        oldOther | ⟨rfl, _⟩
      · exact oldOther
      · have bound := (List.getElem?_eq_some_iff.mp found).1
        simp only [LockState.withLock, List.length_append, List.length_singleton] at bound
        omega
    rcases (getElem?_withLock_eq_some_iff key id call).mp found with old | ⟨rfl, rfl⟩
    · exact chained.unchained id call old previous earlier other isEarlier otherOld sameKey
    · exact entries.entry_none key previous earlier other otherOld sameKey
  started_after := by
    intro id call found started
    apply promise_withLock
    rcases (getElem?_withLock_eq_some_iff key id call).mp found with old | ⟨_, rfl⟩
    · exact chained.started_after id call old started
    · exact absurd rfl started

theorem EntriesLast.withLock (entries : state.EntriesLast) (key : κ) :
    (state.withLock key).EntriesLast where
  entry_last := by
    intro other id entry
    change Function.update state.locks key (some state.calls.length) other = some id at entry
    by_cases same : other = key
    · subst same
      rw [Function.update_self] at entry
      obtain rfl := Option.some.inj entry
      refine ⟨LockCall.arriving other (state.locks other), ?_, rfl,
        unfinished_arriving other _, ?_⟩
      · exact (getElem?_withLock_eq_some_iff other _ _).mpr (Or.inr ⟨rfl, rfl⟩)
      · intro later call isLater found
        have bound := (List.getElem?_eq_some_iff.mp found).1
        simp only [LockState.withLock, List.length_append, List.length_singleton] at bound
        omega
    · rw [Function.update_of_ne same] at entry
      rcases entries.entry_last other id entry with ⟨call, found, callKey, unfinished, noneLater⟩
      refine ⟨call, ?_, callKey, unfinished, ?_⟩
      · exact (getElem?_withLock_eq_some_iff key id call).mpr (Or.inl found)
      · intro later laterCall isLater laterFound
        rcases (getElem?_withLock_eq_some_iff key later laterCall).mp laterFound with
          old | ⟨_, rfl⟩
        · exact noneLater later laterCall isLater old
        · exact Ne.symm same
  entry_none := by
    intro other entry id call found callKey
    change Function.update state.locks key (some state.calls.length) other = none at entry
    by_cases same : other = key
    · rw [same, Function.update_self] at entry
      contradiction
    · rw [Function.update_of_ne same] at entry
      rcases (getElem?_withLock_eq_some_iff key id call).mp found with old | ⟨_, rfl⟩
      · exact entries.entry_none other entry id call old callKey
      · exact absurd callKey.symm same

end Arrival

section Ending

variable {state : LockState κ} {id : Nat} {call : LockCall κ}
  {change : LockCall κ → LockCall κ}

theorem Chained.with_locks (chained : state.Chained) (locks : κ → Option Nat) :
    Chained { state with locks } :=
  ⟨chained.consistent, chained.previous_last, chained.unchained, chained.started_after⟩

/-- When a handler ends, its entry is deleted if it is the last of its key, and
the entry of its key stays right if it is not. -/
theorem EntriesLast.finish [DecidableEq κ] (entries : state.EntriesLast)
    (chained : state.Chained) (found : state.calls[id]? = some call)
    (running : call.progress = .running) (evolves : call.Evolves (change call))
    (ended : ¬ (change call).Unfinished) :
    EntriesLast
      { calls := (state.update id change).calls
        locks := if state.locks call.key = some id then
          Function.update state.locks call.key none else state.locks } where
  entry_last := by
    intro key last entry
    have kept : state.locks key = some last ∧ last ≠ id := by
      dsimp only at entry
      split at entry
      · by_cases same : key = call.key
        · rw [same, Function.update_self] at entry
          contradiction
        · rw [Function.update_of_ne same] at entry
          refine ⟨entry, ?_⟩
          rintro rfl
          rcases entries.entry_last key last entry with ⟨lastCall, lastFound, lastKey, _⟩
          rw [found] at lastFound
          obtain rfl := Option.some.inj lastFound
          exact same lastKey.symm
      · rename_i notLast
        refine ⟨entry, ?_⟩
        rintro rfl
        rcases entries.entry_last key last entry with ⟨lastCall, lastFound, lastKey, _⟩
        rw [found] at lastFound
        obtain rfl := Option.some.inj lastFound
        rw [lastKey] at notLast
        exact notLast entry
    rcases entries.entry_last key last kept.1 with
      ⟨lastCall, lastFound, lastKey, unfinished, noneLater⟩
    refine ⟨lastCall, ?_, lastKey, unfinished, ?_⟩
    · rw [getElem?_update, if_neg kept.2.symm, lastFound]
    · intro later other isLater otherFound
      rcases exists_of_getElem?_update found evolves otherFound with ⟨old, oldFound, oldEvolves⟩
      rw [oldEvolves.key_eq]
      exact noneLater later old isLater oldFound
  entry_none := by
    intro key entry other later laterFound laterKey
    rcases exists_of_getElem?_update found evolves laterFound with ⟨old, oldFound, oldEvolves⟩
    rw [oldEvolves.key_eq] at laterKey
    have erased : state.locks key = none ∨ key = call.key ∧ state.locks key = some id := by
      dsimp only at entry
      split at entry
      · rename_i isLast
        by_cases same : key = call.key
        · exact Or.inr ⟨same, same ▸ isLast⟩
        · rw [Function.update_of_ne same] at entry
          exact Or.inl entry
      · exact Or.inl entry
    rcases erased with absent | ⟨rfl, isLast⟩
    · exact oldEvolves.ended (entries.entry_none key absent other old oldFound laterKey)
    · rcases Nat.lt_trichotomy other id with isEarlier | rfl | isLater
      · -- the handlers before the one that ran had ended
        have started : call.progress ≠ .queued := by rw [running]; simp
        exact oldEvolves.ended (chained.ended_of_started found started isEarlier oldFound laterKey)
      · rw [getElem?_update, if_pos rfl, found] at laterFound
        obtain rfl := Option.some.inj laterFound
        exact ended
      · rcases entries.entry_last _ id isLast with ⟨_, _, _, _, noneLater⟩
        exact absurd laterKey (noneLater other old isLater oldFound)

end Ending

/-- The invariant of the lock. -/
structure Linked (state : LockState κ) : Prop where
  chained : state.Chained
  entries : state.EntriesLast

theorem linked_initial : (initial : LockState κ).Linked where
  chained :=
    ⟨fun _ member => absurd member List.not_mem_nil, fun _ _ _ found => by simp [initial] at found,
      fun _ _ found => by simp [initial] at found, fun _ _ found => by simp [initial] at found⟩
  entries :=
    ⟨fun _ _ entry => by simp [initial] at entry, fun _ _ _ _ found => by simp [initial] at found⟩

theorem Linked.settleCurrent {state target : LockState κ} {id : Nat} (linked : state.Linked)
    (step : state.settleCurrent id = some target) : target.Linked := by
  rcases settleCurrent_eq_some_iff.mp step with ⟨call, found, unsettled, _, gateSettled, rfl⟩
  have consistent := linked.chained.consistent call (List.mem_of_getElem? found)
  have ended : ¬ call.Unfinished := by
    intro unfinished
    rw [consistent.gate_eq, if_pos unfinished] at gateSettled
    contradiction
  have gateEq : call.gate = .fulfilled := by rw [consistent.gate_eq, if_neg ended]
  have evolves : call.Evolves { call with current := call.gate } :=
    ⟨rfl, rfl, fun ended => ended, fun settled => absurd unsettled settled⟩
  constructor
  · apply linked.chained.update found evolves
    · exact ⟨consistent.gate_eq, fun _ => ⟨ended, gateEq⟩, consistent.handled_eq⟩
    · exact linked.chained.started_after id call found
  · exact linked.entries.update found evolves fun unfinished => unfinished

theorem Linked.resume {state target : LockState κ} {id : Nat} (linked : state.Linked)
    (step : state.resume id = some target) : target.Linked := by
  rcases resume_eq_some_iff.mp step with ⟨call, found, queued, previousSettled, rfl⟩
  have consistent := linked.chained.consistent call (List.mem_of_getElem? found)
  have unfinished : call.Unfinished := Or.inl queued
  let later : LockCall κ := { call with progress := .running }
  have laterUnfinished : later.Unfinished := Or.inr rfl
  have evolves : call.Evolves later :=
    ⟨rfl, rfl, fun ended => absurd unfinished ended, fun settled => settled⟩
  constructor
  · apply linked.chained.update found evolves
    · refine ⟨?_, ?_, ?_⟩
      · exact consistent.gate_eq.trans ((if_pos unfinished).trans (if_pos laterUnfinished).symm)
      · intro settled
        exact absurd unfinished (consistent.current_fulfilled settled).1
      · intro outcome settled
        contradiction
    · exact fun _ => previousSettled
  · exact linked.entries.update found evolves fun _ => laterUnfinished

theorem Linked.finish [DecidableEq κ] {state target : LockState κ} {id : Nat} {outcome : Outcome}
    (linked : state.Linked) (step : state.finish id outcome = some target) : target.Linked := by
  rcases finish_eq_some_iff.mp step with ⟨call, found, running, rfl⟩
  have consistent := linked.chained.consistent call (List.mem_of_getElem? found)
  have unfinished : call.Unfinished := Or.inr running
  let later : LockCall κ :=
    { call with gate := .fulfilled, handled := some outcome, progress := .settled outcome }
  have ended : ¬ later.Unfinished := by simp [later, LockCall.Unfinished]
  have evolves : call.Evolves later := ⟨rfl, rfl, fun _ => ended, fun settled => settled⟩
  constructor
  · apply Chained.with_locks
    apply linked.chained.update found evolves
    · refine ⟨(if_neg ended).symm, ?_, ?_⟩
      · intro settled
        exact absurd unfinished (consistent.current_fulfilled settled).1
      · intro other settled
        exact congrArg some (LockProgress.settled.inj settled)
    · intro _
      exact linked.chained.started_after id call found (by rw [running]; simp)
  · exact linked.entries.finish linked.chained found running evolves ended

theorem Linked.next [DecidableEq κ] {state target : LockState κ} (event : LockEvent κ)
    (linked : state.Linked) (step : LockEvent.next state event = some target) :
    target.Linked := by
  cases event with
  | withLock key =>
    obtain rfl := Option.some.inj step
    exact ⟨linked.chained.withLock linked.entries key, linked.entries.withLock key⟩
  | settleCurrent id => exact linked.settleCurrent step
  | resume id => exact linked.resume step
  | finish id outcome => exact linked.finish step

end LockState

end Csms.EnergyManagement
