import Csms.Transition.Run
import Mathlib.Logic.Function.Basic

/-!
# The lock of the energy management service

`withLock` chains the calls for one key through promises: every call leaves its
`current` in the map, and the next call of the key waits for it.  A call runs
from one `await` to the next without interruption, and what happens at one
`await` is one event here: a caller arrives, the promise chain moves on, an
`await` comes back.  Any order of enabled events is an interleaving of calls,
handlers and promise reactions; what the handlers do in between, calling
`withLock` again included, is other events.
-/

namespace Csms.Js

/-! ## Promises

A derived promise settles some reactions later than the promise it comes from, so
the state of one that another gives is read when the reaction runs, not at once.
-/

/-- Where a promise without a value of interest stands. -/
inductive PromiseState where
  | pending
  | fulfilled
  | rejected
deriving DecidableEq, Repr

namespace PromiseState

/-- `promise.catch(() => undefined)`. -/
def catchUndefined : PromiseState → PromiseState
  | pending => pending
  | fulfilled => fulfilled
  | rejected => fulfilled

/-- `promise.then(() => next)`, where `next` is itself a promise. -/
def thenReturn (promise next : PromiseState) : PromiseState :=
  match promise with
  | pending => pending
  | fulfilled => next
  | rejected => rejected

theorem catch_then_eq_pending_iff (promise next : PromiseState) :
    promise.catchUndefined.thenReturn next = pending ↔ promise = pending ∨ next = pending := by
  cases promise <;> simp [catchUndefined, thenReturn]

theorem catch_then_of_settled {promise : PromiseState} (settled : promise ≠ pending)
    (next : PromiseState) : promise.catchUndefined.thenReturn next = next := by
  cases promise with
  | pending => contradiction
  | fulfilled => rfl
  | rejected => rfl

end PromiseState

end Csms.Js

namespace Csms.EnergyManagement

open Js

universe u

/-- How a handler ends, and how the call that ran it does. -/
inductive Outcome where
  | resolved
  | rejected
deriving DecidableEq, Repr

/-- Where a call of `withLock` stands. -/
inductive LockProgress where
  /-- At `await previous.catch(() => undefined)`. -/
  | queued
  /-- At `return await handler()`; the handler runs until this comes back. -/
  | running
  /-- The promise that `withLock` returned has settled. -/
  | settled (outcome : Outcome)
deriving DecidableEq, Repr

/-- The local variables of one call of `withLock`. -/
structure LockCall (κ : Type u) where
  key : κ
  /-- The call whose `current` is `previous`; `none` for `Promise.resolve()`. -/
  previous : Option Nat
  (gate current : PromiseState)
  progress : LockProgress
  /-- How the handler ended, once it has. -/
  handled : Option Outcome
deriving Repr

namespace LockCall

variable {κ : Type u}

/-- A call of `withLock` at its first `await`. -/
def arriving (key : κ) (previous : Option Nat) : LockCall κ where
  key := key
  previous := previous
  gate := .pending
  current := .pending
  progress := .queued
  handled := none

/-- The handler of the call is queued or running. -/
def Unfinished (call : LockCall κ) : Prop :=
  call.progress = .queued ∨ call.progress = .running

instance (call : LockCall κ) : Decidable call.Unfinished :=
  inferInstanceAs (Decidable (_ ∨ _))

end LockCall

/-- The calls made so far, in the order they were made, and the map `locks`,
which holds the `current` of the call it names. -/
structure LockState (κ : Type u) where
  calls : List (LockCall κ)
  locks : κ → Option Nat

namespace LockState

variable {κ : Type u}

/-- No call has been made. -/
def initial : LockState κ where
  calls := []
  locks := fun _ => none

/-- The promise `this.locks.get(key) || Promise.resolve()` evaluated to. -/
def promise (state : LockState κ) : Option Nat → PromiseState
  | none => .fulfilled
  | some id => (state.calls[id]?).elim .pending LockCall.current

def update (state : LockState κ) (id : Nat) (change : LockCall κ → LockCall κ) : LockState κ :=
  { state with calls := state.calls.modify id change }

@[simp]
theorem update_locks (state : LockState κ) (id : Nat) (change : LockCall κ → LockCall κ) :
    (state.update id change).locks = state.locks :=
  rfl

theorem getElem?_update (state : LockState κ) (id : Nat) (change : LockCall κ → LockCall κ)
    (other : Nat) : (state.update id change).calls[other]? =
      if id = other then (state.calls[other]?).map change else state.calls[other]? := by
  unfold update
  rw [List.getElem?_modify]
  split
  · rfl
  · exact Option.map_id'

section Events

variable [DecidableEq κ]

/-- `withLock(key, handler)` up to its first `await`. -/
def withLock (key : κ) (state : LockState κ) : LockState κ where
  calls := state.calls ++ [LockCall.arriving key (state.locks key)]
  locks := Function.update state.locks key (some state.calls.length)

/-- `current`, which is `previous.catch(() => undefined).then(() => gate)`,
settles. -/
def settleCurrent (id : Nat) (state : LockState κ) : Option (LockState κ) :=
  match state.calls[id]? with
  | none => none
  | some call =>
    let chained := (state.promise call.previous).catchUndefined.thenReturn call.gate
    if call.current = .pending ∧ chained ≠ .pending then
      some (state.update id fun call => { call with current := chained })
    else none

/-- `await previous.catch(() => undefined)` comes back: the `try` statement
begins, or the call ends before it. -/
def resume (id : Nat) (state : LockState κ) : Option (LockState κ) :=
  match state.calls[id]? with
  | none => none
  | some call =>
    if call.progress = .queued then
      match (state.promise call.previous).catchUndefined with
      | .pending => none
      | .fulfilled => some (state.update id fun call => { call with progress := .running })
      | .rejected =>
        some (state.update id fun call => { call with progress := .settled .rejected })
    else none

/-- `await handler()` comes back, and the `finally` block runs. -/
def finish (id : Nat) (outcome : Outcome) (state : LockState κ) : Option (LockState κ) :=
  match state.calls[id]? with
  | none => none
  | some call =>
    if call.progress = .running then
      let released := state.update id fun call =>
        { call with gate := .fulfilled, handled := some outcome, progress := .settled outcome }
      some { released with
        locks :=
          if released.locks call.key = some id then
            Function.update released.locks call.key none
          else released.locks }
    else none

omit [DecidableEq κ] in
theorem settleCurrent_eq_some_iff {id : Nat} {state target : LockState κ} :
    state.settleCurrent id = some target ↔
      ∃ call, state.calls[id]? = some call ∧ call.current = .pending ∧
        state.promise call.previous ≠ .pending ∧ call.gate ≠ .pending ∧
        target = state.update id fun moved => { moved with current := call.gate } := by
  unfold settleCurrent
  cases found : state.calls[id]? with
  | none => simp
  | some call =>
    simp only [Option.some.injEq, exists_eq_left', ne_eq,
      PromiseState.catch_then_eq_pending_iff, not_or]
    constructor
    · intro step
      split at step
      · rename_i enabled
        obtain ⟨unsettled, previousSettled, gateSettled⟩ := enabled
        rw [PromiseState.catch_then_of_settled previousSettled] at step
        exact ⟨unsettled, previousSettled, gateSettled, (Option.some.inj step).symm⟩
      · contradiction
    · rintro ⟨unsettled, previousSettled, gateSettled, rfl⟩
      rw [if_pos ⟨unsettled, previousSettled, gateSettled⟩,
        PromiseState.catch_then_of_settled previousSettled]

omit [DecidableEq κ] in
/-- The `await` before the `try` statement never throws. -/
theorem resume_eq_some_iff {id : Nat} {state target : LockState κ} : state.resume id = some target ↔
      ∃ call, state.calls[id]? = some call ∧ call.progress = .queued ∧
        state.promise call.previous ≠ .pending ∧
        target = state.update id fun moved => { moved with progress := .running } := by
  unfold resume
  cases found : state.calls[id]? with
  | none => simp
  | some call =>
    simp only [Option.some.injEq, exists_eq_left']
    by_cases queued : call.progress = .queued
    · rw [if_pos queued]
      cases previous : state.promise call.previous <;>
        simp [PromiseState.catchUndefined, queued, eq_comm]
    · rw [if_neg queued]
      simp [queued]

theorem finish_eq_some_iff {id : Nat} {outcome : Outcome} {state target : LockState κ} :
    state.finish id outcome = some target ↔
      ∃ call, state.calls[id]? = some call ∧ call.progress = .running ∧ target =
          { calls := (state.update id fun moved =>
              { moved with
                gate := .fulfilled, handled := some outcome, progress := .settled outcome }).calls
            locks := if state.locks call.key = some id then
              Function.update state.locks call.key none else state.locks } := by
  unfold finish
  cases found : state.calls[id]? with
  | none => simp
  | some call =>
    simp only [Option.some.injEq, exists_eq_left']
    by_cases running : call.progress = .running
    · rw [if_pos running]
      simp [running, eq_comm]
    · rw [if_neg running]
      simp [running]

end Events

end LockState

/-- What can happen between two awaits. -/
inductive LockEvent (κ : Type u) where
  | withLock (key : κ)
  | settleCurrent (id : Nat)
  | resume (id : Nat)
  | finish (id : Nat) (outcome : Outcome)

namespace LockEvent

variable {κ : Type u}

/-- The events the promise machinery brings about by itself, without a caller
or a handler. -/
def IsReaction : LockEvent κ → Prop
  | .withLock _ => False
  | .settleCurrent _ => True
  | .resume _ => True
  | .finish _ _ => False

/-- The state after an event; `none` when it cannot happen. -/
def next [DecidableEq κ] (state : LockState κ) : LockEvent κ → Option (LockState κ)
  | .withLock key => some (state.withLock key)
  | .settleCurrent id => state.settleCurrent id
  | .resume id => state.resume id
  | .finish id outcome => state.finish id outcome

end LockEvent

end Csms.EnergyManagement
