import Csms.Js.Value

/-!
# Callbacks of OCPI commands

`OcpiCommandCallbackService.deliver` posts the result of a command until it is received or
the attempts run out.  Each attempt is also annotated on the command, inside the same `try`
block, so that a failing annotation is taken for a failing request.
-/

namespace Csms.Commands.Callback

open Js

/-- `callbackMaxAttempts`, of the number that is configured. -/
def callbackMaxAttempts : Option JsNumber → Nat
  | some (.finite parsed) => if parsed ≤ 0 then 3 else ⌊parsed⌋.toNat
  | _ => 3

/-- What an attempt meets: the status of the response, if there is one, and whether the
annotations after it and in the `catch` block succeed. -/
structure Attempt where
  response : Option Nat
  (annotates annotatesFailure : Bool)

def shouldRetryDelivery (attempt maxAttempts : Nat) (httpStatus : Option Nat) : Bool :=
  if maxAttempts ≤ attempt then false
  else
    match httpStatus with
    | none => true
    | some status => status = 408 || status = 425 || status = 429 || 500 ≤ status

/-- `response.ok`. -/
def isOk (response : Option Nat) : Bool :=
  response.any fun status => 200 ≤ status && status ≤ 299

/-- Whether another attempt follows one; `false` is a return, or an exception of the `catch`
block. -/
def goesOn (attempt maxAttempts : Nat) (met : Attempt) : Bool :=
  let afterCatch := met.annotatesFailure && shouldRetryDelivery attempt maxAttempts none
  match met.response with
  | none => afterCatch
  | some status =>
    if met.annotates then
      !isOk (some status) && shouldRetryDelivery attempt maxAttempts (some status)
    else afterCatch

/-- The outcomes of the requests from an attempt on, of which some are left. -/
def deliverFrom (met : Nat → Attempt) (maxAttempts attempt : Nat) : Nat → List (Option Nat)
  | 0 => []
  | left + 1 =>
    (met attempt).response ::
      if goesOn attempt maxAttempts (met attempt) then
        deliverFrom met maxAttempts (attempt + 1) left
      else []

/-- `deliver`, which is due when callbacks are enabled and the command has a URL and no callback
that was delivered. -/
def deliver (isDue : Bool) (maxAttempts : Nat) (met : Nat → Attempt) : List (Option Nat) :=
  if isDue then deliverFrom met maxAttempts 1 maxAttempts else []

def IsRetryable (outcome : Option Nat) : Prop :=
  shouldRetryDelivery 0 1 outcome = true

/-- The outcomes of requests, when some may be made, are retried as they should be. -/
structure Lawful (maxAttempts : Nat) (outcomes : List (Option Nat)) : Prop where
  length_le : outcomes.length ≤ maxAttempts
  retries : ∀ index outcome, outcomes[index]? = some outcome →
    (index + 1 < outcomes.length ↔ IsRetryable outcome ∧ index + 1 < maxAttempts)
  last : ∀ index outcome, outcomes[index]? = some outcome → isOk outcome = true →
    index + 1 = outcomes.length

/-- The bookkeeping of an attempt leaves the decision to the outcome of the request. -/
def Attempt.IsUndistorted (met : Attempt) : Prop :=
  match met.response with
  | none => met.annotatesFailure = true
  | some _ =>
    met.annotates = true ∨ (met.annotatesFailure = true ↔ IsRetryable met.response)

theorem not_isRetryable_of_isOk {outcome : Option Nat} (ok : isOk outcome = true) :
    ¬ IsRetryable outcome := by
  rcases outcome with _ | status
  · contradiction
  · simp [isOk] at ok
    simp [IsRetryable, shouldRetryDelivery]
    omega

theorem lawful_nil (maxAttempts : Nat) : Lawful maxAttempts [] :=
  ⟨Nat.zero_le _, nofun, nofun⟩

theorem lawful_cons_iff {maxAttempts : Nat} {outcome : Option Nat} {rest : List (Option Nat)} :
    Lawful (maxAttempts + 1) (outcome :: rest) ↔
      (rest ≠ [] ↔ IsRetryable outcome ∧ 0 < maxAttempts) ∧ Lawful maxAttempts rest := by
  rw [← List.length_pos_iff]
  constructor
  · intro lawful
    have first := lawful.retries 0 outcome rfl
    refine ⟨by simpa using first, Nat.le_of_succ_le_succ lawful.length_le, ?_, ?_⟩
    · intro index later isLater
      have retries := lawful.retries (index + 1) later isLater
      rwa [List.length_cons, Nat.add_lt_add_iff_right, Nat.add_lt_add_iff_right] at retries
    · intro index later isLater ok
      exact Nat.succ_injective (lawful.last (index + 1) later isLater ok)
  · rintro ⟨first, lawful⟩
    refine ⟨Nat.succ_le_succ lawful.length_le, ?_, ?_⟩
    · rintro (_ | index) later isLater
      · cases isLater
        simpa using first
      · rw [List.length_cons, Nat.add_lt_add_iff_right, Nat.add_lt_add_iff_right]
        exact lawful.retries index later isLater
    · rintro (_ | index) later isLater ok
      · cases isLater
        have isLast := mt first.mp fun retried => not_isRetryable_of_isOk ok retried.1
        rw [List.length_cons, Nat.eq_zero_of_not_pos isLast]
      · exact congrArg Nat.succ (lawful.last index later isLater ok)

theorem goesOn_iff {attempt maxAttempts : Nat} (before : attempt < maxAttempts) (met : Attempt) :
    (goesOn attempt maxAttempts met = true ↔ IsRetryable met.response) ↔ met.IsUndistorted := by
  have decides (httpStatus : Option Nat) :
      shouldRetryDelivery attempt maxAttempts httpStatus = shouldRetryDelivery 0 1 httpStatus := by
    simp [shouldRetryDelivery, before.not_ge]
  rcases met with ⟨_ | status, annotates, annotatesFailure⟩
  · simp [goesOn, Attempt.IsUndistorted, IsRetryable, shouldRetryDelivery, before]
  · cases annotates with
    | false => simp [goesOn, Attempt.IsUndistorted, shouldRetryDelivery, before]
    | true =>
      have notBoth : isOk (some status) = true → shouldRetryDelivery 0 1 (some status) = false :=
        fun ok => Bool.eq_false_of_not_eq_true (not_isRetryable_of_isOk ok)
      cases ok : isOk (some status) <;> simp_all [goesOn, Attempt.IsUndistorted, IsRetryable]

theorem goesOn_last {attempt maxAttempts : Nat} (isLast : maxAttempts ≤ attempt) (met : Attempt) :
    goesOn attempt maxAttempts met = false := by
  rcases met with ⟨_ | status, annotates, annotatesFailure⟩ <;>
    simp [goesOn, shouldRetryDelivery, isLast]

theorem lawful_deliverFrom_iff (met : Nat → Attempt) (past left : Nat) :
    Lawful left (deliverFrom met (past + left) (past + 1) left) ↔
      ∀ later, past < later → later < past + left →
        (∀ earlier, past < earlier → earlier < later → IsRetryable (met earlier).response) →
          (met later).IsUndistorted := by
  induction left generalizing past with
  | zero => exact iff_of_true (lawful_nil 0) fun later after before => by omega
  | succ left inductionHypothesis =>
    rw [deliverFrom, lawful_cons_iff, Nat.add_left_comm, Nat.add_comm left]
    rcases Nat.eq_zero_or_pos left with rfl | someLeft
    · rw [goesOn_last le_rfl]
      exact iff_of_true ⟨by simp, lawful_nil 0⟩ fun later after before => by omega
    · have before : past + 1 < past + 1 + left := Nat.lt_add_of_pos_right someLeft
      have undistorted := goesOn_iff before (met (past + 1))
      have goes : (if goesOn (past + 1) (past + 1 + left) (met (past + 1)) = true then
          deliverFrom met (past + 1 + left) (past + 1 + 1) left else []) ≠ [] ↔
            goesOn (past + 1) (past + 1 + left) (met (past + 1)) = true := by
        cases left with
        | zero => contradiction
        | succ left => simp [deliverFrom]
      rw [goes, and_iff_left someLeft, undistorted]
      constructor
      · rintro ⟨first, others⟩ later after isBefore retryable
        rcases (Nat.succ_le_of_lt after).eq_or_lt with rfl | isLater
        · exact first
        · rw [if_pos ((undistorted.mpr first).mpr (retryable (past + 1) (by omega) isLater))] at others
          exact (inductionHypothesis (past + 1)).mp others later isLater isBefore
            fun earlier isAfter => retryable earlier (by omega)
      · intro all
        have first := all (past + 1) (by omega) before fun earlier _ _ => by omega
        refine ⟨first, ?_⟩
        split
        · rename_i isRetried
          refine (inductionHypothesis (past + 1)).mpr fun later after isBefore retryable =>
            all later (by omega) isBefore fun earlier isAfter isEarlier => ?_
          rcases (Nat.succ_le_of_lt isAfter).eq_or_lt with rfl | isLater
          · exact (undistorted.mpr first).mp isRetried
          · exact retryable earlier isLater isEarlier
        · exact lawful_nil left

/-- `deliver` is lawful exactly when the bookkeeping leaves the decision to the response, in every
attempt but the last that is made while all responses are retryable. -/
theorem lawful_deliver_iff (isDue : Bool) (maxAttempts : Nat) (met : Nat → Attempt) :
    Lawful maxAttempts (deliver isDue maxAttempts met) ↔
      (isDue = true → ∀ attempt, 0 < attempt → attempt < maxAttempts →
        (∀ earlier, 0 < earlier → earlier < attempt → IsRetryable (met earlier).response) →
          (met attempt).IsUndistorted) := by
  cases isDue with
  | false => exact iff_of_true (lawful_nil maxAttempts) nofun
  | true =>
    have lawful := lawful_deliverFrom_iff met 0 maxAttempts
    rw [Nat.zero_add, Nat.zero_add] at lawful
    rw [deliver, if_pos rfl, lawful, forall_prop_of_true rfl]

/-- The first annotation fails: a result that was received is posted again. -/
theorem not_lawful_received :
    ¬ Lawful 3 (deliver true 3 fun attempt => ⟨some 200, attempt ≠ 1, true⟩) := by
  intro lawful
  exact absurd (lawful.last 0 (some 200) rfl rfl) (by decide)

end Csms.Commands.Callback
