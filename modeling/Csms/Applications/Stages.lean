import Csms.Applications.Effects

/-!
# The stages of an application

Each operation but one checks the stage it has read before it sets the next one, and no
statement looks at the stage that it overwrites.  An application moves forward as long as
nothing changes its stage in between, and payments are synchronised only while they are
awaited.
-/

namespace Csms.Applications

open Database

namespace TenantOnboardingStage

/-- How far a stage is on the way to an active tenant. -/
def rank : TenantOnboardingStage → Nat
  | submitted => 0
  | underReview => 1
  | approvedPendingTier => 2
  | tierConfirmedPendingPayment | quotePending => 3
  | paymentConfirmedPendingActivation | quoteAcceptedPendingActivation => 4
  | completed | rejected => 5

/-- A stage stays or moves forward; a reviewer can reject what is to be reviewed. -/
def Advances (isRejection : Bool) (before after : TenantOnboardingStage) : Prop :=
  after = before ∨ (after ≠ rejected ∧ before.rank < after.rank) ∨
    (after = rejected ∧ isRejection = true ∧ before.isReviewable = true)

instance (isRejection : Bool) (before after : TenantOnboardingStage) :
    Decidable (Advances isRejection before after) :=
  inferInstanceAs (Decidable (_ ∨ _))

theorem Advances.eq_of_terminal {isRejection : Bool} {before after : TenantOnboardingStage}
    (advances : Advances isRejection before after) (terminal : before.isNonTerminal = false) :
    after = before := by
  rcases advances with same | ⟨isOther, further⟩ | ⟨_, _, reviewable⟩
  · exact same
  · cases before <;> cases after <;> simp_all [rank, isNonTerminal]
  · cases before <;> simp [isReviewable, isNonTerminal] at reviewable terminal

end TenantOnboardingStage

def Store.stage? (store : Store) (id : String) : Option TenantOnboardingStage :=
  (store.application? id).map TenantApplication.onboardingStage

def ApplicationChange.isRejection : ApplicationChange → Bool
  | reject .. => true
  | _ => false

/-- The statement is that of a reviewer who rejects an application. -/
def OnboardingWrite.isRejection : OnboardingWrite → Bool
  | updateApplication _ change => change.isRejection
  | _ => false

def StagesAdvance (isRejection : Bool) (before after : Store) : Prop :=
  ∀ id stage, before.stage? id = some stage →
    ∃ next, after.stage? id = some next ∧ stage.Advances isRejection next

/-- The stages at which applications have ended stay. -/
def KeepsEnded (before after : Store) : Prop :=
  ∀ id stage, before.stage? id = some stage → stage.isNonTerminal = false →
    after.stage? id = some stage

theorem StagesAdvance.keepsEnded {isRejection : Bool} {before after : Store}
    (advance : StagesAdvance isRejection before after) : KeepsEnded before after := by
  intro id stage found terminal
  rcases advance id stage found with ⟨next, isNext, advances⟩
  rw [isNext, advances.eq_of_terminal terminal]

/-- A payment is synchronised while it is awaited, or once more when it is settled. -/
def ApplicationChange.isDue : ApplicationChange → TenantOnboardingStage → Bool
  | syncPaymentStatus _ status _, stage =>
    stage = .tierConfirmedPendingPayment ||
      isSettled status && stage = .paymentConfirmedPendingActivation
  | _, _ => true

/-- A statement that sets a stage finds the one that its operation has read. -/
def OnboardingWrite.isInOrder : OnboardingWrite → Store → Bool
  | updateApplication current change, store =>
    (change.nextStage current).isNone ||
      (store.stage? current.id = some current.onboardingStage &&
        change.isDue current.onboardingStage)
  | _, _ => true

def inOrder : Conditions Store OnboardingQuery OnboardingWrite OnboardingAction where
  onArrive _ _ := true
  onQuery _ _ _ := true
  onCommit _ write shared := write.isInOrder shared.store

namespace ApplicationChange

variable {current : TenantApplication} {change : ApplicationChange}

theorem advances_of_guard (guarded : change.guard current.onboardingStage = true)
    (due : change.isDue current.onboardingStage = true) {next : TenantOnboardingStage}
    (isNext : change.nextStage current = some next) :
    current.onboardingStage.Advances change.isRejection next := by
  cases change with
  | updateOwn dto => contradiction
  | createPaymentIntent intentId status now =>
    have isStage : current.onboardingStage = .tierConfirmedPendingPayment :=
      of_decide_eq_true guarded
    simp only [nextStage, isStage, Option.some.injEq] at isNext
    simp only [isStage, ← isNext, isRejection]
    cases isSettled status <;> decide
  | syncPaymentStatus intentId status now =>
    simp only [nextStage, Option.some.injEq] at isNext
    revert due
    simp only [← isNext, isDue, isRejection]
    cases isSettled status <;> cases current.onboardingStage <;> decide
  | confirmTier tierCode billingCycle snapshot now =>
    have isStage : current.onboardingStage = .approvedPendingTier := of_decide_eq_true guarded
    simp only [nextStage, Option.some.injEq] at isNext
    simp only [isStage, ← isNext, isRejection]
    cases snapshot.isCustomPricing <;> decide
  | _ =>
    cases isNext
    revert guarded
    simp only [guard, isRejection]
    cases current.onboardingStage <;> decide

end ApplicationChange

theorem OnboardingWrite.stagesAdvance {write : OnboardingWrite} {store after : Store}
    {result : write.Result} (guarded : write.IsGuarded) (inOrder : write.isInOrder store = true)
    (run : write.body.run store = some (after, result)) :
    StagesAdvance write.isRejection store after := by
  intro id stage found
  rcases Option.map_eq_some_iff.mp found with ⟨row, isRow, isStage⟩
  have stays (other : write.isUpdateOf id = false) :
      ∃ next, after.stage? id = some next ∧ stage.Advances write.isRejection next := by
    refine ⟨stage, ?_, Or.inl rfl⟩
    rw [Store.stage?, application?_of_other run isRow other, Option.map_some, isStage]
  cases write with
  | updateApplication current change =>
    by_cases isIt : id = current.id
    · have isAfter := application?_of_run run id
      rw [applicationAfter, if_pos isIt, isRow, Option.map_some] at isAfter
      refine ⟨(change.apply current row).onboardingStage, ?_, ?_⟩
      · rw [Store.stage?, isAfter, Option.map_some]
      · rw [ApplicationChange.onboardingStage_apply, isStage]
        rcases isNext : change.nextStage current with _ | next
        · exact Or.inl rfl
        · simp only [isInOrder, isNext, Option.isNone_some, Bool.false_or, Bool.and_eq_true,
            decide_eq_true_eq] at inOrder
          rw [← isIt, found, Option.some.injEq] at inOrder
          rw [Option.getD_some, inOrder.1]
          exact ApplicationChange.advances_of_guard guarded.1 inOrder.2 isNext
    · exact stays (decide_eq_false isIt)
  | _ => exact stays rfl

/-- In a run whose statements are in order, each statement lets all stages advance, and an
application that has ended stays as it ended. -/
theorem stages_advance_of_inOrder {runtime : Billing.Webhooks.Runtime} {store : Store}
    {state : OnboardingState} (reachable : state.Reachable runtime inOrder store) :
    (∀ commit ∈ state.shared.commits,
        StagesAdvance commit.label.isRejection commit.before commit.after) ∧
      KeepsEnded store state.shared.store ∧
      ∀ commit ∈ state.shared.commits, KeepsEnded commit.after state.shared.store := by
  have each : ∀ commit ∈ state.shared.commits,
      StagesAdvance commit.label.isRejection commit.before commit.after := by
    refine ReadCommitted.Reachable.forall_commits OnboardingWrite.guarded
      (fun action => (follows_program runtime action).imp fun _ follows => follows.2)
      (fun write before after => StagesAdvance write.isRejection before after) ?_ reachable
    intro _ shared write after result guarded permitted run
    exact write.stagesAdvance guarded permitted run
  refine ⟨each, ?_⟩
  apply ReadCommitted.Reachable.related OnboardingWrite.guarded _ _ reachable
  · exact fun commit member => (each commit member).keepsEnded
  · exact fun store id stage found _ => found
  · intro first second third left right id stage found terminal
    exact right id stage (left id stage found terminal) terminal

namespace Sample

def activates (id : Nat) (name : String) : List (DatabaseEvent OnboardingAction) :=
  [.arrive (.activate (Billing.Sample.call name) "root" applicationId ⟨none, none, none⟩)] ++
    queries id 4 ++ writes id ++ writes id ++ writes id ++ writes id ++ writes id

def onboards : List (DatabaseEvent OnboardingAction) :=
  creates 0 ++ reviews 1 .approve ++ confirmsTier 2 ++ createsPaymentIntent 3

def asks (id : Nat) : List (DatabaseEvent OnboardingAction) :=
  [.arrive (.syncPaymentIntent (Billing.Sample.call "ask") "ada" applicationId
    ⟨none, none, none, none, none⟩)] ++ queries id 4 ++ writes id

def stagesOf (commit : Commit Store OnboardingWrite) :
    Option TenantOnboardingStage × Option TenantOnboardingStage :=
  (commit.before.stage? applicationId, commit.after.stage? applicationId)

end Sample

open Sample

/-- An application that is completed in order. -/
theorem stages_advance_of_inOrder_completed : ∃ state : OnboardingState,
      state.shared.store.stage? applicationId = some .completed ∧
      (∀ commit ∈ state.shared.commits,
        StagesAdvance commit.label.isRejection commit.before commit.after) ∧
      KeepsEnded store state.shared.store ∧
      ∀ commit ∈ state.shared.commits, KeepsEnded commit.after state.shared.store := by
  have run : (afterFrom store inOrder
      (onboards ++ declaresSettled 4 ++ activates 5 "act")).map
        (fun state => state.shared.store.stage? applicationId) =
      some (some .completed) := by
    decide +kernel
  rcases Option.map_eq_some_iff.mp run with ⟨state, reached, isCompleted⟩
  exact ⟨state, isCompleted, stages_advance_of_inOrder (Transition.reachable_of_foldlM reached)⟩

/-- The applicant synchronises the payment of the completed application. -/
theorem completed_application_reopens :
    ∃ state : OnboardingState, state.Reachable runtime Conditions.none store ∧
      ∃ commit ∈ state.shared.commits, commit.before.stage? applicationId = some .completed ∧
        commit.after.stage? applicationId = some .paymentConfirmedPendingActivation ∧
        ¬ StagesAdvance commit.label.isRejection commit.before commit.after := by
  have run : (afterFrom store Conditions.none
      (onboards ++ declaresSettled 4 ++ activates 5 "act" ++
        asks 6)).map
        (fun state => state.shared.commits.getLast?.map stagesOf) =
      some (some (some .completed, some .paymentConfirmedPendingActivation)) := by
    decide +kernel
  rcases Option.map_eq_some_iff.mp run with ⟨state, reached, isLast⟩
  rcases Option.map_eq_some_iff.mp isLast with ⟨commit, last, stages⟩
  rcases Prod.mk.inj stages with ⟨isBefore, isAfter⟩
  refine ⟨state, Transition.reachable_of_foldlM reached, commit, List.mem_of_getLast? last, isBefore,
    isAfter, ?_⟩
  intro advance
  have kept := advance.keepsEnded applicationId .completed isBefore rfl
  rw [isAfter] at kept
  exact absurd kept (by decide)

end Csms.Applications
