import Csms.Applications.Service
import Csms.Database.Keeps

/-!
# What the statements of onboarding do

The applications and the payment intents that a statement leaves, and the guard that each
operation has checked before it changes an application.
-/

namespace Csms.Applications

open Database Js

namespace OnboardingWrite

variable {store after : Store}

theorem run_onBilling_eq_some_iff {α : Type} {tx : Billing.BillingTx α} {result : α} :
    (onBilling tx).run store = some (after, result) ↔
      ∃ left, tx.run store.billing = some (left, result) ∧
        after = { store with billing := left } := by
  rw [onBilling, Tx.run_relock, Tx.run_onPart_eq_some_iff]
  rfl

theorem run_onOnboarding_eq_some_iff {α : Type} {tx : Tx Onboarding Unit α} {result : α} :
    (onOnboarding tx).run store = some (after, result) ↔
      ∃ left, tx.run store.onboarding = some (left, result) ∧
        after = { store with onboarding := left } := by
  rw [onOnboarding, Tx.run_relock, Tx.run_onPart_eq_some_iff]
  rfl

/-- The statement is on the tables of billing. -/
def isBilling : OnboardingWrite → Bool
  | billing .. | createPaymentIntent _ | updateUser .. => true
  | _ => false

variable {write : OnboardingWrite} {result : write.Result}

theorem onboarding_of_run (run : write.body.run store = some (after, result))
    (isBilling : write.isBilling = true) : after.onboarding = store.onboarding := by
  cases write with
  | billing | createPaymentIntent | updateUser =>
    rcases run_onBilling_eq_some_iff.mp run with ⟨left, _, rfl⟩
    rfl
  | _ => contradiction

theorem billing_of_run (run : write.body.run store = some (after, result))
    (isOnboarding : write.isBilling = false) : after.billing = store.billing := by
  cases write with
  | billing | createPaymentIntent | updateUser => contradiction
  | _ =>
    rcases run_onOnboarding_eq_some_iff.mp run with ⟨left, _, rfl⟩
    rfl

def applicationAfter (write : OnboardingWrite) (id : String) (before : Option TenantApplication) :
    Option TenantApplication :=
  match write with
  | createApplication row => before.or (if row.id = id then some row else none)
  | updateApplication current change =>
    if id = current.id then before.map (change.apply current) else before
  | _ => before

theorem application?_of_run (run : write.body.run store = some (after, result)) (id : String) :
    after.application? id = write.applicationAfter id (store.application? id) := by
  have same (isBilling : write.isBilling = true) :
      after.application? id = store.application? id := by
    rw [Store.application?, onboarding_of_run run isBilling]
    rfl
  cases write with
  | billing | createPaymentIntent | updateUser => exact same rfl
  | createApplication row =>
    rcases run_onOnboarding_eq_some_iff.mp run with ⟨left, inPart, rfl⟩
    rcases Tx.run_statement_eq_some_iff.mp inPart with ⟨_, same⟩
    cases same
    exact Table.find?_insert store.onboarding.applications row id
  | updateApplication current change =>
    rcases run_onOnboarding_eq_some_iff.mp run with ⟨left, inPart, rfl⟩
    rcases Tx.run_updateRow_eq_some_iff.mp inPart with ⟨row, found, same⟩
    cases same
    have updated := Onboarding.applicationTable.find?_update current.id (change.apply current)
      (change.id_apply current) store.onboarding id
    by_cases isIt : id = current.id
    · subst isIt
      rw [if_pos rfl] at updated
      rw [applicationAfter, if_pos rfl]
      exact updated
    · rw [if_neg isIt] at updated
      rw [applicationAfter, if_neg isIt]
      exact updated
  | createOrganization current row =>
    rcases run_onOnboarding_eq_some_iff.mp run with ⟨left, inPart, rfl⟩
    rcases Tx.run_statement_eq_some_iff.mp inPart with ⟨_, same⟩
    cases same
    rfl
  | upsertOrganizationMembership | upsertTenantMembership =>
    rcases run_onOnboarding_eq_some_iff.mp run with ⟨left, inPart, rfl⟩
    rcases Tx.run_statement_eq_some_iff.mp inPart with ⟨_, same⟩
    cases same
    rw [Store.application?, upsert]
    split <;> rfl

theorem application?_of_update {current : TenantApplication} {change : ApplicationChange}
    {result : TenantApplication}
    (run : (updateApplication current change).body.run store = some (after, result)) :
    ∃ row, store.application? current.id = some row ∧
      after.application? current.id = some (change.apply current row) := by
  rcases run_onOnboarding_eq_some_iff.mp run with ⟨left, inPart, _⟩
  rcases Tx.run_updateRow_eq_some_iff.mp inPart with ⟨row, found, _⟩
  have isRow : store.application? current.id = some row := found
  refine ⟨row, isRow, ?_⟩
  rw [application?_of_run run, isRow, applicationAfter, if_pos rfl, Option.map_some]

def isUpdateOf (id : String) : OnboardingWrite → Bool
  | updateApplication current _ => id = current.id
  | _ => false

theorem application?_of_other (run : write.body.run store = some (after, result)) {id : String}
    {row : TenantApplication} (found : store.application? id = some row)
    (other : write.isUpdateOf id = false) : after.application? id = some row := by
  rw [application?_of_run run, found]
  cases write with
  | updateApplication current change => exact if_neg (of_decide_eq_false other)
  | _ => rfl

end OnboardingWrite

inductive Operation where
  | create
  | updateOwn
  | review
  | confirmTier
  | createPaymentIntent
  | syncPaymentStatus
  | acceptEnterpriseQuote
  | activate
  | billing
  deriving DecidableEq

def ApplicationChange.operation : ApplicationChange → Operation
  | updateOwn _ => .updateOwn
  | startReview .. | reject .. | approve .. => .review
  | confirmTier .. => .confirmTier
  | createPaymentIntent .. => .createPaymentIntent
  | syncPaymentStatus .. => .syncPaymentStatus
  | acceptEnterpriseQuote .. => .acceptEnterpriseQuote
  | activate .. => .activate

/-- The stages in which an operation makes its change; synchronising a payment has no
guard. -/
def ApplicationChange.guard : ApplicationChange → TenantOnboardingStage → Bool
  | updateOwn _ => TenantOnboardingStage.isEditable
  | startReview .. | reject .. | approve .. => TenantOnboardingStage.isReviewable
  | confirmTier .. => (· = .approvedPendingTier)
  | createPaymentIntent .. => (· = .tierConfirmedPendingPayment)
  | syncPaymentStatus .. => fun _ => true
  | acceptEnterpriseQuote .. => (· = .quotePending)
  | activate .. => TenantOnboardingStage.isPendingActivation

/-- The statement is one that the operation executes. -/
def OnboardingWrite.isOf : OnboardingWrite → Operation → Bool
  | billing .., _ => true
  | createPaymentIntent _, operation => operation = .createPaymentIntent
  | createApplication _, operation => operation = .create
  | updateApplication _ change, operation => operation = change.operation
  | createOrganization .., operation => operation = .activate
  | upsertOrganizationMembership _, operation => operation = .activate
  | upsertTenantMembership _, operation => operation = .activate
  | updateUser .., operation => operation = .activate

/-- The snapshot of a confirmed tier is one of a price. -/
def ApplicationChange.IsPriced : ApplicationChange → Prop
  | confirmTier _ billingCycle snapshot _ =>
    ∃ pricing tierCode cpoType whiteLabelRequested,
      pricingSnapshot pricing tierCode cpoType billingCycle whiteLabelRequested = .ok snapshot
  | _ => True

/-- The application was read in a stage in which the operation makes its change. -/
def OnboardingWrite.IsGuarded : OnboardingWrite → Prop
  | createApplication row => ∃ call applicantId dto, row = newApplication call applicantId dto
  | updateApplication current change =>
    change.guard current.onboardingStage = true ∧ change.IsPriced
  | createOrganization current _ => current.onboardingStage.isPendingActivation = true
  | _ => True

/-- The statement is one that the operation executes after its guard. -/
def OnboardingWrite.Follows (operation : Operation) (write : OnboardingWrite) : Prop :=
  write.isOf operation = true ∧ write.IsGuarded

/-- The request executes statements of the operation after its guard only. -/
abbrev OnboardingRequest.Follows {α : Type} (operation : Operation) (request : OnboardingRequest α) :
    Prop :=
  request.Transacts (OnboardingWrite.Follows operation)

section Reading

variable {allowed : OnboardingWrite → Prop}

theorem transacts_findByIdOrThrow (id : String) : (findByIdOrThrow id).Transacts allowed :=
  (transacts_read _ _).bind fun _ => transacts_ofExcept _

theorem transacts_findByIdForUpdate (id : String) : (findByIdForUpdate id).Transacts allowed :=
  (transacts_findByIdOrThrow id).bind fun current => (transacts_read _ _).bind fun _ =>
    transacts_pure current

theorem transacts_findOwn (id applicantId : String) : (findOwn id applicantId).Transacts allowed :=
  (transacts_findByIdOrThrow id).bind fun current => (transacts_ofExcept _).bind fun _ =>
    transacts_pure current

theorem transacts_assertFree (query : String → Option String → OnboardingQuery)
    (column : Organization → Option String) (name : String) (text ignored : Option String) :
    (assertFree query column name text ignored).Transacts allowed := by
  unfold assertFree
  split
  · exact transacts_pure ()
  · exact (transacts_read _ _).bind fun _ => transacts_ofExcept _

theorem transacts_assertDomainAvailability (subdomain domain ignored : Option String) :
    (assertDomainAvailability subdomain domain ignored).Transacts allowed :=
  (transacts_assertFree _ _ _ _ _).bind fun _ => transacts_assertFree _ _ _ _ _

theorem transacts_assertSite (siteId : Option String) : (assertSite siteId).Transacts allowed := by
  unfold assertSite
  split
  · exact transacts_pure ()
  · exact (transacts_read _ _).bind fun _ => transacts_ofExcept _

theorem transacts_isPlatformSuperAdmin (userId : String) :
    (isPlatformSuperAdmin userId).Transacts allowed :=
  Request.Transacts.ite (transacts_pure false)
    ((transacts_read _ _).bind fun _ => (transacts_read _ _).bind fun _ =>
      transacts_pure _)

theorem transacts_assertSuperAdmin (userId : String) :
    (assertSuperAdmin userId).Transacts allowed :=
  (transacts_isPlatformSuperAdmin userId).bind fun _ => transacts_ofExcept _

theorem transacts_resolvePaymentSyncActor (id userId : String) :
    (resolvePaymentSyncActor id userId).Transacts allowed :=
  (transacts_isPlatformSuperAdmin userId).bind fun _ => Request.Transacts.ite
    ((transacts_findByIdOrThrow id).bind fun _ => transacts_pure _)
    (transacts_pure userId)

theorem transacts_commerce {α : Type} {party : Party}
    (isBilling : ∀ write, allowed (.billing party write)) (request : Billing.Commerce α) :
    (commerce party request).Transacts allowed :=
  (transacts_of_forall isBilling request).onPart

theorem transacts_linkedIntent (call : Billing.Call) (current : TenantApplication)
    (isBilling : ∀ party write, allowed (.billing party write)) :
    (linkedIntent call current).Transacts allowed := by
  unfold linkedIntent
  split
  · exact transacts_pure none
  · exact (transacts_commerce (isBilling _) _).bind fun _ => transacts_pure _

theorem transacts_orchestrate (call : Billing.Call) (userId : String)
    (payment : Except Billing.CommerceException Billing.PaymentSession)
    (isBilling : ∀ party write, allowed (.billing party write)) :
    (orchestrate call userId payment).Transacts allowed :=
  Request.Transacts.ite
    ((transacts_commerce (isBilling _) _).bind fun _ => (transacts_ofExcept _).bind fun _ =>
      transacts_pure _)
    (transacts_pure none)

theorem transacts_assignMembership (organizationId userId roleKey actorId : String)
    (ofOrganization : ∀ row, allowed (.upsertOrganizationMembership row))
    (ofTenant : ∀ row, allowed (.upsertTenantMembership row)) :
    (assignMembership organizationId userId roleKey actorId).Transacts allowed :=
  (transacts_ofExcept _).bind fun _ =>
    (Request.transacts_commit _ (ofOrganization _)).bind fun _ =>
      (Request.transacts_commit _ (ofTenant _)).bind fun _ => transacts_pure ()

end Reading

section Guards

variable {operation : Operation} {isAllowed : TenantOnboardingStage → Bool}
  {stage : TenantOnboardingStage} {refusal : String}

theorem assertStage_eq_ok {value : Unit}
    (passed : assertStage isAllowed stage refusal = .ok value) : isAllowed stage = true := by
  unfold assertStage at passed
  split at passed
  · assumption
  · contradiction

theorem follows_billing (party : Party) (write : Billing.Write) :
    OnboardingWrite.Follows operation (.billing party write) :=
  ⟨rfl, trivial⟩

theorem follows_commerce {α : Type} (party : Party) (request : Billing.Commerce α) :
    (commerce party request).Follows operation :=
  transacts_commerce (follows_billing party) request

theorem follows_execute {write : OnboardingWrite} (isOf : write.isOf operation = true)
    (isGuarded : write.IsGuarded) : (execute write).Follows operation :=
  Request.transacts_commit _ ⟨isOf, isGuarded⟩

theorem follows_change {current : TenantApplication} {change : ApplicationChange}
    (isOf : change.operation = operation)
    (guarded : change.guard current.onboardingStage = true) (priced : change.IsPriced) :
    (execute (.updateApplication current change)).Follows operation :=
  follows_execute (decide_eq_true isOf.symm) ⟨guarded, priced⟩

theorem follows_assertStage_bind {α : Type} {next : Unit → OnboardingRequest α}
    (onward : isAllowed stage = true → (next ()).Follows operation) :
    (Request.ofExcept (assertStage isAllowed stage refusal) >>= next :
      OnboardingRequest α).Follows operation :=
  transacts_ofExcept_bind fun _ passed => onward (assertStage_eq_ok passed)

end Guards

section Operations

variable (call : Billing.Call) (id applicantId : String)

theorem follows_create (dto : CreateApplicationDto) :
    (create call applicantId dto).Follows .create :=
  (transacts_read _ _).bind fun _ => (transacts_ofExcept _).bind fun _ =>
    (transacts_assertSite _).bind fun _ => follows_execute rfl ⟨_, _, _, rfl⟩

theorem follows_updateOwn (dto : UpdateOwnApplicationDto) :
    (updateOwn id applicantId dto).Follows .updateOwn :=
  (transacts_findOwn _ _).bind fun _ => follows_assertStage_bind fun guarded =>
    (transacts_assertSite _).bind fun _ => follows_change (by rfl) (by exact guarded) (by trivial)

theorem follows_reviewChange_bind {α : Type} (reviewerId : String) (dto : ReviewApplicationDto)
    (current : TenantApplication) {next : ApplicationChange → OnboardingRequest α}
    (onward : ∀ change : ApplicationChange, change.operation = .review →
      change.guard = TenantOnboardingStage.isReviewable → change.IsPriced →
        (next change).Follows .review) :
    (reviewChange call reviewerId dto current >>= next : OnboardingRequest α).Follows .review := by
  unfold reviewChange
  cases dto.action with
  | underReview => exact onward _ rfl rfl trivial
  | reject =>
    dsimp only
    split
    · exact .throw _
    · exact onward _ rfl rfl trivial
  | approve =>
    simp only [bind_assoc, pure_bind]
    exact (transacts_ofExcept _).bind fun _ =>
      (transacts_assertDomainAvailability _ _ _).bind fun _ => onward _ rfl rfl trivial

theorem follows_review (reviewerId : String) (dto : ReviewApplicationDto) :
    (review call id reviewerId dto).Follows .review := by
  refine (transacts_findByIdOrThrow id).bind fun _ => (transacts_ofExcept _).bind fun _ =>
    follows_assertStage_bind fun guarded => follows_reviewChange_bind call reviewerId dto _ ?_
  intro change isReview same priced
  exact follows_change isReview (same ▸ guarded) priced

theorem follows_confirmTier (dto : ConfirmTierSelectionDto) :
    (confirmTier call id applicantId dto).Follows .confirmTier :=
  (transacts_findOwn _ _).bind fun _ => follows_assertStage_bind fun guarded =>
    (transacts_read _ _).bind fun _ => (transacts_ofExcept _).bind fun _ =>
      (transacts_ofExcept _).bind fun _ => transacts_ofExcept_bind fun _ priced =>
        follows_change (by rfl) (by exact guarded) (by exact ⟨_, _, _, _, priced⟩)

theorem follows_commerceCreatePaymentIntent (userId : String) (dto : CreatePaymentIntentDto)
    (payment : Except Billing.CommerceException Billing.PaymentSession) :
    (commerceCreatePaymentIntent call userId dto payment).Follows .createPaymentIntent := by
  refine (follows_commerce _ _).bind fun wallet => (transacts_ofExcept _).bind fun _ =>
    (follows_commerce _ _).bind fun _ => (transacts_read _ _).bind fun existing => ?_
  cases existing with
  | some intent => exact transacts_pure intent
  | none =>
    exact (transacts_ofExcept _).bind fun _ => (transacts_ofExcept _).bind
      fun _ => (transacts_orchestrate call userId payment follows_billing).bind fun _ => follows_execute rfl trivial

theorem follows_createPaymentIntent (dto : CreateApplicationPaymentIntentDto)
    (payment : Except Billing.CommerceException Billing.PaymentSession) :
    (createPaymentIntent call id applicantId dto payment).Follows .createPaymentIntent := by
  refine (transacts_findOwn _ _).bind fun current => follows_assertStage_bind fun guarded =>
    (transacts_ofExcept _).bind fun _ => (transacts_linkedIntent call current follows_billing).bind
      fun linked => ?_
  cases linked with
  | some intent => exact transacts_pure _
  | none =>
    exact (follows_commerceCreatePaymentIntent _ _ _ _).bind fun _ =>
      (follows_change (by rfl) (by exact guarded) (by trivial)).bind fun _ => transacts_pure _

theorem follows_syncPaymentStatus (party : Party) (dto : SyncApplicationPaymentDto) :
    (syncPaymentStatus call party id applicantId dto).Follows .syncPaymentStatus :=
  (transacts_findOwn _ _).bind fun _ => (transacts_ofExcept _).bind fun _ =>
    (follows_commerce _ _).bind fun _ => (follows_change (by rfl) (by rfl) (by trivial)).bind fun _ =>
      transacts_pure _

theorem follows_acceptEnterpriseQuote (dto : AcceptEnterpriseQuoteDto) :
    (acceptEnterpriseQuote call id applicantId dto).Follows .acceptEnterpriseQuote :=
  (transacts_findOwn _ _).bind fun _ => follows_assertStage_bind fun guarded =>
    follows_change (by rfl) (by exact guarded) (by trivial)

theorem follows_activate (reviewerId : String) (dto : ActivateApplicationDto) :
    (activate call id reviewerId dto).Follows .activate := by
  refine (transacts_findByIdForUpdate id).bind fun current =>
    follows_assertStage_bind fun guarded => (transacts_ofExcept _).bind fun _ =>
      (transacts_ofExcept _).bind fun _ =>
        (transacts_assertDomainAvailability _ _ _).bind fun _ =>
          (transacts_ofExcept _).bind fun _ => ?_
  exact (follows_execute (by rfl) (by exact guarded)).bind fun _ =>
    (transacts_assignMembership _ _ _ _ (fun _ => ⟨rfl, trivial⟩) fun _ => ⟨rfl, trivial⟩).bind fun _ =>
      (follows_execute (by rfl) (by trivial)).bind fun _ => follows_change (by rfl) (by exact guarded) (by trivial)

end Operations

/-- The operation that a request calls. -/
def OnboardingAction.operation : OnboardingAction → Operation
  | create .. => .create
  | updateOwn .. => .updateOwn
  | review .. => .review
  | confirmTier .. => .confirmTier
  | createPaymentIntent .. => .createPaymentIntent
  | syncPaymentIntent .. => .syncPaymentStatus
  | acceptEnterpriseQuote .. => .acceptEnterpriseQuote
  | activate .. => .activate
  | billing .. => .billing

/-- Requests execute statements of their operation only, and change no application that
they have read in a stage against the guard. -/
theorem follows_program (runtime : Billing.Webhooks.Runtime) (action : OnboardingAction) :
    (action.program runtime).Follows action.operation := by
  cases action with
  | create call userId dto =>
    exact (follows_create _ _ _).bind fun _ => transacts_pure _
  | updateOwn userId id dto =>
    exact (follows_updateOwn _ _ _).bind fun _ => transacts_pure _
  | review call userId id dto =>
    exact (transacts_assertSuperAdmin _).bind fun _ => (follows_review _ _ _ _).bind fun _ =>
      transacts_pure _
  | confirmTier call userId id dto =>
    exact (follows_confirmTier _ _ _ _).bind fun _ => transacts_pure _
  | createPaymentIntent call userId id dto payment =>
    exact (follows_createPaymentIntent _ _ _ _ _).bind fun _ => transacts_pure _
  | syncPaymentIntent call userId id dto =>
    exact (transacts_resolvePaymentSyncActor _ _).bind fun _ =>
      (follows_syncPaymentStatus _ _ _ _ _).bind fun _ => transacts_pure _
  | acceptEnterpriseQuote call userId id dto =>
    exact (follows_acceptEnterpriseQuote _ _ _ _).bind fun _ => transacts_pure _
  | activate call userId id dto =>
    exact (transacts_assertSuperAdmin _).bind fun _ => (follows_activate _ _ _ _).bind
      fun _ => transacts_pure _
  | billing userId request =>
    exact (follows_commerce _ _).bind fun _ => transacts_pure _

end Csms.Applications
