import Csms.Applications.Payments

/-!
# Entitled to a stage

The invariant of each application with its history, and the update of each operation that
keeps it.
-/

namespace Csms.Applications

open Database Js
open Billing (PaymentIntentStatus)

namespace TenantOnboardingStage

def isApproved : TenantOnboardingStage → Bool
  | submitted | underReview | rejected => false
  | _ => true

def isConfirmed : TenantOnboardingStage → Bool
  | submitted | underReview | rejected | approvedPendingTier => false
  | _ => true

/-- There can be a payment intent. -/
def isPayable : TenantOnboardingStage → Bool
  | tierConfirmedPendingPayment | paymentConfirmedPendingActivation | completed => true
  | _ => false

/-- The price is or was negotiated. -/
def isQuoted : TenantOnboardingStage → Bool
  | quotePending | quoteAcceptedPendingActivation => true
  | _ => false

end TenantOnboardingStage

/-- The payment intent is for what is due, and settled by a trusted party if it is. -/
def Backs (shared : OnboardingShared) (due : Due) (intentId : String) : Prop :=
  ∃ intent, shared.store.paymentIntent? intentId = some intent ∧ due.isOf intent = true ∧
    (intent.status = .final .settled → wasSettled shared intentId = true)

/-- A payment intent for the price has its amount and currency. -/
def PricingSnapshot.IsExact (snapshot : PricingSnapshot) : Prop :=
  snapshot.isCustomPricing = false → snapshot.hasNormalCurrency = true ∧
    ∀ amount, snapshot.dueNowAmount = some amount → JsNumber.toFixed 4 amount = amount

/-- The application has come to its stage in order. -/
structure Entitled (shared : OnboardingShared) (row : TenantApplication) : Prop where
  approved : row.onboardingStage.isApproved = true →
    HasChanged shared row.id ApplicationChange.isApproval
  confirmed : row.onboardingStage.isConfirmed = true →
    ∃ snapshot, row.pricingSnapshot = some snapshot ∧
      HasChanged shared row.id (ApplicationChange.confirms snapshot)
  exact : ∀ snapshot, row.pricingSnapshot = some snapshot → snapshot.IsExact
  linked : ∀ intentId, row.paymentIntentId = some intentId →
    row.onboardingStage.isPayable = true ∧ ∃ due, row.due? = some due ∧ Backs shared due intentId
  paid : row.onboardingStage.isPaid = true → row.isCustom = false →
    ∃ intentId, row.paymentIntentId = some intentId ∧ wasSettled shared intentId = true
  quoted : row.onboardingStage.isQuoted = true → row.isCustom = true

namespace TenantOnboardingStage

variable {stage : TenantOnboardingStage}

theorem isApproved_of_isConfirmed (confirmed : stage.isConfirmed = true) :
    stage.isApproved = true := by
  cases stage <;> simp_all [isConfirmed, isApproved]

theorem isConfirmed_of_isPayable (payable : stage.isPayable = true) : stage.isConfirmed = true := by
  cases stage <;> simp_all [isConfirmed, isPayable]

theorem isPayable_of_isPaid (paid : stage.isPaid = true) : stage.isPayable = true := by
  cases stage <;> simp_all [isPayable, isPaid]

theorem isConfirmed_of_isQuoted (quoted : stage.isQuoted = true) : stage.isConfirmed = true := by
  cases stage <;> simp_all [isConfirmed, isQuoted]

theorem isConfirmed_of_isReviewable (reviewable : stage.isReviewable = true) :
    stage.isConfirmed = false := by
  cases stage <;> simp_all [isConfirmed, isReviewable]

theorem of_isPendingActivation (pending : stage.isPendingActivation = true) :
    stage.isConfirmed = true ∧ (stage.isPaid = true ∨ stage.isQuoted = true) := by
  cases stage <;> simp_all [isPendingActivation, isConfirmed, isPaid, isQuoted]

end TenantOnboardingStage

section Kept

variable {first second : OnboardingShared} (later : Kept first second)
include later

theorem Backs.kept {due : Due} {intentId : String} (backs : Backs first due intentId) :
    Backs second due intentId := by
  rcases backs with ⟨intent, found, isDue, settled⟩
  rcases later.payments intentId intent found with ⟨changed, changedFound, same, changedSettled⟩
  refine ⟨changed, changedFound, (same.isOf_eq due).trans isDue, ?_⟩
  intro isSettled
  rcases changedSettled isSettled with earlier | since
  · exact wasSettled_of_subset later.history (settled earlier)
  · exact since

theorem Entitled.kept {row : TenantApplication} (entitled : Entitled first row) :
    Entitled second row where
  approved isApproved := (entitled.approved isApproved).of_subset later.history
  confirmed := by
    intro isConfirmed
    rcases entitled.confirmed isConfirmed with ⟨snapshot, isSnapshot, changed⟩
    exact ⟨snapshot, isSnapshot, changed.of_subset later.history⟩
  exact := entitled.exact
  linked := by
    intro intentId isLinked
    rcases entitled.linked intentId isLinked with ⟨isPayable, due, isDue, backs⟩
    exact ⟨isPayable, due, isDue, backs.kept later⟩
  paid := by
    intro isPaid standard
    rcases entitled.paid isPaid standard with ⟨intentId, isLinked, settled⟩
    exact ⟨intentId, isLinked, wasSettled_of_subset later.history settled⟩
  quoted := entitled.quoted

end Kept

/-- The application has the columns that an operation has read and relies on. -/
structure Undisturbed (row current : TenantApplication) : Prop where
  stage : row.onboardingStage = current.onboardingStage
  price : row.pricingSnapshot = current.pricingSnapshot
  payment : row.paymentIntentId = current.paymentIntentId

namespace Entitled

variable {shared : OnboardingShared} {row : TenantApplication}

theorem earned (entitled : Entitled shared row) (isPaid : row.onboardingStage.isPaid = true)
    (standard : row.isCustom = false) : Earned shared row where
  approved := by
    have isPayable := TenantOnboardingStage.isPayable_of_isPaid isPaid
    have isConfirmed := TenantOnboardingStage.isConfirmed_of_isPayable isPayable
    exact entitled.approved (TenantOnboardingStage.isApproved_of_isConfirmed isConfirmed)
  confirmed := by
    have isPayable := TenantOnboardingStage.isPayable_of_isPaid isPaid
    exact entitled.confirmed (TenantOnboardingStage.isConfirmed_of_isPayable isPayable)
  paid := by
    rcases entitled.paid isPaid standard with ⟨intentId, isLinked, settled⟩
    rcases entitled.linked intentId isLinked with ⟨_, due, isDue, intent, found, isOf, _⟩
    exact ⟨due, intentId, intent, isDue, isLinked, found, isOf, settled⟩

theorem unlinked (entitled : Entitled shared row)
    (notPayable : row.onboardingStage.isPayable = false) : row.paymentIntentId = none := by
  rcases isLinked : row.paymentIntentId with _ | intentId
  · rfl
  · rw [(entitled.linked intentId isLinked).1] at notPayable
    contradiction

/-- An application without a confirmed tier needs an approval at most. -/
theorem of_unconfirmed (unconfirmed : row.onboardingStage.isConfirmed = false)
    (approved : row.onboardingStage.isApproved = true →
      HasChanged shared row.id ApplicationChange.isApproval)
    (exact : ∀ snapshot, row.pricingSnapshot = some snapshot → snapshot.IsExact)
    (unlinked : row.paymentIntentId = none) : Entitled shared row where
  approved := approved
  confirmed isConfirmed := by
    rw [unconfirmed] at isConfirmed
    contradiction
  exact := exact
  linked intentId isLinked := by
    rw [unlinked] at isLinked
    contradiction
  paid isPaid := by
    have isPayable := TenantOnboardingStage.isPayable_of_isPaid isPaid
    rw [TenantOnboardingStage.isConfirmed_of_isPayable isPayable] at unconfirmed
    contradiction
  quoted isQuoted := by
    rw [TenantOnboardingStage.isConfirmed_of_isQuoted isQuoted] at unconfirmed
    contradiction

theorem of_new (call : Billing.Call) (applicantId : String) (dto : CreateApplicationDto) :
    Entitled shared (newApplication call applicantId dto) := by
  have isStage : (newApplication call applicantId dto).onboardingStage = .submitted := rfl
  apply of_unconfirmed
  · rw [isStage]
    rfl
  · rw [isStage]
    exact nofun
  · intro snapshot isSnapshot
    exact nomatch (isSnapshot : none = some snapshot)
  · rfl

section Change

variable {current : TenantApplication} {change : ApplicationChange}

theorem due?_eq (price : row.pricingSnapshot = current.pricingSnapshot)
    (applicant : row.applicantId = current.applicantId) : row.due? = current.due? := by
  rw [TenantApplication.due?, TenantApplication.due?, price, applicant]

section

variable (entitled : Entitled shared row)
include entitled

/-- A reviewer leaves the application without a tier. -/
theorem of_reviewed (reviewable : row.onboardingStage.isReviewable = true)
    {reviewed : TenantApplication} (price : reviewed.pricingSnapshot = row.pricingSnapshot)
    (payment : reviewed.paymentIntentId = row.paymentIntentId)
    (unconfirmed : reviewed.onboardingStage.isConfirmed = false)
    (approved : reviewed.onboardingStage.isApproved = true → HasChanged shared reviewed.id ApplicationChange.isApproval) :
    Entitled shared reviewed := by
  have notPayable : row.onboardingStage.isPayable = false := by
    rcases payable : row.onboardingStage.isPayable with _ | _
    · rfl
    · have confirmed := TenantOnboardingStage.isConfirmed_of_isPayable payable
      rw [TenantOnboardingStage.isConfirmed_of_isReviewable reviewable] at confirmed
      contradiction
  exact of_unconfirmed unconfirmed approved (price ▸ entitled.exact)
    (payment.trans (entitled.unlinked notPayable))

theorem of_paymentLinked (confirmed : row.onboardingStage.isConfirmed = true) {due : Due}
    (isDue : row.due? = some due) {intentId : String} (backs : Backs shared due intentId)
    {status : PaymentIntentStatus}
    (settled : status = .final .settled → wasSettled shared intentId = true)
    {linked : TenantApplication} (id : linked.id = row.id)
    (price : linked.pricingSnapshot = row.pricingSnapshot)
    (applicant : linked.applicantId = row.applicantId)
    (payment : linked.paymentIntentId = some intentId)
    (stage : linked.onboardingStage = if ApplicationChange.isSettled status then .paymentConfirmedPendingActivation else .tierConfirmedPendingPayment) :
    Entitled shared linked where
  approved _ := id ▸ entitled.approved (TenantOnboardingStage.isApproved_of_isConfirmed confirmed)
  confirmed _ := by
    rw [id, price]
    exact entitled.confirmed confirmed
  exact := price ▸ entitled.exact
  linked other isLinked := by
    obtain rfl := Option.some.inj (payment.symm.trans isLinked)
    refine ⟨?_, due, (due?_eq price applicant).trans isDue, backs⟩
    rw [stage]
    split <;> rfl
  paid isPaid _ := by
    rw [stage] at isPaid
    split at isPaid
    · rename_i isSettled
      exact ⟨intentId, payment, settled (of_decide_eq_true isSettled)⟩
    · contradiction
  quoted isQuoted := by
    rw [stage] at isQuoted
    split at isQuoted <;> contradiction

/-- The applicant confirms a tier, and has not paid for it yet. -/
theorem of_confirmed (approved : row.onboardingStage.isApproved = true) {snapshot : PricingSnapshot}
    (exact : snapshot.IsExact) {confirmed : TenantApplication} (id : confirmed.id = row.id)
    (price : confirmed.pricingSnapshot = some snapshot) (payment : confirmed.paymentIntentId = none)
    (changed : HasChanged shared row.id (ApplicationChange.confirms snapshot))
    (stage : confirmed.onboardingStage = if snapshot.isCustomPricing then .quotePending else .tierConfirmedPendingPayment) :
    Entitled shared confirmed where
  approved _ := id ▸ entitled.approved approved
  confirmed _ := ⟨snapshot, price, id ▸ changed⟩
  exact other isOther := by
    obtain rfl := Option.some.inj (price.symm.trans isOther)
    exact exact
  linked intentId isLinked := by
    rw [payment] at isLinked
    contradiction
  paid isPaid := by
    rw [stage] at isPaid
    split at isPaid <;> contradiction
  quoted isQuoted := by
    rw [stage] at isQuoted
    rw [TenantApplication.isCustom, price, Option.any_some]
    split at isQuoted
    · assumption
    · contradiction

theorem of_movedOn (confirmed : row.onboardingStage.isConfirmed = true) {moved : TenantApplication}
    (id : moved.id = row.id) (price : moved.pricingSnapshot = row.pricingSnapshot)
    (applicant : moved.applicantId = row.applicantId)
    (payment : moved.paymentIntentId = row.paymentIntentId)
    (payable : row.onboardingStage.isPayable = true → moved.onboardingStage.isPayable = true)
    (paid : moved.onboardingStage.isPaid = true → row.onboardingStage.isPaid = true ∨ row.isCustom = true)
    (quoted : moved.onboardingStage.isQuoted = true → row.onboardingStage.isQuoted = true) :
    Entitled shared moved where
  approved _ := id ▸ entitled.approved (TenantOnboardingStage.isApproved_of_isConfirmed confirmed)
  confirmed _ := by
    rw [id, price]
    exact entitled.confirmed confirmed
  exact := price ▸ entitled.exact
  linked intentId isLinked := by
    rcases entitled.linked intentId (payment.symm.trans isLinked) with ⟨isPayable, due, isDue, backs⟩
    exact ⟨payable isPayable, due, (due?_eq price applicant).trans isDue, backs⟩
  paid isPaid standard := by
    have sameTier : moved.isCustom = row.isCustom := by
      rw [TenantApplication.isCustom, TenantApplication.isCustom, price]
    rw [sameTier] at standard
    rcases paid isPaid with wasPaid | custom
    · rw [payment]
      exact entitled.paid wasPaid standard
    · rw [standard] at custom
      contradiction
  quoted isQuoted := by
    rw [TenantApplication.isCustom, price]
    exact entitled.quoted (quoted isQuoted)

end

end Change

end Entitled

/-- What an operation has to know of a payment intent that it links. -/
def ApplicationChange.IsInformed (shared : OnboardingShared) (current row : TenantApplication) :
    ApplicationChange → Prop
  | createPaymentIntent intentId status _ =>
    row.applicantId = current.applicantId ∧
      (∃ due, current.due? = some due ∧ Backs shared due intentId) ∧
        (status = .final .settled → wasSettled shared intentId = true)
  | syncPaymentStatus intentId status _ =>
    current.paymentIntentId = some intentId → status = .final .settled →
      wasSettled shared intentId = true
  | _ => True

theorem isExact_of_isPriced {tierCode : String} {billingCycle : Option BillingCycle}
    {snapshot : PricingSnapshot} {now : Int} {current : TenantApplication}
    (priced : (ApplicationChange.confirmTier tierCode billingCycle snapshot now).IsPriced)
    (proper : (OnboardingWrite.updateApplication current
      (.confirmTier tierCode billingCycle snapshot now)).isProper = true) : snapshot.IsExact := by
  intro standard
  rcases priced with ⟨pricing, code, cpoType, whiteLabelRequested, taken⟩
  have normal := (Bool.or_eq_true _ _).mp proper
  rw [standard] at normal
  refine ⟨normal.resolve_left Bool.false_ne_true, ?_⟩
  intro amount isDue
  obtain ⟨total, rfl⟩ := dueNowAmount_of_pricingSnapshot taken isDue
  exact JsNumber.toFixed_toFixed (by decide) total

theorem Entitled.apply {shared : OnboardingShared} {row current : TenantApplication}
    {change : ApplicationChange} (entitled : Entitled shared row)
    (made : ∀ isMade, isMade change = true → HasChanged shared row.id isMade)
    (guarded : change.guard current.onboardingStage = true) (priced : change.IsPriced)
    (proper : (OnboardingWrite.updateApplication current change).isProper = true)
    (informed : change.IsInformed shared current row)
    (undisturbed : (change.nextStage current).isSome = true → Undisturbed row current) :
    Entitled shared (change.apply current row) := by
  cases change with
  | updateOwn dto =>
    exact ⟨entitled.approved, entitled.confirmed, entitled.exact, entitled.linked, entitled.paid,
      entitled.quoted⟩
  | startReview | reject =>
    have reviewable := (undisturbed rfl).stage ▸ guarded
    exact entitled.of_reviewed reviewable rfl rfl rfl nofun
  | approve reviewerId notes canonicalRoleKey confirmedSubdomain confirmedDomain now =>
    have reviewable := (undisturbed rfl).stage ▸ guarded
    exact entitled.of_reviewed reviewable rfl rfl rfl fun _ => made _ rfl
  | confirmTier tierCode billingCycle snapshot now =>
    have isStage : row.onboardingStage = .approvedPendingTier :=
      (undisturbed rfl).stage.trans (of_decide_eq_true guarded)
    have exact := isExact_of_isPriced priced proper
    have confirmed := made (ApplicationChange.confirms snapshot) (decide_eq_true rfl)
    exact entitled.of_confirmed (by rw [isStage]; rfl) exact rfl rfl rfl confirmed rfl
  | createPaymentIntent intentId status now =>
    obtain ⟨applicant, ⟨due, isDue, backs⟩, settled⟩ := informed
    have same := undisturbed rfl
    have isStage : current.onboardingStage = .tierConfirmedPendingPayment :=
      of_decide_eq_true guarded
    have rowDue := (Entitled.due?_eq same.price applicant).trans isDue
    refine entitled.of_paymentLinked (by rw [same.stage, isStage]; rfl) rowDue backs settled rfl
      rfl rfl rfl ?_
    rw [← isStage]
    rfl
  | syncPaymentStatus intentId status now =>
    have same := undisturbed rfl
    have isLinked : current.paymentIntentId = some intentId := of_decide_eq_true proper
    rcases entitled.linked intentId (same.payment.trans isLinked) with
      ⟨isPayable, due, isDue, backs⟩
    exact entitled.of_paymentLinked (TenantOnboardingStage.isConfirmed_of_isPayable isPayable)
      isDue backs (informed isLinked) rfl rfl rfl rfl rfl
  | acceptEnterpriseQuote quoteReference note now =>
    have isStage : row.onboardingStage = .quotePending :=
      (undisturbed rfl).stage.trans (of_decide_eq_true guarded)
    refine entitled.of_movedOn (by rw [isStage]; rfl) rfl rfl rfl rfl ?_ nofun ?_
    · rw [isStage]
      exact nofun
    · rw [isStage]
      exact fun _ => rfl
  | activate organizationId reviewerId canonicalRoleKey confirmedSubdomain confirmedDomain now =>
    have pending : row.onboardingStage.isPendingActivation = true :=
      (undisturbed rfl).stage ▸ guarded
    rcases TenantOnboardingStage.of_isPendingActivation pending with ⟨confirmed, paidOrQuoted⟩
    refine entitled.of_movedOn confirmed rfl rfl rfl rfl (fun _ => rfl) ?_ nofun
    exact fun _ => paidOrQuoted.imp_right entitled.quoted

end Csms.Applications
