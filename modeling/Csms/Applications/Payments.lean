import Csms.Applications.Effects
import Csms.Billing.Credits

/-!
# What an application is paid with

An application that is to be activated should have been approved, have a confirmed tier,
and be paid for: by a payment intent of the applicant, over what the tier costs, that a
payment provider or an administrator has settled.  This file says so as an invariant of
the database with its history, names the steps that can break it, and shows that all
others keep it.
-/

namespace Csms.Applications

open Database Js
open Billing (PaymentIntent PaymentIntentStatus)

/-- The database with applications and how it came about. -/
abbrev OnboardingShared :=
  Shared Store OnboardingWrite

def Store.paymentIntent? (store : Store) (id : String) : Option PaymentIntent :=
  Billing.Store.paymentIntentTable.find? id store.billing

/-- A payment by a user that is to be made. -/
structure Due where
  userId : String
  amount : ℚ
  currency : String
  deriving DecidableEq

/-- The payment intent is one of the user for the amount in the currency. -/
def Due.isOf (due : Due) (intent : PaymentIntent) : Bool :=
  intent.userId = some due.userId && (intent.amount : ℚ) = due.amount &&
    intent.currency = due.currency

/-- The price of the confirmed tier is to be negotiated. -/
def TenantApplication.isCustom (row : TenantApplication) : Bool :=
  row.pricingSnapshot.any PricingSnapshot.isCustomPricing

/-- What the applicant has to pay for the confirmed tier. -/
def TenantApplication.due? (row : TenantApplication) : Option Due := do
  let snapshot ← row.pricingSnapshot
  let amount ← snapshot.dueNowAmount
  return ⟨row.applicantId, amount, snapshot.currency⟩

/-- What `createPaymentIntent` is asked to get paid. -/
def CreatePaymentIntentDto.due? (userId : String) (dto : CreatePaymentIntentDto) : Option Due :=
  match dto.amount, dto.currency with
  | .finite amount, some currency => some ⟨userId, amount, currency⟩
  | _, _ => none

/-- Providers and super admins can tell that a payment was made. -/
def Party.isTrusted (store : Store) : Party → Bool
  | provider => true
  | user id => store.isSuperAdmin id

/-- Who settles which payment intent with the statement. -/
def OnboardingWrite.settling : OnboardingWrite → Option (Party × String)
  | billing party (.applyFinalStatus existing input _) =>
    if input.status = .settled then some (party, existing.id) else none
  | _ => none

/-- A trusted party has settled the payment intent. -/
def wasSettled (shared : OnboardingShared) (intentId : String) : Bool :=
  shared.commits.any fun commit =>
    commit.label.settling.any fun settling =>
      settling.2 = intentId && settling.1.isTrusted commit.before

def HasChanged (shared : OnboardingShared) (id : String) (isMade : ApplicationChange → Bool) :
    Prop :=
  ∃ commit ∈ shared.commits, ∃ current change,
    commit.label = .updateApplication current change ∧ current.id = id ∧ isMade change = true

def ApplicationChange.isApproval : ApplicationChange → Bool
  | approve .. => true
  | _ => false

def ApplicationChange.confirms (snapshot : PricingSnapshot) : ApplicationChange → Bool
  | confirmTier _ _ confirmed _ => confirmed = snapshot
  | _ => false

def TenantOnboardingStage.isPaid : TenantOnboardingStage → Bool
  | paymentConfirmedPendingActivation | completed => true
  | _ => false

/-- The application was approved, its tier was confirmed, and its payment intent is one of
the applicant for what is due, which a trusted party has settled. -/
structure Earned (shared : OnboardingShared) (row : TenantApplication) : Prop where
  approved : HasChanged shared row.id ApplicationChange.isApproval
  confirmed : ∃ snapshot, row.pricingSnapshot = some snapshot ∧
    HasChanged shared row.id (ApplicationChange.confirms snapshot)
  paid : ∃ due intentId intent, row.due? = some due ∧ row.paymentIntentId = some intentId ∧
    shared.store.paymentIntent? intentId = some intent ∧ due.isOf intent = true ∧
      wasSettled shared intentId = true

/-- An update that sets a stage finds the stage, the price and the payment intent that its
operation has read. -/
def OnboardingWrite.isUndisturbed (store : Store) : OnboardingWrite → Bool
  | updateApplication current change =>
    (change.nextStage current).isNone ||
      (store.application? current.id).all fun row =>
        row.onboardingStage = current.onboardingStage &&
          (row.pricingSnapshot = current.pricingSnapshot &&
            row.paymentIntentId = current.paymentIntentId)
  | _ => true

/-- The currency is as `normalizeCurrencyCode` leaves it. -/
def PricingSnapshot.hasNormalCurrency (snapshot : PricingSnapshot) : Bool :=
  snapshot.currency ≠ "" && toUpperCase (trim snapshot.currency) = snapshot.currency

/-- A confirmed price is in a normal currency or to be negotiated, and the payment that is
synchronised is the linked one. -/
def OnboardingWrite.isProper : OnboardingWrite → Bool
  | updateApplication _ (.confirmTier _ _ snapshot _) =>
    snapshot.isCustomPricing || snapshot.hasNormalCurrency
  | updateApplication current (.syncPaymentStatus intentId _ _) =>
    current.paymentIntentId = some intentId
  | _ => true

/-- Only trusted parties settle payment intents. -/
def OnboardingWrite.isTrusted (store : Store) (write : OnboardingWrite) : Bool :=
  write.settling.all fun settling => settling.1.isTrusted store

/-- A payment intent that is there under the idempotency key is for what is to be paid, and
not settled unless a trusted party has done it. -/
def OnboardingQuery.isTrusted (shared : OnboardingShared) : OnboardingQuery → Bool
  | paymentIntentFor userId dto idempotencyKey =>
    (shared.store.paymentIntentOfKey idempotencyKey).all fun intent =>
      (dto.due? userId).any (Due.isOf · intent) &&
        (!ApplicationChange.isSettled intent.status || wasSettled shared intent.id)
  | _ => true

/-- No step gives an applicant what was not paid. -/
def trusted : Conditions Store OnboardingQuery OnboardingWrite OnboardingAction where
  onArrive _ _ := true
  onQuery _ query shared := query.isTrusted shared
  onCommit _ write shared :=
    write.isUndisturbed shared.store && write.isProper && write.isTrusted shared.store

/-- The later version of a payment intent is of the same payment. -/
structure SamePayment (later earlier : PaymentIntent) : Prop where
  userId : later.userId = earlier.userId
  amount : later.amount = earlier.amount
  currency : later.currency = earlier.currency

theorem SamePayment.refl (intent : PaymentIntent) : SamePayment intent intent :=
  ⟨rfl, rfl, rfl⟩

theorem SamePayment.trans {first second third : PaymentIntent} (right : SamePayment third second)
    (left : SamePayment second first) : SamePayment third first :=
  ⟨right.userId.trans left.userId, right.amount.trans left.amount,
    right.currency.trans left.currency⟩

theorem SamePayment.isOf_eq {later earlier : PaymentIntent} (same : SamePayment later earlier)
    (due : Due) : due.isOf later = due.isOf earlier := by
  rw [Due.isOf, Due.isOf, same.userId, same.amount, same.currency]

/-- History, applicants and payments are there from then on, and a payment that is settled
meanwhile is settled by a trusted party. -/
structure Kept (first second : OnboardingShared) : Prop where
  history : first.commits ⊆ second.commits
  applicants : ∀ id row, first.store.application? id = some row →
    ∃ later, second.store.application? id = some later ∧ later.applicantId = row.applicantId
  payments : ∀ id intent, first.store.paymentIntent? id = some intent →
    ∃ later, second.store.paymentIntent? id = some later ∧ SamePayment later intent ∧
      (later.status = .final .settled →
        intent.status = .final .settled ∨ wasSettled second id = true)

section History

variable {first second : OnboardingShared} (history : first.commits ⊆ second.commits)
include history

theorem wasSettled_of_subset {intentId : String} (settled : wasSettled first intentId = true) :
    wasSettled second intentId = true := by
  rcases List.any_eq_true.mp settled with ⟨commit, member, settles⟩
  exact List.any_eq_true.mpr ⟨commit, history member, settles⟩

theorem HasChanged.of_subset {id : String} {isMade : ApplicationChange → Bool}
    (changed : HasChanged first id isMade) : HasChanged second id isMade := by
  rcases changed with ⟨commit, member, made⟩
  exact ⟨commit, history member, made⟩

end History

theorem Kept.refl (shared : OnboardingShared) : Kept shared shared where
  history := List.Subset.refl _
  applicants _ row found := ⟨row, found, rfl⟩
  payments _ intent found := ⟨intent, found, .refl intent, Or.inl⟩

theorem Kept.trans {first second third : OnboardingShared} (left : Kept first second)
    (right : Kept second third) : Kept first third where
  history := List.Subset.trans left.history right.history
  applicants := by
    intro id row found
    rcases left.applicants id row found with ⟨middle, middleFound, same⟩
    rcases right.applicants id middle middleFound with ⟨later, laterFound, laterSame⟩
    exact ⟨later, laterFound, laterSame.trans same⟩
  payments := by
    intro id intent found
    rcases left.payments id intent found with ⟨middle, middleFound, same, settled⟩
    rcases right.payments id middle middleFound with ⟨later, laterFound, laterSame, laterSettled⟩
    refine ⟨later, laterFound, laterSame.trans same, ?_⟩
    intro isSettled
    rcases laterSettled isSettled with middleSettled | since
    · exact (settled middleSettled).imp_right (wasSettled_of_subset right.history)
    · exact Or.inr since

theorem samePayment_of_effect {write : Billing.Write} {before after : Billing.Store}
    (effect : Billing.Effect write before after) {id : String} {intent : PaymentIntent}
    (found : Billing.Store.paymentIntentTable.find? id before = some intent) :
    ∃ later, Billing.Store.paymentIntentTable.find? id after = some later ∧
      SamePayment later intent ∧ (later.status = .final .settled → intent.status = .final .settled ∨
          ∀ party, (OnboardingWrite.billing party write).settling = some (party, id)) := by
  by_cases concerns : write.intentId = some id
  · have step := effect.intentStep concerns
    rw [found] at step
    generalize Billing.Store.paymentIntentTable.find? id after = changed at step
    cases step with
    | applyFinalStatus existing input now =>
      obtain rfl := Option.some.inj concerns
      refine ⟨_, rfl, ⟨rfl, rfl, rfl⟩, ?_⟩
      intro isSettled
      have settles : input.status = .settled := PaymentIntentStatus.final.inj isSettled
      refine Or.inr fun party => ?_
      rw [OnboardingWrite.settling, if_pos settles]
    | reconcile existing status providerReference note =>
      refine ⟨_, rfl, ⟨rfl, rfl, rfl⟩, ?_⟩
      intro isSettled
      exact nomatch isSettled
  · rw [effect.intent_of_ne concerns]
    exact ⟨intent, found, .refl intent, Or.inl⟩

namespace OnboardingWrite

variable {write : OnboardingWrite} {store after : Store} {result : write.Result}

theorem samePayment_of_run (run : write.body.run store = some (after, result)) {id : String}
    {intent : PaymentIntent} (found : store.paymentIntent? id = some intent) :
    ∃ later, after.paymentIntent? id = some later ∧ SamePayment later intent ∧
      (later.status = .final .settled →
        intent.status = .final .settled ∨ ∃ party, write.settling = some (party, id)) := by
  cases write with
  | billing party write =>
    rcases run_onBilling_eq_some_iff.mp run with ⟨left, inBilling, rfl⟩
    rcases samePayment_of_effect (Billing.Write.effect_of_run inBilling) found with
      ⟨later, laterFound, same, settled⟩
    exact ⟨later, laterFound, same, fun isSettled =>
      (settled isSettled).imp_right fun settles => ⟨party, settles party⟩⟩
  | createPaymentIntent row =>
    rcases run_onBilling_eq_some_iff.mp run with ⟨left, inBilling, rfl⟩
    rcases Billing.run_insertPaymentIntent inBilling with ⟨_, _, done⟩
    obtain ⟨rfl, _⟩ := Prod.mk.inj (Option.some.inj done)
    refine ⟨intent, ?_, .refl intent, Or.inl⟩
    have inserted := Billing.Store.paymentIntentTable.find?_insert row store.billing id
    rw [show Billing.Store.paymentIntentTable.find? id store.billing = some intent from found,
      Option.some_or] at inserted
    exact inserted
  | updateUser userId organizationId =>
    rcases run_onBilling_eq_some_iff.mp run with ⟨left, inBilling, rfl⟩
    rcases Tx.run_updateRow_eq_some_iff.mp inBilling with ⟨user, _, done⟩
    obtain ⟨rfl, _⟩ := Prod.mk.inj (Option.some.inj done)
    exact ⟨intent, found, .refl intent, Or.inl⟩
  | _ =>
    refine ⟨intent, ?_, .refl intent, Or.inl⟩
    rw [Store.paymentIntent?, billing_of_run run rfl]
    exact found

theorem applicantId_of_run (run : write.body.run store = some (after, result)) {id : String}
    {row : TenantApplication} (found : store.application? id = some row) :
    ∃ later, after.application? id = some later ∧ later.applicantId = row.applicantId := by
  rw [application?_of_run run, found]
  cases write with
  | createApplication new => exact ⟨row, rfl, rfl⟩
  | updateApplication current change =>
    rw [applicationAfter]
    split
    · exact ⟨_, rfl, change.applicantId_apply current row⟩
    · exact ⟨row, rfl, rfl⟩
  | _ => exact ⟨row, rfl, rfl⟩

end OnboardingWrite

section Commit

variable {shared : OnboardingShared} {write : OnboardingWrite} {after : Store} {session : Nat}
  {result : write.Result}

theorem wasSettled_commit {party : Party} {intentId : String}
    (settles : write.settling = some (party, intentId))
    (trusted : write.isTrusted shared.store = true) :
    wasSettled (shared.commit session write after) intentId = true := by
  refine List.any_eq_true.mpr ⟨_, Shared.mem_commits_commit shared session write after, ?_⟩
  rw [OnboardingWrite.isTrusted, settles] at trusted
  simp only [settles, Option.any_some, decide_true, Bool.true_and]
  exact trusted

theorem kept_commit (run : write.body.run shared.store = some (after, result))
    (trusted : write.isTrusted shared.store = true) :
    Kept shared (shared.commit session write after) where
  history := shared.subset_commits_commit session write after
  applicants _ _ found := OnboardingWrite.applicantId_of_run run found
  payments := by
    intro id intent found
    rcases OnboardingWrite.samePayment_of_run run found with ⟨later, laterFound, same, settled⟩
    refine ⟨later, laterFound, same, ?_⟩
    intro isSettled
    refine (settled isSettled).imp_right ?_
    rintro ⟨party, settles⟩
    exact wasSettled_commit settles trusted

end Commit

end Csms.Applications
