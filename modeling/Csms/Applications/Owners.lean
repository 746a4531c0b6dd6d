import Csms.Applications.Payments

/-!
# Whose a payment intent is

A payment intent belongs to the user whose request has created it, for good.  This file has the
payment intents that are in the way of a user, since another one has created them with a key, and
the applications that are linked to payment intents of their applicants only.
-/

namespace Csms.Applications

open Database
open Billing (PaymentIntent)

def isOwnOf (userId : String) (intent : PaymentIntent) : Bool :=
  intent.userId.all (· = userId)

def Store.hasForeignIntent (store : Store) (userId idempotencyKey : String) : Bool :=
  store.billing.paymentIntents.rows.any fun intent =>
    intent.idempotencyKey = idempotencyKey && !isOwnOf userId intent

/-- The user and the key of the payment intent that a statement inserts. -/
def OnboardingWrite.insertion : OnboardingWrite → Option (String × String)
  | createPaymentIntent row => row.userId.map fun userId => (userId, row.idempotencyKey)
  | billing _ (.topUpSettled input) => some (input.userId, input.idempotencyKey)
  | billing _ (.topUpPending input _) => some (input.userId, input.idempotencyKey)
  | _ => none

/-- The payment intent that an update links. -/
def ApplicationChange.intentId? : ApplicationChange → Option String
  | createPaymentIntent intentId _ _ | syncPaymentStatus intentId _ _ => some intentId
  | _ => none

/-- What the statement links is a payment intent of the applicant. -/
def OnboardingWrite.linksOwn (store : Store) : OnboardingWrite → Bool
  | createApplication row => row.paymentIntentId.isNone
  | updateApplication current change =>
    change.intentId?.all fun intentId =>
      (store.application? current.id).all fun row =>
        (store.paymentIntent? intentId).any (isOwnOf row.applicantId)
  | _ => true

/-- The application is linked to a payment intent of its applicant, if to any. -/
def Store.LinksOwn (store : Store) (row : TenantApplication) : Prop :=
  ∀ intentId, row.paymentIntentId = some intentId →
    ∃ intent, store.paymentIntent? intentId = some intent ∧ isOwnOf row.applicantId intent = true

/-- All applications are so, and were linked so. -/
structure OwnLinks (shared : OnboardingShared) : Prop where
  rows : ∀ id row, shared.store.application? id = some row → shared.store.LinksOwn row
  commits : ∀ commit ∈ shared.commits, commit.label.linksOwn commit.before = true

/-- Applicants and the owners of payment intents stay. -/
structure Lasting (first second : OnboardingShared) : Prop where
  applicants : ∀ id row, first.store.application? id = some row →
    ∃ later, second.store.application? id = some later ∧ later.applicantId = row.applicantId
  owners : ∀ id intent, first.store.paymentIntent? id = some intent →
    ∃ later, second.store.paymentIntent? id = some later ∧ later.userId = intent.userId

theorem Lasting.refl (shared : OnboardingShared) : Lasting shared shared where
  applicants _ row found := ⟨row, found, rfl⟩
  owners _ intent found := ⟨intent, found, rfl⟩

theorem Lasting.trans {first second third : OnboardingShared} (left : Lasting first second)
    (right : Lasting second third) : Lasting first third where
  applicants id row found := by
    obtain ⟨middle, middleFound, same⟩ := left.applicants id row found
    obtain ⟨later, laterFound, laterSame⟩ := right.applicants id middle middleFound
    exact ⟨later, laterFound, laterSame.trans same⟩
  owners id intent found := by
    obtain ⟨middle, middleFound, same⟩ := left.owners id intent found
    obtain ⟨later, laterFound, laterSame⟩ := right.owners id middle middleFound
    exact ⟨later, laterFound, laterSame.trans same⟩

theorem isOwnOf_congr {userId : String} {later earlier : PaymentIntent}
    (same : later.userId = earlier.userId) : isOwnOf userId later = isOwnOf userId earlier := by
  rw [isOwnOf, isOwnOf, same]

theorem Store.LinksOwn.lasting {first second : OnboardingShared} (later : Lasting first second)
    {row : TenantApplication} (own : first.store.LinksOwn row) : second.store.LinksOwn row := by
  intro intentId isLinked
  obtain ⟨intent, found, isOwn⟩ := own intentId isLinked
  obtain ⟨changed, changedFound, same⟩ := later.owners intentId intent found
  exact ⟨changed, changedFound, isOwnOf_congr same ▸ isOwn⟩

section Commit

variable {write : OnboardingWrite} {store after : Store} {result : write.Result}

theorem ApplicationChange.paymentIntentId_apply (change : ApplicationChange)
    (current row : TenantApplication) :
    (change.apply current row).paymentIntentId = row.paymentIntentId ∨
      (change.apply current row).paymentIntentId = change.intentId? := by
  cases change with
  | confirmTier | createPaymentIntent | syncPaymentStatus => exact Or.inr rfl
  | _ => exact Or.inl rfl

theorem lasting_commit {shared : OnboardingShared} {session : Nat}
    (run : write.body.run shared.store = some (after, result)) :
    Lasting shared (shared.commit session write after) where
  applicants _ _ found := OnboardingWrite.applicantId_of_run run found
  owners _ _ found := by
    obtain ⟨later, laterFound, same, _⟩ := OnboardingWrite.samePayment_of_run run found
    exact ⟨later, laterFound, same.userId⟩

theorem ownLinks_commit {shared : OnboardingShared} {session : Nat} (holds : OwnLinks shared)
    (own : write.linksOwn shared.store = true)
    (run : write.body.run shared.store = some (after, result)) :
    OwnLinks (shared.commit session write after) where
  commits := by
    rw [Shared.commits_commit]
    exact List.forall_mem_append.mpr ⟨holds.commits, List.forall_mem_singleton.mpr own⟩
  rows := by
    intro id row found
    have later : Lasting shared (shared.commit session write after) := lasting_commit run
    rw [Shared.store_commit, OnboardingWrite.application?_of_run run id] at found
    have stays {old : TenantApplication} (isOld : shared.store.application? id = some old) :
        (shared.commit session write after).store.LinksOwn old :=
      (holds.rows id old isOld).lasting later
    cases write with
    | createApplication new =>
      rcases isOld : shared.store.application? id with _ | old
      · rw [OnboardingWrite.applicationAfter, isOld, Option.none_or] at found
        split at found
        · obtain rfl := Option.some.inj found
          intro intentId isLinked
          rw [OnboardingWrite.linksOwn, isLinked] at own
          contradiction
        · contradiction
      · rw [OnboardingWrite.applicationAfter, isOld, Option.some_or] at found
        obtain rfl := Option.some.inj found
        exact stays isOld
    | updateApplication current change =>
      rw [OnboardingWrite.applicationAfter] at found
      split at found
      · rename_i isIt
        obtain ⟨old, isOld, rfl⟩ := Option.map_eq_some_iff.mp found
        have oldLinks := stays isOld
        intro intentId isLinked
        rw [change.applicantId_apply]
        rcases change.paymentIntentId_apply current old with same | links
        · exact oldLinks intentId (same ▸ isLinked)
        · rw [OnboardingWrite.linksOwn, ← links, isLinked, Option.all_some, ← isIt, isOld,
            Option.all_some, Option.any_eq_true] at own
          obtain ⟨intent, isIntent, isOwn⟩ := own
          obtain ⟨changed, changedFound, same⟩ := later.owners intentId intent isIntent
          exact ⟨changed, changedFound, isOwnOf_congr same ▸ isOwn⟩
      · exact stays found
    | _ => exact stays found

end Commit

section Foreign

variable {userId idempotencyKey : String}

theorem hasForeignIntent_eq_true_iff {store : Store} :
    store.hasForeignIntent userId idempotencyKey = true ↔
      ∃ intent, store.paymentIntent? intent.id = some intent ∧
        intent.idempotencyKey = idempotencyKey ∧ isOwnOf userId intent = false := by
  have isRow (intent : PaymentIntent) : store.paymentIntent? intent.id = some intent ↔
      intent ∈ store.billing.paymentIntents.rows := by
    have found : store.paymentIntent? intent.id = some intent ↔
        intent ∈ store.billing.paymentIntents.rows ∧ intent.id = intent.id :=
      Table.find?_eq_some_iff
    rw [found, and_iff_left rfl]
  simp only [Store.hasForeignIntent, List.any_eq_true, Bool.and_eq_true, decide_eq_true_eq,
    Bool.not_eq_true', isRow]

/-- A payment intent after a transaction of billing was there before, of the same user and with
the same key, or is the one that the transaction inserts. -/
theorem intent_of_effect {write : Billing.Write} {before after : Billing.Store} {party : Party}
    (effect : Billing.Effect write before after) {intent : PaymentIntent}
    (found : Billing.Store.paymentIntentTable.find? intent.id after = some intent) :
    (∃ old, Billing.Store.paymentIntentTable.find? old.id before = some old ∧
        old.idempotencyKey = intent.idempotencyKey ∧ old.userId = intent.userId) ∨
      ∃ userId, intent.userId = some userId ∧
        (OnboardingWrite.billing party write).insertion = some (userId, intent.idempotencyKey) := by
  by_cases concerns : write.intentId = some intent.id
  · have step := effect.intentStep concerns
    rw [found] at step
    generalize isBefore : Billing.Store.paymentIntentTable.find? intent.id before = old at step
    cases step with
    | topUpSettled | topUpPending => exact Or.inr ⟨_, rfl, rfl⟩
    | applyFinalStatus _ _ _ old | reconcile _ _ _ _ old =>
      exact Or.inl ⟨old, (Table.find?_eq_some_iff.mp isBefore).2 ▸ isBefore, rfl, rfl⟩
  · rw [effect.intent_of_ne concerns] at found
    exact Or.inl ⟨intent, found, rfl, rfl⟩

/-- Another user's payment intent that has the key after a statement had it before, or is the
one that the statement inserts. -/
theorem hasForeignIntent_of_run {write : OnboardingWrite} {store after : Store}
    {result : write.Result} (run : write.body.run store = some (after, result))
    (isForeign : after.hasForeignIntent userId idempotencyKey = true) :
    store.hasForeignIntent userId idempotencyKey = true ∨
      ∃ owner, write.insertion = some (owner, idempotencyKey) ∧ owner ≠ userId := by
  obtain ⟨intent, found, rfl, notOwn⟩ := hasForeignIntent_eq_true_iff.mp isForeign
  have wasForeign {old : PaymentIntent} (isOld : store.paymentIntent? old.id = some old)
      (sameKey : old.idempotencyKey = intent.idempotencyKey)
      (sameUser : old.userId = intent.userId) :
      store.hasForeignIntent userId intent.idempotencyKey = true :=
    hasForeignIntent_eq_true_iff.mpr ⟨old, isOld, sameKey, isOwnOf_congr sameUser ▸ notOwn⟩
  have isOther {owner : String} (isOwner : intent.userId = some owner) : owner ≠ userId := by
    rintro rfl
    simp [isOwnOf, isOwner] at notOwn
  cases write with
  | billing party write =>
    obtain ⟨left, inBilling, rfl⟩ := OnboardingWrite.run_onBilling_eq_some_iff.mp run
    rcases intent_of_effect (Billing.Write.effect_of_run inBilling) found with
      ⟨old, isOld, sameKey, sameUser⟩ | ⟨owner, isOwner, inserts⟩
    · exact Or.inl (wasForeign isOld sameKey sameUser)
    · exact Or.inr ⟨owner, inserts, isOther isOwner⟩
  | createPaymentIntent row =>
    obtain ⟨left, inBilling, rfl⟩ := OnboardingWrite.run_onBilling_eq_some_iff.mp run
    obtain ⟨_, _, done⟩ := Billing.run_insertPaymentIntent inBilling
    obtain ⟨rfl, _⟩ := Prod.mk.inj (Option.some.inj done)
    have inserted := Billing.Store.paymentIntentTable.find?_insert row store.billing intent.id
    have isThere : Billing.Store.paymentIntentTable.find? intent.id _ = some intent := found
    rw [isThere] at inserted
    rcases isOld : Billing.Store.paymentIntentTable.find? intent.id store.billing with _ | old
    · rw [isOld, Option.none_or] at inserted
      split at inserted
      · obtain rfl := Option.some.inj inserted
        rcases isOwner : intent.userId with _ | owner
        · simp [isOwnOf, isOwner] at notOwn
        · refine Or.inr ⟨owner, ?_, isOther isOwner⟩
          rw [OnboardingWrite.insertion, isOwner, Option.map_some]
      · contradiction
    · rw [isOld, Option.some_or] at inserted
      obtain rfl := Option.some.inj inserted
      exact Or.inl (wasForeign isOld rfl rfl)
  | updateUser id organizationId =>
    obtain ⟨left, inBilling, rfl⟩ := OnboardingWrite.run_onBilling_eq_some_iff.mp run
    obtain ⟨user, _, done⟩ := Tx.run_updateRow_eq_some_iff.mp inBilling
    obtain ⟨rfl, _⟩ := Prod.mk.inj (Option.some.inj done)
    exact Or.inl (wasForeign found rfl rfl)
  | _ =>
    rw [Store.paymentIntent?, OnboardingWrite.billing_of_run run rfl] at found
    exact Or.inl (wasForeign found rfl rfl)

end Foreign

end Csms.Applications
