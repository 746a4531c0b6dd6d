import Csms.Billing.Origin

/-!
# Settled intents and posted credits

A top-up is recorded twice, in the status of its payment intent and in that of
its credit.  Settlement leaves a posted credit alone but writes every status
into the intent, so the two agree as long as no other status comes after
`SETTLED`.
-/

namespace Csms.Billing

open Database Js

variable {credit : Transaction}

namespace Store

def HasPostedCredit (store : Store) (intentId : String) : Prop :=
  ∃ credit ∈ store.transactionsOf intentId, credit.type = .credit ∧ credit.status = .posted

/-- Top-up intents are settled exactly when their credit is posted. -/
def SettledIffPosted (store : Store) : Prop :=
  ∀ intent ∈ store.paymentIntents.rows, (toppedUpWallet intent).isSome →
    (intent.status = .final .settled ↔ store.HasPostedCredit intent.id)

instance (store : Store) : Decidable store.SettledIffPosted :=
  inferInstanceAs (Decidable (∀ intent ∈ store.paymentIntents.rows,
    (toppedUpWallet intent).isSome → (intent.status = .final .settled ↔
      ∃ credit ∈ store.transactionsOf intent.id, credit.type = .credit ∧
        credit.status = .posted)))

/-- A settled top-up intent is still settled afterwards. -/
def SettledStay (before after : Store) : Prop :=
  ∀ intent ∈ before.paymentIntents.rows, (toppedUpWallet intent).isSome →
    intent.status = .final .settled →
      ∃ later ∈ after.paymentIntents.rows, later.id = intent.id ∧
        later.status = .final .settled

def HasSettledTopUp (store : Store) (intentId : String) : Prop :=
  ∃ intent, paymentIntentTable.find? intentId store = some intent ∧
    (toppedUpWallet intent).isSome ∧ intent.status = .final .settled

/-- Every top-up intent has its credit. -/
structure TopUpsSound (store : Store) : Prop where
  credits : store.CreditsSound
  credited : ∀ intentId intent walletId,
    paymentIntentTable.find? intentId store = some intent →
      toppedUpWallet intent = some walletId →
        ∃ credit, store.transactionsOf intentId = [credit] ∧ credit.type = .credit ∧
          credit.walletId = walletId

variable {store : Store} {intentId : String}

def AgreesAt (store : Store) (intentId : String) : Prop :=
  ∀ intent, paymentIntentTable.find? intentId store = some intent →
    (toppedUpWallet intent).isSome →
      (intent.status = .final .settled ↔ store.HasPostedCredit intentId)

theorem settledIffPosted_iff : store.SettledIffPosted ↔ ∀ intentId, store.AgreesAt intentId := by
  constructor
  · intro agrees intentId intent found
    obtain ⟨member, rfl⟩ := Table.find?_eq_some_iff.mp found
    exact agrees intent member
  · intro agrees intent member
    exact agrees intent.id intent (Table.find?_eq_some_iff.mpr ⟨member, rfl⟩)

section Found

variable {intent : PaymentIntent} (found : paymentIntentTable.find? intentId store = some intent)
include found

theorem agreesAt_iff (isTopUp : (toppedUpWallet intent).isSome) : store.AgreesAt intentId ↔
      (intent.status = .final .settled ↔ store.HasPostedCredit intentId) := by
  constructor
  · intro agrees
    exact agrees intent found isTopUp
  · intro agrees row rowFound _
    obtain rfl := Option.some.inj (found.symm.trans rowFound)
    exact agrees

theorem agreesAt_of_none (noTopUp : toppedUpWallet intent = none) : store.AgreesAt intentId := by
  intro row rowFound isTopUp
  obtain rfl := Option.some.inj (found.symm.trans rowFound)
  rw [noTopUp] at isTopUp
  contradiction

theorem hasSettledTopUp_iff : store.HasSettledTopUp intentId ↔
      (toppedUpWallet intent).isSome ∧ intent.status = .final .settled := by
  constructor
  · rintro ⟨row, rowFound, isTopUp, isSettled⟩
    obtain rfl := Option.some.inj (found.symm.trans rowFound)
    exact ⟨isTopUp, isSettled⟩
  · intro settled
    exact ⟨intent, found, settled⟩

end Found

theorem hasPostedCredit_iff (rows : store.transactionsOf intentId = [credit])
    (isCredit : credit.type = .credit) :
    store.HasPostedCredit intentId ↔ credit.status = .posted := by
  rw [HasPostedCredit, rows]
  simp [isCredit]

end Store

/-- What must hold of the intent when the transaction commits: no other status comes
after `SETTLED`. -/
def Write.KeepsSettled (store : Store) : Write → Prop
  | .applyFinalStatus existing input _ =>
    store.HasSettledTopUp existing.id → input.status = .settled
  | .reconcile existing _ _ _ => ¬ store.HasSettledTopUp existing.id
  | _ => True

theorem toppedUpWallet_settledIntent (input : WalletTopUp) :
    toppedUpWallet input.settledIntent = none := by
  have noFlow : isWalletTopUp input.settledIntent = false := by
    rw [isWalletTopUp, WalletTopUp.settledIntent, noteMetadata]
    rcases orText input.note none with _ | text <;> rfl
  rw [toppedUpWallet, noFlow, if_neg Bool.false_ne_true]

variable {walletId : String}

theorem eq_of_toppedUpWallet {intent : PaymentIntent}
    (isTopUp : toppedUpWallet intent = some walletId) : intent.walletId = some walletId := by
  rw [toppedUpWallet] at isTopUp
  split at isTopUp
  · rcases stored : intent.walletId with _ | text
    · rw [stored] at isTopUp
      contradiction
    · rw [stored, orText] at isTopUp
      split at isTopUp
      · contradiction
      · exact isTopUp
  · contradiction

theorem CreditStep.of_singleton {rows : List Transaction} {moved : String → ℚ}
    (step : CreditStep [credit] rows moved) :
    ∃ later, rows = [later] ∧ later.type = credit.type ∧ later.walletId = credit.walletId := by
  cases step with
  | idle => exact ⟨credit, rfl, rfl, rfl⟩
  | post | fail => exact ⟨_, rfl, rfl, rfl⟩

theorem Effect.rows_of_topUpPending {input : WalletTopUp} {orchestration : PaymentSession}
    {store after : Store} (effect : Effect (.topUpPending input orchestration) store after)
    (sound : store.CreditsSound) :
    after.transactionsOf input.call.paymentIntentId = [input.pendingCredit] := by
  cases effect with
  | topUpPending input orchestration store intentFree _ free =>
    exact Store.transactionsOf_insert_first
      (sound.ofIntent input.call.paymentIntentId intentFree) free rfl

section Steps

variable {write : Write} {store after : Store}

theorem Effect.topUpsSound (effect : Effect write store after) (informed : write.Informed store)
    (sound : store.TopUpsSound) : after.TopUpsSound := by
  refine ⟨effect.creditsSound sound.credits, ?_⟩
  intro intentId intent walletId found isTopUp
  by_cases concerns : write.intentId = some intentId
  · have step := effect.intentStep concerns
    -- a settlement finds the credit that the intent had before
    have settles {row : PaymentIntent}
        (rowFound : Store.paymentIntentTable.find? intentId store = some row) :
        ∃ credit, after.transactionsOf intentId = [credit] ∧ credit.type = .credit ∧
          credit.walletId = walletId := by
      obtain ⟨later, laterFound, same⟩ := effect.intentsKept informed intentId row rowFound
      rw [Store.id_of_find? rowFound, found] at laterFound
      obtain rfl := Option.some.inj laterFound
      obtain ⟨credit, rows, isCredit, ofWallet⟩ :=
        sound.credited intentId row walletId rowFound (same.toppedUpWallet_eq ▸ isTopUp)
      have creditStep := effect.creditStep sound.credits concerns
      rw [rows] at creditStep
      obtain ⟨laterCredit, laterRows, sameType, sameWallet⟩ := creditStep.of_singleton
      exact ⟨laterCredit, laterRows, sameType.trans isCredit, sameWallet.trans ofWallet⟩
    rw [found] at step
    rcases before : Store.paymentIntentTable.find? intentId store with _ | row
    · rw [before] at step
      cases step with
      | topUpSettled input =>
        rw [toppedUpWallet_settledIntent] at isTopUp
        contradiction
      | topUpPending input orchestration =>
        obtain rfl := Option.some.inj concerns
        have ofWallet := Option.some.inj (eq_of_toppedUpWallet isTopUp)
        exact ⟨input.pendingCredit, effect.rows_of_topUpPending sound.credits, rfl, ofWallet⟩
    · exact settles before
  · rw [effect.intent_of_ne concerns] at found
    rw [effect.transactionsOf_of_ne concerns]
    exact sound.credited intentId intent walletId found isTopUp

/-- Settlement of a top-up looks at its credit. -/
theorem openCredit_of_credit {intent : PaymentIntent}
    (isTopUp : toppedUpWallet intent = some walletId)
    (rows : store.transactionsOf intent.id = [credit]) (isCredit : credit.type = .credit)
    (ofWallet : credit.walletId = walletId) :
    openCredit store intent = if credit.status = .posted then none else some credit := by
  have found : creditTransaction store intent.id walletId = some credit := by
    have selected : [credit].filter (fun row => row.walletId = walletId && row.type = .credit) =
        [credit] := by
      simp [isCredit, ofWallet]
    rw [creditTransaction, rows, selected]
    rfl
  rw [openCredit, isTopUp, Option.bind_some, found]
  by_cases isPosted : credit.status = .posted <;> simp [isPosted]

/-- A final status posts the credit of a top-up if it is `SETTLED`, and does not take a
posting back. -/
theorem Effect.hasPostedCredit_iff {existing : PaymentIntent} {input : ApplyFinalStatusInput}
    {now : Int} (effect : Effect (.applyFinalStatus existing input now) store after)
    (isTopUp : ∀ intent, Store.paymentIntentTable.find? existing.id store = some intent → toppedUpWallet (finalStatusChange existing input now intent) = some walletId)
    (sound : store.CreditsSound) (rows : store.transactionsOf existing.id = [credit])
    (isCredit : credit.type = .credit) (ofWallet : credit.walletId = walletId) :
    after.HasPostedCredit existing.id ↔
      store.HasPostedCredit existing.id ∨ input.status = .settled := by
  have isOpen (intent : PaymentIntent)
      (found : Store.paymentIntentTable.find? existing.id store = some intent) :
      openCredit store (finalStatusChange existing input now intent) =
        if credit.status = .posted then none else some credit := by
    have ofIntent : store.transactionsOf (finalStatusChange existing input now intent).id =
        [credit] := by
      rw [id_finalStatusChange, Store.id_of_find? found]
      exact rows
    exact openCredit_of_credit (isTopUp intent found) ofIntent isCredit ofWallet
  rw [Store.hasPostedCredit_iff rows isCredit]
  cases effect with
  | finalStatus existing input now intent store found noCredit =>
    rw [isOpen intent found] at noCredit
    have isPosted : credit.status = .posted := by
      by_contra notPosted
      rw [if_neg notPosted] at noCredit
      contradiction
    exact iff_of_true ((Store.hasPostedCredit_iff rows isCredit).mpr isPosted) (Or.inl isPosted)
  | settled existing input now intent creditTx wallet store found openTx isSettled _ =>
    obtain ⟨member, ofIntent, -, -⟩ := of_openCredit_finalStatusChange found openTx
    obtain rfl : creditTx = credit :=
      List.singleton_inj.mp ((sound.eq_singleton member ofIntent).symm.trans rows)
    have posted := Store.transactionsOf_setStatus .posted .reconciled
      (orText creditTx.reference (some s!"TOPUP_SETTLED_{now}")) rows ofIntent
    exact iff_of_true ((Store.hasPostedCredit_iff posted isCredit).mpr rfl) (Or.inr isSettled)
  | markedAsFailed existing input now intent creditTx store found openTx notSettled =>
    obtain ⟨member, ofIntent, -, notPosted⟩ := of_openCredit_finalStatusChange found openTx
    obtain rfl : creditTx = credit :=
      List.singleton_inj.mp ((sound.eq_singleton member ofIntent).symm.trans rows)
    have failed := Store.transactionsOf_setStatus .failed .disputed creditTx.reference rows ofIntent
    refine iff_of_false ?_ (not_or.mpr ⟨notPosted, notSettled⟩)
    intro isPosted
    nomatch (Store.hasPostedCredit_iff failed isCredit).mp isPosted

/-- A new intent and its transaction agree. -/
theorem Effect.agreesAt_of_created (effect : Effect write store after) (sound : store.TopUpsSound)
    {intentId : String} {intent : PaymentIntent} (concerns : write.intentId = some intentId)
    (before : Store.paymentIntentTable.find? intentId store = none)
    (created : Store.paymentIntentTable.find? intentId after = some intent) :
    after.AgreesAt intentId ∧ write.KeepsSettled store := by
  have step := effect.intentStep concerns
  rw [before, created] at step
  cases step with
  | topUpSettled input =>
    exact ⟨Store.agreesAt_of_none created (toppedUpWallet_settledIntent input), trivial⟩
  | topUpPending input orchestration =>
    obtain rfl := Option.some.inj concerns
    have rows := effect.rows_of_topUpPending sound.credits
    have notPosted : ¬ after.HasPostedCredit input.call.paymentIntentId := by
      intro isPosted
      nomatch (Store.hasPostedCredit_iff rows rfl).mp isPosted
    refine ⟨?_, trivial⟩
    intro intent found _
    obtain rfl := Option.some.inj (created.symm.trans found)
    exact iff_of_false nofun notPosted

/-- Settlement keeps the agreement exactly when it does not leave `SETTLED`. -/
theorem Effect.agreesAt_iff_of_changed (effect : Effect write store after)
    (sound : store.TopUpsSound) {intentId : String} {row changed : PaymentIntent}
    (concerns : write.intentId = some intentId)
    (before : Store.paymentIntentTable.find? intentId store = some row)
    (found : Store.paymentIntentTable.find? intentId after = some changed)
    (same : SameTopUp changed row) (agrees : store.AgreesAt intentId) :
    after.AgreesAt intentId ↔ write.KeepsSettled store := by
  have step := effect.intentStep concerns
  rw [before, found] at step
  have isSettled := Store.hasSettledTopUp_iff before
  rcases isTopUp : toppedUpWallet row with _ | walletId
  · have noTopUp : ¬ store.HasSettledTopUp intentId := by
      rw [isSettled, isTopUp]
      rintro ⟨⟨⟩, _⟩
    refine iff_of_true
      (Store.agreesAt_of_none found (same.toppedUpWallet_eq.trans isTopUp)) ?_
    cases step with
    | applyFinalStatus existing input now =>
      obtain rfl := Option.some.inj concerns
      exact fun settled => absurd settled noTopUp
    | reconcile existing status providerReference note =>
      obtain rfl := Option.some.inj concerns
      exact noTopUp
  · have isSome : (toppedUpWallet row).isSome := by rw [isTopUp, Option.isSome_some]
    have isSomeAfter : (toppedUpWallet changed).isSome := same.toppedUpWallet_eq ▸ isSome
    have posted := (Store.agreesAt_iff before isSome).mp agrees
    obtain ⟨credit, rows, isCredit, ofWallet⟩ :=
      sound.credited intentId row walletId before isTopUp
    rw [Store.agreesAt_iff found isSomeAfter]
    cases step with
    | applyFinalStatus existing input now =>
      obtain rfl := Option.some.inj concerns
      have postedAfter := effect.hasPostedCredit_iff
        (fun intent intentFound => by
          obtain rfl := Option.some.inj (before.symm.trans intentFound)
          exact same.toppedUpWallet_eq.trans isTopUp) sound.credits rows isCredit ofWallet
      have written : (finalStatusChange existing input now row).status = .final .settled ↔
          input.status = .settled := by
        simp [finalStatusChange]
      rw [Write.KeepsSettled, isSettled, written, postedAfter, posted]
      constructor
      · intro agreesAfter settled
        exact agreesAfter.mpr (Or.inl settled.2)
      · intro keeps
        exact ⟨Or.inr, fun either => either.elim (fun before => keeps ⟨isSome, before⟩) id⟩
    | reconcile existing status providerReference note =>
      obtain rfl := Option.some.inj concerns
      have postedAfter : after.HasPostedCredit existing.id ↔ store.HasPostedCredit existing.id := by
        cases effect with
        | reconcile existing status providerReference note intent store _ => exact Iff.rfl
      have written : (reconcileChange existing status providerReference note row).status ≠
          .final .settled := by rintro ⟨⟩
      rw [Write.KeepsSettled, isSettled, postedAfter, posted]
      constructor
      · intro agreesAfter settled
        exact written (agreesAfter.mpr settled.2)
      · intro keeps
        exact iff_of_false written fun before => keeps ⟨isSome, before⟩

section

variable (effect : Effect write store after) (informed : write.Informed store)
    (sound : store.TopUpsSound) (agrees : store.SettledIffPosted)
include effect informed sound agrees

/-- Among stores that know their top-ups, a transaction keeps the agreement exactly when
no other status comes after `SETTLED`. -/
theorem Effect.settledIffPosted_iff : after.SettledIffPosted ↔ write.KeepsSettled store := by
  rw [Store.settledIffPosted_iff] at agrees ⊢
  have elsewhere (intentId : String) (other : write.intentId ≠ some intentId) :
      after.AgreesAt intentId := by
    have same := agrees intentId
    rw [Store.AgreesAt, Store.HasPostedCredit] at same ⊢
    rw [effect.intent_of_ne other, effect.transactionsOf_of_ne other]
    exact same
  have concerned (intentId : String) (concerns : write.intentId = some intentId) :
      after.AgreesAt intentId ↔ write.KeepsSettled store := by
    obtain ⟨changed, found⟩ := (effect.intentStep concerns).exists_intent
    rcases before : Store.paymentIntentTable.find? intentId store with _ | row
    · have both := effect.agreesAt_of_created sound concerns before found
      exact iff_of_true both.1 both.2
    · obtain ⟨later, laterFound, same⟩ := effect.intentsKept informed intentId row before
      rw [Store.id_of_find? before, found] at laterFound
      obtain rfl := Option.some.inj laterFound
      exact effect.agreesAt_iff_of_changed sound concerns before found same (agrees intentId)
  rcases about : write.intentId with _ | intentId
  · refine iff_of_true (fun intentId => elsewhere intentId (about ▸ nofun)) ?_
    cases write with
    | applyFinalStatus => contradiction
    | reconcile => contradiction
    | _ => trivial
  · rw [← concerned intentId about]
    constructor
    · intro all
      exact all intentId
    · intro here other
      by_cases isIntent : intentId = other
      · exact isIntent ▸ here
      · exact elsewhere other fun same => isIntent (Option.some.inj (about.symm.trans same))

theorem Effect.settledStay (agreesAfter : after.SettledIffPosted) :
    Store.SettledStay store after := by
  intro intent member isTopUp isSettled
  obtain ⟨credit, isRow, isCredit, isPosted⟩ := (agrees intent member isTopUp).mp isSettled
  have found : Store.paymentIntentTable.find? intent.id store = some intent :=
    Table.find?_eq_some_iff.mpr ⟨member, rfl⟩
  have ofIntent := List.mem_filter.mp isRow
  have rows := sound.credits.eq_singleton ofIntent.1 (of_decide_eq_true ofIntent.2)
  have stays := effect.posted_stays sound.credits rows isPosted
  obtain ⟨later, laterFound, same⟩ := effect.intentsKept informed intent.id intent found
  obtain ⟨laterMem, isLater⟩ := Table.find?_eq_some_iff.mp laterFound
  refine ⟨later, laterMem, isLater, ?_⟩
  apply (agreesAfter later laterMem (same.toppedUpWallet_eq ▸ isTopUp)).mpr
  rw [isLater]
  exact (Store.hasPostedCredit_iff stays isCredit).mpr isPosted

end

end Steps

theorem topUpsSound_opening (users : Table User User.id)
    (paymentMethods : Table PaymentMethod PaymentMethod.id) :
    (Store.opening users paymentMethods).TopUpsSound where
  credits := creditsSound_opening users paymentMethods
  credited := fun _ _ _ found => nomatch found

theorem settledIffPosted_opening (users : Table User User.id)
    (paymentMethods : Table PaymentMethod PaymentMethod.id) :
    (Store.opening users paymentMethods).SettledIffPosted :=
  List.forall_mem_nil _

namespace Sample

def settled : List (DatabaseEvent BillingRequest) :=
  pendingTopUp 0 ++
    [.arrive (finalStatus "b" .settled), .query 1, .begin 1, .statement 1, .statement 1,
      .statement 1, .statement 1, .commit 1]

def failedAfterSettled : List (DatabaseEvent BillingRequest) :=
  settled ++
    [.arrive (finalStatus "c" .failed), .query 2, .begin 2, .statement 2, .statement 2, .commit 2]

def statuses (store : Store) : List PaymentIntentStatus × List TransactionStatus :=
  (store.paymentIntents.rows.map PaymentIntent.status,
    store.transactions.rows.map Transaction.status)

end Sample

open Sample

end Csms.Billing
