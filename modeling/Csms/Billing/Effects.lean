import Csms.Billing.Writes

/-!
# What the writes of billing do

One constructor a way a transaction can succeed, with the store it commits: the
guards of its statements and the rows it creates or changes.  Everything that is
proved about runs goes through this description.
-/

namespace Csms.Billing

open Database Js

namespace Store

/-- The store after a change of a balance. -/
def post (id : String) (amount : ℚ) (store : Store) : Store :=
  walletTable.update id (fun wallet => { wallet with balance := wallet.balance + amount })
    (fun _ => rfl) store

/-- The store after a change of a wallet's currency and organisation. -/
def setOwner (id : String) (organizationId : Option String) (currency : String) (store : Store) :
    Store :=
  walletTable.update id (fun wallet => { wallet with organizationId, currency }) (fun _ => rfl)
    store

/-- The store after a wallet was locked or unlocked. -/
def setLock (id : String) (isLocked : Bool) (lockReason : Option String) (lockedAt : Option Int)
    (store : Store) : Store :=
  walletTable.update id (fun wallet => { wallet with isLocked, lockReason, lockedAt })
    (fun _ => rfl) store

/-- The store after a top-up was credited, in the currency of the top-up. -/
def postIn (id : String) (amount : ℚ) (currency : String) (store : Store) : Store :=
  walletTable.update id
    (fun wallet => { wallet with balance := wallet.balance + amount, currency }) (fun _ => rfl)
    store

/-- The store after a transaction of a payment intent got another status. -/
def setStatus (intentId id : String) (status : TransactionStatus)
    (reconciliationState : ReconciliationState) (reference : Option String) (store : Store) :
    Store :=
  transactionTable.update id (statusChange intentId status reconciliationState reference)
    (id_statusChange intentId status reconciliationState reference) store

def changeIntent (id : String) (change : PaymentIntent → PaymentIntent)
    (keeps : ∀ intent, (change intent).id = intent.id) (store : Store) : Store :=
  paymentIntentTable.update id change keeps store

end Store

/-- The credit of a top-up that has not been posted. -/
def openCredit (store : Store) (intent : PaymentIntent) : Option Transaction :=
  (toppedUpWallet intent).bind fun walletId =>
    (creditTransaction store intent.id walletId).filter fun creditTx => creditTx.status ≠ .posted

theorem of_creditTransaction {store : Store} {intentId walletId : String} {creditTx : Transaction}
    (found : creditTransaction store intentId walletId = some creditTx) :
    creditTx ∈ store.transactions.rows ∧ creditTx.paymentIntentId = some intentId ∧
      creditTx.walletId = walletId ∧ creditTx.type = .credit := by
  have selected := mem_of_oldestOf found
  rw [List.mem_filter, Bool.and_eq_true, decide_eq_true_eq, decide_eq_true_eq] at selected
  rcases selected with ⟨ofIntent, isWallet, isCredit⟩
  rw [Store.transactionsOf, List.mem_filter, decide_eq_true_eq] at ofIntent
  exact ⟨ofIntent.1, ofIntent.2, isWallet, isCredit⟩

variable {intent : PaymentIntent}

theorem openCredit_eq_some_iff {store : Store} {creditTx : Transaction} :
    openCredit store intent = some creditTx ↔ ∃ walletId, toppedUpWallet intent = some walletId ∧
        creditTransaction store intent.id walletId = some creditTx ∧ creditTx.status ≠ .posted := by
  simp only [openCredit, Option.bind_eq_some_iff, Option.filter_eq_some_iff, decide_eq_true_eq]

open Store in
/-- A transaction that succeeds, the store before and the store it commits. -/
inductive Effect : Write → Store → Store → Prop
  | createWallet (id userId : String) (organizationId : Option String) (currency : String)
      (store : Store) :
      walletTable.find? id store = none → hasWalletOf userId store = false →
      Effect (.createWallet id userId organizationId currency) store
        (walletTable.insert
          { id, userId, organizationId, balance := 0, currency, isLocked := false,
            lockReason := none, lockedAt := none } store)
  | updateWalletOwner (id : String) (organizationId : Option String) (currency : String)
      (wallet : Wallet) (store : Store) :
      walletTable.find? id store = some wallet →
      Effect (.updateWalletOwner id organizationId currency) store
        (store.setOwner id organizationId currency)
  | lockWallet (id lockReason : String) (now : Int) (wallet : Wallet) (store : Store) :
      walletTable.find? id store = some wallet →
      Effect (.lockWallet id lockReason now) store (store.setLock id true (some lockReason) (some now))
  | unlockWallet (id : String) (wallet : Wallet) (store : Store) :
      walletTable.find? id store = some wallet →
      Effect (.unlockWallet id) store (store.setLock id false none none)
  | topUpSettled (input : WalletTopUp) (wallet : Wallet) (store : Store) :
      paymentIntentTable.find? input.settledIntent.id store = none →
      hasPaymentIntentKey input.idempotencyKey store = false →
      walletTable.find? input.wallet.id store = some wallet →
      transactionTable.find? input.settledCredit.id store = none →
      Effect (.topUpSettled input) store
        (transactionTable.insert input.settledCredit
          ((paymentIntentTable.insert input.settledIntent store).postIn input.wallet.id input.amount
            input.currency))
  | topUpPending (input : WalletTopUp) (orchestration : PaymentSession) (store : Store) :
      paymentIntentTable.find? (input.pendingIntent orchestration).id store = none →
      hasPaymentIntentKey input.idempotencyKey store = false →
      transactionTable.find? input.pendingCredit.id store = none →
      Effect (.topUpPending input orchestration) store
        (transactionTable.insert input.pendingCredit
          (paymentIntentTable.insert (input.pendingIntent orchestration) store))
  | debit (input : WalletPosting) (wallet : Wallet) (store : Store) :
      walletTable.find? input.wallet.id store = some wallet →
      transactionTable.find? input.debitTransaction.id store = none →
      Effect (.debit input) store
        (transactionTable.insert input.debitTransaction
          (store.post input.wallet.id (-input.amount)))
  | refund (input : WalletPosting) (wallet : Wallet) (store : Store) :
      walletTable.find? input.wallet.id store = some wallet →
      transactionTable.find? input.refundTransaction.id store = none →
      Effect (.refund input) store
        (transactionTable.insert input.refundTransaction (store.post input.wallet.id input.amount))
  | transfer (input : WalletTransfer) (source target : Wallet) (store : Store) :
      walletTable.find? input.sourceWallet.id store = some source →
      walletTable.find? input.targetWallet.id (store.post input.sourceWallet.id (-input.amount)) =
        some target →
      transactionTable.find? input.debitTransaction.id store = none →
      transactionTable.find? input.creditTransaction.id
        (transactionTable.insert input.debitTransaction store) = none →
      Effect (.transfer input) store
        (transactionTable.insert input.creditTransaction
          (transactionTable.insert input.debitTransaction
            ((store.post input.sourceWallet.id (-input.amount)).post input.targetWallet.id
              input.amount)))
  /-- A final status where there is no credit to post or to mark as failed. -/
  | finalStatus (existing : PaymentIntent) (input : ApplyFinalStatusInput) (now : Int)
      (intent : PaymentIntent) (store : Store) :
      paymentIntentTable.find? existing.id store = some intent →
      openCredit store (finalStatusChange existing input now intent) = none →
      Effect (.applyFinalStatus existing input now) store
        (store.changeIntent existing.id (finalStatusChange existing input now)
          (id_finalStatusChange existing input now))
  | settled (existing : PaymentIntent) (input : ApplyFinalStatusInput) (now : Int)
      (intent : PaymentIntent) (creditTx : Transaction) (wallet : Wallet) (store : Store) :
      paymentIntentTable.find? existing.id store = some intent →
      openCredit store (finalStatusChange existing input now intent) = some creditTx →
      input.status = .settled →
      walletTable.find? creditTx.walletId store = some wallet →
      Effect (.applyFinalStatus existing input now) store
        (((store.changeIntent existing.id (finalStatusChange existing input now)
          (id_finalStatusChange existing input now)).post
          creditTx.walletId creditTx.amount).setStatus existing.id creditTx.id .posted .reconciled
            (orText creditTx.reference (some s!"TOPUP_SETTLED_{now}")))
  | markedAsFailed (existing : PaymentIntent) (input : ApplyFinalStatusInput) (now : Int)
      (intent : PaymentIntent) (creditTx : Transaction) (store : Store) :
      paymentIntentTable.find? existing.id store = some intent →
      openCredit store (finalStatusChange existing input now intent) = some creditTx →
      input.status ≠ .settled →
      Effect (.applyFinalStatus existing input now) store
        ((store.changeIntent existing.id (finalStatusChange existing input now)
          (id_finalStatusChange existing input now)).setStatus
          existing.id creditTx.id .failed .disputed creditTx.reference)
  | reconcile (existing : PaymentIntent) (status : PaymentIntentOngoingStatus)
      (providerReference : Option (Option String)) (note : Option String)
      (intent : PaymentIntent) (store : Store) :
      paymentIntentTable.find? existing.id store = some intent →
      Effect (.reconcile existing status providerReference note) store
        (store.changeIntent existing.id (reconcileChange existing status providerReference note)
          (id_reconcileChange existing status providerReference note))
  | createWebhookEvent (id : String) (provider : PaymentProvider) (eventId eventType : String)
      (store : Store) :
      webhookEventTable.find? id store = none → hasWebhookEventKey provider eventId store = false →
      Effect (.createWebhookEvent id provider eventId eventType) store
        (webhookEventTable.insert
          { id, provider, eventId, eventType, paymentIntentId := none, status := .received,
            errorMessage := none } store)
  | markEventStatus (id : String) (status : WebhookEventStatus)
      (paymentIntentId errorMessage : Option String) (event : PaymentWebhookEvent)
      (store : Store) :
      webhookEventTable.find? id store = some event →
      Effect (.markEventStatus id status paymentIntentId errorMessage) store
        (webhookEventTable.update id (eventStatusChange status paymentIntentId errorMessage)
          (id_eventStatusChange status paymentIntentId errorMessage) store)

section Runs

variable {α : Type} {store : Store} {outcome : Store × α}

variable {rest : BillingTx α}

theorem run_insertWallet {wallet : Wallet}
    (succeeds : (insertWallet wallet rest).run store = some outcome) :
    Store.walletTable.find? wallet.id store = none ∧ Store.hasWalletOf wallet.userId store = false ∧
        rest.run (Store.walletTable.insert wallet store) = some outcome := by
  rcases Tx.run_insertRow_eq_some_iff.mp succeeds with ⟨found, free, further⟩
  rw [Bool.and_eq_true, Bool.not_eq_true'] at free
  exact ⟨found, free.1, further⟩

theorem run_updateWallet {id : String} {change : Wallet → Wallet}
    (keeps : ∀ wallet, (change wallet).id = wallet.id ∧ (change wallet).userId = wallet.userId)
    {rest : Wallet → BillingTx α}
    (succeeds : (updateWallet id change keeps rest).run store = some outcome) :
    ∃ wallet, Store.walletTable.find? id store = some wallet ∧ (rest (change wallet)).run
        (Store.walletTable.update id change (fun wallet => (keeps wallet).1) store) =
          some outcome :=
  Tx.run_updateRow_eq_some_iff.mp succeeds

theorem run_insertTransaction {transaction : Transaction}
    (succeeds : (insertTransaction transaction rest).run store = some outcome) :
    Store.transactionTable.find? transaction.id store = none ∧
      rest.run (Store.transactionTable.insert transaction store) = some outcome := by
  rcases Tx.run_insertRow_eq_some_iff.mp succeeds with ⟨found, -, further⟩
  exact ⟨found, further⟩

theorem run_insertPaymentIntent
    (succeeds : (insertPaymentIntent intent rest).run store = some outcome) :
    Store.paymentIntentTable.find? intent.id store = none ∧
      Store.hasPaymentIntentKey intent.idempotencyKey store = false ∧
        rest.run (Store.paymentIntentTable.insert intent store) = some outcome := by
  rcases Tx.run_insertRow_eq_some_iff.mp succeeds with ⟨found, free, further⟩
  rw [Bool.not_eq_true'] at free
  exact ⟨found, free, further⟩

theorem run_postToWallet {walletId : String} {change : ℚ → ℚ} {transaction : Transaction}
    {outcome : Store × Wallet × String}
    (succeeds : (postToWallet walletId change transaction).run store = some outcome) :
    ∃ wallet, Store.walletTable.find? walletId store = some wallet ∧
      Store.transactionTable.find? transaction.id store = none ∧ outcome =
          (Store.transactionTable.insert transaction (Store.walletTable.update walletId
              (fun wallet => { wallet with balance := change wallet.balance }) (fun _ => rfl)
              store),
            { wallet with balance := change wallet.balance }, transaction.id) := by
  rcases run_updateWallet (fun _ => by exact ⟨rfl, rfl⟩) succeeds with ⟨wallet, found, more⟩
  rcases run_insertTransaction more with ⟨free, done⟩
  exact ⟨wallet, found, free, (Option.some.inj done).symm⟩

/-- What a final status does with the credit of an intent, whichever it is. -/
theorem run_openCredit {onOpen : String → Transaction → BillingTx α}
    (succeeds : (match toppedUpWallet intent with
      | none => rest
      | some walletId => .read fun store =>
        match creditTransaction store intent.id walletId with
        | none => rest
        | some creditTx =>
          if creditTx.status = .posted then rest else onOpen walletId creditTx :
      BillingTx α).run store = some outcome) :
    (openCredit store intent = none ∧ rest.run store = some outcome) ∨
      ∃ creditTx, openCredit store intent = some creditTx ∧
        (onOpen creditTx.walletId creditTx).run store = some outcome := by
  rcases isTopUp : toppedUpWallet intent with _ | walletId
  · rw [isTopUp] at succeeds
    exact Or.inl ⟨by rw [openCredit, isTopUp, Option.bind_none], succeeds⟩
  · rw [isTopUp] at succeeds
    rcases found : creditTransaction store intent.id walletId with _ | creditTx
    · simp only [Tx.run_read, found] at succeeds
      exact Or.inl ⟨by rw [openCredit, isTopUp, Option.bind_some, found, Option.filter_none],
        succeeds⟩
    · simp only [Tx.run_read, found] at succeeds
      obtain ⟨-, -, rfl, -⟩ := of_creditTransaction found
      by_cases isPosted : creditTx.status = .posted
      · rw [if_pos isPosted] at succeeds
        refine Or.inl ⟨?_, succeeds⟩
        simp [openCredit, isTopUp, found, isPosted]
      · rw [if_neg isPosted] at succeeds
        exact Or.inr ⟨creditTx, openCredit_eq_some_iff.mpr ⟨_, isTopUp, found, isPosted⟩, succeeds⟩

theorem run_creditPendingWalletTopUp {now : Int}
    (succeeds : (creditPendingWalletTopUp intent now rest).run store = some outcome) :
    (openCredit store intent = none ∧ rest.run store = some outcome) ∨
      ∃ creditTx wallet, openCredit store intent = some creditTx ∧
        Store.walletTable.find? creditTx.walletId store = some wallet ∧
          rest.run ((store.post creditTx.walletId creditTx.amount).setStatus intent.id creditTx.id
            .posted .reconciled
              (orText creditTx.reference (some s!"TOPUP_SETTLED_{now}"))) = some outcome := by
  refine (run_openCredit succeeds).imp id ?_
  rintro ⟨creditTx, isOpen, credits⟩
  rcases run_updateWallet (fun _ => by exact ⟨rfl, rfl⟩) credits with ⟨wallet, walletFound, more⟩
  rcases Tx.run_updateRow_eq_some_iff.mp more with ⟨row, -, done⟩
  exact ⟨creditTx, wallet, isOpen, walletFound, done⟩

theorem run_markTopUpAsFailed (succeeds : (markTopUpAsFailed intent rest).run store = some outcome) :
    (openCredit store intent = none ∧ rest.run store = some outcome) ∨
      ∃ creditTx, openCredit store intent = some creditTx ∧
        rest.run (store.setStatus intent.id creditTx.id .failed .disputed creditTx.reference) =
          some outcome := by
  refine (run_openCredit succeeds).imp id ?_
  rintro ⟨creditTx, isOpen, marks⟩
  rcases Tx.run_updateRow_eq_some_iff.mp marks with ⟨row, -, done⟩
  exact ⟨creditTx, isOpen, done⟩

section

variable {existing updated : PaymentIntent} {input : ApplyFinalStatusInput} {now : Int}
    {after : Store}
    (succeeds : (applyFinalStatusTx existing input now).run store = some (after, updated))
include succeeds

/-- `applyFinalStatus` hands back the intent with its final status. -/
theorem updated_of_run_applyFinalStatusTx :
    ∃ intent, Store.paymentIntentTable.find? existing.id store = some intent ∧
      updated = finalStatusChange existing input now intent := by
  rcases Tx.run_updateRow_eq_some_iff.mp succeeds with ⟨intent, found, more⟩
  refine ⟨intent, found, ?_⟩
  by_cases isSettled : input.status = .settled
  · rw [if_pos isSettled] at more
    rcases run_creditPendingWalletTopUp more with ⟨-, done⟩ | ⟨_, _, -, -, done⟩
    · exact (Prod.mk.inj (Option.some.inj done)).2.symm
    · exact (Prod.mk.inj (Option.some.inj done)).2.symm
  · rw [if_neg isSettled] at more
    rcases run_markTopUpAsFailed more with ⟨-, done⟩ | ⟨_, -, done⟩
    · exact (Prod.mk.inj (Option.some.inj done)).2.symm
    · exact (Prod.mk.inj (Option.some.inj done)).2.symm

theorem id_of_run_applyFinalStatusTx : updated.id = existing.id := by
  rcases updated_of_run_applyFinalStatusTx succeeds with ⟨intent, found, rfl⟩
  exact (Table.find?_eq_some_iff.mp found).2

end

/-- `createWebhookEvent` hands back the record under the id it was given. -/
theorem id_of_run_createWebhookEvent {id eventId eventType : String} {provider : PaymentProvider}
    {created : PaymentWebhookEvent} {after : Store}
    (succeeds : (createWebhookEvent id provider eventId eventType).run store =
      some (after, created)) : created.id = id := by
  rcases Tx.run_insertRow_eq_some_iff.mp succeeds with ⟨-, -, done⟩
  obtain ⟨-, rfl⟩ := Prod.mk.inj (Option.some.inj done)
  rfl

end Runs

/-- The statements of a transaction that succeeds did what is described here. -/
theorem Write.effect_of_run {write : Write} {store after : Store} {result : write.Result}
    (succeeds : write.body.run store = some (after, result)) : Effect write store after := by
  cases write with
  | createWallet id userId organizationId currency =>
    rcases run_insertWallet succeeds with ⟨found, free, done⟩
    obtain ⟨rfl, -⟩ := Prod.mk.inj (Option.some.inj done)
    exact .createWallet id userId organizationId currency store found free
  | updateWalletOwner id organizationId currency =>
    rcases run_updateWallet (fun _ => by exact ⟨rfl, rfl⟩) succeeds with ⟨wallet, found, done⟩
    obtain ⟨rfl, -⟩ := Prod.mk.inj (Option.some.inj done)
    exact .updateWalletOwner id organizationId currency wallet store found
  | lockWallet id lockReason now =>
    rcases run_updateWallet (fun _ => by exact ⟨rfl, rfl⟩) succeeds with ⟨wallet, found, done⟩
    obtain ⟨rfl, -⟩ := Prod.mk.inj (Option.some.inj done)
    exact .lockWallet id lockReason now wallet store found
  | unlockWallet id =>
    rcases run_updateWallet (fun _ => by exact ⟨rfl, rfl⟩) succeeds with ⟨wallet, found, done⟩
    obtain ⟨rfl, -⟩ := Prod.mk.inj (Option.some.inj done)
    exact .unlockWallet id wallet store found
  | topUpSettled input =>
    rcases run_insertPaymentIntent succeeds with ⟨intentFree, keyFree, more⟩
    rcases run_updateWallet (fun _ => by exact ⟨rfl, rfl⟩) more with ⟨wallet, found, evenMore⟩
    rcases run_insertTransaction evenMore with ⟨free, done⟩
    obtain ⟨rfl, -⟩ := Prod.mk.inj (Option.some.inj done)
    exact .topUpSettled input wallet store intentFree keyFree found free
  | topUpPending input orchestration =>
    rcases run_insertPaymentIntent succeeds with ⟨intentFree, keyFree, more⟩
    rcases run_insertTransaction more with ⟨free, done⟩
    obtain ⟨rfl, -⟩ := Prod.mk.inj (Option.some.inj done)
    exact .topUpPending input orchestration store intentFree keyFree free
  | debit input =>
    change (postDebit input).run store = some (after, result) at succeeds
    rcases run_postToWallet succeeds with ⟨wallet, found, free, done⟩
    obtain ⟨rfl, -⟩ := Prod.mk.inj done
    simp only [sub_eq_add_neg]
    exact .debit input wallet store found free
  | refund input =>
    change (postRefund input).run store = some (after, result) at succeeds
    rcases run_postToWallet succeeds with ⟨wallet, found, free, done⟩
    obtain ⟨rfl, -⟩ := Prod.mk.inj done
    exact .refund input wallet store found free
  | transfer input =>
    rcases run_updateWallet (fun _ => by exact ⟨rfl, rfl⟩) succeeds with ⟨source, sourceFound, more⟩
    rcases run_updateWallet (fun _ => by exact ⟨rfl, rfl⟩) more with ⟨target, targetFound, evenMore⟩
    rcases run_insertTransaction evenMore with ⟨debitFree, nearly⟩
    rcases run_insertTransaction nearly with ⟨creditFree, done⟩
    obtain ⟨rfl, -⟩ := Prod.mk.inj (Option.some.inj done)
    simp only [sub_eq_add_neg] at targetFound ⊢
    exact .transfer input source target store sourceFound targetFound debitFree creditFree
  | applyFinalStatus existing input now =>
    rcases Tx.run_updateRow_eq_some_iff.mp succeeds with ⟨intent, found, more⟩
    have isExisting : (finalStatusChange existing input now intent).id = existing.id :=
      (Table.find?_eq_some_iff.mp found).2
    by_cases isSettled : input.status = .settled
    · rw [if_pos isSettled] at more
      rcases run_creditPendingWalletTopUp more with
        ⟨noCredit, done⟩ | ⟨creditTx, wallet, credit, walletFound, done⟩
      · obtain ⟨rfl, -⟩ := Prod.mk.inj (Option.some.inj done)
        exact .finalStatus existing input now intent store found noCredit
      · obtain ⟨rfl, -⟩ := Prod.mk.inj (Option.some.inj done)
        rw [isExisting]
        exact .settled existing input now intent creditTx wallet store found credit isSettled
          walletFound
    · rw [if_neg isSettled] at more
      rcases run_markTopUpAsFailed more with ⟨noCredit, done⟩ | ⟨creditTx, credit, done⟩
      · obtain ⟨rfl, -⟩ := Prod.mk.inj (Option.some.inj done)
        exact .finalStatus existing input now intent store found noCredit
      · obtain ⟨rfl, -⟩ := Prod.mk.inj (Option.some.inj done)
        rw [isExisting]
        exact .markedAsFailed existing input now intent creditTx store found credit isSettled
  | reconcile existing status providerReference note =>
    rcases Tx.run_updateRow_eq_some_iff.mp succeeds with ⟨intent, found, done⟩
    obtain ⟨rfl, -⟩ := Prod.mk.inj (Option.some.inj done)
    exact .reconcile existing status providerReference note intent store found
  | createWebhookEvent id provider eventId eventType =>
    rcases Tx.run_insertRow_eq_some_iff.mp succeeds with ⟨found, free, done⟩
    rw [Bool.not_eq_true'] at free
    obtain ⟨rfl, -⟩ := Prod.mk.inj (Option.some.inj done)
    exact .createWebhookEvent id provider eventId eventType store found free
  | markEventStatus id status paymentIntentId errorMessage =>
    rcases Tx.run_updateRow_eq_some_iff.mp succeeds with ⟨event, found, done⟩
    obtain ⟨rfl, -⟩ := Prod.mk.inj (Option.some.inj done)
    exact .markEventStatus id status paymentIntentId errorMessage event store found

end Csms.Billing
