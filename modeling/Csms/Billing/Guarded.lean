import Csms.Billing.Writes

/-!
# The transactions of billing are guarded

Every statement of the billing transactions reads and writes only what is
protected by the locks its transaction holds, so under read committed isolation
each transaction takes effect at once when it commits.
-/

namespace Csms.Billing

open Database

variable {α : Type}

namespace Store

theorem transactionsOf_insert (intentId : String) (transaction : Transaction) (store : Store) :
    transactionsOf (transactionTable.insert transaction store) intentId =
      store.transactionsOf intentId ++ if (transactionTable.find? transaction.id store).isNone &&
            transaction.paymentIntentId = some intentId then [transaction] else [] :=
  transactionTable.filter_insert transaction store _

section Updates

variable (id : String) (store : Store)

theorem transactionsOf_update {change : Transaction → Transaction}
    (keeps : ∀ transaction, (change transaction).id = transaction.id)
    (ofIntent : ∀ transaction, (change transaction).paymentIntentId = transaction.paymentIntentId)
    (intentId : String) : transactionsOf (transactionTable.update id change keeps store) intentId =
      (store.transactionsOf intentId).map fun transaction =>
        if transaction.id = id then change transaction else transaction :=
  transactionTable.filter_update keeps (fun transaction => by rw [ofIntent transaction]) store

theorem transactionsOf_statusChange_of_ne {intentId wanted : String} (status : TransactionStatus)
    (reconciliationState : ReconciliationState) (reference : Option String)
    (other : wanted ≠ intentId) : transactionsOf
        (transactionTable.update id (statusChange intentId status reconciliationState reference)
          (id_statusChange intentId status reconciliationState reference) store) wanted =
      store.transactionsOf wanted := by
  have changed := transactionsOf_update id store
    (id_statusChange intentId status reconciliationState reference)
    (paymentIntentId_statusChange intentId status reconciliationState reference) wanted
  have unchanged : ∀ transaction ∈ store.transactionsOf wanted,
      (if transaction.id = id then
        statusChange intentId status reconciliationState reference transaction
      else transaction) = transaction := by
    intro transaction member
    have ofWanted : transaction.paymentIntentId = some wanted :=
      of_decide_eq_true (List.mem_filter.mp member).2
    have ofOther : transaction.paymentIntentId ≠ some intentId := by
      rw [ofWanted]
      exact fun same => other (Option.some.inj same)
    rw [statusChange_of_ne status reconciliationState reference ofOther, ite_self]
  exact changed.trans ((List.map_congr_left unchanged).trans (List.map_id' _))

end Updates

end Store

section Statements

open Store

variable {held : List Lock}

variable {left right : Store}

theorem agree_cons {lock : Lock} {locks : List Lock} : Agree protects (lock :: locks) left right ↔
      (protects lock).r left right ∧ Agree protects locks left right :=
  List.forall_mem_cons

theorem agree_nil : Agree protects [] left right := by
  intro lock member
  contradiction

variable {rest : BillingTx α}

theorem guarded_insertWallet {wallet : Wallet} (next : ∀ held, rest.Guarded protects held) :
    (insertWallet wallet rest).Guarded protects held := by
  apply Tx.guarded_insertRow _ (List.subset_append_left _ held)
  · intro lock other store
    cases lock with
    | wallet wanted =>
      exact Component.find?_insert_of_ne fun same => other (by simp [same])
    | walletOf userId =>
      have isOther : ¬ wallet.userId = userId := fun same => other (by simp [same])
      exact walletTable.any_insert_of_false (decide_eq_false isOther) store
    | _ => rfl
  · intro left right agree
    simp only [agree_cons] at agree ⊢
    obtain ⟨found, owner, user, -⟩ := agree
    change left.users.find? wallet.userId = right.users.find? wallet.userId at user
    exact ⟨found, by rw [owner, user], Component.find?_insert_congr found,
      walletTable.any_insert_congr found owner, user, agree_nil⟩
  · exact next _

theorem guarded_updateWallet {id : String} {change : Wallet → Wallet}
    (keeps : ∀ wallet, (change wallet).id = wallet.id ∧ (change wallet).userId = wallet.userId)
    {rest : Wallet → BillingTx α}
    (next : ∀ wallet, (rest wallet).Guarded protects (.wallet id :: held)) :
    (updateWallet id change keeps rest).Guarded protects held := by
  apply Tx.guarded_updateRow _ (List.subset_append_left _ held)
  · intro lock other store
    cases lock with
    | wallet wanted =>
      exact Component.find?_update_of_ne fun same => other (by simp [same])
    | walletOf userId =>
      exact walletTable.any_update (fun wallet => (keeps wallet).1)
        (fun wallet => by rw [(keeps wallet).2]) store
    | _ => rfl
  · intro left right agree
    simp only [agree_cons] at agree ⊢
    have found : walletTable.find? id left = walletTable.find? id right := agree.1
    exact ⟨found, Component.find?_update_congr found, agree_nil⟩
  · exact fun wallet _ => next wallet

theorem guarded_insertTransaction {transaction : Transaction}
    (next : ∀ held, rest.Guarded protects held) :
    (insertTransaction transaction rest).Guarded protects held := by
  apply Tx.guarded_insertRow _ (List.subset_append_left _ held)
  · intro lock other store
    cases lock with
    | transaction wanted =>
      exact Component.find?_insert_of_ne fun same => other (by simp [same])
    | paymentIntent wanted =>
      have isOther : ¬ transaction.paymentIntentId = some wanted :=
        fun same => other (by simp [same])
      have unchanged := transactionsOf_insert wanted transaction store
      rw [decide_eq_false isOther, Bool.and_false, if_neg Bool.false_ne_true,
        List.append_nil] at unchanged
      exact congrArg (Prod.mk _) unchanged
    | _ => rfl
  · intro left right agree
    have found : transactionTable.find? transaction.id left =
        transactionTable.find? transaction.id right := (agree_cons.mp agree).1
    refine ⟨found, rfl, ?_⟩
    rw [agree_cons]
    constructor
    · exact Component.find?_insert_congr found
    · intro lock isIntent
      obtain ⟨intentId, ofIntent, rfl⟩ : ∃ intentId,
          transaction.paymentIntentId = some intentId ∧ Lock.paymentIntent intentId = lock := by
        simpa using isIntent
      have same := agree (.paymentIntent intentId) (List.mem_cons_of_mem _ isIntent)
      obtain ⟨intentEq, transactionsEq⟩ := Prod.mk.inj same
      have leftGrown := transactionsOf_insert intentId transaction left
      have rightGrown := transactionsOf_insert intentId transaction right
      rw [← found, ← transactionsEq, ← leftGrown] at rightGrown
      exact Prod.ext intentEq rightGrown.symm
  · exact next _

theorem guarded_updateTransactionOf {intentId id : String} {status : TransactionStatus}
    {reconciliationState : ReconciliationState} {reference : Option String}
    (isHeld : Lock.paymentIntent intentId ∈ held) (next : ∀ held, rest.Guarded protects held) :
    (updateTransactionOf intentId id status reconciliationState reference rest).Guarded protects
      held := by
  apply Tx.guarded_updateRow [.transaction id, .paymentIntent intentId]
  · intro lock isAffected
    rcases List.mem_cons.mp isAffected with rfl | isIntent
    · exact List.mem_append_left _ List.mem_cons_self
    · obtain rfl := List.mem_singleton.mp isIntent
      exact List.mem_append_right _ isHeld
  · intro lock other store
    cases lock with
    | transaction wanted =>
      exact Component.find?_update_of_ne fun same => other (by simp [same])
    | paymentIntent wanted =>
      have isOther : wanted ≠ intentId := fun same => other (by simp [same])
      exact congrArg (Prod.mk _) (transactionsOf_statusChange_of_ne id store status
        reconciliationState reference isOther)
    | _ => rfl
  · intro left right agree
    simp only [agree_cons] at agree ⊢
    obtain ⟨found, ofIntent, -⟩ := agree
    refine ⟨found, ?_, ?_, agree_nil⟩
    · exact Component.find?_update_congr found
    · obtain ⟨intentEq, transactionsEq⟩ := Prod.mk.inj ofIntent
      have changed (store : Store) := transactionsOf_update id store
        (id_statusChange intentId status reconciliationState reference)
        (paymentIntentId_statusChange intentId status reconciliationState reference) intentId
      refine Prod.ext intentEq ?_
      change transactionsOf _ intentId = transactionsOf _ intentId
      rw [changed left, changed right, transactionsEq]
  · exact fun _ _ => next _

variable {intent : PaymentIntent}

theorem guarded_insertPaymentIntent (next : ∀ held, rest.Guarded protects held) :
    (insertPaymentIntent intent rest).Guarded protects held := by
  apply Tx.guarded_insertRow _ (List.subset_append_left _ held)
  · intro lock other store
    cases lock with
    | paymentIntent wanted =>
      exact congrArg (Prod.mk · _) (Component.find?_insert_of_ne fun same => other (by simp [same]))
    | paymentIntentKey key =>
      have isOther : ¬ intent.idempotencyKey = key := fun same => other (by simp [same])
      exact paymentIntentTable.any_insert_of_false (decide_eq_false isOther) store
    | _ => rfl
  · intro left right agree
    simp only [agree_cons] at agree ⊢
    obtain ⟨row, taken, -⟩ := agree
    obtain ⟨found, transactionsEq⟩ := Prod.mk.inj row
    exact ⟨found, by rw [taken], Prod.ext (Component.find?_insert_congr found) transactionsEq,
      paymentIntentTable.any_insert_congr found taken, agree_nil⟩
  · exact next _

theorem guarded_updatePaymentIntent {id : String} {change : PaymentIntent → PaymentIntent}
    (keeps : ∀ intent, (change intent).id = intent.id ∧
      (change intent).idempotencyKey = intent.idempotencyKey) {rest : PaymentIntent → BillingTx α}
    (next : ∀ intent, intent.id = id → (rest intent).Guarded protects (.paymentIntent id :: held)) :
    (updatePaymentIntent id change keeps rest).Guarded protects held := by
  apply Tx.guarded_updateRow _ (List.subset_append_left _ held)
  · intro lock other store
    cases lock with
    | paymentIntent wanted =>
      exact congrArg (Prod.mk · _) (Component.find?_update_of_ne fun same => other (by simp [same]))
    | paymentIntentKey key =>
      exact paymentIntentTable.any_update (fun intent => (keeps intent).1)
        (fun intent => by rw [(keeps intent).2]) store
    | _ => rfl
  · intro left right agree
    simp only [agree_cons] at agree ⊢
    obtain ⟨found, transactionsEq⟩ := Prod.mk.inj agree.1
    exact ⟨found, Prod.ext (Component.find?_update_congr found) transactionsEq, agree_nil⟩
  · exact next

theorem guarded_insertWebhookEvent {event : PaymentWebhookEvent}
    (next : ∀ held, rest.Guarded protects held) :
    (insertWebhookEvent event rest).Guarded protects held := by
  apply Tx.guarded_insertRow _ (List.subset_append_left _ held)
  · intro lock other store
    cases lock with
    | webhookEvent wanted =>
      exact Component.find?_insert_of_ne fun same => other (by simp [same])
    | webhookEventKey provider eventId =>
      have isOther : ¬ (event.provider = provider ∧ event.eventId = eventId) := by
        rintro ⟨sameProvider, sameId⟩
        exact other (by simp [sameProvider, sameId])
      have notIt := decide_eq_false isOther
      rw [Bool.decide_and] at notIt
      exact webhookEventTable.any_insert_of_false notIt store
    | _ => rfl
  · intro left right agree
    simp only [agree_cons] at agree ⊢
    obtain ⟨found, taken, -⟩ := agree
    exact ⟨found, by rw [taken], Component.find?_insert_congr found,
      webhookEventTable.any_insert_congr found taken, agree_nil⟩
  · exact next _

theorem guarded_markEventStatus (id : String) (status : WebhookEventStatus)
    (paymentIntentId errorMessage : Option String) :
    (markEventStatus id status paymentIntentId errorMessage).Guarded protects held := by
  apply Tx.guarded_updateRow _ (List.subset_append_left _ held)
  · intro lock other store
    cases lock with
    | webhookEvent wanted =>
      exact Component.find?_update_of_ne fun same => other (by simp [same])
    | webhookEventKey provider eventId =>
      exact webhookEventTable.any_update
        (id_eventStatusChange status paymentIntentId errorMessage) (fun _ => rfl) store
    | _ => rfl
  · intro left right agree
    simp only [agree_cons] at agree ⊢
    have found : webhookEventTable.find? id left = webhookEventTable.find? id right := agree.1
    exact ⟨found, Component.find?_update_congr found, agree_nil⟩
  · intro _ _
    trivial

theorem creditTransaction_eq {intentId : String} (isHeld : Lock.paymentIntent intentId ∈ held)
    (agree : Agree protects held left right) (walletId : String) :
    creditTransaction left intentId walletId = creditTransaction right intentId walletId := by
  have transactionsEq : left.transactionsOf intentId = right.transactionsOf intentId :=
    (Prod.mk.inj (agree _ isHeld)).2
  rw [creditTransaction, creditTransaction, transactionsEq]

/-- A final status looks at the credit of an intent that its transaction holds. -/
theorem guarded_openCredit {onOpen : String → Transaction → BillingTx α}
    (isHeld : Lock.paymentIntent intent.id ∈ held) (next : ∀ held, rest.Guarded protects held)
    (opens : ∀ walletId creditTx, (onOpen walletId creditTx).Guarded protects held) :
    (match toppedUpWallet intent with
      | none => rest
      | some walletId => .read fun store =>
        match creditTransaction store intent.id walletId with
        | none => rest
        | some creditTx =>
          if creditTx.status = .posted then rest else onOpen walletId creditTx :
      BillingTx α).Guarded protects held := by
  cases toppedUpWallet intent with
  | none => exact next held
  | some walletId =>
    constructor
    · intro left right agree
      simp only [creditTransaction_eq isHeld agree walletId]
    · intro view
      dsimp only
      cases creditTransaction view intent.id walletId with
      | none => exact next held
      | some creditTx =>
        by_cases isPosted : creditTx.status = .posted
        · simpa only [isPosted, if_true] using next held
        · simpa only [isPosted, if_false] using opens walletId creditTx

theorem guarded_creditPendingWalletTopUp {now : Int} (isHeld : Lock.paymentIntent intent.id ∈ held)
    (next : ∀ held, rest.Guarded protects held) :
    (creditPendingWalletTopUp intent now rest).Guarded protects held :=
  guarded_openCredit isHeld next fun _ _ => guarded_updateWallet (fun _ => by exact ⟨rfl, rfl⟩) fun _ =>
    guarded_updateTransactionOf (List.mem_cons_of_mem _ isHeld) next

theorem guarded_markTopUpAsFailed (isHeld : Lock.paymentIntent intent.id ∈ held)
    (next : ∀ held, rest.Guarded protects held) :
    (markTopUpAsFailed intent rest).Guarded protects held :=
  guarded_openCredit isHeld next fun _ _ => guarded_updateTransactionOf isHeld next

end Statements

theorem guarded_commit (result : α) (held : List Store.Lock) :
    (Tx.commit result : BillingTx α).Guarded Store.protects held :=
  trivial

theorem guarded_postToWallet (walletId : String) (change : ℚ → ℚ) (transaction : Transaction)
    (held : List Store.Lock) :
    (postToWallet walletId change transaction).Guarded Store.protects held := by
  refine guarded_updateWallet (fun _ => by exact ⟨rfl, rfl⟩) ?_
  intro _
  exact guarded_insertTransaction (guarded_commit _)

/-- Every transaction of the wallet and payment operations is guarded. -/
theorem Write.guarded (write : Write) : write.body.Guarded Store.protects [] := by
  cases write with
  | createWallet id userId organizationId currency => exact guarded_insertWallet (guarded_commit _)
  | updateWalletOwner | lockWallet | unlockWallet =>
    exact guarded_updateWallet (fun _ => by exact ⟨rfl, rfl⟩) fun wallet => guarded_commit wallet _
  | topUpSettled input =>
    apply guarded_insertPaymentIntent
    intro held
    refine guarded_updateWallet (fun _ => by exact ⟨rfl, rfl⟩) ?_
    intro _
    exact guarded_insertTransaction (guarded_commit _)
  | topUpPending input orchestration =>
    apply guarded_insertPaymentIntent
    intro held
    exact guarded_insertTransaction (guarded_commit _)
  | debit input =>
    change (postDebit input).Guarded Store.protects []
    exact guarded_postToWallet _ _ _ []
  | refund input =>
    change (postRefund input).Guarded Store.protects []
    exact guarded_postToWallet _ _ _ []
  | transfer input =>
    refine guarded_updateWallet (fun _ => by exact ⟨rfl, rfl⟩) ?_
    intro _
    refine guarded_updateWallet (fun _ => by exact ⟨rfl, rfl⟩) ?_
    intro _
    apply guarded_insertTransaction
    intro held
    exact guarded_insertTransaction (guarded_commit _)
  | applyFinalStatus existing input now =>
    refine guarded_updatePaymentIntent (fun _ => by exact ⟨rfl, rfl⟩) ?_
    intro updated isExisting
    have isHeld : Store.Lock.paymentIntent updated.id ∈ [Store.Lock.paymentIntent existing.id] := by
      rw [isExisting]
      exact List.mem_cons_self
    by_cases isSettled : input.status = .settled
    · simp only [isSettled, if_true]
      exact guarded_creditPendingWalletTopUp isHeld (guarded_commit _)
    · simp only [isSettled, if_false]
      exact guarded_markTopUpAsFailed isHeld (guarded_commit _)
  | reconcile intent status providerReference note =>
    exact guarded_updatePaymentIntent (fun _ => by exact ⟨rfl, rfl⟩)
      fun updated _ => guarded_commit updated _
  | createWebhookEvent id provider eventId eventType =>
    exact guarded_insertWebhookEvent (guarded_commit _)
  | markEventStatus id status paymentIntentId errorMessage =>
    exact guarded_markEventStatus id status paymentIntentId errorMessage

end Csms.Billing
