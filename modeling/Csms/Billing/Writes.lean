import Csms.Billing.Input

/-!
# The writes of billing

Every write of the wallet and payment operations is one database transaction.
This file has their bodies, statement by statement as the services execute
them, with the locks each statement takes, and the type of all of them.
-/

namespace Csms.Billing

open Database Js

/-- A transaction of the billing database. -/
abbrev BillingTx (α : Type) :=
  Tx Store Store.Lock α

variable {α : Type}

def insertWallet (wallet : Wallet) (rest : BillingTx α) : BillingTx α :=
  -- the foreign key on the user is checked; other foreign keys are of rows that
  -- were read, which are never deleted
  Tx.insertRow Store.walletTable [.wallet wallet.id, .walletOf wallet.userId, .user wallet.userId]
    wallet
    (fun store => !store.hasWalletOf wallet.userId && (store.users.find? wallet.userId).isSome) rest

def updateWallet (id : String) (change : Wallet → Wallet)
    (keeps : ∀ wallet, (change wallet).id = wallet.id ∧ (change wallet).userId = wallet.userId)
    (rest : Wallet → BillingTx α) : BillingTx α :=
  Tx.updateRow Store.walletTable [.wallet id] id change (fun wallet => (keeps wallet).1) rest

def insertTransaction (transaction : Transaction) (rest : BillingTx α) : BillingTx α :=
  -- the foreign key locks the payment intent
  Tx.insertRow Store.transactionTable
    (.transaction transaction.id :: (transaction.paymentIntentId.map .paymentIntent).toList)
    transaction (fun _ => true) rest

/-- The status columns of a transaction that was found among those of a payment
intent; no other row is under its id. -/
def statusChange (intentId : String) (status : TransactionStatus)
    (reconciliationState : ReconciliationState) (reference : Option String)
    (transaction : Transaction) : Transaction :=
  if transaction.paymentIntentId = some intentId then
    { transaction with status, reconciliationState, reference }
  else transaction

section StatusChange

variable (intentId : String) (status : TransactionStatus)
  (reconciliationState : ReconciliationState) (reference : Option String)
  (transaction : Transaction)

theorem statusChange_of_ne {intentId : String} {transaction : Transaction}
    (other : transaction.paymentIntentId ≠ some intentId) :
    statusChange intentId status reconciliationState reference transaction = transaction :=
  if_neg other

theorem statusChange_keeps : ∃ status' reconciliationState' reference',
      statusChange intentId status reconciliationState reference transaction = { transaction with
          status := status'
          reconciliationState := reconciliationState'
          reference := reference' } := by
  rw [statusChange]
  split
  · exact ⟨_, _, _, rfl⟩
  · exact ⟨transaction.status, transaction.reconciliationState, transaction.reference, rfl⟩

@[simp]
theorem id_statusChange :
    (statusChange intentId status reconciliationState reference transaction).id =
      transaction.id := by
  obtain ⟨_, _, _, changed⟩ :=
    statusChange_keeps intentId status reconciliationState reference transaction
  rw [changed]

@[simp]
theorem paymentIntentId_statusChange :
    (statusChange intentId status reconciliationState reference transaction).paymentIntentId =
      transaction.paymentIntentId := by
  obtain ⟨_, _, _, changed⟩ :=
    statusChange_keeps intentId status reconciliationState reference transaction
  rw [changed]

end StatusChange

def updateTransactionOf (intentId : String) (id : String) (status : TransactionStatus)
    (reconciliationState : ReconciliationState) (reference : Option String)
    (rest : BillingTx α) : BillingTx α :=
  Tx.updateRow Store.transactionTable [.transaction id] id
    (statusChange intentId status reconciliationState reference)
    (id_statusChange intentId status reconciliationState reference) fun _ => rest

def insertPaymentIntent (intent : PaymentIntent) (rest : BillingTx α) : BillingTx α :=
  Tx.insertRow Store.paymentIntentTable
    [.paymentIntent intent.id, .paymentIntentKey intent.idempotencyKey] intent
    (fun store => !store.hasPaymentIntentKey intent.idempotencyKey) rest

def updatePaymentIntent (id : String) (change : PaymentIntent → PaymentIntent)
    (keeps : ∀ intent, (change intent).id = intent.id ∧
      (change intent).idempotencyKey = intent.idempotencyKey)
    (rest : PaymentIntent → BillingTx α) : BillingTx α :=
  Tx.updateRow Store.paymentIntentTable [.paymentIntent id] id change
    (fun intent => (keeps intent).1) rest

def insertWebhookEvent (event : PaymentWebhookEvent) (rest : BillingTx α) : BillingTx α :=
  Tx.insertRow Store.webhookEventTable
    [.webhookEvent event.id, .webhookEventKey event.provider event.eventId] event
    (fun store => !store.hasWebhookEventKey event.provider event.eventId) rest

/-- `prisma.wallet.create` of `ensureWallet`. -/
def createWallet (id userId : String) (organizationId : Option String) (currency : String) :
    BillingTx Wallet :=
  let wallet : Wallet :=
    { id, userId, organizationId, balance := 0, currency, isLocked := false, lockReason := none,
      lockedAt := none }
  insertWallet wallet (.commit wallet)

/-- `prisma.wallet.update` of `ensureWallet`. -/
def updateWalletOwner (id : String) (organizationId : Option String) (currency : String) :
    BillingTx Wallet :=
  updateWallet id (fun wallet => { wallet with organizationId, currency }) (fun _ => ⟨rfl, rfl⟩)
    .commit

/-- `prisma.wallet.update` of `lockWallet`. -/
def setWalletLocked (id lockReason : String) (now : Int) : BillingTx Wallet :=
  updateWallet id
    (fun wallet =>
      { wallet with isLocked := true, lockReason := some lockReason, lockedAt := some now })
    (fun _ => ⟨rfl, rfl⟩) .commit

/-- `prisma.wallet.update` of `unlockWallet`. -/
def setWalletUnlocked (id : String) : BillingTx Wallet :=
  updateWallet id
    (fun wallet => { wallet with isLocked := false, lockReason := none, lockedAt := none })
    (fun _ => ⟨rfl, rfl⟩) .commit

/-- What `topUp` has at hand when it writes. -/
structure WalletTopUp where
  call : Call
  userId : String
  /-- The wallet as it was read. -/
  wallet : Wallet
  paymentMethodId : Option String
  amount : ℚ≥0
  (currency idempotencyKey : String)
  note : Option String

/-- `metadata` of a top-up without orchestration. -/
def noteMetadata (note : Option String) : Option JsRecord :=
  (orText note none).map fun text => JsRecord.empty.with "note" (.string text)

/-- `metadata` of an orchestrated top-up. -/
def topUpMetadata (note : Option String) : JsRecord :=
  (JsRecord.empty.with "flow" (.string "WALLET_TOPUP")).with "note"
    (match orText note none with
    | some text => .string text
    | none => .null)

namespace WalletTopUp

variable (input : WalletTopUp)

/-- The payment intent of a top-up without orchestration. -/
def settledIntent : PaymentIntent where
  id := input.call.paymentIntentId
  userId := some input.userId
  organizationId := input.wallet.organizationId
  walletId := some input.wallet.id
  paymentMethodId := input.paymentMethodId
  amount := input.amount
  currency := input.currency
  status := .final .settled
  provider := none
  providerPaymentId := none
  providerReference := none
  idempotencyKey := input.idempotencyKey
  reconciliationState := .reconciled
  settledAt := some input.call.now
  metadata := noteMetadata input.note
  createdAt := input.call.createdAt 0

/-- The credit of a top-up without orchestration. -/
def settledCredit : Transaction where
  id := input.call.transactionId
  walletId := input.wallet.id
  paymentIntentId := some input.call.paymentIntentId
  amount := input.amount
  type := .credit
  status := .posted
  reconciliationState := .reconciled
  description := (orText input.note none).getD "Wallet top-up"
  reference := some s!"TOPUP_{input.call.now}"
  idempotencyKey := input.idempotencyKey
  createdAt := input.call.createdAt 1

def pendingIntent (orchestration : PaymentSession) : PaymentIntent where
  id := input.call.paymentIntentId
  userId := some input.userId
  organizationId := input.wallet.organizationId
  walletId := some input.wallet.id
  paymentMethodId := input.paymentMethodId
  amount := input.amount
  currency := input.currency
  status := .ongoing .pending
  provider := some orchestration.provider
  providerPaymentId := some orchestration.providerPaymentId
  providerReference := orchestration.providerReference
  idempotencyKey := input.idempotencyKey
  reconciliationState := .reconciling
  settledAt := none
  metadata := some (topUpMetadata input.note)
  createdAt := input.call.createdAt 0

/-- The credit of an orchestrated top-up. -/
def pendingCredit : Transaction where
  id := input.call.transactionId
  walletId := input.wallet.id
  paymentIntentId := some input.call.paymentIntentId
  amount := input.amount
  type := .credit
  status := .pending
  reconciliationState := .reconciling
  description := (orText input.note none).getD "Wallet top-up pending settlement"
  reference := some s!"TOPUP_PENDING_{input.call.now}"
  idempotencyKey := input.idempotencyKey
  createdAt := input.call.createdAt 1

end WalletTopUp

/-- The transaction of `topUp` without payment orchestration. -/
def topUpSettled (input : WalletTopUp) : BillingTx (Wallet × PaymentIntent × String) :=
  insertPaymentIntent input.settledIntent <|
  updateWallet input.wallet.id
    (fun wallet =>
      { wallet with balance := wallet.balance + input.amount, currency := input.currency })
    (fun _ => ⟨rfl, rfl⟩) fun updatedWallet =>
  insertTransaction input.settledCredit <|
  .commit (updatedWallet, input.settledIntent, input.settledCredit.id)

/-- The transaction of `topUp` with payment orchestration. -/
def topUpPending (input : WalletTopUp) (orchestration : PaymentSession) :
    BillingTx (PaymentIntent × String) :=
  insertPaymentIntent (input.pendingIntent orchestration) <|
  insertTransaction input.pendingCredit <|
  .commit (input.pendingIntent orchestration, input.pendingCredit.id)

/-- What `debit` and `refund` have at hand when they write. -/
structure WalletPosting where
  call : Call
  /-- The wallet as it was read. -/
  wallet : Wallet
  amount : ℚ≥0
  idempotencyKey : String
  (reference note : Option String)

namespace WalletPosting

variable (input : WalletPosting)

def transaction (type : TransactionType) (description reference : String) : Transaction where
  id := input.call.transactionId
  walletId := input.wallet.id
  paymentIntentId := none
  amount := input.amount
  type
  status := .posted
  reconciliationState := .reconciled
  description := (orText input.note none).getD description
  reference := orText input.reference (some reference)
  idempotencyKey := input.idempotencyKey
  createdAt := input.call.createdAt 0

def debitTransaction : Transaction :=
  input.transaction .debit "Wallet debit" s!"DEBIT_{input.call.now}"

def refundTransaction : Transaction :=
  input.transaction .refund "Wallet refund" s!"REFUND_{input.call.now}"

end WalletPosting

/-- Change the balance and record why. -/
def postToWallet (walletId : String) (change : ℚ → ℚ) (transaction : Transaction) :
    BillingTx (Wallet × String) :=
  updateWallet walletId (fun wallet => { wallet with balance := change wallet.balance })
    (fun _ => ⟨rfl, rfl⟩) fun updatedWallet =>
  insertTransaction transaction <|
  .commit (updatedWallet, transaction.id)

/-- The transaction of `debit`. -/
def postDebit (input : WalletPosting) : BillingTx (Wallet × String) :=
  postToWallet input.wallet.id (· - input.amount) input.debitTransaction

/-- The transaction of `refund`. -/
def postRefund (input : WalletPosting) : BillingTx (Wallet × String) :=
  postToWallet input.wallet.id (· + input.amount) input.refundTransaction

/-- What `transfer` has at hand when it writes. -/
structure WalletTransfer where
  call : Call
  (userId targetUserId : String)
  /-- The wallets as they were read. -/
  (sourceWallet targetWallet : Wallet)
  amount : ℚ≥0
  idempotencyKey : String
  note : Option String

/-- The wallets after a transfer and the ids of its transactions. -/
structure WalletTransferred where
  (updatedSource updatedTarget : Wallet)
  (debitId creditId : String)

namespace WalletTransfer

variable (input : WalletTransfer)

def debitTransaction : Transaction where
  id := input.call.transactionId
  walletId := input.sourceWallet.id
  paymentIntentId := none
  amount := input.amount
  type := .debit
  status := .posted
  reconciliationState := .reconciled
  description := (orText input.note none).getD s!"Transfer to {input.targetUserId}"
  reference := some s!"XFER_CREDIT_{input.call.now}"
  idempotencyKey := input.idempotencyKey
  createdAt := input.call.createdAt 0

def creditTransaction : Transaction where
  id := input.call.creditTransactionId
  walletId := input.targetWallet.id
  paymentIntentId := none
  amount := input.amount
  type := .credit
  status := .posted
  reconciliationState := .reconciled
  description := (orText input.note none).getD s!"Transfer from {input.userId}"
  reference := some s!"XFER_DEBIT_{input.call.now}"
  idempotencyKey := s!"{input.idempotencyKey}:credit"
  createdAt := input.call.createdAt 1

end WalletTransfer

/-- The transaction of `transfer`. -/
def postTransfer (input : WalletTransfer) : BillingTx WalletTransferred :=
  updateWallet input.sourceWallet.id
    (fun wallet => { wallet with balance := wallet.balance - input.amount })
    (fun _ => ⟨rfl, rfl⟩) fun updatedSource =>
  updateWallet input.targetWallet.id
    (fun wallet => { wallet with balance := wallet.balance + input.amount })
    (fun _ => ⟨rfl, rfl⟩) fun updatedTarget =>
  insertTransaction input.debitTransaction <|
  insertTransaction input.creditTransaction <|
  .commit ⟨updatedSource, updatedTarget, input.debitTransaction.id, input.creditTransaction.id⟩

/-- `metadata?.flow === 'WALLET_TOPUP'`. -/
def isWalletTopUp (intent : PaymentIntent) : Bool :=
  match intent.metadata with
  | some metadata =>
    match metadata "flow" with
    | .string flow => flow = "WALLET_TOPUP"
    | _ => false
  | none => false

def toppedUpWallet (intent : PaymentIntent) : Option String :=
  if isWalletTopUp intent then orText intent.walletId none else none

def creditTransaction (store : Store) (intentId walletId : String) : Option Transaction :=
  oldestOf Transaction.createdAt
    ((store.transactionsOf intentId).filter fun row => row.walletId = walletId && row.type = .credit)

def creditPendingWalletTopUp (intent : PaymentIntent) (now : Int) (rest : BillingTx α) :
    BillingTx α :=
  match toppedUpWallet intent with
  | none => rest
  | some walletId =>
    .read fun store =>
      match creditTransaction store intent.id walletId with
      | none => rest
      | some creditTx =>
        if creditTx.status = .posted then rest
        else
          updateWallet walletId
            (fun wallet => { wallet with balance := wallet.balance + creditTx.amount })
            (fun _ => ⟨rfl, rfl⟩) fun _ =>
          updateTransactionOf intent.id creditTx.id .posted .reconciled
            (orText creditTx.reference (some s!"TOPUP_SETTLED_{now}")) rest

def markTopUpAsFailed (intent : PaymentIntent) (rest : BillingTx α) : BillingTx α :=
  match toppedUpWallet intent with
  | none => rest
  | some walletId =>
    .read fun store =>
      match creditTransaction store intent.id walletId with
      | none => rest
      | some creditTx =>
        if creditTx.status = .posted then rest
        else
          updateTransactionOf intent.id creditTx.id .failed .disputed creditTx.reference rest

/-- `metadata` with the note of a reconciliation. -/
def withReconciliationNote (metadata : Option JsRecord) (note : String) : JsRecord :=
  (metadata.getD JsRecord.empty).with "reconciliationNote" (.string note)

/-- What `applyFinalStatus` writes into the payment intent; `existing` is the row
as it was read before the transaction. -/
def finalStatusChange (existing : PaymentIntent) (input : ApplyFinalStatusInput) (now : Int)
    (intent : PaymentIntent) : PaymentIntent :=
  { intent with
    status := .final input.status
    reconciliationState := if input.status = .settled then .reconciled else .disputed
    settledAt := if input.status = .settled then some now else existing.settledAt
    providerReference := input.providerReference.getD existing.providerReference
    providerPaymentId := input.providerPaymentId.getD existing.providerPaymentId
    provider := input.provider.orElse fun _ => existing.provider
    metadata :=
      match optionalTrimmed input.note with
      | some note => some (withReconciliationNote existing.metadata note)
      | none => intent.metadata }

@[simp]
theorem id_finalStatusChange (existing : PaymentIntent) (input : ApplyFinalStatusInput)
    (now : Int) (intent : PaymentIntent) :
    (finalStatusChange existing input now intent).id = intent.id :=
  rfl

/-- The transaction of `applyFinalStatus`. -/
def applyFinalStatusTx (existing : PaymentIntent) (input : ApplyFinalStatusInput) (now : Int) :
    BillingTx PaymentIntent :=
  updatePaymentIntent existing.id (finalStatusChange existing input now)
    (fun intent => ⟨id_finalStatusChange existing input now intent, rfl⟩) fun updated =>
      if input.status = .settled then creditPendingWalletTopUp updated now (.commit updated)
      else markTopUpAsFailed updated (.commit updated)

/-- What `reconcilePaymentIntent` writes for a status that is not final;
`existing` is the row as it was read before. -/
def reconcileChange (existing : PaymentIntent) (status : PaymentIntentOngoingStatus)
    (providerReference : Option (Option String)) (note : Option String)
    (intent : PaymentIntent) : PaymentIntent :=
  { intent with
    status := .ongoing status
    providerReference := providerReference.getD intent.providerReference
    settledAt := existing.settledAt
    reconciliationState := .reconciling
    metadata :=
      match orText note none with
      | some text => some (withReconciliationNote existing.metadata text)
      | none => intent.metadata }

@[simp]
theorem id_reconcileChange (existing : PaymentIntent) (status : PaymentIntentOngoingStatus)
    (providerReference : Option (Option String)) (note : Option String) (intent : PaymentIntent) :
    (reconcileChange existing status providerReference note intent).id = intent.id :=
  rfl

/-- `prisma.paymentIntent.update` of `reconcilePaymentIntent`. -/
def reconcileTx (existing : PaymentIntent) (status : PaymentIntentOngoingStatus)
    (providerReference : Option (Option String)) (note : Option String) : BillingTx PaymentIntent :=
  updatePaymentIntent existing.id (reconcileChange existing status providerReference note)
    (fun intent => ⟨id_reconcileChange existing status providerReference note intent, rfl⟩) .commit

/-- `prisma.paymentWebhookEvent.create` of `handleWebhook`. -/
def createWebhookEvent (id : String) (provider : PaymentProvider) (eventId eventType : String) :
    BillingTx PaymentWebhookEvent :=
  let event : PaymentWebhookEvent :=
    { id, provider, eventId, eventType, paymentIntentId := none, status := .received,
      errorMessage := none }
  insertWebhookEvent event (.commit event)

def eventStatusChange (status : WebhookEventStatus) (paymentIntentId errorMessage : Option String)
    (event : PaymentWebhookEvent) : PaymentWebhookEvent :=
  { event with
    status
    paymentIntentId := paymentIntentId.orElse fun _ => event.paymentIntentId
    errorMessage := errorMessage.orElse fun _ => event.errorMessage }

@[simp]
theorem id_eventStatusChange (status : WebhookEventStatus)
    (paymentIntentId errorMessage : Option String) (event : PaymentWebhookEvent) :
    (eventStatusChange status paymentIntentId errorMessage event).id = event.id :=
  rfl

def markEventStatus (id : String) (status : WebhookEventStatus)
    (paymentIntentId errorMessage : Option String) : BillingTx Unit :=
  Tx.updateRow Store.webhookEventTable [.webhookEvent id] id
    (eventStatusChange status paymentIntentId errorMessage)
    (id_eventStatusChange status paymentIntentId errorMessage) fun _ => .commit ()

/-- A transaction of the wallet and payment operations. -/
inductive Write where
  | createWallet (id userId : String) (organizationId : Option String) (currency : String)
  | updateWalletOwner (id : String) (organizationId : Option String) (currency : String)
  | lockWallet (id lockReason : String) (now : Int)
  | unlockWallet (id : String)
  | topUpSettled (input : WalletTopUp)
  | topUpPending (input : WalletTopUp) (orchestration : PaymentSession)
  | debit (input : WalletPosting)
  | refund (input : WalletPosting)
  | transfer (input : WalletTransfer)
  | applyFinalStatus (existing : PaymentIntent) (input : ApplyFinalStatusInput) (now : Int)
  | reconcile (existing : PaymentIntent) (status : PaymentIntentOngoingStatus)
      (providerReference : Option (Option String)) (note : Option String)
  | createWebhookEvent (id : String) (provider : PaymentProvider) (eventId eventType : String)
  | markEventStatus (id : String) (status : WebhookEventStatus)
      (paymentIntentId errorMessage : Option String)

namespace Write

/-- What a transaction hands back. -/
def Result : Write → Type
  | createWallet .. | updateWalletOwner .. | lockWallet .. | unlockWallet .. => Wallet
  | topUpSettled .. => Wallet × PaymentIntent × String
  | topUpPending .. => PaymentIntent × String
  | debit .. | refund .. => Wallet × String
  | transfer .. => WalletTransferred
  | applyFinalStatus .. | reconcile .. => PaymentIntent
  | createWebhookEvent .. => PaymentWebhookEvent
  | markEventStatus .. => Unit

/-- The statements of a transaction. -/
def body : (write : Write) → BillingTx write.Result
  | createWallet id userId organizationId currency =>
    Billing.createWallet id userId organizationId currency
  | updateWalletOwner id organizationId currency =>
    Billing.updateWalletOwner id organizationId currency
  | lockWallet id lockReason now => setWalletLocked id lockReason now
  | unlockWallet id => setWalletUnlocked id
  | topUpSettled input => Billing.topUpSettled input
  | topUpPending input orchestration => Billing.topUpPending input orchestration
  | debit input => postDebit input
  | refund input => postRefund input
  | transfer input => postTransfer input
  | applyFinalStatus existing input now => applyFinalStatusTx existing input now
  | reconcile existing status providerReference note =>
    reconcileTx existing status providerReference note
  | createWebhookEvent id provider eventId eventType =>
    Billing.createWebhookEvent id provider eventId eventType
  | markEventStatus id status paymentIntentId errorMessage =>
    Billing.markEventStatus id status paymentIntentId errorMessage

end Write

end Csms.Billing
