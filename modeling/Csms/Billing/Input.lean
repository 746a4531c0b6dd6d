import Csms.Database.Rows
import Csms.Js.Value
import Csms.Commands.Core

/-!
# Requests of wallets and payments

What the operations of `CommerceService` get besides the store, and how they
normalise it.  Everything a call takes from its surroundings (organisation,
clock, random ids, configuration) comes with the call.
-/

/-!
## The stored state of billing

The rows that wallets, payments and payment webhooks read and write, one
structure a table, and the locks on them.  Amounts are exact decimals and times
are milliseconds since the epoch.  Columns that no operation reads or returns
(expiry, checkout links, correlation ids, raw payloads) are left out.
-/

namespace Csms.Billing

open Database Js

/-- `PAYMENT_PROVIDER_VALUES`. -/
inductive PaymentProvider where
  | stripe
  | flutterwave
  | alipay
  | lianlian
  deriving DecidableEq, Repr

inductive ReconciliationState where
  | reconciling
  | reconciled
  | disputed
  deriving DecidableEq, Repr

inductive TransactionType where
  | credit
  | debit
  | refund
  deriving DecidableEq, Repr

inductive TransactionStatus where
  | pending
  | posted
  | failed
  deriving DecidableEq, Repr

/-- `PAYMENT_INTENT_FINAL_STATUSES`. -/
inductive PaymentIntentFinalStatus where
  | settled
  | failed
  | canceled
  | expired
  deriving DecidableEq, Repr

inductive PaymentIntentOngoingStatus where
  | pending
  | authorized
  deriving DecidableEq, Repr

/-- The statuses `normalizePaymentIntentStatus` accepts. -/
inductive PaymentIntentStatus where
  | ongoing (status : PaymentIntentOngoingStatus)
  | final (status : PaymentIntentFinalStatus)
  deriving DecidableEq, Repr

inductive WebhookEventStatus where
  | received
  | ignored
  | failed
  | processed
  deriving DecidableEq, Repr

structure User where
  id : String
  organizationId : Option String
  deriving DecidableEq

structure PaymentMethod where
  (id userId status : String)
  deriving DecidableEq

structure Wallet where
  (id userId : String)
  organizationId : Option String
  balance : ℚ
  currency : String
  isLocked : Bool
  lockReason : Option String
  lockedAt : Option Int
  deriving DecidableEq

structure Transaction where
  (id walletId : String)
  paymentIntentId : Option String
  amount : ℚ≥0
  type : TransactionType
  status : TransactionStatus
  reconciliationState : ReconciliationState
  description : String
  reference : Option String
  idempotencyKey : String
  createdAt : Int
  deriving DecidableEq

structure PaymentIntent where
  id : String
  (userId organizationId walletId paymentMethodId : Option String)
  amount : ℚ≥0
  currency : String
  status : PaymentIntentStatus
  provider : Option PaymentProvider
  (providerPaymentId providerReference : Option String)
  idempotencyKey : String
  reconciliationState : ReconciliationState
  settledAt : Option Int
  metadata : Option JsRecord
  createdAt : Int

structure PaymentWebhookEvent where
  id : String
  provider : PaymentProvider
  (eventId eventType : String)
  paymentIntentId : Option String
  status : WebhookEventStatus
  errorMessage : Option String
  deriving DecidableEq

structure Store where
  users : Table User User.id
  paymentMethods : Table PaymentMethod PaymentMethod.id
  wallets : Table Wallet Wallet.id
  transactions : Table Transaction Transaction.id
  paymentIntents : Table PaymentIntent PaymentIntent.id
  webhookEvents : Table PaymentWebhookEvent PaymentWebhookEvent.id

namespace Store

/-- Nothing has been paid yet. -/
def opening (users : Table User User.id) (paymentMethods : Table PaymentMethod PaymentMethod.id) :
    Store where
  users := users
  paymentMethods := paymentMethods
  wallets := Table.empty
  transactions := Table.empty
  paymentIntents := Table.empty
  webhookEvents := Table.empty

def walletTable : Component Store Wallet.id where
  table := wallets
  put store wallets := { store with wallets }
  table_put _ _ := rfl

def transactionTable : Component Store Transaction.id where
  table := transactions
  put store transactions := { store with transactions }
  table_put _ _ := rfl

def paymentIntentTable : Component Store PaymentIntent.id where
  table := paymentIntents
  put store paymentIntents := { store with paymentIntents }
  table_put _ _ := rfl

def webhookEventTable : Component Store PaymentWebhookEvent.id where
  table := webhookEvents
  put store webhookEvents := { store with webhookEvents }
  table_put _ _ := rfl

/-- What a transaction can lock: rows, and the values of unique columns. -/
inductive Lock where
  | user (id : String)
  | wallet (id : String)
  | walletOf (userId : String)
  | transaction (id : String)
  /-- A payment intent; only who holds it writes the transactions of the intent. -/
  | paymentIntent (id : String)
  | paymentIntentKey (idempotencyKey : String)
  | webhookEvent (id : String)
  | webhookEventKey (provider : PaymentProvider) (eventId : String)
  deriving DecidableEq

def transactionsOf (store : Store) (intentId : String) : List Transaction :=
  store.transactions.rows.filter fun row => row.paymentIntentId = some intentId

def hasWalletOf (userId : String) (store : Store) : Bool :=
  store.wallets.rows.any fun row => row.userId = userId

def hasPaymentIntentKey (idempotencyKey : String) (store : Store) : Bool :=
  store.paymentIntents.rows.any fun row => row.idempotencyKey = idempotencyKey

def hasWebhookEventKey (provider : PaymentProvider) (eventId : String) (store : Store) : Bool :=
  store.webhookEvents.rows.any fun row => row.provider = provider && row.eventId = eventId

/-- Two stores look the same to the holder of the lock. -/
def protects : Lock → Setoid Store
  | .user id => Setoid.ker fun store => store.users.find? id
  | .wallet id => Setoid.ker (walletTable.find? id)
  | .walletOf userId => Setoid.ker (hasWalletOf userId)
  | .transaction id => Setoid.ker (transactionTable.find? id)
  | .paymentIntent id =>
    Setoid.ker fun store => (paymentIntentTable.find? id store, store.transactionsOf id)
  | .paymentIntentKey key => Setoid.ker (hasPaymentIntentKey key)
  | .webhookEvent id => Setoid.ker (webhookEventTable.find? id)
  | .webhookEventKey provider eventId => Setoid.ker (hasWebhookEventKey provider eventId)

end Store

/-- The exceptions a billing request can end with. -/
inductive CommerceException where
  | badRequest (message : String)
  | forbidden (message : String)
  | notFound (message : String)
  | unauthorized (message : String)
  /-- The 400 whose text is `Amount mismatch. Expected ..., received ...`. -/
  | amountMismatch (expected received : ℚ)
  /-- What the framework turns into a 500: a failed transaction, a payment that
  no provider accepted. -/
  | internal
  deriving DecidableEq, Repr

/-- The surroundings of one call. -/
structure Call where
  context : Option TenantContext
  /-- `Date.now()`. -/
  now : Int
  /-- `randomUUID()` and the ids of created rows. -/
  uuid : Nat → String
  /-- `createdAt` of created rows. -/
  createdAt : Nat → Int
  /-- `PAYMENT_ORCHESTRATION_ENABLED`. -/
  paymentOrchestrationEnabled : Option String

namespace Call

variable (call : Call)

/-- The id of a wallet that `ensureWallet` creates for the caller. -/
def walletId : String :=
  call.uuid 0

/-- The id of a wallet that `ensureWallet` creates for the target of a transfer. -/
def targetWalletId : String :=
  call.uuid 1

/-- What an idempotency key is made of when the request has none. -/
def keyUuid : String :=
  call.uuid 2

def paymentIntentId : String :=
  call.uuid 3

def transactionId : String :=
  call.uuid 4

def creditTransactionId : String :=
  call.uuid 5

def webhookEventId : String :=
  call.uuid 6

end Call

/-- `value?.trim()`, which must not be empty. -/
def requiredTrimmed (value : String) (field : String) : Except CommerceException String :=
  if trim value = "" then .error (.badRequest s!"{field} is required") else .ok (trim value)

def optionalTrimmed : Option String → Option String
  | none => none
  | some value => if trim value = "" then none else some (trim value)

/-- `undefined` stays `undefined`; an empty text is `null`. -/
def nullableOptionalTrimmed (value : Option String) : Option (Option String) :=
  value.map fun text => optionalTrimmed (some text)

def normalizeAmount (value : JsNumber) (field : String) : Except CommerceException ℚ≥0 :=
  match value with
  | .finite amount =>
    if positive : 0 < amount then .ok ⟨JsNumber.toFixed 4 amount, JsNumber.toFixed_nonneg 4 positive.le⟩
    else .error (.badRequest s!"{field} must be a positive number")
  | _ => .error (.badRequest s!"{field} must be a positive number")

/-- `normalizeCurrencyCode(value, fallback)`. -/
def normalizeCurrencyCode (value : Option String) (fallback : String) :
    Except CommerceException String :=
  let normalized := toUpperCase (trim ((orText value none).getD fallback))
  if length normalized < 3 ∨ length normalized > 4 then
    .error (.badRequest "currency must be a valid code")
  else
    .ok normalized

/-- The idempotency key of `normalizeIntentMeta`; without one, a random id without
hyphens makes it. -/
def normalizeIdempotencyKey (idempotencyKey : Option String) (uuid : String) : String :=
  (optionalTrimmed idempotencyKey).getD s!"pi_{uuid}"

def normalizePaymentIntentStatus (value : String) : Except CommerceException PaymentIntentStatus :=
  match toUpperCase (trim value) with
  | "PENDING" => .ok (.ongoing .pending)
  | "AUTHORIZED" => .ok (.ongoing .authorized)
  | "SETTLED" => .ok (.final .settled)
  | "FAILED" => .ok (.final .failed)
  | "CANCELED" => .ok (.final .canceled)
  | "EXPIRED" => .ok (.final .expired)
  | _ => .error (.badRequest "Unsupported payment intent status")

def isPaymentOrchestrationEnabled (call : Call) : Bool :=
  match call.paymentOrchestrationEnabled with
  | some text => toLowerCase (trim text) = "true"
  | none => false

def resolveTenantId (call : Call) : Option String :=
  TenantContext.resolve call.context none

structure WalletTopUpDto where
  amount : JsNumber
  (currency paymentMethodId idempotencyKey note : Option String)

/-- `WalletDebitDto` and `WalletRefundDto`. -/
structure WalletPostingDto where
  amount : JsNumber
  (idempotencyKey reference note : Option String)

structure WalletTransferDto where
  targetUserId : String
  amount : JsNumber
  (idempotencyKey note : Option String)

structure ReconcilePaymentIntentDto where
  status : String
  markSettled : Option Bool
  (providerReference note : Option String)

/-- What `orchestration.createPayment` answers. -/
structure PaymentSession where
  provider : PaymentProvider
  providerPaymentId : String
  providerReference : Option String

structure ApplyFinalStatusInput where
  intentId : Option String
  provider : Option PaymentProvider
  /-- `undefined`, `null` or a text. -/
  providerPaymentId : Option (Option String)
  idempotencyKey : Option String
  status : PaymentIntentFinalStatus
  /-- `undefined`, `null` or a text. -/
  providerReference : Option (Option String)
  note : Option String
  amount : Option JsNumber
  currency : Option String

end Csms.Billing
