import Csms.Billing.Writes
import Csms.Database.Request

/-!
# Wallet operations

`CommerceService` as requests against the shared database: each awaited query is
one step, each transaction another, and between them other requests run.
-/

namespace Csms.Billing

open Database Js

/-- The queries outside of transactions, with their arguments. -/
inductive Query where
  | user (id : String)
  | walletOf (userId : String)
  | paymentMethod (id userId : String)
  | paymentIntentByKey (idempotencyKey : String)
  | paymentIntent (id : String)
  | paymentIntentOfProvider (provider : PaymentProvider) (providerPaymentId : String)
  | transactionByKey (walletId idempotencyKey : String) (type : Option TransactionType)
  | webhookEvent (provider : PaymentProvider) (eventId : String)
  deriving DecidableEq

/-- A request of the billing services. -/
abbrev Commerce (α : Type) :=
  Request Store Query Write Write.Result CommerceException α

/-- A transaction; when it fails, the request fails. -/
def execute (write : Write) : Commerce write.Result :=
  Request.commit write .internal

def findUser (id : String) : Commerce (Option User) :=
  Request.read (.user id) fun store => store.users.find? id

def Store.walletOf (store : Store) (userId : String) : Option Wallet :=
  store.wallets.rows.find? fun wallet => wallet.userId = userId

def findWalletOf (userId : String) : Commerce (Option Wallet) :=
  Request.read (.walletOf userId) fun store => store.walletOf userId

def findPaymentMethod (id userId : String) : Commerce (Option PaymentMethod) :=
  Request.read (.paymentMethod id userId) fun store =>
    (store.paymentMethods.find? id).filter fun method => method.userId = userId

def findPaymentIntentByKey (idempotencyKey : String) :
    Commerce (Option (PaymentIntent × Option Transaction)) :=
  Request.read (.paymentIntentByKey idempotencyKey) fun store =>
    (store.paymentIntents.rows.find? fun intent => intent.idempotencyKey = idempotencyKey).map
      fun intent => (intent, newestOf Transaction.createdAt (store.transactionsOf intent.id))

def Store.transactionByKey (store : Store) (walletId idempotencyKey : String)
    (type : Option TransactionType) : Option Transaction :=
  newestOf Transaction.createdAt
    (store.transactions.rows.filter fun row =>
      row.walletId = walletId && row.idempotencyKey = idempotencyKey &&
        type.all fun wanted => row.type = wanted)

def findTransactionByKey (walletId idempotencyKey : String) (type : Option TransactionType) :
    Commerce (Option Transaction) :=
  Request.read (.transactionByKey walletId idempotencyKey type) fun store =>
    store.transactionByKey walletId idempotencyKey type

def orThrow {α : Type} (found : Option α) (error : CommerceException) :
    Except CommerceException α :=
  match found with
  | some value => .ok value
  | none => .error error

def assertUserInScope (call : Call) (user : User) : Except CommerceException Unit :=
  match resolveTenantId call with
  | some tenantId =>
    if user.organizationId = some tenantId then .ok ()
    else .error (.forbidden "User is outside the active tenant scope")
  | none => .ok ()

def resolveUserForScope (call : Call) (userId : String) : Commerce User := do
  let normalizedUserId ← Request.ofExcept (requiredTrimmed userId "userId")
  let found ← findUser normalizedUserId
  let user ← Request.ofExcept (orThrow found (.notFound "User not found"))
  Request.ofExcept (assertUserInScope call user)
  return user

/-- The currency `ensureWallet` wants an existing wallet to have: a hint counts
while the balance is zero. -/
def preferredCurrency (current : Wallet) (currencyHint : Option String) :
    Except CommerceException String :=
  match orText currencyHint none with
  | some hint =>
    if current.balance = 0 then normalizeCurrencyCode (some hint) current.currency
    else .ok current.currency
  | none => .ok current.currency

/-- The wallet of a user, created under `id` if there is none. -/
def ensureWallet (call : Call) (id userId : String) (currencyHint : Option String) :
    Commerce Wallet := do
  let user ← resolveUserForScope call userId
  let current ← findWalletOf userId
  match current with
  | none =>
    let currency ← Request.ofExcept (normalizeCurrencyCode currencyHint "USD")
    execute (.createWallet id userId user.organizationId currency)
  | some current =>
    let currency ← Request.ofExcept (preferredCurrency current currencyHint)
    if current.organizationId ≠ user.organizationId ∨ currency ≠ current.currency then
      execute (.updateWalletOwner current.id user.organizationId currency)
    else
      return current

def assertWalletUnlocked (wallet : Wallet) : Except CommerceException Unit :=
  if wallet.isLocked then
    match orText wallet.lockReason none with
    | some lockReason => .error (.forbidden s!"Wallet is locked: {lockReason}")
    | none => .error (.forbidden "Wallet is locked")
  else
    .ok ()

def assertSufficientBalance (wallet : Wallet) (amount : ℚ≥0) : Except CommerceException Unit :=
  if wallet.balance < amount then .error (.badRequest "Insufficient wallet balance") else .ok ()

def assertActive (method : PaymentMethod) : Except CommerceException Unit :=
  if method.status = "ACTIVE" then .ok ()
  else .error (.badRequest "Payment method is not active")

def loadActivePaymentMethod (userId paymentMethodId : String) : Commerce PaymentMethod := do
  let found ← findPaymentMethod paymentMethodId userId
  let method ← Request.ofExcept (orThrow found (.notFound "Payment method not found"))
  Request.ofExcept (assertActive method)
  return method

/-- The id of the payment method a top-up names, if it names one. -/
def loadPaymentMethodId (userId : String) (paymentMethodId : Option String) :
    Commerce (Option String) :=
  match orText paymentMethodId none with
  | some id => do
    let method ← loadActivePaymentMethod userId id
    return some method.id
  | none => return none

/-- What a billing request answers. -/
inductive BillingAnswer where
  | toppedUp (wallet : Wallet) (paymentIntent : PaymentIntent) (transactionId : String)
  | posted (wallet : Wallet) (transactionId : String)
  | transferred (sourceWallet targetWallet : Wallet)
      (debitTransactionId creditTransactionId : String)
  | wallet (wallet : Wallet)
  | paymentIntent (intent : PaymentIntent)
  | webhook (duplicate : Bool) (event : String × String) (intentId : Option String)
      (status : WebhookEventStatus) (message : Option String)

/-- `payment` is what payment orchestration makes of the top-up. -/
def topUp (call : Call) (userId : String) (dto : WalletTopUpDto)
    (payment : Except CommerceException PaymentSession) : Commerce BillingAnswer := do
  let wallet ← ensureWallet call call.walletId userId dto.currency
  Request.ofExcept (assertWalletUnlocked wallet)
  let paymentMethodId ← loadPaymentMethodId userId dto.paymentMethodId
  let amount ← Request.ofExcept (normalizeAmount dto.amount "amount")
  let currency ← Request.ofExcept (normalizeCurrencyCode dto.currency wallet.currency)
  let idempotencyKey := normalizeIdempotencyKey dto.idempotencyKey call.keyUuid
  let input : WalletTopUp :=
    { call, userId, wallet, paymentMethodId, amount, currency, idempotencyKey, note := dto.note }
  let existing ← findPaymentIntentByKey idempotencyKey
  match existing with
  | some (intent, transaction) =>
    let current ← ensureWallet call call.walletId userId none
    return .toppedUp current intent ((transaction.map Transaction.id).getD intent.id)
  | none =>
    if isPaymentOrchestrationEnabled call then
      let _ ← resolveUserForScope call userId
      let orchestration ← Request.ofExcept payment
      let (intent, transactionId) ←
        (execute (.topUpPending input orchestration) : Commerce (PaymentIntent × String))
      let current ← ensureWallet call call.walletId userId none
      return .toppedUp current intent transactionId
    else
      let (updatedWallet, intent, transactionId) ←
        (execute (.topUpSettled input) : Commerce (Wallet × PaymentIntent × String))
      return .toppedUp updatedWallet intent transactionId

def debit (call : Call) (userId : String) (dto : WalletPostingDto) : Commerce BillingAnswer := do
  let wallet ← ensureWallet call call.walletId userId none
  Request.ofExcept (assertWalletUnlocked wallet)
  let amount ← Request.ofExcept (normalizeAmount dto.amount "amount")
  Request.ofExcept (assertSufficientBalance wallet amount)
  let idempotencyKey := normalizeIdempotencyKey dto.idempotencyKey call.keyUuid
  let existing ← findTransactionByKey wallet.id idempotencyKey none
  match existing with
  | some transaction =>
    let current ← ensureWallet call call.walletId userId none
    return .posted current transaction.id
  | none =>
    let (updatedWallet, transactionId) ←
      (execute
        (.debit
          { call, wallet, amount, idempotencyKey, reference := dto.reference, note := dto.note }) :
        Commerce (Wallet × String))
    return .posted updatedWallet transactionId

def refund (call : Call) (userId : String) (dto : WalletPostingDto) : Commerce BillingAnswer := do
  let wallet ← ensureWallet call call.walletId userId none
  Request.ofExcept (assertWalletUnlocked wallet)
  let amount ← Request.ofExcept (normalizeAmount dto.amount "amount")
  let idempotencyKey := normalizeIdempotencyKey dto.idempotencyKey call.keyUuid
  let existing ← findTransactionByKey wallet.id idempotencyKey none
  match existing with
  | some transaction =>
    let current ← ensureWallet call call.walletId userId none
    return .posted current transaction.id
  | none =>
    let (updatedWallet, transactionId) ←
      (execute
        (.refund
          { call, wallet, amount, idempotencyKey, reference := dto.reference, note := dto.note }) :
        Commerce (Wallet × String))
    return .posted updatedWallet transactionId

def transfer (call : Call) (userId : String) (dto : WalletTransferDto) :
    Commerce BillingAnswer := do
  let sourceWallet ← ensureWallet call call.walletId userId none
  Request.ofExcept (assertWalletUnlocked sourceWallet)
  let targetUser ← resolveUserForScope call dto.targetUserId
  let targetWallet ←
    ensureWallet call call.targetWalletId targetUser.id (some sourceWallet.currency)
  Request.ofExcept (assertWalletUnlocked targetWallet)
  let amount ← Request.ofExcept (normalizeAmount dto.amount "amount")
  Request.ofExcept (assertSufficientBalance sourceWallet amount)
  let idempotencyKey := normalizeIdempotencyKey dto.idempotencyKey call.keyUuid
  let existing ← findTransactionByKey sourceWallet.id idempotencyKey (some .debit)
  match existing with
  | some transaction =>
    let currentSource ← ensureWallet call call.walletId userId none
    let currentTarget ← ensureWallet call call.targetWalletId targetUser.id none
    return .transferred currentSource currentTarget transaction.id
      ((orText transaction.reference none).getD transaction.id)
  | none =>
    let result ←
      (execute
        (.transfer
          { call, userId, targetUserId := targetUser.id, sourceWallet, targetWallet, amount,
            idempotencyKey, note := dto.note }) :
        Commerce WalletTransferred)
    return .transferred result.updatedSource result.updatedTarget result.debitId result.creditId

def lockWallet (call : Call) (userId : String) (reason : Option String) :
    Commerce BillingAnswer := do
  let wallet ← ensureWallet call call.walletId userId none
  let lockReason := (optionalTrimmed reason).getD "Operator lock"
  let updated ←
    (execute (.lockWallet wallet.id lockReason call.now) : Commerce Wallet)
  return .wallet updated

def unlockWallet (call : Call) (userId : String) : Commerce BillingAnswer := do
  let wallet ← ensureWallet call call.walletId userId none
  let updated ← (execute (.unlockWallet wallet.id) : Commerce Wallet)
  return .wallet updated

end Csms.Billing
