import Csms.Billing.Requests

/-!
# The transactions of each request

Each operation executes transactions of a few kinds only, whatever it reads.
-/

namespace Csms.Billing

open Database Js

inductive Write.Kind where
  | upkeep
  | lock
  | topUp
  | posting
  | settlement
  | webhookEvent
  deriving DecidableEq

/-- What a transaction is for; `ensureWallet` does the upkeep. -/
def Write.kind : Write → Write.Kind
  | .createWallet .. | .updateWalletOwner .. => .upkeep
  | .lockWallet .. | .unlockWallet .. => .lock
  | .topUpSettled .. | .topUpPending .. => .topUp
  | .debit .. | .refund .. | .transfer .. => .posting
  | .applyFinalStatus .. | .reconcile .. => .settlement
  | .createWebhookEvent .. | .markEventStatus .. => .webhookEvent

/-- The kinds of transactions that a request may execute. -/
def BillingRequest.kinds : BillingRequest → List Write.Kind
  | topUp .. => [.upkeep, .topUp]
  | debit .. | refund .. | transfer .. => [.upkeep, .posting]
  | lockWallet .. | unlockWallet .. => [.upkeep, .lock]
  | reconcilePaymentIntent .. | applyFinalStatus .. => [.settlement]
  | handleWebhook .. => [.webhookEvent, .settlement]

variable {allowed : Write → Prop}

theorem transacts_execute {write : Write} (isAllowed : allowed write) :
    (execute write).Transacts allowed :=
  Request.transacts_commit _ isAllowed

theorem transacts_resolveUserForScope (call : Call) (userId : String) :
    (resolveUserForScope call userId).Transacts allowed := by
  apply (transacts_ofExcept _).bind
  intro normalizedUserId
  apply (transacts_read _ _).bind
  intro found
  apply (transacts_ofExcept _).bind
  intro user
  apply (transacts_ofExcept _).bind
  intro _
  exact transacts_pure user

theorem transacts_loadPaymentMethodId (userId : String) (paymentMethodId : Option String) :
    (loadPaymentMethodId userId paymentMethodId).Transacts allowed := by
  rw [loadPaymentMethodId]
  rcases orText paymentMethodId none with _ | id
  · exact transacts_pure none
  · apply Request.Transacts.bind
    · apply (transacts_read _ _).bind
      intro found
      apply (transacts_ofExcept _).bind
      intro method
      apply (transacts_ofExcept _).bind
      intro _
      exact transacts_pure method
    · intro method
      exact transacts_pure _

section Wallets

variable (upkeep : ∀ write : Write, write.kind = .upkeep → allowed write) (call : Call)
include upkeep

theorem transacts_ensureWallet (id userId : String) (currencyHint : Option String) :
    (ensureWallet call id userId currencyHint).Transacts allowed := by
  apply (transacts_resolveUserForScope call userId).bind
  intro user
  apply (transacts_read _ _).bind
  intro found
  cases found with
  | none =>
    apply (transacts_ofExcept _).bind
    intro currency
    exact transacts_execute (upkeep _ rfl)
  | some current =>
    apply (transacts_ofExcept _).bind
    intro currency
    apply Request.Transacts.ite
    · exact transacts_execute (upkeep _ rfl)
    · exact transacts_pure current

theorem transacts_topUp (isTopUp : ∀ write : Write, write.kind = .topUp → allowed write)
    (userId : String) (dto : WalletTopUpDto) (payment : Except CommerceException PaymentSession) :
    (topUp call userId dto payment).Transacts allowed := by
  apply (transacts_ensureWallet upkeep call _ _ _).bind
  intro wallet
  apply (transacts_ofExcept _).bind
  intro _
  apply (transacts_loadPaymentMethodId userId dto.paymentMethodId).bind
  intro paymentMethodId
  apply (transacts_ofExcept _).bind
  intro amount
  apply (transacts_ofExcept _).bind
  intro currency
  apply (transacts_read _ _).bind
  intro existing
  cases existing with
  | none =>
    apply Request.Transacts.ite
    · apply (transacts_resolveUserForScope call userId).bind
      intro _
      apply (transacts_ofExcept _).bind
      intro orchestration
      apply (transacts_execute (isTopUp _ rfl)).bind
      intro _
      apply (transacts_ensureWallet upkeep call _ _ _).bind
      intro current
      exact transacts_pure _
    · apply (transacts_execute (isTopUp _ rfl)).bind
      intro _
      exact transacts_pure _
  | some found =>
    apply (transacts_ensureWallet upkeep call _ _ _).bind
    intro current
    exact transacts_pure _

section Postings

variable (posting : ∀ write : Write, write.kind = .posting → allowed write) (userId : String)
include posting

theorem transacts_debit (dto : WalletPostingDto) : (debit call userId dto).Transacts allowed := by
  apply (transacts_ensureWallet upkeep call _ _ _).bind
  intro wallet
  apply (transacts_ofExcept _).bind
  intro _
  apply (transacts_ofExcept _).bind
  intro amount
  apply (transacts_ofExcept _).bind
  intro _
  apply (transacts_read _ _).bind
  intro existing
  cases existing with
  | none =>
    apply (transacts_execute (posting _ rfl)).bind
    intro _
    exact transacts_pure _
  | some transaction =>
    apply (transacts_ensureWallet upkeep call _ _ _).bind
    intro current
    exact transacts_pure _

theorem transacts_refund (dto : WalletPostingDto) : (refund call userId dto).Transacts allowed := by
  apply (transacts_ensureWallet upkeep call _ _ _).bind
  intro wallet
  apply (transacts_ofExcept _).bind
  intro _
  apply (transacts_ofExcept _).bind
  intro amount
  apply (transacts_read _ _).bind
  intro existing
  cases existing with
  | none =>
    apply (transacts_execute (posting _ rfl)).bind
    intro _
    exact transacts_pure _
  | some transaction =>
    apply (transacts_ensureWallet upkeep call _ _ _).bind
    intro current
    exact transacts_pure _

theorem transacts_transfer (dto : WalletTransferDto) :
    (transfer call userId dto).Transacts allowed := by
  apply (transacts_ensureWallet upkeep call _ _ _).bind
  intro sourceWallet
  apply (transacts_ofExcept _).bind
  intro _
  apply (transacts_resolveUserForScope call _).bind
  intro targetUser
  apply (transacts_ensureWallet upkeep call _ _ _).bind
  intro targetWallet
  apply (transacts_ofExcept _).bind
  intro _
  apply (transacts_ofExcept _).bind
  intro amount
  apply (transacts_ofExcept _).bind
  intro _
  apply (transacts_read _ _).bind
  intro existing
  cases existing with
  | none =>
    apply (transacts_execute (posting _ rfl)).bind
    intro _
    exact transacts_pure _
  | some transaction =>
    apply (transacts_ensureWallet upkeep call _ _ _).bind
    intro currentSource
    apply (transacts_ensureWallet upkeep call _ _ _).bind
    intro currentTarget
    exact transacts_pure _

end Postings

section Locks

variable (lock : ∀ write : Write, write.kind = .lock → allowed write) (userId : String)
include lock

theorem transacts_lockWallet (reason : Option String) :
    (lockWallet call userId reason).Transacts allowed := by
  apply (transacts_ensureWallet upkeep call _ _ _).bind
  intro wallet
  apply (transacts_execute (lock _ rfl)).bind
  intro updated
  exact transacts_pure _

theorem transacts_unlockWallet : (unlockWallet call userId).Transacts allowed := by
  apply (transacts_ensureWallet upkeep call _ _ _).bind
  intro wallet
  apply (transacts_execute (lock _ rfl)).bind
  intro updated
  exact transacts_pure _

end Locks

end Wallets

theorem transacts_resolveIntentByKey (idempotencyKey : Option String) :
    (resolveIntentByKey idempotencyKey).Transacts allowed := by
  rw [resolveIntentByKey]
  cases orText idempotencyKey none with
  | none => exact transacts_pure none
  | some key =>
    apply (transacts_read _ _).bind
    intro found
    exact transacts_pure _

theorem transacts_resolveIntent (intentId : Option String) (provider : Option PaymentProvider)
    (providerPaymentId idempotencyKey : Option String) :
    (resolveIntent intentId provider providerPaymentId idempotencyKey).Transacts allowed := by
  rw [resolveIntent]
  cases orText intentId none with
  | some wanted => exact transacts_read _ _
  | none =>
    rcases provider with _ | provider
    · exact transacts_resolveIntentByKey idempotencyKey
    · rcases isId : orText providerPaymentId none with _ | providerId
      · simp only [resolveIntentOfProvider, isId]
        exact transacts_resolveIntentByKey idempotencyKey
      · simp only [resolveIntentOfProvider, isId]
        apply (transacts_read _ _).bind
        rintro (_ | intent)
        · exact transacts_resolveIntentByKey idempotencyKey
        · exact transacts_pure _

/-- What asks for a status of a payment intent that is stored. -/
inductive Notification where
  | webhook (provider : PaymentProvider) (event : Webhooks.NormalizedWebhookEvent)
      (status : PaymentIntentFinalStatus)
  | reconciliation (dto : ReconcilePaymentIntentDto) (status : PaymentIntentStatus)

/-- The transaction that applies a notification to an intent that was read as `read`, and for a
final status as `existing` after that. -/
def Notification.write (read existing : PaymentIntent) (now : Int) : Notification → Write
  | webhook provider event status =>
    .applyFinalStatus existing
      { intentId := some read.id
        provider := some provider
        providerPaymentId := some event.providerPaymentId
        idempotencyKey := event.idempotencyKey
        status
        providerReference := some event.providerReference
        note := some s!"Webhook event {event.eventType}"
        amount := event.amount.map .finite
        currency := event.currency } now
  | reconciliation dto (.final status) =>
    .applyFinalStatus existing
      { intentId := some read.id
        provider := read.provider
        providerPaymentId := some read.providerPaymentId
        idempotencyKey := none
        status
        providerReference := nullableOptionalTrimmed dto.providerReference
        note := optionalTrimmed dto.note
        amount := none
        currency := none } now
  | reconciliation dto (.ongoing status) =>
    .reconcile read status (nullableOptionalTrimmed dto.providerReference) dto.note

theorem Notification.kind_write (notification : Notification) (read existing : PaymentIntent)
    (now : Int) : (notification.write read existing now).kind = .settlement := by
  rcases notification with _ | ⟨dto, status⟩
  · rfl
  · cases status <;> rfl

theorem transacts_applyFinalStatus (call : Call) {input : ApplyFinalStatusInput}
    (settlement : ∀ existing, allowed (.applyFinalStatus existing input call.now)) :
    (applyFinalStatus call input).Transacts allowed := by
  apply (transacts_resolveIntent _ _ _ _).bind
  intro found
  apply (transacts_ofExcept _).bind
  intro existing
  apply (transacts_ofExcept _).bind
  intro _
  exact transacts_execute (settlement existing)

theorem transacts_reconcilePaymentIntent (call : Call) (intentId : String)
    {dto : ReconcilePaymentIntentDto} (settlement : ∀ status read existing,
      allowed ((Notification.reconciliation dto status).write read existing call.now)) :
    (reconcilePaymentIntent call intentId dto).Transacts allowed := by
  apply (transacts_read _ _).bind
  intro found
  apply (transacts_ofExcept _).bind
  intro intent
  apply (transacts_ofExcept _).bind
  intro _
  apply (transacts_ofExcept _).bind
  intro status
  cases requestedStatus status dto.markSettled with
  | final finalStatus =>
    apply (transacts_applyFinalStatus call (settlement (.final finalStatus) intent)).bind
    intro updated
    exact transacts_pure _
  | ongoing ongoingStatus =>
    apply (transacts_execute (settlement (.ongoing ongoingStatus) intent intent)).bind
    intro updated
    exact transacts_pure _

section Webhooks

variable (webhookEvent : ∀ write : Write, write.kind = .webhookEvent → allowed write) (call : Call)
include webhookEvent

theorem transacts_processEvent {provider : PaymentProvider}
    {event : Webhooks.NormalizedWebhookEvent} (recordId : String)
    (settlement : ∀ status read existing, event.status = some status →
      allowed ((Notification.webhook provider event status).write read existing call.now)) :
    (Webhooks.processEvent call provider event recordId).Transacts allowed := by
  have marks (status : WebhookEventStatus) (paymentIntentId errorMessage : Option String)
      (answer : BillingAnswer) :
      (do
        let _ ← (execute (.markEventStatus recordId status paymentIntentId errorMessage) :
          Commerce Unit)
        return answer : Commerce BillingAnswer).Transacts allowed := by
    apply (transacts_execute (webhookEvent (.markEventStatus _ _ _ _) rfl)).bind
    intro _
    exact transacts_pure _
  rw [Webhooks.processEvent]
  rcases isStatus : event.status with _ | status
  · exact marks _ _ _ _
  · apply (transacts_resolveIntent _ _ _ _).bind
    rintro (_ | intent)
    · exact marks _ _ _ _
    · apply (transacts_applyFinalStatus call
        fun existing => settlement status intent existing isStatus).bind
      intro reconciled
      exact marks _ _ _ _

theorem transacts_handleWebhook (runtime : Webhooks.Runtime) {delivery : Webhooks.Delivery}
    (settlement : ∀ status read existing, (delivery.event runtime).status = some status →
      allowed ((Notification.webhook delivery.provider (delivery.event runtime) status).write read
        existing call.now)) : (Webhooks.handleWebhook runtime call delivery).Transacts allowed := by
  apply (transacts_ofExcept _).bind
  intro _
  apply (transacts_read _ _).bind
  intro existing
  cases existing with
  | none =>
    apply (transacts_execute (webhookEvent (.createWebhookEvent _ _ _ _) rfl)).bind
    intro created
    exact transacts_processEvent webhookEvent call _ settlement
  | some record => exact transacts_pure _

end Webhooks

theorem BillingRequest.transacts_program (runtime : Webhooks.Runtime) (request : BillingRequest) :
    (request.program runtime).Transacts fun write => write.kind ∈ request.kinds := by
  have among {kinds : List Write.Kind} {kind : Write.Kind} (member : kind ∈ kinds) (write : Write)
      (isKind : write.kind = kind) : write.kind ∈ kinds := isKind ▸ member
  cases request with
  | topUp call userId dto payment =>
    exact transacts_topUp (among (by simp [kinds])) call (among (by simp [kinds])) userId dto payment
  | debit call userId dto =>
    exact transacts_debit (among (by simp [kinds])) call (among (by simp [kinds])) userId dto
  | refund call userId dto =>
    exact transacts_refund (among (by simp [kinds])) call (among (by simp [kinds])) userId dto
  | transfer call userId dto =>
    exact transacts_transfer (among (by simp [kinds])) call (among (by simp [kinds])) userId dto
  | lockWallet call userId reason =>
    exact transacts_lockWallet (among (by simp [kinds])) call (among (by simp [kinds])) userId reason
  | unlockWallet call userId =>
    exact transacts_unlockWallet (among (by simp [kinds])) call (among (by simp [kinds])) userId
  | reconcilePaymentIntent call intentId dto =>
    exact transacts_reconcilePaymentIntent call intentId fun status read existing =>
      among (by simp [kinds]) _ ((Notification.reconciliation dto status).kind_write _ _ _)
  | applyFinalStatus call input =>
    apply (transacts_applyFinalStatus call fun _ => List.mem_singleton_self _).bind
    intro updated
    exact transacts_pure _
  | handleWebhook call delivery =>
    exact transacts_handleWebhook (among (by simp [kinds])) call runtime fun _ read existing _ =>
      among (by simp [kinds]) _ (Notification.kind_write _ read existing call.now)

end Csms.Billing
