import Csms.Billing.Commerce
import Csms.Billing.Webhooks.Event

/-!
# Handling payment webhooks

`PaymentWebhooksService.handleWebhook`: look for the event, record it, apply the
status it reports, and mark the record.
-/

/-!
## Settlement of payment intents

`PaymentSettlementService` and `reconcilePaymentIntent`.  The notification that
follows a change of status fails silently and changes nothing; it is left out.
-/

namespace Csms.Billing

open Database Js

def findPaymentIntent (id : String) : Commerce (Option PaymentIntent) :=
  Request.read (.paymentIntent id) fun store => store.paymentIntents.find? id

def Store.paymentIntentOfProvider (store : Store) (provider : PaymentProvider)
    (providerPaymentId : String) : Option PaymentIntent :=
  newestOf PaymentIntent.createdAt
    (store.paymentIntents.rows.filter fun intent =>
      intent.provider = some provider && intent.providerPaymentId = some providerPaymentId)

def findPaymentIntentOfProvider (provider : PaymentProvider) (providerPaymentId : String) :
    Commerce (Option PaymentIntent) :=
  Request.read (.paymentIntentOfProvider provider providerPaymentId) fun store =>
    store.paymentIntentOfProvider provider providerPaymentId

/-- The last attempt of `resolveIntent`. -/
def resolveIntentByKey (idempotencyKey : Option String) : Commerce (Option PaymentIntent) :=
  match orText idempotencyKey none with
  | some key => do
    let found ← findPaymentIntentByKey key
    return found.map Prod.fst
  | none => return none

/-- `resolveIntent` without an intent id. -/
def resolveIntentOfProvider (provider : Option PaymentProvider)
    (providerPaymentId idempotencyKey : Option String) : Commerce (Option PaymentIntent) :=
  match provider, orText providerPaymentId none with
  | some provider, some id => do
    let byProviderId ← findPaymentIntentOfProvider provider id
    match byProviderId with
    | some intent => return some intent
    | none => resolveIntentByKey idempotencyKey
  | _, _ => resolveIntentByKey idempotencyKey

def resolveIntent (intentId : Option String) (provider : Option PaymentProvider)
    (providerPaymentId idempotencyKey : Option String) : Commerce (Option PaymentIntent) :=
  match orText intentId none with
  | some id => findPaymentIntent id
  | none => resolveIntentOfProvider provider providerPaymentId idempotencyKey

def assertExpectedAmount (intent : PaymentIntent) (amount : Option JsNumber) :
    Except CommerceException Unit :=
  match amount with
  | some (.finite received) =>
    if JsNumber.toFixed 2 received ≠ JsNumber.toFixed 2 intent.amount then
      .error (.amountMismatch intent.amount received)
    else .ok ()
  | _ => .ok ()

def assertExpectedCurrency (intent : PaymentIntent) (currency : Option String) :
    Except CommerceException Unit :=
  match currency with
  | some received =>
    if trim received ≠ "" ∧
        toUpperCase (trim received) ≠ toUpperCase (trim intent.currency) then
      .error (.badRequest
        s!"Currency mismatch. Expected {intent.currency}, received {received}")
    else .ok ()
  | none => .ok ()

def assertExpectedAmountAndCurrency (intent : PaymentIntent) (amount : Option JsNumber)
    (currency : Option String) : Except CommerceException Unit := do
  assertExpectedAmount intent amount
  assertExpectedCurrency intent currency

def applyFinalStatus (call : Call) (input : ApplyFinalStatusInput) : Commerce PaymentIntent := do
  let found ← resolveIntent input.intentId input.provider (input.providerPaymentId.getD none)
    input.idempotencyKey
  let existing ← Request.ofExcept (orThrow found (.notFound "Payment intent not found"))
  Request.ofExcept (assertExpectedAmountAndCurrency existing input.amount input.currency)
  let updated ← (execute (.applyFinalStatus existing input call.now) : Commerce PaymentIntent)
  return updated

def assertIntentInScope (call : Call) (intent : PaymentIntent) : Except CommerceException Unit :=
  match resolveTenantId call, orText intent.organizationId none with
  | some tenantId, some organizationId =>
    if organizationId = tenantId then .ok ()
    else .error (.forbidden "Payment intent is outside the active tenant scope")
  | _, _ => .ok ()

/-- The status a reconciliation asks for. -/
def requestedStatus (status : PaymentIntentStatus) (markSettled : Option Bool) :
    PaymentIntentStatus :=
  if markSettled = some true then .final .settled else status

def reconcilePaymentIntent (call : Call) (intentId : String) (dto : ReconcilePaymentIntentDto) :
    Commerce BillingAnswer := do
  let found ← findPaymentIntent intentId
  let intent ← Request.ofExcept (orThrow found (.notFound "Payment intent not found"))
  Request.ofExcept (assertIntentInScope call intent)
  let status ← Request.ofExcept (normalizePaymentIntentStatus dto.status)
  let providerReference := nullableOptionalTrimmed dto.providerReference
  match requestedStatus status dto.markSettled with
  | .final finalStatus =>
    let updated ← applyFinalStatus call
      { intentId := some intent.id
        provider := intent.provider
        providerPaymentId := some intent.providerPaymentId
        idempotencyKey := none
        status := finalStatus
        providerReference
        note := optionalTrimmed dto.note
        amount := none
        currency := none }
    return .paymentIntent updated
  | .ongoing ongoingStatus =>
    let updated ←
      (execute (.reconcile intent ongoingStatus providerReference dto.note) : Commerce PaymentIntent)
    return .paymentIntent updated

end Csms.Billing

namespace Csms.Billing.Webhooks

open Database Js

/-- A delivery of a provider; `isValidSignature` is the verdict on its signature. -/
structure Delivery where
  provider : PaymentProvider
  isValidSignature : Bool
  payload : JsValue
  rawBody : String

def Store.webhookEvent (store : Store) (provider : PaymentProvider) (eventId : String) :
    Option PaymentWebhookEvent :=
  store.webhookEvents.rows.find? fun event => event.provider = provider && event.eventId = eventId

def findWebhookEvent (provider : PaymentProvider) (eventId : String) :
    Commerce (Option PaymentWebhookEvent) :=
  Request.read (.webhookEvent provider eventId) fun store =>
    Store.webhookEvent store provider eventId

def verifySignature (delivery : Delivery) : Except CommerceException Unit :=
  if delivery.isValidSignature then .ok ()
  else .error (.unauthorized "Webhook signature verification failed")

variable (runtime : Runtime)

def Delivery.event (delivery : Delivery) : NormalizedWebhookEvent :=
  normalizeEvent runtime delivery.provider
    (normalizePayload runtime delivery.payload delivery.rawBody) delivery.rawBody

/-- What a recorded event is for: apply its status to its payment intent. -/
def processEvent (call : Call) (provider : PaymentProvider) (event : NormalizedWebhookEvent)
    (recordId : String) : Commerce BillingAnswer :=
  match event.status with
  | none => do
    let _ ← (execute (.markEventStatus recordId .ignored none none) : Commerce Unit)
    return .webhook false (event.eventId, event.eventType) none .ignored
      (some "Event type does not change payment state")
  | some status => do
    let found ← resolveIntent none (some provider) event.providerPaymentId event.idempotencyKey
    match found with
    | none =>
      let _ ←
        (execute
          (.markEventStatus recordId .failed none (some "No matching payment intent")) :
          Commerce Unit)
      return .webhook false (event.eventId, event.eventType) none .failed
        (some "No matching payment intent")
    | some intent =>
      let reconciled ← applyFinalStatus call
        { intentId := some intent.id
          provider := some provider
          providerPaymentId := some event.providerPaymentId
          idempotencyKey := event.idempotencyKey
          status
          providerReference := some event.providerReference
          note := some s!"Webhook event {event.eventType}"
          amount := event.amount.map .finite
          currency := event.currency }
      let _ ←
        (execute (.markEventStatus recordId .processed (some reconciled.id) none) :
          Commerce Unit)
      return .webhook false (event.eventId, event.eventType) (some reconciled.id) .processed
        none

def handleWebhook (call : Call) (delivery : Delivery) : Commerce BillingAnswer := do
  Request.ofExcept (verifySignature delivery)
  let event := delivery.event runtime
  let existing ← findWebhookEvent delivery.provider event.eventId
  match existing with
  | some record =>
    return .webhook true (event.eventId, event.eventType) record.paymentIntentId record.status
      (some "Duplicate webhook ignored")
  | none =>
    let created ←
      (execute
        (.createWebhookEvent call.webhookEventId delivery.provider event.eventId
          event.eventType) : Commerce PaymentWebhookEvent)
    processEvent call delivery.provider event created.id

end Csms.Billing.Webhooks
