import Csms.Billing.Input

/-!
# Payment webhook events

Each provider has its own payload; `handleWebhook` first normalises it.  A field
that is absent, of another type or blank counts as missing, and the event id is
the first of a chain of fields that is there, with a digest of the raw body as
the last resort.
-/

namespace Csms.Billing.Webhooks

open Js

/-- What the runtime supplies: `JSON.parse`, the first half of a SHA-256 digest in
hexadecimal, and `Number(text)`. -/
structure Runtime where
  parseJson : String → Option JsValue
  digest : String → String
  engine : Engine

structure NormalizedWebhookEvent where
  (eventId eventType : String)
  status : Option PaymentIntentFinalStatus
  (providerPaymentId providerReference idempotencyKey : Option String)
  amount : Option ℚ
  currency : Option String

def readString (record : JsRecord) (key : String) : Option String :=
  match record key with
  | .string value => if trim value = "" then none else some (trim value)
  | _ => none

def readObject (record : JsRecord) (key : String) : JsRecord :=
  match record key with
  | .object fields => fields
  | _ => JsRecord.empty

variable (runtime : Runtime)

def readNumber (record : JsRecord) (key : String) : Option ℚ :=
  match record key with
  | .number (.finite value) => some value
  | .string text =>
    match runtime.engine.coerceNumber (.string text) with
    | .finite value => some value
    | _ => none
  | _ => none

/-- `left || right` of numbers that are missing or finite: zero is falsy. -/
def orNumber (left right : Option ℚ) : Option ℚ :=
  match left with
  | some value => if value = 0 then right else some value
  | none => right

def normalizePayload (payload : JsValue) (rawBody : String) : JsRecord :=
  match payload with
  | .object fields => fields
  | _ =>
    match runtime.parseJson rawBody with
    | some (.object fields) => fields
    | _ => JsRecord.empty

def readStripeAmount (record : JsRecord) : Option ℚ :=
  match readNumber runtime record "amount_total" with
  | some amountTotal => some (JsNumber.toFixed 2 (amountTotal / 100))
  | none => (readNumber runtime record "amount").map fun amount => JsNumber.toFixed 2 (amount / 100)

def mapStripeStatus (eventType : String) : Option PaymentIntentFinalStatus :=
  if eventType ∈ ["checkout.session.completed", "payment_intent.succeeded", "charge.succeeded"] then
    some .settled
  else if eventType ∈ ["checkout.session.expired", "payment_intent.canceled"] then some .canceled
  else if eventType ∈ ["payment_intent.payment_failed", "charge.failed"] then some .failed
  else none

def mapFlutterwaveStatus (status : Option String) : Option PaymentIntentFinalStatus :=
  match status.map fun text => toLowerCase (trim text) with
  | none => none
  | some normalized =>
    if normalized ∈ ["successful", "success"] then some .settled
    else if normalized ∈ ["failed", "error"] then some .failed
    else if normalized ∈ ["cancelled", "canceled"] then some .canceled
    else if normalized = "expired" then some .expired
    else none

/-- `text.includes(part)`. -/
def includes (text part : String) : Bool :=
  decide (part.toList <:+: text.toList)

def mapAlipayStatus (status : Option String) : Option PaymentIntentFinalStatus :=
  match status.map fun text => toUpperCase (trim text) with
  | none => none
  | some normalized =>
    if includes normalized "SUCCESS" || normalized = "S" then some .settled
    else if includes normalized "CANCEL" || includes normalized "CLOSED" then some .canceled
    else if includes normalized "FAIL" then some .failed
    else if includes normalized "EXPIRE" then some .expired
    else none

def mapLianLianStatus (status : Option String) : Option PaymentIntentFinalStatus :=
  match status.map fun text => toUpperCase (trim text) with
  | none => none
  | some normalized =>
    if normalized ∈ ["SUCCESS", "SUCCEED", "PAID", "SETTLED"] then some .settled
    else if normalized ∈ ["FAILED", "FAIL", "ERROR"] then some .failed
    else if normalized ∈ ["CANCELED", "CANCELLED", "CANCEL", "CLOSED"] then some .canceled
    else if normalized ∈ ["EXPIRED", "TIMEOUT"] then some .expired
    else none

/-- `provider.toLowerCase()`. -/
def providerName : PaymentProvider → String
  | .stripe => "stripe"
  | .flutterwave => "flutterwave"
  | .alipay => "alipay"
  | .lianlian => "lianlian"

def fallbackEventId (provider : PaymentProvider) (rawBody : String) : String :=
  s!"{providerName provider}_{runtime.digest rawBody}"

def normalizeStripeEvent (payload : JsRecord) (rawBody : String) : NormalizedWebhookEvent :=
  let eventType := (readString payload "type").getD "stripe.unknown"
  let obj := readObject (readObject payload "data") "object"
  let metadata := readObject obj "metadata"
  { eventId := (readString payload "id").getD (fallbackEventId runtime .stripe rawBody)
    eventType
    status := mapStripeStatus eventType
    providerPaymentId := (readString obj "payment_intent").or (readString obj "id")
    providerReference := readString obj "id"
    idempotencyKey :=
      (readString obj "client_reference_id").or (readString metadata "idempotencyKey")
    amount := readStripeAmount runtime obj
    currency := readString obj "currency" }

def normalizeFlutterwaveEvent (payload : JsRecord) (rawBody : String) : NormalizedWebhookEvent :=
  let data := readObject payload "data"
  { eventId :=
      (((readString payload "id").or (readString data "id")).or (readString data "flw_ref")).getD
        (fallbackEventId runtime .flutterwave rawBody)
    eventType := (readString payload "event").getD "flutterwave.unknown"
    status := mapFlutterwaveStatus (readString data "status")
    providerPaymentId := (readString data "id").or (readString data "flw_ref")
    providerReference := readString data "flw_ref"
    idempotencyKey := readString data "tx_ref"
    amount := readNumber runtime data "amount"
    currency := readString data "currency" }

def normalizeAlipayEvent (payload : JsRecord) (rawBody : String) : NormalizedWebhookEvent :=
  let result := readObject payload "result"
  let paymentAmount := readObject payload "paymentAmount"
  { eventId :=
      ((readString payload "notifyId").or (readString payload "paymentId")).getD
        (fallbackEventId runtime .alipay rawBody)
    eventType :=
      ((readString payload "notifyType").or (readString payload "eventType")).getD "alipay.unknown"
    status :=
      mapAlipayStatus ((readString result "resultStatus").or (readString result "resultCode"))
    providerPaymentId := readString payload "paymentId"
    providerReference := readString payload "paymentId"
    idempotencyKey := readString payload "paymentRequestId"
    amount := readNumber runtime paymentAmount "value"
    currency := readString paymentAmount "currency" }

def normalizeLianLianEvent (payload : JsRecord) (rawBody : String) : NormalizedWebhookEvent :=
  let llTransactionId :=
    (readString payload "ll_transaction_id").or (readString payload "llTransactionId")
  { eventId :=
      (((readString payload "event_id").or (readString payload "ll_transaction_id")).or
        (readString payload "merchant_transaction_id")).getD
          (fallbackEventId runtime .lianlian rawBody)
    eventType :=
      ((readString payload "event_type").or (readString payload "eventType")).getD
        "lianlian.unknown"
    status :=
      mapLianLianStatus
        (((readString payload "status").or (readString payload "payment_result")).or
          (readString payload "result"))
    providerPaymentId := llTransactionId
    providerReference := llTransactionId
    idempotencyKey :=
      (readString payload "merchant_transaction_id").or
        (readString payload "merchantTransactionId")
    amount :=
      orNumber (readNumber runtime payload "payment_amount") (readNumber runtime payload "amount")
    currency := (readString payload "payment_currency").or (readString payload "currency") }

def normalizeEvent (provider : PaymentProvider) (payload : JsRecord) (rawBody : String) :
    NormalizedWebhookEvent :=
  match provider with
  | .stripe => normalizeStripeEvent runtime payload rawBody
  | .flutterwave => normalizeFlutterwaveEvent runtime payload rawBody
  | .alipay => normalizeAlipayEvent runtime payload rawBody
  | .lianlian => normalizeLianLianEvent runtime payload rawBody

end Csms.Billing.Webhooks
