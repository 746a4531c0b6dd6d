import Csms.Billing.Webhooks.Event

/-!
# Event ids of payment webhooks

The event id of a notification is the first of the identifiers it carries, and
these are of three kinds: the id of the notification itself, ids of the payment
it is about, and a digest of its body.  Two notifications of one payment get the
same event id exactly when both fall back to the same id of the payment.
-/

namespace Csms.Billing.Webhooks

open Js

/-- What an identifier of a notification identifies. -/
inductive IdKind where
  | notification
  /-- A payment, by the field under this path. -/
  | payment (field : String)
  | body
  deriving DecidableEq

/-- The fields that can give the event id, in order. -/
def idFields (provider : PaymentProvider) (payload : JsRecord) : List (IdKind × Option String) :=
  match provider with
  | .stripe => [(.notification, readString payload "id")]
  | .flutterwave =>
    [(.notification, readString payload "id"),
      (.payment "data.id", readString (readObject payload "data") "id"),
      (.payment "data.flw_ref", readString (readObject payload "data") "flw_ref")]
  | .alipay =>
    [(.notification, readString payload "notifyId"),
      (.payment "paymentId", readString payload "paymentId")]
  | .lianlian =>
    [(.notification, readString payload "event_id"),
      (.payment "ll_transaction_id", readString payload "ll_transaction_id"),
      (.payment "merchant_transaction_id", readString payload "merchant_transaction_id")]

/-- The fields that are there. -/
def givenIds (provider : PaymentProvider) (payload : JsRecord) : List (IdKind × String) :=
  (idFields provider payload).filterMap fun field => field.2.map fun text => (field.1, text)

def idKind (provider : PaymentProvider) (payload : JsRecord) : IdKind :=
  ((givenIds provider payload).head?.map Prod.fst).getD .body

def reportedStatus (provider : PaymentProvider) (payload : JsRecord) : Option String :=
  match provider with
  | .stripe => readString payload "type"
  | .flutterwave => readString (readObject payload "data") "status"
  | .alipay =>
    (readString (readObject payload "result") "resultStatus").or
      (readString (readObject payload "result") "resultCode")
  | .lianlian =>
    ((readString payload "status").or (readString payload "payment_result")).or
      (readString payload "result")

section

variable (runtime : Runtime) (provider : PaymentProvider)

/-- The payload of an authentic notification is its signed body. -/
def payloadOf (rawBody : String) : JsRecord :=
  normalizePayload runtime .undefined rawBody

def eventOf (rawBody : String) : NormalizedWebhookEvent :=
  normalizeEvent runtime provider (payloadOf runtime rawBody) rawBody

def identifiers (rawBody : String) : List (IdKind × String) :=
  givenIds provider (payloadOf runtime rawBody) ++
    [(.body, fallbackEventId runtime provider rawBody)]

/-- What is known of two notifications of one payment: each has its own id, they
agree on the ids of the payment, the digest tells their bodies apart, and
identifiers of different kinds are different texts. -/
structure OnePayment (first second : String) : Prop where
  ownId : ∀ text other, (IdKind.notification, text) ∈ identifiers runtime provider first →
    (IdKind.notification, other) ∈ identifiers runtime provider second → text ≠ other
  paymentId : ∀ field text other,
    (IdKind.payment field, text) ∈ identifiers runtime provider first →
      (IdKind.payment field, other) ∈ identifiers runtime provider second → text = other
  digest : runtime.digest first = runtime.digest second → first = second
  apart : ∀ kind other text,
    (kind, text) ∈ identifiers runtime provider first →
      (other, text) ∈ identifiers runtime provider second → kind = other

/-- Reading the chain `a || b || c`, one field at a time. -/
theorem exists_givenIds_eq_cons (fields : List (IdKind × Option String)) (fallback : String) :
    ∃ rest, (fields.filterMap fun field => field.2.map fun text => (field.1, text)) ++
          [(IdKind.body, fallback)] =
        (((fields.filterMap fun field => field.2.map fun text => (field.1, text)).head?.map
            Prod.fst).getD .body,
          (fields.foldr (fun field later => field.2.or later) none).getD fallback) :: rest := by
  induction fields with
  | nil => exact ⟨[], rfl⟩
  | cons field fields ih =>
    rcases field with ⟨kind, _ | text⟩
    · simpa using ih
    · exact ⟨_, rfl⟩

theorem eventId_eventOf (rawBody : String) : (eventOf runtime provider rawBody).eventId =
      ((idFields provider (payloadOf runtime rawBody)).foldr
        (fun field later => field.2.or later) none).getD
          (fallbackEventId runtime provider rawBody) := by
  cases provider <;>
    simp [eventOf, normalizeEvent, normalizeStripeEvent, normalizeFlutterwaveEvent,
      normalizeAlipayEvent, normalizeLianLianEvent, idFields, Option.or_assoc]

theorem eventId_mem_identifiers (rawBody : String) :
    (idKind provider (payloadOf runtime rawBody), (eventOf runtime provider rawBody).eventId) ∈
      identifiers runtime provider rawBody := by
  rcases exists_givenIds_eq_cons (idFields provider (payloadOf runtime rawBody))
    (fallbackEventId runtime provider rawBody) with ⟨rest, chain⟩
  rw [identifiers, givenIds, chain, eventId_eventOf]
  exact List.mem_cons_self

theorem eq_fallbackEventId_of_mem {rawBody text : String}
    (member : (IdKind.body, text) ∈ identifiers runtime provider rawBody) :
    text = fallbackEventId runtime provider rawBody := by
  rw [identifiers, List.mem_append] at member
  rcases member with given | isFallback
  · cases provider <;> simp [givenIds, idFields] at given
  · simpa using isFallback

theorem fallbackEventId_injective {first second : String}
    (same : fallbackEventId runtime provider first = fallbackEventId runtime provider second) :
    runtime.digest first = runtime.digest second := by
  rw [fallbackEventId, fallbackEventId] at same
  exact (String.append_right_inj _).mp same

/-- Two notifications of one payment that report different statuses get different
event ids exactly when they do not fall back to the same id of the payment. -/
theorem eventId_ne_iff {first second : String}
    (notifications : OnePayment runtime provider first second)
    (differ : reportedStatus provider (payloadOf runtime first) ≠
      reportedStatus provider (payloadOf runtime second)) :
    (eventOf runtime provider first).eventId ≠ (eventOf runtime provider second).eventId ↔
      ∀ field, idKind provider (payloadOf runtime first) = .payment field →
        idKind provider (payloadOf runtime second) ≠ .payment field := by
  have firstMem := eventId_mem_identifiers runtime provider first
  have secondMem := eventId_mem_identifiers runtime provider second
  constructor
  · intro different field firstKind secondKind
    rw [firstKind] at firstMem
    rw [secondKind] at secondMem
    exact different (notifications.paymentId field _ _ firstMem secondMem)
  · intro noPayment same
    rw [← same] at secondMem
    have sameKind := notifications.apart _ _ _ firstMem secondMem
    rcases kind : idKind provider (payloadOf runtime first) with _ | field | _
    · rw [kind] at firstMem sameKind
      rw [← sameKind] at secondMem
      exact notifications.ownId _ _ firstMem secondMem rfl
    · exact noPayment field kind (sameKind ▸ kind)
    · rw [kind] at firstMem sameKind
      rw [← sameKind] at secondMem
      have firstText := eq_fallbackEventId_of_mem runtime provider firstMem
      have secondText := eq_fallbackEventId_of_mem runtime provider secondMem
      have sameDigest := fallbackEventId_injective runtime provider
        (firstText.symm.trans secondText)
      rw [notifications.digest sameDigest] at differ
      exact differ rfl

end

namespace PendingPayment

def pendingBody : String :=
  "\x7b\"event\":\"charge.completed\",\"data\":\x7b\"flw_ref\":\"FLW-1\",\"status\":\"pending\"\x7d\x7d"

def successfulBody : String :=
  "\x7b\"event\":\"charge.completed\",\"data\":\x7b\"flw_ref\":\"FLW-1\",\"status\":\"successful\"\x7d\x7d"

/-- The payload of a Flutterwave charge. -/
def charge (status : String) : JsValue :=
  .object ((JsRecord.empty.with "event" (.string "charge.completed")).with "data"
    (.object ((JsRecord.empty.with "flw_ref" (.string "FLW-1")).with "status" (.string status))))

def parseJson (text : String) : Option JsValue :=
  if text = pendingBody then some (charge "pending")
  else if text = successfulBody then some (charge "successful")
  else none

/-- SHA-256 on the two bodies. -/
def digest (text : String) : String :=
  if text = pendingBody then "fd2a5eb54d67bab20cc730db98c5e6e4"
  else if text = successfulBody then "4cabca2a106266ea65eee944eb0fc55b"
  else ""

def runtime : Runtime where
  parseJson := parseJson
  digest := digest
  engine :=
    { localeCompare := fun _ _ => 0
      parseDateText := fun _ => none
      coerceNumber := fun _ => .nan }

theorem identifiers_pending : identifiers runtime .flutterwave pendingBody =
      [(.payment "data.flw_ref", "FLW-1"),
        (.body, "flutterwave_fd2a5eb54d67bab20cc730db98c5e6e4")] := by
  decide +kernel

theorem identifiers_successful : identifiers runtime .flutterwave successfulBody =
      [(.payment "data.flw_ref", "FLW-1"),
        (.body, "flutterwave_4cabca2a106266ea65eee944eb0fc55b")] := by
  decide +kernel

theorem onePayment : OnePayment runtime .flutterwave pendingBody successfulBody where
  ownId := by
    intro text other first
    simp [identifiers_pending] at first
  paymentId := by
    intro field text other first second
    simp only [identifiers_pending, identifiers_successful, List.mem_cons, Prod.mk.injEq,
      reduceCtorEq, false_and, List.not_mem_nil, or_false] at first second
    rw [first.2, second.2]
  digest := by
    intro same
    have differ : digest pendingBody ≠ digest successfulBody := by decide +kernel
    exact absurd same differ
  apart := by
    intro kind other text first second
    simp only [identifiers_pending, identifiers_successful, List.mem_cons, Prod.mk.injEq,
      List.not_mem_nil, or_false] at first second
    rcases first with ⟨rfl, rfl⟩ | ⟨rfl, rfl⟩ <;> rcases second with ⟨rfl, text⟩ | ⟨rfl, text⟩
    · rfl
    · contradiction
    · contradiction
    · rfl

theorem reportedStatus_ne : reportedStatus .flutterwave (payloadOf runtime pendingBody) ≠
      reportedStatus .flutterwave (payloadOf runtime successfulBody) := by
  decide +kernel

end PendingPayment

open PendingPayment in
theorem eventId_ne_iff_pendingPayment : (eventOf runtime .flutterwave pendingBody).eventId ≠
        (eventOf runtime .flutterwave successfulBody).eventId ↔
      ∀ field, idKind .flutterwave (payloadOf runtime pendingBody) = .payment field →
        idKind .flutterwave (payloadOf runtime successfulBody) ≠ .payment field :=
  eventId_ne_iff runtime .flutterwave onePayment reportedStatus_ne

open PendingPayment in
/-- The success of a payment that was pending gets the event id of the pending
notification. -/
theorem pendingPayment_swallows_success :
    OnePayment runtime .flutterwave pendingBody successfulBody ∧
      (eventOf runtime .flutterwave pendingBody).status = none ∧
        (eventOf runtime .flutterwave successfulBody).status = some .settled ∧
          (eventOf runtime .flutterwave pendingBody).eventId =
            (eventOf runtime .flutterwave successfulBody).eventId :=
  ⟨onePayment, by decide +kernel, by decide +kernel, by decide +kernel⟩

end Csms.Billing.Webhooks
