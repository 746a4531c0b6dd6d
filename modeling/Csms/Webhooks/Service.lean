import Csms.Commands.Core
import Csms.Database.Executed
import Csms.Js.Value
import Csms.Table.Upsert

/-!
# The webhook service

Events are dispatched to the webhooks that subscribe to them, and deliveries that failed are
attempted again by the retry cycles of the processes.
-/

/-!
## Webhooks and their deliveries

The rows of webhooks and of deliveries, what their receivers have been sent, and the
statements of the service.
-/

namespace Csms.Webhooks

open Js Database

inductive DeliveryStatus
  | pending
  | success
  | failed
  | deadLetter
deriving DecidableEq

/-- It is not attempted again. -/
def DeliveryStatus.isTerminal : DeliveryStatus → Bool
  | success | deadLetter => true
  | pending | failed => false

structure Webhook where
  id : String
  organizationId : Option String
  (url events : String)
  active : Bool
  secret : Option String
  (timeoutMs maxRetries : Nat)
deriving DecidableEq

structure WebhookDelivery where
  (id webhookId eventType : String)
  payload : JsRecord
  status : DeliveryStatus
  attempts : Nat
  (nextAttemptAt deliveredAt : Option Int)
  lastError : Option String
  responseStatus : Option Nat
  responseBody : Option String

/-- What becomes of a `fetch`. -/
inductive HttpOutcome
  | response (status : Nat) (body : String)
  /-- The status has come, and the body cannot be read. -/
  | unread (status : Nat) (message : String)
  | failure (message : String)
deriving DecidableEq

/-- `response.ok`, with a body. -/
def HttpOutcome.isSuccess : HttpOutcome → Bool
  | response status _ => decide (200 ≤ status) && decide (status < 300)
  | _ => false

structure Post where
  deliveryId : String
  /-- The attempts that the delivery had when it was read. -/
  attempts : Nat
  (url eventType : String)
  signature : Option String
  timestamp : Int
  payload : JsRecord
  timeoutMs : Nat
  outcome : HttpOutcome

/-- The database, and what has been posted to the receivers. -/
structure Store where
  webhooks : Table Webhook Webhook.id
  deliveries : Table WebhookDelivery WebhookDelivery.id
  posts : List Post

namespace Store

variable (store : Store)

def deliveryWithWebhook? (deliveryId : String) : Option (WebhookDelivery × Webhook) := do
  let delivery ← store.deliveries.find? deliveryId
  let webhook ← store.webhooks.find? delivery.webhookId
  pure (delivery, webhook)

/-- What receivers have made of the posts of the delivery, in their order. -/
def outcomesOf (deliveryId : String) : List HttpOutcome :=
  (store.posts.filter fun post => post.deliveryId = deliveryId).map Post.outcome

def isPosted (deliveryId : String) (attempts : Nat) : Bool :=
  store.posts.any fun post => post.deliveryId = deliveryId && post.attempts = attempts

/-- The delivery still has so many attempts, and will be attempted again. -/
def isOpen (deliveryId : String) (attempts : Nat) : Bool :=
  (store.deliveries.find? deliveryId).any fun row =>
    row.attempts = attempts && !row.status.isTerminal

/-- The deliveries that a retry cycle works on. -/
def dueDeliveries (now : Int) : List WebhookDelivery :=
  (store.deliveries.rows.filter fun row =>
    !row.status.isTerminal && row.nextAttemptAt.all (· ≤ now)).take 100

end Store

/-- `data` of the update after an attempt. -/
structure AttemptRecord where
  attempts : Nat
  status : DeliveryStatus
  deliveredAt : Option Int
  lastError : Option String
  responseStatus : Option Nat
  responseBody : Option String
  nextAttemptAt : Option Int

def AttemptRecord.apply (data : AttemptRecord) (row : WebhookDelivery) : WebhookDelivery :=
  { row with
    attempts := data.attempts
    status := data.status
    deliveredAt := data.deliveredAt
    lastError := data.lastError
    responseStatus := data.responseStatus
    responseBody := data.responseBody
    nextAttemptAt := data.nextAttemptAt }

theorem AttemptRecord.id_apply (data : AttemptRecord) (row : WebhookDelivery) :
    (data.apply row).id = row.id :=
  rfl

/-- A post is one as well: it is made, or the receiver is not reached. -/
inductive WebhookWrite
  | createDelivery (row : WebhookDelivery)
  | post (sent : Post)
  /-- Whether the attempt was posted as well. -/
  | updateDelivery (deliveryId : String) (posted : Bool) (data : AttemptRecord)

namespace WebhookWrite

def effect : WebhookWrite → Store → Option (Store × Unit)
  | createDelivery row, store =>
    (store.deliveries.insert? row).map fun deliveries => ({ store with deliveries }, ())
  | post sent, store => some ({ store with posts := store.posts ++ [sent] }, ())
  | updateDelivery deliveryId _ data, store =>
    (store.deliveries.find? deliveryId).map fun _ =>
      ({ store with
        deliveries := store.deliveries.updateWhere (fun row => row.id = deliveryId) data.apply
          data.id_apply }, ())

def body (write : WebhookWrite) : Tx Store Unit Unit :=
  .atomic write.effect

theorem run_body (write : WebhookWrite) (store : Store) :
    write.body.run store = write.effect store :=
  Tx.run_atomic _ store

theorem webhooks_of_effect {write : WebhookWrite} {store after : Store}
    (happens : write.effect store = some (after, ())) : after.webhooks = store.webhooks := by
  cases write with
  | createDelivery row =>
    obtain ⟨deliveries, _, created⟩ := Option.map_eq_some_iff.mp happens
    cases created
    rfl
  | post sent =>
    cases happens
    rfl
  | updateDelivery deliveryId posted data =>
    obtain ⟨row, _, updated⟩ := Option.map_eq_some_iff.mp happens
    cases updated
    rfl

theorem guarded (write : WebhookWrite) : write.body.Guarded (fun _ : Unit => ⊥) [] :=
  Tx.guarded_atomic _

end WebhookWrite

/-- What a request has besides its arguments, and what it gets from outside. -/
structure WebhookCall where
  context : Option TenantContext
  now : Int
  /-- The ids that the database chooses for new deliveries. -/
  newId : Nat → String
  /-- The hexadecimal HMAC of a delivery. -/
  sign : (secret id eventType : String) → JsRecord → String
  /-- What becomes of the post of a delivery, if the receiver is reached. -/
  outcome : (deliveryId : String) → HttpOutcome

inductive WebhookQuery
  | webhook
  | webhooks
  | delivery
  | dueDeliveries

abbrev WebhookRequest (α : Type) :=
  Request Store WebhookQuery WebhookWrite (fun _ => Unit) HttpException α

/-- `normalizeEvents` of a text. -/
def normalizeEvents (events : String) : List String :=
  distinctTexts ((events.toList.splitOn ',').map String.ofList)

def Webhook.subscribesTo (webhook : Webhook) (eventType : String) : Bool :=
  let subscribed := normalizeEvents webhook.events
  subscribed.contains "*" || subscribed.contains eventType

section

variable (call : WebhookCall)

def resolveTenantId : Option String :=
  TenantContext.resolve call.context none

def attemptRecord (delivery : WebhookDelivery) (hook : Webhook) (outcome : HttpOutcome) :
    AttemptRecord :=
  let nextAttempt := delivery.attempts + 1
  let unsuccessful := if nextAttempt > hook.maxRetries then .deadLetter else .failed
  let status := if outcome.isSuccess then .success else unsuccessful
  let nextDelayMs : Int := min 300000 (5000 * 2 ^ (nextAttempt - 1))
  { attempts := nextAttempt
    status
    deliveredAt := if status = .success then some call.now else none
    lastError :=
      match outcome with
      | .response code _ =>
        if outcome.isSuccess then none else some ("HTTP " ++ toString code)
      | .unread _ message | .failure message => some message
    responseStatus :=
      match outcome with
      | .response code _ | .unread code _ => some code
      | .failure _ => none
    responseBody :=
      match outcome with
      | .response _ body => some body
      | .unread .. | .failure _ => none
    nextAttemptAt := if status = .failed then some (call.now + nextDelayMs) else none }

section

variable {delivery : WebhookDelivery} {hook : Webhook} {outcome : HttpOutcome}

theorem status_attemptRecord_of_isSuccess (isSuccess : outcome.isSuccess = true) :
    (attemptRecord call delivery hook outcome).status = .success :=
  if_pos isSuccess

/-- There will be another attempt only within the limit. -/
theorem attempts_attemptRecord_le
    (isOpen : (attemptRecord call delivery hook outcome).status.isTerminal = false) :
    (attemptRecord call delivery hook outcome).attempts ≤ hook.maxRetries := by
  dsimp only [attemptRecord] at isOpen ⊢
  split at isOpen
  · contradiction
  · split at isOpen
    · contradiction
    · omega

end

/-- What is sent to the receiver. -/
def postOf (delivery : WebhookDelivery) (hook : Webhook) : Post where
  deliveryId := delivery.id
  attempts := delivery.attempts
  url := hook.url
  eventType := delivery.eventType
  signature := (orText hook.secret none).map fun secret =>
    call.sign secret delivery.id delivery.eventType delivery.payload
  timestamp := call.now
  payload := delivery.payload
  timeoutMs := max 1000 (if hook.timeoutMs = 0 then 5000 else hook.timeoutMs)
  outcome := call.outcome delivery.id

/-- The exception of the update is handed back: the retry cycle catches it. -/
def recordAttempt (delivery : WebhookDelivery) (hook : Webhook) (posted : Bool)
    (outcome : HttpOutcome) : WebhookRequest (Except HttpException Unit) :=
  .transact (.updateDelivery delivery.id posted (attemptRecord call delivery hook outcome)) fun
    | some () => pure (.ok ())
    | none => pure (.error .internal)

def processDelivery (deliveryId : String) : WebhookRequest (Except HttpException Unit) := do
  let found ← Request.read .delivery fun store => store.deliveryWithWebhook? deliveryId
  match found with
  | none => pure (.ok ())
  | some (delivery, hook) =>
    if !hook.active then pure (.ok ())
    else
      .transact (.post (postOf call delivery hook)) fun
        | some () => recordAttempt call delivery hook true (call.outcome delivery.id)
        | none => recordAttempt call delivery hook false (.failure "fetch failed")

/-- One after the other, until one throws. -/
def processDeliveries : List String → WebhookRequest (Except HttpException Unit)
  | [] => pure (.ok ())
  | deliveryId :: deliveryIds => do
    let processed ← processDelivery call deliveryId
    match processed with
    | .ok () => processDeliveries deliveryIds
    | .error exception => pure (.error exception)

def retryPendingDeliveries : WebhookRequest Unit := do
  let due ← Request.read .dueDeliveries fun store => store.dueDeliveries call.now
  let _ ← processDeliveries call (due.map WebhookDelivery.id)
  pure ()

def Store.scopedHooks (store : Store) (organizationId : Option String) : List Webhook :=
  match orText organizationId none with
  | some organizationId => store.webhooks.rows.filter fun hook =>
    hook.active && (hook.organizationId = some organizationId || hook.organizationId.isNone)
  | none => store.webhooks.rows.filter Webhook.active

def newDelivery (index : Nat) (hook : Webhook) (eventType : String) (payload : JsRecord) :
    WebhookDelivery where
  id := call.newId index
  webhookId := hook.id
  eventType := eventType
  payload := payload
  status := .pending
  attempts := 0
  nextAttemptAt := some call.now
  deliveredAt := none
  lastError := none
  responseStatus := none
  responseBody := none

/-- The ids of the deliveries for the webhooks. -/
def createDeliveries (eventType : String) (payload : JsRecord) :
    Nat → List Webhook → WebhookRequest (List String)
  | _, [] => pure []
  | index, hook :: hooks => do
    let created := newDelivery call index hook eventType payload
    let _ ← Request.commit (.createDelivery created) .internal
    let deliveryIds ← createDeliveries eventType payload (index + 1) hooks
    pure (created.id :: deliveryIds)

/-- How many deliveries there were. -/
def dispatchEvent (eventType : String) (payload : JsRecord) (organizationId : Option String) :
    WebhookRequest Nat := do
  let hooks ← Request.read .webhooks fun store => store.scopedHooks organizationId
  let matchingHooks := hooks.filter fun hook => hook.subscribesTo eventType
  if matchingHooks.isEmpty then pure 0
  else do
    let deliveryIds ← createDeliveries call eventType payload 0 matchingHooks
    let processed ← processDeliveries call deliveryIds
    Request.ofExcept processed
    pure deliveryIds.length

def Store.webhookById? (store : Store) (tenantId : Option String) (id : String) : Option Webhook :=
  (store.webhooks.find? id).filter fun webhook =>
    (orText tenantId none).all fun tenantId => webhook.organizationId = some tenantId

def testWebhook (id : String) : WebhookRequest (Option String) := do
  let found ← Request.read .webhook fun store => store.webhookById? (resolveTenantId call) id
  match found with
  | none => pure none
  | some webhook => do
    let payload := ((JsRecord.empty.with "webhookId" (.string webhook.id)).with "timestamp"
      (.date (some call.now))).with "probe" (.boolean true)
    let _ ← dispatchEvent call "webhook.test" payload (orText webhook.organizationId none)
    pure (some webhook.id)

end

inductive WebhookOperation
  | dispatchEvent (eventType : String) (payload : JsRecord) (organizationId : Option String)
  | testWebhook (id : String)
  | retryPendingDeliveries

structure WebhookAction where
  call : WebhookCall
  operation : WebhookOperation

def WebhookOperation.program (call : WebhookCall) : WebhookOperation → WebhookRequest Unit
  | dispatchEvent eventType payload organizationId => do
    let _ ← Webhooks.dispatchEvent call eventType payload organizationId
    pure ()
  | testWebhook id => do
    let _ ← Webhooks.testWebhook call id
    pure ()
  | retryPendingDeliveries => Webhooks.retryPendingDeliveries call

def WebhookAction.program (action : WebhookAction) : WebhookRequest Unit :=
  action.operation.program action.call

/-- The services of all processes, and the database. -/
abbrev WebhookState :=
  ReadCommitted Store Unit WebhookQuery WebhookWrite (fun _ => Unit) HttpException WebhookAction Unit

abbrev WebhookState.Reachable
    (conditions : Conditions Store WebhookQuery WebhookWrite WebhookAction) (store : Store)
    (state : WebhookState) : Prop :=
  ReadCommitted.Reachable WebhookWrite.body WebhookAction.program conditions
    (ReadCommitted.initial store) state

namespace Sample

def hook (id : String) (organizationId : Option String) (events : String) : Webhook where
  id := id
  organizationId := organizationId
  url := "https://receiver.test"
  events := events
  active := true
  secret := none
  timeoutMs := 5000
  maxRetries := 0

def store : Store where
  webhooks := { rows := [hook "hook" (some "acme") "*"], nodup := by decide }
  deliveries := Table.empty
  posts := []

def call : WebhookCall where
  context := none
  now := 1000
  newId _ := "delivery"
  sign _ _ _ _ := ""
  outcome _ := .response 200 ""

def after (store : Store) (conditions : Conditions Store WebhookQuery WebhookWrite WebhookAction)
    (events : List (DatabaseEvent WebhookAction)) : Option WebhookState :=
  events.foldlM (ReadCommitted.next WebhookWrite.body WebhookAction.program conditions)
    (ReadCommitted.initial store)

end Sample

end Csms.Webhooks
