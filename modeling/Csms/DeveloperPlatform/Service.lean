import Csms.Database.Executed
import Csms.Js.Value
import Csms.Table.Upsert

/-!
# The API keys of developers

A request with an API key is counted in a row for its key, its route, its method and the minute
in which it comes.  The rows of the minute are summed up after that, and the request is denied if
the sum is above the limit of the key.
-/

namespace Csms.DeveloperPlatform

open Js Database

structure DeveloperApp where
  (id status : String)
deriving DecidableEq

structure DeveloperApiKey where
  (id appId organizationId keyPrefix secretHash secretSalt : String)
  scopes : JsValue
  rateLimitPerMin : Int
  status : String
  /-- `null` as long as the key has not been used. -/
  lastUsedAt : Option Int

/-- `apiKeyId_route_method_windowStart`. -/
structure UsageKey where
  (apiKeyId route method : String)
  windowStart : Int
deriving DecidableEq

structure DeveloperApiUsage where
  key : UsageKey
  (appId organizationId : String)
  windowEnd : Int
  (requestCount deniedCount : Nat)
  latestReason : Option String
deriving DecidableEq

structure Store where
  apps : Table DeveloperApp DeveloperApp.id
  apiKeys : Table DeveloperApiKey DeveloperApiKey.id
  usage : Table DeveloperApiUsage DeveloperApiUsage.key

namespace Store

variable (store : Store)

def apiKeyOf? (keyPrefix : String) : Option (DeveloperApiKey × DeveloperApp) := do
  let apiKey ← store.apiKeys.rows.find? fun row => row.keyPrefix = keyPrefix
  let app ← store.apps.find? apiKey.appId
  some (apiKey, app)

/-- `_sum.requestCount || 0`. -/
def requestsInWindow (apiKeyId : String) (windowStart : Int) : Nat :=
  (store.usage.rows.map fun row =>
    if row.key.apiKeyId = apiKeyId ∧ row.key.windowStart = windowStart then row.requestCount
    else 0).sum

def requestCountOf (key : UsageKey) : Nat :=
  ((store.usage.find? key).map DeveloperApiUsage.requestCount).getD 0

def deniedCountOf (key : UsageKey) : Nat :=
  ((store.usage.find? key).map DeveloperApiUsage.deniedCount).getD 0

def rateLimitOf? (apiKeyId : String) : Option Int :=
  (store.apiKeys.find? apiKeyId).map DeveloperApiKey.rateLimitPerMin

end Store

inductive UsageQuery
  | apiKey
  | aggregate

inductive UsageWrite
  /-- The upsert of a row of the usage. -/
  | countRequest (key : UsageKey) (appId organizationId : String) (windowEnd : Int)
  | denyRequest (key : UsageKey)
  | touchApiKey (apiKeyId : String) (usedAt : Int)

namespace UsageWrite

def effect : UsageWrite → Store → Option (Store × Unit)
  | countRequest key appId organizationId windowEnd, store =>
    some ({ store with
      usage := store.usage.upsert ⟨key, appId, organizationId, windowEnd, 1, 0, none⟩
        (fun row => { row with requestCount := row.requestCount + 1, latestReason := none })
        fun _ => rfl }, ())
  | denyRequest key, store =>
    (store.usage.find? key).map fun _ =>
      ({ store with
        usage := store.usage.updateWhere (fun row => row.key = key)
          (fun row =>
            { row with
              deniedCount := row.deniedCount + 1
              latestReason := some "RATE_LIMIT_EXCEEDED" })
          fun _ => rfl }, ())
  | touchApiKey apiKeyId usedAt, store =>
    (store.apiKeys.find? apiKeyId).map fun _ =>
      ({ store with
        apiKeys := store.apiKeys.updateWhere (fun row => row.id = apiKeyId)
          (fun row => { row with lastUsedAt := some usedAt }) fun _ => rfl }, ())

def body (write : UsageWrite) : Tx Store Unit Unit :=
  .atomic write.effect

theorem run_body (write : UsageWrite) (store : Store) : write.body.run store = write.effect store :=
  Tx.run_atomic _ store

theorem guarded (write : UsageWrite) : write.body.Guarded (fun _ : Unit => ⊥) [] :=
  Tx.guarded_atomic _

end UsageWrite

inductive ApiKeyException
  | unauthorized (message : String)
  | tooManyRequests (message : String)
  | internal
deriving DecidableEq

abbrev UsageRequest (α : Type) :=
  Request Store UsageQuery UsageWrite (fun _ => Unit) ApiKeyException α

structure ApiKeyCall where
  (rawApiKey route method : String)
  /-- When the window of the request is taken, and when the key is marked as used. -/
  (now usedAt : Int)

structure DeveloperApiKeyContext where
  (apiKeyId appId organizationId : String)
  rateLimitPerMin : Int
  scopes : List String
deriving DecidableEq

structure ParsedApiKey where
  (keyPrefix secret : String)
deriving DecidableEq

def parseApiKey (rawApiKey : String) : Except ApiKeyException ParsedApiKey :=
  let normalized := trim rawApiKey
  if normalized = "" then .error (.unauthorized "Missing API key")
  else
    let characters := normalized.toList
    match characters.findIdx? (· = '.') with
    | none => .error (.unauthorized "Invalid API key format")
    | some separatorIndex =>
      if separatorIndex = 0 ∨ separatorIndex + 1 = characters.length then
        .error (.unauthorized "Invalid API key format")
      else
        .ok ⟨trim (String.ofList (characters.take separatorIndex)),
          trim (String.ofList (characters.drop (separatorIndex + 1)))⟩

def normalizeScopesFromJson : JsValue → List String
  | .array items =>
    (items.map fun entry => match entry with
      | .string text => trim text
      | _ => "").filter (· ≠ "")
  | _ => []

/-- Minutes begin with a second zero in every time zone. -/
def floorToMinute (date : Int) : Int :=
  date - date % 60000

section Requests

variable (hashSecret : String → String → String)

def enforceRateLimit (call : ApiKeyCall) (apiKey : DeveloperApiKey) : UsageRequest Unit := do
  let windowStart := floorToMinute call.now
  let key : UsageKey := ⟨apiKey.id, call.route, call.method, windowStart⟩
  Request.commit (.countRequest key apiKey.appId apiKey.organizationId (windowStart + 60000))
    .internal
  let requestsInWindow ← Request.read .aggregate fun store =>
    store.requestsInWindow apiKey.id windowStart
  if apiKey.rateLimitPerMin < requestsInWindow then do
    Request.commit (.denyRequest key) .internal
    .throw (.tooManyRequests "API key rate limit exceeded for current minute window")
  else pure ()

/-- What is checked before the request is counted. -/
def checkApiKey (secret : String) (found : Option (DeveloperApiKey × DeveloperApp)) :
    Except ApiKeyException DeveloperApiKey :=
  match found with
  | none => .error (.unauthorized "Invalid API key")
  | some (apiKey, app) =>
    if apiKey.status ≠ "ACTIVE" then .error (.unauthorized "Invalid API key")
    else if app.status ≠ "ACTIVE" then
      .error (.unauthorized "Developer app is not active")
    else if hashSecret secret apiKey.secretSalt ≠ apiKey.secretHash then
      .error (.unauthorized "Invalid API key")
    else .ok apiKey

def authenticateApiKey (call : ApiKeyCall) : UsageRequest DeveloperApiKeyContext := do
  let parsed ← Request.ofExcept (parseApiKey call.rawApiKey)
  let found ← Request.read .apiKey fun store => store.apiKeyOf? parsed.keyPrefix
  let apiKey ← Request.ofExcept (checkApiKey hashSecret parsed.secret found)
  enforceRateLimit call apiKey
  Request.commit (.touchApiKey apiKey.id call.usedAt) .internal
  pure
    { apiKeyId := apiKey.id
      appId := apiKey.appId
      organizationId := apiKey.organizationId
      rateLimitPerMin := apiKey.rateLimitPerMin
      scopes := normalizeScopesFromJson apiKey.scopes }

end Requests

/-- The requests and the database. -/
abbrev UsageState :=
  ReadCommitted Store Unit UsageQuery UsageWrite (fun _ => Unit) ApiKeyException ApiKeyCall
    DeveloperApiKeyContext

/-- Requests with whatever keys, in any order and at any times. -/
abbrev UsageState.Reachable (hashSecret : String → String → String) (store : Store)
    (state : UsageState) : Prop :=
  ReadCommitted.Reachable UsageWrite.body (authenticateApiKey hashSecret) Conditions.none
    (ReadCommitted.initial store) state

end Csms.DeveloperPlatform
