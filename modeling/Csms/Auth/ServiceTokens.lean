import Csms.Auth.Team.Input
import Csms.Js.Value

/-!
# Tokens of service accounts

The scopes of the token that a service account gets, and the guard of the endpoints that need
scopes.  Issuer and guard bring scopes in one form, the texts of which are trimmed and not empty,
and what is in that form stays as it is.
-/

namespace Csms.Auth

open Js

structure ServiceAccount where
  (id clientId secretHash secretSalt : String)
  /-- A JSON column. -/
  scopes : JsValue
  status : String

structure ServiceTokenRuntime where
  /-- The secret, the salt and the expected hash. -/
  verifyServiceSecret : String → String → String → Bool
  /-- `String(value)` of what is not a text. -/
  coerceText : JsValue → String

/-- `String(value)`. -/
def ServiceTokenRuntime.string (runtime : ServiceTokenRuntime) : JsValue → String
  | .string text => text
  | value => runtime.coerceText value

/-- The payload of a token, and of the request that comes with it. -/
structure ServiceClaims where
  (sub clientId : String)
  scopes : List String
  type : String

def ServiceClaims.record (claims : ServiceClaims) : JsRecord :=
  fun name =>
    if name = "sub" then .string claims.sub
    else if name = "clientId" then .string claims.clientId
    else if name = "scopes" then .array (claims.scopes.map .string)
    else if name = "type" then .string claims.type
    else .undefined

section Scopes

variable (runtime : ServiceTokenRuntime)

def normalizeScopes : JsValue → List String
  | .string text =>
    ((text.toList.splitOn ' ').map fun part => trim (String.ofList part)).filter (· ≠ "")
  | .array items => (items.map fun item => trim (runtime.string item)).filter (· ≠ "")
  | _ => []

def issueServiceToken (accounts : Table ServiceAccount ServiceAccount.clientId)
    (clientId clientSecret : String) (scope : Option String) : Except AuthException ServiceClaims :=
  match (accounts.find? clientId).filter fun account => account.status = "ACTIVE" with
  | none => .error (.unauthorized "Invalid or inactive service account")
  | some account =>
    if runtime.verifyServiceSecret clientSecret account.secretSalt account.secretHash then
      let requestedScopes := normalizeScopes runtime (scope.elim .undefined .string)
      let allowedScopes := normalizeScopes runtime account.scopes
      .ok
        { sub := account.id
          clientId := account.clientId
          scopes := if requestedScopes = [] then allowedScopes else requestedScopes
          type := "service" }
    else .error (.unauthorized "Invalid service credentials")

/-- `canActivate` of the `ServiceScopeGuard`. -/
def ServiceScopeGuard.canActivate (requiredScopes : List String) (service : JsRecord) :
    Except AuthException Bool :=
  if requiredScopes = [] then .ok true
  else
    let granted := normalizeScopes runtime ((service "scopes").nullish (service "scope"))
    if granted = [] then .error (.unauthorized "Missing service scopes")
    else if requiredScopes.all granted.contains then .ok true
    else .error (.unauthorized "Insufficient service scopes")

end Scopes

variable {runtime : ServiceTokenRuntime}

theorem isNormal_of_mem_normalizeScopes {value : JsValue} {scope : String}
    (member : scope ∈ normalizeScopes runtime value) : trim scope = scope ∧ scope ≠ "" := by
  cases value with
  | string text =>
    obtain ⟨isPart, notEmpty⟩ := List.mem_filter.mp member
    obtain ⟨part, _, rfl⟩ := List.mem_map.mp isPart
    exact ⟨trim_trim _, of_decide_eq_true notEmpty⟩
  | array items =>
    obtain ⟨isItem, notEmpty⟩ := List.mem_filter.mp member
    obtain ⟨item, _, rfl⟩ := List.mem_map.mp isItem
    exact ⟨trim_trim _, of_decide_eq_true notEmpty⟩
  | _ => exact absurd member List.not_mem_nil

/-- What issuer or guard has normalised stays as it is. -/
theorem normalizeScopes_normalizeScopes (value : JsValue) :
    normalizeScopes runtime (.array ((normalizeScopes runtime value).map .string)) =
      normalizeScopes runtime value := by
  have trims : ((normalizeScopes runtime value).map JsValue.string).map
      (fun item => trim (runtime.string item)) = normalizeScopes runtime value := by
    rw [List.map_map]
    exact (List.map_congr_left fun scope member =>
      (isNormal_of_mem_normalizeScopes member).1).trans (List.map_id _)
  rw [normalizeScopes, trims, List.filter_eq_self]
  exact fun scope member => decide_eq_true (isNormal_of_mem_normalizeScopes member).2

/-- What an issued token grants is what it says. -/
theorem ServiceScopeGuard.canActivate_eq_ok_iff {requiredScopes : List String} {value : JsValue}
    {claims : ServiceClaims} (issued : claims.scopes = normalizeScopes runtime value) :
    ServiceScopeGuard.canActivate runtime requiredScopes claims.record = .ok true ↔
      requiredScopes ⊆ claims.scopes := by
  have granted : normalizeScopes runtime
      ((claims.record "scopes").nullish (claims.record "scope")) = claims.scopes := by
    change normalizeScopes runtime (.array (claims.scopes.map .string)) = _
    rw [issued, normalizeScopes_normalizeScopes]
  by_cases needsNone : requiredScopes = []
  · simp [ServiceScopeGuard.canActivate, needsNone]
  · rw [ServiceScopeGuard.canActivate, if_neg needsNone, granted]
    by_cases noScopes : claims.scopes = []
    · simp [noScopes, needsNone]
    · rw [if_neg noScopes]
      by_cases hasAll : requiredScopes.all claims.scopes.contains = true
      · rw [if_pos hasAll]
        exact iff_of_true rfl fun scope member => by
          simpa using List.all_eq_true.mp hasAll scope member
      · rw [if_neg hasAll]
        refine iff_of_false (by rintro ⟨⟩) fun subset => hasAll ?_
        exact List.all_eq_true.mpr fun scope member => by simpa using subset member

/-- The scopes of a token are those that were asked for, or else those of the account. -/
theorem of_issueServiceToken {accounts : Table ServiceAccount ServiceAccount.clientId}
    {clientId clientSecret : String} {scope : Option String} {account : ServiceAccount}
    {claims : ServiceClaims} (found : accounts.find? clientId = some account)
    (issued : issueServiceToken runtime accounts clientId clientSecret scope = .ok claims) :
    claims.scopes =
      if normalizeScopes runtime (scope.elim .undefined .string) = [] then
        normalizeScopes runtime account.scopes
      else normalizeScopes runtime (scope.elim .undefined .string) := by
  unfold issueServiceToken at issued
  rw [found] at issued
  split at issued
  · contradiction
  · rename_i other isActive
    obtain rfl := Option.some.inj (Option.filter_eq_some_iff.mp isActive).1
    split at issued
    · cases issued
      rfl
    · contradiction

/-- A token holds its account's scopes only, and opens nothing else, if the scopes that were
asked for are all the account's. -/
theorem withinAccount_iff_requested {accounts : Table ServiceAccount ServiceAccount.clientId}
    {clientId clientSecret : String} {scope : Option String} {account : ServiceAccount}
    {claims : ServiceClaims} (found : accounts.find? clientId = some account)
    (issued : issueServiceToken runtime accounts clientId clientSecret scope = .ok claims) :
    (claims.scopes ⊆ normalizeScopes runtime account.scopes ∧ ∀ requiredScopes,
          ServiceScopeGuard.canActivate runtime requiredScopes claims.record = .ok true →
            requiredScopes ⊆ normalizeScopes runtime account.scopes) ↔
      normalizeScopes runtime (scope.elim .undefined .string) ⊆
        normalizeScopes runtime account.scopes := by
  have holds := of_issueServiceToken found issued
  have within : claims.scopes ⊆ normalizeScopes runtime account.scopes ↔
      normalizeScopes runtime (scope.elim .undefined .string) ⊆
        normalizeScopes runtime account.scopes := by
    rw [holds]
    split
    · rename_i asksNone
      rw [asksNone]
      exact iff_of_true (List.Subset.refl _) (List.nil_subset _)
    · rfl
  have isIssued : ∃ value, claims.scopes = normalizeScopes runtime value := by
    rw [holds]
    split
    · exact ⟨_, rfl⟩
    · exact ⟨_, rfl⟩
  obtain ⟨value, isValue⟩ := isIssued
  rw [← within]
  refine ⟨And.left, fun subset => ⟨subset, fun requiredScopes admitted => ?_⟩⟩
  exact List.Subset.trans ((ServiceScopeGuard.canActivate_eq_ok_iff isValue).mp admitted) subset

namespace Sample

def serviceRuntime : ServiceTokenRuntime where
  verifyServiceSecret secret salt expectedHash := salt ++ secret = expectedHash
  coerceText _ := "[object Object]"

def gateway : ServiceAccount where
  id := "account"
  clientId := "ocpi-gateway"
  secretHash := "saltsecret"
  secretSalt := "salt"
  scopes := .array [.string "ocpi:read"]
  status := "ACTIVE"

def serviceAccounts : Table ServiceAccount ServiceAccount.clientId where
  rows := [gateway]
  nodup := List.nodup_singleton _

def tokenFor (scopes : List String) : ServiceClaims where
  sub := "account"
  clientId := "ocpi-gateway"
  scopes := scopes
  type := "service"

end Sample

open Sample in
theorem withinAccount_iff_requested_reader :
    ((tokenFor ["ocpi:read"]).scopes ⊆ normalizeScopes serviceRuntime gateway.scopes ∧
        ∀ requiredScopes, ServiceScopeGuard.canActivate serviceRuntime requiredScopes
              (tokenFor ["ocpi:read"]).record = .ok true →
            requiredScopes ⊆ normalizeScopes serviceRuntime gateway.scopes) ↔
      normalizeScopes serviceRuntime ((some " ocpi:read").elim .undefined .string) ⊆
        normalizeScopes serviceRuntime gateway.scopes :=
  have found : serviceAccounts.find? "ocpi-gateway" = some gateway := rfl
  have issued : issueServiceToken serviceRuntime serviceAccounts "ocpi-gateway" "secret"
      (some " ocpi:read") = .ok (tokenFor ["ocpi:read"]) := rfl
  withinAccount_iff_requested found issued

open Sample in
/-- An account that may only read asks for a token to write with, and the guard lets it write. -/
theorem reader_may_write :
    issueServiceToken serviceRuntime serviceAccounts "ocpi-gateway" "secret" (some "ocpi:write") =
        .ok (tokenFor ["ocpi:write"]) ∧
      normalizeScopes serviceRuntime gateway.scopes = ["ocpi:read"] ∧
      ServiceScopeGuard.canActivate serviceRuntime ["ocpi:write"]
        (tokenFor ["ocpi:write"]).record = .ok true := by
  refine ⟨rfl, ?_, rfl⟩
  decide +kernel

end Csms.Auth
