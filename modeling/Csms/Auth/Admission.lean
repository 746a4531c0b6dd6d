import Csms.Auth.Tokens

/-!
# What the guard admits

The guard finds in every token the organization of the session that the token was issued
for, and admits every kind of token that is not expired.
-/

namespace Csms.Auth

open Js

section Contexts

variable (reads : AccessReads) (user : User) (options : AuthSessionContextOptions)
  (organizationId : Option String)

theorem contextIn_of_isSet (set : isSet organizationId = true) :
    (reads.contextIn user options organizationId).sessionScopeType = .tenant ∧
      (reads.contextIn user options organizationId).selectedTenantId = organizationId := by
  simp [AccessReads.contextIn, set]

theorem contextIn_of_not_isSet (unset : isSet organizationId = false) :
    (reads.contextIn user options organizationId).sessionScopeType = .platform ∧
      (reads.contextIn user options organizationId).actingAsTenant = false := by
  simp [AccessReads.contextIn, unset]

end Contexts

/-- Explicit claims of a session decide, whatever the others say. -/
theorem authenticatedOrganizationId_of_session (reads : AccessReads) (user : User)
    (options : AuthSessionContextOptions) (organizationId : Option String) {payload : JwtClaims}
    (scope : payload.sessionScopeType =
      some (reads.contextIn user options organizationId).sessionScopeType)
    (acting : payload.actingAsTenant =
      some (reads.contextIn user options organizationId).actingAsTenant)
    (selected : payload.selectedTenantId =
      (reads.contextIn user options organizationId).selectedTenantId) :
    payload.authenticatedOrganizationId = orText organizationId none := by
  rcases set : isSet organizationId with _ | _
  · obtain ⟨isPlatform, isNone⟩ := contextIn_of_not_isSet reads user options organizationId set
    rw [orText_none_of_not_isSet set]
    simp [JwtClaims.authenticatedOrganizationId, scope, acting, isPlatform, isNone]
  · obtain ⟨isTenant, isSelected⟩ := contextIn_of_isSet reads user options organizationId set
    rw [orText_of_isSet set none]
    simp [JwtClaims.authenticatedOrganizationId, scope, selected, isTenant, isSelected,
      orText_of_isSet set]

theorem Issue.authenticatedOrganizationId_claims (issue : Issue) :
    issue.claims.authenticatedOrganizationId = issue.organizationId := by
  cases issue with
  | access reads user source =>
    exact authenticatedOrganizationId_of_session reads user source.options
      (reads.activeOrganizationId user source.options) rfl rfl rfl
  | refresh reads user options jti =>
    exact authenticatedOrganizationId_of_session reads user options
      (reads.activeOrganizationId user options) rfl rfl rfl
  | _ => rfl

def GuardRequest.withToken (request : GuardRequest) (token : Token) : GuardRequest :=
  { request with authorization := some (.bearer token) }

/-- The look-up of the organization that the request is for does not fail. -/
def GuardRuntime.isFound (runtime : GuardRuntime) (organizationId : Option String) : Bool :=
  (organizationId.mapM runtime.findByOrganizationId).toOption.isSome

section Admissions

variable {runtime : GuardRuntime} {request : GuardRequest} {token : Token} {payload : JwtClaims}

theorem admitClaims_eq_ok {admission : Admission}
    (admitted : admitClaims runtime request payload = .ok admission) : admission.user = payload ∧
      admission.authenticatedOrganizationId = payload.authenticatedOrganizationId ∧
      admission.effectiveOrganizationId =
        request.hostOrganizationId.or payload.authenticatedOrganizationId := by
  rw [admitClaims] at admitted
  split at admitted
  · contradiction
  · split at admitted
    · contradiction
    · cases admitted
      exact ⟨rfl, rfl, rfl⟩

/-- Neither another host nor a failing look-up keeps the claims out. -/
theorem exists_admitClaims_iff :
    (∃ admission, admitClaims runtime request payload = .ok admission) ↔
      (request.hostOrganizationId.isSome = true →
        payload.authenticatedOrganizationId = request.hostOrganizationId) ∧
      runtime.isFound (request.hostOrganizationId.or payload.authenticatedOrganizationId) =
        true := by
  rw [admitClaims, GuardRuntime.isFound]
  by_cases mismatch : request.hostOrganizationId.isSome = true ∧
    payload.authenticatedOrganizationId ≠ request.hostOrganizationId
  · rw [if_pos mismatch]
    constructor
    · rintro ⟨admission, admitted⟩
      contradiction
    · rintro ⟨sameHost, _⟩
      exact absurd (sameHost mismatch.1) mismatch.2
  · rw [if_neg mismatch]
    have sameHost : request.hostOrganizationId.isSome = true →
        payload.authenticatedOrganizationId = request.hostOrganizationId := by
      intro isHost
      by_contra differs
      exact mismatch ⟨isHost, differs⟩
    rcases looked : Option.mapM runtime.findByOrganizationId
      (request.hostOrganizationId.or payload.authenticatedOrganizationId) with failure | routing
    · simp [Except.toOption]
    · simp only [Except.toOption, Option.isSome_some, and_true]
      exact ⟨fun _ => sameHost, fun _ => ⟨_, rfl⟩⟩

theorem canActivate_withToken : canActivate runtime (request.withToken token) =
      if request.isPublic = true ∨ request.contextType ≠ .http then .ok none
      else
        match orText runtime.jwtSecret none with
        | none => .error .jwtSecretNotConfigured
        | some secret =>
          match token.verify secret runtime.now with
          | none => .error .invalidOrExpiredToken
          | some payload => (admitClaims runtime request payload).map some :=
  rfl

/-- A request with a token is admitted when the token verifies and its claims are let in. -/
theorem canActivate_withToken_iff {admission : Admission} :
    canActivate runtime (request.withToken token) = .ok (some admission) ↔
      request.isPublic = false ∧ request.contextType = .http ∧
        ∃ secret payload, orText runtime.jwtSecret none = some secret ∧
          token.verify secret runtime.now = some payload ∧
            admitClaims runtime request payload = .ok admission := by
  rw [canActivate_withToken]
  by_cases unseen : request.isPublic = true ∨ request.contextType ≠ .http
  · rw [if_pos unseen]
    constructor
    · intro admitted
      cases Except.ok.inj admitted
    · rintro ⟨isPublic, contextType, _⟩
      rcases unseen with isPublic' | contextType'
      · exact absurd isPublic' (by simp [isPublic])
      · exact absurd contextType contextType'
  · rw [if_neg unseen]
    simp only [not_or, Bool.not_eq_true, ne_eq, not_not] at unseen
    simp only [unseen.1, unseen.2, true_and]
    rcases orText runtime.jwtSecret none with _ | secret
    · simp
    · rcases verified : token.verify secret runtime.now with _ | payload
      · simp [verified]
      · rcases admitted : admitClaims runtime request payload with failure | found <;>
          simp [verified, admitted, Except.map]

theorem Token.verify_signed_eq_some_iff {claims payload : JwtClaims} {secret signedWith : String}
    {now expiresAt : Int} :
    (Token.signed claims signedWith expiresAt).verify secret now = some payload ↔
      (signedWith = secret ∧ now < expiresAt) ∧ claims = payload := by
  rw [Token.verify]
  split <;> simp_all

/-- Of what a token was issued as, the guard sees its organization alone. -/
theorem exists_admission_iff {issue : Issue} {secret : String} {expiresAt : Int} :
    (∃ admission, canActivate runtime
        (request.withToken (.signed issue.claims secret expiresAt)) = .ok (some admission)) ↔
      request.isPublic = false ∧ request.contextType = .http ∧
        orText runtime.jwtSecret none = some secret ∧ runtime.now < expiresAt ∧
          (request.hostOrganizationId.isSome = true →
            issue.organizationId = request.hostOrganizationId) ∧
          runtime.isFound (request.hostOrganizationId.or issue.organizationId) = true := by
  simp only [canActivate_withToken_iff, Token.verify_signed_eq_some_iff]
  rw [← issue.authenticatedOrganizationId_claims, ← exists_admitClaims_iff]
  constructor
  · rintro ⟨admission, isPublic, contextType, _, _, isSecret, ⟨⟨rfl, live⟩, rfl⟩, admitted⟩
    exact ⟨isPublic, contextType, isSecret, live, admission, admitted⟩
  · rintro ⟨isPublic, contextType, isSecret, live, admission, admitted⟩
    exact ⟨admission, isPublic, contextType, secret, _, isSecret, ⟨⟨rfl, live⟩, rfl⟩, admitted⟩

end Admissions

namespace Sample

def user : User where
  id := "ada"
  name := "Ada"
  email := some "ada@acme.test"
  phone := none
  passwordHash := none
  role := .stationAdmin
  status := "Active"
  ownerCapability := none
  twoFactorSecret := none
  twoFactorEnabled := false
  mfaRequired := false
  mustChangePassword := false
  otpCode := none
  otpExpiresAt := none
  emailVerifiedAt := none
  organizationId := some "acme"
  providerId := none
  lastStationAssignmentId := none

def membership : ActiveMembership where
  userId := "ada"
  organizationId := "acme"
  role := .stationAdmin
  canonicalRoleKey := some .tenantAdmin
  customRoleId := none
  customRoleName := none
  ownerCapability := none
  status := .active
  invitedBy := none
  organizationName := some "Acme"

def reads : AccessReads where
  memberships := [membership]
  platformRoleKey := none
  stationContexts _ := []
  activeCustomRole _ _ := none

def options : AuthSessionContextOptions where
  preferredOrganizationId := none
  sessionScopeType := none
  actingAsTenant := none
  selectedTenantId := none
  selectedTenantName := none

def runtime : GuardRuntime where
  jwtSecret := some "secret"
  now := 0
  findByOrganizationId _ := .ok none

def request : GuardRequest where
  isPublic := false
  contextType := .http
  authorization := none
  existingContext := none

def accessToken : Token :=
  .signed (Issue.access reads user (.issueTokens options)).claims "secret" 1

def refreshToken : Token :=
  .signed (Issue.refresh reads user options "jti").claims "secret" 1

end Sample

open Sample

/-- The guard takes a token for an access token that is none, unless something else keeps
the token out. -/
theorem isAccess_of_admitted_iff (runtime : GuardRuntime) (request : GuardRequest) (issue : Issue)
    (secret : String) (expiresAt : Int) : ((∃ admission, canActivate runtime
        (request.withToken (.signed issue.claims secret expiresAt)) = .ok (some admission)) →
      issue.isAccess = true) ↔
    issue.isAccess = true ∨ request.isPublic = true ∨ request.contextType ≠ .http ∨
      orText runtime.jwtSecret none ≠ some secret ∨ expiresAt ≤ runtime.now ∨
      (request.hostOrganizationId.isSome = true ∧
        issue.organizationId ≠ request.hostOrganizationId) ∨
      runtime.isFound (request.hostOrganizationId.or issue.organizationId) = false := by
  rw [exists_admission_iff, ← not_lt, ← Bool.not_eq_true (runtime.isFound _),
    ← Bool.not_eq_false request.isPublic]
  tauto

/-- A refresh token opens the endpoints, whatever the table of the refresh tokens says of it. -/
theorem refreshToken_admitted :
    (Issue.refresh reads user options "jti").isAccess = false ∧
      ∃ admission, canActivate runtime (request.withToken refreshToken) =
        .ok (some admission) :=
  ⟨rfl, exists_admission_iff.mpr ⟨rfl, rfl, rfl, by decide, by decide, rfl⟩⟩

end Csms.Auth
