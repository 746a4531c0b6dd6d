import Csms.Auth.Access

/-!
# Tokens and the guard of the endpoints

The tokens that the services sign with the one secret, and what the guard makes of a token
that comes with a request.
-/

namespace Csms.Auth

open Js

inductive TokenType
  | refresh
  | mfaStepUp
deriving DecidableEq

inductive TokenPurpose
  | attendantPasswordReset
deriving DecidableEq

/-- The part of a nested profile that the guard looks at. -/
structure AccessProfileClaim where
  canonicalRole : Option CanonicalRoleKey
deriving DecidableEq

/-- The claims of all kinds of tokens. -/
structure JwtClaims where
  sub : String
  email : Option String := none
  role : Option UserRole := none
  canonicalRole : Option CanonicalRoleKey := none
  permissions : Option (List String) := none
  tenantId : Option String := none
  activeTenantId : Option String := none
  organizationId : Option String := none
  activeOrganizationId : Option String := none
  orgId : Option String := none
  sessionScopeType : Option SessionScopeType := none
  actingAsTenant : Option Bool := none
  selectedTenantId : Option String := none
  selectedTenantName : Option String := none
  accessProfile : Option AccessProfileClaim := none
  type : Option TokenType := none
  jti : Option String := none
  purpose : Option TokenPurpose := none
  identifier : Option String := none
deriving DecidableEq

/-- A text that comes as a token: one that was signed, or any other. -/
inductive Token
  | signed (claims : JwtClaims) (secret : String) (expiresAt : Int)
  | other (text : String)
deriving DecidableEq

/-- `jwt.verify`: the claims of an unexpired token that was signed with the secret. -/
def Token.verify (secret : String) (now : Int) : Token → Option JwtClaims
  | signed claims signedWith expiresAt =>
    if signedWith = secret ∧ now < expiresAt then some claims else none
  | other _ => none

/-- What a session token says of the organization. -/
def accessClaims (user : AuthenticatedUser) : JwtClaims :=
  { sub := user.id
    email := user.email
    role := some user.role
    canonicalRole := some user.canonicalRole
    permissions := some user.permissions
    tenantId := user.tenantId
    activeTenantId := user.activeTenantId
    organizationId := user.organizationId
    activeOrganizationId := user.activeOrganizationId
    sessionScopeType := some user.sessionScopeType
    actingAsTenant := some user.actingAsTenant
    selectedTenantId := user.selectedTenantId
    selectedTenantName := user.selectedTenantName }

def refreshClaims (user : AuthenticatedUser) (jti : String) : JwtClaims :=
  { sub := user.id
    type := some .refresh
    jti := some jti
    sessionScopeType := some user.sessionScopeType
    actingAsTenant := some user.actingAsTenant
    selectedTenantId := user.selectedTenantId
    selectedTenantName := user.selectedTenantName }

def stepUpClaims (userId jti : String) : JwtClaims :=
  { sub := userId
    type := some .mfaStepUp
    jti := some jti }

/-- `signAccessToken` of the attendants. -/
def attendantAccessClaims (user : User) : JwtClaims :=
  { sub := user.id
    email := user.email
    role := some user.role }

/-- `signRefreshToken` of the attendants. -/
def attendantRefreshClaims (userId jti : String) : JwtClaims :=
  { sub := userId
    type := some .refresh
    jti := some jti }

def passwordResetClaims (userId identifier : String) : JwtClaims :=
  { sub := userId
    identifier := some identifier
    purpose := some .attendantPasswordReset }

/-- The options of the session that a refresh token goes on with. -/
def JwtClaims.sessionOptions (payload : JwtClaims) : AuthSessionContextOptions where
  preferredOrganizationId := none
  sessionScopeType := payload.sessionScopeType
  actingAsTenant := payload.actingAsTenant
  selectedTenantId := orText payload.selectedTenantId none
  selectedTenantName := orText payload.selectedTenantName none

/-- Where an access token comes from: a session that begins, or one that is refreshed. -/
inductive SessionSource
  | issueTokens (options : AuthSessionContextOptions)
  | refresh (payload : JwtClaims)

def SessionSource.options : SessionSource → AuthSessionContextOptions
  | issueTokens options => options
  | refresh payload => payload.sessionOptions

/-- The claims of a token that one of the services issues: from the reads for a session of
the user and where the session comes from, or from the user alone. -/
inductive Issue
  | access (reads : AccessReads) (user : User) (source : SessionSource)
  | refresh (reads : AccessReads) (user : User) (options : AuthSessionContextOptions)
      (jti : String)
  | stepUp (userId jti : String)
  | attendantAccess (user : User)
  | attendantRefresh (userId jti : String)
  | passwordReset (userId identifier : String)

namespace Issue

def claims : Issue → JwtClaims
  | access reads user source =>
    accessClaims
      (buildAuthenticatedUserPayload user (buildAuthUserContext reads user source.options))
  | refresh reads user options jti =>
    refreshClaims (buildAuthenticatedUserPayload user (buildAuthUserContext reads user options))
      jti
  | stepUp userId jti => stepUpClaims userId jti
  | attendantAccess user => attendantAccessClaims user
  | attendantRefresh userId jti => attendantRefreshClaims userId jti
  | passwordReset userId identifier => passwordResetClaims userId identifier

def isAccess : Issue → Bool
  | access .. | attendantAccess _ => true
  | _ => false

def organizationId : Issue → Option String
  | access reads user source => orText (reads.activeOrganizationId user source.options) none
  | refresh reads user options _ => orText (reads.activeOrganizationId user options) none
  | _ => none

end Issue

inductive AuthorizationHeader
  | bearer (token : Token)
  | other (text : String)

inductive ContextType
  | http
  | rpc
  | ws
deriving DecidableEq

inductive ResolutionSource
  | hostCustomDomain
  | hostSubdomain
  | jwtClaim
deriving DecidableEq

/-- What was found out about the tenant from the host of the request. -/
structure HostContext where
  hostOrganizationId : Option String
  resolutionSource : Option ResolutionSource
deriving DecidableEq

structure GuardRequest where
  isPublic : Bool
  contextType : ContextType
  authorization : Option AuthorizationHeader
  existingContext : Option HostContext

inductive RoutingTier
  | shared
  | schema
  | dedicatedDb
deriving DecidableEq

structure TenantRouting where
  tier : RoutingTier
  routingEnabled : Bool
deriving DecidableEq

/-- What the guard goes by: the secret, the clock and the directory of the tenants, of
which a look-up may fail. -/
structure GuardRuntime where
  jwtSecret : Option String
  now : Int
  findByOrganizationId : String → Except Unit (Option TenantRouting)

/-- What the guard leaves with a request that it lets in with a token. -/
structure Admission where
  user : JwtClaims
  (authenticatedOrganizationId effectiveOrganizationId : Option String)
  resolutionSource : ResolutionSource
  routing : Option TenantRouting
deriving DecidableEq

inductive GuardException
  | missingAuthorizationHeader
  | jwtSecretNotConfigured
  | invalidOrExpiredToken
  | hostJwtMismatch
deriving DecidableEq

def JwtClaims.authenticatedOrganizationId (payload : JwtClaims) : Option String :=
  let canonicalRole :=
    payload.canonicalRole.or (payload.accessProfile.bind AccessProfileClaim.canonicalRole)
  let isPlatformCanonicalRole := isPlatformScopeRole canonicalRole
  let hasExplicitTenantSession :=
    decide (payload.sessionScopeType = some .tenant) || payload.actingAsTenant = some true
  let allowLegacyTenantResolution :=
    payload.sessionScopeType ≠ some .platform && payload.actingAsTenant ≠ some false &&
      !isPlatformCanonicalRole
  let legacyOrganizationId :=
    orText payload.activeTenantId (orText payload.tenantId
      (orText payload.activeOrganizationId (orText payload.organizationId
        (orText payload.orgId none))))
  if hasExplicitTenantSession then orText payload.selectedTenantId legacyOrganizationId
  else if allowLegacyTenantResolution then legacyOrganizationId
  else none

def GuardRequest.hostOrganizationId (request : GuardRequest) : Option String :=
  orText (request.existingContext.bind HostContext.hostOrganizationId) none

def GuardRequest.resolutionSource (request : GuardRequest) : ResolutionSource :=
  if request.hostOrganizationId.isSome then
    if request.existingContext.bind HostContext.resolutionSource = some .hostCustomDomain then
      .hostCustomDomain
    else .hostSubdomain
  else .jwtClaim

/-- The second half of `canActivate`, with the verified claims. -/
def admitClaims (runtime : GuardRuntime) (request : GuardRequest) (payload : JwtClaims) :
    Except GuardException Admission :=
  if request.hostOrganizationId.isSome = true ∧
      payload.authenticatedOrganizationId ≠ request.hostOrganizationId then
    .error .hostJwtMismatch
  else
    match (request.hostOrganizationId.or payload.authenticatedOrganizationId).mapM
        runtime.findByOrganizationId with
    | .error _ => .error .invalidOrExpiredToken
    | .ok routing =>
      .ok
        { user := payload
          authenticatedOrganizationId := payload.authenticatedOrganizationId
          effectiveOrganizationId :=
            request.hostOrganizationId.or payload.authenticatedOrganizationId
          resolutionSource := request.resolutionSource
          routing := routing.join }

/-- `JwtAuthGuard.canActivate`: without an admission, the request is let in unseen. -/
def canActivate (runtime : GuardRuntime) (request : GuardRequest) :
    Except GuardException (Option Admission) :=
  if request.isPublic = true ∨ request.contextType ≠ .http then .ok none
  else
    match request.authorization with
    | none | some (.other _) => .error .missingAuthorizationHeader
    | some (.bearer token) =>
      match orText runtime.jwtSecret none with
      | none => .error .jwtSecretNotConfigured
      | some secret =>
        match token.verify secret runtime.now with
        | none => .error .invalidOrExpiredToken
        | some payload => (admitClaims runtime request payload).map some

end Csms.Auth
