import Csms.Auth.Roles

/-!
# The access of a user

The organization a session is for, the role and the station that the user has in it, and
the profile with the permissions that follow.
-/

namespace Csms.Auth

open Js

/-- A text that is neither missing nor empty. -/
def isSet (text : Option String) : Bool :=
  (orText text none).isSome

theorem orText_none_of_not_isSet {text : Option String} (unset : isSet text = false) :
    orText text none = none :=
  Option.not_isSome_iff_eq_none.mp (Bool.eq_false_iff.mp unset)

theorem orText_of_isSet {text : Option String} (set : isSet text = true)
    (right : Option String) : orText text right = text := by
  cases text with
  | none => contradiction
  | some text =>
    by_cases isEmpty : text = ""
    · subst isEmpty
      contradiction
    · exact if_neg isEmpty

inductive SessionScopeType
  | platform
  | tenant
deriving DecidableEq

structure AuthSessionContextOptions where
  preferredOrganizationId : Option String
  sessionScopeType : Option SessionScopeType
  actingAsTenant : Option Bool
  (selectedTenantId selectedTenantName : Option String)

structure AccessStationContextSummary where
  (assignmentId stationId : String)
  (stationName organizationId : Option String)
  role : UserRole
  isPrimary : Bool
deriving DecidableEq

structure ActiveCustomRoleAccessSummary where
  (id name : String)
  baseRoleKey : CanonicalRoleKey
  permissions : List String
deriving DecidableEq

structure AccessScopeSummary where
  type : AccessScopeType
  (organizationId tenantId stationId : Option String)
  stationIds : List String
  providerId : Option String
  isTemporary : Bool
deriving DecidableEq

structure AccessProfile where
  legacyRole : UserRole
  canonicalRole : CanonicalRoleKey
  canonicalRoleLabel : String
  baseRoleKey : CanonicalRoleKey
  roleFamily : AccessRoleFamily
  permissionScope : PermissionScope
  permissions : List String
  scope : AccessScopeSummary
  isCustomRole : Bool
  (customRoleId customRoleName : Option String)
deriving DecidableEq

structure AccessProfileInput where
  (activeOrganizationId activeTenantId : Option String)
  effectiveRole : UserRole
  effectiveCanonicalRole : Option CanonicalRoleKey
  stationContexts : List AccessStationContextSummary
  activeStationContext : Option AccessStationContextSummary
  providerId : Option String
  customRole : Option ActiveCustomRoleAccessSummary

def resolveCustomRolePermissions (baseRoleKey : CanonicalRoleKey)
    (customRole : ActiveCustomRoleAccessSummary) : List String :=
  sortedSet (customRole.permissions.filter fun permission =>
    baseRoleKey.definition.permissions.contains permission && isTenantScopedPermission permission)

def resolveScope (input : AccessProfileInput) (scopeType : AccessScopeType) : AccessScopeSummary :=
  let organizationId := orText input.activeTenantId input.activeOrganizationId
  let tenantScope (type : AccessScopeType) : AccessScopeSummary :=
    { type
      organizationId
      tenantId := organizationId
      stationId := none
      stationIds := (input.stationContexts.map AccessStationContextSummary.stationId).eraseDups
      providerId := orText input.providerId none
      isTemporary := false }
  match scopeType, input.activeStationContext with
  | .platform, _ => tenantScope .platform
  | .provider, _ => tenantScope .provider
  | .fleetGroup, _ => tenantScope .fleetGroup
  | .temporary, context =>
    { tenantScope .temporary with
      stationId := orText (context.map AccessStationContextSummary.stationId) none
      isTemporary := true }
  | .device, context =>
    { tenantScope .device with
      organizationId :=
        orText (context.bind AccessStationContextSummary.organizationId)
          (orText organizationId none)
      stationId := orText (context.map AccessStationContextSummary.stationId) none }
  | .station, some context =>
    { tenantScope .station with
      organizationId := orText context.organizationId (orText organizationId none)
      stationId := some context.stationId }
  | .site, _ => tenantScope .site
  | .station, none => tenantScope .tenant
  | .tenant, _ => tenantScope .tenant

def buildProfile (input : AccessProfileInput) : AccessProfile :=
  match ((input.customRole.map ActiveCustomRoleAccessSummary.baseRoleKey).or
      input.effectiveCanonicalRole).or (resolveCanonicalRoleKey input.effectiveRole) with
  | none =>
    let fallback := CanonicalRoleKey.siteHost.definition
    { legacyRole := input.effectiveRole
      canonicalRole := fallback.key
      canonicalRoleLabel := fallback.label
      baseRoleKey := fallback.key
      roleFamily := fallback.family
      permissionScope := fallback.permissionScope
      permissions := fallback.permissions
      scope := resolveScope input fallback.scopeType
      isCustomRole := false
      customRoleId := none
      customRoleName := none }
  | some canonicalRole =>
    let definition := canonicalRole.definition
    { legacyRole := input.effectiveRole
      canonicalRole := definition.key
      canonicalRoleLabel :=
        (orText (input.customRole.map ActiveCustomRoleAccessSummary.name) none).getD
          definition.label
      baseRoleKey := definition.key
      roleFamily := definition.family
      permissionScope := definition.permissionScope
      permissions :=
        match input.customRole with
        | some customRole => resolveCustomRolePermissions definition.key customRole
        | none => definition.permissions
      scope := resolveScope input definition.scopeType
      isCustomRole := input.customRole.isSome
      customRoleId := orText (input.customRole.map ActiveCustomRoleAccessSummary.id) none
      customRoleName := orText (input.customRole.map ActiveCustomRoleAccessSummary.name) none }

/-- An active membership with the name of its organization. -/
structure ActiveMembership extends OrganizationMembership where
  organizationName : Option String

def isPlatformScopeRole (roleKey : Option CanonicalRoleKey) : Bool :=
  roleKey.any fun key => key.definition.scopeType = .platform

def resolveActiveOrganizationId (activeMemberships : List ActiveMembership)
    (fallbackOrganizationId preferredOrganizationId : Option String) : Option String :=
  let memberOf (organizationId : Option String) : Option String :=
    if isSet organizationId then
      (activeMemberships.find? fun membership =>
        some membership.organizationId = organizationId).map fun membership =>
          membership.organizationId
    else none
  ((memberOf preferredOrganizationId).or (memberOf fallbackOrganizationId)).or
    (match activeMemberships with
      | membership :: _ => some membership.organizationId
      | [] => orText fallbackOrganizationId none)

def membershipIn (memberships : List ActiveMembership) (organizationId : Option String) :
    Option ActiveMembership :=
  memberships.find? fun membership => some membership.organizationId = organizationId

def resolveEffectiveRole (user : User) (activeMemberships : List ActiveMembership)
    (activeOrganizationId : Option String) : UserRole :=
  if isSet activeOrganizationId then
    ((membershipIn activeMemberships activeOrganizationId).map fun membership =>
      membership.role).getD user.role
  else user.role

def resolveEffectiveCanonicalRole (membership : Option ActiveMembership)
    (effectiveRole : UserRole) : Option CanonicalRoleKey :=
  (membership.bind fun membership => membership.canonicalRoleKey).or
    (resolveCanonicalRoleKey effectiveRole)

/-- The active assignments of the user in the organization, the primary ones first, and
the one that the user has worked with last. -/
def resolveStationContexts (stationContexts : List AccessStationContextSummary)
    (lastStationAssignmentId : Option String) :
    List AccessStationContextSummary × Option AccessStationContextSummary :=
  (stationContexts,
    ((stationContexts.find? fun context => some context.assignmentId = lastStationAssignmentId).or
      (stationContexts.find? AccessStationContextSummary.isPrimary)).or stationContexts.head?)

structure AuthUserContext where
  (activeOrganizationId activeOrganizationName activeTenantId : Option String)
  effectiveRole : UserRole
  effectiveCanonicalRole : Option CanonicalRoleKey
  activeCustomRole : Option ActiveCustomRoleAccessSummary
  sessionScopeType : SessionScopeType
  actingAsTenant : Bool
  (selectedTenantId selectedTenantName : Option String)
  memberships : List ActiveMembership
  stationContexts : List AccessStationContextSummary
  activeStationContext : Option AccessStationContextSummary

/-- What is read for the context of a user: the active memberships, the active platform
role, and then the station assignments and the custom role in the active organization. -/
structure AccessReads where
  memberships : List ActiveMembership
  platformRoleKey : Option CanonicalRoleKey
  stationContexts : Option String → List AccessStationContextSummary
  activeCustomRole : Option String → Option ActiveMembership →
    Option ActiveCustomRoleAccessSummary

section Context

variable (reads : AccessReads) (user : User) (options : AuthSessionContextOptions)

def AuthSessionContextOptions.selectedTenantIdInput : Option String :=
  orText options.selectedTenantId (orText options.preferredOrganizationId none)

def AccessReads.isPlatformPrincipal : Bool :=
  isPlatformScopeRole (reads.platformRoleKey.or (resolveCanonicalRoleKey user.role))

def AccessReads.activeOrganizationId : Option String :=
  if reads.isPlatformPrincipal user then options.selectedTenantIdInput
  else resolveActiveOrganizationId reads.memberships none options.selectedTenantIdInput

def AccessReads.contextIn (activeOrganizationId : Option String) : AuthUserContext :=
  let (stationContexts, activeStationContext) :=
    if reads.isPlatformPrincipal user && !isSet activeOrganizationId then ([], none)
    else
      resolveStationContexts (reads.stationContexts activeOrganizationId)
        user.lastStationAssignmentId
  let membershipRole := resolveEffectiveRole user reads.memberships activeOrganizationId
  let effectiveRole :=
    (activeStationContext.map AccessStationContextSummary.role).getD membershipRole
  let activeMembership := membershipIn reads.memberships activeOrganizationId
  let activeCustomRole :=
    if reads.platformRoleKey.isSome then none
    else reads.activeCustomRole activeOrganizationId activeMembership
  let actingAsTenant := isSet activeOrganizationId
  let activeOrganizationName :=
    orText (activeMembership.bind ActiveMembership.organizationName)
      (orText options.selectedTenantName none)
  let selectedTenantId := if actingAsTenant then activeOrganizationId else none
  { activeOrganizationId
    activeOrganizationName
    activeTenantId := selectedTenantId
    effectiveRole
    effectiveCanonicalRole :=
      (reads.platformRoleKey.or
        (activeCustomRole.map ActiveCustomRoleAccessSummary.baseRoleKey)).or
        (resolveEffectiveCanonicalRole activeMembership effectiveRole)
    activeCustomRole
    sessionScopeType := if actingAsTenant then .tenant else .platform
    actingAsTenant
    selectedTenantId
    selectedTenantName :=
      if actingAsTenant then
        orText activeOrganizationName (orText options.selectedTenantName none)
      else none
    memberships := reads.memberships
    stationContexts
    activeStationContext }

def buildAuthUserContext : AuthUserContext :=
  reads.contextIn user options (reads.activeOrganizationId user options)

end Context

def AuthUserContext.accessProfile (context : AuthUserContext) (user : User) : AccessProfile :=
  buildProfile
    { activeOrganizationId := context.activeOrganizationId
      activeTenantId := context.activeTenantId
      effectiveRole := context.effectiveRole
      effectiveCanonicalRole := context.effectiveCanonicalRole
      stationContexts := context.stationContexts
      activeStationContext := context.activeStationContext
      providerId := orText user.providerId none
      customRole := context.activeCustomRole }

/-- What a user is told of a session, as far as tokens carry it. -/
structure AuthenticatedUser where
  id : String
  email : Option String
  role : UserRole
  canonicalRole : CanonicalRoleKey
  permissions : List String
  (tenantId activeTenantId organizationId orgId activeOrganizationId : Option String)
  sessionScopeType : SessionScopeType
  actingAsTenant : Bool
  (selectedTenantId selectedTenantName : Option String)
  accessProfile : AccessProfile

def buildAuthenticatedUserPayload (user : User) (context : AuthUserContext) : AuthenticatedUser :=
  let accessProfile := context.accessProfile user
  let activeTenantId :=
    if context.actingAsTenant then orText context.activeTenantId context.selectedTenantId else none
  let activeOrganizationId :=
    if context.actingAsTenant then
      orText context.activeOrganizationId context.selectedTenantId
    else none
  { id := user.id
    email := user.email
    role := context.effectiveRole
    canonicalRole := accessProfile.canonicalRole
    permissions := accessProfile.permissions
    tenantId := activeTenantId
    activeTenantId
    organizationId := activeOrganizationId
    orgId := activeOrganizationId
    activeOrganizationId
    sessionScopeType := context.sessionScopeType
    actingAsTenant := context.actingAsTenant
    selectedTenantId := context.selectedTenantId
    selectedTenantName := context.selectedTenantName
    accessProfile }

end Csms.Auth
