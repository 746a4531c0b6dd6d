import Csms.Auth.Tokens
import Csms.Table.Upsert

/-!
# The store of authentication and of the teams

The tables of the control plane and of the tenants as one store, and the queries for the
access of a user.
-/

namespace Csms.Auth

open Js

inductive InvitationStatus
  | pending
  | accepted
  | activated
  | expired
  | revoked
deriving DecidableEq

/-- A station assignment as it is asked for. -/
structure TeamStationAssignmentDto where
  (stationId role : String)
  (isPrimary isActive : Option Bool)
  attendantMode : Option AttendantRoleMode
  (shiftStart shiftEnd timezone : Option String)
deriving DecidableEq

structure UserInvitation where
  (id email : String)
  userId : Option String
  organizationId : String
  role : UserRole
  canonicalRoleKey : Option CanonicalRoleKey
  (customRoleId customRoleName : Option String)
  ownerCapability : Option StationOwnerCapability
  invitedBy : Option String
  tokenHash : String
  status : InvitationStatus
  expiresAt : Int
  tempPasswordHash : Option String
  /-- `initialAssignmentsJson`. -/
  initialAssignments : List TeamStationAssignmentDto
deriving DecidableEq

structure RefreshToken where
  token : Token
  userId : String
  expiresAt : Int
  revokedAt : Option Int
deriving DecidableEq

structure MfaChallenge where
  id : String
  userId : Option String
  (challenge purpose : String)
  expiresAt : Int
  consumedAt : Option Int
deriving DecidableEq

structure MfaRecoveryCode where
  (userId codeHash : String)
  usedAt : Option Int
deriving DecidableEq

structure PasskeyCredential where
  (credentialId userId : String)
  counter : Nat
deriving DecidableEq

def OrganizationMembership.key (row : OrganizationMembership) : String × String :=
  (row.userId, row.organizationId)

def TenantMembership.key (row : TenantMembership) : String × String :=
  (row.userId, row.organizationId)

def PlatformRoleAssignment.key (row : PlatformRoleAssignment) : String × CanonicalRoleKey :=
  (row.userId, row.roleKey)

def MfaRecoveryCode.key (row : MfaRecoveryCode) : String × String :=
  (row.userId, row.codeHash)

structure Store where
  users : Table User User.id
  organizations : Table Organization Organization.id
  memberships : Table OrganizationMembership OrganizationMembership.key
  tenantMemberships : Table TenantMembership TenantMembership.key
  platformRoles : Table PlatformRoleAssignment PlatformRoleAssignment.key
  customRoles : Table TenantCustomRole TenantCustomRole.id
  stations : Table Station Station.id
  stationTeamAssignments : Table StationTeamAssignment StationTeamAssignment.id
  attendantAssignments : Table AttendantAssignment AttendantAssignment.id
  invitations : Table UserInvitation UserInvitation.tokenHash
  refreshTokens : Table RefreshToken RefreshToken.token
  mfaChallenges : Table MfaChallenge MfaChallenge.id
  recoveryCodes : Table MfaRecoveryCode MfaRecoveryCode.key
  passkeys : Table PasskeyCredential PasskeyCredential.credentialId

namespace Store

/-- The store without rows. -/
def empty : Store where
  users := .empty
  organizations := .empty
  memberships := .empty
  tenantMemberships := .empty
  platformRoles := .empty
  customRoles := .empty
  stations := .empty
  stationTeamAssignments := .empty
  attendantAssignments := .empty
  invitations := .empty
  refreshTokens := .empty
  mfaChallenges := .empty
  recoveryCodes := .empty
  passkeys := .empty

variable (store : Store)

def user? (userId : String) : Option User :=
  store.users.find? userId

def membership? (userId organizationId : String) : Option OrganizationMembership :=
  store.memberships.find? (userId, organizationId)

def tenantMembership? (userId organizationId : String) : Option TenantMembership :=
  store.tenantMemberships.find? (userId, organizationId)

def updateUser (userId : String) (change : User → User)
    (keeps : ∀ user, (change user).id = user.id) : Store :=
  { store with users := store.users.updateWhere (fun user => user.id = userId) change keeps }

def getActiveMemberships (userId : String) : List ActiveMembership :=
  (store.memberships.rows.filter fun row => row.userId = userId && row.status = .active).map
    fun row => ⟨row, (store.organizations.find? row.organizationId).map Organization.name⟩

def resolveActivePlatformRoleKey (userId : String) : Option CanonicalRoleKey :=
  (store.platformRoles.rows.find? fun row => row.userId = userId && row.status = .active).map
    PlatformRoleAssignment.roleKey

def stationContext (assignment : StationTeamAssignment) : AccessStationContextSummary where
  assignmentId := assignment.id
  stationId := assignment.stationId
  stationName := orText ((store.stations.find? assignment.stationId).map Station.name) none
  organizationId := orText ((store.stations.find? assignment.stationId).bind Station.orgId) none
  role := assignment.role
  isPrimary := assignment.isPrimary

/-- The active assignments of the user, in the organization if there is one, the primary
ones first. -/
def stationContexts (userId : String) (organizationId : Option String) :
    List AccessStationContextSummary :=
  let assignments := store.stationTeamAssignments.rows.filter fun row =>
    row.userId = userId && row.isActive &&
      (!isSet organizationId ||
        (store.stations.find? row.stationId).bind Station.orgId = organizationId)
  ((assignments.filter fun row => row.isPrimary) ++
    assignments.filter fun row => !row.isPrimary).map store.stationContext

def resolveActiveCustomRoleAccess (activeOrganizationId : Option String)
    (membership : Option ActiveMembership) : Option ActiveCustomRoleAccessSummary := do
  let organizationId ← orText activeOrganizationId none
  let customRoleId ← orText (membership.bind fun membership => membership.customRoleId) none
  let customRole ← store.customRoles.rows.find? fun row =>
    row.id = customRoleId && row.organizationId = organizationId && row.status = .active
  pure ⟨customRole.id, customRole.name, customRole.baseRoleKey, customRole.permissions⟩

def accessReads (userId : String) : AccessReads where
  memberships := store.getActiveMemberships userId
  platformRoleKey := store.resolveActivePlatformRoleKey userId
  stationContexts := store.stationContexts userId
  activeCustomRole := store.resolveActiveCustomRoleAccess

end Store

end Csms.Auth
