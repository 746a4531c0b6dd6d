import Csms.Auth.Team.Transactions
import Csms.Database.Request

/-!
# The writes of the team operations

Each transaction, and each statement outside of one, with what it does to the store and
what it returns.
-/

namespace Csms.Auth

open Js Database

/-- What `inviteUser` has found out when its transaction begins. -/
structure Invite where
  email : String
  role : UserRole
  (organizationId inviterId : String)
  existingUserId : Option String
  ownerCapability : Option StationOwnerCapability
  (customRoleId customRoleName : Option String)
  initialAssignments : List NormalizedAssignment

structure Activation where
  (userId inviteToken loginPassword : String)

def normalizeEmail (email : String) : String :=
  toLowerCase (trim email)

namespace Store

variable (runtime : AuthRuntime) (call : Call) (store : Store)

def userWithEmail? (email : String) : Option User :=
  store.users.rows.find? fun user => user.email.map toLowerCase = some (toLowerCase email)

/-- The user that is created for an invitation to an unknown address. -/
def invitedUser (invite : Invite) : User where
  id := call.uuid 0
  name := String.ofList (invite.email.toList.takeWhile (· ≠ '@'))
  email := some invite.email
  phone := none
  passwordHash := some (runtime.hashPassword call.temporaryPassword)
  role := invite.role
  status := "Invited"
  ownerCapability := invite.ownerCapability
  twoFactorSecret := none
  twoFactorEnabled := false
  mfaRequired := false
  mustChangePassword := false
  otpCode := none
  otpExpiresAt := none
  emailVerifiedAt := none
  organizationId := some invite.organizationId
  providerId := none
  lastStationAssignmentId := none

def invitedMembership (invite : Invite) (userId : String) : OrganizationMembership where
  userId := userId
  organizationId := invite.organizationId
  role := invite.role
  canonicalRoleKey := resolveCanonicalRoleKey invite.role
  customRoleId := orText invite.customRoleId none
  customRoleName := orText invite.customRoleName none
  ownerCapability := invite.ownerCapability
  status := .invited
  invitedBy := some invite.inviterId

/-- What an invitation sets in the organization of the platform. -/
def invitedToEvzone (invite : Invite) (userId : String) : EvzoneAssignment where
  userId := userId
  role := invite.role
  ownerCapability := invite.ownerCapability
  membershipStatus := .invited
  invitedBy := some invite.inviterId
  customRoleId := orText invite.customRoleId none
  customRoleName := orText invite.customRoleName none

def insertUser (user : User) : Except AuthException Store := do
  check (store.users.rows.all fun other => user.email.isNone || other.email ≠ user.email)
    .databaseError
  let users ← orDatabaseError (store.users.insert? user)
  pure { store with users }

def ensureInvitedUser (invite : Invite) : Except AuthException (Store × String) :=
  match invite.existingUserId with
  | some userId => .ok (store, userId)
  | none => do
    let created ← store.insertUser (invitedUser runtime call invite)
    pure (created, call.uuid 0)

def inviteMember (invite : Invite) : Except AuthException Store := do
  let (withUser, userId) ← store.ensureInvitedUser runtime call invite
  let withMembership := withUser.setMembership (invitedMembership invite userId)
  let enforced ← withMembership.enforceEvzoneOrganizationAssignment
    (invitedToEvzone invite userId) (call.uuid 1)
  let invitations ← orDatabaseError <| enforced.invitations.insert?
    { id := call.uuid 2
      email := invite.email
      userId := some userId
      organizationId := invite.organizationId
      role := invite.role
      canonicalRoleKey := resolveCanonicalRoleKey invite.role
      customRoleId := orText invite.customRoleId none
      customRoleName := orText invite.customRoleName none
      ownerCapability := invite.ownerCapability
      invitedBy := some invite.inviterId
      tokenHash := runtime.hashToken call.inviteToken
      status := .pending
      expiresAt := call.now + 7 * 24 * 60 * 60 * 1000
      tempPasswordHash :=
        if invite.existingUserId.isNone then some (runtime.hashPassword call.temporaryPassword)
        else none
      initialAssignments := invite.initialAssignments.map NormalizedAssignment.toDto }
  pure { enforced with invitations }

/-- `updateMany` on the earlier invitations of the address. -/
def revokeInvitations (email organizationId : String) : Store :=
  { store with
    invitations := store.invitations.updateWhere
      (fun row => toLowerCase row.email = toLowerCase email &&
        row.organizationId = organizationId && (row.status = .pending || row.status = .accepted))
      (fun row => { row with status := .revoked }) fun _ => rfl }

def resolveInvitationByToken (token : String) : Except AuthException UserInvitation :=
  match store.invitations.find? (runtime.hashToken token) with
  | none => .error (.badRequest "Invitation is invalid")
  | some invitation =>
    if invitation.status = .revoked then .error (.badRequest "Invitation has been revoked")
    else if invitation.status = .activated then
      .error (.badRequest "Invitation has already been used")
    else if invitation.expiresAt ≤ call.now ∨ invitation.status = .expired then
      .error (.badRequest "Invitation has expired")
    else .ok invitation

def checkInvited (activation : Activation) (invitation : UserInvitation) :
    Except AuthException User :=
  match store.user? activation.userId with
  | none => .error (.unauthorized "Invalid credentials")
  | some user =>
    match orText user.email none with
    | none => .error (.unauthorized "Invalid credentials")
    | some email => do
      check (invitation.userId.all fun userId => userId = "" || userId = user.id)
        (.badRequest "Invitation does not match this account")
      check (normalizeEmail invitation.email = normalizeEmail email)
        (.badRequest "Invitation email does not match authenticated account")
      pure user

def activatedMembership (invitation : UserInvitation) (userId : String) :
    OrganizationMembership where
  userId := userId
  organizationId := invitation.organizationId
  role := invitation.role
  canonicalRoleKey := invitation.canonicalRoleKey.or (resolveCanonicalRoleKey invitation.role)
  customRoleId := invitation.customRoleId
  customRoleName := invitation.customRoleName
  ownerCapability := invitation.ownerCapability
  status := .active
  invitedBy := orText invitation.invitedBy none

/-- The update of an activation, which keeps the inviter where there is no other. -/
def activationUpdate (row : OrganizationMembership) : MembershipUpdate where
  role := some row.role
  canonicalRoleKey := some row.canonicalRoleKey
  customRoleId := some row.customRoleId
  customRoleName := some row.customRoleName
  ownerCapability := some row.ownerCapability
  status := some row.status
  invitedBy := row.invitedBy.map some

def activateMembership (invitation : UserInvitation) (userId : String) : Store :=
  let row := activatedMembership invitation userId
  store.upsertMembership row (activationUpdate row)

def markActivated (activation : Activation) (invitation : UserInvitation) : Store :=
  let usedTempPassword := invitation.tempPasswordHash.any fun hash =>
    hash ≠ "" && runtime.comparePassword activation.loginPassword hash
  let activated : Store := { store with
    invitations := store.invitations.updateWhere
      (fun row => row.tokenHash = invitation.tokenHash)
      (fun row => { row with userId := some activation.userId, status := .activated })
      fun _ => rfl }
  activated.updateUser activation.userId
    (fun user =>
      { user with
        emailVerifiedAt := user.emailVerifiedAt.or (some call.now)
        mustChangePassword := usedTempPassword || user.mustChangePassword
        status :=
          if user.status = "Invited" ∨ user.status = "Pending" then "Active" else user.status })
    fun _ => rfl

/-- The initial assignments of the invitation take the place of those at their stations. -/
def materializeAssignments (activation : Activation) (invitation : UserInvitation) :
    Except AuthException Store :=
  if invitation.initialAssignments.isEmpty then .ok store
  else do
    let assignments ← normalizeTeamAssignments invitation.initialAssignments
      "invitation activation"
    let stationIds := assignments.map NormalizedAssignment.stationId
    store.validateStationsInOrganizationScope stationIds invitation.organizationId
    let rows := createdRows activation.userId call.uuid assignments
    let created ← (store.deactivateAssignments activation.userId stationIds.contains
      ).createAssignments rows
    let preferred := (rows.find? StationTeamAssignment.isPrimary).or rows.head?
    let assigned := match preferred with
      | some assignment =>
        created.setLastStationAssignment activation.userId (some assignment.id)
      | none => created
    assigned.syncAttendantProjectionForUser activation.userId fun index =>
      call.uuid (rows.length + index)

/-- `syncLegacyOrganizationId`. -/
def syncLegacyOrganizationId (userId : String) (currentOrganizationId : Option String)
    (activeOrganizationId : Option String) : Store :=
  if isSet activeOrganizationId ∧ currentOrganizationId ≠ activeOrganizationId then
    store.updateUser userId (fun user => { user with organizationId := activeOrganizationId })
      fun _ => rfl
  else store

/-- The transaction of `activateInvitationOnLogin`, with the organization it returns. -/
def activateInvitationOnLogin (activation : Activation) :
    Except AuthException (Store × String) := do
  let invitation ← store.resolveInvitationByToken runtime call activation.inviteToken
  let user ← store.checkInvited activation invitation
  let withMembership := store.activateMembership invitation user.id
  let marked := withMembership.markActivated runtime call activation invitation
  let materialized ← marked.materializeAssignments call activation invitation
  pure (materialized.syncLegacyOrganizationId user.id user.organizationId
    (some invitation.organizationId), invitation.organizationId)

/-- What `updateTeamMember` has found out when its transaction begins. -/
structure MemberUpdate where
  (targetUserId organizationId : String)
  dto : UpdateUserDto
  role : Option UserRole
  /-- The capability of the target as it was read. -/
  ownerCapability : Option StationOwnerCapability

def membershipStatusOf (status : String) : MembershipStatus :=
  if status = "Active" then .active
  else if status = "Invited" ∨ status = "Pending" then .invited
  else .suspended

/-- `membershipUpdateData`. -/
def memberMembershipUpdate (dto : UpdateUserDto) (role : Option UserRole) : MembershipUpdate where
  role := role
  canonicalRoleKey := role.map resolveCanonicalRoleKey
  customRoleId :=
    match dto.customRoleId with
    | some customRoleId => some (orText (some customRoleId) none)
    | none => if role.isSome then some none else none
  customRoleName :=
    match dto.customRoleName with
    | some customRoleName => some (orText (some customRoleName) none)
    | none => if role.isSome && !isSet dto.customRoleId then some none else none
  ownerCapability := dto.ownerCapability.map some
  status := (orText dto.status none).map membershipStatusOf
  invitedBy := none

/-- There is something in `updateData`. -/
def updatesUser (dto : UpdateUserDto) (role : Option UserRole) : Bool :=
  dto.name.isSome || dto.phone.isSome || dto.status.isSome || dto.ownerCapability.isSome ||
    role.isSome

/-- The update of the user, who must exist, to a phone that no other user has. -/
def updateMemberUser (update : MemberUpdate) : Except AuthException Store := do
  check (store.user? update.targetUserId).isSome .databaseError
  check (store.users.rows.all fun user => user.id = update.targetUserId ||
    update.dto.phone.isNone || user.phone ≠ update.dto.phone) .databaseError
  pure <| store.updateUser update.targetUserId
    (fun user =>
      { user with
        name := update.dto.name.getD user.name
        phone := update.dto.phone.or user.phone
        status := update.dto.status.getD user.status
        ownerCapability := update.dto.ownerCapability.or user.ownerCapability
        role := update.role.getD user.role }) fun _ => rfl

def updateMemberMembership (update : MemberUpdate) : Store :=
  { store with
    memberships := store.memberships.updateWhere
      (fun row => row.key = (update.targetUserId, update.organizationId))
      (memberMembershipUpdate update.dto update.role).apply fun _ => rfl }

/-- What a new role gives in the organization of the platform. -/
def MemberUpdate.evzoneAssignment (update : MemberUpdate) (role : UserRole)
    (membership : Option OrganizationMembership) : EvzoneAssignment where
  userId := update.targetUserId
  role := role
  ownerCapability := update.dto.ownerCapability.or update.ownerCapability
  membershipStatus :=
    (((orText update.dto.status none).map membershipStatusOf).or
      (membership.map OrganizationMembership.status)).getD .active
  invitedBy := none
  customRoleId := update.dto.customRoleId
  customRoleName := update.dto.customRoleName

def enforceMemberRole (newId : String) (update : MemberUpdate)
    (membership : Option OrganizationMembership) : Except AuthException Store :=
  match update.role with
  | none => .ok store
  | some role =>
    store.enforceEvzoneOrganizationAssignment (update.evzoneAssignment role membership) newId

def isStationOf (organizationId stationId : String) : Bool :=
  (store.stations.find? stationId).bind Station.orgId = some organizationId

/-- A new role without stations takes the stations away. -/
def dropMemberStations (update : MemberUpdate) : Store :=
  if update.role.any fun role => !requiresStationAssignments role then
    (store.deactivateAssignments update.targetUserId
      (store.isStationOf update.organizationId)).setLastStationAssignment update.targetUserId none
  else store

/-- The transaction of `updateTeamMember`. -/
def updateTeamMember (update : MemberUpdate) : Except AuthException Store := do
  let withUser ← store.updateMemberUser update
  let membership := withUser.membership? update.targetUserId update.organizationId
  let withMembership := withUser.updateMemberMembership update
  let enforced ← withMembership.enforceMemberRole (call.uuid 0) update membership
  pure (enforced.dropMemberStations update)

/-- The transaction of `replaceTeamAssignments`. -/
def replaceTeamAssignments (targetUserId organizationId : String)
    (assignments : List NormalizedAssignment) : Except AuthException Store := do
  check (store.stations.rows.any fun station => station.orgId = some organizationId)
    (.badRequest "Cannot update assignments: no stations found in organization")
  let rows := createdRows targetUserId call.uuid assignments
  let created ← (store.deactivateAssignments targetUserId
    (store.isStationOf organizationId)).createAssignments rows
  let preferred := (rows.find? fun row => row.isPrimary && row.isActive).or
    (rows.find? StationTeamAssignment.isActive)
  (created.setLastStationAssignment targetUserId
    (preferred.map StationTeamAssignment.id)).syncAttendantProjectionForUser targetUserId
      fun index => call.uuid (rows.length + index)

def createCustomRole (row : TenantCustomRole) : Except AuthException Store := do
  check (store.customRoles.rows.all fun other =>
    other.organizationId ≠ row.organizationId || other.key ≠ row.key) .databaseError
  let customRoles ← orDatabaseError (store.customRoles.insert? row)
  pure { store with customRoles }

/-- `data` of an update of a custom role. -/
structure CustomRoleUpdate where
  name : Option String
  status : Option CustomRoleStatus
  permissions : Option (List String)

def updateCustomRole (customRoleId : String) (update : CustomRoleUpdate) :
    Except AuthException Store := do
  check (store.customRoles.find? customRoleId).isSome .databaseError
  pure { store with
    customRoles := store.customRoles.updateWhere (fun row => row.id = customRoleId)
      (fun row =>
        { row with
          name := update.name.getD row.name
          status := update.status.getD row.status
          permissions := update.permissions.getD row.permissions }) fun _ => rfl }

/-- The update of `assignMembership`, which has no word on the capability. -/
def assignmentUpdate (row : OrganizationMembership) : MembershipUpdate where
  role := some row.role
  canonicalRoleKey := some row.canonicalRoleKey
  customRoleId := some row.customRoleId
  customRoleName := some row.customRoleName
  ownerCapability := none
  status := some row.status
  invitedBy := some row.invitedBy

/-- The upsert of `assignMembership` on the control plane. -/
def assignOrganizationMembership (row : OrganizationMembership) : Store :=
  store.upsertMembership row (assignmentUpdate row)

/-- The upsert of `assignMembership` in the database of the tenant. -/
def upsertTenantMembership (row : TenantMembership) : Store :=
  { store with
    tenantMemberships := store.tenantMemberships.upsert row
      (fun old =>
        { old with
          roleKey := row.roleKey
          customRoleId := row.customRoleId
          status := row.status }) fun _ => rfl }

end Store

inductive TeamWrite
  | ensureEvzoneOrganization (call : Call)
  | revokeInvitations (email organizationId : String)
  | inviteMember (call : Call) (invite : Invite)
  | activateInvitation (call : Call) (activation : Activation)
  | updateTeamMember (call : Call) (update : Store.MemberUpdate)
  | replaceTeamAssignments (call : Call) (targetUserId organizationId : String)
      (assignments : List NormalizedAssignment)
  | createCustomRole (row : TenantCustomRole)
  | updateCustomRole (customRoleId : String) (update : Store.CustomRoleUpdate)
  | assignOrganizationMembership (row : OrganizationMembership)
  | upsertTenantMembership (row : TenantMembership)

namespace TeamWrite

/-- What a write does: the store it leaves, and the id of the organization where one is
asked for. -/
def run (runtime : AuthRuntime) (store : Store) : TeamWrite → Except AuthException (Store × String)
  | ensureEvzoneOrganization call => store.ensureEvzoneOrganization (call.uuid 3)
  | revokeInvitations email organizationId => .ok (store.revokeInvitations email organizationId, "")
  | inviteMember call invite => (store.inviteMember runtime call invite).map (·, "")
  | activateInvitation call activation => store.activateInvitationOnLogin runtime call activation
  | updateTeamMember call update => (store.updateTeamMember call update).map (·, "")
  | replaceTeamAssignments call targetUserId organizationId assignments =>
    (store.replaceTeamAssignments call targetUserId organizationId assignments).map (·, "")
  | createCustomRole row => (store.createCustomRole row).map (·, "")
  | updateCustomRole customRoleId update => (store.updateCustomRole customRoleId update).map (·, "")
  | assignOrganizationMembership row => .ok (store.assignOrganizationMembership row, "")
  | upsertTenantMembership row => .ok (store.upsertTenantMembership row, "")

/-- A write that throws changes nothing. -/
def effect (runtime : AuthRuntime) (write : TeamWrite) (store : Store) :
    Option (Store × Except AuthException String) :=
  match write.run runtime store with
  | .ok (after, value) => some (after, .ok value)
  | .error exception => some (store, .error exception)

end TeamWrite

end Csms.Auth
