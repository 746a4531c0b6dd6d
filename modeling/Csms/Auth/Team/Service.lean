import Csms.Auth.Team.Writes
import Csms.Database.Sequential

/-!
# The operations on the team

The requests of the services of the team and of the custom roles: the checks, what they
read, and the writes they make.
-/

namespace Csms.Auth

open Js Database

inductive TeamQuery
  | teamManager
  | teamMember
  | inviter
  | stations
  | invitedUser
  | membership
  | customRole

abbrev TeamRequest (α : Type) :=
  Request Store TeamQuery TeamWrite (fun _ => Except AuthException String) AuthException α

def TeamWrite.commit (write : TeamWrite) : TeamRequest String := do
  let result ← Request.commit write .databaseError
  Request.ofExcept result

structure TeamManagerScope where
  organizationId : String
  managerRole : UserRole

def resolveSessionScopedTenantId (sessionScope : Option SessionTenantScopeOptions) :
    Option String :=
  match sessionScope with
  | none => none
  | some scope =>
    if scope.sessionScopeType = some .tenant ∨ scope.actingAsTenant = some true then
      orText (scope.selectedTenantId.map trim) none
    else none

def resolveScopedOrganizationId (memberships : List OrganizationMembership)
    (sessionTenantId : Option String) : Option String :=
  match sessionTenantId, memberships with
  | some tenantId, _ => some tenantId
  | none, [membership] => some membership.organizationId
  | none, _ => none

namespace Store

variable (store : Store)

def getTeamManagerScope (actorId : String) (sessionScope : Option SessionTenantScopeOptions) :
    Except AuthException TeamManagerScope := do
  check (actorId ≠ "") (.unauthorized "Authenticated user context is required")
  match store.user? actorId with
  | none => .error (.unauthorized "Authenticated user not found")
  | some actor =>
    let memberships := store.memberships.rows.filter fun row =>
      row.userId = actorId && row.status = .active
    match orText (resolveScopedOrganizationId memberships
        (resolveSessionScopedTenantId sessionScope)) none with
    | none =>
      .error (.unauthorized ("Authenticated user is missing an active tenant scope. " ++
        "Switch tenant before managing team members."))
    | some organizationId => do
      let managerRole :=
        ((memberships.find? fun row => row.organizationId = organizationId).map
          OrganizationMembership.role).getD actor.role
      check (isTeamManagerRole managerRole) (.unauthorized
        "Only approved platform and organization roles can manage team members")
      pure ⟨organizationId, managerRole⟩

def ensureTeamMemberInScope (targetUserId scopeOrganizationId : String) :
    Except AuthException User :=
  match store.user? targetUserId with
  | none => .error (.notFound "Team member not found")
  | some target => do
    check (target.organizationId = some scopeOrganizationId ||
        (store.membership? targetUserId scopeOrganizationId).isSome)
      (.unauthorized "Target user is not part of your active organization scope")
    pure target

end Store

def inviteOrganization (call : Call) (inviter : User) (inviteRole : UserRole) :
    TeamRequest String :=
  if isEvzoneRole inviteRole then (TeamWrite.ensureEvzoneOrganization call).commit
  else
    match orText inviter.organizationId none with
    | some organizationId => pure organizationId
    | none =>
      .throw (.badRequest
        "Inviter is missing organization assignment; cannot invite non-EVZONE users")

def inviteUser (call : Call) (inviteDto : InviteUserDto) (inviterId : String) :
    TeamRequest Unit := do
  Request.ofExcept
    (check (inviterId ≠ "") (.unauthorized "Authenticated inviter context is required"))
  let found ← Request.read .inviter fun store => store.user? inviterId
  let inviter ← Request.ofExcept (found.elim (.error (.notFound "Inviter not found")) .ok)
  let email := normalizeEmail inviteDto.email
  let inviteRole ← Request.ofExcept (parseUserRole inviteDto.role "invite")
  Request.ofExcept (assertTeamManageableRole inviteRole "invite")
  Request.ofExcept (assertCanAssignEvzoneRole inviter.role inviteRole "invite")
  let initialAssignments ← Request.ofExcept
    (if inviteDto.initialAssignments.isEmpty then .ok []
      else normalizeTeamAssignments inviteDto.initialAssignments "invite")
  let organizationId ← inviteOrganization call inviter inviteRole
  let inScope ← Request.read .stations fun store =>
    if initialAssignments.isEmpty then .ok ()
    else
      store.validateStationsInOrganizationScope
        (initialAssignments.map NormalizedAssignment.stationId) organizationId
  Request.ofExcept inScope
  let existingUser ← Request.read .invitedUser fun store => store.userWithEmail? email
  let isMember ← Request.read .membership fun store =>
    existingUser.any fun user =>
      (store.membership? user.id organizationId).any fun row => row.status = .active
  Request.ofExcept
    (check (!isMember) (.conflict "User is already an active member of this organization"))
  let _ ← (TeamWrite.revokeInvitations email organizationId).commit
  let _ ← (TeamWrite.inviteMember call
    { email
      role := inviteRole
      organizationId
      inviterId := inviter.id
      existingUserId := existingUser.map User.id
      ownerCapability := inviteDto.ownerCapability
      customRoleId := inviteDto.customRoleId
      customRoleName := inviteDto.customRoleName
      initialAssignments }).commit
  pure ()

def inviteTeamMember (call : Call) (inviteDto : InviteUserDto) (inviterId : String)
    (sessionScope : Option SessionTenantScopeOptions) : TeamRequest Unit := do
  let found ← Request.read .teamManager fun store =>
    store.getTeamManagerScope inviterId sessionScope
  let scope ← Request.ofExcept found
  let inviteRole ← Request.ofExcept (parseUserRole inviteDto.role "team invite")
  Request.ofExcept (assertTeamManageableRole inviteRole "team invite")
  Request.ofExcept (assertCanAssignEvzoneRole scope.managerRole inviteRole "team invite")
  let assignments ← Request.ofExcept
    (if requiresStationAssignments inviteRole then do
        check (!inviteDto.initialAssignments.isEmpty) (.badRequest
          ("At least one station assignment is required for role \"" ++ inviteRole.text ++ "\""))
        normalizeTeamAssignments inviteDto.initialAssignments "team invite"
      else .ok [])
  let inScope ← Request.read .stations fun store =>
    if requiresStationAssignments inviteRole then
      store.validateStationsInOrganizationScope (assignments.map NormalizedAssignment.stationId)
        scope.organizationId
    else .ok ()
  Request.ofExcept inScope
  inviteUser call
    { inviteDto with
      role := inviteRole.text
      initialAssignments := assignments.map NormalizedAssignment.toDto } inviterId

/-- The transaction that a login with an invitation makes. -/
def activateInvitation (call : Call) (activation : Activation) : TeamRequest String :=
  (TeamWrite.activateInvitation call activation).commit

def parseMemberRole (scope : TeamManagerScope) (updateDto : UpdateUserDto) :
    Except AuthException (Option UserRole) :=
  match updateDto.role with
  | none => .ok none
  | some input => do
    let parsedRole ← parseUserRole input "team member update"
    assertTeamManageableRole parsedRole "team member update"
    assertCanAssignEvzoneRole scope.managerRole parsedRole "team member update"
    pure (some parsedRole)

def updateTeamMember (call : Call) (targetUserId : String) (updateDto : UpdateUserDto)
    (actorId : String) (sessionScope : Option SessionTenantScopeOptions) : TeamRequest Unit := do
  let found ← Request.read .teamManager fun store =>
    store.getTeamManagerScope actorId sessionScope
  let scope ← Request.ofExcept found
  let member ← Request.read .teamMember fun store =>
    store.ensureTeamMemberInScope targetUserId scope.organizationId
  let target ← Request.ofExcept member
  let role ← Request.ofExcept (parseMemberRole scope updateDto)
  Request.ofExcept (check
    (Store.updatesUser updateDto role || !(Store.memberMembershipUpdate updateDto role).isEmpty)
    (.badRequest "No supported fields provided for update"))
  let _ ← (TeamWrite.updateTeamMember call
    { targetUserId
      organizationId := scope.organizationId
      dto := updateDto
      role
      ownerCapability := target.ownerCapability }).commit
  pure ()

def replaceTeamAssignments (call : Call) (targetUserId : String)
    (assignments : List TeamStationAssignmentDto) (actorId : String)
    (sessionScope : Option SessionTenantScopeOptions) : TeamRequest Unit := do
  let found ← Request.read .teamManager fun store =>
    store.getTeamManagerScope actorId sessionScope
  let scope ← Request.ofExcept found
  let member ← Request.read .teamMember fun store =>
    store.ensureTeamMemberInScope targetUserId scope.organizationId
  let _ ← Request.ofExcept member
  let normalizedAssignments ← Request.ofExcept
    (normalizeTeamAssignments assignments "team assignment update")
  let inScope ← Request.read .stations fun store =>
    store.validateStationsInOrganizationScope
      (normalizedAssignments.map NormalizedAssignment.stationId) scope.organizationId
  Request.ofExcept inScope
  let _ ← (TeamWrite.replaceTeamAssignments call targetUserId scope.organizationId
    normalizedAssignments).commit
  pure ()

def parseCanonicalRoleKey (value : Option String) : Except AuthException CanonicalRoleKey :=
  match value.bind CanonicalRoleKey.ofText with
  | some roleKey => .ok roleKey
  | none =>
    .error (.badRequest ("Invalid canonical role key \"" ++ value.getD "undefined" ++ "\""))

def parseCustomRoleStatus (value : Option String) : Except AuthException CustomRoleStatus :=
  match orText value none with
  | none | some "ACTIVE" => .ok .active
  | some "DRAFT" => .ok .draft
  | some "SUSPENDED" => .ok .suspended
  | some "ARCHIVED" => .ok .archived
  | some other => .error (.badRequest ("Invalid custom role status \"" ++ other ++ "\""))

def parseMembershipStatus (value : Option String) : Except AuthException MembershipStatus :=
  match orText value none with
  | none | some "ACTIVE" => .ok .active
  | some "INVITED" => .ok .invited
  | some "SUSPENDED" => .ok .suspended
  | some "REVOKED" => .ok .revoked
  | some other => .error (.badRequest ("Invalid membership status \"" ++ other ++ "\""))

def permissionRefusal (baseRoleKey : CanonicalRoleKey) : List String → Option AuthException
  | [] => none
  | permission :: rest =>
    if !isTenantScopedPermission permission then
      some (.badRequest ("Permission \"" ++ permission ++ "\" is not tenant scoped"))
    else if !baseRoleKey.definition.permissions.contains permission then
      some (.badRequest ("Permission \"" ++ permission ++ "\" exceeds the \"" ++
        baseRoleKey.text ++ "\" permission envelope"))
    else permissionRefusal baseRoleKey rest

def validateTenantPermissionEnvelope (baseRoleKey : CanonicalRoleKey)
    (requestedPermissions : List String) : Except AuthException (List String) :=
  let normalizedPermissions := sortedSet ((requestedPermissions.map trim).filter (· ≠ ""))
  match permissionRefusal baseRoleKey normalizedPermissions with
  | some refusal => .error refusal
  | none => .ok normalizedPermissions

def isKeyCharacter (c : Char) : Bool :=
  c.isLower || c.isDigit

/-- Lower case, with one underscore between the runs of letters and digits. -/
def normalizeCustomRoleKey (value : String) : Except AuthException String :=
  let runs := ((toLowerCase (trim value)).toList.splitOnP fun c => !isKeyCharacter c).filter
    fun run => !run.isEmpty
  if runs.isEmpty then .error (.badRequest "Custom role key could not be derived")
  else .ok (join "_" (runs.map String.ofList))

def createCustomRole (call : Call) (organizationId : String) (dto : CreateTenantCustomRoleDto) :
    TeamRequest Unit := do
  let baseRoleKey ← Request.ofExcept (parseCanonicalRoleKey (some dto.baseRoleKey))
  Request.ofExcept (check baseRoleKey.definition.customizable
    (.badRequest ("Base role \"" ++ dto.baseRoleKey ++ "\" cannot be customized")))
  let permissions ← Request.ofExcept
    (validateTenantPermissionEnvelope baseRoleKey dto.permissions)
  let key ← Request.ofExcept
    (normalizeCustomRoleKey ((orText dto.key none).getD dto.name))
  let status ← Request.ofExcept (parseCustomRoleStatus dto.status)
  let _ ← (TeamWrite.createCustomRole
    { id := call.uuid 0
      organizationId
      key
      name := trim dto.name
      baseRoleKey
      status
      permissions }).commit
  pure ()

def updateCustomRole (organizationId customRoleId : String) (dto : UpdateTenantCustomRoleDto) :
    TeamRequest Unit := do
  let found ← Request.read .customRole fun store =>
    store.customRoles.rows.find? fun row =>
      row.id = customRoleId && row.organizationId = organizationId
  let existing ← Request.ofExcept
    (found.elim (.error (.notFound "Custom role not found")) .ok)
  let permissions ← Request.ofExcept
    (dto.permissions.mapM (validateTenantPermissionEnvelope existing.baseRoleKey))
  let status ← Request.ofExcept
    (if dto.status.isNone then .ok none else (parseCustomRoleStatus dto.status).map some)
  let _ ← (TeamWrite.updateCustomRole existing.id
    { name := orText (dto.name.map trim) none
      status
      permissions }).commit
  pure ()

def Store.customRoleOf (store : Store) (organizationId : String) (customRoleId : Option String) :
    Except AuthException (Option TenantCustomRole) :=
  match orText customRoleId none with
  | none => .ok none
  | some id =>
    match store.customRoles.rows.find? fun row =>
        row.id = id && row.organizationId = organizationId with
    | some customRole => .ok (some customRole)
    | none => .error (.notFound "Custom role not found")

def assignMembership (organizationId : String) (dto : AssignTenantMembershipDto)
    (actorId : String) : TeamRequest Unit := do
  let found ← Request.read .customRole fun store =>
    store.customRoleOf organizationId dto.customRoleId
  let customRole ← Request.ofExcept found
  let roleKey ← Request.ofExcept (customRole.elim (parseCanonicalRoleKey dto.roleKey)
    fun customRole => .ok customRole.baseRoleKey)
  let storageRole ← Request.ofExcept ((resolveStorageRole roleKey).elim
    (.error (.badRequest ("Unsupported role key \"" ++ roleKey.text ++ "\""))) .ok)
  let status ← Request.ofExcept (parseMembershipStatus dto.status)
  let customRoleId := orText (customRole.map TenantCustomRole.id) none
  let _ ← (TeamWrite.assignOrganizationMembership
    { userId := dto.userId
      organizationId
      role := storageRole
      canonicalRoleKey := some roleKey
      customRoleId
      customRoleName := orText (customRole.map TenantCustomRole.name) none
      ownerCapability := none
      status
      invitedBy := some actorId }).commit
  let _ ← (TeamWrite.upsertTenantMembership
    { userId := dto.userId
      organizationId
      roleKey
      customRoleId
      status }).commit
  pure ()

inductive TeamOperation
  | inviteUser (call : Call) (dto : InviteUserDto) (inviterId : String)
  | inviteTeamMember (call : Call) (dto : InviteUserDto) (inviterId : String)
      (sessionScope : Option SessionTenantScopeOptions)
  | activateInvitation (call : Call) (activation : Activation)
  | updateTeamMember (call : Call) (targetUserId : String) (dto : UpdateUserDto) (actorId : String)
      (sessionScope : Option SessionTenantScopeOptions)
  | replaceTeamAssignments (call : Call) (targetUserId : String)
      (assignments : List TeamStationAssignmentDto) (actorId : String)
      (sessionScope : Option SessionTenantScopeOptions)
  | createCustomRole (call : Call) (organizationId : String) (dto : CreateTenantCustomRoleDto)
  | updateCustomRole (organizationId customRoleId : String) (dto : UpdateTenantCustomRoleDto)
  | assignMembership (organizationId : String) (dto : AssignTenantMembershipDto)
      (actorId : String)

def TeamOperation.program : TeamOperation → TeamRequest Unit
  | inviteUser call dto inviterId => Auth.inviteUser call dto inviterId
  | inviteTeamMember call dto inviterId sessionScope =>
    Auth.inviteTeamMember call dto inviterId sessionScope
  | activateInvitation call activation => do
    let _ ← Auth.activateInvitation call activation
    pure ()
  | updateTeamMember call targetUserId dto actorId sessionScope =>
    Auth.updateTeamMember call targetUserId dto actorId sessionScope
  | replaceTeamAssignments call targetUserId assignments actorId sessionScope =>
    Auth.replaceTeamAssignments call targetUserId assignments actorId sessionScope
  | createCustomRole call organizationId dto => Auth.createCustomRole call organizationId dto
  | updateCustomRole organizationId customRoleId dto =>
    Auth.updateCustomRole organizationId customRoleId dto
  | assignMembership organizationId dto actorId =>
    Auth.assignMembership organizationId dto actorId

def TeamWrite.isOf : TeamOperation → TeamWrite → Bool
  | .inviteUser .., ensureEvzoneOrganization _ | .inviteUser .., revokeInvitations ..
  | .inviteUser .., inviteMember .. => true
  | .inviteTeamMember .., ensureEvzoneOrganization _ | .inviteTeamMember .., revokeInvitations ..
  | .inviteTeamMember .., inviteMember .. => true
  | .activateInvitation .., activateInvitation .. => true
  | .updateTeamMember .., updateTeamMember .. => true
  | .replaceTeamAssignments .., replaceTeamAssignments .. => true
  | .createCustomRole .., createCustomRole _ => true
  | .updateCustomRole .., updateCustomRole .. => true
  | .assignMembership .., assignOrganizationMembership _
  | .assignMembership .., upsertTenantMembership _ => true
  | _, _ => false

section Transacts

variable {allowed : TeamWrite → Prop}

theorem TeamWrite.transacts_commit {write : TeamWrite} (isAllowed : allowed write) :
    write.commit.Transacts allowed :=
  (Request.transacts_commit _ isAllowed).bind fun _ => transacts_ofExcept _

theorem transacts_inviteOrganization (call : Call) (inviter : User) (inviteRole : UserRole)
    (ensures : allowed (.ensureEvzoneOrganization call)) :
    (inviteOrganization call inviter inviteRole).Transacts allowed := by
  rw [inviteOrganization]
  split
  · exact TeamWrite.transacts_commit ensures
  · split
    · exact transacts_pure _
    · exact .throw _

theorem transacts_inviteUser (call : Call) (dto : InviteUserDto) (inviterId : String)
    (ensures : allowed (.ensureEvzoneOrganization call))
    (revokes : ∀ email organizationId, allowed (.revokeInvitations email organizationId))
    (invites : ∀ invite, allowed (.inviteMember call invite)) :
    (inviteUser call dto inviterId).Transacts allowed :=
  (transacts_ofExcept _).bind fun _ => (transacts_read _ _).bind fun _ =>
    (transacts_ofExcept _).bind fun _ => (transacts_ofExcept _).bind fun _ =>
      (transacts_ofExcept _).bind fun _ => (transacts_ofExcept _).bind fun _ =>
        (transacts_ofExcept _).bind fun _ =>
          (transacts_inviteOrganization call _ _ ensures).bind fun _ =>
            (transacts_read _ _).bind fun _ => (transacts_ofExcept _).bind fun _ =>
              (transacts_read _ _).bind fun _ => (transacts_read _ _).bind fun _ =>
                (transacts_ofExcept _).bind fun _ =>
                  (TeamWrite.transacts_commit (revokes _ _)).bind fun _ =>
                    (TeamWrite.transacts_commit (invites _)).bind fun _ => transacts_pure _

theorem TeamWrite.transacts_isOf {operation : TeamOperation} {write : TeamWrite}
    (isOf : write.isOf operation = true) :
    write.commit.Transacts fun write => write.isOf operation = true :=
  transacts_commit isOf

theorem transacts_program (operation : TeamOperation) :
    operation.program.Transacts fun write => write.isOf operation = true := by
  cases operation with
  | inviteUser call dto inviterId =>
    exact transacts_inviteUser call dto inviterId rfl (fun _ _ => rfl) fun _ => rfl
  | inviteTeamMember call dto inviterId sessionScope =>
    exact (transacts_read _ _).bind fun _ => (transacts_ofExcept _).bind fun _ =>
      (transacts_ofExcept _).bind fun _ => (transacts_ofExcept _).bind fun _ =>
        (transacts_ofExcept _).bind fun _ => (transacts_ofExcept _).bind fun _ =>
          (transacts_read _ _).bind fun _ => (transacts_ofExcept _).bind fun _ =>
            transacts_inviteUser _ _ _ rfl (fun _ _ => rfl) fun _ => rfl
  | activateInvitation call activation =>
    exact (TeamWrite.transacts_isOf rfl).bind fun _ => transacts_pure _
  | updateTeamMember call targetUserId dto actorId sessionScope =>
    exact (transacts_read _ _).bind fun _ => (transacts_ofExcept _).bind fun _ =>
      (transacts_read _ _).bind fun _ => (transacts_ofExcept _).bind fun _ =>
        (transacts_ofExcept _).bind fun _ => (transacts_ofExcept _).bind fun _ =>
          (TeamWrite.transacts_isOf rfl).bind fun _ => transacts_pure _
  | replaceTeamAssignments call targetUserId assignments actorId sessionScope =>
    exact (transacts_read _ _).bind fun _ => (transacts_ofExcept _).bind fun _ =>
      (transacts_read _ _).bind fun _ => (transacts_ofExcept _).bind fun _ =>
        (transacts_ofExcept _).bind fun _ => (transacts_read _ _).bind fun _ =>
          (transacts_ofExcept _).bind fun _ =>
            (TeamWrite.transacts_isOf rfl).bind fun _ => transacts_pure _
  | createCustomRole call organizationId dto =>
    exact (transacts_ofExcept _).bind fun _ => (transacts_ofExcept _).bind fun _ =>
      (transacts_ofExcept _).bind fun _ => (transacts_ofExcept _).bind fun _ =>
        (transacts_ofExcept _).bind fun _ =>
          (TeamWrite.transacts_isOf rfl).bind fun _ => transacts_pure _
  | updateCustomRole organizationId customRoleId dto =>
    exact (transacts_read _ _).bind fun _ => (transacts_ofExcept _).bind fun _ =>
      (transacts_ofExcept _).bind fun _ => (transacts_ofExcept _).bind fun _ =>
        (TeamWrite.transacts_isOf rfl).bind fun _ => transacts_pure _
  | assignMembership organizationId dto actorId =>
    exact (transacts_read _ _).bind fun _ => (transacts_ofExcept _).bind fun _ =>
      (transacts_ofExcept _).bind fun _ => (transacts_ofExcept _).bind fun _ =>
        (transacts_ofExcept _).bind fun _ =>
          (TeamWrite.transacts_isOf rfl).bind fun _ =>
            (TeamWrite.transacts_isOf rfl).bind fun _ => transacts_pure _

end Transacts

theorem TeamWrite.of_effect {runtime : AuthRuntime} {write : TeamWrite} {store after : Store}
    {result : Except AuthException String}
    (happens : write.effect runtime store = some (after, result)) :
    after = store ∨ ∃ value, write.run runtime store = .ok (after, value) := by
  rw [effect] at happens
  split at happens
  · rename_i after' value done
    cases happens
    exact Or.inr ⟨value, done⟩
  · cases happens
    exact Or.inl rfl

def TeamWrite.succeeds (runtime : AuthRuntime) (store : Store) (write : TeamWrite) : Bool :=
  (write.run runtime store).isOk

theorem TeamWrite.leaves_commit_bind {α : Type} (runtime : AuthRuntime) (write : TeamWrite)
    (next : String → TeamRequest α) (limit : Option Nat) (store : Store) :
    (write.commit >>= next).leaves (TeamWrite.effect runtime) limit store =
      match nextLimit limit, write.run runtime store with
      | some remaining, .ok (after, value) =>
        (next value).leaves (TeamWrite.effect runtime) remaining after
      | _, _ => store := by
  rw [TeamWrite.commit, bind_assoc]
  rcases isNext : nextLimit limit with _ | remaining
  · rw [leaves_commit_bind_of_none isNext]
  · rcases done : write.run runtime store with exception | ⟨after, value⟩
    · have happens : write.effect runtime store = some (store, .error exception) := by
        rw [TeamWrite.effect, done]
      rw [Request.leaves_commit_bind isNext happens]
      rfl
    · have happens : write.effect runtime store = some (after, .ok value) := by
        rw [TeamWrite.effect, done]
      rw [Request.leaves_commit_bind isNext happens]
      rfl

theorem TeamWrite.commitsMeet_commit_bind {α : Type} {runtime : AuthRuntime}
    {condition : TeamWrite → Store → Prop} {write : TeamWrite} {next : String → TeamRequest α}
    {limit remaining : Option Nat} (isNext : nextLimit limit = some remaining)
    {store after : Store} {value : String} (done : write.run runtime store = .ok (after, value)) :
    (write.commit >>= next).CommitsMeet (TeamWrite.effect runtime) condition limit store ↔
      condition write store ∧
        (next value).CommitsMeet (TeamWrite.effect runtime) condition remaining after := by
  have happens : write.effect runtime store = some (after, .ok value) := by
    rw [TeamWrite.effect, done]
  rw [TeamWrite.commit, bind_assoc, Request.commitsMeet_commit_bind isNext happens]
  rfl

/-- An operation that comes to its end, or breaks off after some of its commits. -/
structure TeamStep where
  operation : TeamOperation
  breaksOffAfter : Option Nat

def TeamStep.next (runtime : AuthRuntime) (store : Store) (step : TeamStep) : Store :=
  step.operation.program.leaves (TeamWrite.effect runtime) step.breaksOffAfter store

namespace Sample

def authRuntime : AuthRuntime where
  hashToken token := token
  comparePassword password hash := password = hash
  hashPassword password := password

def call : Call where
  now := 0
  uuid index := String.ofList (List.replicate index 'i')
  inviteToken := "token"
  temporaryPassword := "secret"

def userOf (id : String) (role : UserRole) : User where
  id := id
  name := id
  email := some (id ++ "@acme.test")
  phone := none
  passwordHash := none
  role := role
  status := "Active"
  ownerCapability := none
  twoFactorSecret := none
  twoFactorEnabled := false
  mfaRequired := false
  mustChangePassword := false
  otpCode := none
  otpExpiresAt := none
  emailVerifiedAt := none
  organizationId := some "acme"
  providerId := none
  lastStationAssignmentId := none

def memberOf (userId : String) (role : UserRole) (customRoleId : Option String) :
    OrganizationMembership where
  userId := userId
  organizationId := "acme"
  role := role
  canonicalRoleKey := some role.canonicalRole
  customRoleId := customRoleId
  customRoleName := none
  ownerCapability := none
  status := .active
  invitedBy := none

def team : Store :=
  { Store.empty with
    users :=
      { rows := [userOf "ada" .stationAdmin, userOf "ben" .manager]
        nodup := by decide }
    organizations := { rows := [⟨"acme", "Acme"⟩], nodup := by decide }
    memberships :=
      { rows := [memberOf "ada" .stationAdmin none, memberOf "ben" .manager none]
        nodup := by decide }
    stations := { rows := [⟨"depot", "Depot", some "acme"⟩], nodup := by decide } }

def whole (operation : TeamOperation) : TeamStep :=
  ⟨operation, none⟩

end Sample

def TeamStep.CommitsMeet (step : TeamStep) (runtime : AuthRuntime)
    (condition : TeamWrite → Store → Prop) (store : Store) : Prop :=
  step.operation.program.CommitsMeet (TeamWrite.effect runtime) condition step.breaksOffAfter store

end Csms.Auth
