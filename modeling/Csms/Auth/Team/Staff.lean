import Csms.Auth.Team.Service
import Csms.Database.Part

/-!
# The team and its payouts

The operations of a manager on the team: what the service of the team does, the views of
the members and of their assignments, and the payout profiles of the staff.
-/

namespace Csms.Auth

open Js Database

inductive PayoutMethod
  | mobileMoney
  | bankTransfer
  | cashPickup
deriving DecidableEq

structure StaffPayoutProfile where
  userId : String
  method : PayoutMethod
  beneficiaryName : String
  (providerName bankName accountNumber phoneNumber : Option String)
  currency : String
  isActive : Bool
  (createdByUserId updatedByUserId : Option String)
deriving DecidableEq

structure StaffPayoutProfileDto where
  method : PayoutMethod
  beneficiaryName : String
  (providerName bankName accountNumber phoneNumber currency : Option String)
  isActive : Option Bool

structure StaffStore where
  auth : Store
  payoutProfiles : Table StaffPayoutProfile StaffPayoutProfile.userId

inductive StaffQuery
  | team (query : TeamQuery)
  | memberships
  | assignments
  | payoutProfiles
  | payoutProfile

inductive StaffWrite
  | team (write : TeamWrite)
  | upsertStaffPayoutProfile (profile : StaffPayoutProfile)

abbrev StaffWrite.Result : StaffWrite → Type
  | team _ => Except AuthException String
  | upsertStaffPayoutProfile _ => StaffPayoutProfile

abbrev StaffRequest (α : Type) :=
  Request StaffStore StaffQuery StaffWrite StaffWrite.Result AuthException α

def StaffPayoutProfile.updateTo (profile old : StaffPayoutProfile) : StaffPayoutProfile :=
  { profile with
    userId := old.userId
    createdByUserId := old.createdByUserId }

def StaffStore.upsertStaffPayoutProfile (store : StaffStore) (profile : StaffPayoutProfile) :
    StaffStore :=
  { store with
    payoutProfiles := store.payoutProfiles.upsert profile profile.updateTo fun _ => rfl }

def StaffWrite.effect (runtime : AuthRuntime) :
    (write : StaffWrite) → StaffStore → Option (StaffStore × write.Result)
  | team write, store =>
    (write.effect runtime store.auth).map fun outcome =>
      ({ store with auth := outcome.1 }, outcome.2)
  | upsertStaffPayoutProfile profile, store =>
    let after := store.upsertStaffPayoutProfile profile
    some (after, (after.payoutProfiles.find? profile.userId).getD profile)

def onStaff {α : Type} (request : TeamRequest α) : StaffRequest α :=
  request.onPart StaffStore.auth .team .team fun _ result => result

section Operations

variable (actorId : String) (sessionScope : Option SessionTenantScopeOptions)

def teamManagerScope : StaffRequest TeamManagerScope := do
  let found ← Request.read (.team .teamManager) fun store =>
    store.auth.getTeamManagerScope actorId sessionScope
  Request.ofExcept found

def teamMemberInScope (targetUserId organizationId : String) : StaffRequest User := do
  let member ← Request.read (.team .teamMember) fun store =>
    store.auth.ensureTeamMemberInScope targetUserId organizationId
  Request.ofExcept member

structure TeamMember where
  (id name : String)
  (email phone : Option String)
  role : UserRole
  (customRoleId customRoleName : Option String)
  (status displayStatus : String)
  ownerCapability : Option StationOwnerCapability
  activeAssignments : Nat
  hasPayoutProfile : Bool

/-- The memberships of the organization that are not revoked, the latest first, with their
users. -/
def Store.teamMemberships (store : Store) (organizationId : String) :
    List (OrganizationMembership × User) :=
  (store.memberships.rows.reverse.filter fun row =>
    row.organizationId = organizationId && (row.status = .active || row.status = .invited ||
      row.status = .suspended)).filterMap fun row => (store.user? row.userId).map (row, ·)

def Store.assignedUserIds (store : Store) (userIds : List String) (organizationId : String) :
    List String :=
  (store.stationTeamAssignments.rows.filter fun row =>
    userIds.contains row.userId && row.isActive &&
      store.isStationOf organizationId row.stationId).map StationTeamAssignment.userId

def teamMember (assignedUserIds payoutProfileUserIds : List String)
    (membership : OrganizationMembership) (user : User) : TeamMember where
  id := user.id
  name := user.name
  email := user.email
  phone := user.phone
  role := membership.role
  customRoleId := membership.customRoleId
  customRoleName := membership.customRoleName
  status := user.status
  displayStatus :=
    if user.status = "Active" ∧ requiresStationAssignments membership.role ∧
        assignedUserIds.count user.id = 0 then "Active-Unassigned"
    else user.status
  ownerCapability := membership.ownerCapability.or user.ownerCapability
  activeAssignments := assignedUserIds.count user.id
  hasPayoutProfile := payoutProfileUserIds.contains user.id

def findTeamMembers : StaffRequest (List TeamMember) := do
  let scope ← teamManagerScope actorId sessionScope
  let memberships ← Request.read .memberships fun store =>
    store.auth.teamMemberships scope.organizationId
  let userIds := memberships.map fun member => member.1.userId
  if userIds.isEmpty then pure []
  else do
    let assignedUserIds ← Request.read .assignments fun store =>
      store.auth.assignedUserIds userIds scope.organizationId
    let payoutProfileUserIds ← Request.read .payoutProfiles fun store =>
      (store.payoutProfiles.rows.map StaffPayoutProfile.userId).filter userIds.contains
    pure (memberships.map fun member =>
      teamMember assignedUserIds payoutProfileUserIds member.1 member.2)

/-- The assignments of the user at the stations of the organization with the names of the
stations, the primary ones first. -/
def Store.teamAssignments (store : Store) (userId organizationId : String) :
    List (StationTeamAssignment × Option String) :=
  let assignments := store.stationTeamAssignments.rows.filter fun row =>
    row.userId = userId && store.isStationOf organizationId row.stationId
  ((assignments.filter fun row => row.isPrimary) ++
    assignments.filter fun row => !row.isPrimary).map fun row =>
      (row, orText ((store.stations.find? row.stationId).map Station.name) none)

def getTeamAssignments (targetUserId : String) :
    StaffRequest (String × List (StationTeamAssignment × Option String)) := do
  let scope ← teamManagerScope actorId sessionScope
  let target ← teamMemberInScope targetUserId scope.organizationId
  let assignments ← Request.read .assignments fun store =>
    store.auth.teamAssignments targetUserId scope.organizationId
  pure (target.id, assignments)

def validatePayoutProfileInput (payload : StaffPayoutProfileDto) : Except AuthException Unit := do
  check (payload.method ≠ .mobileMoney || isSet payload.phoneNumber)
    (.badRequest "phoneNumber is required for MOBILE_MONEY payout profiles")
  check (payload.method ≠ .bankTransfer ||
      (isSet payload.bankName && isSet payload.accountNumber))
    (.badRequest "bankName and accountNumber are required for BANK_TRANSFER payout profiles")

def getStaffPayoutProfile (targetUserId : String) :
    StaffRequest (Option StaffPayoutProfile) := do
  let scope ← teamManagerScope actorId sessionScope
  let _ ← teamMemberInScope targetUserId scope.organizationId
  Request.read .payoutProfile fun store => store.payoutProfiles.find? targetUserId

def StaffPayoutProfileDto.toProfile (payoutDto : StaffPayoutProfileDto) (targetUserId : String) :
    StaffPayoutProfile where
  userId := targetUserId
  method := payoutDto.method
  beneficiaryName := payoutDto.beneficiaryName
  providerName := orText payoutDto.providerName none
  bankName := orText payoutDto.bankName none
  accountNumber := orText payoutDto.accountNumber none
  phoneNumber := orText payoutDto.phoneNumber none
  currency := (orText payoutDto.currency none).getD "UGX"
  isActive := payoutDto.isActive.getD true
  createdByUserId := some actorId
  updatedByUserId := some actorId

def upsertStaffPayoutProfile (targetUserId : String) (payoutDto : StaffPayoutProfileDto) :
    StaffRequest StaffPayoutProfile := do
  let scope ← teamManagerScope actorId sessionScope
  let _ ← teamMemberInScope targetUserId scope.organizationId
  Request.ofExcept (validatePayoutProfileInput payoutDto)
  Request.commit (StaffWrite.upsertStaffPayoutProfile (payoutDto.toProfile actorId targetUserId))
    .databaseError

end Operations

inductive StaffOperation
  | findTeamMembers
  | inviteTeamMember (call : Call) (inviteDto : InviteUserDto)
  | updateTeamMember (call : Call) (targetUserId : String) (updateDto : UpdateUserDto)
  | getTeamAssignments (targetUserId : String)
  | replaceTeamAssignments (call : Call) (targetUserId : String)
      (assignments : List TeamStationAssignmentDto)
  | getStaffPayoutProfile (targetUserId : String)
  | upsertStaffPayoutProfile (targetUserId : String) (payoutDto : StaffPayoutProfileDto)

def StaffOperation.program (actorId : String) (sessionScope : Option SessionTenantScopeOptions) :
    StaffOperation → StaffRequest Unit
  | findTeamMembers => do
    let _ ← Auth.findTeamMembers actorId sessionScope
    pure ()
  | inviteTeamMember call inviteDto =>
    onStaff (Auth.inviteTeamMember call inviteDto actorId sessionScope)
  | updateTeamMember call targetUserId updateDto =>
    onStaff (Auth.updateTeamMember call targetUserId updateDto actorId sessionScope)
  | getTeamAssignments targetUserId => do
    let _ ← Auth.getTeamAssignments actorId sessionScope targetUserId
    pure ()
  | replaceTeamAssignments call targetUserId assignments => do
    onStaff (Auth.replaceTeamAssignments call targetUserId assignments actorId sessionScope)
    let _ ← Auth.getTeamAssignments actorId sessionScope targetUserId
    pure ()
  | getStaffPayoutProfile targetUserId => do
    let _ ← Auth.getStaffPayoutProfile actorId sessionScope targetUserId
    pure ()
  | upsertStaffPayoutProfile targetUserId payoutDto => do
    let _ ← Auth.upsertStaffPayoutProfile actorId sessionScope targetUserId payoutDto
    pure ()

/-- A request of the service of the team that begins with the scope of the manager. -/
theorem onStaff_scope {α : Type} (actorId : String)
    (sessionScope : Option SessionTenantScopeOptions) (rest : TeamManagerScope → TeamRequest α) :
    onStaff (do
      let found ← Request.read .teamManager fun store =>
        store.getTeamManagerScope actorId sessionScope
      let scope ← Request.ofExcept found
      rest scope) = teamManagerScope actorId sessionScope >>= fun scope => onStaff (rest scope) := by
  simp only [onStaff, teamManagerScope, onPart_bind, onPart_read,
    onPart_ofExcept, bind_assoc]

/-- Every operation begins with the scope of the manager. -/
theorem StaffOperation.exists_program_eq (operation : StaffOperation) (actorId : String)
    (sessionScope : Option SessionTenantScopeOptions) :
    ∃ rest, operation.program actorId sessionScope =
      teamManagerScope actorId sessionScope >>= rest := by
  cases operation with
  | findTeamMembers =>
    rw [program, Auth.findTeamMembers, bind_assoc]
    exact ⟨_, rfl⟩
  | inviteTeamMember call inviteDto =>
    rw [program, Auth.inviteTeamMember]
    exact ⟨_, onStaff_scope actorId sessionScope _⟩
  | updateTeamMember call targetUserId updateDto =>
    rw [program, Auth.updateTeamMember]
    exact ⟨_, onStaff_scope actorId sessionScope _⟩
  | getTeamAssignments targetUserId =>
    rw [program, Auth.getTeamAssignments, bind_assoc]
    exact ⟨_, rfl⟩
  | replaceTeamAssignments call targetUserId assignments =>
    rw [program, Auth.replaceTeamAssignments, onStaff_scope, bind_assoc]
    exact ⟨_, rfl⟩
  | getStaffPayoutProfile targetUserId =>
    rw [program, Auth.getStaffPayoutProfile, bind_assoc]
    exact ⟨_, rfl⟩
  | upsertStaffPayoutProfile targetUserId payoutDto =>
    rw [program, Auth.upsertStaffPayoutProfile, bind_assoc]
    exact ⟨_, rfl⟩

/-- Without a scope an operation ends with the exception, and changes nothing. -/
theorem StaffOperation.alone_of_scope_error {runtime : AuthRuntime} {store : StaffStore}
    {actorId : String} {sessionScope : Option SessionTenantScopeOptions} {exception : AuthException}
    (refused : store.auth.getTeamManagerScope actorId sessionScope = .error exception)
    (operation : StaffOperation) :
    (operation.program actorId sessionScope).alone (StaffWrite.effect runtime) store =
      (store, .error exception) := by
  obtain ⟨rest, isProgram⟩ := operation.exists_program_eq actorId sessionScope
  rw [isProgram, teamManagerScope, bind_assoc, alone_read_bind, refused]
  rfl

end Csms.Auth
