import Mathlib.Algebra.Order.BigOperators.Group.List
import Csms.Auth.Team.Staff

/-!
# The scope of a team manager

Whoever manages a team has to be a manager of the organization that the session works in, at
the moment of the operation.  The scope is taken from the session, and the role from the
membership there or else from the user, so a role that a user has elsewhere can stand in for a
membership.
-/

namespace Csms.Auth

open Js Database

def SelectsTenant (sessionScope : Option SessionTenantScopeOptions) (tenantId : String) : Prop :=
  ∃ scope, sessionScope = some scope ∧
    (scope.sessionScopeType = some .tenant ∨ scope.actingAsTenant = some true) ∧
      scope.selectedTenantId.map trim = some tenantId ∧ tenantId ≠ ""

theorem orText_none_eq_some_iff {text : Option String} {value : String} :
    orText text none = some value ↔ text = some value ∧ value ≠ "" := by
  rcases text with _ | text
  · simp [orText]
  · rw [orText]
    split
    · rename_i isEmpty
      simp only [reduceCtorEq, Option.some.injEq, false_iff, not_and, not_not]
      exact fun same => same.symm.trans isEmpty
    · rename_i isGiven
      simp only [Option.some.injEq, iff_self_and]
      exact fun same => same ▸ isGiven

theorem resolveSessionScopedTenantId_eq_some_iff
    {sessionScope : Option SessionTenantScopeOptions} {tenantId : String} :
    resolveSessionScopedTenantId sessionScope = some tenantId ↔
      SelectsTenant sessionScope tenantId := by
  rcases sessionScope with _ | scope
  · simp [resolveSessionScopedTenantId, SelectsTenant]
  · simp only [resolveSessionScopedTenantId, SelectsTenant, Option.some.injEq, exists_eq_left']
    split
    · rename_i isExplicit
      simp only [isExplicit, true_and]
      exact orText_none_eq_some_iff
    · rename_i isNot
      simp only [isNot, false_and, reduceCtorEq]

variable {actor : User} {scope : TeamManagerScope}

namespace Store

variable (store : Store)

def isActiveMember (userId organizationId : String) : Bool :=
  (store.membership? userId organizationId).any fun row => row.status = .active

def managesTeam (userId organizationId : String) : Bool :=
  (store.membership? userId organizationId).any fun row =>
    row.status = .active && isTeamManagerRole row.role

def activeMembershipsOf (userId : String) : List OrganizationMembership :=
  store.memberships.rows.filter fun row => row.userId = userId && row.status = .active

/-- The organization that a user works in during a session: the selected tenant, or else that
of the only active membership. -/
inductive WorksIn (userId : String) (sessionScope : Option SessionTenantScopeOptions) :
    String → Prop
  | selected (tenantId : String) :
      SelectsTenant sessionScope tenantId → WorksIn userId sessionScope tenantId
  | member (row : OrganizationMembership) :
      (∀ tenantId, ¬SelectsTenant sessionScope tenantId) →
      store.activeMembershipsOf userId = [row] → row.organizationId ≠ "" →
      WorksIn userId sessionScope row.organizationId

variable {store : Store} {userId : String} {sessionScope : Option SessionTenantScopeOptions}

variable {organizationId : String}

theorem worksIn_iff : orText (resolveScopedOrganizationId (store.activeMembershipsOf userId)
        (resolveSessionScopedTenantId sessionScope)) none = some organizationId ↔
      store.WorksIn userId sessionScope organizationId := by
  rw [orText_none_eq_some_iff]
  rcases selected : resolveSessionScopedTenantId sessionScope with _ | tenantId
  · have notSelected : ∀ tenantId, ¬SelectsTenant sessionScope tenantId := by
      intro tenantId selects
      rw [resolveSessionScopedTenantId_eq_some_iff.mpr selects] at selected
      contradiction
    constructor
    · rintro ⟨resolved, isGiven⟩
      rcases isOnly : store.activeMembershipsOf userId with _ | ⟨row, _ | ⟨other, rest⟩⟩
      · simp [isOnly, resolveScopedOrganizationId] at resolved
      · rw [isOnly, resolveScopedOrganizationId, Option.some.injEq] at resolved
        subst resolved
        exact .member row notSelected isOnly isGiven
      · simp [isOnly, resolveScopedOrganizationId] at resolved
    · rintro (⟨_, selects⟩ | ⟨row, _, isOnly, isGiven⟩)
      · exact absurd selects (notSelected _)
      · rw [isOnly]
        exact ⟨rfl, isGiven⟩
  · have selects := resolveSessionScopedTenantId_eq_some_iff.mp selected
    constructor
    · rintro ⟨resolved, _⟩
      rw [resolveScopedOrganizationId, Option.some.injEq] at resolved
      subst resolved
      exact .selected tenantId selects
    · rintro (⟨_, other⟩ | ⟨_, notSelected, _⟩)
      · have same := resolveSessionScopedTenantId_eq_some_iff.mpr other
        rw [selected] at same
        cases same
        obtain ⟨_, _, _, _, isGiven⟩ := selects
        exact ⟨rfl, isGiven⟩
      · exact absurd selects (notSelected tenantId)

theorem WorksIn.unique {first second : String} (left : store.WorksIn userId sessionScope first)
    (right : store.WorksIn userId sessionScope second) : first = second :=
  Option.some.inj ((worksIn_iff.mpr left).symm.trans (worksIn_iff.mpr right))

theorem mem_activeMembershipsOf_iff {row : OrganizationMembership} :
    row ∈ store.activeMembershipsOf userId ∧ row.organizationId = organizationId ↔
      store.membership? userId organizationId = some row ∧ row.status = .active := by
  rw [membership?, Table.find?_eq_some_iff, OrganizationMembership.key, activeMembershipsOf,
    List.mem_filter, Bool.and_eq_true, decide_eq_true_iff, decide_eq_true_iff, Prod.mk.injEq]
  tauto

theorem find?_activeMembershipsOf (organizationId : String) :
    ((store.activeMembershipsOf userId).find? fun row => row.organizationId = organizationId) =
      (store.membership? userId organizationId).filter fun row => row.status = .active := by
  rcases found : (store.activeMembershipsOf userId).find?
    fun row => row.organizationId = organizationId with _ | row
  · rw [found, eq_comm, Option.filter_eq_none_iff]
    intro row isRow isActive
    have member := mem_activeMembershipsOf_iff.mpr ⟨isRow, of_decide_eq_true isActive⟩
    exact List.find?_eq_none.mp found row member.1 (decide_eq_true member.2)
  · have isIn := List.find?_some found
    obtain ⟨isRow, isActive⟩ := mem_activeMembershipsOf_iff.mp
      ⟨List.mem_of_find?_eq_some found, of_decide_eq_true isIn⟩
    rw [found, isRow, Option.filter_some, if_pos (decide_eq_true isActive)]

theorem isActiveMember_iff : store.isActiveMember userId organizationId = true ↔
      ∃ row, store.membership? userId organizationId = some row ∧ row.status = .active := by
  simp [isActiveMember, Option.any_eq_true]

theorem managesTeam_iff : store.managesTeam userId organizationId = true ↔
      ∃ row, store.membership? userId organizationId = some row ∧ row.status = .active ∧
        isTeamManagerRole row.role = true := by
  simp [managesTeam, Option.any_eq_true]

theorem isActiveMember_of_managesTeam (manages : store.managesTeam userId organizationId = true) :
    store.isActiveMember userId organizationId = true := by
  obtain ⟨row, isRow, isActive, _⟩ := managesTeam_iff.mp manages
  exact isActiveMember_iff.mpr ⟨row, isRow, isActive⟩

def managerRole (store : Store) (actor : User) (organizationId : String) : UserRole :=
  (((store.membership? actor.id organizationId).filter fun row => row.status = .active).map
    OrganizationMembership.role).getD actor.role

/-- The scope as a choice of the organization and then of the role. -/
theorem getTeamManagerScope_eq (found : store.user? userId = some actor) (isGiven : userId ≠ "") :
    store.getTeamManagerScope userId sessionScope =
      match orText (resolveScopedOrganizationId (store.activeMembershipsOf userId)
        (resolveSessionScopedTenantId sessionScope)) none with
      | none =>
        .error (.unauthorized ("Authenticated user is missing an active tenant scope. " ++
          "Switch tenant before managing team members."))
      | some organizationId =>
        if isTeamManagerRole (store.managerRole actor organizationId) then
          .ok ⟨organizationId, store.managerRole actor organizationId⟩
        else .error (.unauthorized
          "Only approved platform and organization roles can manage team members") := by
  have sameUser : actor.id = userId := (Table.find?_eq_some_iff.mp found).2
  rw [getTeamManagerScope, found]
  simp only [check, isGiven, ne_eq, not_false_eq_true, decide_true, if_true]
  change (match orText (resolveScopedOrganizationId (store.activeMembershipsOf userId)
    (resolveSessionScopedTenantId sessionScope)) none with | none => _ | some organizationId => _) = _
  rcases orText (resolveScopedOrganizationId (store.activeMembershipsOf userId)
    (resolveSessionScopedTenantId sessionScope)) none with _ | organizationId
  · rfl
  · have sameRole : store.managerRole actor organizationId =
        (((store.activeMembershipsOf userId).find? fun row =>
          row.organizationId = organizationId).map OrganizationMembership.role).getD actor.role := by
      rw [managerRole, sameUser, find?_activeMembershipsOf]
    rw [activeMembershipsOf] at sameRole
    simp only [← sameRole]
    split <;> rfl

theorem getTeamManagerScope_eq_ok_iff (found : store.user? userId = some actor) :
    store.getTeamManagerScope userId sessionScope = .ok scope ↔
      userId ≠ "" ∧ store.WorksIn userId sessionScope scope.organizationId ∧
        scope.managerRole = store.managerRole actor scope.organizationId ∧
        isTeamManagerRole scope.managerRole = true := by
  by_cases isGiven : userId = ""
  · simp [isGiven, getTeamManagerScope, check, bind, Except.bind]
  · rw [getTeamManagerScope_eq found isGiven, ← worksIn_iff]
    rcases orText (resolveScopedOrganizationId (store.activeMembershipsOf userId)
      (resolveSessionScopedTenantId sessionScope)) none with _ | organizationId
    · simp
    · simp only [Option.some.injEq]
      split
      · rename_i isManager
        constructor
        · rintro ⟨⟩
          exact ⟨isGiven, rfl, rfl, isManager⟩
        · rintro ⟨_, rfl, sameRole, _⟩
          rw [← sameRole]
      · rename_i isNot
        simp only [reduceCtorEq, false_iff]
        rintro ⟨_, rfl, sameRole, isManager⟩
        exact isNot (sameRole ▸ isManager)

theorem getTeamManagerScope_eq_error {exception : AuthException}
    (refused : store.getTeamManagerScope userId sessionScope = .error exception) :
    ∃ message, exception = .unauthorized message := by
  by_cases isGiven : userId = ""
  · simp only [isGiven, getTeamManagerScope, check, ne_eq, not_true_eq_false, decide_false,
      Bool.false_eq_true, if_false] at refused
    exact ⟨_, (Except.error.inj refused).symm⟩
  · rcases found : store.user? userId with _ | actor
    · simp only [getTeamManagerScope, found, check, ne_eq, isGiven, not_false_eq_true, decide_true,
        if_true] at refused
      exact ⟨_, (Except.error.inj refused).symm⟩
    · rw [getTeamManagerScope_eq found isGiven] at refused
      split at refused
      · exact ⟨_, (Except.error.inj refused).symm⟩
      · split at refused
        · contradiction
        · exact ⟨_, (Except.error.inj refused).symm⟩

theorem isTeamManagerRole_managerRole
    (isActive : store.isActiveMember actor.id organizationId = true) :
    isTeamManagerRole (store.managerRole actor organizationId) =
      store.managesTeam actor.id organizationId := by
  obtain ⟨row, isRow, isActive⟩ := isActiveMember_iff.mp isActive
  rw [managerRole, managesTeam, isRow, Option.filter_some, if_pos (decide_eq_true isActive)]
  simp [isActive]

theorem managerRole_of_not_member (isNot : store.isActiveMember actor.id organizationId = false) :
    store.managerRole actor organizationId = actor.role := by
  have noRow : (store.membership? actor.id organizationId).filter
      (fun row => row.status = .active) = none := by
    rw [Option.filter_eq_none_iff]
    intro row isRow isActive
    rw [isActiveMember, isRow, Option.any_some] at isNot
    rw [isNot] at isActive
    contradiction
  rw [managerRole, noRow]
  rfl

theorem isActiveMember_of_only {row : OrganizationMembership}
    (isOnly : store.activeMembershipsOf userId = [row]) :
    store.isActiveMember userId row.organizationId = true :=
  isActiveMember_iff.mpr ⟨row, mem_activeMembershipsOf_iff.mp
    ⟨isOnly ▸ List.mem_singleton_self row, rfl⟩⟩

end Store

/-! ## What an operation may do -/

def TeamWrite.organization? : TeamWrite → Option String
  | revokeInvitations _ organizationId => some organizationId
  | inviteMember _ invite => some invite.organizationId
  | updateTeamMember _ update => some update.organizationId
  | replaceTeamAssignments _ _ organizationId _ => some organizationId
  | _ => none

/-- The user is a manager of the organization that the write is about. -/
def TeamWrite.isManagedBy (actorId : String) (write : TeamWrite) (store : Store) : Bool :=
  write.organization?.all (store.managesTeam actorId)

def StaffWrite.isManagedBy (actorId : String) (store : StaffStore) : StaffWrite → Bool
  | team write => write.isManagedBy actorId store.auth
  | upsertStaffPayoutProfile _ => true

/-- The operation ends without authorization, and changes nothing. -/
def StaffOperation.IsRefused (runtime : AuthRuntime) (store : StaffStore) (actorId : String)
    (sessionScope : Option SessionTenantScopeOptions) (operation : StaffOperation) : Prop :=
  ∃ message, (operation.program actorId sessionScope).alone (StaffWrite.effect runtime) store =
    (store, .error (.unauthorized message))

/-- The operation is refused unless its user is a manager of the organization that the session
works in, and each of its writes is about an organization that the user is then a manager of. -/
structure StaffOperation.RunsInOwnTeam (runtime : AuthRuntime) (store : StaffStore)
    (actorId : String) (sessionScope : Option SessionTenantScopeOptions)
    (operation : StaffOperation) : Prop where
  scope : operation.IsRefused runtime store actorId sessionScope ∨
    ∃ organizationId, store.auth.WorksIn actorId sessionScope organizationId ∧
      store.auth.managesTeam actorId organizationId = true
  writes : (operation.program actorId sessionScope).CommitsMeet (StaffWrite.effect runtime)
    (fun write store => write.isManagedBy actorId store = true) none store

/-- The roles and organizations that a user has outside of memberships give no scope that the
memberships do not give: the user has an active membership in the tenant of the session unless
the role is no manager's, and a manager's own organization is one to manage. -/
structure Store.IsBacked (store : Store) (actor : User)
    (sessionScope : Option SessionTenantScopeOptions) : Prop where
  selected : ∀ tenantId, SelectsTenant sessionScope tenantId →
    isTeamManagerRole actor.role = true → store.isActiveMember actor.id tenantId = true
  home : ∀ organizationId own, store.WorksIn actor.id sessionScope organizationId →
    store.managesTeam actor.id organizationId = true → actor.organizationId = some own →
      own ≠ "" → store.managesTeam actor.id own = true

section Operations

variable {runtime : AuthRuntime} {store : Store} {actorId : String}
  {sessionScope : Option SessionTenantScopeOptions}

variable {condition : TeamWrite → Store → Prop}

/-- A write happens, and then what comes after it unless it throws. -/
theorem TeamWrite.commitsMeet_bind_iff {α : Type} {write : TeamWrite}
    {next : String → TeamRequest α} :
    (write.commit >>= next).CommitsMeet (TeamWrite.effect runtime) condition none store ↔
      condition write store ∧ ∀ after value, write.run runtime store = .ok (after, value) →
        (next value).CommitsMeet (TeamWrite.effect runtime) condition none after := by
  rcases done : write.run runtime store with exception | ⟨after, value⟩
  · have happens : write.effect runtime store = some (store, .error exception) := by
      rw [TeamWrite.effect, done]
    rw [TeamWrite.commit, bind_assoc, Request.commitsMeet_commit_bind rfl happens]
    exact and_congr_right fun _ => iff_of_true trivial (by rintro _ _ ⟨⟩)
  · rw [TeamWrite.commitsMeet_commit_bind rfl done]
    apply and_congr_right
    intro _
    constructor
    · rintro met _ _ ⟨⟩
      exact met
    · exact fun met => met after value rfl

theorem commitsMeet_updateTeamMember (call : Call) (targetUserId : String)
    (updateDto : UpdateUserDto)
    (meets : ∀ scope update, store.getTeamManagerScope actorId sessionScope = .ok scope → update.organizationId = scope.organizationId → condition (.updateTeamMember call update) store) :
    (updateTeamMember call targetUserId updateDto actorId sessionScope).CommitsMeet
      (TeamWrite.effect runtime) condition none store := by
  simp only [updateTeamMember, commitsMeet_read_bind, commitsMeet_ofExcept_bind,
    TeamWrite.commitsMeet_bind_iff]
  intro scope isScope target _ role _ _ _
  exact ⟨meets scope _ isScope rfl, fun _ _ _ => trivial⟩

theorem commitsMeet_replaceTeamAssignments (call : Call) (targetUserId : String)
    (assignments : List TeamStationAssignmentDto)
    (meets : ∀ scope normalized, store.getTeamManagerScope actorId sessionScope = .ok scope → condition (.replaceTeamAssignments call targetUserId scope.organizationId normalized) store) :
    (replaceTeamAssignments call targetUserId assignments actorId sessionScope).CommitsMeet
      (TeamWrite.effect runtime) condition none store := by
  simp only [replaceTeamAssignments, commitsMeet_read_bind,
    commitsMeet_ofExcept_bind, TeamWrite.commitsMeet_bind_iff]
  intro scope isScope target _ normalized _ _ _
  exact ⟨meets scope normalized isScope, fun _ _ _ => trivial⟩

theorem commitsMeet_inviteOrganization_bind {α : Type} {inviteRole : UserRole}
    (notPlatform : isEvzoneRole inviteRole = false) (call : Call) (inviter : User)
    {next : String → TeamRequest α} :
    (inviteOrganization call inviter inviteRole >>= next).CommitsMeet (TeamWrite.effect runtime)
        condition none store ↔ ∀ own, inviter.organizationId = some own → own ≠ "" →
        (next own).CommitsMeet (TeamWrite.effect runtime) condition none store := by
  simp only [inviteOrganization, notPlatform, Bool.false_eq_true, if_false]
  rcases home : orText inviter.organizationId none with _ | organizationId
  · refine iff_of_true trivial fun own isOwn isGiven => ?_
    rw [orText_none_eq_some_iff.mpr ⟨isOwn, isGiven⟩] at home
    contradiction
  · have isOwn := orText_none_eq_some_iff.mp home
    constructor
    · intro met own same _
      rw [isOwn.1, Option.some.injEq] at same
      exact same ▸ met
    · exact fun met => met organizationId isOwn.1 isOwn.2

theorem commitsMeet_inviteUser (found : store.user? actorId = some actor)
    (notPlatform : isEvzoneRole actor.role = false) (call : Call) (inviteDto : InviteUserDto)
    (revokes : ∀ email own, actor.organizationId = some own → own ≠ "" → condition (.revokeInvitations email own) store)
    (invites : ∀ email invite, actor.organizationId = some invite.organizationId → invite.organizationId ≠ "" → condition (.inviteMember call invite) (store.revokeInvitations email invite.organizationId)) :
    (inviteUser call inviteDto actorId).CommitsMeet (TeamWrite.effect runtime) condition none
      store := by
  simp only [inviteUser, commitsMeet_read_bind, commitsMeet_ofExcept_bind]
  intro _ _ inviter isInviter inviteRole _ _ _ _ assignable _ _
  obtain rfl : actor = inviter := by
    rw [found] at isInviter
    exact Except.ok.inj isInviter
  have notEvzone : isEvzoneRole inviteRole = false := by
    rw [assertCanAssignEvzoneRole, notPlatform, Bool.or_false, check] at assignable
    split at assignable
    · rename_i isNot
      simpa using isNot
    · contradiction
  rw [commitsMeet_inviteOrganization_bind notEvzone]
  intro own isOwn isGiven
  simp only [commitsMeet_read_bind, commitsMeet_ofExcept_bind,
    TeamWrite.commitsMeet_bind_iff]
  intro _ _ _ _
  refine ⟨revokes _ own isOwn isGiven, ?_⟩
  rintro _ _ ⟨⟩
  exact ⟨invites _ _ isOwn isGiven, fun _ _ _ => trivial⟩

theorem commitsMeet_inviteTeamMember (call : Call) (inviteDto : InviteUserDto)
    (meets : ∀ scope dto, store.getTeamManagerScope actorId sessionScope = .ok scope → (inviteUser call dto actorId).CommitsMeet (TeamWrite.effect runtime) condition none store) :
    (inviteTeamMember call inviteDto actorId sessionScope).CommitsMeet (TeamWrite.effect runtime)
      condition none store := by
  simp only [inviteTeamMember, commitsMeet_read_bind, commitsMeet_ofExcept_bind]
  intro scope isScope _ _ _ _ _ _ _ _ _ _
  exact meets scope _ isScope

/-! ## In the store of the staff -/

variable {staff : StaffStore}

theorem commitsMeet_onStaff {α : Type} {request : TeamRequest α} :
    (onStaff request).CommitsMeet (StaffWrite.effect runtime)
        (fun write store => write.isManagedBy actorId store = true) none staff ↔
      request.CommitsMeet (TeamWrite.effect runtime)
        (fun write store => write.isManagedBy actorId store = true) none staff.auth := by
  apply commitsMeet_onPart
  · intro write store
    rw [StaffWrite.effect, Option.map_map]
    exact Option.map_id'
  · exact fun _ _ => Iff.rfl

theorem commitsMeet_of_transacts {α : Type} {request : StaffRequest α}
    (transacts : request.Transacts fun write => ∀ store, write.isManagedBy actorId store = true)
    (limit : Option Nat) (staff : StaffStore) :
    request.CommitsMeet (StaffWrite.effect runtime)
      (fun write store => write.isManagedBy actorId store = true) limit staff :=
  transacts.commitsMeet (fun _ store isAllowed => isAllowed store) limit staff

variable {allowed : StaffWrite → Prop}

theorem transacts_teamManagerScope : (teamManagerScope actorId sessionScope).Transacts allowed :=
  (transacts_read _ _).bind fun _ => transacts_ofExcept _

theorem transacts_teamMemberInScope (targetUserId organizationId : String) :
    (teamMemberInScope targetUserId organizationId).Transacts allowed :=
  (transacts_read _ _).bind fun _ => transacts_ofExcept _

theorem transacts_findTeamMembers : (findTeamMembers actorId sessionScope).Transacts allowed :=
  transacts_teamManagerScope.bind fun _ => (transacts_read _ _).bind fun _ =>
    (transacts_pure _).ite <| (transacts_read _ _).bind fun _ =>
      (transacts_read _ _).bind fun _ => transacts_pure _

theorem transacts_getTeamAssignments (targetUserId : String) :
    (getTeamAssignments actorId sessionScope targetUserId).Transacts allowed :=
  transacts_teamManagerScope.bind fun _ => (transacts_teamMemberInScope _ _).bind fun _ =>
    (transacts_read _ _).bind fun _ => transacts_pure _

theorem transacts_getStaffPayoutProfile (targetUserId : String) :
    (getStaffPayoutProfile actorId sessionScope targetUserId).Transacts allowed :=
  transacts_teamManagerScope.bind fun _ => (transacts_teamMemberInScope _ _).bind fun _ =>
    transacts_read _ _

theorem transacts_upsertStaffPayoutProfile (targetUserId : String)
    (payoutDto : StaffPayoutProfileDto)
    (upserts : ∀ profile, allowed (.upsertStaffPayoutProfile profile)) :
    (upsertStaffPayoutProfile actorId sessionScope targetUserId payoutDto).Transacts allowed :=
  transacts_teamManagerScope.bind fun _ => (transacts_teamMemberInScope _ _).bind fun _ =>
    (transacts_ofExcept _).bind fun _ => Request.transacts_commit _ (upserts _)

/-- In a scope that is the user's to manage, all writes are as they should be when invitations
are. -/
theorem StaffOperation.commitsMeet_program
    (manages : ∀ scope, staff.auth.getTeamManagerScope actorId sessionScope = .ok scope → staff.auth.managesTeam actorId scope.organizationId = true)
    (invites : ∀ scope call dto, staff.auth.getTeamManagerScope actorId sessionScope = .ok scope → (inviteUser call dto actorId).CommitsMeet (TeamWrite.effect runtime) (fun write store => write.isManagedBy actorId store = true) none staff.auth)
    (operation : StaffOperation) :
    (operation.program actorId sessionScope).CommitsMeet (StaffWrite.effect runtime)
      (fun write store => write.isManagedBy actorId store = true) none staff := by
  cases operation with
  | findTeamMembers =>
    exact commitsMeet_of_transacts
      (transacts_findTeamMembers.bind fun _ => transacts_pure _) none staff
  | inviteTeamMember call inviteDto =>
    exact commitsMeet_onStaff.mpr (commitsMeet_inviteTeamMember call inviteDto
      fun scope dto isScope => invites scope call dto isScope)
  | updateTeamMember call targetUserId updateDto =>
    refine commitsMeet_onStaff.mpr (commitsMeet_updateTeamMember call targetUserId updateDto ?_)
    intro scope update isScope same
    rw [TeamWrite.isManagedBy, TeamWrite.organization?, same]
    exact manages scope isScope
  | getTeamAssignments targetUserId =>
    exact commitsMeet_of_transacts
      ((transacts_getTeamAssignments targetUserId).bind fun _ => transacts_pure _) none
      staff
  | replaceTeamAssignments call targetUserId assignments =>
    refine (commitsMeet_onStaff.mpr (commitsMeet_replaceTeamAssignments call targetUserId
      assignments fun scope _ isScope => manages scope isScope)).bind ?_
    exact fun _ => commitsMeet_of_transacts
      ((transacts_getTeamAssignments targetUserId).bind fun _ => transacts_pure _)
  | getStaffPayoutProfile targetUserId =>
    exact commitsMeet_of_transacts
      ((transacts_getStaffPayoutProfile targetUserId).bind fun _ => transacts_pure _) none
      staff
  | upsertStaffPayoutProfile targetUserId payoutDto =>
    exact commitsMeet_of_transacts ((transacts_upsertStaffPayoutProfile targetUserId payoutDto
      fun _ _ => rfl).bind fun _ => transacts_pure _) none staff

/-! ## Who runs operations in a scope -/

/-- Without a scope every operation is refused. -/
theorem StaffOperation.runsInOwnTeam_of_error {exception : AuthException}
    (refused : staff.auth.getTeamManagerScope actorId sessionScope = .error exception)
    (operation : StaffOperation) : operation.RunsInOwnTeam runtime staff actorId sessionScope where
  scope := by
    obtain ⟨message, rfl⟩ := Store.getTeamManagerScope_eq_error refused
    exact Or.inl ⟨message, operation.alone_of_scope_error refused⟩
  writes := by
    apply operation.commitsMeet_program
    · intro scope isScope
      rw [refused] at isScope
      contradiction
    · intro scope call dto isScope
      rw [refused] at isScope
      contradiction

theorem Store.IsBacked.managesTeam (found : store.user? actorId = some actor)
    (backed : store.IsBacked actor sessionScope)
    (isScope : store.getTeamManagerScope actorId sessionScope = .ok scope) :
    store.managesTeam actorId scope.organizationId = true := by
  obtain rfl : actor.id = actorId := (Table.find?_eq_some_iff.mp found).2
  obtain ⟨_, works, sameRole, isManager⟩ := (Store.getTeamManagerScope_eq_ok_iff found).mp isScope
  rw [sameRole] at isManager
  rcases isActive : store.isActiveMember actor.id scope.organizationId with _ | _
  · rw [Store.managerRole_of_not_member isActive] at isManager
    generalize scope.organizationId = organizationId at works isActive
    rcases works with ⟨_, selects⟩ | ⟨row, _, isOnly, _⟩
    · rw [backed.selected _ selects isManager] at isActive
      contradiction
    · rw [Store.isActiveMember_of_only isOnly] at isActive
      contradiction
  · rwa [Store.isTeamManagerRole_managerRole isActive] at isManager

theorem StaffOperation.runsInOwnTeam_of_isBacked (found : staff.auth.user? actorId = some actor)
    (notPlatform : isEvzoneRole actor.role = false)
    (backed : staff.auth.IsBacked actor sessionScope) (operation : StaffOperation) :
    operation.RunsInOwnTeam runtime staff actorId sessionScope := by
  rcases isScope : staff.auth.getTeamManagerScope actorId sessionScope with exception | scope
  · exact operation.runsInOwnTeam_of_error isScope
  · have works := ((Store.getTeamManagerScope_eq_ok_iff found).mp isScope).2.1
    have manages := backed.managesTeam found isScope
    refine ⟨Or.inr ⟨_, works, manages⟩, operation.commitsMeet_program ?_ ?_⟩
    · intro other isOther
      rw [isScope] at isOther
      cases isOther
      exact manages
    · intro _ call dto _
      have sameId : actor.id = actorId := (Table.find?_eq_some_iff.mp found).2
      have managesOwn {own : String} (isOwn : actor.organizationId = some own)
          (isGiven : own ≠ "") : staff.auth.managesTeam actorId own = true := by
        rw [← sameId] at works manages ⊢
        exact backed.home _ own works manages isOwn isGiven
      exact commitsMeet_inviteUser found notPlatform call dto
        (fun _ _ isOwn isGiven => managesOwn isOwn isGiven)
        fun _ _ isOwn isGiven => managesOwn isOwn isGiven

/-- Who has a scope gets to see the team. -/
theorem not_isRefused_findTeamMembers
    (isScope : staff.auth.getTeamManagerScope actorId sessionScope = .ok scope) :
    ¬StaffOperation.findTeamMembers.IsRefused runtime staff actorId sessionScope := by
  rintro ⟨message, refused⟩
  rw [StaffOperation.program, findTeamMembers, teamManagerScope, bind_assoc, bind_assoc,
    alone_read_bind, isScope] at refused
  change (((if List.isEmpty _ then pure [] else _ : StaffRequest (List TeamMember)) >>=
    fun _ => (pure () : StaffRequest Unit)).alone _ _) = _ at refused
  split at refused <;> cases refused

/-! ## Invitations to a new address -/

/-- An address of some length. -/
def guestEmail (length : Nat) : String :=
  String.ofList (List.replicate (length + 1) 'a' ++ ['@', 'b', '.', 'c', 'o'])

theorem normalizeEmail_guestEmail (length : Nat) :
    normalizeEmail (guestEmail length) = guestEmail length := by
  have trimmed : trim (guestEmail length) = guestEmail length := by
    simp [trim, guestEmail, List.replicate_succ, show isWhitespace 'a' = false from rfl,
      show isWhitespace 'o' = false from rfl]
  rw [normalizeEmail, trimmed, toLowerCase, guestEmail, String.toList_ofList, List.map_append,
    List.map_replicate]
  rfl

theorem length_toLowerCase (text : String) :
    (toLowerCase text).toList.length = text.toList.length := by
  rw [toLowerCase, String.toList_ofList, List.length_map]

theorem exists_userWithEmail?_eq_none (store : Store) :
    ∃ length, store.userWithEmail? (guestEmail length) = none := by
  let lengthOf (user : User) : Nat := (user.email.getD "").toList.length
  refine ⟨(store.users.rows.map lengthOf).sum, List.find?_eq_none.mpr ?_⟩
  intro user isUser isSame
  obtain ⟨email, isEmail, same⟩ := Option.map_eq_some_iff.mp (of_decide_eq_true isSame)
  have sameLength := congrArg (fun text => text.toList.length) same
  simp only [length_toLowerCase] at sameLength
  have below : lengthOf user ≤ (store.users.rows.map lengthOf).sum :=
    List.single_le_sum (fun _ _ => Nat.zero_le _) _ (List.mem_map_of_mem isUser)
  have isLength : lengthOf user = email.toList.length := by
    simp [lengthOf, isEmail]
  rw [guestEmail, String.toList_ofList, List.length_append, List.length_replicate] at sameLength
  omega

/-- A site owner at an address without a user. -/
def guestInvite (length : Nat) : InviteUserDto where
  email := guestEmail length
  role := UserRole.siteOwner.text
  ownerCapability := none
  customRoleId := none
  customRoleName := none
  initialAssignments := []

/-- An invitation of a guest is into the own organization of the inviter. -/
theorem condition_of_commitsMeet_inviteUser (found : store.user? actorId = some actor)
    (isGiven : actorId ≠ "") {call : Call} {length : Nat}
    (isFresh : store.userWithEmail? (guestEmail length) = none)
    (met : (inviteUser call (guestInvite length) actorId).CommitsMeet (TeamWrite.effect runtime) condition none store)
    {own : String} (isOwn : actor.organizationId = some own) (ownGiven : own ≠ "") :
    condition (.revokeInvitations (guestEmail length) own) store := by
  simp only [inviteUser, commitsMeet_read_bind, commitsMeet_ofExcept_bind] at met
  have afterChecks := met () (if_pos (decide_eq_true isGiven)) actor (by rw [found]; rfl) .siteOwner
    (by rfl) () rfl () rfl [] rfl
  have inOrganization :=
    (commitsMeet_inviteOrganization_bind rfl call actor).mp afterChecks own isOwn ownGiven
  simp only [commitsMeet_read_bind, commitsMeet_ofExcept_bind,
    TeamWrite.commitsMeet_bind_iff] at inOrganization
  have sameEmail : normalizeEmail (guestInvite length).email = guestEmail length :=
    normalizeEmail_guestEmail length
  rw [sameEmail, isFresh] at inOrganization
  exact (inOrganization () rfl () rfl).1

theorem isBacked_of_runsInOwnTeam (found : staff.auth.user? actorId = some actor)
    (isGiven : actorId ≠ "")
    (runs : ∀ operation : StaffOperation, operation.RunsInOwnTeam runtime staff actorId sessionScope) :
    staff.auth.IsBacked actor sessionScope := by
  obtain rfl : actor.id = actorId := (Table.find?_eq_some_iff.mp found).2
  constructor
  · intro tenantId selects isManager
    rcases isActive : staff.auth.isActiveMember actor.id tenantId with _ | _
    · have sameRole := Store.managerRole_of_not_member isActive
      have isScope : staff.auth.getTeamManagerScope actor.id sessionScope =
          .ok ⟨tenantId, actor.role⟩ :=
        (Store.getTeamManagerScope_eq_ok_iff found).mpr
          ⟨isGiven, .selected tenantId selects, sameRole.symm, isManager⟩
      rcases (runs .findTeamMembers).scope with refused | ⟨organizationId, works, manages⟩
      · exact absurd refused (not_isRefused_findTeamMembers isScope)
      · obtain rfl := works.unique (.selected tenantId selects)
        rw [Store.isActiveMember_of_managesTeam manages] at isActive
        contradiction
    · rfl
  · intro organizationId own works manages isOwn ownGiven
    have isActive := Store.isActiveMember_of_managesTeam manages
    have isScope : staff.auth.getTeamManagerScope actor.id sessionScope =
        .ok ⟨organizationId, staff.auth.managerRole actor organizationId⟩ :=
      (Store.getTeamManagerScope_eq_ok_iff found).mpr
        ⟨isGiven, works, rfl, (Store.isTeamManagerRole_managerRole isActive).trans manages⟩
    obtain ⟨length, isFresh⟩ := exists_userWithEmail?_eq_none staff.auth
    have met := commitsMeet_onStaff.mp
      (runs (.inviteTeamMember Sample.call (guestInvite length))).writes
    simp only [inviteTeamMember, commitsMeet_read_bind,
      commitsMeet_ofExcept_bind] at met
    exact condition_of_commitsMeet_inviteUser found isGiven isFresh
      (met _ isScope .siteOwner (by rfl) () rfl () rfl [] rfl () rfl) isOwn ownGiven

/-- Whoever has no role of the platform runs operations on the team of an organization as its
manager only, exactly if nothing but memberships stands behind the session. -/
theorem runsInOwnTeam_iff_isBacked {staff : StaffStore} {actor : User}
    (found : staff.auth.user? actorId = some actor)
    (notPlatform : isEvzoneRole actor.role = false) : (∀ operation : StaffOperation,
        operation.RunsInOwnTeam runtime staff actorId sessionScope) ↔
      actorId = "" ∨ staff.auth.IsBacked actor sessionScope := by
  constructor
  · intro runs
    by_cases isGiven : actorId = ""
    · exact Or.inl isGiven
    · exact Or.inr (isBacked_of_runsInOwnTeam found isGiven runs)
  · rintro (rfl | backed) operation
    · have refused : staff.auth.getTeamManagerScope "" sessionScope =
          .error (.unauthorized "Authenticated user context is required") := rfl
      exact operation.runsInOwnTeam_of_error refused
    · exact operation.runsInOwnTeam_of_isBacked found notPlatform backed

end Operations

namespace Sample

def staffWith (status : MembershipStatus) : StaffStore where
  auth :=
    { Store.empty with
      users :=
        { rows := [userOf "ada" .stationOwner, userOf "ben" .manager]
          nodup := by decide }
      organizations := { rows := [⟨"acme", "Acme"⟩], nodup := List.nodup_singleton _ }
      memberships :=
        { rows :=
            [{ memberOf "ada" .stationOwner none with status := status },
              memberOf "ben" .manager none]
          nodup := by cases status <;> decide } }
  payoutProfiles := .empty

def acmeSession : SessionTenantScopeOptions where
  sessionScopeType := some .tenant
  actingAsTenant := some true
  selectedTenantId := some "acme"

def renamesBen : StaffOperation :=
  .updateTeamMember call "ben"
    { name := some "Benjamin"
      phone := none
      role := none
      ownerCapability := none
      customRoleId := none
      customRoleName := none
      status := none }

theorem isBacked_staffWith_active :
    (staffWith .active).auth.IsBacked (userOf "ada" .stationOwner) (some acmeSession) where
  selected := by
    rintro _ ⟨_, ⟨⟩, _, selected, _⟩ _
    rw [← Option.some.inj selected]
    decide +kernel
  home := by
    rintro _ _ _ _ ⟨⟩ _
    decide +kernel

end Sample

open Sample in
theorem runsInOwnTeam_iff_isBacked_staffWith :
    (staffWith .active).auth.IsBacked (userOf "ada" .stationOwner) (some acmeSession) ∧
      ((∀ operation : StaffOperation,
          operation.RunsInOwnTeam authRuntime (staffWith .active) "ada" (some acmeSession)) ↔
        "ada" = "" ∨
          (staffWith .active).auth.IsBacked (userOf "ada" .stationOwner) (some acmeSession)) :=
  ⟨isBacked_staffWith_active, runsInOwnTeam_iff_isBacked (by decide +kernel) rfl⟩

open Sample in
/-- Suspended in the organization of the session, a station owner still changes its members. -/
theorem suspended_owner_renames :
    (staffWith .suspended).auth.user? "ada" = some (userOf "ada" .stationOwner) ∧
      isEvzoneRole UserRole.stationOwner = false ∧
      (staffWith .suspended).auth.managesTeam "ada" "acme" = false ∧
      ¬renamesBen.RunsInOwnTeam authRuntime (staffWith .suspended) "ada" (some acmeSession) := by
  refine ⟨by decide +kernel, rfl, by decide +kernel, ?_⟩
  intro runs
  exact absurd runs.writes (by decide +kernel)

end Csms.Auth
