import Csms.Auth.Team.Service
import Csms.Service.Program

/-!
# The memberships that the team operations set

Each write leaves the memberships as they are, but for those that it sets.
-/

namespace Csms.Auth

open Js Database Service

namespace Store

theorem membership?_eq_some_iff {store : Store} {userId organizationId : String}
    {row : OrganizationMembership} : store.membership? userId organizationId = some row ↔
      row ∈ store.memberships.rows ∧ row.key = (userId, organizationId) :=
  Table.find?_eq_some_iff

def upserted (store : Store) (row : OrganizationMembership) (update : MembershipUpdate) :
    OrganizationMembership :=
  ((store.membership? row.userId row.organizationId).map update.apply).getD row

theorem key_apply (update : MembershipUpdate) (row : OrganizationMembership) :
    (update.apply row).key = row.key :=
  rfl

theorem key_upserted (store : Store) (row : OrganizationMembership) (update : MembershipUpdate) :
    (store.upserted row update).key = row.key := by
  rw [upserted]
  rcases found : store.membership? row.userId row.organizationId with _ | old
  · rfl
  · exact (membership?_eq_some_iff.mp found).2

theorem membership?_upsertMembership (store : Store) (row : OrganizationMembership)
    (update : MembershipUpdate) (userId organizationId : String) :
    (store.upsertMembership row update).membership? userId organizationId =
      if (userId, organizationId) = row.key then some (store.upserted row update)
      else store.membership? userId organizationId := by
  refine (Table.find?_upsert store.memberships row update.apply (key_apply update) _).trans ?_
  by_cases isKey : (userId, organizationId) = row.key
  · rw [if_pos isKey, if_pos isKey, isKey]
    rfl
  · rw [if_neg isKey, if_neg isKey]
    rfl

/-- The memberships and the custom roles are the same. -/
structure SameAccess (store after : Store) : Prop where
  memberships : after.memberships = store.memberships
  tenantMemberships : after.tenantMemberships = store.tenantMemberships
  customRoles : after.customRoles = store.customRoles

/-- Other memberships than the ones in the list stay as they are, and so do the tables of
the tenants. -/
structure SetsMemberships (store after : Store) (rows : List OrganizationMembership) : Prop where
  memberships : ∀ userId organizationId,
    after.membership? userId organizationId = store.membership? userId organizationId ∨
      ∃ row ∈ rows, row.key = (userId, organizationId) ∧
        after.membership? userId organizationId = some row
  tenantMemberships : after.tenantMemberships = store.tenantMemberships
  customRoles : after.customRoles = store.customRoles

theorem SameAccess.refl (store : Store) : store.SameAccess store :=
  ⟨rfl, rfl, rfl⟩

theorem SameAccess.trans {store middle after : Store} (first : store.SameAccess middle)
    (second : middle.SameAccess after) : store.SameAccess after :=
  ⟨second.memberships.trans first.memberships,
    second.tenantMemberships.trans first.tenantMemberships,
    second.customRoles.trans first.customRoles⟩

theorem sameAccess_updateUser (store : Store) (userId : String) (change : User → User)
    (keeps : ∀ user, (change user).id = user.id) :
    store.SameAccess (store.updateUser userId change keeps) :=
  ⟨rfl, rfl, rfl⟩

namespace SetsMemberships

variable {store middle after : Store} {rows more : List OrganizationMembership}

theorem of_same (same : store.SameAccess after) : store.SetsMemberships after rows where
  memberships _ _ := Or.inl (by rw [membership?, same.memberships, membership?])
  tenantMemberships := same.tenantMemberships
  customRoles := same.customRoles

theorem trans (first : store.SetsMemberships middle rows)
    (second : middle.SetsMemberships after more) : store.SetsMemberships after (rows ++ more) where
  memberships userId organizationId := by
    rcases second.memberships userId organizationId with same | ⟨row, isRow, sameKey, isAfter⟩
    · rw [same]
      rcases first.memberships userId organizationId with same | ⟨row, isRow, sameKey, isMiddle⟩
      · exact Or.inl same
      · exact Or.inr ⟨row, List.mem_append_left _ isRow, sameKey, isMiddle⟩
    · exact Or.inr ⟨row, List.mem_append_right _ isRow, sameKey, isAfter⟩
  tenantMemberships := second.tenantMemberships.trans first.tenantMemberships
  customRoles := second.customRoles.trans first.customRoles

theorem then_same (first : store.SetsMemberships middle rows)
    (second : middle.SameAccess after) : store.SetsMemberships after rows := by
  have unchanged : middle.SetsMemberships after [] := of_same second
  have both := first.trans unchanged
  rwa [List.append_nil] at both

theorem after_same (first : store.SameAccess middle)
    (second : middle.SetsMemberships after rows) : store.SetsMemberships after rows := by
  have unchanged : store.SetsMemberships middle [] := of_same first
  exact unchanged.trans second

theorem upsert (store : Store) (row : OrganizationMembership) (update : MembershipUpdate) :
    store.SetsMemberships (store.upsertMembership row update) [store.upserted row update] where
  memberships userId organizationId := by
    by_cases isKey : (userId, organizationId) = row.key
    · refine Or.inr ⟨store.upserted row update, List.mem_singleton_self _,
        (key_upserted store row update).trans isKey.symm, ?_⟩
      rw [membership?_upsertMembership, if_pos isKey]
    · exact Or.inl (by rw [membership?_upsertMembership, if_neg isKey])
  tenantMemberships := rfl
  customRoles := rfl

theorem forall_memberships (sets : store.SetsMemberships after rows)
    {property : OrganizationMembership → Prop}
    (before : ∀ row ∈ store.memberships.rows, property row)
    (ofSet : ∀ row ∈ rows, property row) : ∀ row ∈ after.memberships.rows, property row := by
  intro row isRow
  have isAfter : after.membership? row.userId row.organizationId = some row :=
    membership?_eq_some_iff.mpr ⟨isRow, rfl⟩
  rcases sets.memberships row.userId row.organizationId with same | ⟨other, isOther, _, isAfter'⟩
  · exact before row (membership?_eq_some_iff.mp (same.symm.trans isAfter)).1
  · rw [isAfter] at isAfter'
    cases isAfter'
    exact ofSet row isOther

end SetsMemberships

def evzoneOrganizationId (store : Store) (newId : String) : String :=
  match store.organizationNamed? evzoneOrganizationName,
      store.organizationNamed? legacyEvzoneOrganizationName with
  | some organization, _ => organization.id
  | none, some legacy => legacy.id
  | none, none => newId

theorem eq_of_ensureEvzoneOrganization {store after : Store} {newId organizationId : String}
    (done : store.ensureEvzoneOrganization newId = .ok (after, organizationId)) :
    organizationId = store.evzoneOrganizationId newId ∧
      ∃ organizations, after = { store with organizations } := by
  rw [ensureEvzoneOrganization] at done
  rw [evzoneOrganizationId]
  split at done
  · cases done
    exact ⟨by simp only [*], _, rfl⟩
  · cases done
    exact ⟨by simp only [*], _, rfl⟩
  · obtain ⟨organizations, _, isAfter⟩ := exists_of_bind_eq_ok done
    cases isAfter
    exact ⟨by simp only [*], _, rfl⟩

/-- The membership that a role of the platform sets in its organization. -/
def setInEvzone (store : Store) (params : EvzoneAssignment) (newId : String) :
    List OrganizationMembership :=
  if isEvzoneRole params.role then
    [store.upserted (params.membership (store.evzoneOrganizationId newId)) params.update]
  else []

theorem setsMemberships_enforceEvzone {store after : Store} {params : EvzoneAssignment}
    {newId : String} (done : store.enforceEvzoneOrganizationAssignment params newId = .ok after) :
    store.SetsMemberships after (store.setInEvzone params newId) := by
  rw [enforceEvzoneOrganizationAssignment] at done
  rw [setInEvzone]
  split at done
  · rename_i isEvzone
    obtain ⟨⟨ensured, organizationId⟩, isEnsured, isAfter⟩ := exists_of_bind_eq_ok done
    obtain ⟨rfl, organizations, rfl⟩ := eq_of_ensureEvzoneOrganization isEnsured
    cases isAfter
    rw [if_pos isEvzone]
    have organized : store.SameAccess { store with organizations } := ⟨rfl, rfl, rfl⟩
    exact .after_same organized (.after_same (sameAccess_updateUser _ _ _ _) (.upsert _ _ _))
  · cases done
    exact .of_same (.refl store)

end Store

def TeamWrite.setMemberships (runtime : AuthRuntime) (store : Store) :
    TeamWrite → List OrganizationMembership
  | inviteMember call invite =>
    let userId := invite.existingUserId.getD (call.uuid 0)
    let row := Store.invitedMembership invite userId
    row :: (store.setMembership row).setInEvzone (Store.invitedToEvzone invite userId)
      (call.uuid 1)
  | activateInvitation _ activation =>
    (store.invitations.find? (runtime.hashToken activation.inviteToken)).toList.map
      fun invitation =>
        let row := Store.activatedMembership invitation activation.userId
        store.upserted row (Store.activationUpdate row)
  | updateTeamMember call update =>
    let membership := store.membership? update.targetUserId update.organizationId
    membership.toList.map (Store.memberMembershipUpdate update.dto update.role).apply ++
      update.role.elim [] fun role =>
        (store.updateMemberMembership update).setInEvzone
          (update.evzoneAssignment role membership) (call.uuid 0)
  | assignOrganizationMembership row => [store.upserted row (Store.assignmentUpdate row)]
  | _ => []

namespace Store

variable {runtime : AuthRuntime} {store after : Store} {call : Call}

theorem upserted_setsAll (store : Store) (row : OrganizationMembership) :
    store.upserted row (.setsAll row) = row := by
  rw [upserted]
  rcases found : store.membership? row.userId row.organizationId with _ | old
  · rfl
  · have sameKey := Prod.ext_iff.mp (membership?_eq_some_iff.mp found).2
    rcases row with ⟨userId, organizationId, _⟩
    rcases old with ⟨oldUserId, oldOrganizationId, _⟩
    obtain ⟨rfl, rfl⟩ : oldUserId = userId ∧ oldOrganizationId = organizationId := sameKey
    rfl

theorem setsMemberships_setMembership (store : Store) (row : OrganizationMembership) :
    store.SetsMemberships (store.setMembership row) [row] := by
  have sets := SetsMemberships.upsert store row (.setsAll row)
  rw [upserted_setsAll] at sets
  exact sets

theorem eq_of_ensureInvitedUser {invite : Invite} {withUser : Store} {userId : String}
    (done : store.ensureInvitedUser runtime call invite = .ok (withUser, userId)) :
    userId = invite.existingUserId.getD (call.uuid 0) ∧
      ∃ users, withUser = { store with users } := by
  rw [ensureInvitedUser] at done
  split at done
  · rename_i existingUserId isExisting
    cases done
    exact ⟨by rw [isExisting]; rfl, _, rfl⟩
  · rename_i isNew
    obtain ⟨inserted, isInserted, isUser⟩ := exists_of_bind_eq_ok done
    cases isUser
    obtain ⟨_, _, isInserted⟩ := exists_of_bind_eq_ok isInserted
    obtain ⟨users, _, isInserted⟩ := exists_of_bind_eq_ok isInserted
    cases isInserted
    exact ⟨by rw [isNew]; rfl, _, rfl⟩

theorem setsMemberships_inviteMember {invite : Invite}
    (done : store.inviteMember runtime call invite = .ok after) : store.SetsMemberships after
      ((TeamWrite.inviteMember call invite).setMemberships runtime store) := by
  obtain ⟨⟨withUser, userId⟩, hasUser, later⟩ := exists_of_bind_eq_ok done
  obtain ⟨rfl, users, rfl⟩ := eq_of_ensureInvitedUser hasUser
  obtain ⟨enforced, isEnforced, later⟩ := exists_of_bind_eq_ok later
  obtain ⟨invitations, _, isAfter⟩ := exists_of_bind_eq_ok later
  cases isAfter
  have both := (setsMemberships_setMembership _ _).trans (setsMemberships_enforceEvzone isEnforced)
  have withUser : store.SameAccess { store with users } := ⟨rfl, rfl, rfl⟩
  have withInvitation : enforced.SameAccess { enforced with invitations } := ⟨rfl, rfl, rfl⟩
  exact .after_same withUser (both.then_same withInvitation)

theorem sameAccess_syncAttendantProjectionForUser {userId : String} {uuid : Nat → String}
    (done : store.syncAttendantProjectionForUser userId uuid = .ok after) :
    store.SameAccess after := by
  obtain ⟨_, _, isAfter⟩ := exists_of_bind_eq_ok done
  cases isAfter
  exact ⟨rfl, rfl, rfl⟩

theorem sameAccess_createAssignments {rows : List StationTeamAssignment}
    (done : store.createAssignments rows = .ok after) : store.SameAccess after := by
  obtain ⟨_, _, isAfter⟩ := exists_of_bind_eq_ok done
  cases isAfter
  exact ⟨rfl, rfl, rfl⟩

theorem sameAccess_deactivateAssignments (userId : String) (atStation : String → Bool) :
    store.SameAccess (store.deactivateAssignments userId atStation) :=
  ⟨rfl, rfl, rfl⟩

theorem sameAccess_setLastStationAssignment (userId : String) (assignmentId : Option String) :
    store.SameAccess (store.setLastStationAssignment userId assignmentId) :=
  sameAccess_updateUser _ _ _ _

theorem sameAccess_materializeAssignments {activation : Activation} {invitation : UserInvitation}
    (done : store.materializeAssignments call activation invitation = .ok after) :
    store.SameAccess after := by
  rw [materializeAssignments] at done
  split at done
  · cases done
    exact .refl store
  · obtain ⟨assignments, _, later⟩ := exists_of_bind_eq_ok done
    obtain ⟨_, _, later⟩ := exists_of_bind_eq_ok later
    obtain ⟨created, isCreated, synced⟩ := exists_of_bind_eq_ok later
    refine .trans ?_ (sameAccess_syncAttendantProjectionForUser synced)
    have untilCreated :=
      (sameAccess_deactivateAssignments _ _).trans (sameAccess_createAssignments isCreated)
    split
    · exact untilCreated.trans (sameAccess_setLastStationAssignment _ _)
    · exact untilCreated

theorem sameAccess_replaceTeamAssignments {targetUserId organizationId : String}
    {assignments : List NormalizedAssignment}
    (done : store.replaceTeamAssignments call targetUserId organizationId assignments =
      .ok after) : store.SameAccess after := by
  obtain ⟨_, _, later⟩ := exists_of_bind_eq_ok done
  obtain ⟨created, isCreated, synced⟩ := exists_of_bind_eq_ok later
  have untilCreated :=
    (sameAccess_deactivateAssignments _ _).trans (sameAccess_createAssignments isCreated)
  exact (untilCreated.trans (sameAccess_setLastStationAssignment _ _)).trans
    (sameAccess_syncAttendantProjectionForUser synced)

theorem setsMemberships_activateInvitation {activation : Activation} {organizationId : String}
    (done : store.activateInvitationOnLogin runtime call activation = .ok (after, organizationId)) :
    store.SetsMemberships after
      ((TeamWrite.activateInvitation call activation).setMemberships runtime store) := by
  obtain ⟨invitation, isInvitation, later⟩ := exists_of_bind_eq_ok done
  obtain ⟨user, isUser, later⟩ := exists_of_bind_eq_ok later
  obtain ⟨materialized, isMaterialized, isAfter⟩ := exists_of_bind_eq_ok later
  have isFound : store.invitations.find? (runtime.hashToken activation.inviteToken) =
      some invitation := by
    rw [resolveInvitationByToken] at isInvitation
    split at isInvitation
    · contradiction
    · rename_i found isFound
      split at isInvitation
      · contradiction
      · split at isInvitation
        · contradiction
        · split at isInvitation
          · contradiction
          · cases isInvitation
            exact isFound
  have sameUser : user.id = activation.userId := by
    rw [checkInvited] at isUser
    split at isUser
    · contradiction
    · rename_i found isFound
      split at isUser
      · contradiction
      · obtain ⟨_, _, later⟩ := exists_of_bind_eq_ok isUser
        obtain ⟨_, _, isUser⟩ := exists_of_bind_eq_ok later
        cases isUser
        exact (Table.find?_eq_some_iff.mp isFound).2
  have sets := SetsMemberships.upsert store (activatedMembership invitation user.id)
    (activationUpdate (activatedMembership invitation user.id))
  have marked : (store.activateMembership invitation user.id).SameAccess
      ((store.activateMembership invitation user.id).markActivated runtime call activation
        invitation) := ⟨rfl, rfl, rfl⟩
  have synced : materialized.SameAccess (materialized.syncLegacyOrganizationId user.id
      user.organizationId (some invitation.organizationId)) := by
    rw [syncLegacyOrganizationId]
    split
    · exact ⟨rfl, rfl, rfl⟩
    · exact .refl materialized
  have untilEnd := (marked.trans (sameAccess_materializeAssignments isMaterialized)).trans synced
  cases isAfter
  rw [TeamWrite.setMemberships, isFound]
  have all := sets.then_same untilEnd
  rw [sameUser] at all ⊢
  exact all

theorem setsMemberships_updateMember (update : MemberUpdate) :
    store.SetsMemberships (store.updateMemberMembership update)
      ((store.membership? update.targetUserId update.organizationId).toList.map
        (memberMembershipUpdate update.dto update.role).apply) := by
  refine ⟨?_, rfl, rfl⟩
  intro userId organizationId
  have isAfter : (store.updateMemberMembership update).membership? userId organizationId =
      (store.membership? userId organizationId).map fun row =>
        if decide (row.key = (update.targetUserId, update.organizationId)) then
          (memberMembershipUpdate update.dto update.role).apply row
        else row :=
    Table.find?_updateWhere store.memberships _ _ (key_apply _) _
  rw [isAfter]
  rcases found : store.membership? userId organizationId with _ | row
  · exact Or.inl rfl
  · have isKey := (membership?_eq_some_iff.mp found).2
    by_cases isTarget : row.key = (update.targetUserId, update.organizationId)
    · obtain ⟨rfl, rfl⟩ := Prod.mk.inj (isKey.symm.trans isTarget)
      refine Or.inr ⟨(memberMembershipUpdate update.dto update.role).apply row, ?_, isKey, ?_⟩
      · rw [found]
        exact List.mem_singleton_self _
      · rw [Option.map_some, if_pos (decide_eq_true isTarget)]
    · exact Or.inl (by rw [Option.map_some, if_neg (by simpa using isTarget)])

theorem setsMemberships_enforceMemberRole {newId : String} {update : MemberUpdate}
    {membership : Option OrganizationMembership}
    (done : store.enforceMemberRole newId update membership = .ok after) :
    store.SetsMemberships after (update.role.elim [] fun role =>
      store.setInEvzone (update.evzoneAssignment role membership) newId) := by
  rw [enforceMemberRole] at done
  split at done
  · cases done
    exact .of_same (.refl store)
  · rename_i role isRole
    rw [isRole]
    exact setsMemberships_enforceEvzone done

theorem setsMemberships_updateTeamMember {update : MemberUpdate}
    (done : store.updateTeamMember call update = .ok after) : store.SetsMemberships after
      ((TeamWrite.updateTeamMember call update).setMemberships runtime store) := by
  obtain ⟨withUser, isUpdated, later⟩ := exists_of_bind_eq_ok done
  obtain ⟨enforced, isEnforced, isAfter⟩ := exists_of_bind_eq_ok later
  obtain ⟨_, _, later⟩ := exists_of_bind_eq_ok isUpdated
  obtain ⟨_, _, isUser⟩ := exists_of_bind_eq_ok later
  cases isUser
  cases isAfter
  have dropped : enforced.SameAccess (enforced.dropMemberStations update) := by
    rw [dropMemberStations]
    split
    · exact (sameAccess_deactivateAssignments _ _).trans (sameAccess_setLastStationAssignment _ _)
    · exact .refl enforced
  have withRole := setsMemberships_enforceMemberRole isEnforced
  have all := ((setsMemberships_updateMember update).trans withRole).then_same dropped
  exact .after_same (sameAccess_updateUser _ _ _ _) all

end Store

/-- The write is not one to a database of a tenant. -/
def TeamWrite.isOnControlPlane : TeamWrite → Bool
  | createCustomRole _ | updateCustomRole .. | upsertTenantMembership _ => false
  | _ => true

theorem TeamWrite.setsMemberships_run {runtime : AuthRuntime} {store after : Store}
    {write : TeamWrite} {value : String} (isThere : write.isOnControlPlane = true)
    (done : write.run runtime store = .ok (after, value)) :
    store.SetsMemberships after (write.setMemberships runtime store) := by
  cases write with
  | ensureEvzoneOrganization call =>
    obtain ⟨_, organizations, rfl⟩ := Store.eq_of_ensureEvzoneOrganization done
    exact .of_same ⟨rfl, rfl, rfl⟩
  | revokeInvitations email organizationId =>
    cases done
    exact .of_same ⟨rfl, rfl, rfl⟩
  | inviteMember call invite =>
    obtain ⟨invited, isInvited, isAfter⟩ := exists_of_map_eq_ok done
    cases isAfter
    exact Store.setsMemberships_inviteMember isInvited
  | activateInvitation call activation => exact Store.setsMemberships_activateInvitation done
  | updateTeamMember call update =>
    obtain ⟨updated, isUpdated, isAfter⟩ := exists_of_map_eq_ok done
    cases isAfter
    exact Store.setsMemberships_updateTeamMember isUpdated
  | replaceTeamAssignments call targetUserId organizationId assignments =>
    obtain ⟨replaced, isReplaced, isAfter⟩ := exists_of_map_eq_ok done
    cases isAfter
    exact .of_same (Store.sameAccess_replaceTeamAssignments isReplaced)
  | assignOrganizationMembership row =>
    cases done
    exact Store.SetsMemberships.upsert _ _ _
  | _ => contradiction

end Csms.Auth
