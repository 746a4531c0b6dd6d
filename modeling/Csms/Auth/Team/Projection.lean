import Csms.Auth.Team.Service
import Csms.Auth.Team.Sync

/-!
# The projection for attendants

The active rows of the attendants are those of the active station assignments as an
attendant.  An activation and a replacement synchronize both; an update of a member that
takes its stations away does not.
-/

namespace Csms.Auth

open Database Service Transition

variable {row : StationTeamAssignment}

namespace Store

/-! ## The invariant -/

def attendantShifts (store : Store) (userId : String) : Set (String × AttendantShift) :=
  { place | ∃ row ∈ store.attendantAssignments.rows, row.userId = userId ∧
    row.isActive = true ∧ (row.stationId, row.shift) = place }

def assignedShifts (store : Store) (userId : String) : Set (String × AttendantShift) :=
  { place | ∃ row ∈ store.stationTeamAssignments.rows, row.userId = userId ∧
    row.isActive = true ∧ row.role = .attendant ∧ (row.stationId, row.shift) = place }

def IsProjected (store : Store) : Prop :=
  ∀ userId, store.attendantShifts userId = store.assignedShifts userId

/-- No user has two active assignments at a station. -/
def HasOneActive (store : Store) : Prop :=
  ∀ first ∈ store.stationTeamAssignments.rows, ∀ second ∈ store.stationTeamAssignments.rows,
    first.isActive = true → second.isActive = true → first.userId = second.userId →
      first.stationId = second.stationId → first = second

theorem mem_activeAttendantAssignments {store : Store} {userId : String} :
    row ∈ store.activeAttendantAssignments userId ↔
      row ∈ store.stationTeamAssignments.rows ∧ row.userId = userId ∧ row.isActive = true ∧
        row.role = .attendant := by
  simp only [activeAttendantAssignments, List.mem_filter, Bool.and_eq_true, decide_eq_true_eq]
  tauto

theorem mem_attendantShifts {store : Store} {userId stationId : String} {shift : AttendantShift} :
    (stationId, shift) ∈ store.attendantShifts userId ↔
      shift ∈ activeShifts (rowsAt store.attendantAssignments userId stationId) := by
  simp only [attendantShifts, Set.mem_ofPred_eq, Prod.mk.injEq, activeShifts, List.mem_map,
    List.mem_filter, mem_rowsAt]
  constructor
  · rintro ⟨row, isRow, sameUser, isActive, sameStation, sameShift⟩
    exact ⟨row, ⟨⟨isRow, sameUser, sameStation⟩, isActive⟩, sameShift⟩
  · rintro ⟨row, ⟨⟨isRow, sameUser, sameStation⟩, isActive⟩, sameShift⟩
    exact ⟨row, isRow, sameUser, isActive, sameStation, sameShift⟩

theorem mem_assignedShifts {store : Store} {userId stationId : String} {shift : AttendantShift} :
    (stationId, shift) ∈ store.assignedShifts userId ↔
      shift ∈ ((store.activeAttendantAssignments userId).filter
        fun row => row.stationId = stationId).map StationTeamAssignment.shift := by
  simp only [assignedShifts, Set.mem_ofPred_eq, Prod.mk.injEq, List.mem_map, List.mem_filter,
    mem_activeAttendantAssignments, decide_eq_true_eq]
  constructor
  · rintro ⟨row, isRow, sameUser, isActive, isAttendant, sameStation, sameShift⟩
    exact ⟨row, ⟨⟨isRow, sameUser, isActive, isAttendant⟩, sameStation⟩, sameShift⟩
  · rintro ⟨row, ⟨⟨isRow, sameUser, isActive, isAttendant⟩, sameStation⟩, sameShift⟩
    exact ⟨row, isRow, sameUser, isActive, isAttendant, sameStation, sameShift⟩

/-- With one active assignment at each station, the stations of an attendant differ. -/
theorem HasOneActive.nodup {store : Store} (one : store.HasOneActive) (userId : String) :
    ((store.activeAttendantAssignments userId).map StationTeamAssignment.stationId).Nodup := by
  refine List.Nodup.map_on ?_ (store.stationTeamAssignments.nodup.of_map.filter _)
  intro first isFirst second isSecond sameStation
  obtain ⟨firstRow, firstUser, firstActive, _⟩ := mem_activeAttendantAssignments.mp isFirst
  obtain ⟨secondRow, secondUser, secondActive, _⟩ := mem_activeAttendantAssignments.mp isSecond
  exact one first firstRow second secondRow firstActive secondActive
    (firstUser.trans secondUser.symm) sameStation

/-! ## Synchronization -/

section Synchronization

variable {store after : Store} {userId : String} {uuid : Nat → String}

theorem isProjected_syncAttendantProjectionForUser (one : store.HasOneActive)
    (others : ∀ other ≠ userId, store.attendantShifts other = store.assignedShifts other)
    (done : store.syncAttendantProjectionForUser userId uuid = .ok after) :
    after.IsProjected ∧ after.HasOneActive := by
  obtain ⟨attendantAssignments, isAfter⟩ := eq_of_syncAttendantProjectionForUser done
  obtain ⟨ofUser, ofOthers⟩ :=
    activeShifts_syncAttendantProjectionForUser (one.nodup userId) done
  have sameAssignments : after.stationTeamAssignments = store.stationTeamAssignments := by
    rw [isAfter]
  have sameActive (other : String) :
      after.activeAttendantAssignments other = store.activeAttendantAssignments other := by
    rw [activeAttendantAssignments, sameAssignments, activeAttendantAssignments]
  constructor
  · intro other
    ext ⟨stationId, shift⟩
    rw [mem_attendantShifts, mem_assignedShifts, sameActive]
    by_cases isUser : other = userId
    · rw [isUser, ofUser stationId]
    · rw [ofOthers other stationId isUser, ← mem_attendantShifts, ← mem_assignedShifts,
        others other isUser]
  · rw [HasOneActive, sameAssignments]
    exact one

end Synchronization

/-! ## Created assignments -/

section Assignments

variable {store created : Store} {userId other : String} {atStation : String → Bool}
  {rows : List StationTeamAssignment}

theorem mem_deactivateAssignments
    (isRow : row ∈ (store.deactivateAssignments userId atStation).stationTeamAssignments.rows)
    (isActive : row.isActive = true) : row ∈ store.stationTeamAssignments.rows ∧
      ¬ (row.userId = userId ∧ atStation row.stationId = true) := by
  rw [deactivateAssignments, Table.mem_updateWhere] at isRow
  obtain ⟨old, isOld, ⟨_, rfl⟩ | ⟨untouched, rfl⟩⟩ := isRow
  · contradiction
  · refine ⟨isOld, ?_⟩
    rintro ⟨sameUser, isThere⟩
    simp [sameUser, isThere, isActive] at untouched

theorem rows_createAssignments (done : store.createAssignments rows = .ok created) :
    ∃ stationTeamAssignments, created = { store with stationTeamAssignments } ∧
      stationTeamAssignments.rows = store.stationTeamAssignments.rows ++ rows := by
  obtain ⟨stationTeamAssignments, isAdded, isCreated⟩ := exists_of_bind_eq_ok done
  obtain rfl := Except.ok.inj isCreated
  exact ⟨_, rfl, Table.rows_of_insertAll? (orDatabaseError_eq_ok_iff.mp isAdded)⟩

/-- New assignments take the place of those that become inactive. -/
theorem hasOneActive_create (one : store.HasOneActive)
    (done : (store.deactivateAssignments userId atStation).createAssignments rows = .ok created)
    (ofUser : ∀ row ∈ rows, row.userId = userId) (areThere : ∀ row ∈ rows, atStation row.stationId)
    (distinct : (rows.map StationTeamAssignment.stationId).Nodup) : created.HasOneActive := by
  obtain ⟨table, rfl, isTable⟩ := rows_createAssignments done
  have isApart {old new : StationTeamAssignment}
      (isOld : old ∈ (store.deactivateAssignments userId atStation).stationTeamAssignments.rows)
      (isNew : new ∈ rows) (isActive : old.isActive = true) (sameUser : old.userId = new.userId)
      (sameStation : old.stationId = new.stationId) : False :=
    (mem_deactivateAssignments isOld isActive).2
      ⟨sameUser.trans (ofUser new isNew), sameStation ▸ areThere new isNew⟩
  intro first isFirst second isSecond firstActive secondActive sameUser sameStation
  rw [isTable, List.mem_append] at isFirst isSecond
  rcases isFirst with isFirst | isFirst <;> rcases isSecond with isSecond | isSecond
  · exact one first (mem_deactivateAssignments isFirst firstActive).1 second
      (mem_deactivateAssignments isSecond secondActive).1 firstActive secondActive sameUser
      sameStation
  · exact (isApart isFirst isSecond firstActive sameUser sameStation).elim
  · exact (isApart isSecond isFirst secondActive sameUser.symm sameStation.symm).elim
  · exact List.inj_on_of_nodup_map distinct isFirst isSecond sameStation

theorem assignedShifts_create_of_other (isOther : other ≠ userId)
    (done : (store.deactivateAssignments userId atStation).createAssignments rows = .ok created)
    (ofUser : ∀ row ∈ rows, row.userId = userId) :
    created.attendantShifts other = store.attendantShifts other ∧
      created.assignedShifts other = store.assignedShifts other := by
  obtain ⟨table, rfl, isTable⟩ := rows_createAssignments done
  refine ⟨rfl, ?_⟩
  ext place
  simp only [assignedShifts, Set.mem_ofPred_eq, isTable, List.mem_append]
  constructor
  · rintro ⟨row, isOld | isNew, sameUser, isActive, rest⟩
    · exact ⟨row, (mem_deactivateAssignments isOld isActive).1, sameUser, isActive, rest⟩
    · exact absurd (sameUser.symm.trans (ofUser row isNew)) isOther
  · rintro ⟨row, isRow, sameUser, isActive, rest⟩
    refine ⟨row, Or.inl ?_, sameUser, isActive, rest⟩
    rw [deactivateAssignments, Table.mem_updateWhere]
    refine ⟨row, isRow, Or.inr ⟨?_, rfl⟩⟩
    rw [decide_eq_false (sameUser.symm ▸ isOther), Bool.false_and, Bool.false_and]

end Assignments

/-! ## Other tables -/

/-- The stations and the assignments at them are the same. -/
structure SameStaff (store after : Store) : Prop where
  stations : after.stations = store.stations
  stationTeamAssignments : after.stationTeamAssignments = store.stationTeamAssignments
  attendantAssignments : after.attendantAssignments = store.attendantAssignments

namespace SameStaff

variable {store middle after : Store}

theorem refl (store : Store) : store.SameStaff store :=
  ⟨rfl, rfl, rfl⟩

theorem trans (first : store.SameStaff middle) (second : middle.SameStaff after) :
    store.SameStaff after :=
  ⟨second.stations.trans first.stations,
    second.stationTeamAssignments.trans first.stationTeamAssignments,
    second.attendantAssignments.trans first.attendantAssignments⟩

section

variable (same : store.SameStaff after)
include same

theorem hasOneActive (one : store.HasOneActive) : after.HasOneActive := by
  rw [HasOneActive, same.stationTeamAssignments]
  exact one

theorem attendantShifts (userId : String) :
    after.attendantShifts userId = store.attendantShifts userId := by
  rw [Store.attendantShifts, same.attendantAssignments, Store.attendantShifts]

theorem assignedShifts (userId : String) :
    after.assignedShifts userId = store.assignedShifts userId := by
  rw [Store.assignedShifts, same.stationTeamAssignments, Store.assignedShifts]

theorem isProjected (projected : store.IsProjected) : after.IsProjected := by
  intro userId
  rw [same.attendantShifts, same.assignedShifts, projected]

end

end SameStaff

theorem sameStaff_ensureEvzoneOrganization {store after : Store} {newId organizationId : String}
    (done : store.ensureEvzoneOrganization newId = .ok (after, organizationId)) :
    store.SameStaff after := by
  rw [ensureEvzoneOrganization] at done
  split at done
  · cases done
    exact .refl store
  · cases done
    exact ⟨rfl, rfl, rfl⟩
  · obtain ⟨organizations, _, isAfter⟩ := exists_of_bind_eq_ok done
    cases isAfter
    exact ⟨rfl, rfl, rfl⟩

theorem sameStaff_enforceEvzoneOrganizationAssignment {store after : Store}
    {params : EvzoneAssignment} {newId : String}
    (done : store.enforceEvzoneOrganizationAssignment params newId = .ok after) :
    store.SameStaff after := by
  rw [enforceEvzoneOrganizationAssignment] at done
  split at done
  · obtain ⟨⟨ensured, organizationId⟩, isEnsured, isAfter⟩ := exists_of_bind_eq_ok done
    cases isAfter
    exact (sameStaff_ensureEvzoneOrganization isEnsured).trans ⟨rfl, rfl, rfl⟩
  · cases done
    exact .refl store

theorem sameStaff_inviteMember {store after : Store} {runtime : AuthRuntime} {call : Call}
    {invite : Invite} (done : store.inviteMember runtime call invite = .ok after) :
    store.SameStaff after := by
  obtain ⟨⟨withUser, userId⟩, hasUser, later⟩ := exists_of_bind_eq_ok done
  obtain ⟨enforced, isEnforced, later⟩ := exists_of_bind_eq_ok later
  obtain ⟨invitations, _, isAfter⟩ := exists_of_bind_eq_ok later
  cases isAfter
  have sameUser : store.SameStaff withUser := by
    rw [ensureInvitedUser] at hasUser
    split at hasUser
    · cases hasUser
      exact .refl store
    · obtain ⟨inserted, isInserted, isUser⟩ := exists_of_bind_eq_ok hasUser
      cases isUser
      obtain ⟨_, _, isInserted⟩ := exists_of_bind_eq_ok isInserted
      obtain ⟨users, _, isInserted⟩ := exists_of_bind_eq_ok isInserted
      cases isInserted
      exact ⟨rfl, rfl, rfl⟩
  have withMembership : withUser.SameStaff
      (withUser.setMembership (invitedMembership invite userId)) := ⟨rfl, rfl, rfl⟩
  exact ((sameUser.trans withMembership).trans
    (sameStaff_enforceEvzoneOrganizationAssignment isEnforced)).trans ⟨rfl, rfl, rfl⟩

end Store

/-! ## Stations of assignments -/

theorem nodup_of_checkStationIds {stationIds seen : List String}
    (checked : checkStationIds stationIds seen = .ok ()) :
    stationIds.Nodup ∧ ∀ stationId ∈ stationIds, stationId ∉ seen := by
  induction stationIds generalizing seen with
  | nil => exact ⟨List.nodup_nil, nofun⟩
  | cons stationId rest ih =>
    rw [checkStationIds] at checked
    split at checked
    · contradiction
    · split at checked
      · contradiction
      · rename_i notSeen
        rw [List.contains_iff_mem] at notSeen
        obtain ⟨distinct, apart⟩ := ih checked
        constructor
        · exact List.nodup_cons.mpr
            ⟨fun again => apart stationId again List.mem_cons_self, distinct⟩
        · intro other member
          rcases List.mem_cons.mp member with rfl | later
          · exact notSeen
          · exact fun isSeen => apart other later (List.mem_cons_of_mem _ isSeen)

variable {context : String}

theorem stationId_normalizeTeamAssignment {assignment : TeamStationAssignmentDto}
    {normalized : NormalizedAssignment}
    (done : normalizeTeamAssignment context assignment = .ok normalized) :
    normalized.stationId = assignment.stationId := by
  obtain ⟨role, _, later⟩ := exists_of_bind_eq_ok done
  obtain ⟨_, _, isNormalized⟩ := exists_of_bind_eq_ok later
  cases isNormalized
  split <;> rfl

theorem map_makeFirstPrimary {α : Type} (field : NormalizedAssignment → α)
    (kept : ∀ assignment, field { assignment with isPrimary := true } = field assignment)
    (condition : NormalizedAssignment → Bool) (assignments : List NormalizedAssignment) :
    (makeFirstPrimary condition assignments).map field = assignments.map field := by
  induction assignments with
  | nil => rfl
  | cons assignment rest ih =>
    rw [makeFirstPrimary]
    split
    · rw [List.map_cons, kept, List.map_cons]
    · rw [List.map_cons, ih, List.map_cons]

theorem map_choosePrimary {α : Type} (field : NormalizedAssignment → α)
    (kept : ∀ assignment, field { assignment with isPrimary := true } = field assignment)
    (assignments : List NormalizedAssignment) :
    (choosePrimary assignments).map field = assignments.map field := by
  rw [choosePrimary]
  split <;> split <;> simp only [map_makeFirstPrimary field kept]

theorem map_of_mapM {α : Type} {field : NormalizedAssignment → α}
    {given : TeamStationAssignmentDto → α}
    (each : ∀ assignment normalized, normalizeTeamAssignment context assignment = .ok normalized →
      field normalized = given assignment) {assignments : List TeamStationAssignmentDto}
    {normalized : List NormalizedAssignment}
    (done : assignments.mapM (normalizeTeamAssignment context) = .ok normalized) :
    normalized.map field = assignments.map given := by
  induction assignments generalizing normalized with
  | nil =>
    cases done
    rfl
  | cons assignment rest ih =>
    rw [List.mapM_cons] at done
    obtain ⟨first, isFirst, later⟩ := exists_of_bind_eq_ok done
    obtain ⟨others, areOthers, isNormalized⟩ := exists_of_bind_eq_ok later
    cases isNormalized
    rw [List.map_cons, List.map_cons, each _ _ isFirst, ih areOthers]

theorem nodup_of_normalizeTeamAssignments {assignments : List TeamStationAssignmentDto}
    {normalized : List NormalizedAssignment}
    (done : normalizeTeamAssignments assignments context = .ok normalized) :
    (normalized.map NormalizedAssignment.stationId).Nodup := by
  obtain ⟨_, _, later⟩ := exists_of_bind_eq_ok done
  obtain ⟨_, checked, later⟩ := exists_of_bind_eq_ok later
  obtain ⟨checkedAssignments, areChecked, isNormalized⟩ := exists_of_bind_eq_ok later
  cases isNormalized
  rw [map_choosePrimary _ (fun _ => rfl),
    map_of_mapM (fun _ _ => stationId_normalizeTeamAssignment) areChecked]
  exact (nodup_of_checkStationIds checked).1

namespace Store

theorem isStationOf_of_validate {store : Store} {stationIds : List String} {organizationId : String}
    (valid : store.validateStationsInOrganizationScope stationIds organizationId = .ok ()) :
    ∀ stationId ∈ stationIds, store.isStationOf organizationId stationId = true := by
  rw [validateStationsInOrganizationScope] at valid
  split at valid
  · contradiction
  · rename_i sameLength
    split at valid
    · contradiction
    · rename_i noneOutside
      -- as many different stations as there are ids, so each id is that of one
      have areIds : ((store.stations.rows.filter fun station => stationIds.contains station.id).map
          Station.id).Perm stationIds := by
        have distinct : ((store.stations.rows.filter fun station =>
            stationIds.contains station.id).map Station.id).Nodup :=
          (List.filter_sublist.map Station.id).nodup store.stations.nodup
        refine (List.subperm_of_subset distinct ?_).perm_of_length_le ?_
        · intro id member
          obtain ⟨station, isStation, rfl⟩ := List.mem_map.mp member
          exact List.contains_iff_mem.mp (List.mem_filter.mp isStation).2
        · rw [List.length_map]
          exact Nat.le_of_eq (not_not.mp sameLength).symm
      intro stationId member
      obtain ⟨station, isStation, rfl⟩ := List.mem_map.mp (areIds.mem_iff.mpr member)
      have isFound := Table.find?_eq_some_iff.mpr ⟨(List.mem_filter.mp isStation).1, rfl⟩
      have ofOrganization := List.find?_eq_none.mp noneOutside station isStation
      rw [isStationOf, isFound]
      simpa using ofOrganization

theorem map_stationId_createdRows (userId : String) (uuid : Nat → String)
    (assignments : List NormalizedAssignment) :
    (createdRows userId uuid assignments).map StationTeamAssignment.stationId =
      assignments.map NormalizedAssignment.stationId := by
  apply List.ext_getElem
  · simp only [createdRows, List.length_map, List.length_mapIdx]
  · intro index isIndex _
    simp only [createdRows, List.getElem_map, List.getElem_mapIdx, assignmentRow]

theorem userId_of_mem_createdRows {userId : String} {uuid : Nat → String}
    {assignments : List NormalizedAssignment} (isRow : row ∈ createdRows userId uuid assignments) :
    row.userId = userId := by
  rw [createdRows, List.mem_mapIdx] at isRow
  obtain ⟨index, isIndex, rfl⟩ := isRow
  rfl

/-! ## What the writes keep -/

theorem find?_of_resolveInvitationByToken {store : Store} {runtime : AuthRuntime} {call : Call}
    {token : String} {invitation : UserInvitation}
    (found : store.resolveInvitationByToken runtime call token = .ok invitation) :
    store.invitations.find? (runtime.hashToken token) = some invitation := by
  rw [resolveInvitationByToken] at found
  rcases isFound : store.invitations.find? (runtime.hashToken token) with _ | row
  · rw [isFound] at found
    contradiction
  · rw [isFound] at found
    dsimp only at found
    split at found
    · contradiction
    · split at found
      · contradiction
      · split at found
        · contradiction
        · cases found
          rfl

section Writes

variable {store after : Store} {call : Call}

/-- Assignments of the user take the place of those at some stations, with a synchronization
after it. -/
def Recreates (call : Call) (userId : String) (atStation : String → Bool)
    (assignments : List NormalizedAssignment) (store after : Store) : Prop :=
  ∃ created assigned uuid,
    (store.deactivateAssignments userId atStation).createAssignments
      (createdRows userId call.uuid assignments) = .ok created ∧
    created.SameStaff assigned ∧ assigned.syncAttendantProjectionForUser userId uuid = .ok after

theorem recreates_replaceTeamAssignments {targetUserId organizationId : String}
    {assignments : List NormalizedAssignment}
    (done : store.replaceTeamAssignments call targetUserId organizationId assignments =
      .ok after) :
    Recreates call targetUserId (store.isStationOf organizationId) assignments store after := by
  obtain ⟨_, _, later⟩ := exists_of_bind_eq_ok done
  obtain ⟨created, isCreated, synced⟩ := exists_of_bind_eq_ok later
  refine ⟨created, _, _, isCreated, ?_, synced⟩
  exact ⟨rfl, rfl, rfl⟩

/-- An activation has no effect on the staff, or replaces the assignments at the stations that
the invitation names. -/
theorem recreates_activateInvitationOnLogin {runtime : AuthRuntime} {activation : Activation}
    {organizationId : String}
    (done : store.activateInvitationOnLogin runtime call activation =
      .ok (after, organizationId)) :
    ∃ invitation, store.invitations.find? (runtime.hashToken activation.inviteToken) =
        some invitation ∧
      (store.SameStaff after ∨ ∃ marked synced assignments, store.SameStaff marked ∧
        normalizeTeamAssignments invitation.initialAssignments "invitation activation" =
          .ok assignments ∧
        marked.validateStationsInOrganizationScope
          (assignments.map NormalizedAssignment.stationId) invitation.organizationId = .ok () ∧
        Recreates call activation.userId
          (assignments.map NormalizedAssignment.stationId).contains assignments marked synced ∧
        synced.SameStaff after) := by
  obtain ⟨invitation, isFound, later⟩ := exists_of_bind_eq_ok done
  obtain ⟨user, _, later⟩ := exists_of_bind_eq_ok later
  obtain ⟨materialized, isMaterialized, isAfter⟩ := exists_of_bind_eq_ok later
  have marked : store.SameStaff ((store.activateMembership invitation user.id).markActivated
      runtime call activation invitation) := ⟨rfl, rfl, rfl⟩
  have synced : materialized.SameStaff (materialized.syncLegacyOrganizationId user.id
      user.organizationId (some invitation.organizationId)) := by
    rw [syncLegacyOrganizationId]
    split
    · exact ⟨rfl, rfl, rfl⟩
    · exact .refl materialized
  cases isAfter
  refine ⟨invitation, find?_of_resolveInvitationByToken isFound, ?_⟩
  rw [materializeAssignments] at isMaterialized
  split at isMaterialized
  · cases isMaterialized
    exact Or.inl (marked.trans synced)
  · obtain ⟨assignments, areNormalized, later⟩ := exists_of_bind_eq_ok isMaterialized
    obtain ⟨_, valid, later⟩ := exists_of_bind_eq_ok later
    obtain ⟨created, isCreated, isSynced⟩ := exists_of_bind_eq_ok later
    refine Or.inr ⟨_, materialized, assignments, marked, areNormalized, valid, ?_, synced⟩
    refine ⟨created, _, _, isCreated, ?_, isSynced⟩
    split
    · exact ⟨rfl, rfl, rfl⟩
    · exact .refl created

theorem isProjected_recreates {userId : String} {atStation : String → Bool}
    {assignments : List NormalizedAssignment} (projected : store.IsProjected)
    (one : store.HasOneActive)
    (areThere : ∀ stationId ∈ assignments.map NormalizedAssignment.stationId,
      atStation stationId = true)
    (distinct : (assignments.map NormalizedAssignment.stationId).Nodup)
    (recreates : Recreates call userId atStation assignments store after) :
    after.IsProjected ∧ after.HasOneActive := by
  obtain ⟨created, assigned, uuid, isCreated, same, done⟩ := recreates
  have ofUser : ∀ row ∈ createdRows userId call.uuid assignments, row.userId = userId :=
    fun _ isRow => userId_of_mem_createdRows isRow
  rw [← map_stationId_createdRows userId call.uuid] at areThere distinct
  have oneCreated := hasOneActive_create one isCreated ofUser
    (fun row isRow => areThere row.stationId (List.mem_map_of_mem isRow)) distinct
  refine isProjected_syncAttendantProjectionForUser (same.hasOneActive oneCreated) ?_ done
  intro other isOther
  obtain ⟨sameShifts, sameAssigned⟩ := assignedShifts_create_of_other isOther isCreated ofUser
  rw [same.attendantShifts, same.assignedShifts, sameShifts, sameAssigned, projected]

theorem isProjected_activateInvitationOnLogin {runtime : AuthRuntime} {activation : Activation}
    {organizationId : String} (projected : store.IsProjected) (one : store.HasOneActive)
    (done : store.activateInvitationOnLogin runtime call activation =
      .ok (after, organizationId)) : after.IsProjected ∧ after.HasOneActive := by
  obtain ⟨_, _, same | ⟨_, _, _, marked, normalizes, _, recreates, synced⟩⟩ :=
    recreates_activateInvitationOnLogin done
  · exact ⟨same.isProjected projected, same.hasOneActive one⟩
  · obtain ⟨isProjected, isOne⟩ := isProjected_recreates (marked.isProjected projected)
      (marked.hasOneActive one) (fun _ member => List.contains_iff_mem.mpr member)
      (nodup_of_normalizeTeamAssignments normalizes) recreates
    exact ⟨synced.isProjected isProjected, synced.hasOneActive isOne⟩

theorem sameStaff_updateMemberUser {update : MemberUpdate}
    (done : store.updateMemberUser update = .ok after) : store.SameStaff after := by
  obtain ⟨_, _, later⟩ := exists_of_bind_eq_ok done
  obtain ⟨_, _, isAfter⟩ := exists_of_bind_eq_ok later
  cases isAfter
  exact ⟨rfl, rfl, rfl⟩

/-- Members of the platform's own roles keep their stations. -/
theorem sameStaff_enforceMemberRole {newId : String} {update : MemberUpdate}
    {membership : Option OrganizationMembership}
    (done : store.enforceMemberRole newId update membership = .ok after) :
    store.SameStaff after := by
  rw [enforceMemberRole] at done
  split at done
  · cases done
    exact .refl store
  · exact sameStaff_enforceEvzoneOrganizationAssignment done

/-- Assignments that are not those of an attendant can go without a synchronization. -/
theorem isProjected_deactivateAssignments {userId : String} {atStation : String → Bool}
    (projected : store.IsProjected) (one : store.HasOneActive)
    (noAttendant : ∀ row ∈ store.activeAttendantAssignments userId,
      atStation row.stationId = false) :
    (store.deactivateAssignments userId atStation).IsProjected ∧
      (store.deactivateAssignments userId atStation).HasOneActive := by
  constructor
  · intro other
    have sameAttendants : (store.deactivateAssignments userId atStation).attendantShifts other =
        store.attendantShifts other := rfl
    rw [sameAttendants, projected other]
    ext place
    constructor
    · rintro ⟨row, isRow, sameUser, isActive, isAttendant, isPlace⟩
      refine ⟨row, ?_, sameUser, isActive, isAttendant, isPlace⟩
      rw [deactivateAssignments, Table.mem_updateWhere]
      refine ⟨row, isRow, Or.inr ⟨?_, rfl⟩⟩
      by_cases isUser : row.userId = userId
      · have elsewhere := noAttendant row
          (mem_activeAttendantAssignments.mpr ⟨isRow, isUser, isActive, isAttendant⟩)
        rw [elsewhere, Bool.and_false, Bool.false_and]
      · rw [decide_eq_false isUser, Bool.false_and, Bool.false_and]
    · rintro ⟨row, isRow, sameUser, isActive, rest⟩
      exact ⟨row, (mem_deactivateAssignments isRow isActive).1, sameUser, isActive, rest⟩
  · intro first isFirst second isSecond firstActive secondActive
    exact one first (mem_deactivateAssignments isFirst firstActive).1 second
      (mem_deactivateAssignments isSecond secondActive).1 firstActive secondActive

end Writes

end Store

/-! ## Conditions -/

/-- An update of a member to a role without stations finds no active assignment as an
attendant at a station of the organization. -/
def TeamWrite.keepsAttendants (store : Store) : TeamWrite → Bool
  | updateTeamMember _ update =>
    (update.role.all requiresStationAssignments) ||
      (store.activeAttendantAssignments update.targetUserId).all fun row =>
        !store.isStationOf update.organizationId row.stationId
  | _ => true

section Steps

variable {runtime : AuthRuntime} {store after : Store}

theorem isProjected_updateTeamMember {call : Call} {update : Store.MemberUpdate}
    (projected : store.IsProjected) (one : store.HasOneActive)
    (keeps : (TeamWrite.updateTeamMember call update).keepsAttendants store = true)
    (done : store.updateTeamMember call update = .ok after) :
    after.IsProjected ∧ after.HasOneActive := by
  obtain ⟨withUser, isUpdated, later⟩ := exists_of_bind_eq_ok done
  obtain ⟨enforced, isEnforced, isAfter⟩ := exists_of_bind_eq_ok later
  have withMembership : withUser.SameStaff (withUser.updateMemberMembership update) :=
    ⟨rfl, rfl, rfl⟩
  have same : store.SameStaff enforced :=
    ((Store.sameStaff_updateMemberUser isUpdated).trans withMembership).trans
      (Store.sameStaff_enforceMemberRole isEnforced)
  have isProjected := same.isProjected projected
  have isOne := same.hasOneActive one
  cases isAfter
  rw [Store.dropMemberStations]
  split
  · rename_i takesStations
    have noAttendant : ∀ row ∈ enforced.activeAttendantAssignments update.targetUserId,
        enforced.isStationOf update.organizationId row.stationId = false := by
      rw [Store.activeAttendantAssignments, same.stationTeamAssignments]
      intro row isRow
      rw [Store.isStationOf, same.stations]
      rcases isRole : update.role with _ | role
      · simp [isRole] at takesStations
      · simp only [isRole, Option.any_some, Bool.not_eq_true'] at takesStations
        simp only [TeamWrite.keepsAttendants, isRole, Option.all_some, takesStations,
          Bool.false_or, List.all_eq_true, Bool.not_eq_true'] at keeps
        exact keeps row isRow
    obtain ⟨projectedAfter, oneAfter⟩ :=
      Store.isProjected_deactivateAssignments isProjected isOne noAttendant
    have last : (enforced.deactivateAssignments update.targetUserId
        (enforced.isStationOf update.organizationId)).SameStaff
          ((enforced.deactivateAssignments update.targetUserId
            (enforced.isStationOf update.organizationId)).setLastStationAssignment
              update.targetUserId none) := ⟨rfl, rfl, rfl⟩
    exact ⟨last.isProjected projectedAfter, last.hasOneActive oneAfter⟩
  · exact ⟨isProjected, isOne⟩

theorem sameStaff_run {write : TeamWrite} {value : String}
    (done : write.run runtime store = .ok (after, value)) :
    store.SameStaff after ∨ (∃ call activation, write = .activateInvitation call activation) ∨
      (∃ call update, write = .updateTeamMember call update) ∨
      ∃ call targetUserId organizationId assignments,
        write = .replaceTeamAssignments call targetUserId organizationId assignments := by
  cases write with
  | ensureEvzoneOrganization call => exact Or.inl (Store.sameStaff_ensureEvzoneOrganization done)
  | revokeInvitations | assignOrganizationMembership | upsertTenantMembership =>
    cases done
    exact Or.inl ⟨rfl, rfl, rfl⟩
  | inviteMember call invite =>
    obtain ⟨invited, isInvited, isAfter⟩ := exists_of_map_eq_ok done
    cases isAfter
    exact Or.inl (Store.sameStaff_inviteMember isInvited)
  | activateInvitation call activation => exact Or.inr (Or.inl ⟨call, activation, rfl⟩)
  | updateTeamMember call update => exact Or.inr (Or.inr (Or.inl ⟨call, update, rfl⟩))
  | replaceTeamAssignments => exact Or.inr (Or.inr (Or.inr ⟨_, _, _, _, rfl⟩))
  | createCustomRole row =>
    obtain ⟨created, isCreated, isAfter⟩ := exists_of_map_eq_ok done
    cases isAfter
    obtain ⟨_, _, later⟩ := exists_of_bind_eq_ok isCreated
    obtain ⟨customRoles, _, isCreated⟩ := exists_of_bind_eq_ok later
    cases isCreated
    exact Or.inl ⟨rfl, rfl, rfl⟩
  | updateCustomRole customRoleId update =>
    obtain ⟨updated, isUpdated, isAfter⟩ := exists_of_map_eq_ok done
    cases isAfter
    obtain ⟨_, _, isUpdated⟩ := exists_of_bind_eq_ok isUpdated
    cases isUpdated
    exact Or.inl ⟨rfl, rfl, rfl⟩

/-- The writes other than a replacement, which needs the checks before it. -/
theorem isProjected_run {write : TeamWrite} {value : String} (projected : store.IsProjected)
    (one : store.HasOneActive) (keeps : write.keepsAttendants store = true)
    (isOther : ∀ call targetUserId organizationId assignments,
      write ≠ .replaceTeamAssignments call targetUserId organizationId assignments)
    (done : write.run runtime store = .ok (after, value)) :
    after.IsProjected ∧ after.HasOneActive := by
  rcases sameStaff_run done with
    same | ⟨call, activation, rfl⟩ | ⟨call, update, rfl⟩ | ⟨_, _, _, _, isReplacement⟩
  · exact ⟨same.isProjected projected, same.hasOneActive one⟩
  · exact Store.isProjected_activateInvitationOnLogin projected one done
  · obtain ⟨updated, isUpdated, isAfter⟩ := exists_of_map_eq_ok done
    cases isAfter
    exact isProjected_updateTeamMember projected one keeps isUpdated
  · exact absurd isReplacement (isOther _ _ _ _)

theorem leaves_replaceTeamAssignments (call : Call) (targetUserId : String)
    (assignments : List TeamStationAssignmentDto) (actorId : String)
    (sessionScope : Option SessionTenantScopeOptions) (limit : Option Nat) :
    (replaceTeamAssignments call targetUserId assignments actorId sessionScope).leaves
        (TeamWrite.effect runtime) limit store = store ∨
      ∃ (scope : TeamManagerScope) (normalized : List NormalizedAssignment),
        normalizeTeamAssignments assignments "team assignment update" = .ok normalized ∧
        store.validateStationsInOrganizationScope
          (normalized.map NormalizedAssignment.stationId) scope.organizationId = .ok () ∧
        store.replaceTeamAssignments call targetUserId scope.organizationId normalized =
          .ok ((replaceTeamAssignments call targetUserId assignments actorId sessionScope).leaves
            (TeamWrite.effect runtime) limit store) := by
  rw [replaceTeamAssignments]
  simp only [leaves_read_bind, leaves_ofExcept_bind,
    TeamWrite.leaves_commit_bind, leaves_pure]
  rcases store.getTeamManagerScope actorId sessionScope with _ | scope
  · exact Or.inl rfl
  · simp only []
    rcases store.ensureTeamMemberInScope targetUserId scope.organizationId with _ | target
    · exact Or.inl rfl
    · rcases normalizeTeamAssignments assignments "team assignment update" with _ | normalized
      · exact Or.inl rfl
      · simp only []
        rcases inScope : store.validateStationsInOrganizationScope
          (normalized.map NormalizedAssignment.stationId) scope.organizationId with _ | _
        · exact Or.inl rfl
        · rcases nextLimit limit with _ | remaining
          · exact Or.inl rfl
          · rcases done : store.replaceTeamAssignments call targetUserId scope.organizationId
              normalized with _ | after
            · exact Or.inl (by rw [TeamWrite.run, done]; rfl)
            · refine Or.inr ⟨scope, normalized, rfl, inScope, ?_⟩
              rw [done, TeamWrite.run, done]
              rfl

theorem TeamStep.keeps_next {property : Store → Prop} {condition : TeamWrite → Store → Prop}
    {step : TeamStep}
    (written : ∀ (write : TeamWrite) (current after : Store) (value : String),
      (∀ call targetUserId organizationId assignments,
        write ≠ .replaceTeamAssignments call targetUserId organizationId assignments) →
      condition write current → property current →
      write.run runtime current = .ok (after, value) → property after)
    (replaced : ∀ (call : Call) (targetUserId : String)
      (assignments : List TeamStationAssignmentDto) (actorId : String)
      (sessionScope : Option SessionTenantScopeOptions) (organizationId : String)
      (normalized : List NormalizedAssignment) (after : Store), step.operation =
        .replaceTeamAssignments call targetUserId assignments actorId sessionScope →
      normalizeTeamAssignments assignments "team assignment update" = .ok normalized →
      store.validateStationsInOrganizationScope
        (normalized.map NormalizedAssignment.stationId) organizationId = .ok () →
      store.replaceTeamAssignments call targetUserId organizationId normalized = .ok after →
      property store → property after)
    (met : step.CommitsMeet runtime condition store) (holds : property store) :
    property (step.next runtime store) := by
  have keepsEach (isOther : ∀ write : TeamWrite, write.isOf step.operation = true →
      ∀ call targetUserId organizationId assignments,
        write ≠ .replaceTeamAssignments call targetUserId organizationId assignments)
      (write : TeamWrite) (current after : Store) (result : Except AuthException String)
      (isOf : write.isOf step.operation = true) (keeps : condition write current)
      (holds : property current)
      (happens : write.effect runtime current = some (after, result)) : property after := by
    rcases TeamWrite.of_effect happens with rfl | ⟨value, done⟩
    · exact holds
    · exact written write current after value (isOther write isOf) keeps holds done
  rcases step with ⟨operation, limit⟩
  cases operation with
  | replaceTeamAssignments call targetUserId assignments actorId sessionScope =>
    rcases leaves_replaceTeamAssignments call targetUserId assignments actorId sessionScope
      limit with unchanged | ⟨scope, normalized, normalizes, valid, done⟩
    · rw [TeamStep.next, TeamOperation.program, unchanged]
      exact holds
    · exact replaced call targetUserId assignments actorId sessionScope scope.organizationId
        normalized _ rfl normalizes valid done holds
  | _ =>
    refine (transacts_program _).leaves (keepsEach ?_) met holds
    rintro write isOf call targetUserId organizationId assignments rfl
    contradiction

/-- What all operations keep. -/
def Synchronized (store : Store) : Prop :=
  store.IsProjected ∧ store.HasOneActive

theorem synchronized_next {step : TeamStep}
    (met : step.CommitsMeet runtime (fun write store => write.keepsAttendants store = true) store)
    (holds : Synchronized store) : Synchronized (step.next runtime store) := by
  refine TeamStep.keeps_next ?_ ?_ met holds
  · intro write current after value isOther keeps holds done
    exact isProjected_run holds.1 holds.2 keeps isOther done
  · intro call targetUserId assignments _ _ organizationId normalized after _ normalizes valid
      done holds
    exact Store.isProjected_recreates holds.1 holds.2 (Store.isStationOf_of_validate valid)
      (nodup_of_normalizeTeamAssignments normalizes) (Store.recreates_replaceTeamAssignments done)

end Steps

/-- In a run in which no attendant loses the stations with the role, the attendants are
those of the station assignments. -/
theorem isProjected_of_keepsAttendants {runtime : AuthRuntime} {store : Store}
    (projected : store.IsProjected) (one : store.HasOneActive) {steps : List TeamStep}
    (met : StepsMeet (TeamStep.next runtime) (fun store step => step.CommitsMeet runtime
      (fun write store => write.keepsAttendants store = true) store) store steps) :
    ∀ reached ∈ states (TeamStep.next runtime) store steps, reached.IsProjected := by
  intro reached member
  have initially : Synchronized store := ⟨projected, one⟩
  have both := forall_mem_states_of_stepsMeet (fun _ _ => synchronized_next) initially met
  exact (both reached member).1

/-! ## Updates and replacements -/

namespace Sample

def assignsAttendant : TeamStep :=
  whole (.replaceTeamAssignments call "ben"
    [⟨"depot", "ATTENDANT", none, none, none, some "06:00", none, none⟩] "ada" none)

def makesSiteOwner : TeamStep :=
  whole (.updateTeamMember call "ben" ⟨none, none, some "SITE_OWNER", none, none, none, none⟩
    "ada" none)

theorem isProjected_team : team.IsProjected := by
  intro userId
  ext place
  simp [Store.attendantShifts, Store.assignedShifts, team, Store.empty, Table.empty]

theorem hasOneActive_team : team.HasOneActive := by
  intro first isFirst
  exact nomatch isFirst

theorem commitsMeet_assignsAttendant (store : Store) : assignsAttendant.CommitsMeet authRuntime
      (fun write store => write.keepsAttendants store = true) store := by
  refine (transacts_program assignsAttendant.operation).commitsMeet ?_ none store
  intro write store isOf
  cases write with
  | updateTeamMember call update => contradiction
  | _ => rfl

def places (store : Store) (userId : String) : List String × List String :=
  ((store.attendantAssignments.rows.filter fun row =>
      row.userId = userId && row.isActive).map AttendantAssignment.stationId,
    (store.activeAttendantAssignments userId).map StationTeamAssignment.stationId)

end Sample

open Sample

theorem isProjected_assignsAttendant :
    places (assignsAttendant.next authRuntime team) "ben" =
        (["depot"], ["depot"]) ∧
      (assignsAttendant.next authRuntime team).IsProjected := by
  constructor
  · decide +kernel
  · have met : StepsMeet (TeamStep.next authRuntime)
        (fun store step => step.CommitsMeet authRuntime
          (fun write store => write.keepsAttendants store = true) store)
        team [assignsAttendant] :=
      ⟨commitsMeet_assignsAttendant _, trivial⟩
    exact isProjected_of_keepsAttendants isProjected_team hasOneActive_team met _
      (List.mem_cons_of_mem _ List.mem_cons_self)

/-- An attendant that becomes a site owner stays one at the station. -/
theorem makesSiteOwner_not_isProjected : team.IsProjected ∧
      places (makesSiteOwner.next authRuntime
        (assignsAttendant.next authRuntime team)) "ben" = (["depot"], []) ∧
      ¬ (makesSiteOwner.next authRuntime
        (assignsAttendant.next authRuntime team)).IsProjected := by
  have noLonger : places (makesSiteOwner.next authRuntime
      (assignsAttendant.next authRuntime team)) "ben" = (["depot"], []) := by
    decide +kernel
  refine ⟨isProjected_team, noLonger, ?_⟩
  intro projected
  obtain ⟨isActive, noneAssigned⟩ := Prod.ext_iff.mp noLonger
  have atDepot : "depot" ∈ (places (makesSiteOwner.next authRuntime
      (assignsAttendant.next authRuntime team)) "ben").1 :=
    isActive ▸ List.mem_cons_self
  obtain ⟨row, isRow, isDepot⟩ := List.mem_map.mp atDepot
  simp only [List.mem_filter, Bool.and_eq_true, decide_eq_true_eq] at isRow
  have isAttendant : ("depot", row.shift) ∈ (makesSiteOwner.next authRuntime
      (assignsAttendant.next authRuntime team)).attendantShifts "ben" :=
    ⟨row, isRow.1, isRow.2.1, isRow.2.2, by rw [isDepot]⟩
  rw [projected "ben", Store.mem_assignedShifts, List.map_eq_nil_iff.mp noneAssigned]
    at isAttendant
  exact nomatch isAttendant

end Csms.Auth
