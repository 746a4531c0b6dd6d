import Csms.Auth.Team.Input

/-!
# Transactions on the team

What the transactions on memberships, invitations and station assignments do to the store.
A transaction that throws leaves the store as it was.
-/

namespace Csms.Auth

open Js

/-- A unique value is taken, or a row is missing. -/
def orDatabaseError {α : Type} : Option α → Except AuthException α
  | some value => .ok value
  | none => .error .databaseError

theorem orDatabaseError_eq_ok_iff {α : Type} {found : Option α} {value : α} :
    orDatabaseError found = .ok value ↔ found = some value := by
  cases found <;> simp [orDatabaseError]

namespace Store

variable (store : Store)

def evzoneOrganizationName : String :=
  "EVZONE WORLD"

def legacyEvzoneOrganizationName : String :=
  "EVZONE"

def organizationNamed? (name : String) : Option Organization :=
  store.organizations.rows.find? fun organization =>
    toLowerCase organization.name = toLowerCase name

def ensureEvzoneOrganization (newId : String) : Except AuthException (Store × String) :=
  match store.organizationNamed? evzoneOrganizationName,
      store.organizationNamed? legacyEvzoneOrganizationName with
  | some organization, _ => .ok (store, organization.id)
  | none, some legacy =>
    let organizations := store.organizations.updateWhere
      (fun organization => organization.id = legacy.id)
      (fun organization => { organization with name := evzoneOrganizationName }) fun _ => rfl
    .ok ({ store with organizations }, legacy.id)
  | none, none => do
    let organizations ← orDatabaseError
      (store.organizations.insert? ⟨newId, evzoneOrganizationName⟩)
    pure ({ store with organizations }, newId)

/-- `data` of an update of a membership, with what it sets. -/
structure MembershipUpdate where
  role : Option UserRole
  canonicalRoleKey : Option (Option CanonicalRoleKey)
  (customRoleId customRoleName : Option (Option String))
  ownerCapability : Option (Option StationOwnerCapability)
  status : Option MembershipStatus
  invitedBy : Option (Option String)
deriving DecidableEq

def MembershipUpdate.apply (update : MembershipUpdate) (row : OrganizationMembership) :
    OrganizationMembership :=
  { row with
    role := update.role.getD row.role
    canonicalRoleKey := update.canonicalRoleKey.getD row.canonicalRoleKey
    customRoleId := update.customRoleId.getD row.customRoleId
    customRoleName := update.customRoleName.getD row.customRoleName
    ownerCapability := update.ownerCapability.getD row.ownerCapability
    status := update.status.getD row.status
    invitedBy := update.invitedBy.getD row.invitedBy }

def MembershipUpdate.isEmpty (update : MembershipUpdate) : Bool :=
  update = ⟨none, none, none, none, none, none, none⟩

def upsertMembership (row : OrganizationMembership) (update : MembershipUpdate) : Store :=
  { store with memberships := store.memberships.upsert row update.apply fun _ => rfl }

def MembershipUpdate.setsAll (row : OrganizationMembership) : MembershipUpdate where
  role := some row.role
  canonicalRoleKey := some row.canonicalRoleKey
  customRoleId := some row.customRoleId
  customRoleName := some row.customRoleName
  ownerCapability := some row.ownerCapability
  status := some row.status
  invitedBy := some row.invitedBy

def setMembership (row : OrganizationMembership) : Store :=
  store.upsertMembership row (.setsAll row)

structure EvzoneAssignment where
  userId : String
  role : UserRole
  ownerCapability : Option StationOwnerCapability
  membershipStatus : MembershipStatus
  (invitedBy customRoleId customRoleName : Option String)

def EvzoneAssignment.membership (params : EvzoneAssignment) (organizationId : String) :
    OrganizationMembership where
  userId := params.userId
  organizationId := organizationId
  role := params.role
  canonicalRoleKey := resolveCanonicalRoleKey params.role
  customRoleId := orText params.customRoleId none
  customRoleName := orText params.customRoleName none
  ownerCapability := params.ownerCapability
  status := params.membershipStatus
  invitedBy := orText params.invitedBy none

def EvzoneAssignment.update (params : EvzoneAssignment) : MembershipUpdate where
  role := some params.role
  canonicalRoleKey := some (resolveCanonicalRoleKey params.role)
  customRoleId := params.customRoleId.map fun id => orText (some id) none
  customRoleName := params.customRoleName.map fun name => orText (some name) none
  ownerCapability := some params.ownerCapability
  status := some params.membershipStatus
  invitedBy := params.invitedBy.map some

def enforceEvzoneOrganizationAssignment (params : EvzoneAssignment) (newId : String) :
    Except AuthException Store :=
  if isEvzoneRole params.role then do
    let (ensured, organizationId) ← store.ensureEvzoneOrganization newId
    let assigned := ensured.updateUser params.userId
      (fun user => { user with organizationId := some organizationId }) fun _ => rfl
    pure (assigned.upsertMembership (params.membership organizationId) params.update)
  else .ok store

def validateStationsInOrganizationScope (stationIds : List String) (organizationId : String) :
    Except AuthException Unit :=
  let stations := store.stations.rows.filter fun station => stationIds.contains station.id
  let missing := stationIds.filter fun id => !(stations.map Station.id).contains id
  if stations.length ≠ stationIds.length then
    .error (.notFound ("One or more stations do not exist: " ++ join ", " missing))
  else
    match stations.find? fun station => station.orgId ≠ some organizationId with
    | some station =>
      .error (.unauthorized
        ("Station " ++ station.id ++ " is outside your organization scope"))
    | none => .ok ()

def deactivateAssignments (userId : String) (atStation : String → Bool) : Store :=
  { store with
    stationTeamAssignments := store.stationTeamAssignments.updateWhere
      (fun row => row.userId = userId && atStation row.stationId && row.isActive)
      (fun row => { row with isActive := false, isPrimary := false }) fun _ => rfl }

def assignmentRow (userId id : String) (assignment : NormalizedAssignment) :
    StationTeamAssignment where
  id := id
  userId := userId
  stationId := assignment.stationId
  role := assignment.role
  isPrimary := assignment.isPrimary
  isActive := assignment.isActive
  attendantMode := assignment.attendantMode
  shiftStart := assignment.shiftStart
  shiftEnd := assignment.shiftEnd
  timezone := assignment.timezone

def createdRows (userId : String) (uuid : Nat → String) (assignments : List NormalizedAssignment) :
    List StationTeamAssignment :=
  assignments.mapIdx fun index assignment => assignmentRow userId (uuid index) assignment

def createAssignments (rows : List StationTeamAssignment) : Except AuthException Store := do
  let stationTeamAssignments ← orDatabaseError (store.stationTeamAssignments.insertAll? rows)
  pure { store with stationTeamAssignments }

def setLastStationAssignment (userId : String) (assignmentId : Option String) : Store :=
  store.updateUser userId (fun user => { user with lastStationAssignmentId := assignmentId })
    fun _ => rfl

def projected (assignment : StationTeamAssignment) (row : AttendantAssignment) :
    AttendantAssignment :=
  { row with
    roleMode := assignment.attendantMode.getD .fixed
    shiftStart := (orText assignment.shiftStart none).getD "00:00"
    shiftEnd := (orText assignment.shiftEnd none).getD "23:59"
    timezone := (orText assignment.timezone none).getD defaultAttendantTimezone
    isActive := true }

@[simp]
theorem id_projected (assignment : StationTeamAssignment) (row : AttendantAssignment) :
    (projected assignment row).id = row.id :=
  rfl

abbrev AttendantTable :=
  Table AttendantAssignment AttendantAssignment.id

/-- The update of the row under the id with the values of the assignment. -/
def projectAttendant (table : AttendantTable) (id : String) (assignment : StationTeamAssignment) :
    AttendantTable :=
  table.updateWhere (fun row => row.id = id) (projected assignment) (id_projected assignment)

def deactivateAttendants (table : AttendantTable) (ids : List String) : AttendantTable :=
  table.updateWhere (fun row => ids.contains row.id) (fun row => { row with isActive := false })
    fun _ => rfl

/-- One pass of the loop of `syncAttendantProjectionForUser`: the first of the existing rows
at the station becomes that of the assignment, and further ones become inactive. -/
def syncAssignment (userId : String) (existing : List AttendantAssignment) (table : AttendantTable)
    (newId : String) (assignment : StationTeamAssignment) : Except AuthException AttendantTable :=
  match existing.filter fun row => row.stationId = assignment.stationId with
  | primaryRow :: duplicates =>
    .ok (deactivateAttendants (projectAttendant table primaryRow.id assignment)
      (duplicates.map AttendantAssignment.id))
  | [] =>
    orDatabaseError <| table.insert? <| projected assignment
      { id := newId
        userId
        stationId := assignment.stationId
        roleMode := .fixed
        shiftStart := ""
        shiftEnd := ""
        timezone := ""
        isActive := true }

def syncAssignments (userId : String) (existing : List AttendantAssignment) (uuid : Nat → String) :
    AttendantTable → List StationTeamAssignment → Except AuthException AttendantTable
  | table, [] => .ok table
  | table, assignment :: rest => do
    let synced ← syncAssignment userId existing table (uuid rest.length) assignment
    syncAssignments userId existing uuid synced rest

def activeAttendantAssignments (userId : String) : List StationTeamAssignment :=
  store.stationTeamAssignments.rows.filter fun row =>
    row.userId = userId && row.isActive && row.role = .attendant

def syncAttendantProjectionForUser (userId : String) (uuid : Nat → String) :
    Except AuthException Store := do
  let active := store.activeAttendantAssignments userId
  let existing := store.attendantAssignments.rows.filter fun row => row.userId = userId
  let synced ← syncAssignments userId existing uuid store.attendantAssignments active
  let stale := existing.filter fun row =>
    !(active.map StationTeamAssignment.stationId).contains row.stationId && row.isActive
  pure { store with
    attendantAssignments := deactivateAttendants synced (stale.map AttendantAssignment.id) }

end Store

end Csms.Auth
