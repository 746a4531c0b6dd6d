import Csms.Auth.Store

/-!
# Requests on the team

What the operations on members and their station assignments get, and how assignments are
checked and completed.
-/

namespace Csms.Auth

open Js

inductive AuthException
  | unauthorized (message : String)
  | badRequest (message : String)
  | forbidden (message : String)
  | notFound (message : String)
  | conflict (message : String)
  | databaseError
deriving DecidableEq

/-- `throw` unless the condition holds. -/
def check (condition : Bool) (exception : AuthException) : Except AuthException Unit :=
  if condition then .ok () else .error exception

theorem exists_of_map_eq_ok {α γ : Type} {found : Except AuthException α} {make : α → γ}
    {value : γ} (done : found.map make = .ok value) :
    ∃ first, found = .ok first ∧ make first = value := by
  cases found with
  | error exception => contradiction
  | ok first => exact ⟨first, rfl, Except.ok.inj done⟩

def isEvzoneRole : UserRole → Bool
  | .superAdmin | .evzoneAdmin | .evzoneOperator => true
  | _ => false

/-- `teamManagerRoles`. -/
def isTeamManagerRole : UserRole → Bool
  | .superAdmin | .evzoneAdmin | .evzoneOperator | .stationOwner | .stationAdmin
  | .stationOperator => true
  | _ => false

/-- `teamManageableRoles`. -/
def isTeamManageableRole : UserRole → Bool
  | .superAdmin | .evzoneAdmin | .evzoneOperator | .swapProviderAdmin | .swapProviderOperator
  | .siteOwner | .stationOwner | .stationOperator | .stationAdmin | .manager | .attendant
  | .cashier | .technicianOrg | .technicianPublic => true
  | _ => false

/-- `stationScopedTeamRoles`. -/
def requiresStationAssignments : UserRole → Bool
  | .stationOperator | .stationAdmin | .manager | .attendant | .cashier => true
  | _ => false

def parseUserRole (input context : String) : Except AuthException UserRole :=
  match UserRole.ofText input with
  | some role => .ok role
  | none => .error (.badRequest ("Invalid role \"" ++ input ++ "\" for " ++ context))

def assertTeamManageableRole (role : UserRole) (context : String) : Except AuthException Unit :=
  check (isTeamManageableRole role)
    (.badRequest
      ("Role \"" ++ role.text ++ "\" is not allowed for team management (" ++ context ++ ")"))

def assertCanAssignEvzoneRole (assignerRole targetRole : UserRole) (context : String) :
    Except AuthException Unit :=
  check (!isEvzoneRole targetRole || isEvzoneRole assignerRole)
    (.forbidden ("Only platform roles can assign role \"" ++ targetRole.text ++ "\" (" ++ context ++
      ")"))

/-- An assignment that is checked and completed. -/
structure NormalizedAssignment where
  stationId : String
  role : UserRole
  (isPrimary isActive : Bool)
  attendantMode : Option AttendantRoleMode
  (shiftStart shiftEnd timezone : Option String)
deriving DecidableEq

def defaultAttendantTimezone : String :=
  "Africa/Kampala"

/-- The stations are given, and each is given once. -/
def checkStationIds : List String → List String → Except AuthException Unit
  | [], _ => .ok ()
  | stationId :: rest, seen =>
    if trim stationId = "" then
      .error (.badRequest "stationId is required for each assignment")
    else if seen.contains stationId then
      .error (.badRequest ("Duplicate station assignment for station " ++ stationId))
    else checkStationIds rest (stationId :: seen)

def normalizeTeamAssignment (context : String) (assignment : TeamStationAssignmentDto) :
    Except AuthException NormalizedAssignment := do
  let role ← parseUserRole assignment.role context
  assertTeamManageableRole role context
  let normalized : NormalizedAssignment :=
    { stationId := assignment.stationId
      role
      isPrimary := assignment.isPrimary.getD false
      isActive := assignment.isActive.getD true
      attendantMode := none
      shiftStart := none
      shiftEnd := none
      timezone := none }
  pure <|
    if role = .attendant then
      { normalized with
        attendantMode := some (assignment.attendantMode.getD .fixed)
        shiftStart := orText assignment.shiftStart (some "00:00")
        shiftEnd := orText assignment.shiftEnd (some "23:59")
        timezone := orText assignment.timezone (some defaultAttendantTimezone) }
    else normalized

def makeFirstPrimary (condition : NormalizedAssignment → Bool) :
    List NormalizedAssignment → List NormalizedAssignment
  | [] => []
  | assignment :: rest =>
    if condition assignment then { assignment with isPrimary := true } :: rest
    else assignment :: makeFirstPrimary condition rest

/-- Some assignment is primary, and an active one if there are active ones. -/
def choosePrimary (assignments : List NormalizedAssignment) : List NormalizedAssignment :=
  let normalized :=
    if assignments.any NormalizedAssignment.isPrimary then assignments
    else makeFirstPrimary (fun _ => true) assignments
  if normalized.any fun assignment => assignment.isActive && assignment.isPrimary then normalized
  else makeFirstPrimary NormalizedAssignment.isActive normalized

def normalizeTeamAssignments (assignments : List TeamStationAssignmentDto) (context : String) :
    Except AuthException (List NormalizedAssignment) := do
  check (!assignments.isEmpty) (.badRequest "At least one station assignment is required")
  checkStationIds (assignments.map TeamStationAssignmentDto.stationId) []
  let normalized ← assignments.mapM (normalizeTeamAssignment context)
  pure (choosePrimary normalized)

/-- A checked assignment as JSON. -/
def NormalizedAssignment.toDto (assignment : NormalizedAssignment) : TeamStationAssignmentDto where
  stationId := assignment.stationId
  role := assignment.role.text
  isPrimary := some assignment.isPrimary
  isActive := some assignment.isActive
  attendantMode := assignment.attendantMode
  shiftStart := assignment.shiftStart
  shiftEnd := assignment.shiftEnd
  timezone := assignment.timezone

structure SessionTenantScopeOptions where
  sessionScopeType : Option SessionScopeType
  actingAsTenant : Option Bool
  selectedTenantId : Option String

structure InviteUserDto where
  (email role : String)
  ownerCapability : Option StationOwnerCapability
  (customRoleId customRoleName : Option String)
  initialAssignments : List TeamStationAssignmentDto

structure UpdateUserDto where
  (name phone role : Option String)
  ownerCapability : Option StationOwnerCapability
  (customRoleId customRoleName status : Option String)

structure CreateTenantCustomRoleDto where
  key : Option String
  (name baseRoleKey : String)
  status : Option String
  permissions : List String

structure UpdateTenantCustomRoleDto where
  (name status : Option String)
  permissions : Option (List String)

structure AssignTenantMembershipDto where
  userId : String
  (roleKey customRoleId status : Option String)

/-- The functions of the libraries. -/
structure AuthRuntime where
  hashToken : String → String
  /-- `comparePasswordWithLegacySupport`: a password and a hash. -/
  comparePassword : String → String → Bool
  hashPassword : String → String

/-- What an operation takes from its surroundings: the clock, and the ids, tokens and
passwords that are made for it. -/
structure Call where
  now : Int
  uuid : Nat → String
  (inviteToken temporaryPassword : String)

end Csms.Auth
