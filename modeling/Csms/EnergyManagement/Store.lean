import Csms.EnergyManagement.Input
import Csms.EnergyManagement.Logic.Plan
import Csms.Service.Program
import Csms.Table.Keyed

/-!
# The stored state of energy management

The rows the energy management services read and write, one structure a table,
and the store that holds the tables.  Times are milliseconds since the epoch.
Tables with a unique constraint that the services rely on are keyed by it, so a
store that violates one cannot be built; the append-only tables are lists, in
the order the rows were created.
-/

namespace Csms.EnergyManagement

open Commands Js

structure Station where
  id : String
  (siteId orgId : Option String)
  /-- The organisation of the site, when the station has one. -/
  siteOrganizationId : Option String
  createdAt : Int
  deriving DecidableEq

structure ChargePoint where
  (id ocppId stationId status : String)
  smartChargingEnabled : Bool
  deriving DecidableEq

structure EnergyLoadGroup where
  (id tenantId stationId name : String)
  description : Option String
  controlMode : EnergyControlMode
  allocationMethod : EnergyAllocationMethod
  meterSource : Option String
  meterPlacement : EnergyMeterPlacement
  (siteLimitAmps dynamicBufferAmps failSafeAmps : PhaseTriple Int)
  (deadbandAmps staleWarningAfterSec failSafeAfterSec commandRefreshSec : Int)
  (isActive observeOnly : Bool)
  (latestTelemetryAt latestDecisionAt : Option Int)
  latestDecisionHash : Option String
  latestAppliedAt : Option Int
  latestReasonCode : Option String
  lastMeterFreshnessSec : Option Int
  (lastSiteLoadAmps lastNonEvLoadAmps lastHeadroomAmps : PhaseTriple (Option Int))
  deriving DecidableEq

structure EnergyLoadGroupMembership where
  (groupId chargePointId : String)
  priority : Int
  (enabled smartChargingEnabled : Bool)
  (maxAmps lastAppliedAmps : Option Int)
  lastAppliedDecisionHash : Option String
  lastCommandAt : Option Int
  (lastCommandId lastCommandStatus : Option String)
  deriving DecidableEq

def EnergyLoadGroupMembership.key (membership : EnergyLoadGroupMembership) : String × String :=
  (membership.groupId, membership.chargePointId)

structure EnergyTelemetrySnapshot where
  (groupId stationId : String)
  sampledAt : Int
  meterSource : Option String
  meterPlacement : EnergyMeterPlacement
  (siteLoadAmps nonEvLoadAmps availableAmps headroomAmps : PhaseTriple Int)
  freshnessSec : Int
  reasonCode : Option String
  deriving DecidableEq

structure EnergyDerProfile where
  (tenantId stationId : String)
  solarEnabled : Bool
  maxSolarContributionKw : Option ℚ
  deriving DecidableEq

def EnergyDerProfile.key (profile : EnergyDerProfile) : String × String :=
  (profile.tenantId, profile.stationId)

inductive EnergyOverrideStatus where
  | active
  | cleared
  | expired
  deriving DecidableEq, Repr

structure EnergyManualOverride where
  (id groupId : String)
  status : EnergyOverrideStatus
  reason : String
  requestedBy : Option String
  (capAmps expiresAt : Int)
  clearedAt : Option Int
  createdAt : Int
  deriving DecidableEq

structure EnergyAlert where
  (groupId code severity title message : String)
  deriving DecidableEq

/-- What `applyPlan` reports for one command. -/
structure AppliedCommand where
  (commandId status chargePointId : String)
  targetAmps : Int
  deriving DecidableEq

/-- A row of the decision log: the rows a plan was computed from, the plan and
the commands it led to. -/
structure EnergyAllocationDecision where
  (groupId decisionHash triggeredBy reasonCode : String)
  state : EnergyDecisionState
  group : EnergyLoadGroup
  telemetry : Option EnergyTelemetrySnapshot
  override : Option EnergyManualOverride
  memberships : List EnergyLoadGroupMembership
  plan : EnergyAllocationPlan
  commands : List AppliedCommand
  commandCount : Nat
  appliedAt : Option Int
  relatedOverrideId : Option String

/-- The payload of a charging limit command. -/
structure EnergyCommandPayload where
  (groupId stationId chargePointId decisionHash : String)
  reasonCode : PlanReasonCode
  controlMode : EnergyControlMode
  allocationMethod : EnergyAllocationMethod
  (limitAmps effectiveLimitAmps : Int)
  (headroomAmps failSafeCeilingAmps siteLimitAmps nonEvLoadAmps : PhaseTriple Int)
  dynamicBufferAmps : PhaseTriple Int
  telemetryAgeSec : Option Int
  deriving DecidableEq

inductive OptimizationPlanState where
  | draft
  | readyForApproval
  | scheduled
  | approved
  | fallbackDlm
  | other (state : String)
  deriving DecidableEq

structure EnergyOptimizationPlan where
  (id tenantId stationId : String)
  groupId : Option String
  state : OptimizationPlanState
  (windowStart windowEnd : Int)
  /-- The entries of the stored schedule, when it is an array. -/
  schedule : Option (List JsValue)
  approvedBy : Option String
  approvedAt : Option Int

structure EnergyManagementSchedule where
  (id tenantId stationId : String)
  (groupId planId : Option String)
  status : ScheduleStatus
  (startsAt endsAt : Int)
  entries : List JsValue
  fallbackToDlm : Bool
  (notes approvedBy : Option String)
  approvedAt : Option Int
  createdBy : Option String

/-- A row of the plan run log. -/
structure EnergyPlanRun where
  tenantId : String
  (planId scheduleId stationId groupId : Option String)
  (trigger state message : String)
  initiatedBy : Option String

/-- All tables. -/
structure Store where
  stations : Table Station Station.id
  derProfiles : Table EnergyDerProfile EnergyDerProfile.key
  chargePoints : Table ChargePoint ChargePoint.id
  groups : Table EnergyLoadGroup EnergyLoadGroup.id
  memberships : Table EnergyLoadGroupMembership EnergyLoadGroupMembership.key
  telemetrySnapshots : List EnergyTelemetrySnapshot
  manualOverrides : List EnergyManualOverride
  allocationDecisions : List EnergyAllocationDecision
  alerts : List EnergyAlert
  optimizationPlans : Table EnergyOptimizationPlan EnergyOptimizationPlan.id
  schedules : Table EnergyManagementSchedule EnergyManagementSchedule.id
  planRuns : List EnergyPlanRun
  commands : CommandTables EnergyCommandPayload

/-- The store without rows. -/
def Store.empty : Store where
  stations := Table.empty
  derProfiles := Table.empty
  chargePoints := Table.empty
  groups := Table.empty
  memberships := Table.empty
  telemetrySnapshots := []
  manualOverrides := []
  allocationDecisions := []
  alerts := []
  optimizationPlans := Table.empty
  schedules := Table.empty
  planRuns := []
  commands := CommandTables.empty

abbrev Handler :=
  EStateM HttpException Store

/-- What a request carries besides its body. -/
structure ServiceContext where
  engine : EnergyEngine
  tenant : Option TenantContext
  firmwareCommandsEnabled : Bool

def resolveTenantIdOrNull (context : ServiceContext) : Option String :=
  TenantContext.resolve context.tenant none

def resolveTenantId (context : ServiceContext) : Except HttpException String :=
  match orText (resolveTenantIdOrNull context) none with
  | some tenantId => .ok tenantId
  | none => .error (.badRequest "Tenant context is required")

def assertStationExists (context : ServiceContext) (store : Store) (stationId : String) :
    Except HttpException Station := do
  let tenantId ← resolveTenantId context
  match store.stations.find? stationId with
  | none => .error (.notFound "Station not found")
  | some station =>
    match orText station.orgId (orText station.siteOrganizationId none) with
    | some stationTenantId =>
      if stationTenantId ≠ tenantId then
        .error (.notFound "Station not found")
      else
        .ok station
    | none => .ok station

/-- Requests of the organisation `org-1`. -/
def siteContext : ServiceContext where
  engine := plainEngine
  tenant := some ⟨some "org-1", none⟩
  firmwareCommandsEnabled := false

def siteStation : Station where
  id := "station-1"
  siteId := some "site-1"
  orgId := some "org-1"
  siteOrganizationId := none
  createdAt := 0

def siteChargePoint (id : String) : ChargePoint where
  id := id
  ocppId := id
  stationId := "station-1"
  status := "AVAILABLE"
  smartChargingEnabled := true

/-- An active group behind 32 A a phase. -/
def siteGroup : EnergyLoadGroup where
  id := "group-1"
  tenantId := "org-1"
  stationId := "station-1"
  name := "main"
  description := none
  controlMode := .active
  allocationMethod := .equal
  meterSource := none
  meterPlacement := .main
  siteLimitAmps := ⟨32, 32, 32⟩
  dynamicBufferAmps := ⟨0, 0, 0⟩
  failSafeAmps := ⟨32, 32, 32⟩
  deadbandAmps := 1
  staleWarningAfterSec := 30
  failSafeAfterSec := 60
  commandRefreshSec := 300
  isActive := true
  observeOnly := false
  latestTelemetryAt := none
  latestDecisionAt := none
  latestDecisionHash := none
  latestAppliedAt := none
  latestReasonCode := none
  lastMeterFreshnessSec := none
  lastSiteLoadAmps := ⟨none, none, none⟩
  lastNonEvLoadAmps := ⟨none, none, none⟩
  lastHeadroomAmps := ⟨none, none, none⟩

def siteMembership (chargePointId : String) : EnergyLoadGroupMembership where
  groupId := "group-1"
  chargePointId := chargePointId
  priority := 0
  enabled := true
  smartChargingEnabled := true
  maxAmps := none
  lastAppliedAmps := none
  lastAppliedDecisionHash := none
  lastCommandAt := none
  lastCommandId := none
  lastCommandStatus := none

/-- One station, one charge point, one group with that charge point. -/
def siteStore : Store :=
  { Store.empty with
    stations := ⟨[siteStation], by decide⟩
    chargePoints := ⟨[siteChargePoint "cp-1"], by decide⟩
    groups := ⟨[siteGroup], by decide⟩
    memberships := ⟨[siteMembership "cp-1"], by decide⟩ }

end Csms.EnergyManagement
