import Csms.EnergyManagement.Logic.Distribution
import Csms.Js.Value
import Mathlib.Data.List.Sort

/-!
# The allocation plan

`buildEnergyAllocationPlan` reduces limits, loads and overrides to one effective
limit, divides it among the active members and decides for each of them whether
to send a command.  The raw targets of both methods are feasible for the
effective limit, clamping leaves feasible targets alone, and so the plan never
promises more than the limit.
-/

namespace Csms.EnergyManagement

open Allocation Js

/-- What one active member contributes to the decision hash. -/
structure DecisionHashMember where
  chargePointId : String
  priority : Int
  (smartChargingEnabled chargePointOnline enabled : Bool)
  previousAmps : Option JsNumber
  lastAppliedDecisionHash : Option String
  lastCommandAt : Option DateText

/-- What one allocation contributes to the decision hash. -/
structure DecisionHashAllocation where
  chargePointId : String
  targetAmps : Int
  commandType : EnergyAllocationCommandType
  shouldSendCommand : Bool

/-- The object whose JSON text is hashed into the decision hash. -/
structure DecisionHashInput where
  groupId : String
  controlMode : EnergyControlMode
  observeOnly : Bool
  allocationMethod : EnergyAllocationMethod
  (siteLimitAmps nonEvLoadAmps dynamicBufferAmps failSafeAmps headroomAmps : PhaseTriple Int)
  failSafeCeilingAmps : PhaseTriple Int
  (overrideCapAmps telemetryAgeSec : Option Int)
  activeMembers : List DecisionHashMember
  allocations : List DecisionHashAllocation
  reasonCode : PlanReasonCode

/-- The JavaScript engine, and the hex SHA-256 digest of a decision's JSON. -/
structure EnergyEngine extends Engine where
  decisionDigest : DecisionHashInput → String

/-- An engine that collates by code points, which is how plain lower-case
identifiers collate, reads no date texts or numeric strings, and digests every
decision to one text. -/
def plainEngine : EnergyEngine where
  localeCompare left right := if left < right then -1 else if left = right then 0 else 1
  parseDateText _ := none
  coerceNumber _ := .nan
  decisionDigest _ := "digest"

def clampToMemberLimit (value : Int) (maxAmps : Option JsNumber) : Int :=
  let normalizedValue := max 0 value
  match normalizeOptionalInt maxAmps with
  | none => normalizedValue
  | some normalizedMax => min normalizedValue normalizedMax

theorem clampToMemberLimit_eq_self {member : EnergyAllocationMemberInput} {share : Int}
    (admissible : Admissible (memberCap member) share) :
    clampToMemberLimit share member.maxAmps = share := by
  obtain ⟨shareNonneg, capped⟩ := admissible
  unfold clampToMemberLimit
  simp only [max_eq_right shareNonneg]
  split
  · rfl
  · exact min_eq_left (capped _ ‹_›)

structure AllocateMembersInput where
  activeMembers : List EnergyAllocationMemberInput
  effectiveLimitAmps : Int
  allocationMethod : EnergyAllocationMethod
  (deadbandAmps commandRefreshSec : JsNumber)
  nowIso : DateText
  controlMode : EnergyControlMode
  observeOnly : Bool

/-- The comparator of `sort`. -/
def compareMembers (engine : EnergyEngine) (left right : EnergyAllocationMemberInput) : Int :=
  if left.priority = right.priority then
    engine.localeCompare left.chargePointId right.chargePointId
  else
    left.priority - right.priority

/-- `sort` is stable: members that compare equal keep their order. -/
def sortMembers (engine : EnergyEngine) (members : List EnergyAllocationMemberInput) :
    List EnergyAllocationMemberInput :=
  members.insertionSort fun left right => compareMembers engine left right ≤ 0

def rawTargets (method : EnergyAllocationMethod) (members : List EnergyAllocationMemberInput)
    (effectiveLimitAmps : Int) : List Int :=
  match method with
  | .priority => allocatePriority members effectiveLimitAmps
  | .equal => allocateEqual members effectiveLimitAmps

/-- `ampsChanged`: there is no previous limit, or it is a deadband away. -/
def ampsChanged (deadbandAmps : JsNumber) (previousAmps : Option Int) (targetAmps : Int) : Bool :=
  match previousAmps with
  | none => true
  | some previous => JsNumber.le deadbandAmps (.ofInt |targetAmps - previous|)

/-- The body of the final `map` of `allocateMembers`. -/
def allocateMember (input : AllocateMembersInput) (member : EnergyAllocationMemberInput)
    (rawTarget : Int) : EnergyAllocationMemberPlan :=
  let targetAmps := clampToMemberLimit rawTarget member.maxAmps
  let previousAmps := normalizeOptionalInt member.lastAppliedAmps
  let refreshWindowExpired :=
    hasRefreshWindowExpired member.lastCommandAt input.nowIso input.commandRefreshSec
  let changed := ampsChanged input.deadbandAmps previousAmps targetAmps
  let allowCommands := input.controlMode = .active
  let shouldSendCommand :=
    allowCommands && (changed || refreshWindowExpired || member.lastAppliedDecisionHash.isNone)
  let commandType : EnergyAllocationCommandType :=
    if 0 < targetAmps then .applyChargingLimit else .clearChargingLimit
  { chargePointId := member.chargePointId
    enabled := member.enabled
    priority := member.priority
    smartChargingEnabled := member.smartChargingEnabled
    previousAmps := previousAmps
    targetAmps := if input.controlMode = .disabled then 0 else max 0 targetAmps
    commandType := if member.smartChargingEnabled && member.enabled then commandType else .none
    shouldSendCommand :=
      member.smartChargingEnabled && member.enabled && shouldSendCommand &&
        input.controlMode ≠ .disabled
    reasonCode :=
      if member.smartChargingEnabled then
        if member.enabled then
          if input.controlMode = .disabled then .groupDisabled
          else if changed then .limitChanged
          else if refreshWindowExpired then .commandRefresh
          else .unchanged
        else .membershipDisabled
      else .chargerExcluded }

def allocateMembers (engine : EnergyEngine) (input : AllocateMembersInput) :
    List EnergyAllocationMemberPlan :=
  let sortedMembers := sortMembers engine input.activeMembers
  let targets := rawTargets input.allocationMethod sortedMembers input.effectiveLimitAmps
  sortedMembers.mapIdx fun index member =>
    allocateMember input member ((targets[index]?).getD 0)

/-- `normalizePhaseTriple` of the site limit, less non-EV load and buffer. -/
def planHeadroom (input : EnergyAllocationPlanInput) : PhaseTriple Int :=
  subtractPhaseTriple
    (subtractPhaseTriple (normalizePhaseTriple input.siteLimitAmps)
      (normalizePhaseTriple input.nonEvLoadAmps))
    (normalizePhaseTriple input.dynamicBufferAmps)

def planFailSafeCeiling (input : EnergyAllocationPlanInput) : PhaseTriple Int :=
  clampPhaseTriple
    (minPhaseTriple (planHeadroom input) (normalizePhaseTriple input.failSafeAmps))

def limitUnderCap (baseLimitAmps : Int) (overrideCapAmps : Option Int) : Int :=
  max 0 (min baseLimitAmps (overrideCapAmps.getD baseLimitAmps))

def isActiveMember (membership : EnergyAllocationMemberInput) : Bool :=
  membership.enabled && membership.smartChargingEnabled && membership.chargePointOnline

structure DeriveReasonCodeInput where
  controlMode : EnergyControlMode
  (isTelemetryFailSafe isTelemetryStale : Bool)
  overrideCapAmps : Option Int
  activeMembers : List EnergyAllocationMemberInput
  excludedCount : Nat

def deriveReasonCode (input : DeriveReasonCodeInput) : PlanReasonCode :=
  if input.controlMode = .disabled then .groupDisabled
  else if input.isTelemetryFailSafe then .failSafeLimit
  else if input.overrideCapAmps.isSome then .manualOverride
  else if input.isTelemetryStale then .staleTelemetry
  else if input.activeMembers.length = 0 then .noActiveChargers
  else if 0 < input.excludedCount then .chargerExcluded
  else .normalOperation

/-- `telemetryAgeSec >= Math.max(0, Math.floor(threshold))`. -/
def ageReaches (telemetryAgeSec : Int) (threshold : JsNumber) : Bool :=
  JsNumber.le (JsNumber.max (.ofInt 0) threshold.floor) (.ofInt telemetryAgeSec)

def buildEnergyAllocationPlan (engine : EnergyEngine) (input : EnergyAllocationPlanInput) :
    EnergyAllocationPlan :=
  let siteLimitAmps := normalizePhaseTriple input.siteLimitAmps
  let nonEvLoadAmps := normalizePhaseTriple input.nonEvLoadAmps
  let dynamicBufferAmps := normalizePhaseTriple input.dynamicBufferAmps
  let failSafeAmps := normalizePhaseTriple input.failSafeAmps
  let headroomAmps := planHeadroom input
  let failSafeCeilingAmps := planFailSafeCeiling input
  let telemetryAgeSec := resolveTelemetryAgeSec input.nowIso
    (input.telemetry.bind (·.sampledAt)) (input.telemetry.bind (·.freshnessSec))
  let isTelemetryStale := telemetryAgeSec.any (ageReaches · input.staleWarningAfterSec)
  let isTelemetryFailSafe := telemetryAgeSec.all (ageReaches · input.failSafeAfterSec)
  let overrideCapAmps := resolveOverrideCap input.override input.nowIso
  let baseLimitAmps := resolveScalarLimit failSafeCeilingAmps
  let effectiveLimitAmps := limitUnderCap baseLimitAmps overrideCapAmps
  let activeMembers := input.memberships.filter isActiveMember
  let excludedCount := input.memberships.length - activeMembers.length
  let alertCodes : List EnergyAlertCode :=
    (if 0 < excludedCount then [.chargerExcluded] else []) ++
      (if activeMembers.length = 0 then [.noActiveChargers] else []) ++
      (if isTelemetryStale then [.meterStale] else []) ++
      (if isTelemetryFailSafe then [.meterFailsafe] else []) ++
      (if overrideCapAmps.isSome then [.manualOverride] else []) ++
      (if input.controlMode = .disabled then [.groupDisabled] else [])
  let allocations := allocateMembers engine {
    activeMembers
    effectiveLimitAmps
    allocationMethod := input.allocationMethod
    deadbandAmps := JsNumber.max (.ofInt 1) (input.deadbandAmps.orElse (.ofInt 1)).floor
    commandRefreshSec :=
      JsNumber.max (.ofInt 1) (input.commandRefreshSec.orElse (.ofInt 300)).floor
    nowIso := input.nowIso
    controlMode := input.controlMode
    observeOnly := input.observeOnly }
  let state : EnergyDecisionState :=
    if input.controlMode = .disabled then .blocked
    else if input.observeOnly then .dryRun
    else if allocations.any (·.shouldSendCommand) then .applied
    else .noChange
  let reasonCode := deriveReasonCode {
    controlMode := input.controlMode
    isTelemetryFailSafe
    isTelemetryStale
    overrideCapAmps
    activeMembers
    excludedCount }
  let decisionHash := engine.decisionDigest {
    groupId := input.groupId
    controlMode := input.controlMode
    observeOnly := input.observeOnly
    allocationMethod := input.allocationMethod
    siteLimitAmps, nonEvLoadAmps, dynamicBufferAmps, failSafeAmps
    headroomAmps, failSafeCeilingAmps, overrideCapAmps, telemetryAgeSec
    activeMembers := activeMembers.map fun membership => {
      chargePointId := membership.chargePointId
      priority := membership.priority
      smartChargingEnabled := membership.smartChargingEnabled
      chargePointOnline := membership.chargePointOnline
      enabled := membership.enabled
      previousAmps := membership.lastAppliedAmps
      lastAppliedDecisionHash := membership.lastAppliedDecisionHash
      lastCommandAt := membership.lastCommandAt }
    allocations := allocations.map fun allocation => {
      chargePointId := allocation.chargePointId
      targetAmps := allocation.targetAmps
      commandType := allocation.commandType
      shouldSendCommand := allocation.shouldSendCommand }
    reasonCode }
  { decisionHash, state, reasonCode
    alerts := alertCodes.eraseDups
    telemetryAgeSec, isTelemetryStale, isTelemetryFailSafe
    siteLimitAmps, nonEvLoadAmps, dynamicBufferAmps, headroomAmps, failSafeCeilingAmps
    overrideCapAmps, effectiveLimitAmps
    activeChargePointCount := activeMembers.length
    allocations }

end Csms.EnergyManagement
