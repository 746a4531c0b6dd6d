import Csms.EnergyManagement.Store
import Csms.EnergyManagement.Logic.Allocations

/-!
# Recalculating a group

`recalculateGroup` loads a group with its rows, computes the allocation plan,
sends the plan's commands and records the decision.  It runs under the group's
lock, so it is one step.  Apart from the handlers this file has their pure
description: which allocations are sent as commands (`sentAllocations`), what
sending one does to the store (`sendCommand`), and the store a recalculation
leaves behind (`recalculated`).
-/

namespace Csms.EnergyManagement

open Commands Js Service

/-- A group with the rows that belong to it, in no particular order. -/
structure GroupBundle where
  group : EnergyLoadGroup
  memberships : List EnergyLoadGroupMembership
  telemetrySnapshots : List EnergyTelemetrySnapshot
  manualOverrides : List EnergyManualOverride

structure ResolvedBundle where
  memberships : List EnergyLoadGroupMembership
  telemetrySnapshots : List EnergyTelemetrySnapshot
  manualOverrides : List EnergyManualOverride
  latestTelemetry : Option EnergyTelemetrySnapshot
  activeOverride : Option EnergyManualOverride
  /-- The charge points of the memberships, `chargePointMap` in the source. -/
  chargePoints : List ChargePoint

/-- The clock readings and the generated ids of one recalculation, those of the
command service for each charge point of its own. -/
structure RecalculateClock where
  (bundleNow planNow applyNow : Int)
  enqueueNow : String → Int
  commandId : String → String
  (decisionAppliedAt latestDecisionAt latestAppliedAt : Int)

def RecalculateClock.still (now : Int) : RecalculateClock where
  bundleNow := now
  planNow := now
  applyNow := now
  enqueueNow := fun _ => now
  commandId := fun chargePointId => join "@" [chargePointId, toString now]
  decisionAppliedAt := now
  latestDecisionAt := now
  latestAppliedAt := now

structure RecalculateInput where
  dryRun : Bool
  (trigger reason : Option String)

def groupBundle (store : Store) (group : EnergyLoadGroup) : GroupBundle where
  group := group
  memberships := store.memberships.rows.filter (·.groupId = group.id)
  telemetrySnapshots := store.telemetrySnapshots.filter (·.groupId = group.id)
  manualOverrides := store.manualOverrides.filter (·.groupId = group.id)

def loadGroupOrThrow (context : ServiceContext) (store : Store) (id : String) :
    Except HttpException GroupBundle := do
  let tenantId ← resolveTenantId context
  match store.groups.find? id with
  | some group =>
    if group.tenantId ≠ tenantId then
      .error (.notFound "Energy load group not found")
    else
      .ok (groupBundle store group)
  | none => .error (.notFound "Energy load group not found")

variable {store : Store} {id : String} {loaded : GroupBundle}

/-- What is loaded is the group under the id, of the request's tenant, with its
rows. -/
theorem loadGroupOrThrow_eq_ok_iff {context : ServiceContext} :
    loadGroupOrThrow context store id = .ok loaded ↔
      ∃ tenantId group, resolveTenantId context = .ok tenantId ∧
        store.groups.find? id = some group ∧ group.tenantId = tenantId ∧
          loaded = groupBundle store group := by
  unfold loadGroupOrThrow
  cases resolveTenantId context with
  | error error => simp [bind, Except.bind]
  | ok tenantId =>
    cases store.groups.find? id with
    | none => simp [bind, Except.bind]
    | some group =>
      by_cases sameTenant : group.tenantId = tenantId
      · simp [bind, Except.bind, sameTenant, eq_comm]
      · simp [bind, Except.bind, sameTenant, Ne.symm sameTenant]

theorem loadGroupOrThrow_eq_groupBundle {context : ServiceContext}
    (found : loadGroupOrThrow context store id = .ok loaded) :
    loaded = groupBundle store loaded.group := by
  obtain ⟨_, group, _, _, _, rfl⟩ := loadGroupOrThrow_eq_ok_iff.mp found
  rfl

/-- `sort` by `sampledAt`, the latest first; equal times keep their order. -/
def sortSnapshots (snapshots : List EnergyTelemetrySnapshot) : List EnergyTelemetrySnapshot :=
  snapshots.insertionSort fun left right => right.sampledAt ≤ left.sampledAt

def sortOverrides (overrides : List EnergyManualOverride) : List EnergyManualOverride :=
  overrides.insertionSort fun left right => right.createdAt ≤ left.createdAt

def loadBundle (now : Int) (store : Store) (group : GroupBundle) : ResolvedBundle :=
  let telemetrySnapshots := sortSnapshots group.telemetrySnapshots
  let manualOverrides := sortOverrides group.manualOverrides
  let chargePointIds := group.memberships.map (·.chargePointId)
  { memberships := group.memberships
    telemetrySnapshots
    manualOverrides
    latestTelemetry := telemetrySnapshots.head?
    activeOverride := manualOverrides.find? fun override =>
      override.status = .active ∧ now < override.expiresAt
    chargePoints := store.chargePoints.rows.filter fun chargePoint =>
      chargePoint.id ∈ chargePointIds }

/-- `chargePointMap.get`. -/
def ResolvedBundle.chargePoint? (bundle : ResolvedBundle) (id : String) : Option ChargePoint :=
  bundle.chargePoints.find? (·.id = id)

/-- `memberships.find` by charge point. -/
def ResolvedBundle.membership? (bundle : ResolvedBundle) (chargePointId : String) :
    Option EnergyLoadGroupMembership :=
  bundle.memberships.find? (·.chargePointId = chargePointId)

def resolveChargePointCapability (chargePoint : Option ChargePoint)
    (membershipCapability : Bool) : Bool :=
  chargePoint.any fun chargePoint => chargePoint.smartChargingEnabled && membershipCapability

def resolveChargePointAvailability (chargePoint : Option ChargePoint) : Bool :=
  chargePoint.any fun chargePoint =>
    toLowerCase (trim chargePoint.status) ∈
      ["online", "available", "charging", "occupied", "preparing", "reserved", "suspendedev",
        "suspendedevse", "finishing"]

inductive GroupPhaseTriple where
  | siteLimit
  | nonEvLoad
  | dynamicBuffer
  | failSafe

def toPhaseTriple (engine : Engine) (group : EnergyLoadGroup) : GroupPhaseTriple → PhaseTriple Int
  | .siteLimit => group.siteLimitAmps.map (columnAmps engine)
  | .nonEvLoad => group.lastNonEvLoadAmps.map (optionalColumnAmps engine)
  | .dynamicBuffer => group.dynamicBufferAmps.map (columnAmps engine)
  | .failSafe => group.failSafeAmps.map (columnAmps engine)

def memberInput (bundle : ResolvedBundle) (membership : EnergyLoadGroupMembership) :
    EnergyAllocationMemberInput where
  chargePointId := membership.chargePointId
  enabled := membership.enabled
  priority := membership.priority
  smartChargingEnabled := resolveChargePointCapability
    (bundle.chargePoint? membership.chargePointId) membership.smartChargingEnabled
  chargePointOnline := resolveChargePointAvailability
    (bundle.chargePoint? membership.chargePointId)
  maxAmps := membership.maxAmps.map JsNumber.ofInt
  lastAppliedAmps := membership.lastAppliedAmps.map JsNumber.ofInt
  lastAppliedDecisionHash := membership.lastAppliedDecisionHash
  lastCommandAt := membership.lastCommandAt.map toISOString

/-- The argument of `buildEnergyAllocationPlan`. -/
def planInput (engine : Engine) (planNow : Int) (group : EnergyLoadGroup)
    (bundle : ResolvedBundle) : EnergyAllocationPlanInput where
  groupId := group.id
  controlMode := group.controlMode
  observeOnly := group.observeOnly
  allocationMethod := group.allocationMethod
  siteLimitAmps := (toPhaseTriple engine group .siteLimit).map JsNumber.ofInt
  nonEvLoadAmps := (toPhaseTriple engine group .nonEvLoad).map JsNumber.ofInt
  dynamicBufferAmps := (toPhaseTriple engine group .dynamicBuffer).map JsNumber.ofInt
  failSafeAmps := (toPhaseTriple engine group .failSafe).map JsNumber.ofInt
  deadbandAmps := .ofInt group.deadbandAmps
  staleWarningAfterSec := .ofInt group.staleWarningAfterSec
  failSafeAfterSec := .ofInt group.failSafeAfterSec
  commandRefreshSec := .ofInt group.commandRefreshSec
  nowIso := toISOString planNow
  telemetry := bundle.latestTelemetry.map fun snapshot => {
    sampledAt := some (toISOString snapshot.sampledAt)
    freshnessSec := some (.ofInt snapshot.freshnessSec)
    meterSource := snapshot.meterSource }
  override := bundle.activeOverride.map fun override => {
    active := true
    capAmps := some (.ofInt override.capAmps)
    expiresAt := some (toISOString override.expiresAt) }
  memberships := bundle.memberships.map (memberInput bundle)

def buildDedupeKey (groupId chargePointId : String) (targetAmps : Int) (reasonCode : String) :
    String :=
  join ":" ["ems", groupId, chargePointId, toString targetAmps, reasonCode]

/-- `allocation.commandType === 'ClearChargingLimit' ? … : …`. -/
def commandTypeText (allocation : EnergyAllocationMemberPlan) : String :=
  if allocation.commandType = .clearChargingLimit then "ClearChargingLimit"
  else "ApplyChargingLimit"

def commandPayload (group : EnergyLoadGroup) (plan : EnergyAllocationPlan)
    (allocation : EnergyAllocationMemberPlan) : EnergyCommandPayload where
  groupId := group.id
  stationId := group.stationId
  chargePointId := allocation.chargePointId
  decisionHash := plan.decisionHash
  reasonCode := plan.reasonCode
  controlMode := group.controlMode
  allocationMethod := group.allocationMethod
  limitAmps := allocation.targetAmps
  effectiveLimitAmps := plan.effectiveLimitAmps
  headroomAmps := plan.headroomAmps
  failSafeCeilingAmps := plan.failSafeCeilingAmps
  siteLimitAmps := plan.siteLimitAmps
  nonEvLoadAmps := plan.nonEvLoadAmps
  dynamicBufferAmps := plan.dynamicBufferAmps
  telemetryAgeSec := plan.telemetryAgeSec

/-- The argument of `enqueueCommand` for one allocation. -/
def commandRequest (group : EnergyLoadGroup) (plan : EnergyAllocationPlan)
    (allocation : EnergyAllocationMemberPlan) : CommandRequest EnergyCommandPayload where
  commandType := commandTypeText allocation
  tenantId := some group.tenantId
  stationId := some group.stationId
  chargePointId := some allocation.chargePointId
  connectorId := none
  payload := commandPayload group plan allocation
  requestedBy := some ⟨some "system", some group.tenantId⟩
  correlationId := some (buildDedupeKey group.id allocation.chargePointId allocation.targetAmps
    plan.reasonCode.text)
  dedupeKey := none
  idempotencyTtlSec := some (.ofInt group.commandRefreshSec)

def commandCall (context : ServiceContext) (clock : RecalculateClock) (chargePointId : String) :
    CommandCall where
  firmwareCommandsEnabled := context.firmwareCommandsEnabled
  context := context.tenant
  now := clock.enqueueNow chargePointId
  commandId := clock.commandId chargePointId

def enqueue (call : CommandCall) (request : CommandRequest EnergyCommandPayload) :
    Handler CommandResponse := do
  let store ← get
  let (response, commands) ← orThrow (enqueueCommand call request store.commands)
  set { store with commands }
  pure response

def EnergyLoadGroupMembership.commanded (membership : EnergyLoadGroupMembership)
    (applyNow : Int) (decisionHash : String) (targetAmps : Int) (response : CommandResponse) :
    EnergyLoadGroupMembership :=
  { membership with
    lastAppliedAmps := some targetAmps
    lastAppliedDecisionHash := some decisionHash
    lastCommandAt := some applyNow
    lastCommandId := some response.commandId
    lastCommandStatus := some response.status }

theorem EnergyLoadGroupMembership.key_commanded (membership : EnergyLoadGroupMembership)
    (applyNow : Int) (decisionHash : String) (targetAmps : Int) (response : CommandResponse) :
    (membership.commanded applyNow decisionHash targetAmps response).key = membership.key :=
  rfl

/-- `energyLoadGroupMembership.updateMany` after a command. -/
def markCommanded (group : EnergyLoadGroup) (plan : EnergyAllocationPlan) (applyNow : Int)
    (allocation : EnergyAllocationMemberPlan) (response : CommandResponse) (store : Store) :
    Store :=
  { store with
    memberships := store.memberships.updateWhere
      (fun membership => membership.groupId = group.id ∧
        membership.chargePointId = allocation.chargePointId)
      (fun membership =>
        membership.commanded applyNow plan.decisionHash allocation.targetAmps response)
      fun membership => membership.key_commanded _ _ _ _ }

def alertExcluded (group : EnergyLoadGroup) (chargePoint : ChargePoint) (store : Store) : Store :=
  { store with
    alerts := store.alerts ++ [{
      groupId := group.id
      code := "CHARGER_EXCLUDED"
      severity := "INFO"
      title := "Smart charging disabled on charge point"
      message := chargePoint.ocppId ++ " is not smart-charging capable and was excluded " ++
        "from automatic allocation." }] }

/-- One iteration of the loop of `applyPlan`. -/
def applyAllocation (context : ServiceContext) (clock : RecalculateClock)
    (group : EnergyLoadGroup) (bundle : ResolvedBundle) (plan : EnergyAllocationPlan)
    (allocation : EnergyAllocationMemberPlan) : Handler (List AppliedCommand) :=
  if allocation.shouldSendCommand then
    match bundle.membership? allocation.chargePointId,
        bundle.chargePoint? allocation.chargePointId with
    | some _, some chargePoint => do
      let response ← enqueue (commandCall context clock allocation.chargePointId)
        (commandRequest group plan allocation)
      modify (markCommanded group plan clock.applyNow allocation response)
      if chargePoint.smartChargingEnabled then pure () else
        modify (alertExcluded group chargePoint)
      pure [⟨response.commandId, response.status, allocation.chargePointId,
        allocation.targetAmps⟩]
    | _, _ => pure []
  else
    pure []

/-- The loop of `applyPlan`. -/
def applyAllocations (context : ServiceContext) (clock : RecalculateClock)
    (group : EnergyLoadGroup) (bundle : ResolvedBundle) (plan : EnergyAllocationPlan) :
    List EnergyAllocationMemberPlan → Handler (List AppliedCommand)
  | [] => pure []
  | allocation :: allocations => do
    let applied ← applyAllocation context clock group bundle plan allocation
    let others ← applyAllocations context clock group bundle plan allocations
    pure (applied ++ others)

/-- No command leaves a dry run or a group that only observes. -/
def holdsCommandsBack (group : EnergyLoadGroup) (input : RecalculateInput) : Bool :=
  input.dryRun || group.observeOnly || group.controlMode = .observeOnly

def applyPlan (context : ServiceContext) (clock : RecalculateClock) (group : EnergyLoadGroup)
    (bundle : ResolvedBundle) (plan : EnergyAllocationPlan) (input : RecalculateInput) :
    Handler (List AppliedCommand) :=
  if holdsCommandsBack group input then
    pure []
  else
    applyAllocations context clock group bundle plan plan.allocations

/-- The columns of a group that record its latest decision. -/
def EnergyLoadGroup.decided (group : EnergyLoadGroup) (decisionAt : Int) (decisionHash : String)
    (appliedAt : Option Int) (reasonCode : String) : EnergyLoadGroup :=
  { group with
    latestDecisionAt := some decisionAt
    latestDecisionHash := some decisionHash
    latestAppliedAt := appliedAt
    latestReasonCode := some reasonCode }

theorem EnergyLoadGroup.id_decided (group : EnergyLoadGroup) (decisionAt : Int)
    (decisionHash : String) (appliedAt : Option Int) (reasonCode : String) :
    (group.decided decisionAt decisionHash appliedAt reasonCode).id = group.id :=
  rfl

/-- `energyAllocationDecision.create` and the group's decision columns. -/
def recordDecision (clock : RecalculateClock) (group : EnergyLoadGroup)
    (bundle : ResolvedBundle) (plan : EnergyAllocationPlan) (input : RecalculateInput)
    (commands : List AppliedCommand) (store : Store) : Store :=
  let reasonCode := (orText input.reason none).getD plan.reasonCode.text
  { store with
    allocationDecisions := store.allocationDecisions ++ [{
      groupId := group.id
      decisionHash := plan.decisionHash
      triggeredBy := (orText input.trigger none).getD "manual"
      reasonCode
      state := if input.dryRun then .dryRun else plan.state
      group
      telemetry := bundle.latestTelemetry
      override := bundle.activeOverride
      memberships := bundle.memberships
      plan
      commands
      commandCount := commands.length
      appliedAt := if commands = [] then none else some clock.decisionAppliedAt
      relatedOverrideId := bundle.activeOverride.map (·.id) }]
    groups := store.groups.updateWhere (·.id = group.id)
      (fun row => row.decided clock.latestDecisionAt plan.decisionHash
        (if commands = [] then group.latestAppliedAt else some clock.latestAppliedAt) reasonCode)
      fun row => row.id_decided _ _ _ _ }

/-- What a recalculation answers, before it is decorated for the response. -/
structure Recalculation where
  group : EnergyLoadGroup
  bundle : ResolvedBundle
  plan : EnergyAllocationPlan
  commands : List AppliedCommand

def planOf (context : ServiceContext) (clock : RecalculateClock) (store : Store)
    (loaded : GroupBundle) : EnergyAllocationPlan :=
  buildEnergyAllocationPlan context.engine (planInput context.engine.toEngine clock.planNow
    loaded.group (loadBundle clock.bundleNow store loaded))

def recalculateGroup (context : ServiceContext) (clock : RecalculateClock) (id : String)
    (input : RecalculateInput) : Handler Recalculation := do
  let store ← get
  let loaded ← orThrow (loadGroupOrThrow context store id)
  let bundle := loadBundle clock.bundleNow store loaded
  let plan := planOf context clock store loaded
  let commands ← applyPlan context clock loaded.group bundle plan input
  modify (recordDecision clock loaded.group bundle plan input commands)
  pure ⟨loaded.group, bundle, plan, commands⟩

def isCommanded (bundle : ResolvedBundle) (allocation : EnergyAllocationMemberPlan) : Bool :=
  allocation.shouldSendCommand && (bundle.membership? allocation.chargePointId).isSome &&
    (bundle.chargePoint? allocation.chargePointId).isSome

/-- The allocations a recalculation sends as commands. -/
def sentAllocations (group : EnergyLoadGroup) (bundle : ResolvedBundle)
    (plan : EnergyAllocationPlan) (input : RecalculateInput) : List EnergyAllocationMemberPlan :=
  if holdsCommandsBack group input then [] else plan.allocations.filter (isCommanded bundle)

/-- The store after the command for one allocation. -/
def sendCommand (context : ServiceContext) (clock : RecalculateClock) (group : EnergyLoadGroup)
    (bundle : ResolvedBundle) (plan : EnergyAllocationPlan) (store : Store)
    (allocation : EnergyAllocationMemberPlan) : Store :=
  let call := commandCall context clock allocation.chargePointId
  let request := commandRequest group plan allocation
  let sent := markCommanded group plan clock.applyNow allocation
    (store.commands.answer call request)
    { store with commands := store.commands.afterRequest call request }
  match bundle.chargePoint? allocation.chargePointId with
  | some chargePoint =>
    if chargePoint.smartChargingEnabled then sent else alertExcluded group chargePoint sent
  | none => sent

theorem commandTypeText_allowed (allocation : EnergyAllocationMemberPlan) :
    isUpdateFirmwareCommand (commandTypeText allocation) = false := by
  unfold commandTypeText
  split <;> decide

theorem enqueue_eq (call : CommandCall) (group : EnergyLoadGroup) (plan : EnergyAllocationPlan)
    (allocation : EnergyAllocationMemberPlan) (store : Store) :
    enqueue call (commandRequest group plan allocation) store =
      .ok (store.commands.answer call (commandRequest group plan allocation)) { store with
          commands := store.commands.afterRequest call (commandRequest group plan allocation) } := by
  have allowed : isUpdateFirmwareCommand
      (commandRequest group plan allocation).commandType = false :=
    commandTypeText_allowed allocation
  have accepted := enqueueCommand_eq_ok call allowed store.commands
  unfold enqueue
  rw [bind_of_ok (rfl : (get : Handler Store) store = .ok store store), accepted]
  rfl

section

variable (context : ServiceContext) (clock : RecalculateClock) (group : EnergyLoadGroup)
    (bundle : ResolvedBundle) (plan : EnergyAllocationPlan)
include context clock group bundle plan

theorem applyAllocation_eq (allocation : EnergyAllocationMemberPlan) (store : Store) :
    ∃ applied, applyAllocation context clock group bundle plan allocation store =
      .ok applied (if isCommanded bundle allocation then
        sendCommand context clock group bundle plan store allocation else store) := by
  unfold applyAllocation isCommanded sendCommand
  by_cases due : allocation.shouldSendCommand
  · cases membership : bundle.membership? allocation.chargePointId with
    | none => exact ⟨[], by simp [due, pure, EStateM.pure]⟩
    | some row =>
      cases found : bundle.chargePoint? allocation.chargePointId with
      | none => exact ⟨[], by simp [due, pure, EStateM.pure]⟩
      | some chargePoint =>
        simp only [due, Option.isSome_some, Bool.and_self, if_true]
        rw [bind_of_ok (enqueue_eq _ group plan allocation store)]
        by_cases capable : chargePoint.smartChargingEnabled
        · simp only [capable, if_true]
          exact ⟨_, rfl⟩
        · simp only [capable, Bool.false_eq_true, if_false]
          exact ⟨_, rfl⟩
  · exact ⟨[], by simp [due, pure, EStateM.pure]⟩

/-- The loop sends the commanded allocations one after the other. -/
theorem applyAllocations_eq (allocations : List EnergyAllocationMemberPlan) (store : Store) :
    ∃ applied, applyAllocations context clock group bundle plan allocations store =
      .ok applied ((allocations.filter (isCommanded bundle)).foldl
        (sendCommand context clock group bundle plan) store) := by
  induction allocations generalizing store with
  | nil => exact ⟨[], rfl⟩
  | cons allocation allocations ih =>
    obtain ⟨applied, first⟩ :=
      applyAllocation_eq context clock group bundle plan allocation store
    obtain ⟨others, rest⟩ := ih (if isCommanded bundle allocation then
      sendCommand context clock group bundle plan store allocation else store)
    refine ⟨applied ++ others, ?_⟩
    rw [applyAllocations, bind_of_ok first, bind_of_ok rest]
    by_cases commanded : isCommanded bundle allocation
    · simp only [commanded, if_true, List.filter_cons_of_pos, List.foldl_cons]
      rfl
    · simp only [commanded, Bool.false_eq_true, if_false, not_false_eq_true,
        List.filter_cons_of_neg]
      rfl

theorem applyPlan_eq (input : RecalculateInput) (store : Store) :
    ∃ applied, applyPlan context clock group bundle plan input store =
      .ok applied ((sentAllocations group bundle plan input).foldl
        (sendCommand context clock group bundle plan) store) := by
  unfold applyPlan sentAllocations
  by_cases back : holdsCommandsBack group input
  · simp only [back, if_true]
    exact ⟨[], rfl⟩
  · simp only [back, Bool.false_eq_true, if_false]
    exact applyAllocations_eq context clock group bundle plan plan.allocations store

end

/-- The store after the commands of a recalculation. -/
def commandsSent (context : ServiceContext) (clock : RecalculateClock) (input : RecalculateInput)
    (store : Store) (loaded : GroupBundle) : Store :=
  let bundle := loadBundle clock.bundleNow store loaded
  let plan := planOf context clock store loaded
  (sentAllocations loaded.group bundle plan input).foldl
    (sendCommand context clock loaded.group bundle plan) store

/-- A recalculation of a group that can be loaded always succeeds. -/
theorem recalculateGroup_eq (context : ServiceContext) (clock : RecalculateClock)
    (input : RecalculateInput) (found : loadGroupOrThrow context store id = .ok loaded) :
    ∃ commands, recalculateGroup context clock id input store =
      .ok ⟨loaded.group, loadBundle clock.bundleNow store loaded,
          planOf context clock store loaded, commands⟩
        (recordDecision clock loaded.group (loadBundle clock.bundleNow store loaded)
          (planOf context clock store loaded) input commands
          (commandsSent context clock input store loaded)) := by
  obtain ⟨commands, applied⟩ := applyPlan_eq context clock loaded.group
    (loadBundle clock.bundleNow store loaded) (planOf context clock store loaded) input store
  refine ⟨commands, ?_⟩
  unfold recalculateGroup
  rw [bind_of_ok (rfl : (get : Handler Store) store = .ok store store), found,
    bind_of_ok (orThrow_ok loaded store), bind_of_ok applied]
  rfl

theorem recalculateGroup_error (context : ServiceContext) (clock : RecalculateClock)
    (input : RecalculateInput) {error : HttpException}
    (missing : loadGroupOrThrow context store id = .error error) :
    recalculateGroup context clock id input store = .error error store := by
  unfold recalculateGroup
  rw [bind_of_ok (rfl : (get : Handler Store) store = .ok store store), missing]
  rfl

/-- A group without the columns that record its latest decision. -/
def EnergyLoadGroup.undecided (group : EnergyLoadGroup) : EnergyLoadGroup :=
  { group with
    latestDecisionAt := none
    latestDecisionHash := none
    latestAppliedAt := none
    latestReasonCode := none }

theorem EnergyLoadGroup.id_undecided (group : EnergyLoadGroup) : group.undecided.id = group.id :=
  rfl

@[simp]
theorem EnergyLoadGroup.undecided_decided (group : EnergyLoadGroup) (decisionAt : Int)
    (decisionHash : String) (appliedAt : Option Int) (reasonCode : String) :
    (group.decided decisionAt decisionHash appliedAt reasonCode).undecided = group.undecided :=
  rfl

/-- The part of the store a recalculation only reads: everything but the
commands, the memberships, the logs and the decision columns of the groups. -/
def Store.configuration (store : Store) : Store :=
  { store with
    groups := store.groups.updateWhere (fun _ => true) EnergyLoadGroup.undecided
      EnergyLoadGroup.id_undecided
    memberships := Table.empty
    allocationDecisions := []
    alerts := []
    commands := CommandTables.empty }

section

variable (context : ServiceContext) (clock : RecalculateClock) (group : EnergyLoadGroup)
    (bundle : ResolvedBundle) (plan : EnergyAllocationPlan)
include context clock group bundle plan

theorem configuration_sendCommand (store : Store) (allocation : EnergyAllocationMemberPlan) :
    (sendCommand context clock group bundle plan store allocation).configuration =
      store.configuration := by
  unfold sendCommand
  cases bundle.chargePoint? allocation.chargePointId with
  | none => rfl
  | some chargePoint =>
    by_cases capable : chargePoint.smartChargingEnabled
    · simp only [capable, if_true]
      rfl
    · simp only [capable, Bool.false_eq_true, if_false]
      rfl

theorem configuration_foldl_sendCommand (allocations : List EnergyAllocationMemberPlan)
    (store : Store) :
    (allocations.foldl (sendCommand context clock group bundle plan) store).configuration =
      store.configuration := by
  induction allocations generalizing store with
  | nil => rfl
  | cons allocation allocations ih =>
    rw [List.foldl_cons, ih]
    exact configuration_sendCommand context clock group bundle plan store allocation

end

theorem configuration_recordDecision (clock : RecalculateClock) (group : EnergyLoadGroup)
    (bundle : ResolvedBundle) (plan : EnergyAllocationPlan) (input : RecalculateInput)
    (commands : List AppliedCommand) (store : Store) :
    (recordDecision clock group bundle plan input commands store).configuration =
      store.configuration := by
  have groupsEq : (recordDecision clock group bundle plan input commands
      store).configuration.groups = store.configuration.groups := by
    apply Table.ext
    simp only [Store.configuration, recordDecision, Table.rows_updateWhere, List.map_map, if_true]
    apply List.map_congr_left
    intro row _
    by_cases isGroup : row.id = group.id <;> simp [isGroup]
  calc
    (recordDecision clock group bundle plan input commands store).configuration
        = { store.configuration with
            groups := (recordDecision clock group bundle plan input commands
              store).configuration.groups } := rfl
    _ = store.configuration := by rw [groupsEq]

/-- A recalculation, accepted or not, keeps the configuration. -/
theorem keeps_recalculateGroup (context : ServiceContext) (clock : RecalculateClock)
    (id : String) (input : RecalculateInput) :
    Keeps Store.configuration (recalculateGroup context clock id input) := by
  intro store
  unfold after
  cases found : loadGroupOrThrow context store id with
  | error error => rw [recalculateGroup_error context clock input found]
  | ok loaded =>
    obtain ⟨commands, recalculated⟩ := recalculateGroup_eq context clock input found
    rw [recalculated]
    dsimp only
    rw [configuration_recordDecision]
    exact configuration_foldl_sendCommand _ _ _ _ _ _ _

theorem map_groups_of_configuration_eq {β : Type} {store other : Store}
    (same : store.configuration = other.configuration) (project : EnergyLoadGroup → β)
    (untouched : ∀ group, project group.undecided = project group) :
    store.groups.rows.map project = other.groups.rows.map project := by
  have rowsEq (store : Store) : store.configuration.groups.rows.map project =
      store.groups.rows.map project :=
    store.groups.map_updateWhere (fun _ => true) EnergyLoadGroup.undecided
      EnergyLoadGroup.id_undecided project untouched
  rw [← rowsEq store, same, rowsEq other]

end Csms.EnergyManagement
