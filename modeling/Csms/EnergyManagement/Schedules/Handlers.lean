import Csms.EnergyManagement.Store

/-!
# Creating and approving schedules

A schedule is created from a request, or from a stored optimization plan that
overrides what the request says, with a status that the request may name.
Approving a schedule makes it ACTIVE and supersedes the active schedules of its
group, or of its station when it has no group.
-/

namespace Csms.EnergyManagement

open Js Service

/-- The part of a request that a stored plan overrides. -/
structure ScheduleDraft where
  (stationId groupId : Option String)
  (startsAt endsAt : Option Int)
  entries : List JsValue
  fallbackToDlm : Bool
  planId : Option String

def ScheduleDraft.ofInput (engine : Engine) (input : JsRecord) : ScheduleDraft where
  stationId := readOptionalString (input "stationId")
  groupId := readOptionalString (input "groupId")
  startsAt := parseDate engine (input "startsAt")
  endsAt := parseDate engine (input "endsAt")
  entries := match input "entries" with
    | .array items => items
    | _ => []
  fallbackToDlm := isTrue (input "fallbackToDlm")
  planId := readOptionalString (input "planId")

def ScheduleDraft.withPlan (draft : ScheduleDraft) (plan : EnergyOptimizationPlan) :
    ScheduleDraft where
  stationId := some plan.stationId
  groupId := orText plan.groupId draft.groupId
  startsAt := some plan.windowStart
  endsAt := some plan.windowEnd
  entries := plan.schedule.getD draft.entries
  fallbackToDlm := draft.fallbackToDlm || plan.state = .fallbackDlm
  planId := some plan.id

/-- `if (planId)`: the plan the request names, of the request's tenant. -/
def resolveDraft (store : Store) (tenantId : String) (draft : ScheduleDraft) :
    Except HttpException ScheduleDraft :=
  match orText draft.planId none with
  | none => .ok draft
  | some planId =>
    match store.optimizationPlans.find? planId with
    | none => .error (.notFound "Optimization plan not found")
    | some plan =>
      if plan.tenantId ≠ tenantId then
        .error (.notFound "Optimization plan not found")
      else
        .ok (draft.withPlan plan)

/-- `if (groupId)`: the group is the tenant's and belongs to the station. -/
def assertScheduleGroup (store : Store) (tenantId stationId : String) (groupId : Option String) :
    Except HttpException Unit :=
  match orText groupId none with
  | none => .ok ()
  | some groupId =>
    match store.groups.find? groupId with
    | none => .error (.notFound "Energy load group not found")
    | some group =>
      if group.tenantId ≠ tenantId then
        .error (.notFound "Energy load group not found")
      else if group.stationId ≠ stationId then
        .error (.badRequest "groupId does not belong to the provided station")
      else
        .ok ()

def createdStatus (fallbackToDlm : Bool) (requested : JsValue) : ScheduleStatus :=
  if fallbackToDlm then .fallbackDlm
  else (normalizeScheduleStatus requested).getD .pendingApproval

/-- The row that `createSchedule` creates. -/
def newSchedule (context : ServiceContext) (store : Store) (now : Int) (createdId : String)
    (actorId : Option String) (input : JsRecord) :
    Except HttpException EnergyManagementSchedule := do
  let tenantId ← resolveTenantId context
  let draft ← resolveDraft store tenantId (.ofInput context.engine.toEngine input)
  match orText draft.stationId none with
  | none => .error (.badRequest "stationId is required")
  | some stationId => do
    let _ ← assertStationExists context store stationId
    assertScheduleGroup store tenantId stationId draft.groupId
    let windowStart := draft.startsAt.getD now
    let windowEnd := draft.endsAt.getD (windowStart + 4 * 3600 * 1000)
    if windowEnd ≤ windowStart then
      .error (.badRequest "endsAt must be after startsAt")
    else if 8640000000000000 < windowEnd then
      -- an invalid date, which the database client refuses
      .error .internal
    else
      pure {
        id := createdId
        tenantId, stationId
        groupId := orText draft.groupId none
        planId := orText draft.planId none
        status := createdStatus draft.fallbackToDlm (input "status")
        startsAt := windowStart
        endsAt := windowEnd
        entries := draft.entries
        fallbackToDlm := draft.fallbackToDlm
        notes := readOptionalString (input "notes")
        approvedBy := none
        approvedAt := none
        createdBy := orText actorId none }

def insertSchedule (schedule : EnergyManagementSchedule) : Handler Unit := do
  let store ← get
  match store.schedules.insert? schedule with
  | some schedules => set { store with schedules }
  | none => throw .internal

theorem EnergyOptimizationPlan.id_withState (plan : EnergyOptimizationPlan)
    (state : OptimizationPlanState) : { plan with state }.id = plan.id :=
  rfl

/-- `energyPlanRun.create` and the update of the plan after a creation. -/
def recordScheduleCreate (created : EnergyManagementSchedule) (actorId : Option String)
    (store : Store) : Store :=
  { store with
    planRuns := store.planRuns ++ [{
      tenantId := created.tenantId
      planId := orText created.planId none
      scheduleId := some created.id
      stationId := some created.stationId
      groupId := created.groupId
      trigger := "schedule-create"
      state := if created.fallbackToDlm then "FALLBACK_DLM" else "PREVIEW"
      message := if created.fallbackToDlm then
          "Tariff plan fallback applied; EMS remains in DLM control."
        else "Schedule created and awaiting approval."
      initiatedBy := orText actorId none }]
    optimizationPlans := store.optimizationPlans.updateWhere
      (fun plan => some plan.id = orText created.planId none ∧
        plan.tenantId = created.tenantId ∧ plan.state ∈ [.draft, .readyForApproval])
      (fun plan => { plan with
        state := if created.fallbackToDlm then .fallbackDlm else .scheduled })
      fun plan => plan.id_withState _ }

def createSchedule (context : ServiceContext) (now : Int) (createdId : String)
    (actorId : Option String) (input : JsRecord) : Handler EnergyManagementSchedule := do
  let store ← get
  let created ← orThrow (newSchedule context store now createdId actorId input)
  insertSchedule created
  modify (recordScheduleCreate created actorId)
  pure created

def findSchedule (context : ServiceContext) (store : Store) (id : String) :
    Except HttpException EnergyManagementSchedule := do
  let tenantId ← resolveTenantId context
  match store.schedules.find? id with
  | none => .error (.notFound "Schedule not found")
  | some schedule =>
    if schedule.tenantId ≠ tenantId then
      .error (.notFound "Schedule not found")
    else
      .ok schedule

def approvedStatus (schedule : EnergyManagementSchedule) (input : JsRecord) : ScheduleStatus :=
  if schedule.fallbackToDlm || isTrue (input "fallbackToDlm") ||
      schedule.status = .fallbackDlm then
    .fallbackDlm
  else
    .active

def EnergyManagementSchedule.superseded (schedule : EnergyManagementSchedule) :
    EnergyManagementSchedule :=
  { schedule with status := .superseded }

theorem EnergyManagementSchedule.id_superseded (schedule : EnergyManagementSchedule) :
    schedule.superseded.id = schedule.id :=
  rfl

/-- The schedules an approval decides about: those of its group, or of its station
when it has no group. -/
def inScopeOf (approved schedule : EnergyManagementSchedule) : Bool :=
  match orText approved.groupId none with
  | some groupId => schedule.groupId = some groupId
  | none => schedule.stationId = approved.stationId

def isSupersededBy (approved schedule : EnergyManagementSchedule) : Bool :=
  schedule.tenantId = approved.tenantId && inScopeOf approved schedule &&
    schedule.id ≠ approved.id && schedule.status = .active

/-- The columns that an approval sets. -/
def EnergyManagementSchedule.approved (schedule : EnergyManagementSchedule)
    (status : ScheduleStatus) (now : Int) (actorId notes : Option String) :
    EnergyManagementSchedule :=
  { schedule with
    status := status
    fallbackToDlm := status = .fallbackDlm
    approvedBy := orText actorId schedule.approvedBy
    approvedAt := some now
    notes := orText notes schedule.notes }

theorem EnergyManagementSchedule.id_approved (schedule : EnergyManagementSchedule)
    (status : ScheduleStatus) (now : Int) (actorId notes : Option String) :
    (schedule.approved status now actorId notes).id = schedule.id :=
  rfl

/-- The first update of the transaction of `approveSchedule`. -/
def supersedeOthers (schedule : EnergyManagementSchedule) (store : Store) : Store :=
  { store with
    schedules := store.schedules.updateWhere (isSupersededBy schedule)
      EnergyManagementSchedule.superseded EnergyManagementSchedule.id_superseded }

def approveRow (schedule : EnergyManagementSchedule) (status : ScheduleStatus) (now : Int)
    (actorId notes : Option String) (store : Store) : Store :=
  { store with
    schedules := store.schedules.updateWhere (·.id = schedule.id)
      (fun row => row.approved status now actorId notes)
      fun row => row.id_approved status now actorId notes }

/-- The columns that an approval sets on the plan of the schedule. -/
def EnergyOptimizationPlan.approved (plan : EnergyOptimizationPlan)
    (state : OptimizationPlanState) (now : Int) (actorId : Option String) :
    EnergyOptimizationPlan :=
  { plan with
    state
    approvedBy := orText actorId plan.approvedBy
    approvedAt := some now }

theorem EnergyOptimizationPlan.id_approved (plan : EnergyOptimizationPlan)
    (state : OptimizationPlanState) (now : Int) (actorId : Option String) :
    (plan.approved state now actorId).id = plan.id :=
  rfl

/-- `energyPlanRun.create` and the update of the plan after an approval. -/
def recordScheduleApprove (schedule : EnergyManagementSchedule) (status : ScheduleStatus)
    (now : Int) (actorId : Option String) (store : Store) : Store :=
  { store with
    planRuns := store.planRuns ++ [{
      tenantId := schedule.tenantId
      planId := schedule.planId
      scheduleId := some schedule.id
      stationId := some schedule.stationId
      groupId := schedule.groupId
      trigger := "schedule-approve"
      state := if status = .active then "APPLIED" else "FALLBACK_DLM"
      message := if status = .active then "Schedule approved and marked active."
        else "Schedule approved in fallback mode; EMS remains in DLM control."
      initiatedBy := orText actorId none }]
    optimizationPlans := store.optimizationPlans.updateWhere
      (fun plan => some plan.id = orText schedule.planId none ∧
        plan.tenantId = schedule.tenantId)
      (fun plan => plan.approved (if status = .active then .approved else .fallbackDlm) now actorId)
      fun plan => plan.id_approved _ _ _ }

/-- The transaction of `approveSchedule`. -/
def approveAll (schedule : EnergyManagementSchedule) (status : ScheduleStatus) (now : Int)
    (actorId notes : Option String) : Handler Unit :=
  transaction do
    if status = .active then
      modify (supersedeOthers schedule)
    modify (approveRow schedule status now actorId notes)
    modify (recordScheduleApprove schedule status now actorId)

def approveSchedule (context : ServiceContext) (now : Int) (id : String)
    (actorId : Option String) (input : JsRecord) : Handler Unit := do
  let store ← get
  let schedule ← orThrow (findSchedule context store id)
  approveAll schedule (approvedStatus schedule input) now actorId
    (readOptionalString (input "notes"))

/-- A request for the management of schedules. -/
inductive ScheduleRequest where
  | createSchedule (context : ServiceContext) (now : Int) (createdId : String)
      (actorId : Option String) (input : JsRecord)
  | approveSchedule (context : ServiceContext) (now : Int) (id : String)
      (actorId : Option String) (input : JsRecord)

def ScheduleRequest.next (store : Store) : ScheduleRequest → Store
  | .createSchedule context now createdId actorId input =>
    after (EnergyManagement.createSchedule context now createdId actorId input) store
  | .approveSchedule context now id actorId input =>
    after (EnergyManagement.approveSchedule context now id actorId input) store

end Csms.EnergyManagement
