import Csms.EnergyManagement.Recalculate

/-!
# Managing load groups

The handlers that create, change, activate and disable load groups and replace
their memberships.  Each is one request: it runs from its first read of the store
to its answer.
-/

namespace Csms.EnergyManagement

open Js Service

/-- The columns of a group that say which group of a station is in charge. -/
structure Activation where
  (id tenantId stationId : String)
  isActive : Bool
  controlMode : EnergyControlMode
  deriving DecidableEq

def EnergyLoadGroup.activation (group : EnergyLoadGroup) : Activation where
  id := group.id
  tenantId := group.tenantId
  stationId := group.stationId
  isActive := group.isActive
  controlMode := group.controlMode

/-- The columns `activateGroup` sets on the other active groups of the station. -/
def EnergyLoadGroup.retired (group : EnergyLoadGroup) : EnergyLoadGroup :=
  { group with isActive := false, controlMode := .observeOnly, observeOnly := true }

/-- The columns `activateGroup` sets on the group itself. -/
def EnergyLoadGroup.inCharge (group : EnergyLoadGroup) : EnergyLoadGroup :=
  { group with isActive := true, controlMode := .active, observeOnly := false }

/-- The columns that deleting and disabling a group set. -/
def EnergyLoadGroup.shutDown (group : EnergyLoadGroup) : EnergyLoadGroup :=
  { group with isActive := false, controlMode := .disabled, observeOnly := true }

theorem EnergyLoadGroup.id_retired (group : EnergyLoadGroup) : group.retired.id = group.id :=
  rfl

theorem EnergyLoadGroup.id_inCharge (group : EnergyLoadGroup) : group.inCharge.id = group.id :=
  rfl

theorem EnergyLoadGroup.id_shutDown (group : EnergyLoadGroup) : group.shutDown.id = group.id :=
  rfl

/-- A change of a group's configuration.  It leaves the activation alone, so no
update of a group can change which group is in charge. -/
structure GroupChange where
  apply : EnergyLoadGroup → EnergyLoadGroup
  keeps : ∀ group, (apply group).activation = group.activation

namespace GroupChange

def none : GroupChange :=
  ⟨id, fun _ => rfl⟩

def andThen (first second : GroupChange) : GroupChange where
  apply := fun group => second.apply (first.apply group)
  keeps := fun group => (second.keeps _).trans (first.keeps group)

theorem id_apply (change : GroupChange) (group : EnergyLoadGroup) :
    (change.apply group).id = group.id :=
  congrArg Activation.id (change.keeps group)

def setName (name : String) : GroupChange :=
  ⟨fun group => { group with name }, fun _ => rfl⟩

def setDescription (description : String) : GroupChange :=
  ⟨fun group => { group with description := some description }, fun _ => rfl⟩

def setMeterSource (meterSource : String) : GroupChange :=
  ⟨fun group => { group with meterSource := some meterSource }, fun _ => rfl⟩

def setMeterPlacement (meterPlacement : EnergyMeterPlacement) : GroupChange :=
  ⟨fun group => { group with meterPlacement }, fun _ => rfl⟩

def setAllocationMethod (allocationMethod : EnergyAllocationMethod) : GroupChange :=
  ⟨fun group => { group with allocationMethod }, fun _ => rfl⟩

def setObserveOnly (observeOnly : Bool) : GroupChange :=
  ⟨fun group => { group with observeOnly }, fun _ => rfl⟩

end GroupChange

/-- A column that an update sets to an integer. -/
structure NumericColumn where
  field : String
  requiresPositive : Bool
  change : Int → GroupChange

/-- The fields of the loop of `updateGroup`. -/
def numericColumns : List NumericColumn :=
  [⟨"siteLimitAmpsPhase1", false, fun value =>
      ⟨fun group => { group with siteLimitAmps.phase1 := value }, fun _ => rfl⟩⟩,
    ⟨"siteLimitAmpsPhase2", false, fun value =>
      ⟨fun group => { group with siteLimitAmps.phase2 := value }, fun _ => rfl⟩⟩,
    ⟨"siteLimitAmpsPhase3", false, fun value =>
      ⟨fun group => { group with siteLimitAmps.phase3 := value }, fun _ => rfl⟩⟩,
    ⟨"dynamicBufferAmpsPhase1", false, fun value =>
      ⟨fun group => { group with dynamicBufferAmps.phase1 := value }, fun _ => rfl⟩⟩,
    ⟨"dynamicBufferAmpsPhase2", false, fun value =>
      ⟨fun group => { group with dynamicBufferAmps.phase2 := value }, fun _ => rfl⟩⟩,
    ⟨"dynamicBufferAmpsPhase3", false, fun value =>
      ⟨fun group => { group with dynamicBufferAmps.phase3 := value }, fun _ => rfl⟩⟩,
    ⟨"failSafeAmpsPhase1", false, fun value =>
      ⟨fun group => { group with failSafeAmps.phase1 := value }, fun _ => rfl⟩⟩,
    ⟨"failSafeAmpsPhase2", false, fun value =>
      ⟨fun group => { group with failSafeAmps.phase2 := value }, fun _ => rfl⟩⟩,
    ⟨"failSafeAmpsPhase3", false, fun value =>
      ⟨fun group => { group with failSafeAmps.phase3 := value }, fun _ => rfl⟩⟩,
    ⟨"deadbandAmps", true, fun value =>
      ⟨fun group => { group with deadbandAmps := value }, fun _ => rfl⟩⟩,
    ⟨"staleWarningAfterSec", true, fun value =>
      ⟨fun group => { group with staleWarningAfterSec := value }, fun _ => rfl⟩⟩,
    ⟨"failSafeAfterSec", true, fun value =>
      ⟨fun group => { group with failSafeAfterSec := value }, fun _ => rfl⟩⟩,
    ⟨"commandRefreshSec", true, fun value =>
      ⟨fun group => { group with commandRefreshSec := value }, fun _ => rfl⟩⟩]

/-- The change for one field of an update: none when the field is absent, and a
rejection when its value is not accepted. -/
def changeField {α : Type} (value : JsValue) (read : JsValue → Option α) (message : String)
    (change : α → GroupChange) : Except HttpException GroupChange :=
  match value with
  | .undefined => .ok .none
  | value =>
    match read value with
    | some accepted => .ok (change accepted)
    | none => .error (.badRequest message)

def NumericColumn.read (engine : Engine) (input : JsRecord) (column : NumericColumn) :
    Except HttpException GroupChange :=
  changeField (input column.field)
    (if column.requiresPositive then readPositiveInt engine else readNonNegativeInt engine)
    (column.field ++ " must be a " ++
      (if column.requiresPositive then "positive" else "non-negative") ++ " integer")
    column.change

/-- A text that is not one is `undefined` in the update, which changes nothing. -/
def changeText (value : JsValue) (change : String → GroupChange) : GroupChange :=
  ((readOptionalString value).map change).getD .none

/-- The `data` of an update. -/
def groupChanges (engine : Engine) (input : JsRecord) : Except HttpException GroupChange := do
  let name ← changeField (input "name") readString "name cannot be empty" .setName
  let meterPlacement ← changeField (input "meterPlacement") normalizeMeterPlacement
    "Invalid meterPlacement" .setMeterPlacement
  let allocationMethod ← changeField (input "allocationMethod") normalizeAllocationMethod
    "Invalid allocationMethod" .setAllocationMethod
  let columns ← numericColumns.mapM (·.read engine input)
  let observeOnly := match input "observeOnly" with
    | .undefined => .none
    | value => GroupChange.setObserveOnly ((readBoolean value).getD false)
  pure (([name, changeText (input "description") .setDescription,
    changeText (input "meterSource") .setMeterSource, meterPlacement, allocationMethod] ++
      columns ++ [observeOnly]).foldl .andThen .none)

/-- `getGroup`, up to the decoration of its answer. -/
def getGroup (context : ServiceContext) (id : String) : Handler GroupBundle := do
  let store ← get
  orThrow (loadGroupOrThrow context store id)

/-- Another group of the tenant and the station has the name. -/
def Store.nameTaken (store : Store) (group : EnergyLoadGroup) : Bool :=
  store.groups.rows.any fun other => other.id ≠ group.id ∧ other.tenantId = group.tenantId ∧
    other.stationId = group.stationId ∧ other.name = group.name

/-- The store with one more group, unless a unique constraint is violated. -/
def Store.addGroup? (store : Store) (group : EnergyLoadGroup) : Option Store :=
  if store.nameTaken group then
    none
  else
    (store.groups.insert? group).map fun groups => { store with groups }

def insertGroup (group : EnergyLoadGroup) : Handler Unit := do
  let store ← get
  match store.addGroup? group with
  | some grown => set grown
  | none => throw .internal

/-- `energyLoadGroup.update` with the columns of the configuration. -/
def changeGroup (group : EnergyLoadGroup) (change : GroupChange) : Handler Unit := do
  let store ← get
  if store.nameTaken (change.apply group) then
    throw .internal
  else
    set { store with
      groups := store.groups.updateWhere (·.id = group.id) change.apply change.id_apply }

/-- The first update of the transaction of `activateGroup`. -/
def retireOthers (group : EnergyLoadGroup) (store : Store) : Store :=
  { store with
    groups := store.groups.updateWhere (fun other => other.tenantId = group.tenantId ∧
        other.stationId = group.stationId ∧ other.id ≠ group.id ∧ other.isActive)
      EnergyLoadGroup.retired EnergyLoadGroup.id_retired }

/-- The second update of the transaction of `activateGroup`. -/
def putInCharge (id : String) (store : Store) : Store :=
  { store with
    groups := store.groups.updateWhere (·.id = id) EnergyLoadGroup.inCharge
      EnergyLoadGroup.id_inCharge }

def shutDownGroup (id : String) (store : Store) : Store :=
  { store with
    groups := store.groups.updateWhere (·.id = id) EnergyLoadGroup.shutDown
      EnergyLoadGroup.id_shutDown }

/-- The checks of `replaceMemberships`. -/
def assertChargePoints (store : Store) (stationId : String) :
    List NormalizedMembership → Except HttpException Unit
  | [] => .ok ⟨⟩
  | membership :: memberships =>
    match store.chargePoints.find? membership.chargePointId with
    | none => .error (.badRequest ("Charge point " ++ membership.chargePointId ++ " not found"))
    | some chargePoint =>
      if chargePoint.stationId ≠ stationId then
        .error (.badRequest ("Charge point " ++ chargePoint.ocppId ++
          " does not belong to station " ++ stationId))
      else
        assertChargePoints store stationId memberships

def newMembership (groupId : String) (chargePoint : Option ChargePoint)
    (membership : NormalizedMembership) : EnergyLoadGroupMembership where
  groupId := groupId
  chargePointId := membership.chargePointId
  priority := membership.priority
  enabled := membership.enabled
  smartChargingEnabled := resolveChargePointCapability chargePoint false
  maxAmps := membership.maxAmps
  lastAppliedAmps := none
  lastAppliedDecisionHash := none
  lastCommandAt := none
  lastCommandId := none
  lastCommandStatus := none

/-- `energyLoadGroupMembership.deleteMany`. -/
def deleteMemberships (groupId : String) (store : Store) : Store :=
  { store with memberships := store.memberships.deleteWhere (·.groupId = groupId) }

/-- `energyLoadGroupMembership.createMany`. -/
def createMemberships (groupId : String) (memberships : List NormalizedMembership) :
    Handler Unit := do
  let store ← get
  match store.memberships.insertAll? (memberships.map fun membership =>
      newMembership groupId (store.chargePoints.find? membership.chargePointId) membership) with
  | some grown => set { store with memberships := grown }
  | none => throw .internal

/-- `replaceMemberships` after its checks. -/
def storeMemberships (context : ServiceContext) (clock : RecalculateClock) (id : String)
    (memberships : List NormalizedMembership) : Handler GroupBundle := do
  transaction do
    modify (deleteMemberships id)
    createMemberships id memberships
  let _ ← recalculateGroup context clock id
    ⟨false, some "membership-update", some "Memberships updated"⟩
  getGroup context id

def replaceMemberships (context : ServiceContext) (clock : RecalculateClock) (id : String)
    (memberships : List JsValue) : Handler GroupBundle := do
  let store ← get
  let loaded ← orThrow (loadGroupOrThrow context store id)
  let normalized ← orThrow (normalizeMembershipInputs context.engine.toEngine memberships)
  if normalized = [] then
    modify (deleteMemberships loaded.group.id)
    getGroup context loaded.group.id
  else
    orThrow (assertChargePoints store loaded.group.stationId normalized)
    storeMemberships context clock loaded.group.id normalized

def activateGroup (context : ServiceContext) (clock : RecalculateClock) (id : String)
    (reason : Option String) : Handler GroupBundle := do
  let store ← get
  let loaded ← orThrow (loadGroupOrThrow context store id)
  transaction do
    modify (retireOthers loaded.group)
    modify (putInCharge loaded.group.id)
  let _ ← recalculateGroup context clock loaded.group.id
    ⟨false, some "activation", orText reason (some "Group activated")⟩
  getGroup context loaded.group.id

def disableGroup (context : ServiceContext) (clock : RecalculateClock) (id : String)
    (reason : Option String) : Handler GroupBundle := do
  let store ← get
  let loaded ← orThrow (loadGroupOrThrow context store id)
  modify (shutDownGroup loaded.group.id)
  let _ ← recalculateGroup context clock loaded.group.id
    ⟨false, some "disable", orText reason (some "Group disabled")⟩
  getGroup context loaded.group.id

def deleteGroup (context : ServiceContext) (id : String) : Handler GroupBundle := do
  let store ← get
  let loaded ← orThrow (loadGroupOrThrow context store id)
  modify (shutDownGroup loaded.group.id)
  getGroup context loaded.group.id

/-- The row that `createGroup` creates. -/
def newGroup (context : ServiceContext) (store : Store) (createdId : String) (input : JsRecord) :
    Except HttpException EnergyLoadGroup := do
  let engine := context.engine.toEngine
  let amps (field : String) := (readNonNegativeInt engine (input field)).getD 0
  let tenantId ← resolveTenantId context
  match readString (input "stationId"), readString (input "name") with
  | none, _ => .error (.badRequest "stationId is required")
  | some _, none => .error (.badRequest "name is required")
  | some stationId, some name => do
    let _ ← assertStationExists context store stationId
    pure {
      id := createdId
      tenantId, stationId, name
      description := readOptionalString (input "description")
      controlMode := (normalizeControlMode (input "controlMode")).getD .observeOnly
      allocationMethod := (normalizeAllocationMethod (input "allocationMethod")).getD .equal
      meterSource := readOptionalString (input "meterSource")
      meterPlacement := (normalizeMeterPlacement (input "meterPlacement")).getD .main
      siteLimitAmps := ⟨amps "siteLimitAmpsPhase1", amps "siteLimitAmpsPhase2",
        amps "siteLimitAmpsPhase3"⟩
      dynamicBufferAmps := ⟨amps "dynamicBufferAmpsPhase1", amps "dynamicBufferAmpsPhase2",
        amps "dynamicBufferAmpsPhase3"⟩
      failSafeAmps := ⟨amps "failSafeAmpsPhase1", amps "failSafeAmpsPhase2",
        amps "failSafeAmpsPhase3"⟩
      deadbandAmps := (readPositiveInt engine (input "deadbandAmps")).getD 1
      staleWarningAfterSec := (readPositiveInt engine (input "staleWarningAfterSec")).getD 30
      failSafeAfterSec := (readPositiveInt engine (input "failSafeAfterSec")).getD 60
      commandRefreshSec := (readPositiveInt engine (input "commandRefreshSec")).getD 300
      isActive := isTrue (input "isActive")
      observeOnly := (readBoolean (input "observeOnly")).getD true
      latestTelemetryAt := none
      latestDecisionAt := none
      latestDecisionHash := none
      latestAppliedAt := none
      latestReasonCode := none
      lastMeterFreshnessSec := none
      lastSiteLoadAmps := ⟨none, none, none⟩
      lastNonEvLoadAmps := ⟨none, none, none⟩
      lastHeadroomAmps := ⟨none, none, none⟩ }

/-- The clocks of a request that may recalculate twice: after the memberships are
replaced, and at its end. -/
structure GroupClock where
  (memberships last : RecalculateClock)

/-- `Array.isArray(value) ? value : []`. -/
def arrayItems : JsValue → List JsValue
  | .array items => items
  | _ => []

def createGroupMemberships (context : ServiceContext) (clock : RecalculateClock) (id : String)
    (input : JsRecord) : Handler Unit := do
  let memberships ← orThrow
    (normalizeMembershipInputs context.engine.toEngine (arrayItems (input "memberships")))
  if memberships = [] then
    pure ⟨⟩
  else
    let _ ← replaceMemberships context clock id (memberships.map (·.toInput))

/-- The activation of a created group, when the body asks for it. -/
def activateCreated (context : ServiceContext) (clock : RecalculateClock) (id : String)
    (input : JsRecord) : Handler Unit :=
  if isTrue (input "activateNow") then do
    let _ ← activateGroup context clock id
      (orText (readOptionalString (input "activationReason")) (some "Manual activation"))
  else
    pure ()

def createGroup (context : ServiceContext) (clock : GroupClock) (createdId : String)
    (input : JsRecord) : Handler GroupBundle := do
  let store ← get
  let created ← orThrow (newGroup context store createdId input)
  insertGroup created
  createGroupMemberships context clock.memberships created.id input
  activateCreated context clock.last created.id input
  getGroup context created.id

def updateGroupMemberships (context : ServiceContext) (clock : RecalculateClock) (id : String)
    (input : JsRecord) : Handler Unit :=
  match input "memberships" with
  | .undefined => pure ⟨⟩
  | value => do
    -- a value that cannot be iterated is a `TypeError`
    let items ← orThrow ((iterate value).elim (.error .internal) .ok)
    let memberships ← orThrow (normalizeMembershipInputs context.engine.toEngine items)
    let _ ← replaceMemberships context clock id (memberships.map (·.toInput))

def updateGroup (context : ServiceContext) (clock : GroupClock) (id : String)
    (input : JsRecord) : Handler GroupBundle := do
  let store ← get
  let loaded ← orThrow (loadGroupOrThrow context store id)
  let change ← orThrow (groupChanges context.engine.toEngine input)
  changeGroup loaded.group change
  updateGroupMemberships context clock.memberships loaded.group.id input
  if isTrue (input "recalculateNow") then
    let _ ← recalculateGroup context clock.last loaded.group.id
      ⟨false, some "config-update", some "Group configuration updated"⟩
  getGroup context loaded.group.id

/-- A request for the management of groups. -/
inductive GroupRequest where
  | createGroup (context : ServiceContext) (clock : GroupClock) (createdId : String)
      (input : JsRecord)
  | updateGroup (context : ServiceContext) (clock : GroupClock) (id : String) (input : JsRecord)
  | deleteGroup (context : ServiceContext) (id : String)
  | activateGroup (context : ServiceContext) (clock : RecalculateClock) (id : String)
      (reason : Option String)
  | disableGroup (context : ServiceContext) (clock : RecalculateClock) (id : String)
      (reason : Option String)

def GroupRequest.handler : GroupRequest → Handler GroupBundle
  | .createGroup context clock createdId input =>
    EnergyManagement.createGroup context clock createdId input
  | .updateGroup context clock id input => EnergyManagement.updateGroup context clock id input
  | .deleteGroup context id => EnergyManagement.deleteGroup context id
  | .activateGroup context clock id reason =>
    EnergyManagement.activateGroup context clock id reason
  | .disableGroup context clock id reason => EnergyManagement.disableGroup context clock id reason

def GroupRequest.next (store : Store) (request : GroupRequest) : Store :=
  after request.handler store

end Csms.EnergyManagement
