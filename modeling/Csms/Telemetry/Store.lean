import Csms.Commands.Store
import Csms.Database.Executed
import Csms.Table.MarkedOnce
import Csms.Telemetry.Input

/-!
# The stored state of vehicle telemetry

The rows that telemetry requests read and write, and their statements.  No request opens
a transaction.
-/

namespace Csms.Telemetry

open Database Js
open Commands (Command CommandUpdate)

structure Vehicle where
  (id userId : String)
  organizationId : Option String
  telemetryProvider : TelemetryProvider
  vehicleStatus : String
  updatedAt : Int
  deriving DecidableEq

structure User where
  id : String
  role : Option String
  deriving DecidableEq

structure Membership where
  (userId organizationId status : String)
  roleKey : Option String
  deriving DecidableEq

structure TelemetrySource where
  (id vehicleId : String)
  provider : TelemetryProvider
  (providerVehicleId credentialRef : Option String)
  enabled : Bool
  health : String
  lastSyncedAt : Option Int
  updatedAt : Int
  deriving DecidableEq

/-- The columns of a snapshot, where `sampledAt` is called `collectedAt`, and of the
latest status of a vehicle. -/
structure TelemetryRow where
  vehicleId : String
  provider : TelemetryProvider
  providerVehicleId : Option String
  lastSyncedAt : Option Int
  sampledAt : Int
  battery : TelemetryBattery
  gps : Option TelemetryGps
  odometer : TelemetryOdometer
  charging : TelemetryCharging
  faults : List FaultAlert
  sources : TelemetrySources
  deriving DecidableEq

inductive FaultStatus where
  | open
  | acknowledged
  | resolved
  deriving DecidableEq, Repr

structure VehicleFault where
  (id vehicleId : String)
  provider : Option TelemetryProvider
  source : Option String
  code : String
  severity : FaultSeverity
  description : String
  status : FaultStatus
  (firstSeenAt lastSeenAt : Int)
  resolvedAt : Option Int
  resolvedBy : Option String
  deriving DecidableEq

/-- `status: { in: ['OPEN', 'ACKNOWLEDGED'] }`. -/
def VehicleFault.isUnresolved (fault : VehicleFault) : Bool :=
  fault.status = .open || fault.status = .acknowledged

def VehicleFault.kind (fault : VehicleFault) : String × String :=
  (fault.vehicleId, fault.code)

structure Store where
  vehicles : Table Vehicle Vehicle.id
  users : Table User User.id
  memberships : List Membership
  sources : Table TelemetrySource TelemetrySource.id
  snapshots : List TelemetryRow
  latest : Table TelemetryRow TelemetryRow.vehicleId
  faults : Table VehicleFault VehicleFault.id
  commands : Table Command fun command => command.id

namespace Store

def latestTable : Component Store TelemetryRow.vehicleId where
  table := latest
  put store latest := { store with latest }
  table_put _ _ := rfl

def faultTable : Component Store VehicleFault.id where
  table := faults
  put store faults := { store with faults }
  table_put _ _ := rfl

variable (store : Store)

/-- The source of a vehicle or of a provider's vehicle that was updated last. -/
def latestSource (condition : TelemetrySource → Bool) : Option TelemetrySource :=
  newestOf TelemetrySource.updatedAt (store.sources.rows.filter condition)

def unresolvedFaults (vehicleId : String) : List VehicleFault :=
  store.faults.rows.filter fun fault => fault.vehicleId = vehicleId && fault.isUnresolved

/-- A vehicle has at most one unresolved fault of each code. -/
def AtMostOneUnresolved : Prop :=
  MarkedOnce VehicleFault.id VehicleFault.isUnresolved VehicleFault.kind store.faults.rows

instance : Decidable store.AtMostOneUnresolved :=
  inferInstanceAs (Decidable (MarkedOnce _ _ _ _))

end Store

/-- A report of a provider about a vehicle: the faults it is read as, and whether it has a
list of faults at all. -/
structure Ingest where
  vehicleId : String
  provider : TelemetryProvider
  source : String
  faults : List FaultAlert
  hasFaultList : Bool
  deriving DecidableEq

/-- A fault that the report does not mention. -/
def Ingest.isMissing (ingest : Ingest) (code : String) : Bool :=
  !(ingest.faults.map FaultAlert.code).contains code

/-- The statements; those for faults and commands come with the report or the vehicle
that they are executed for. -/
inductive TelemetryWrite where
  /-- `persistSmartcarAuthState`. -/
  | touchSource (id : String) (now : Int)
  | createSnapshot (row : TelemetryRow)
  | upsertLatest (row : TelemetryRow)
  | syncSources (vehicleId : String) (provider : TelemetryProvider)
      (providerVehicleId : Option String) (sampledAt now : Int)
  | createFault (ingest : Ingest) (row : VehicleFault)
  | updateFault (ingest : Ingest) (id : String) (fault : FaultAlert) (lastSeenAt : Int)
  | resolveFault (ingest : Ingest) (id : String) (now : Int)
  | updateCommand (vehicleId commandId status : String) (now : Int)

namespace TelemetryWrite

def touched (now : Int) (source : TelemetrySource) : TelemetrySource :=
  { source with updatedAt := now }

theorem id_touched (now : Int) (source : TelemetrySource) : (touched now source).id = source.id :=
  rfl

def synced (sampledAt now : Int) (source : TelemetrySource) : TelemetrySource :=
  { source with
    lastSyncedAt := some sampledAt
    health := "HEALTHY"
    updatedAt := now }

theorem id_synced (sampledAt now : Int) (source : TelemetrySource) :
    (synced sampledAt now source).id = source.id :=
  rfl

/-- All columns but the key. -/
def replaced (row latest : TelemetryRow) : TelemetryRow :=
  { row with vehicleId := latest.vehicleId }

theorem vehicleId_replaced (row latest : TelemetryRow) :
    (replaced row latest).vehicleId = latest.vehicleId :=
  rfl

def upserted (row : TelemetryRow) (store : Store) : Store :=
  match Store.latestTable.find? row.vehicleId store with
  | some _ => Store.latestTable.update row.vehicleId (replaced row) (vehicleId_replaced row) store
  | none => Store.latestTable.insert row store

def reported (fault : FaultAlert) (lastSeenAt : Int) (row : VehicleFault) : VehicleFault :=
  { row with
    severity := fault.severity
    description := fault.description
    lastSeenAt := lastSeenAt }

theorem id_reported (fault : FaultAlert) (lastSeenAt : Int) (row : VehicleFault) :
    (reported fault lastSeenAt row).id = row.id :=
  rfl

def resolved (now : Int) (row : VehicleFault) : VehicleFault :=
  { row with
    status := .resolved
    resolvedAt := some now
    resolvedBy := some "provider-sync"
    lastSeenAt := now }

theorem id_resolved (now : Int) (row : VehicleFault) : (resolved now row).id = row.id :=
  rfl

/-- The commands that `applySmartcarCommandWebhookStatus` updates. -/
def isSmartcarCommand (commandId : String) (command : Command) : Bool :=
  command.id = commandId && command.provider = some "SMARTCAR" && command.domain = "VEHICLE"

/-- `data` of the update of a command. -/
def commandUpdate (status : String) (now : Int) : CommandUpdate where
  status := some status
  completedAt := if status = "Confirmed" ∨ status = "Failed" then some (some now) else none

def change : TelemetryWrite → Store → Store
  | .touchSource id now, store =>
    { store with
      sources := store.sources.updateWhere (fun source => source.id = id) (touched now)
        (id_touched now) }
  | .createSnapshot row, store => { store with snapshots := store.snapshots ++ [row] }
  | .upsertLatest row, store => upserted row store
  | .syncSources vehicleId provider providerVehicleId sampledAt now, store =>
    { store with
      sources := store.sources.updateWhere
        (fun source => source.vehicleId = vehicleId && source.provider = provider &&
          (orText providerVehicleId none).all fun id => source.providerVehicleId = some id)
        (synced sampledAt now) (id_synced sampledAt now) }
  | .createFault _ row, store => Store.faultTable.insert row store
  | .updateFault _ id fault lastSeenAt, store =>
    Store.faultTable.update id (reported fault lastSeenAt) (id_reported fault lastSeenAt) store
  | .resolveFault _ id now, store =>
    Store.faultTable.update id (resolved now) (id_resolved now) store
  | .updateCommand _ commandId status now, store =>
    { store with
      commands := store.commands.updateWhere (isSmartcarCommand commandId)
        (commandUpdate status now).apply (commandUpdate status now).id_apply }

/-- `update` fails without the row, and `create` fails when its key is taken. -/
def allowed : TelemetryWrite → Store → Bool
  | .touchSource id _, store => (store.sources.find? id).isSome
  | .createFault _ row, store => (store.faults.find? row.id).isNone
  | .updateFault _ id .., store => (store.faults.find? id).isSome
  | .resolveFault _ id _, store => (store.faults.find? id).isSome
  | _, _ => true

def body (write : TelemetryWrite) : Tx Store Unit Unit :=
  Tx.statement write.allowed write.change fun _ => ()

theorem guarded (write : TelemetryWrite) : write.body.Guarded (fun _ : Unit => ⊥) [] :=
  Tx.guarded_write_all _ _ _

theorem run_body_eq_some_iff {write : TelemetryWrite} {store after : Store} {result : Unit} :
    write.body.run store = some (after, result) ↔
      write.allowed store = true ∧ after = write.change store := by
  rw [body, Tx.run_statement_eq_some_iff, Prod.mk.injEq]
  exact and_congr_right fun _ => and_iff_left rfl

variable {store : Store}

theorem find?_upserted (row : TelemetryRow) (vehicleId : String) :
    Store.latestTable.find? vehicleId (upserted row store) =
      if vehicleId = row.vehicleId then some row
      else Store.latestTable.find? vehicleId store := by
  rw [upserted]
  split
  · rename_i latest found
    rw [Component.find?_update, found]
    by_cases isIt : vehicleId = row.vehicleId
    · have sameId := (Table.find?_eq_some_iff.mp found).2
      simp [isIt, replaced, sameId]
    · rw [if_neg isIt, if_neg isIt]
  · rename_i free
    rw [Component.find?_insert]
    by_cases isIt : vehicleId = row.vehicleId
    · subst isIt
      rw [free, if_pos rfl, Option.none_or]
    · rw [if_neg (Ne.symm isIt), if_neg isIt, Option.or_none]

theorem find?_latest_change (write : TelemetryWrite) (vehicleId : String) :
    Store.latestTable.find? vehicleId (write.change store) =
      match write with
      | .upsertLatest row =>
        if vehicleId = row.vehicleId then some row
        else Store.latestTable.find? vehicleId store
      | _ => Store.latestTable.find? vehicleId store := by
  cases write with
  | upsertLatest row => exact find?_upserted row vehicleId
  | _ => rfl

end TelemetryWrite

end Csms.Telemetry
