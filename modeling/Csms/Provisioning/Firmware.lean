import Csms.Provisioning.Registry
import Csms.Sessions.Store

/-!
# Firmware status of a charge point

`handleFirmwareStatusNotification` logs each event once, by its id, and overwrites the status
of the charge point with every event, whenever that occurred.
-/

namespace Csms.Provisioning

open Js
open Sessions (readString)

structure FirmwareEvent where
  gatewayEventId : String
  /-- As the gateway reports it. -/
  ocppVersion : Option String
  requestId : Option Int
  status : String
  occurredAt : Int
  deriving DecidableEq

/-- The columns of a charge point that a firmware event writes. -/
structure FirmwareColumns where
  firmwareUpdateStatus : Option String
  (firmwareUpdateRequestId firmwareStatusUpdatedAt : Option Int)
  ocppVersion : OcppVersion
  deriving DecidableEq

/-- What is stored of a charge point, with its firmware events and their versions. -/
structure FirmwareStore where
  chargePoint : FirmwareColumns
  firmwareUpdateEvents : List (FirmwareEvent × OcppVersion)
  deriving DecidableEq

def normalizeNonNegativeInt (engine : Engine) (value : JsValue) : Option Int :=
  match value with
  | .undefined | .null | .string "" => none
  | value =>
    match engine.toNumber value with
    | .finite parsed => if 0 ≤ ⌊parsed⌋ then some ⌊parsed⌋ else none
    | _ => none

/-- The event of a notification, if it has a status. -/
def firmwareEvent? (engine : Engine)
    (deriveFirmwareGatewayEventId : String → Option Int → Int → String) (now : Int)
    (payload : Option JsRecord) (ocppVersion gatewayEventId occurredAt : Option String) :
    Option FirmwareEvent :=
  (readString (Sessions.fieldOf payload "status")).map fun status =>
    let requestId := normalizeNonNegativeInt engine (Sessions.fieldOf payload "requestId")
    let occurredAt := ((occurredAt.filter (trim · ≠ "")).bind engine.parseDateText).getD now
    { gatewayEventId := ((gatewayEventId.map trim).filter (· ≠ "")).getD
        (deriveFirmwareGatewayEventId status requestId occurredAt)
      ocppVersion, requestId, status, occurredAt }

namespace FirmwareColumns

variable (row : FirmwareColumns) (event : FirmwareEvent)

def versionOf : OcppVersion :=
  match orText event.ocppVersion none with
  | some version => normalizeOcppVersion (some version)
  | none => row.ocppVersion

def updated : FirmwareColumns where
  firmwareUpdateStatus := some event.status
  firmwareUpdateRequestId := event.requestId
  firmwareStatusUpdatedAt := some event.occurredAt
  ocppVersion := row.versionOf event

end FirmwareColumns

namespace FirmwareStore

variable (store : FirmwareStore) (event : FirmwareEvent)

def HasLogged : Prop :=
  ∃ logged ∈ store.firmwareUpdateEvents, logged.1.gatewayEventId = event.gatewayEventId

instance : Decidable (store.HasLogged event) :=
  inferInstanceAs (Decidable (∃ logged ∈ _, _))

/-- The transaction of `handleFirmwareStatusNotification`. -/
def record : FirmwareStore where
  chargePoint := store.chargePoint.updated event
  firmwareUpdateEvents :=
    if store.HasLogged event then store.firmwareUpdateEvents
    else store.firmwareUpdateEvents ++ [(event, store.chargePoint.versionOf event)]

/-- `handleFirmwareStatusNotification` for a charge point that is registered. -/
def handleFirmwareStatusNotification (isEnabled : Bool) (event? : Option FirmwareEvent) :
    FirmwareStore :=
  (if isEnabled then event? else none).elim store store.record

def run (store : FirmwareStore) (events : List FirmwareEvent) : FirmwareStore :=
  events.foldl record store

/-- The event is not older than the status, and if it was logged before it is the one that the
status is of. -/
structure Admits : Prop where
  notOlder : ∀ updatedAt, store.chargePoint.firmwareStatusUpdatedAt = some updatedAt →
    updatedAt ≤ event.occurredAt
  isShown : store.HasLogged event → store.chargePoint = store.chargePoint.updated event

/-- The status is that of the newest of some events, and repeated ones have changed nothing. -/
structure FirmwareLaws (events : List FirmwareEvent) : Prop where
  newest : events ≠ [] → ∃ event ∈ events,
    (store.run events).chargePoint.firmwareUpdateStatus = some event.status ∧
      ∀ other ∈ events, other.occurredAt ≤ event.occurredAt
  repeated : ∀ before event after, events = before ++ event :: after →
    (store.run before).HasLogged event → (store.run before).record event = store.run before

theorem record_of_admits {store : FirmwareStore} {event : FirmwareEvent}
    (admits : store.Admits event) (hasLogged : store.HasLogged event) :
    store.record event = store := by
  rw [record, if_pos hasLogged, ← admits.isShown hasLogged]

def AdmitsAll (store : FirmwareStore) (events : List FirmwareEvent) : Prop :=
  ∀ before event after, events = before ++ event :: after → (store.run before).Admits event

theorem newest_of_admitsAll {store : FirmwareStore} {first : FirmwareEvent}
    {rest : List FirmwareEvent} (admits : store.AdmitsAll (first :: rest)) :
    ∃ event ∈ first :: rest,
      (store.run (first :: rest)).chargePoint.firmwareUpdateStatus = some event.status ∧
        ∀ other ∈ first :: rest, other.occurredAt ≤ event.occurredAt := by
  induction rest generalizing store first with
  | nil => exact ⟨first, List.mem_cons_self, rfl, by simp⟩
  | cons second rest inductionHypothesis =>
    have later : (store.record first).AdmitsAll (second :: rest) := by
      intro before event after split
      exact admits (first :: before) event after (congrArg (first :: ·) split)
    rcases inductionHypothesis later with ⟨event, member, isStatus, isNewest⟩
    have inOrder : first.occurredAt ≤ second.occurredAt :=
      (later [] second rest rfl).notOlder first.occurredAt rfl
    exact ⟨event, List.mem_cons_of_mem _ member, isStatus, List.forall_mem_cons.mpr
      ⟨inOrder.trans (isNewest second List.mem_cons_self), isNewest⟩⟩

end FirmwareStore

namespace Sample

def firmwareStore : FirmwareStore :=
  ⟨⟨none, none, none, .v16⟩, []⟩

def firmwareEvent (gatewayEventId status : String) (occurredAt : Int) : FirmwareEvent :=
  ⟨gatewayEventId, none, none, status, occurredAt⟩

end Sample

end Csms.Provisioning
