import Csms.Sessions.Effect
import Csms.Transition.Run

/-!
# Runs of messages

What the lookups find after a statement, and the store after messages that are
handled one after another.
-/

namespace Csms.Sessions

open Js Service

namespace Store

variable (store : Store)

theorem mem_of_sessionOf {txId : String} {session : Session}
    (found : store.sessionOf txId = some session) : session ∈ store.sessions.rows :=
  List.mem_of_find?_eq_some found

section Change

variable (session : Session) (change : SessionChange)

def changed (row : Session) : Session :=
  if row.id = session.id then (change.update session).apply row else row

theorem rows_changeSession : (store.changeSession session change).sessions.rows =
      store.sessions.rows.map (changed session change) := by
  rw [changeSession, Table.rows_updateWhere]
  apply List.map_congr_left
  intro row _
  simp [changed]

theorem ocppId_changed (row : Session) : (changed session change row).ocppId = row.ocppId := by
  rw [changed]
  split <;> rfl

theorem ocppTxId_changed (row : Session) :
    (changed session change row).ocppTxId = row.ocppTxId := by
  rw [changed]
  split <;> rfl

theorem sessionOf_changeSession (txId : String) :
    (store.changeSession session change).sessionOf txId =
      (store.sessionOf txId).map (changed session change) := by
  have same : (fun row : Session => decide (row.ocppTxId = some txId)) ∘ changed session change =
      fun row => decide (row.ocppTxId = some txId) := by
    funext row
    simp [ocppTxId_changed]
  rw [sessionOf, rows_changeSession, List.find?_map, same]
  rfl

theorem find?_changeSession (id : String) : (store.changeSession session change).sessions.find? id =
      (store.sessions.find? id).map (changed session change) := by
  rw [changeSession, Table.find?_updateWhere]
  congr 1
  funext row
  simp [changed]

end Change

theorem changeSession_of_unchanged {session : Session} (member : session ∈ store.sessions.rows)
    {change : SessionChange} (unchanged : change.apply session = session) :
    store.changeSession session change = store := by
  have sameRows : (store.changeSession session change).sessions.rows = store.sessions.rows := by
    rw [rows_changeSession]
    apply Eq.trans _ (List.map_id _)
    apply List.map_congr_left
    intro row inRows
    rw [changed]
    split
    · rename_i sameId
      obtain rfl := store.sessions.eq_of_key_eq inRows member sameId
      exact unchanged
    · rfl
  have sameTable := Table.ext sameRows
  cases store
  exact congrArg (Store.mk _ · _) sameTable

section Create

variable {newId : String} {data : SessionData}

section

variable (accepted : store.accepts newId data = true)
include accepted

theorem rows_create :
    (store.create newId data).sessions.rows = store.sessions.rows ++ [data.session newId] := by
  have free : store.sessions.find? newId = none := by
    rw [accepts, Bool.and_eq_true] at accepted
    exact Option.isNone_iff_eq_none.mp accepted.2
  rw [create, if_pos accepted]
  exact Table.rows_insert_of_free free

theorem sessionOf_create (txId : String) : (store.create newId data).sessionOf txId =
      (store.sessionOf txId).or
        (if data.ocppTxId = some txId then some (data.session newId) else none) := by
  rw [sessionOf, rows_create store accepted, List.find?_append, sessionOf]
  congr 1
  by_cases isTx : data.ocppTxId = some txId <;> simp [SessionData.session, isTx]

theorem find?_create (id : String) : (store.create newId data).sessions.find? id =
      (store.sessions.find? id).or (if newId = id then some (data.session newId) else none) := by
  rw [create, if_pos accepted]
  exact Table.find?_insert _ _ _

end

theorem chargePoints_create : (store.create newId data).chargePoints = store.chargePoints := by
  rw [create]
  split <;> rfl

theorem tenantsOf_create : (store.create newId data).tenantsOf = store.tenantsOf := by
  rw [create]
  split <;> rfl

end Create

end Store

theorem changeable_eq_some {store : Store} {tenantId : Option String} {txId : String}
    {session : Session} (found : store.changeable tenantId txId = some session) :
    store.sessionOf txId = some session :=
  (Option.filter_eq_some_iff.mp found).1

/-- A message and how it is handled. -/
structure Delivery where
  message : SessionMessage
  handling : Handling

namespace Delivery

variable (engine : SessionEngine) (delivery : Delivery) (store : Store)

/-- What the message asks for. -/
def op : SessionOp :=
  delivery.message.op engine delivery.handling store

/-- The store after the message was handled. -/
def next : Store :=
  after (delivery.message.handle engine delivery.handling) store

theorem next_eq :
    delivery.next engine store = (delivery.op engine store).apply delivery.handling.newId store :=
  SessionMessage.after_handle engine delivery.handling delivery.message store

/-- What a message asks for depends on the charge points only. -/
theorem op_congr {engine : SessionEngine} {left right : Store}
    (samePoints : left.chargePoints = right.chargePoints)
    (sameTenants : left.tenantsOf = right.tenantsOf) (delivery : Delivery) :
    delivery.op engine left = delivery.op engine right := by
  rcases delivery with ⟨message, handling⟩
  cases message with
  | legacyEvseTransaction topic data =>
    rw [op, op, SessionMessage.op, SessionMessage.op, Store.chargePoint?, Store.chargePoint?,
      samePoints, sameTenants]
  | _ => rfl

/-- The store after a run of messages. -/
def nextAll (deliveries : List Delivery) : Store :=
  Transition.final (fun store delivery => delivery.next engine store) store deliveries

end Delivery

namespace Sample

def engine : SessionEngine where
  localeCompare _ _ := 0
  parseDateText _ := none
  coerceNumber _ := .nan
  parseJson _ := none
  numberText _ := ""

def session (id ocppTxId ocppId : String) : Session where
  id := id
  stationId := "station"
  connectorId := 1
  ocppTxId := some ocppTxId
  ocppId := ocppId
  idTag := none
  userId := none
  startTime := 0
  endTime := none
  meterStart := 1000
  meterStop := 6000
  totalEnergy := 5000
  amount := 0
  status := "ACTIVE"

def store : Store where
  chargePoints := ⟨[⟨"CP-A", "station"⟩, ⟨"CP-B", "station"⟩], by decide⟩
  sessions := ⟨[session "first" "1001" "CP-A", session "second" "1002" "CP-B"], by decide⟩
  tenantsOf _ := []

def message (chargePointId action : String) (payload : JsRecord) : JsValue :=
  .object (((JsRecord.empty.with "chargePointId" (.string chargePointId)).with
    "action" (.string action)).with "payload" (.object payload))

def delivery (newId chargePointId action transactionId : String) : Delivery where
  message := .ocpp (message chargePointId action
    (JsRecord.empty.with "transactionId" (.string transactionId)))
  handling := ⟨newId, 100⟩

def transactionEvent (eventType : String) (time : ℚ) (meterValue : JsValue) : JsValue :=
  message "CP-A" "TransactionEvent"
    ((((JsRecord.empty.with "eventType" (.string eventType)).with
      "timestamp" (.number (.finite time))).with
        "transactionInfo" (.object (JsRecord.empty.with "transactionId" (.string "2001")))).with
          "meterValue" meterValue)

def event (newId eventType : String) (time : ℚ) (meterValue : JsValue) : Delivery where
  message := .ocpp (transactionEvent eventType time meterValue)
  handling := ⟨newId, 100⟩

end Sample

end Csms.Sessions
