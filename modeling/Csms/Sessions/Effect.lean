import Csms.Sessions.Handlers

/-!
# What a message does

A message starts a session, changes the session of its transaction, or is
ignored.  This file has these three as operations on the store, reads a message
as one of them, and shows that the handlers do what the operation says.
-/

namespace Csms.Sessions

open Js Service

/-- How a message changes the session of its transaction. -/
inductive SessionChange where
  /-- A transaction event with a reading, while the session runs. -/
  | telemetry (meterWh : ℚ)
  /-- `StopTransaction`. -/
  | stop (meterStop : Option ℚ) (endTime : Int)
  /-- The last transaction event. -/
  | finish (meterWh : Option ℚ) (endTime : Int)
  /-- The stop of a charger that reports the energy itself. -/
  | deliver (energyDelivered : ℚ) (endTime : Int)

namespace SessionChange

/-- The columns that are set. -/
def update (session : Session) : SessionChange → SessionUpdate
  | telemetry meterWh =>
    { meterStop := meterWh, totalEnergy := max 0 (meterWh - session.meterStart) }
  | stop meterStop endTime =>
    { endTime := some endTime, meterStop := meterStop.getD 0
      totalEnergy := max 0 (meterStop.getD 0 - session.meterStart), status := some "COMPLETED" }
  | finish meterWh endTime =>
    { endTime := some endTime, meterStop := meterWh.getD session.meterStart
      totalEnergy := max 0 (meterWh.getD session.meterStart - session.meterStart)
      status := some "COMPLETED" }
  | deliver energyDelivered endTime =>
    { endTime := some endTime, meterStop := energyDelivered, totalEnergy := energyDelivered
      status := some "STOPPED" }

def apply (change : SessionChange) (session : Session) : Session :=
  (change.update session).apply session

variable (change : SessionChange) (session : Session)

end SessionChange

/-- What a message asks for; over MQTT on behalf of a tenant. -/
inductive SessionOp where
  | ignore
  | start (tenantId : Option String) (new : NewSession)
  | change (tenantId : Option String) (txId : String) (change : SessionChange)

namespace Store

variable (store : Store)

def startable (tenantId : Option String) (new : NewSession) : Option ChargePoint :=
  (store.chargePoint? new.ocppId).filter fun chargePoint =>
    tenantId.all (· ∈ store.tenantsOf chargePoint.stationId)

def changeable (tenantId : Option String) (txId : String) : Option Session :=
  (store.sessionOf txId).filter fun session => tenantId.all (· ∈ sessionTenantIds store session)

def create (newId : String) (data : SessionData) : Store :=
  if store.accepts newId data then
    { store with sessions := store.sessions.insert (data.session newId) }
  else store

def changeSession (session : Session) (change : SessionChange) : Store :=
  { store with
    sessions := store.sessions.updateWhere (fun row => row.id = session.id)
      (change.update session).apply (change.update session).id_apply }

end Store

def SessionOp.apply (newId : String) (store : Store) : SessionOp → Store
  | ignore => store
  | start tenantId new =>
    (store.startable tenantId new).elim store fun chargePoint =>
      store.create newId { new with stationId := chargePoint.stationId }
  | change tenantId txId step =>
    (store.changeable tenantId txId).elim store fun session => store.changeSession session step

section

variable (engine : SessionEngine) (handling : Handling)

def startOp (ocppId : String) (payload : JsRecord) : SessionOp :=
  .start none (startedSession engine handling ocppId payload)

def stopOp (payload : JsRecord) : SessionOp :=
  (toTrimmedString engine (payload "transactionId")).elim .ignore fun txId =>
    .change none txId
      (.stop (toFiniteNumber engine (payload "meterStop"))
        ((toDate engine (payload "timestamp")).getD handling.now))

def transactionEventOp (ocppId : String) (payload : JsRecord) : SessionOp :=
  let eventType := toLowerCase ((readString (payload "eventType")).getD "")
  let transactionInfo := readRecord (payload "transactionInfo")
  (toTrimmedString engine (fieldOf transactionInfo "transactionId")).elim .ignore fun txId =>
    if eventType = "started" then startOp engine handling ocppId
      (startedPayload engine handling txId payload)
    else if eventType = "updated" then
      (eventMeterWh engine payload).elim .ignore fun meterWh => .change none txId (.telemetry meterWh)
    else if eventType = "ended" then
      .change none txId
        (.finish (eventMeterWh engine payload)
          ((toDate engine (payload "timestamp")).getD handling.now))
    else .ignore

def ocppOp (message : JsValue) : SessionOp :=
  let normalized := normalizeSessionEvent engine message
  normalized.chargePointId.elim .ignore fun chargePointId =>
    if normalized.action = some "StartTransaction" then
      startOp engine handling chargePointId normalized.payload
    else if normalized.action = some "StopTransaction" then
      stopOp engine handling normalized.payload
    else if normalized.action = some "TransactionEvent" then
      transactionEventOp engine handling chargePointId normalized.payload
    else if normalized.eventType = some "SessionStarted" then
      startOp engine handling chargePointId normalized.payload
    else if normalized.eventType = some "SessionStopped" then
      stopOp engine handling normalized.payload
    else .ignore

def mqttStartOp (tenantId : String) (data : ChargerTransactionPayload) : SessionOp :=
  (dateParse data.startTime).elim .ignore fun startTime =>
    .start (some tenantId)
      { ocppId := data.chargerId, ocppTxId := some data.transactionId, connectorId := 1
        idTag := data.rfidTag, userId := data.userId, startTime := startTime, meterStart := 0 }

def mqttStopOp (tenantId : String) (data : ChargerTransactionPayload) : SessionOp :=
  (data.endTime.elim (some handling.now) dateParse).elim .ignore fun endTime =>
    .change (some tenantId) data.transactionId (.deliver data.energyDelivered endTime)

/-- What a message asks for; a legacy charger is looked up first. -/
def SessionMessage.op (store : Store) : SessionMessage → SessionOp
  | ocpp message => ocppOp engine handling message
  | chargerTransactionStarted topic data =>
    (extractTenantFromTopic topic).elim .ignore fun tenantId => mqttStartOp tenantId data
  | chargerTransactionUpdated topic data =>
    (extractTenantFromTopic topic).elim .ignore fun tenantId =>
      if data.status = .completed ∨ data.status = .stopped then
        mqttStopOp handling tenantId data
      else .ignore
  | legacyEvseTransaction topic data =>
    (extractTenantFromTopic topic).elim .ignore fun tenantId =>
      ((store.chargePoint? data.chargerId).filter fun chargePoint =>
          tenantId ∈ store.tenantsOf chargePoint.stationId).elim .ignore fun _ =>
        if data.status = .started then mqttStartOp tenantId data
        else if data.status = .completed ∨ data.status = .stopped then
          mqttStopOp handling tenantId data
        else .ignore

theorem after_get_bind {rest : Store → SessionHandler Unit} (store : Store) :
    after (do let current ← get; rest current) store = after (rest store) store :=
  rfl

theorem after_createSession (newId : String) (data : SessionData) (store : Store) :
    after (createSession newId data) store = store.create newId data := by
  rw [after, createSession, Store.create]
  by_cases isInteger : data.connectorId.den = 1
  · rw [if_neg (not_not.mpr isInteger)]
    by_cases accepted : store.accepts newId data = true
    · rw [if_pos accepted, if_pos accepted]
    · rw [if_neg accepted, if_neg accepted]
  · have rejected : ¬ store.accepts newId data = true := by
      rw [Store.accepts, decide_eq_false isInteger]
      exact Bool.false_ne_true
    rw [if_pos isInteger, if_neg rejected]

theorem Store.create_of_taken {store : Store} {newId : String} {data : SessionData}
    (taken : (data.ocppTxId.bind store.sessionOf).isSome = true) :
    store.create newId data = store := by
  apply if_neg
  rw [Store.accepts, ← Option.not_isSome, taken]
  simp

theorem apply_start_of_taken {store : Store} {newId : String} {tenantId : Option String}
    {new : NewSession} (taken : (new.ocppTxId.bind store.sessionOf).isSome = true) :
    (SessionOp.start tenantId new).apply newId store = store := by
  rw [SessionOp.apply]
  rcases store.startable tenantId new with _ | chargePoint
  · rfl
  · exact Store.create_of_taken taken

theorem startable_none (store : Store) (new : NewSession) :
    store.startable none new = store.chargePoint? new.ocppId := by
  rw [Store.startable]
  rcases store.chargePoint? new.ocppId with _ | chargePoint <;> rfl

theorem changeable_none (store : Store) (txId : String) :
    store.changeable none txId = store.sessionOf txId := by
  rw [Store.changeable]
  rcases store.sessionOf txId with _ | session <;> rfl

theorem after_handleStartTransaction (ocppId : String) (payload : JsRecord) (store : Store) :
    after (handleStartTransaction engine handling ocppId payload) store =
      (startOp engine handling ocppId payload).apply handling.newId store := by
  rw [handleStartTransaction, after_get_bind]
  by_cases taken :
      ((toTrimmedString engine (payload "transactionId")).bind store.sessionOf).isSome = true
  · rw [if_pos taken, startOp, apply_start_of_taken taken]
    rfl
  · rw [if_neg taken, startOp, SessionOp.apply, startable_none]
    change _ = (store.chargePoint? ocppId).elim _ _
    rcases store.chargePoint? ocppId with _ | chargePoint
    · rfl
    · exact after_createSession _ _ store

theorem after_handleStopTransaction (payload : JsRecord) (store : Store) :
    after (handleStopTransaction engine handling payload) store =
      (stopOp engine handling payload).apply handling.newId store := by
  rw [handleStopTransaction, stopOp]
  rcases toTrimmedString engine (payload "transactionId") with _ | txId
  · rfl
  · change after (do let current ← get; _) store = _
    rw [after_get_bind, Option.elim_some, SessionOp.apply, changeable_none]
    rcases store.sessionOf txId with _ | session <;> rfl

theorem after_handleTransactionEvent (ocppId : String) (payload : JsRecord) (store : Store) :
    after (handleTransactionEvent engine handling ocppId payload) store =
      (transactionEventOp engine handling ocppId payload).apply handling.newId store := by
  rw [handleTransactionEvent, transactionEventOp]
  rcases toTrimmedString engine (fieldOf (readRecord (payload "transactionInfo")) "transactionId")
    with _ | txId
  · rfl
  · change after (if _ = "started" then _ else _) store = SessionOp.apply _ store (if _ then _ else _)
    by_cases isStarted : toLowerCase ((readString (payload "eventType")).getD "") = "started"
    · rw [if_pos isStarted, if_pos isStarted]
      exact after_handleStartTransaction engine handling ocppId _ store
    · rw [if_neg isStarted, if_neg isStarted, after_get_bind]
      by_cases isUpdated : toLowerCase ((readString (payload "eventType")).getD "") = "updated"
      · rw [if_pos isUpdated]
        rcases eventMeterWh engine payload with _ | meterWh
        · rcases store.sessionOf txId with _ | session
          · rfl
          · simp only [if_pos isUpdated]
            rfl
        · rw [Option.elim_some, SessionOp.apply, changeable_none]
          rcases store.sessionOf txId with _ | session
          · rfl
          · simp only [if_pos isUpdated]
            rfl
      · rw [if_neg isUpdated]
        by_cases isEnded : toLowerCase ((readString (payload "eventType")).getD "") = "ended"
        · rw [if_pos isEnded, SessionOp.apply, changeable_none]
          rcases store.sessionOf txId with _ | session
          · rfl
          · simp only [if_neg isUpdated, if_pos isEnded]
            rfl
        · rw [if_neg isEnded]
          rcases store.sessionOf txId with _ | session
          · rfl
          · simp only [if_neg isUpdated, if_neg isEnded]
            rfl

theorem after_handleOcppMessage (message : JsValue) (store : Store) :
    after (handleOcppMessage engine handling message) store =
      (ocppOp engine handling message).apply handling.newId store := by
  rw [handleOcppMessage, ocppOp]
  generalize normalizeSessionEvent engine message = normalized
  rcases normalized with ⟨_ | chargePointId, eventType, action, payload⟩
  · rfl
  · simp only [Option.elim_some]
    split
    · exact after_handleStartTransaction engine handling chargePointId payload store
    · split
      · exact after_handleStopTransaction engine handling payload store
      · split
        · exact after_handleTransactionEvent engine handling chargePointId payload store
        · split
          · exact after_handleStartTransaction engine handling chargePointId payload store
          · split
            · exact after_handleStopTransaction engine handling payload store
            · rfl

theorem after_createMqttSession (chargePoint : ChargePoint) (data : ChargerTransactionPayload)
    {startTime : Int} (isDate : dateParse data.startTime = some startTime) (store : Store) :
    after (createMqttSession handling chargePoint data) store = store.create handling.newId
        { stationId := chargePoint.stationId, ocppId := chargePoint.ocppId
          ocppTxId := some data.transactionId, connectorId := 1, idTag := data.rfidTag
          userId := data.userId, startTime := startTime, meterStart := 0 } := by
  rw [← after_createSession, after, after, createMqttSession, isDate]
  simp only
  rcases createSession handling.newId _ store with ⟨_, later⟩ | ⟨error, later⟩
  · rfl
  · cases error <;> rfl

theorem after_startMqttSession (tenantId : String) (data : ChargerTransactionPayload)
    (store : Store) : after (startMqttSession handling tenantId data) store =
      (mqttStartOp tenantId data).apply handling.newId store := by
  rw [startMqttSession, after_get_bind, mqttStartOp]
  rcases isDate : dateParse data.startTime with _ | startTime
  · rcases store.chargePoint? data.chargerId with _ | chargePoint
    · rfl
    · simp only
      split
      · rfl
      · split
        · rfl
        · rw [after, createMqttSession, isDate]
          rfl
  · rw [Option.elim_some, SessionOp.apply, Store.startable]
    rcases found : store.chargePoint? data.chargerId with _ | chargePoint
    · rfl
    · have sameId : chargePoint.ocppId = data.chargerId := (Table.find?_eq_some_iff.mp found).2
      by_cases isTenant : tenantId ∈ store.tenantsOf chargePoint.stationId
      · have served : (some chargePoint).filter (fun chargePoint =>
            (some tenantId).all (· ∈ store.tenantsOf chargePoint.stationId)) = some chargePoint := by
          simp [isTenant]
        rw [served, Option.elim_some]
        simp only [if_neg (not_not.mpr isTenant)]
        by_cases taken : (store.sessionOf data.transactionId).isSome = true
        · rw [if_pos taken]
          apply (Store.create_of_taken _).symm
          exact taken
        · rw [if_neg taken, after_createMqttSession handling chargePoint data isDate, sameId]
      · have notServed : (some chargePoint).filter (fun chargePoint =>
            (some tenantId).all (· ∈ store.tenantsOf chargePoint.stationId)) = none := by
          simp [isTenant]
        rw [notServed]
        simp only [if_pos isTenant]
        rfl

theorem after_stopMqttSession (tenantId : String) (data : ChargerTransactionPayload)
    (store : Store) : after (stopMqttSession handling tenantId data) store =
      (mqttStopOp handling tenantId data).apply handling.newId store := by
  rw [stopMqttSession, after_get_bind, mqttStopOp]
  rcases found : store.sessionOf data.transactionId with _ | session
  · rcases data.endTime.elim (some handling.now) dateParse with _ | endTime
    · rfl
    · rw [Option.elim_some, SessionOp.apply, Store.changeable, found]
      rfl
  · by_cases isTenant : tenantId ∈ sessionTenantIds store session
    · simp only [if_neg (not_not.mpr isTenant)]
      rcases data.endTime.elim (some handling.now) dateParse with _ | endTime
      · rfl
      · have allowed : (some session).filter (fun session =>
            (some tenantId).all (· ∈ sessionTenantIds store session)) = some session := by
          simp [isTenant]
        rw [Option.elim_some, SessionOp.apply, Store.changeable, found, allowed]
        rfl
    · simp only [if_pos isTenant]
      rcases data.endTime.elim (some handling.now) dateParse with _ | endTime
      · rfl
      · have refused : (some session).filter (fun session =>
            (some tenantId).all (· ∈ sessionTenantIds store session)) = none := by
          simp [isTenant]
        rw [Option.elim_some, SessionOp.apply, Store.changeable, found, refused]
        rfl

theorem SessionMessage.after_handle (message : SessionMessage) (store : Store) :
    after (message.handle engine handling) store =
      (message.op engine handling store).apply handling.newId store := by
  cases message with
  | ocpp message => exact after_handleOcppMessage engine handling message store
  | chargerTransactionStarted topic data =>
    rw [handle, op, handleChargerTransactionStarted]
    rcases extractTenantFromTopic topic with _ | tenantId
    · rfl
    · exact after_startMqttSession handling tenantId data store
  | chargerTransactionUpdated topic data =>
    rw [handle, op, handleChargerTransactionUpdated]
    rcases extractTenantFromTopic topic with _ | tenantId
    · rfl
    · simp only [Option.elim_some]
      split
      · exact after_stopMqttSession handling tenantId data store
      · rfl
  | legacyEvseTransaction topic data =>
    rw [handle, op, handleLegacyEvseTransaction]
    rcases extractTenantFromTopic topic with _ | tenantId
    · rfl
    · rw [Option.elim_some]
      simp only
      rw [after_get_bind]
      rcases store.chargePoint? data.chargerId with _ | chargePoint
      · rfl
      · by_cases isTenant : tenantId ∈ store.tenantsOf chargePoint.stationId
        · simp only [Option.filter_some, isTenant, decide_true, not_true_eq_false, if_false, if_true,
            Option.elim_some]
          split
          · exact after_startMqttSession handling tenantId data store
          · split
            · exact after_stopMqttSession handling tenantId data store
            · rfl
        · simp only [Option.filter_some, isTenant, decide_false]
          rfl

end

end Csms.Sessions
