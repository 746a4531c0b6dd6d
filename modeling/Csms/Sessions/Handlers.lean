import Csms.Sessions.Store

/-!
# Handling session messages

`SessionService.handleOcppMessage` handles what comes from the gateway, and
`SessionMqttConsumer` what comes over MQTT.  Notifications, the synchronisation
of tokens and the recalculation of stations follow the writes and are left out.
-/

namespace Csms.Sessions

open Js

/-- The surroundings of one handling: the time, and the id of a session that is created. -/
structure Handling where
  newId : String
  now : Int

variable (engine : SessionEngine) (handling : Handling)

/-- The new session of `handleStartTransaction`, without its station. -/
def startedSession (ocppId : String) (payload : JsRecord) : NewSession :=
  let evse := readRecord (payload "evse")
  { ocppId := ocppId
    connectorId := ((toFiniteNumber engine (payload "connectorId")).or
      (toFiniteNumber engine (fieldOf evse "connectorId"))).getD 0
    idTag := some (extractIdToken payload)
    ocppTxId := toTrimmedString engine (payload "transactionId")
    startTime := (toDate engine (payload "timestamp")).getD handling.now
    meterStart := (toFiniteNumber engine (payload "meterStart")).getD 0 }

def handleStartTransaction (ocppId : String) (payload : JsRecord) : SessionHandler Unit := do
  let txId := toTrimmedString engine (payload "transactionId")
  let store ← get
  if (txId.bind store.sessionOf).isSome then return
  match store.chargePoint? ocppId with
  | none => return
  | some chargePoint =>
    createSession handling.newId
      { startedSession engine handling ocppId payload with stationId := chargePoint.stationId }

def handleStopTransaction (payload : JsRecord) : SessionHandler Unit := do
  match toTrimmedString engine (payload "transactionId") with
  | none => return
  | some txId =>
    let store ← get
    match store.sessionOf txId with
    | none => return
    | some session =>
      let meterStop := (toFiniteNumber engine (payload "meterStop")).getD 0
      updateSession session.id
        { endTime := some ((toDate engine (payload "timestamp")).getD handling.now)
          meterStop := meterStop
          totalEnergy := max 0 (meterStop - session.meterStart)
          status := some "COMPLETED" }

/-- The reading of a transaction event. -/
def eventMeterWh (payload : JsRecord) : Option ℚ :=
  (extractMeterWhFromTransactionEvent engine payload).or
    (toFiniteNumber engine (payload "meterValue"))

/-- The payload with which `handleTransactionEvent` starts a session. -/
def startedPayload (transactionId : String) (payload : JsRecord) : JsRecord :=
  let evse := readRecord (payload "evse")
  let connectorId := (((toFiniteNumber engine (fieldOf evse "connectorId")).or
    (toFiniteNumber engine (payload "connectorId"))).or
      (toFiniteNumber engine (fieldOf evse "id"))).getD 0
  ((((JsRecord.empty.with "transactionId" (.string transactionId)).with
    "connectorId" (.number (.finite connectorId))).with
      "idTag" (.string (extractIdToken payload))).with
        "timestamp" (.date (some ((toDate engine (payload "timestamp")).getD handling.now)))).with
          "meterStart" (.number (.finite ((eventMeterWh engine payload).getD 0)))

def handleTransactionEvent (ocppId : String) (payload : JsRecord) : SessionHandler Unit := do
  let eventType := toLowerCase ((readString (payload "eventType")).getD "")
  let transactionInfo := readRecord (payload "transactionInfo")
  match toTrimmedString engine (fieldOf transactionInfo "transactionId") with
  | none => return
  | some transactionId =>
    if eventType = "started" then
      handleStartTransaction engine handling ocppId
        (startedPayload engine handling transactionId payload)
    else
      let store ← get
      match store.sessionOf transactionId with
      | none => return
      | some session =>
        if eventType = "updated" then
          match eventMeterWh engine payload with
          | none => return
          | some meterWh =>
            updateSession session.id
              { meterStop := meterWh, totalEnergy := max 0 (meterWh - session.meterStart) }
        else if eventType = "ended" then
          let meterStop := (eventMeterWh engine payload).getD session.meterStart
          updateSession session.id
            { endTime := some ((toDate engine (payload "timestamp")).getD handling.now)
              meterStop := meterStop
              totalEnergy := max 0 (meterStop - session.meterStart)
              status := some "COMPLETED" }
        else return

def handleOcppMessage (message : JsValue) : SessionHandler Unit :=
  let normalized := normalizeSessionEvent engine message
  match normalized.chargePointId with
  | none => return
  | some chargePointId =>
    if normalized.action = some "StartTransaction" then
      handleStartTransaction engine handling chargePointId normalized.payload
    else if normalized.action = some "StopTransaction" then
      handleStopTransaction engine handling normalized.payload
    else if normalized.action = some "TransactionEvent" then
      handleTransactionEvent engine handling chargePointId normalized.payload
    else if normalized.eventType = some "SessionStarted" then
      handleStartTransaction engine handling chargePointId normalized.payload
    else if normalized.eventType = some "SessionStopped" then
      handleStopTransaction engine handling normalized.payload
    else return

inductive ChargerTransactionStatus where
  | started
  | completed
  | stopped
  | error
  deriving DecidableEq

/-- `ChargerTransactionPayload` and `LegacyEvseTransactionPayload`; an empty `endTime`
counts as none. -/
structure ChargerTransactionPayload where
  (chargerId transactionId : String)
  (userId rfidTag : Option String)
  startTime : DateText
  endTime : Option DateText
  energyDelivered : ℚ
  status : ChargerTransactionStatus

def extractTenantFromTopic (topic : String) : Option String :=
  match (topic.toList.splitOn '/').map String.ofList with
  | "v1" :: tenantId :: _ => some tenantId
  | _ => none

/-- The creation of a session by the MQTT consumer; a session that is there already is
no error. -/
def createMqttSession (chargePoint : ChargePoint) (data : ChargerTransactionPayload) :
    SessionHandler Unit := fun store =>
  match dateParse data.startTime with
  | none => .error .validation store
  | some startTime =>
    match createSession handling.newId
        { stationId := chargePoint.stationId, ocppId := chargePoint.ocppId
          ocppTxId := some data.transactionId, connectorId := 1, idTag := data.rfidTag
          userId := data.userId, startTime := startTime, meterStart := 0 } store with
    | .error .uniqueConstraint later => .ok () later
    | outcome => outcome

/-- The first checks of both handlers of a start: the charge point is known and belongs
to the tenant, and there is no session of the transaction. -/
def startMqttSession (tenantId : String) (data : ChargerTransactionPayload) :
    SessionHandler Unit := do
  let store ← get
  match store.chargePoint? data.chargerId with
  | none => return
  | some chargePoint =>
    if tenantId ∉ store.tenantsOf chargePoint.stationId then return
    else if (store.sessionOf data.transactionId).isSome then return
    else createMqttSession handling chargePoint data

def sessionTenantIds (store : Store) (session : Session) : List String :=
  (store.chargePoint? session.ocppId).elim [] fun chargePoint =>
    store.tenantsOf chargePoint.stationId

/-- The end of both handlers of a stop. -/
def stopMqttSession (tenantId : String) (data : ChargerTransactionPayload) :
    SessionHandler Unit := do
  let store ← get
  match store.sessionOf data.transactionId with
  | none => return
  | some session =>
    if tenantId ∉ sessionTenantIds store session then return
    else
      match data.endTime.elim (some handling.now) dateParse with
      | none => throw .validation
      | some endTime =>
        updateSession session.id
          { status := some "STOPPED", endTime := some endTime
            meterStop := data.energyDelivered, totalEnergy := data.energyDelivered }

def handleChargerTransactionStarted (topic : String) (data : ChargerTransactionPayload) :
    SessionHandler Unit :=
  match extractTenantFromTopic topic with
  | none => return
  | some tenantId => startMqttSession handling tenantId data

def handleChargerTransactionUpdated (topic : String) (data : ChargerTransactionPayload) :
    SessionHandler Unit :=
  match extractTenantFromTopic topic with
  | none => return
  | some tenantId =>
    if data.status = .completed ∨ data.status = .stopped then
      stopMqttSession handling tenantId data
    else return

/-- The charger is looked up for every status here. -/
def handleLegacyEvseTransaction (topic : String) (data : ChargerTransactionPayload) :
    SessionHandler Unit := do
  match extractTenantFromTopic topic with
  | none => return
  | some tenantId =>
    let store ← get
    match store.chargePoint? data.chargerId with
    | none => return
    | some chargePoint =>
      if tenantId ∉ store.tenantsOf chargePoint.stationId then return
      else if data.status = .started then startMqttSession handling tenantId data
      else if data.status = .completed ∨ data.status = .stopped then
        stopMqttSession handling tenantId data
      else return

inductive SessionMessage where
  | ocpp (message : JsValue)
  | chargerTransactionStarted (topic : String) (data : ChargerTransactionPayload)
  | chargerTransactionUpdated (topic : String) (data : ChargerTransactionPayload)
  | legacyEvseTransaction (topic : String) (data : ChargerTransactionPayload)

def SessionMessage.handle : SessionMessage → SessionHandler Unit
  | ocpp message => handleOcppMessage engine handling message
  | chargerTransactionStarted topic data => handleChargerTransactionStarted handling topic data
  | chargerTransactionUpdated topic data => handleChargerTransactionUpdated handling topic data
  | legacyEvseTransaction topic data => handleLegacyEvseTransaction handling topic data

/-- The charge point that the message comes from. -/
def SessionMessage.sender : SessionMessage → Option String
  | ocpp message => (normalizeSessionEvent engine message).chargePointId
  | chargerTransactionStarted _ data | chargerTransactionUpdated _ data
  | legacyEvseTransaction _ data => some data.chargerId

end Csms.Sessions
