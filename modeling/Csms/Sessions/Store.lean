import Csms.Js.Value
import Csms.Service.Program
import Csms.Table.Keyed

/-!
# The stored sessions

Sessions have two unique columns: their id, under which the table has them, and
the transaction id that the charge point gave them, which is checked when a
session is created.
-/

/-!
## Reading session messages

The private readers of the session service: each takes an untyped value of a
message of a charge point to a typed one or to nothing.
-/

namespace Csms.Sessions

open Js

/-- What the JavaScript engine supplies to the session service. -/
structure SessionEngine extends Engine where
  /-- `JSON.parse`, `none` when it throws. -/
  parseJson : String → Option JsValue
  /-- `String(value)` of a number. -/
  numberText : JsNumber → String

def readString : JsValue → Option String
  | .string value => if trim value = "" then none else some (trim value)
  | _ => none

def readRecord : JsValue → Option JsRecord
  | .object fields => some fields
  | .date _ => some JsRecord.empty
  | _ => none

/-- `record?.name`. -/
def fieldOf (record : Option JsRecord) (name : String) : JsValue :=
  record.elim .undefined fun fields => fields name

def itemsOf : JsValue → List JsValue
  | .array items => items
  | _ => []

section

variable (engine : SessionEngine)

def toFiniteNumber : JsValue → Option ℚ
  | .number (.finite value) => some value
  | .string value =>
    match engine.toNumber (.string value) with
    | .finite parsed => some parsed
    | _ => none
  | _ => none

def toTrimmedString : JsValue → Option String
  | .string value => if trim value = "" then none else some (trim value)
  | .number value => some (engine.numberText value)
  | _ => none

def toDate : JsValue → Option Int
  | .date milliseconds => milliseconds
  | value => engine.toEngine.toDate value

def extractIdToken (payload : JsRecord) : String :=
  match readString (payload "idTag") with
  | some idTag => idTag
  | none =>
    match fieldOf (readRecord (payload "idToken")) "idToken" with
    | .string idToken => trim idToken
    | _ => ""

def energyMeasurands : List String :=
  ["energy.active.import.register", "energy.active.export.register"]

/-- The energy in Wh of one sampled value; `none` where the loop goes on. -/
def sampledMeterWh (sampled : JsValue) : Option ℚ := do
  let sampledRecord ← readRecord sampled
  let value ← toFiniteNumber engine (sampledRecord "value")
  let measurand := toLowerCase (trim ((readString (sampledRecord "measurand")).getD ""))
  if measurand ≠ "" ∧ measurand ∉ energyMeasurands then none
  else
    let unitOfMeasure := readRecord (sampledRecord "unitOfMeasure")
    let unit := toLowerCase (trim
      (((readString (fieldOf unitOfMeasure "unit")).or (readString (sampledRecord "unit"))).getD ""))
    some (if unit = "kwh" then value * 1000 else value)

def extractMeterWhFromTransactionEvent (payload : JsRecord) : Option ℚ :=
  (itemsOf (payload "meterValue")).findSome? fun meterValue =>
    (readRecord meterValue).bind fun meterValueRecord =>
      (itemsOf (meterValueRecord "sampledValue")).findSome? (sampledMeterWh engine)

def unwrapEnvelope (message : JsValue) : Option JsValue :=
  match message with
  | .string text => engine.parseJson text
  | .object fields =>
    match fields "value" with
    | .undefined => some (.object fields)
    | _ => unwrapEnvelope (fields "value")
  | message => some message

structure NormalizedEvent where
  (chargePointId eventType action : Option String)
  payload : JsRecord

def normalizeSessionEvent (message : JsValue) : NormalizedEvent :=
  match (unwrapEnvelope engine message).bind readRecord with
  | none => ⟨none, none, none, JsRecord.empty⟩
  | some input =>
    let chargePoint := readRecord (input "chargePoint")
    let rawPayload := (readRecord (input "payload")).getD JsRecord.empty
    let payloadData := (readRecord (rawPayload "payload")).getD rawPayload
    let action := (readString (input "action")).or (readString (rawPayload "action"))
    { chargePointId := readString
        (((input "chargePointId").orElse (input "ocppId")).orElse (fieldOf chargePoint "ocppId"))
      eventType := readString (input "eventType")
      action := action
      payload :=
        if action.isSome then
          payloadData.with "transactionId"
            ((payloadData "transactionId").orElse (rawPayload "transactionId"))
        else payloadData }

end

structure ChargePoint where
  (ocppId stationId : String)
  deriving DecidableEq

/-- A charging session; dates are milliseconds, energy is in Wh. -/
structure Session where
  (id stationId : String)
  connectorId : Int
  ocppTxId : Option String
  ocppId : String
  (idTag userId : Option String)
  startTime : Int
  endTime : Option Int
  (meterStart meterStop totalEnergy amount : ℚ)
  status : String
  deriving DecidableEq

structure Store where
  chargePoints : Table ChargePoint ChargePoint.ocppId
  sessions : Table Session Session.id
  /-- The tenants of the site of a station. -/
  tenantsOf : String → List String

/-- Why the database refuses a statement. -/
inductive DatabaseError where
  | uniqueConstraint
  | validation
  deriving DecidableEq

abbrev SessionHandler (α : Type) :=
  EStateM DatabaseError Store α

namespace Store

variable (store : Store)

def chargePoint? (ocppId : String) : Option ChargePoint :=
  store.chargePoints.find? ocppId

/-- `findUnique` or `findFirst` by `ocppTxId`. -/
def sessionOf (ocppTxId : String) : Option Session :=
  store.sessions.rows.find? fun session => session.ocppTxId = some ocppTxId

end Store

/-- What a message says of a new session. -/
structure NewSession where
  ocppId : String
  ocppTxId : Option String
  connectorId : ℚ
  idTag : Option String
  userId : Option String := none
  startTime : Int
  meterStart : ℚ

/-- `data` of a new session; the columns with defaults are left out. -/
structure SessionData extends NewSession where
  stationId : String
  status : String := "ACTIVE"

def SessionData.session (data : SessionData) (id : String) : Session where
  id := id
  stationId := data.stationId
  connectorId := data.connectorId.num
  ocppTxId := data.ocppTxId
  ocppId := data.ocppId
  idTag := data.idTag
  userId := data.userId
  startTime := data.startTime
  endTime := none
  meterStart := data.meterStart
  meterStop := 0
  totalEnergy := 0
  amount := 0
  status := data.status

/-- Both unique columns are free, and the connector is an integer. -/
def Store.accepts (store : Store) (newId : String) (data : SessionData) : Bool :=
  data.connectorId.den = 1 && (data.ocppTxId.bind store.sessionOf).isNone &&
    (store.sessions.find? newId).isNone

/-- `prisma.session.create`, under an id that the database has chosen. -/
def createSession (newId : String) (data : SessionData) : SessionHandler Unit := fun store =>
  if data.connectorId.den ≠ 1 then .error .validation store
  else if store.accepts newId data then
    .ok () { store with sessions := store.sessions.insert (data.session newId) }
  else .error .uniqueConstraint store

/-- `data` of an update of a session: the columns that are set. -/
structure SessionUpdate where
  endTime : Option Int := none
  (meterStop totalEnergy : ℚ)
  status : Option String := none

def SessionUpdate.apply (update : SessionUpdate) (session : Session) : Session :=
  { session with
    endTime := update.endTime.or session.endTime
    meterStop := update.meterStop
    totalEnergy := update.totalEnergy
    status := update.status.getD session.status }

@[simp]
theorem SessionUpdate.id_apply (update : SessionUpdate) (session : Session) :
    (update.apply session).id = session.id :=
  rfl

/-- `prisma.session.update` of a session that was read before. -/
def updateSession (id : String) (update : SessionUpdate) : SessionHandler Unit :=
  modify fun store => { store with
    sessions := store.sessions.updateWhere (fun session => session.id = id) update.apply
      update.id_apply }

end Csms.Sessions
