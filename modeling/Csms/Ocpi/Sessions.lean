import Csms.Ocpi.Objects
import Csms.Service.Program

/-!
# Operations on the sessions of partners

Charging preferences and charging profiles are kept in the data of a partner's session.
The operations find it by the id of the session alone: of all rows with the id, they
take the one that was written last.  A handler here notes which rows its lookups
return and which its updates change.
-/

namespace Csms.Ocpi

open Js Commands

/-- A party of the roaming network. -/
structure Party where
  (countryCode partyId : String)
  deriving DecidableEq

def ObjectKey.party (key : ObjectKey) : Party :=
  ⟨key.countryCode, key.partyId⟩

def PartnerObject.session? (object : PartnerObject) : Option ObjectKey :=
  match object.key with
  | .session key => some key
  | _ => none

/-- `findFirst` of the sessions with an id, ordered by `updatedAt`. -/
def newestSession (objects : Objects) (sessionId : String) : Option PartnerObject :=
  newestOf PartnerObject.updatedAt
    (objects.rows.filter fun object => object.session?.any fun key => key.id = sessionId)

/-- The tables, and the rows that were read and written. -/
structure Traffic where
  objects : Objects
  read : List Key := []
  written : List Key := []

abbrev SessionHandler :=
  EStateM HttpException Traffic

def findSession (sessionId : String) : SessionHandler (Option PartnerObject) := fun traffic =>
  let found := newestSession traffic.objects sessionId
  .ok found { traffic with read := traffic.read ++ (found.map PartnerObject.key).toList }

/-- `update` by the id of a row that was found. -/
def updateSession (existing : PartnerObject) (data : JsRecord) (lastUpdated writtenAt : Int) :
    SessionHandler Unit := fun traffic =>
  .ok () { traffic with
    objects := traffic.objects.updateWhere (fun object => object.key = existing.key)
      (fun object =>
        { object with data := .object data, lastUpdated, updatedAt := writtenAt })
      fun _ => rfl
    written := traffic.written ++ [existing.key] }

def createSessionRow (key : ObjectKey) (data : JsRecord) (lastUpdated writtenAt : Int) :
    SessionHandler Unit := fun traffic =>
  match traffic.objects.insert? ⟨.session key, .object data, lastUpdated, true, writtenAt⟩ with
  | some objects => .ok () { traffic with objects }
  | none => .error .internal traffic

/-- What the endpoints get besides the request. -/
structure SessionContext where
  /-- `OCPI_COUNTRY_CODE`. -/
  countryCode : Option String
  /-- `OCPI_PARTY_ID`. -/
  partyId : Option String
  /-- `Object.keys`. -/
  keys : JsRecord → List String
  now : Int
  /-- When the database client writes. -/
  writtenAt : Int

def defaultCountryCode (context : SessionContext) : String :=
  toUpperCase (trim ((orText context.countryCode none).getD "US"))

def defaultPartyId (context : SessionContext) : String :=
  toUpperCase (trim ((orText context.partyId none).getD "EVZ"))

structure ChargingPreferences where
  updatedAt : Option DateText
  data : JsRecord
  version : Option String

/-- An object literal of an answer or of stored data. -/
def literal (fields : List (String × JsValue)) : JsRecord :=
  fields.foldl (fun record field => record.with field.1 field.2) JsRecord.empty

/-- `{ ...record, ...fields }`. -/
def withFields (record : JsRecord) (fields : List (String × JsValue)) : JsRecord :=
  fields.foldl (fun record field => record.with field.1 field.2) record

/-- The id, or the rejection of a request without one. -/
def requireSessionId (sessionId : Option String) : Except HttpException String :=
  match sessionId with
  | some sessionId => .ok sessionId
  | none => .error (.badRequest "sessionId is required")

def sessionIdOf (payload : JsRecord) : Option String :=
  (extractString payload "sessionId").or (extractString payload "session_id")

def profileOf (payload : JsRecord) : JsRecord :=
  ensureObject (((payload "chargingProfile").orElse (payload "charging_profile")).orElse
    (payload "profile"))

/-- The columns of a session in an answer. -/
def columns (key : Option ObjectKey) : List (String × JsValue) :=
  match key with
  | some key =>
    [("version", .string key.version), ("countryCode", .string key.countryCode),
      ("partyId", .string key.partyId)]
  | none => []

section Handlers

open Service

variable (context : SessionContext)

def setChargingPreferences (sessionId : String) (payload : ChargingPreferences) :
    SessionHandler JsRecord := do
  let normalizedSessionId ← orThrow (requireSessionId (orText (some (trim sessionId)) none))
  let updatedAt := parseDate context.now payload.updatedAt
  let answer (key : Option ObjectKey) := literal
    ([("sessionId", .string normalizedSessionId), ("updatedAt", .date (some updatedAt))] ++
      columns key)
  let existing ← findSession normalizedSessionId
  match existing with
  | some existing => do
    updateSession existing
      (withFields (ensureObject existing.data)
        [("charging_preferences", .object payload.data), ("last_updated", .date (some updatedAt))])
      updatedAt context.writtenAt
    return answer existing.session?
  | none => do
    let key : ObjectKey :=
      { countryCode :=
          toUpperCase ((extractString payload.data "country_code").getD
            (defaultCountryCode context))
        partyId :=
          toUpperCase ((extractString payload.data "party_id").getD (defaultPartyId context))
        id := normalizedSessionId
        version := (orText payload.version none).getD "2.2.1" }
    createSessionRow key
      (literal [("id", .string normalizedSessionId),
        ("charging_preferences", .object payload.data), ("last_updated", .date (some updatedAt))])
      updatedAt context.writtenAt
    return answer (some key)

def getChargingProfile (sessionId : String) : SessionHandler JsRecord := do
  let normalizedSessionId ← orThrow (requireSessionId (orText (some (trim sessionId)) none))
  let session ← findSession normalizedSessionId
  match session with
  | none =>
    return literal [("sessionId", .string normalizedSessionId), ("result", .string "NOT_FOUND"),
      ("chargingProfile", .null)]
  | some session =>
    let data := ensureObject session.data
    let profile := ensureObject ((data "chargingProfile").nullish (data "charging_profile"))
    return literal
      ([("sessionId", .string normalizedSessionId)] ++ columns session.session? ++
        [("chargingProfile", if context.keys profile = [] then .null else .object profile),
          ("lastUpdated", .date (some session.lastUpdated))])

def setChargingProfile (payload : JsRecord) : SessionHandler JsRecord := do
  let sessionId ← orThrow (requireSessionId (sessionIdOf payload))
  let profile := profileOf payload
  if context.keys profile = [] then
    throw (.badRequest "chargingProfile is required")
  let answer (key : Option ObjectKey) := literal
    ([("accepted", .boolean true), ("action", .string "SET"), ("sessionId", .string sessionId)] ++
      columns key ++ [("updatedAt", .date (some context.now))])
  let profileFields : List (String × JsValue) :=
    [("chargingProfile", .object profile), ("charging_profile", .object profile),
      ("chargingProfileUpdatedAt", .date (some context.now))]
  let existing ← findSession sessionId
  match existing with
  | some existing => do
    updateSession existing (withFields (ensureObject existing.data) profileFields) context.now
      context.writtenAt
    return answer existing.session?
  | none => do
    let key : ObjectKey :=
      { countryCode :=
          ((extractString payload "countryCode").or (extractString payload "country_code")).getD
            (defaultCountryCode context)
        partyId :=
          ((extractString payload "partyId").or (extractString payload "party_id")).getD
            (defaultPartyId context)
        id := sessionId
        version := (extractString payload "version").getD "2.2.1" }
    createSessionRow key (literal (("id", .string sessionId) :: profileFields)) context.now
      context.writtenAt
    return answer (some key)

/-- The shape of the three operations that only change a session that is there. -/
def changeSession (payload : JsRecord) (missing : String → JsRecord)
    (fields : JsRecord → List (String × JsValue)) (answer : String → JsRecord) :
    SessionHandler JsRecord := do
  let sessionId ← orThrow (requireSessionId (sessionIdOf payload))
  let existing ← findSession sessionId
  match existing with
  | none => return missing sessionId
  | some existing => do
    let existingData := ensureObject existing.data
    updateSession existing (withFields existingData (fields existingData)) context.now
      context.writtenAt
    return answer sessionId

def clearChargingProfile (payload : JsRecord) : SessionHandler JsRecord :=
  changeSession context payload
    (fun sessionId => literal [("accepted", .boolean true), ("action", .string "CLEAR"),
      ("sessionId", .string sessionId), ("updated", .boolean false)])
    (fun _ => [("chargingProfile", .null), ("charging_profile", .null),
      ("chargingProfileClearedAt", .date (some context.now))])
    fun sessionId => literal [("accepted", .boolean true), ("action", .string "CLEAR"),
      ("sessionId", .string sessionId), ("updated", .boolean true),
      ("updatedAt", .date (some context.now))]

/-- The results so far, the last 24 of them, and the new one. -/
def nextResults (existingData payload : JsRecord) : List JsValue :=
  let currentResults := (arrayItems (existingData "chargingProfileResults")).filter fun entry =>
    match entry with
    | .object _ => true
    | _ => false
  currentResults.drop (currentResults.length - 24) ++
    [.object (literal
      [("status", .string (((extractString payload "status").or
          (extractString payload "result")).getD "UNKNOWN")),
        ("message", ((extractString payload "message").map JsValue.string).getD .null),
        ("at", .date (some context.now))])]

def chargingProfileResult (payload : JsRecord) : SessionHandler JsRecord :=
  changeSession context payload
    (fun sessionId => literal [("accepted", .boolean false), ("sessionId", .string sessionId),
      ("updated", .boolean false)])
    (fun existingData =>
      [("chargingProfileResults", .array (nextResults context existingData payload)),
        ("chargingProfileResultAt", .date (some context.now))])
    fun sessionId => literal [("accepted", .boolean true), ("sessionId", .string sessionId),
      ("updated", .boolean true), ("updatedAt", .date (some context.now))]

def isActive (rawActive : JsValue) : Bool :=
  match rawActive with
  | .boolean value => value
  | .string text => toLowerCase (trim text) = "true"
  | .number value => value = .ofInt 1
  | _ => false

def activeChargingProfile (payload : JsRecord) : SessionHandler JsRecord :=
  changeSession context payload
    (fun sessionId => literal [("accepted", .boolean false), ("sessionId", .string sessionId),
      ("updated", .boolean false)])
    (fun _ => [("chargingProfileActive", .boolean (isActive (payload "active"))),
      ("chargingProfileActiveAt", .date (some context.now))])
    fun sessionId => literal [("accepted", .boolean true), ("sessionId", .string sessionId),
      ("active", .boolean (isActive (payload "active"))), ("updated", .boolean true),
      ("updatedAt", .date (some context.now))]

end Handlers

end Csms.Ocpi
