import Csms.Telemetry.Service

/-!
# Ingesting telemetry

Every status that arrives is written as a snapshot and as the latest status of its
vehicle, and its faults are compared with the unresolved ones: new ones are created, and
those that it does not mention are resolved.
-/

namespace Csms.Telemetry

open Database Js

def rowOf (vehicleId : String) (status : UnifiedTelemetryData) (sampledAt : Int) :
    TelemetryRow where
  vehicleId := vehicleId
  provider := status.provider
  providerVehicleId := status.providerId
  lastSyncedAt := status.lastSyncedAt.bind dateParse
  sampledAt := sampledAt
  battery := status.battery
  gps := status.gps
  odometer := status.odometer
  charging := status.charging
  faults := status.faults
  sources := status.sources

/-- A date for the database; an invalid one fails. -/
def columnDate (text : DateText) : Except TelemetryException Int :=
  match dateParse text with
  | some milliseconds => .ok milliseconds
  | none => .error .internal

def sampledAt (now : Int) (status : UnifiedTelemetryData) : Except TelemetryException Int :=
  match status.lastSyncedAt with
  | some text => columnDate text
  | none => .ok now

def persistTelemetrySnapshot (now : Int) (vehicleId : String) (status : UnifiedTelemetryData) :
    TelemetryRequest Unit := do
  let sampled ← Request.ofExcept (sampledAt now status)
  execute (.createSnapshot (rowOf vehicleId status sampled))
  execute (.upsertLatest (rowOf vehicleId status sampled))
  execute (.syncSources vehicleId status.provider status.providerId sampled now)

def newFault (ingest : Ingest) (id : String) (fault : FaultAlert) (seenAt : Int) :
    VehicleFault where
  id := id
  vehicleId := ingest.vehicleId
  provider := some ingest.provider
  source := some ingest.source
  code := fault.code
  severity := fault.severity
  description := fault.description
  status := .open
  firstSeenAt := seenAt
  lastSeenAt := seenAt
  resolvedAt := none
  resolvedBy := none

/-- The faults of a report, one after the other: each is created, or updated if it was
among those that were read. -/
def reportFaults (call : TelemetryCall) (ingest : Ingest) (existing : List VehicleFault) :
    List (FaultAlert × Nat) → TelemetryRequest Unit
  | [] => pure ()
  | (fault, index) :: rest => do
    let seenAt ← Request.ofExcept (columnDate fault.timestamp)
    match existing.find? fun row => row.code = fault.code with
    | none => execute (.createFault ingest (newFault ingest (call.newId index) fault seenAt))
    | some found => execute (.updateFault ingest found.id fault seenAt)
    reportFaults call ingest existing rest

/-- Those that were read and are not reported. -/
def resolveFaults (now : Int) (ingest : Ingest) : List VehicleFault → TelemetryRequest Unit
  | [] => pure ()
  | row :: rest =>
    if ingest.isMissing row.code then do
      execute (.resolveFault ingest row.id now)
      resolveFaults now ingest rest
    else resolveFaults now ingest rest

def syncFaultLifecycle (call : TelemetryCall) (ingest : Ingest) : TelemetryRequest Unit := do
  let existing ← Request.read (.unresolvedFaults ingest) fun store =>
    store.unresolvedFaults ingest.vehicleId
  reportFaults call ingest existing ingest.faults.zipIdx
  resolveFaults call.now ingest existing

/-- The fields of a telemetry webhook. -/
structure WebhookBody where
  (vehicleId providerVehicleId : Option String)
  /-- `stringOrNull(body.lastSyncedAt)`, unless it is empty. -/
  lastSyncedAt : Option DateText
  (battery gps odometer charging faults sources : JsValue)

def readWebhookBody (engine : Engine) (payload : JsRecord) : WebhookBody where
  vehicleId := stringOrNull (payload "vehicleId")
  providerVehicleId := stringOrNull (payload "providerVehicleId")
  lastSyncedAt := dateText engine (payload "lastSyncedAt")
  battery := payload "battery"
  gps := payload "gps"
  odometer := payload "odometer"
  charging := payload "charging"
  faults := payload "faults"
  sources := payload "sources"

inductive TelemetryAnswer where
  | status (status : UnifiedTelemetryData)
  | ingested (provider : TelemetryProvider) (lagMs : Option Int) (isStale : Bool)
  | challenge (text : String)
  | polled

def computeLagMs (now : Int) (lastSyncedAt : DateText) : Option Int :=
  (dateParse lastSyncedAt).map fun parsed => max 0 (now - parsed)

def staleAlertThresholdMs : Int :=
  600000

/-- The answer to a webhook. -/
def ingestedAt (now : Int) (provider : TelemetryProvider) (lastSyncedAt : DateText) :
    TelemetryAnswer :=
  let lagMs := computeLagMs now lastSyncedAt
  .ingested provider lagMs (lagMs.all fun lag => decide (staleAlertThresholdMs < lag))

/-- The status that a webhook reports, over the one that is known. -/
def webhookStatus (runtime : Runtime) (now : Int) (provider : TelemetryProvider)
    (vehicleId : String) (current : Option TelemetryRow) (body : WebhookBody) :
    UnifiedTelemetryData :=
  let fallback :=
    match current with
    | some latest => toUnifiedTelemetryFromLatest now vehicleId latest
    | none => emptyTelemetry now vehicleId provider vehicleId
  let providerId := (orText body.providerVehicleId none).or fallback.providerId
  let lastSyncedAt := body.lastSyncedAt.getD (toISOString now)
  { fallback with
    provider
    providerId
    lastSyncedAt := some lastSyncedAt
    -- these give all their fields, so that none of the known ones is left
    battery := normalizeBattery body.battery
    gps := (normalizeGps runtime.keys body.gps).or fallback.gps
    odometer := normalizeOdometer body.odometer
    charging := normalizeCharging body.charging
    faults := normalizeFaults runtime.engine now vehicleId body.faults
    sources := normalizeSources runtime.engine now provider providerId lastSyncedAt body.sources }

def webhookIngest (provider : TelemetryProvider) (vehicleId : String) (body : WebhookBody)
    (status : UnifiedTelemetryData) : Ingest where
  vehicleId := vehicleId
  provider := provider
  source := "webhook"
  faults := status.faults
  hasFaultList := isArray body.faults

def ingestProviderWebhook (runtime : Runtime) (call : TelemetryCall)
    (provider : TelemetryProvider) (body : WebhookBody) : TelemetryRequest TelemetryAnswer := do
  let found ← resolveVehicleForWebhook body.vehicleId body.providerVehicleId provider
  match found with
  | none => Request.throw (.notFound "Vehicle not found for telemetry webhook payload")
  | some vehicle => do
    Request.ofExcept (assertGate (runtime.gates vehicle.organizationId).webhooks
      "Telemetry webhooks are disabled for this tenant")
    let current ← findLatest vehicle.id
    let status := webhookStatus runtime call.now provider vehicle.id current body
    persistTelemetrySnapshot call.now vehicle.id status
    syncFaultLifecycle call (webhookIngest provider vehicle.id body status)
    return ingestedAt call.now provider (status.lastSyncedAt.getD (toISOString call.now))

section Smartcar

variable (runtime : Runtime) (now : Int) (payload : JsRecord)

/-- The record of a field, from the payload itself or else from its data. -/
def recordOf (name dataName : String) : JsValue :=
  if hasKeys runtime.keys (payload name) then payload name
  else asRecord (payload "data") dataName

def ofNumber : Option ℚ → JsValue
  | some value => .number (.finite value)
  | none => .null

/-- `numberOrNull(record[name]) ?? numberOrNull(record[other])`. -/
def numberOf (record : JsRecord) (name other : String) : Option ℚ :=
  (numberOrNull (record name)).or (numberOrNull (record other))

def extractSmartcarWebhookTimestamp : Except TelemetryException DateText :=
  match asRecord (payload "meta") "deliveredAt" with
  | .number (.finite deliveredAt) =>
    match runtime.engine.toDate (.number (.finite deliveredAt)) with
    | some milliseconds => .ok (toISOString milliseconds)
    | none => .error .internal
  | _ =>
    let data := asRecord (payload "data")
    let text := ((dateText runtime.engine (payload "timestamp")).or
      (dateText runtime.engine (data "timestamp"))).or (dateText runtime.engine (data "eventTime"))
    .ok (text.getD (toISOString now))

def extractSmartcarBatteryFromWebhook : JsValue :=
  let resolved := asRecord (recordOf runtime payload "battery" "battery")
  .object ((JsRecord.empty.with "soc" (ofNumber (numberOf resolved "soc" "percentRemaining"))).with
    "estimatedRangeKm" (ofNumber (numberOf resolved "estimatedRangeKm" "range")))

def extractSmartcarLocationFromWebhook : JsValue :=
  let value := recordOf runtime payload "gps" "location"
  if hasKeys runtime.keys value then
    let resolved := asRecord value
    .object ((JsRecord.empty.with "latitude" (ofNumber (numberOrNull (resolved "latitude")))).with
      "longitude" (ofNumber (numberOrNull (resolved "longitude"))))
  else .null

def extractSmartcarOdometerFromWebhook : JsValue :=
  let resolved := asRecord (recordOf runtime payload "odometer" "odometer")
  .object (JsRecord.empty.with "totalKm" (ofNumber (numberOf resolved "totalKm" "distance")))

def ChargingStatus.text : ChargingStatus → String
  | idle => "IDLE"
  | charging => "CHARGING"
  | completed => "COMPLETED"
  | faulted => "FAULTED"

def extractSmartcarChargingFromWebhook : JsValue :=
  let resolved := asRecord (recordOf runtime payload "charging" "charge")
  let status :=
    match textOrNull (resolved "status") with
    | some text => chargingStatusOf text
    | none => mapSmartcarChargeState (stringOrNull (resolved "state"))
  let limit := (numberOrNull (resolved "chargeLimitPercent")).or
    ((numberOrNull (resolved "limit")).map fun limit => JsNumber.toFixed 2 (limit * 100))
  .object (((JsRecord.empty.with "status" ((status.map ChargingStatus.text).elim .null .string)).with
    "isPluggedIn" ((boolOrNull (resolved "isPluggedIn")).elim .null .boolean)).with
      "chargeLimitPercent" (ofNumber limit))

def smartcarWebhookBody (vehicleId providerVehicleId : String) (lastSyncedAt : DateText) :
    WebhookBody where
  vehicleId := some vehicleId
  providerVehicleId := some providerVehicleId
  lastSyncedAt := some lastSyncedAt
  battery := extractSmartcarBatteryFromWebhook runtime payload
  gps := extractSmartcarLocationFromWebhook runtime payload
  odometer := extractSmartcarOdometerFromWebhook runtime payload
  charging := extractSmartcarChargingFromWebhook runtime payload
  faults := .undefined
  sources := .undefined

/-- `text.includes(part)`. -/
def includes (text part : String) : Bool :=
  part.toList <:+: text.toList

/-- The status of a command that a webhook reports, if it reports one. -/
def commandStatusOf : Option String :=
  let data := asRecord (payload "data")
  let raw := ((textOrNull (payload "status")).or (textOrNull (data "status"))).or
    (textOrNull (data "eventType"))
  raw.bind fun text =>
    let normalized := toUpperCase (trim text)
    if normalized = "FAILED" || includes normalized "ERROR" then some "Failed"
    else if normalized = "CONFIRMED" || normalized = "COMPLETED" ||
        includes normalized "STOPPED" then some "Confirmed"
    else if normalized = "SENT" then some "Sent"
    else if normalized = "QUEUED" then some "Queued"
    else none

def applySmartcarCommandWebhookStatus (vehicleId commandId : String) : TelemetryRequest Unit :=
  match commandStatusOf payload with
  | none => pure ()
  | some status => execute (.updateCommand vehicleId commandId status now)

/-- The vehicle as the provider calls it. -/
def smartcarVehicleId : Option String :=
  ((textOrNull (payload "vehicleId")).or
    (textOrNull (asRecord (asRecord (payload "data") "vehicle") "id"))).or
      (textOrNull (payload "providerVehicleId"))

/-- A webhook that is not for verification. -/
def ingestSmartcarEvent (call : TelemetryCall) : TelemetryRequest TelemetryAnswer :=
  match smartcarVehicleId payload with
  | none => Request.throw (.badRequest "Smartcar webhook payload missing vehicleId")
  | some vehicleId => do
    let found ← resolveVehicleForWebhook (stringOrNull (payload "vehicleId")) (some vehicleId)
      .smartcar
    match found with
    | none => Request.throw (.notFound "Vehicle not found for Smartcar webhook payload")
    | some vehicle => do
      Request.ofExcept (assertGate (runtime.gates vehicle.organizationId).webhooks
        "Telemetry webhooks are disabled for this tenant")
      let lastSyncedAt ← Request.ofExcept
        (extractSmartcarWebhookTimestamp runtime call.now payload)
      let _ ← ingestProviderWebhook runtime call .smartcar
        (smartcarWebhookBody runtime payload vehicle.id vehicleId lastSyncedAt)
      match textOrNull (payload "commandId") with
      | some commandId =>
        applySmartcarCommandWebhookStatus call.now payload vehicle.id commandId
      | none => pure ()
      return ingestedAt call.now .smartcar lastSyncedAt

def ingestSmartcarWebhook (call : TelemetryCall) : TelemetryRequest TelemetryAnswer :=
  if call.signatureIsValid then
    if stringOrNull (payload "eventType") = some "VERIFY" then
      match textOrNull (asRecord (payload "data") "challenge") with
      | none => Request.throw (.badRequest "VERIFY event missing challenge")
      | some challenge => do
        let text ← Request.ofExcept (runtime.buildVerifyChallengeResponse challenge)
        return .challenge text
    else ingestSmartcarEvent runtime payload call
  else Request.throw (.unauthorized "Invalid Smartcar webhook signature")

end Smartcar

end Csms.Telemetry
