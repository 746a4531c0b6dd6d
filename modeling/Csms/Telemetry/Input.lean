import Csms.Js.Value

/-!
# Vehicle telemetry

`TelemetryService` reads what providers report of a vehicle from untyped bodies, whatever
the provider's format.  A signal that is not there is `null`.
-/

namespace Csms.Telemetry

open Js

inductive TelemetryProvider where
  | smartcar
  | enode
  | autopi
  | opendbc
  | mqttBms
  | obdDongle
  | oemApi
  | manualImport
  | mock
  deriving DecidableEq, Repr

def TelemetryProvider.text : TelemetryProvider → String
  | smartcar => "SMARTCAR"
  | enode => "ENODE"
  | autopi => "AUTOPI"
  | opendbc => "OPENDBC"
  | mqttBms => "MQTT_BMS"
  | obdDongle => "OBD_DONGLE"
  | oemApi => "OEM_API"
  | manualImport => "MANUAL_IMPORT"
  | mock => "MOCK"

structure TelemetrySourceLineage where
  provider : TelemetryProvider
  providerId : Option String
  lastSyncedAt : Option DateText
  freshnessMs : Option ℚ
  isStale : Bool
  deriving DecidableEq

inductive FaultSeverity where
  | info
  | warning
  | critical
  deriving DecidableEq, Repr

structure FaultAlert where
  (id vehicleId code : String)
  severity : FaultSeverity
  description : String
  timestamp : DateText
  deriving DecidableEq

structure TelemetryBattery where
  (soh soc temperatureC voltageV currentA estimatedRangeKm : Option ℚ)
  deriving DecidableEq

structure TelemetryGps where
  (latitude longitude headingDeg speedKph altitudeM : Option ℚ)
  deriving DecidableEq

structure TelemetryOdometer where
  (totalKm tripKm : Option ℚ)
  deriving DecidableEq

inductive ChargingStatus where
  | idle
  | charging
  | completed
  | faulted
  deriving DecidableEq, Repr

structure TelemetryCharging where
  status : Option ChargingStatus
  powerKw : Option ℚ
  isPluggedIn : Option Bool
  chargeLimitPercent : Option ℚ
  deriving DecidableEq

structure TelemetrySignals where
  (batterySoc batterySoh hvCurrent hvVoltage gpsSpeed gpsHeading : Option TelemetrySourceLineage)
  deriving DecidableEq

structure TelemetrySources where
  (battery gps odometer faults charging : Option TelemetrySourceLineage)
  signals : TelemetrySignals
  deriving DecidableEq

/-- What is known of a vehicle. -/
structure UnifiedTelemetryData where
  vehicleId : String
  provider : TelemetryProvider
  providerId : Option String
  lastSyncedAt : Option DateText
  battery : TelemetryBattery
  gps : Option TelemetryGps
  odometer : TelemetryOdometer
  faults : List FaultAlert
  charging : TelemetryCharging
  sources : TelemetrySources
  deriving DecidableEq

def TelemetryBattery.unknown : TelemetryBattery :=
  ⟨none, none, none, none, none, none⟩

def TelemetryOdometer.unknown : TelemetryOdometer :=
  ⟨none, none⟩

def TelemetryCharging.unknown : TelemetryCharging :=
  ⟨none, none, none, none⟩

/-- `asRecord`; an array has no fields with names. -/
def asRecord : JsValue → JsRecord
  | .object fields => fields
  | _ => JsRecord.empty

def stringOrNull : JsValue → Option String
  | .string text => some text
  | _ => none

def numberOrNull : JsValue → Option ℚ
  | .number (.finite value) => some value
  | _ => none

def boolOrNull : JsValue → Option Bool
  | .boolean value => some value
  | _ => none

/-- `stringOrNull(value) || null`. -/
def textOrNull (value : JsValue) : Option String :=
  orText (stringOrNull value) none

/-- A provider as it is written in requests and in the database. -/
def providerFrom (value : JsValue) : TelemetryProvider :=
  match (stringOrNull value).map fun text => toUpperCase (trim text) with
  | some "SMARTCAR" => .smartcar
  | some "ENODE" => .enode
  | some "AUTOPI" => .autopi
  | some "OPENDBC" => .opendbc
  | some "MQTT_BMS" => .mqttBms
  | some "OBD_DONGLE" => .obdDongle
  | some "OEM_API" => .oemApi
  | some "MANUAL_IMPORT" => .manualImport
  | _ => .mock

def severityOf : String → Option FaultSeverity
  | "INFO" => some .info
  | "WARNING" => some .warning
  | "CRITICAL" => some .critical
  | _ => none

def chargingStatusOf : String → Option ChargingStatus
  | "IDLE" => some .idle
  | "CHARGING" => some .charging
  | "COMPLETED" => some .completed
  | "FAULTED" => some .faulted
  | _ => none

/-- A text from a body as a date: `new Date(text)`. -/
def dateText (engine : Engine) (value : JsValue) : Option DateText :=
  (textOrNull value).map engine.parseDateText

def telemetryStaleMs : Int :=
  60000

def computeFreshnessMs (now : Int) (lastSyncedAt : Option DateText) : Option ℚ :=
  (lastSyncedAt.bind dateParse).map fun parsed => ((max 0 (now - parsed) : Int) : ℚ)

def buildLineage (now : Int) (provider : TelemetryProvider) (providerId : Option String)
    (lastSyncedAt : Option DateText) : TelemetrySourceLineage :=
  let freshnessMs := computeFreshnessMs now lastSyncedAt
  { provider
    providerId
    lastSyncedAt
    freshnessMs
    isStale := freshnessMs.all fun age => decide ((telemetryStaleMs : ℚ) < age) }

def parseLineage (engine : Engine) (value : JsValue) : Option TelemetrySourceLineage :=
  let source := asRecord value
  (textOrNull (source "provider")).map fun provider =>
    { provider := providerFrom (.string provider)
      providerId := stringOrNull (source "providerId")
      lastSyncedAt := (stringOrNull (source "lastSyncedAt")).map engine.parseDateText
      freshnessMs := numberOrNull (source "freshnessMs")
      isStale := (source "isStale").isTruthy }

def TelemetrySignals.all (lineage : Option TelemetrySourceLineage) : TelemetrySignals where
  batterySoc := lineage
  batterySoh := lineage
  hvCurrent := lineage
  hvVoltage := lineage
  gpsSpeed := lineage
  gpsHeading := lineage

def normalizeSources (engine : Engine) (now : Int) (provider : TelemetryProvider)
    (providerId : Option String) (lastSyncedAt : DateText) (value : JsValue) : TelemetrySources :=
  let fallback := buildLineage now provider providerId (some lastSyncedAt)
  let sources := asRecord value
  let signals := asRecord (sources "signals")
  let orFallback (value : JsValue) : Option TelemetrySourceLineage :=
    some ((parseLineage engine value).getD fallback)
  { battery := orFallback (sources "battery")
    gps := orFallback (sources "gps")
    odometer := orFallback (sources "odometer")
    faults := orFallback (sources "faults")
    charging := orFallback (sources "charging")
    signals :=
      { batterySoc := orFallback (signals "batterySoc")
        batterySoh := orFallback (signals "batterySoh")
        hvCurrent := orFallback (signals "hvCurrent")
        hvVoltage := orFallback (signals "hvVoltage")
        gpsSpeed := orFallback (signals "gpsSpeed")
        gpsHeading := orFallback (signals "gpsHeading") } }

def normalizeBattery (value : JsValue) : TelemetryBattery :=
  let battery := asRecord value
  { soh := numberOrNull (battery "soh")
    soc := numberOrNull (battery "soc")
    temperatureC := numberOrNull (battery "temperatureC")
    voltageV := numberOrNull (battery "voltageV")
    currentA := numberOrNull (battery "currentA")
    estimatedRangeKm := numberOrNull (battery "estimatedRangeKm") }

/-- `Object.keys(asRecord(value)).length` is not zero. -/
def hasKeys (keys : JsRecord → List String) : JsValue → Bool
  | .object fields => keys fields ≠ []
  | .array items => items.length ≠ 0
  | _ => false

def normalizeGps (keys : JsRecord → List String) (value : JsValue) : Option TelemetryGps :=
  if hasKeys keys value then
    let gps := asRecord value
    some
      { latitude := numberOrNull (gps "latitude")
        longitude := numberOrNull (gps "longitude")
        headingDeg := numberOrNull (gps "headingDeg")
        speedKph := numberOrNull (gps "speedKph")
        altitudeM := numberOrNull (gps "altitudeM") }
  else none

def normalizeOdometer (value : JsValue) : TelemetryOdometer :=
  let odometer := asRecord value
  { totalKm := numberOrNull (odometer "totalKm")
    tripKm := numberOrNull (odometer "tripKm") }

def normalizeCharging (value : JsValue) : TelemetryCharging :=
  let charging := asRecord value
  { status := (textOrNull (charging "status")).bind chargingStatusOf
    powerKw := numberOrNull (charging "powerKw")
    isPluggedIn := boolOrNull (charging "isPluggedIn")
    chargeLimitPercent := numberOrNull (charging "chargeLimitPercent") }

/-- An entry of a fault list, unless it has no severity. -/
def normalizeFault (engine : Engine) (now : Int) (vehicleId : String) (item : JsValue)
    (index : Nat) : Option FaultAlert :=
  let row := asRecord item
  ((stringOrNull (row "severity")).bind severityOf).map fun severity =>
    { id := (textOrNull (row "id")).getD s!"{vehicleId}_fault_{index}"
      vehicleId := (textOrNull (row "vehicleId")).getD vehicleId
      code := (textOrNull (row "code")).getD "UNKNOWN"
      severity
      description := (textOrNull (row "description")).getD "Unknown fault"
      timestamp := (dateText engine (row "timestamp")).getD (toISOString now) }

/-- `Array.isArray`. -/
def isArray : JsValue → Bool
  | .array _ => true
  | _ => false

def normalizeFaults (engine : Engine) (now : Int) (vehicleId : String) : JsValue → List FaultAlert
  | .array items => (items.zipIdx.map fun entry =>
    normalizeFault engine now vehicleId entry.1 entry.2).reduceOption
  | _ => []

end Csms.Telemetry
