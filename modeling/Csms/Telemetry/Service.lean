import Csms.Telemetry.Store

/-!
# Telemetry requests

Providers push telemetry to webhooks, and the service pulls it when someone asks for the
status of a vehicle and when it polls the fleet.  In each case it writes a snapshot, the
latest status and the faults of the vehicle, one statement after the other.
-/

namespace Csms.Telemetry

open Database Js

inductive TelemetryException where
  | badRequest (message : String)
  | unauthorized (message : String)
  | forbidden (message : String)
  | notFound (message : String)
  /-- Anything the framework turns into a 500. -/
  | internal
  deriving DecidableEq, Repr

structure TelemetryFeatureGates where
  (reads webhooks : Bool)

structure Runtime where
  engine : Engine
  /-- `Object.keys`. -/
  keys : JsRecord → List String
  /-- The gates of a tenant, as they are configured. -/
  gates : Option String → TelemetryFeatureGates
  buildVerifyChallengeResponse : String → Except TelemetryException String

/-- What Smartcar answers when it is asked for the status of a vehicle. -/
structure SmartcarStatusSnapshot where
  providerVehicleId : String
  (batterySoc rangeKm : Option ℚ)
  isPluggedIn : Option Bool
  chargeState : Option String
  (chargeLimitPercent odometerKm latitude longitude : Option ℚ)

/-- What comes with a request, and what it gets from elsewhere. -/
structure TelemetryCall where
  context : Option TenantContext
  now : Int
  /-- The ids that the database chooses for new rows. -/
  newId : Nat → String
  /-- `verifyWebhookSignature`. -/
  signatureIsValid : Bool
  issueToken : Except TelemetryException Unit
  fetchStatus : Except TelemetryException SmartcarStatusSnapshot
  /-- `Math.sin(Date.now() / 90_000)`. -/
  wave : ℚ

inductive TelemetryQuery where
  | vehicle (id : String)
  | vehicles
  | user (id : String)
  | membership (userId organizationId : String)
  | latest (vehicleId : String)
  | source (vehicleId : Option String) (provider : TelemetryProvider)
      (providerVehicleId : Option String)
  /-- The unresolved faults, before a report is compared with them. -/
  | unresolvedFaults (ingest : Ingest)
  deriving DecidableEq

abbrev TelemetryRequest (α : Type) :=
  Request Store TelemetryQuery TelemetryWrite (fun _ => Unit) TelemetryException α

/-- A statement; when it fails, the request fails. -/
def execute (write : TelemetryWrite) : TelemetryRequest Unit :=
  Request.commit write .internal

def findVehicle (id : String) : TelemetryRequest (Option Vehicle) :=
  Request.read (.vehicle id) fun store => store.vehicles.find? id

def findUser (id : String) : TelemetryRequest (Option User) :=
  Request.read (.user id) fun store => store.users.find? id

def findMembership (userId organizationId : String) : TelemetryRequest (Option Membership) :=
  Request.read (.membership userId organizationId) fun store =>
    store.memberships.find? fun membership =>
      membership.userId = userId && membership.organizationId = organizationId &&
        membership.status = "ACTIVE"

def findLatest (vehicleId : String) : TelemetryRequest (Option TelemetryRow) :=
  Request.read (.latest vehicleId) (Store.latestTable.find? vehicleId)

def findSource (vehicleId : Option String) (provider : TelemetryProvider)
    (providerVehicleId : Option String) : TelemetryRequest (Option TelemetrySource) :=
  Request.read (.source vehicleId provider providerVehicleId) fun store =>
    store.latestSource fun source =>
      source.provider = provider && source.enabled &&
        vehicleId.all (source.vehicleId = ·) &&
          providerVehicleId.all fun id => source.providerVehicleId = some id

def resolveSmartcarSource (vehicleId : String) (providerId : Option String) :
    TelemetryRequest (Option TelemetrySource) :=
  findSource (some vehicleId) .smartcar (orText providerId none)

def resolveProviderVehicleId (vehicleId : String) (provider : TelemetryProvider) :
    TelemetryRequest (Option String) := do
  let source ← findSource (some vehicleId) provider none
  return orText (source.bind TelemetrySource.providerVehicleId) none

def resolveVehicleForWebhook (vehicleId providerVehicleId : Option String)
    (provider : TelemetryProvider) : TelemetryRequest (Option Vehicle) :=
  match orText vehicleId none with
  | some id => findVehicle id
  | none =>
    match orText providerVehicleId none with
    | none => pure none
    | some id => do
      let source ← findSource none provider (some id)
      match source with
      | some source => findVehicle source.vehicleId
      | none => pure none

def platformAdminRoles : List String :=
  ["SUPER_ADMIN", "EVZONE_ADMIN"]

def assertGate (isOpen : Bool) (message : String) : Except TelemetryException Unit :=
  if isOpen then .ok () else .error (.forbidden message)

def assertMembership (context : Option TenantContext) (organizationId : String)
    (membership : Option Membership) : Except TelemetryException Unit :=
  match membership with
  | none =>
    .error (.forbidden "User must be an active tenant member for this vehicle scope")
  | some _ =>
    match orText (TenantContext.resolve context none) none with
    | some tenantId =>
      if tenantId ≠ organizationId then
        .error (.forbidden "Active tenant context does not match vehicle tenant")
      else .ok ()
    | none => .ok ()

/-- `assertTenantAccess` for reading. -/
def assertTenantAccess (call : TelemetryCall) (userId organizationId : String) :
    TelemetryRequest Unit := do
  let user ← findUser userId
  if ((user.bind User.role).any fun role => platformAdminRoles.contains role) = true then
    pure ()
  else do
    let membership ← findMembership userId organizationId
    Request.ofExcept (assertMembership call.context organizationId membership)

/-- `findAccessibleVehicle` for reading. -/
def findAccessibleVehicle (call : TelemetryCall) (vehicleId userId : String) :
    TelemetryRequest Vehicle := do
  let found ← findVehicle vehicleId
  match found with
  | none => Request.throw (.notFound "Vehicle not found")
  | some vehicle =>
    match orText vehicle.organizationId none with
    | some organizationId => do
      assertTenantAccess call userId organizationId
      return vehicle
    | none =>
      if vehicle.userId ≠ userId then Request.throw (.forbidden "Not your vehicle")
      else pure vehicle

def toUnifiedTelemetryFromLatest (now : Int) (vehicleId : String) (latest : TelemetryRow) :
    UnifiedTelemetryData :=
  let providerId := (orText latest.providerVehicleId none).getD vehicleId
  -- the column is a `Date`, which is not a text, so the time is always now
  let lastSyncedAt := toISOString now
  let fallback := buildLineage now latest.provider (some providerId) (some lastSyncedAt)
  let onGps := latest.gps.map fun _ => fallback
  { vehicleId
    provider := latest.provider
    providerId := some providerId
    lastSyncedAt := some lastSyncedAt
    battery := latest.battery
    gps := latest.gps
    odometer := latest.odometer
    faults := latest.faults
    charging := latest.charging
    sources :=
      { battery := latest.sources.battery.or (some fallback)
        gps := latest.sources.gps.or onGps
        odometer := latest.sources.odometer.or (some fallback)
        faults := latest.sources.faults.or (some fallback)
        charging := latest.sources.charging.or (some fallback)
        signals :=
          { batterySoc := latest.sources.signals.batterySoc.or (some fallback)
            batterySoh := latest.sources.signals.batterySoh.or (some fallback)
            hvCurrent := latest.sources.signals.hvCurrent.or (some fallback)
            hvVoltage := latest.sources.signals.hvVoltage.or (some fallback)
            gpsSpeed := latest.sources.signals.gpsSpeed.or onGps
            gpsHeading := latest.sources.signals.gpsHeading.or onGps } } }

/-- The lineages of signals without a position, or with one. -/
def sourcesOf (lineage : TelemetrySourceLineage) (hasGps : Bool) : TelemetrySources where
  battery := some lineage
  gps := if hasGps then some lineage else none
  odometer := some lineage
  faults := some lineage
  charging := some lineage
  signals :=
    { TelemetrySignals.all (some lineage) with
      gpsSpeed := if hasGps then some lineage else none
      gpsHeading := if hasGps then some lineage else none }

def emptyTelemetry (now : Int) (vehicleId : String) (provider : TelemetryProvider)
    (providerId : String) : UnifiedTelemetryData where
  vehicleId := vehicleId
  provider := provider
  providerId := some providerId
  lastSyncedAt := some (toISOString now)
  battery := TelemetryBattery.unknown
  gps := none
  odometer := TelemetryOdometer.unknown
  faults := []
  charging := TelemetryCharging.unknown
  sources := sourcesOf (buildLineage now provider (some providerId) (some (toISOString now))) false

def mapSmartcarChargeState (value : Option String) : Option ChargingStatus :=
  match toUpperCase (trim (value.getD "")) with
  | "CHARGING" => some .charging
  | "FULLY_CHARGED" => some .completed
  | "NOT_CHARGING" => some .idle
  | _ => none

def buildSmartcarUnifiedTelemetry (now : Int) (vehicleId : String)
    (snapshot : SmartcarStatusSnapshot) : UnifiedTelemetryData :=
  let lineage := buildLineage now .smartcar (some snapshot.providerVehicleId)
    (some (toISOString now))
  let hasGps := snapshot.latitude.isSome && snapshot.longitude.isSome
  { vehicleId
    provider := .smartcar
    providerId := some snapshot.providerVehicleId
    lastSyncedAt := some (toISOString now)
    battery :=
      { TelemetryBattery.unknown with
        soc := snapshot.batterySoc
        estimatedRangeKm := snapshot.rangeKm }
    gps :=
      if hasGps then some ⟨snapshot.latitude, snapshot.longitude, none, none, none⟩ else none
    odometer := ⟨snapshot.odometerKm, none⟩
    faults := []
    charging :=
      { status := mapSmartcarChargeState snapshot.chargeState
        powerKw := none
        isPluggedIn := snapshot.isPluggedIn
        chargeLimitPercent := snapshot.chargeLimitPercent }
    sources := sourcesOf lineage hasGps }

/-- `socBase` of `SyntheticTelemetryAdapter`. -/
def socBase : TelemetryProvider → ℚ
  | .smartcar => 64
  | .enode => 61
  | .autopi => 58
  | .opendbc => 57
  | .mqttBms => 55
  | .obdDongle => 56
  | .oemApi => 63
  | .manualImport => 59
  | .mock => 62

/-- `fetchStatus` of `SyntheticTelemetryAdapter`. -/
def syntheticStatus (provider : TelemetryProvider) (now : Int) (wave : ℚ) (vehicleId : String)
    (providerVehicleId : Option String) (lastKnown : Option UnifiedTelemetryData) :
    UnifiedTelemetryData :=
  let providerId :=
    (orText providerVehicleId none).getD s!"{toLowerCase provider.text}:{vehicleId}"
  let lineage := buildLineage now provider (some providerId) (some (toISOString now))
  let gpsEnabled := provider = .autopi || provider = .opendbc || provider = .enode ||
    provider = .oemApi
  { vehicleId
    provider
    providerId := some providerId
    lastSyncedAt := some (toISOString now)
    battery :=
      { soh := (lastKnown.bind (·.battery.soh)).or (some (JsNumber.toFixed 2 (91 + wave)))
        soc := some (JsNumber.toFixed 2 (max 3 (min 100 (socBase provider + wave * 2))))
        temperatureC := some (JsNumber.toFixed 2 (31 + wave))
        voltageV := some (JsNumber.toFixed 2 (392 + wave * 4))
        currentA := some (JsNumber.toFixed 2 (16 + wave * 3))
        estimatedRangeKm := some (JsNumber.toFixed 1 (210 + wave * 15)) }
    gps :=
      if gpsEnabled then
        some
          { latitude := some (JsNumber.toFixed 6 (3476 / 10000 + wave * (2 / 10000)))
            longitude := some (JsNumber.toFixed 6 (325825 / 10000 + wave * (2 / 10000)))
            headingDeg := some (JsNumber.toFixed 1 (90 + wave * 12))
            speedKph := some (JsNumber.toFixed 1 (40 + wave * 8))
            altitudeM := some 1189 }
      else none
    odometer := ⟨some (JsNumber.toFixed 1 (12500 + wave * 2)), some (JsNumber.toFixed 1 (12 + wave * 2))⟩
    faults := (lastKnown.map (·.faults)).getD []
    charging :=
      { status := (lastKnown.bind (·.charging.status)).or (some .idle)
        powerKw := (lastKnown.bind (·.charging.powerKw)).or (some 0)
        isPluggedIn := (lastKnown.bind (·.charging.isPluggedIn)).or (some false)
        chargeLimitPercent := (lastKnown.bind (·.charging.chargeLimitPercent)).or (some 85) }
    sources := sourcesOf lineage gpsEnabled }

end Csms.Telemetry
