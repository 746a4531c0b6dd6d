import Csms.Provisioning.Service

/-!
# The charge points and what is kept in step with them

The rows of the charge points with their OCPP versions, the identities at the gateway, and the
locations that are published to roaming partners.  An operation writes to one of them after the
other, so one that fails can have written to the first.
-/

namespace Csms.Provisioning

open Js

structure PlacedStation extends Station where
  address : String
  (latitude longitude : JsNumber)
deriving DecidableEq

structure RegisteredChargePoint extends ChargePoint where
  status : String
  ocppVersion : OcppVersion
  type : String
  power : JsNumber
deriving DecidableEq

structure LocationConnector where
  (id standard format powerType : String)
  (maxVoltage maxAmperage : Nat)
  maxElectricPower : JsNumber
  tariffIds : List String
  lastUpdated : String
deriving DecidableEq

structure LocationEvse where
  (uid status : String)
  connectors : List LocationConnector
  lastUpdated : String
deriving DecidableEq

structure LocationDocument where
  (id countryCode partyId : String)
  publish : Bool
  (name address city : String)
  (latitude longitude : JsNumber)
  evses : List LocationEvse
  lastUpdated : String
deriving DecidableEq

structure OcpiPartnerLocation where
  (countryCode partyId locationId version : String)
  data : LocationDocument
  lastUpdated : Int
deriving DecidableEq

/-- What the unique index of the locations has. -/
def OcpiPartnerLocation.key (location : OcpiPartnerLocation) : String × String × String × String :=
  (location.countryCode, location.partyId, location.locationId, location.version)

/-- A certificate that was bound to the row of a charge point. -/
structure CertificateBinding where
  chargePointId : String
  certificate : Certificate
deriving DecidableEq

structure Registry where
  stations : Table PlacedStation fun station => station.id
  chargePoints : Table RegisteredChargePoint fun row => row.id
  /-- `ocppId` is unique. -/
  ocppIds : (chargePoints.rows.map fun row => row.ocppId).Nodup
  identities : String → Option RedisChargerIdentity
  locations : Table OcpiPartnerLocation OcpiPartnerLocation.key
  /-- The certificates that were bound to the rows there are.  Nothing stores this. -/
  bindings : List CertificateBinding

/-- With the settings of roaming. -/
structure RegistryRuntime extends ProvisioningRuntime where
  /-- `OCPI_COUNTRY_CODE` and `OCPI_PARTY_ID`. -/
  (countryCode partyId : Option String)
  toUpperCase : String → String

def RegistryRuntime.defaultCountryCode (runtime : RegistryRuntime) : String :=
  runtime.toUpperCase (trim ((orText runtime.countryCode none).getD "US"))

def RegistryRuntime.defaultPartyId (runtime : RegistryRuntime) : String :=
  runtime.toUpperCase (trim ((orText runtime.partyId none).getD "EVZ"))

/-- A call, and what the other stores do in it. -/
structure RegistryCall extends ProvisioningCall where
  /-- Redis answers; otherwise its client throws. -/
  redisAnswers : Bool
  /-- Rows of other tables refer to the charge point. -/
  isReferenced : String → Bool

/-- The registry that is left, and the answer. -/
abbrev Reply (α : Type) := Registry × Except HttpException α

def normalizeOcppVersion (version : Option String) : OcppVersion :=
  let normalized := toLowerCase (trim (version.getD ""))
  if normalized = "2.0.1" then .v201
  else if normalized = "2.1" then .v21
  else .v16

namespace Registry

section Writes

variable (registry : Registry)

def chargePointOf? (ocppId : String) : Option RegisteredChargePoint :=
  registry.chargePoints.rows.find? fun row => row.ocppId = ocppId

/-- A row whose id or `ocppId` is taken is refused. -/
def insertChargePoint? (row : RegisteredChargePoint) : Option Registry :=
  if taken : row.ocppId ∈ registry.chargePoints.rows.map fun other => other.ocppId then none
  else
    match inserted : registry.chargePoints.insert? row with
    | none => none
    | some chargePoints =>
      some { registry with
        chargePoints
        ocppIds := by
          rw [(Table.insert?_eq_some_iff.mp inserted).2, List.map_append, List.map_singleton,
            ← List.concat_eq_append]
          exact registry.ocppIds.concat taken }

def updateChargePoint (id : String) (change : RegisteredChargePoint → RegisteredChargePoint)
    (keepsId : ∀ row, (change row).id = row.id)
    (keepsOcppId : ∀ row, (change row).ocppId = row.ocppId) : Registry :=
  { registry with
    chargePoints := registry.chargePoints.updateWhere (fun row => row.id = id) change keepsId
    ocppIds := by
      have same := registry.chargePoints.map_updateWhere (fun row => row.id = id) change keepsId
        (fun row => row.ocppId) keepsOcppId
      rw [same]
      exact registry.ocppIds }

def deleteChargePoint (id : String) : Registry :=
  { registry with
    chargePoints := registry.chargePoints.deleteWhere fun row => row.id = id
    ocppIds := (List.filter_sublist.map _).nodup registry.ocppIds
    bindings := registry.bindings.filter fun binding => binding.chargePointId ≠ id }

def setIdentity (key : String) (identity : RedisChargerIdentity) : Registry :=
  { registry with identities := Function.update registry.identities key (some identity) }

end Writes

section Operations

variable (runtime : RegistryRuntime) (call : RegistryCall) (registry : Registry)

def getExistingChargePoint (id : String) : Except HttpException RegisteredChargePoint := do
  let owns ← call.scope
  match (registry.chargePoints.find? id).filter fun row => owns row.stationId with
  | none => .error (.notFound "Charge Point not found")
  | some chargePoint => .ok chargePoint

def provision (chargePoint : RegisteredChargePoint) (station : PlacedStation)
    (ocppVersion : OcppVersion) (options : Option ProvisioningOptions) : Reply Unit :=
  if chargePoint.ocppId = "" then (registry, .ok ())
  else if call.redisAnswers then
    let identity := Provisioning.provision runtime.provisioning call.now chargePoint.toChargePoint
      station.toStation ocppVersion options (registry.identities chargePoint.ocppId)
    (registry.setIdentity chargePoint.ocppId identity, .ok ())
  else (registry, .error .internal)

structure CreateDto extends CreateChargePointDto where
  type : Option String
  power : Option JsNumber

/-- What a creation writes, once it has passed its checks. -/
structure Creation where
  chargePoint : RegisteredChargePoint
  station : PlacedStation
  options : ProvisioningOptions
  bootstrapExpiresAt : Option Int

def creation (createDto : CreateDto) : Except HttpException Creation := do
  let owns ← call.scope
  let authProfile := createDto.authProfile.getD .basic
  let allowedIps := normalizeList createDto.allowedIps
  let allowedCidrs := normalizeList createDto.allowedCidrs
  let bootstrapTtlMinutes := runtime.station.resolveBootstrapTtl createDto.bootstrapTtlMinutes
  assertBootstrapAllowed runtime.toProvisioningRuntime authProfile allowedIps allowedCidrs
  match (registry.stations.find? createDto.stationId).filter fun station => owns station.id with
  | none => .error (.notFound "Station not found")
  | some station =>
    .ok {
      chargePoint :=
        { id := call.newChargePointId
          ocppId := createDto.ocppId
          stationId := station.id
          status := "Offline"
          ocppVersion := createDto.ocppVersion.getD .v16
          clientSecretHash := some call.secretHash
          clientSecretSalt := some call.secretSalt
          allowedInsecure := authProfile = .mtlsBootstrap
          type := (orText createDto.type none).getD "CCS2"
          power := (createDto.power.getD (.finite 0)).orElse (.finite 50) }
      station
      options := ⟨some authProfile, some bootstrapTtlMinutes, some allowedIps, some allowedCidrs⟩
      bootstrapExpiresAt :=
        if authProfile = .mtlsBootstrap then some (call.now + bootstrapTtlMinutes * 60000)
        else none }

def createChargePoint (createDto : CreateDto) : Reply (RegisteredChargePoint × Option Int) :=
  match creation runtime call registry createDto with
  | .error refused => (registry, .error refused)
  | .ok ⟨chargePoint, station, options, bootstrapExpiresAt⟩ =>
    match registry.insertChargePoint? chargePoint with
    | none => (registry, .error .internal)
    | some written =>
      let (provisioned, done) := written.provision runtime call chargePoint station
        chargePoint.ocppVersion (some options)
      (provisioned, done.map fun _ => (chargePoint, bootstrapExpiresAt))

/-- The station of chargers that nobody has created. -/
def unknownStation : Option (Registry × PlacedStation) :=
  match registry.stations.rows.find? fun station => station.name = "Unknown" with
  | some station => some (registry, station)
  | none =>
    let station : PlacedStation :=
      { id := call.newStationId
        name := "Unknown"
        siteOwnerId := none
        address := "N/A"
        latitude := .finite 0
        longitude := .finite 0 }
    (registry.stations.insert? station).map fun stations => ({ registry with stations }, station)

/-- The row of a charger that boots for the first time. -/
def unknownChargePoint (ocppId : String) (normalizedVersion : OcppVersion)
    (station : PlacedStation) : RegisteredChargePoint where
  id := call.newChargePointId
  ocppId := ocppId
  stationId := station.id
  status := "Online"
  ocppVersion := normalizedVersion
  clientSecretHash := none
  clientSecretSalt := none
  allowedInsecure := false
  type := "CCS2"
  power := .finite 50

/-- The columns that a boot writes. -/
def boot (normalizedVersion : OcppVersion) (row : RegisteredChargePoint) : RegisteredChargePoint :=
  { row with status := "Online", ocppVersion := normalizedVersion }

def handleBootNotification (ocppId : String) (ocppVersion : Option String) : Reply Unit :=
  let normalizedVersion := normalizeOcppVersion ocppVersion
  match registry.chargePointOf? ocppId with
  | none =>
    match unknownStation call registry with
    | none => (registry, .error .internal)
    | some (stationed, station) =>
      let chargePoint := unknownChargePoint call ocppId normalizedVersion station
      match stationed.insertChargePoint? chargePoint with
      | none => (stationed, .error .internal)
      -- the version is left to the default of `provision`
      | some written => written.provision runtime call chargePoint station .v16 none
  | some chargePoint =>
    match registry.stations.find? chargePoint.stationId with
    | none => (registry, .error .internal)
    | some station =>
      let written := registry.updateChargePoint chargePoint.id (boot normalizedVersion)
        (fun _ => rfl) fun _ => rfl
      written.provision runtime call (boot normalizedVersion chargePoint) station .v16 none

/-- The checks of a binding: the row, and the normalized fingerprint. -/
def bindable (id : String) (dto : BindChargePointCertificateDto) :
    Except HttpException (RegisteredChargePoint × String) := do
  let chargePoint ← getExistingChargePoint call registry id
  let normalizedFingerprint := normalizeFingerprint dto.fingerprint
  assertValidFingerprint normalizedFingerprint
  assertOptionalIsoDate runtime.toProvisioningRuntime dto.validFrom "validFrom"
  assertOptionalIsoDate runtime.toProvisioningRuntime dto.validTo "validTo"
  pure (chargePoint, normalizedFingerprint)

/-- The certificate that a binding adds to the identity. -/
def boundCertificate (chargePointId : String) (input : CertificateBindInput) : Certificate where
  fingerprint := some (normalizeFingerprint input.fingerprint)
  subject := input.subject
  validFrom := some ((orText input.validFrom none).getD (runtime.toISOString call.now))
  validTo := input.validTo
  chargePointId := some chargePointId

/-- The column that a binding writes. -/
def disallowInsecure (row : RegisteredChargePoint) : RegisteredChargePoint :=
  { row with allowedInsecure := false }

def bindChargePointCertificate (id : String) (dto : BindChargePointCertificateDto) :
    Reply (String × String × String) :=
  match bindable runtime call registry id dto with
  | .error refused => (registry, .error refused)
  | .ok (chargePoint, normalizedFingerprint) =>
    if call.redisAnswers then
      match registry.identities chargePoint.ocppId with
      | none =>
        (registry, .error (.badRequest ("Identity not found for " ++ chargePoint.ocppId)))
      | some identity =>
        let input : CertificateBindInput :=
          ⟨normalizedFingerprint, dto.subject, dto.validFrom, dto.validTo⟩
        let written := registry.setIdentity chargePoint.ocppId
          (bindCertificate call.now (runtime.toISOString call.now) chargePoint.ocppId input
            identity)
        let updated := written.updateChargePoint chargePoint.id disallowInsecure
          (fun _ => rfl) fun _ => rfl
        ({ updated with
            bindings := registry.bindings ++
              [⟨chargePoint.id, boundCertificate runtime call chargePoint.ocppId input⟩] },
          .ok (chargePoint.id, chargePoint.ocppId, normalizedFingerprint))
    else (registry, .error (.badRequest runtime.redisError))

def removeChargePoint (id : String) : Reply RegisteredChargePoint :=
  match getExistingChargePoint call registry id with
  | .error refused => (registry, .error refused)
  | .ok existing =>
    if call.isReferenced id then (registry, .error .internal)
    else (registry.deleteChargePoint id, .ok existing)

def buildPublishedLocationDocument (cp : RegisteredChargePoint) (station : Option PlacedStation) :
    LocationDocument where
  id := cp.id
  countryCode := runtime.defaultCountryCode
  partyId := runtime.defaultPartyId
  publish := true
  name := (orText (station.map fun station => station.name) none).getD cp.ocppId
  address := (orText (station.map PlacedStation.address) none).getD "Unknown address"
  city := "Kampala"
  latitude := (station.elim (.finite 0) PlacedStation.latitude).orElse (.finite 0)
  longitude := (station.elim (.finite 0) PlacedStation.longitude).orElse (.finite 0)
  evses :=
    [{ uid := cp.ocppId
       status := runtime.toUpperCase ((orText (some cp.status) none).getD "UNKNOWN")
       connectors :=
         [{ id := "1"
            standard := runtime.toUpperCase ((orText (some cp.type) none).getD "IEC_62196_T2")
            format := "SOCKET"
            powerType := "AC_3_PHASE"
            maxVoltage := 400
            maxAmperage := 32
            maxElectricPower := (cp.power.orElse (.finite 50)).thousandfold.round
            tariffIds := []
            lastUpdated := runtime.toISOString call.now }]
       lastUpdated := runtime.toISOString call.now }]
  lastUpdated := runtime.toISOString call.now

/-- A location of the charge point under the party's own codes. -/
def isPublication (chargePointId : String) (location : OcpiPartnerLocation) : Bool :=
  location.countryCode = runtime.defaultCountryCode && location.partyId = runtime.defaultPartyId &&
    location.locationId = chargePointId

def setChargePointRoamingPublication (chargePointId : String) (published : Bool) :
    Reply (String × Bool × String) :=
  match registry.chargePoints.find? chargePointId with
  | none => (registry, .error (.notFound "Charge point not found"))
  | some cp =>
    if published then
      let data := buildPublishedLocationDocument runtime call cp
        (registry.stations.find? cp.stationId)
      let location : OcpiPartnerLocation :=
        { countryCode := runtime.defaultCountryCode
          partyId := runtime.defaultPartyId
          locationId := chargePointId
          version := "2.2.1"
          data
          lastUpdated := call.now }
      ({ registry with
          locations := registry.locations.upsert location
            (fun existing => { existing with data, lastUpdated := call.now }) fun _ => rfl },
        .ok (chargePointId, true, runtime.toISOString call.now))
    else
      ({ registry with
          locations := registry.locations.deleteWhere (isPublication runtime chargePointId) },
        .ok (chargePointId, false, runtime.toISOString call.now))

end Operations

end Registry

inductive RegistryOperation
  | createChargePoint (createDto : Registry.CreateDto)
  | handleBootNotification (ocppId : String) (ocppVersion : Option String)
  | bindChargePointCertificate (id : String) (dto : BindChargePointCertificateDto)
  | removeChargePoint (id : String)
  | setChargePointRoamingPublication (chargePointId : String) (published : Bool)

structure RegistryAction where
  call : RegistryCall
  operation : RegistryOperation

/-- What the operation leaves, also when it throws. -/
def Registry.next (runtime : RegistryRuntime) (registry : Registry) (action : RegistryAction) :
    Registry :=
  match action.operation with
  | .createChargePoint createDto => (registry.createChargePoint runtime action.call createDto).1
  | .handleBootNotification ocppId ocppVersion =>
    (registry.handleBootNotification runtime action.call ocppId ocppVersion).1
  | .bindChargePointCertificate id dto =>
    (registry.bindChargePointCertificate runtime action.call id dto).1
  | .removeChargePoint id => (registry.removeChargePoint action.call id).1
  | .setChargePointRoamingPublication chargePointId published =>
    (registry.setChargePointRoamingPublication runtime action.call chargePointId published).1

end Csms.Provisioning
