import Csms.Commands.Core
import Csms.Database.Executed
import Csms.Provisioning.Identity
import Csms.Table.Upsert

/-!
# The service of the charge points

Charge points are created, boot, get certificates bound and have their bootstrap updated.  Each of
these reads the identity of the charger, writes the whole of it, and writes the row of the charge
point as a step of its own.
-/

namespace Csms.Provisioning

open Js Database

/-- The database, and what Redis has for the chargers. -/
structure Store where
  stations : Table Station Station.id
  chargePoints : Table ChargePoint ChargePoint.id
  identities : String → Option RedisChargerIdentity

namespace Store

variable (store : Store)

def chargePointOf? (ocppId : String) : Option ChargePoint :=
  store.chargePoints.rows.find? fun row => row.ocppId = ocppId

end Store

/-- What the environment and the libraries supply. -/
structure ProvisioningRuntime where
  enableNoAuthBootstrap : Bool
  /-- The minutes as the service of the stations reads them, and as the provisioning does. -/
  (station provisioning : BootstrapConfig)
  /-- `isIP`: 4, 6 or 0. -/
  isIP : String → Nat
  /-- `Number(text)`. -/
  number : String → JsNumber
  /-- `Date.parse` of a text. -/
  dateParse : String → Option Int
  toISOString : Int → String
  /-- The message of a failure of Redis. -/
  redisError : String

/-- What a request has besides its arguments. -/
structure ProvisioningCall where
  now : Int
  /-- Which stations are the tenant's, if there is a scope for the tenant. -/
  scope : Except HttpException (String → Bool)
  (newStationId newChargePointId secretHash secretSalt : String)

inductive ProvisioningQuery
  | chargePoint
  | station
  | identity

inductive ProvisioningWrite
  | createStation (row : Station)
  | createChargePoint (row : ChargePoint)
  /-- Columns of the boot are written; the row with its station is the result. -/
  | bootChargePoint (id : String)
  /-- For the charge point with the id, and with the identity that was read. -/
  | setIdentity (id key : String) (existing : Option RedisChargerIdentity)
      (change : IdentityChange)
  | setAllowedInsecure (id : String) (allowed : Bool)
  | removeChargePoint (id : String)

namespace ProvisioningWrite

/-- What a write gives back. -/
@[reducible]
def Result : ProvisioningWrite → Type
  | bootChargePoint _ => ChargePoint × Station
  | _ => Unit

def effect (runtime : ProvisioningRuntime) :
    (write : ProvisioningWrite) → Store → Option (Store × write.Result)
  | createStation row, store =>
    (store.stations.insert? row).map fun stations => ({ store with stations }, ())
  | createChargePoint row, store =>
    if (store.chargePointOf? row.ocppId).isSome then none
    else (store.chargePoints.insert? row).map fun chargePoints =>
      ({ store with chargePoints }, ())
  | bootChargePoint id, store => do
    let chargePoint ← store.chargePoints.find? id
    let station ← store.stations.find? chargePoint.stationId
    some (store, (chargePoint, station))
  | setIdentity _ key existing change, store =>
    match change.apply runtime.provisioning key existing with
    | .ok identity =>
      some ({ store with identities := Function.update store.identities key (some identity) },
        ())
    | .error _ => none
  | setAllowedInsecure id allowed, store =>
    (store.chargePoints.find? id).map fun _ =>
      ({ store with
        chargePoints := store.chargePoints.updateWhere (fun row => row.id = id)
          (fun row => { row with allowedInsecure := allowed }) fun _ => rfl }, ())
  | removeChargePoint id, store =>
    (store.chargePoints.find? id).map fun _ =>
      ({ store with chargePoints := store.chargePoints.deleteWhere fun row => row.id = id }, ())

/-- When an identity was written, by the clock of the request. -/
def time? : ProvisioningWrite → Option Int
  | setIdentity _ _ _ change => some change.now
  | _ => none

theorem setIdentity_eq_some_iff {runtime : ProvisioningRuntime} {id key : String}
    {existing : Option RedisChargerIdentity} {change : IdentityChange} {store after : Store} :
    (setIdentity id key existing change).effect runtime store = some (after, ()) ↔
      ∃ identity, change.apply runtime.provisioning key existing = .ok identity ∧
        after = { store with
          identities := Function.update store.identities key (some identity) } := by
  cases applied : change.apply runtime.provisioning key existing <;>
    simp [effect, applied, eq_comm]

theorem identities_of_effect {runtime : ProvisioningRuntime} {write : ProvisioningWrite}
    {store after : Store} {result : write.Result} (isOther : write.time? = none)
    (happens : write.effect runtime store = some (after, result)) :
    after.identities = store.identities := by
  cases write with
  | createStation | setAllowedInsecure | removeChargePoint =>
    obtain ⟨_, _, done⟩ := Option.map_eq_some_iff.mp happens
    cases done
    rfl
  | createChargePoint row =>
    rw [effect] at happens
    split at happens
    · contradiction
    · obtain ⟨_, _, done⟩ := Option.map_eq_some_iff.mp happens
      cases done
      rfl
  | bootChargePoint id =>
    obtain ⟨_, _, happens⟩ := Option.bind_eq_some_iff.mp happens
    obtain ⟨_, _, done⟩ := Option.bind_eq_some_iff.mp happens
    cases done
    rfl
  | setIdentity id key existing change => contradiction

def body (runtime : ProvisioningRuntime) (write : ProvisioningWrite) : Tx Store Unit write.Result :=
  .atomic (write.effect runtime)

theorem run_body (runtime : ProvisioningRuntime) (write : ProvisioningWrite) (store : Store) :
    (write.body runtime).run store = write.effect runtime store :=
  Tx.run_atomic _ store

theorem guarded (runtime : ProvisioningRuntime) (write : ProvisioningWrite) :
    (write.body runtime).Guarded (fun _ : Unit => ⊥) [] :=
  Tx.guarded_atomic _

end ProvisioningWrite

abbrev ProvisioningRequest (α : Type) :=
  Request Store ProvisioningQuery ProvisioningWrite ProvisioningWrite.Result HttpException α

def ProvisioningWrite.commit (write : ProvisioningWrite) (failure : HttpException) :
    ProvisioningRequest write.Result :=
  Request.commit write failure

section Checks

variable (runtime : ProvisioningRuntime)

def assertValidFingerprint (value : String) : Except HttpException Unit :=
  if isFingerprint value then .ok ()
  else .error (.badRequest "fingerprint must be a SHA-256 hex value")

def assertOptionalIsoDate (value : Option String) (field : String) : Except HttpException Unit :=
  match orText value none with
  | none => .ok ()
  | some value =>
    if (runtime.dateParse value).isSome then .ok ()
    else .error (.badRequest (field ++ " must be a valid ISO datetime"))

def assertValidCidr (value : String) : Except HttpException Unit :=
  match (value.toList.splitOn '/').map String.ofList with
  | ipRaw :: prefixRaw :: _ =>
    if ipRaw = "" then .error (.badRequest ("Invalid CIDR entry: " ++ value))
    else
      let version := runtime.isIP (trim ipRaw)
      let maxPrefix : Int := if version = 4 then 32 else 128
      if version = 0 then .error (.badRequest ("Invalid CIDR IP: " ++ value))
      else
        match runtime.number prefixRaw with
        | .finite bits =>
          if bits.den = 1 ∧ 0 ≤ bits ∧ bits ≤ maxPrefix then .ok ()
          else .error (.badRequest ("Invalid CIDR prefix: " ++ value))
        | _ => .error (.badRequest ("Invalid CIDR prefix: " ++ value))
  | _ => .error (.badRequest ("Invalid CIDR entry: " ++ value))

/-- All of them, until one throws. -/
def assertValidCidrs : List String → Except HttpException Unit
  | [] => .ok ()
  | cidr :: cidrs => do
    assertValidCidr runtime cidr
    assertValidCidrs cidrs

def assertBootstrapAllowed (authProfile : ChargePointAuthProfile)
    (allowedIps allowedCidrs : List String) : Except HttpException Unit :=
  match authProfile with
  | .basic => .ok ()
  | .mtlsBootstrap =>
    if !runtime.enableNoAuthBootstrap then
      .error (.badRequest "No-password bootstrap is currently disabled")
    else if allowedIps = [] ∧ allowedCidrs = [] then
      .error (.badRequest
        "allowedIps or allowedCidrs is required when authProfile is mtls_bootstrap")
    else assertValidCidrs runtime allowedCidrs

end Checks

structure CreateChargePointDto where
  (ocppId stationId : String)
  ocppVersion : Option OcppVersion
  authProfile : Option ChargePointAuthProfile
  bootstrapTtlMinutes : Option Int
  (allowedIps allowedCidrs : Option (List String))

structure BindChargePointCertificateDto where
  fingerprint : String
  (subject validFrom validTo : Option String)

structure UpdateChargePointBootstrapDto where
  enabled : Bool
  ttlMinutes : Option Int
  (allowedIps allowedCidrs : Option (List String))

inductive SecurityProfile
  | basic
  | mtlsBootstrap
  | mtls
deriving DecidableEq

structure SecurityState where
  authProfile : SecurityProfile
  bootstrapEnabled : Bool
  bootstrapExpiresAt : Option Int
  (allowedIps allowedCidrs : List String)
  requiresClientCertificate : Bool
  certificatesCount : Nat

def securityState (identity : Option RedisChargerIdentity) : SecurityState :=
  match identity with
  | none => ⟨.basic, false, none, [], [], false, 0⟩
  | some identity =>
    let unbound : SecurityProfile := if identity.isBootstrapOn then .mtlsBootstrap else .basic
    let profile := if identity.auth.type = some .mtls then .mtls else unbound
    { authProfile := profile
      bootstrapEnabled := identity.isBootstrapOn
      bootstrapExpiresAt := identity.auth.noAuthUntil
      allowedIps := normalizeList identity.allowedIps
      allowedCidrs := normalizeList identity.allowedCidrs
      requiresClientCertificate := profile ≠ .basic
      certificatesCount := (identity.auth.certificates.getD []).length }

inductive ProvisioningAnswer
  | created (chargePoint : ChargePoint) (bootstrapExpiresAt : Option Int)
  | certificateBound (chargePointId ocppId fingerprint : String)
  | bootstrapUpdated (chargePointId ocppId : String) (security : SecurityState)
  | booted
  | removed (chargePoint : ChargePoint)

section Requests

variable (runtime : ProvisioningRuntime) (call : ProvisioningCall)

def getExistingChargePoint (id : String) : ProvisioningRequest ChargePoint := do
  let owns ← Request.ofExcept call.scope
  let found ← Request.read .chargePoint fun store =>
    (store.chargePoints.find? id).filter fun row => owns row.stationId
  match found with
  | none => .throw (.notFound "Charge Point not found")
  | some chargePoint => pure chargePoint

/-- Read the identity of a charge point, and write what the change makes of it. -/
def changeIdentity (id key : String) (change : IdentityChange) (failure : HttpException) :
    ProvisioningRequest Unit := do
  let existing ← Request.read .identity fun store => store.identities key
  match change.apply runtime.provisioning key existing with
  | .error message => .throw (.badRequest message)
  | .ok _ => (ProvisioningWrite.setIdentity id key existing change).commit failure

def provisionChargePoint (chargePoint : ChargePoint) (station : Station)
    (ocppVersion : OcppVersion) (options : Option ProvisioningOptions) : ProvisioningRequest Unit :=
  if chargePoint.ocppId = "" then pure ()
  else changeIdentity runtime chargePoint.id chargePoint.ocppId
    (.provision call.now chargePoint station ocppVersion options) .internal

def createChargePoint (createDto : CreateChargePointDto) :
    ProvisioningRequest ProvisioningAnswer := do
  let owns ← Request.ofExcept call.scope
  let authProfile := createDto.authProfile.getD .basic
  let allowedIps := normalizeList createDto.allowedIps
  let allowedCidrs := normalizeList createDto.allowedCidrs
  let bootstrapTtlMinutes := runtime.station.resolveBootstrapTtl createDto.bootstrapTtlMinutes
  Request.ofExcept (assertBootstrapAllowed runtime authProfile allowedIps allowedCidrs)
  let ocppVersion := createDto.ocppVersion.getD .v16
  let found ← Request.read .station fun store =>
    (store.stations.find? createDto.stationId).filter fun station => owns station.id
  match found with
  | none => .throw (.notFound "Station not found")
  | some station => do
    let chargePoint : ChargePoint :=
      { id := call.newChargePointId
        ocppId := createDto.ocppId
        stationId := station.id
        clientSecretHash := some call.secretHash
        clientSecretSalt := some call.secretSalt
        allowedInsecure := authProfile = .mtlsBootstrap }
    let _ ← (ProvisioningWrite.createChargePoint chargePoint).commit .internal
    let _ ← provisionChargePoint runtime call chargePoint station ocppVersion
      (some ⟨some authProfile, some bootstrapTtlMinutes, some allowedIps, some allowedCidrs⟩)
    pure (.created chargePoint
      (if authProfile = .mtlsBootstrap then some (call.now + bootstrapTtlMinutes * 60000)
        else none))

def bindChargePointCertificate (id : String) (dto : BindChargePointCertificateDto) :
    ProvisioningRequest ProvisioningAnswer := do
  let chargePoint ← getExistingChargePoint call id
  let normalizedFingerprint := normalizeFingerprint dto.fingerprint
  Request.ofExcept (assertValidFingerprint normalizedFingerprint)
  Request.ofExcept (assertOptionalIsoDate runtime dto.validFrom "validFrom")
  Request.ofExcept (assertOptionalIsoDate runtime dto.validTo "validTo")
  changeIdentity runtime chargePoint.id chargePoint.ocppId
    (.bindCertificate call.now (runtime.toISOString call.now) chargePoint.ocppId
      ⟨normalizedFingerprint, dto.subject, dto.validFrom, dto.validTo⟩)
    (.badRequest runtime.redisError)
  (ProvisioningWrite.setAllowedInsecure chargePoint.id false).commit .internal
  pure (.certificateBound chargePoint.id chargePoint.ocppId normalizedFingerprint)

def getChargePointSecurity (id : String) : ProvisioningRequest ProvisioningAnswer := do
  let chargePoint ← getExistingChargePoint call id
  let identity ← Request.read .identity fun store => store.identities chargePoint.ocppId
  pure (.bootstrapUpdated chargePoint.id chargePoint.ocppId (securityState identity))

def updateChargePointBootstrap (id : String) (dto : UpdateChargePointBootstrapDto) :
    ProvisioningRequest ProvisioningAnswer := do
  let chargePoint ← getExistingChargePoint call id
  Request.ofExcept
    (if dto.enabled && !runtime.enableNoAuthBootstrap then
      .error (.badRequest "No-password bootstrap is currently disabled") else .ok ())
  let allowedIps := dto.allowedIps.map fun values => normalizeList (some values)
  let allowedCidrs := dto.allowedCidrs.map fun values => normalizeList (some values)
  Request.ofExcept (assertValidCidrs runtime (allowedCidrs.getD []))
  let ttlMinutes := dto.ttlMinutes.map fun minutes =>
    runtime.station.resolveBootstrapTtl (some minutes)
  changeIdentity runtime chargePoint.id chargePoint.ocppId
    (.updateBootstrap call.now ⟨dto.enabled, ttlMinutes, allowedIps, allowedCidrs⟩)
    (.badRequest runtime.redisError)
  (ProvisioningWrite.setAllowedInsecure chargePoint.id dto.enabled).commit .internal
  getChargePointSecurity call chargePoint.id

/-- The station of chargers that nobody has created. -/
def unknownStation : ProvisioningRequest Station := do
  let found ← Request.read .station fun store =>
    store.stations.rows.find? fun station => station.name = "Unknown"
  match found with
  | some station => pure station
  | none => do
    let station : Station := ⟨call.newStationId, "Unknown", none⟩
    let _ ← (ProvisioningWrite.createStation station).commit .internal
    pure station

def handleBootNotification (ocppId : String) : ProvisioningRequest ProvisioningAnswer := do
  let found ← Request.read .chargePoint fun store => store.chargePointOf? ocppId
  match found with
  | none => do
    let station ← unknownStation call
    let chargePoint : ChargePoint :=
      { id := call.newChargePointId
        ocppId := ocppId
        stationId := station.id
        clientSecretHash := none
        clientSecretSalt := none
        allowedInsecure := false }
    let _ ← (ProvisioningWrite.createChargePoint chargePoint).commit .internal
    let _ ← provisionChargePoint runtime call chargePoint station .v16 none
    pure .booted
  | some chargePoint => do
    let (updated, station) ← (ProvisioningWrite.bootChargePoint chargePoint.id).commit .internal
    let _ ← provisionChargePoint runtime call updated station .v16 none
    pure .booted

def removeChargePoint (id : String) : ProvisioningRequest ProvisioningAnswer := do
  let existing ← getExistingChargePoint call id
  let _ ← (ProvisioningWrite.removeChargePoint id).commit .internal
  pure (.removed existing)

end Requests

inductive ProvisioningOperation
  | createChargePoint (createDto : CreateChargePointDto)
  | handleBootNotification (ocppId : String)
  | bindChargePointCertificate (id : String) (dto : BindChargePointCertificateDto)
  | updateChargePointBootstrap (id : String) (dto : UpdateChargePointBootstrapDto)
  | removeChargePoint (id : String)

structure ProvisioningAction where
  call : ProvisioningCall
  operation : ProvisioningOperation

def ProvisioningAction.program (runtime : ProvisioningRuntime) (action : ProvisioningAction) :
    ProvisioningRequest ProvisioningAnswer :=
  match action.operation with
  | .createChargePoint createDto => createChargePoint runtime action.call createDto
  | .handleBootNotification ocppId => handleBootNotification runtime action.call ocppId
  | .bindChargePointCertificate id dto => bindChargePointCertificate runtime action.call id dto
  | .updateChargePointBootstrap id dto => updateChargePointBootstrap runtime action.call id dto
  | .removeChargePoint id => removeChargePoint action.call id

/-- The requests, Redis and the database. -/
abbrev ProvisioningState :=
  ReadCommitted Store Unit ProvisioningQuery ProvisioningWrite ProvisioningWrite.Result
    HttpException ProvisioningAction ProvisioningAnswer

abbrev ProvisioningState.Reachable (runtime : ProvisioningRuntime)
    (conditions : Conditions Store ProvisioningQuery ProvisioningWrite ProvisioningAction)
    (store : Store) (state : ProvisioningState) : Prop :=
  ReadCommitted.Reachable (ProvisioningWrite.body runtime) (ProvisioningAction.program runtime)
    conditions (ReadCommitted.initial store) state

namespace Sample

def runtime : ProvisioningRuntime where
  enableNoAuthBootstrap := true
  station := ⟨30, 120⟩
  provisioning := ⟨30, 120⟩
  isIP _ := 4
  number _ := .ofInt 8
  dateParse _ := some 0
  toISOString _ := "1970-01-01T00:00:00.000Z"
  redisError := "redis"

def call : ProvisioningCall where
  now := 1000
  scope := .ok fun _ => true
  newStationId := "unknown"
  newChargePointId := "point"
  secretHash := "hash"
  secretSalt := "salt"

def emptyStore : Store where
  stations := { rows := [⟨"station", "Acme 1", some "acme"⟩], nodup := by decide }
  chargePoints := Table.empty
  identities _ := none

def after (store : Store)
    (conditions : Conditions Store ProvisioningQuery ProvisioningWrite ProvisioningAction)
    (events : List (DatabaseEvent ProvisioningAction)) : Option ProvisioningState :=
  events.foldlM (ReadCommitted.next (ProvisioningWrite.body runtime)
    (ProvisioningAction.program runtime) conditions) (ReadCommitted.initial store)

end Sample

end Csms.Provisioning
