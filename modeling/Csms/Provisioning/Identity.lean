import Csms.Js.Value
import Csms.Js.Text

/-!
# The identity of a charger at the gateway

What the gateway checks a charger against when it connects, and how provisioning, the binding
of a certificate and an update of the bootstrap rebuild it from the last one.
-/

namespace Csms.Provisioning

open Js

inductive AuthType
  | basic
  | token
  | mtls
deriving DecidableEq

inductive ChargePointAuthProfile
  | basic
  | mtlsBootstrap
deriving DecidableEq

inductive OcppVersion
  | v16
  | v201
  | v21
deriving DecidableEq

/-- A certificate whose status is active. -/
structure Certificate where
  (fingerprint subject validFrom validTo chargePointId : Option String)
deriving DecidableEq

/-- Times are kept as milliseconds. -/
structure IdentityAuth where
  type : Option AuthType
  (username hashAlgorithm secretHash secretSalt : Option String)
  allowNoAuthBootstrap : Option Bool
  noAuthUntil : Option Int
  bootstrapRequireIpAllowlist : Option Bool
  certificates : Option (List Certificate)
deriving DecidableEq

/-- `{}`. -/
def IdentityAuth.empty : IdentityAuth :=
  ⟨none, none, none, none, none, none, none, none, none⟩

structure RedisChargerIdentity where
  (chargePointId stationId tenantId : String)
  (allowedProtocols allowedIps allowedCidrs : Option (List String))
  auth : IdentityAuth
  updatedAt : Int
deriving DecidableEq

structure Station where
  (id name : String)
  /-- `site?.ownerId`. -/
  siteOwnerId : Option String
deriving DecidableEq

structure ChargePoint where
  (id ocppId stationId : String)
  (clientSecretHash clientSecretSalt : Option String)
  allowedInsecure : Bool
deriving DecidableEq

structure ProvisioningOptions where
  authProfile : Option ChargePointAuthProfile
  bootstrapTtlMinutes : Option Int
  (allowedIps allowedCidrs : Option (List String))
deriving DecidableEq

structure CertificateBindInput where
  fingerprint : String
  (subject validFrom validTo : Option String)
deriving DecidableEq

structure BootstrapUpdateInput where
  enabled : Bool
  ttlMinutes : Option Int
  (allowedIps allowedCidrs : Option (List String))
deriving DecidableEq

/-- The minutes that the environment configures. -/
structure BootstrapConfig where
  (defaultMinutes maxMinutes : Int)

def BootstrapConfig.resolveBootstrapTtl (config : BootstrapConfig) (input : Option Int) : Int :=
  min (max 1 (input.getD config.defaultMinutes)) (max 1 config.maxMinutes)

theorem BootstrapConfig.resolveBootstrapTtl_le (config : BootstrapConfig) (input : Option Int) :
    config.resolveBootstrapTtl input ≤ max 1 config.maxMinutes :=
  min_le_right _ _

/-- A missing list, like `null`, is an empty one. -/
def normalizeList (values : Option (List String)) : List String :=
  distinctTexts (values.getD [])

/-- Without colons. -/
def normalizeFingerprint (value : String) : String :=
  toUpperCase (trim (String.ofList (value.toList.filter (· ≠ ':'))))

/-- `[A-F0-9]`. -/
def isUpperHex (c : Char) : Bool :=
  (65 ≤ c.toNat && c.toNat ≤ 70) || (48 ≤ c.toNat && c.toNat ≤ 57)

/-- `/^[A-F0-9]{64}$/`. -/
def isFingerprint (value : String) : Bool :=
  value.toList.length = 64 && value.toList.all isUpperHex

theorem upperChar_of_isUpperHex {c : Char} (isHex : isUpperHex c = true) :
    c ≠ ':' ∧ isWhitespace c = false ∧ upperChar c = [c] := by
  have each : ∀ n < 71, isUpperHex (Char.ofNat n) = true → Char.ofNat n ≠ ':' ∧
      isWhitespace (Char.ofNat n) = false ∧ upperChar (Char.ofNat n) = [Char.ofNat n] := by
    decide
  have small : c.toNat < 71 := by
    simp only [isUpperHex, Bool.or_eq_true, Bool.and_eq_true, decide_eq_true_eq] at isHex
    omega
  rw [← Char.ofNat_toNat c]
  exact each c.toNat small (by rwa [Char.ofNat_toNat])

/-- Nothing of a fingerprint is changed again. -/
theorem normalizeFingerprint_of_isFingerprint {value : String}
    (isValid : isFingerprint value = true) : normalizeFingerprint value = value := by
  have isHex := List.all_eq_true.mp (Bool.and_eq_true_iff.mp isValid).2
  have noColon : value.toList.filter (· ≠ ':') = value.toList :=
    List.filter_eq_self.mpr fun c member => by simp [(upperChar_of_isUpperHex (isHex c member)).1]
  have noSpace (characters : List Char) (all : ∀ c ∈ characters, isUpperHex c = true) :
      characters.dropWhile isWhitespace = characters := by
    cases characters with
    | nil => rfl
    | cons c rest =>
      rw [List.dropWhile_cons_of_neg]
      simp [(upperChar_of_isUpperHex (all c List.mem_cons_self)).2.1]
  have upper : value.toList.flatMap upperChar = value.toList.flatMap fun c => [c] :=
    List.flatMap_congr fun c member => (upperChar_of_isUpperHex (isHex c member)).2.2
  rw [normalizeFingerprint, noColon, trim, String.toList_ofList, noSpace _ isHex,
    noSpace _ fun c member => isHex c (List.mem_reverse.mp member), List.reverse_reverse,
    toUpperCase, String.toList_ofList, upper]
  simp

theorem normalizeFingerprint_ne_of_isFingerprint {value : String}
    (isValid : isFingerprint value = true) : normalizeFingerprint "" ≠ value := by
  rintro rfl
  revert isValid
  decide

def gatewayVersion : OcppVersion → String
  | .v16 => "1.6J"
  | .v201 => "2.0.1"
  | .v21 => "2.1"

def provisionAuth (config : BootstrapConfig) (now : Int) (chargePoint : ChargePoint)
    (options : Option ProvisioningOptions) (existingAuth : IdentityAuth) : IdentityAuth :=
  let requestedProfile := options.bind ProvisioningOptions.authProfile
  let bootstrapTtl := config.resolveBootstrapTtl (options.bind (·.bootstrapTtlMinutes))
  let noAuthUntil := now + bootstrapTtl * 60000
  let auth : IdentityAuth :=
    { existingAuth with
      type := if existingAuth.type = some .mtls ∧ requestedProfile = none then some .mtls
        else some .basic
      username := some chargePoint.ocppId
      hashAlgorithm := some "sha256"
      secretHash := orText chargePoint.clientSecretHash (orText existingAuth.secretHash none)
      secretSalt := orText chargePoint.clientSecretSalt (orText existingAuth.secretSalt none) }
  match requestedProfile with
  | some .mtlsBootstrap =>
    { auth with
      type := some .basic
      allowNoAuthBootstrap := some true
      noAuthUntil := some noAuthUntil
      bootstrapRequireIpAllowlist := some true }
  | some .basic =>
    { auth with
      allowNoAuthBootstrap := some false
      noAuthUntil := none
      bootstrapRequireIpAllowlist := none }
  | none => auth

/-- A charger that is created, with options, or boots, without. -/
def provision (config : BootstrapConfig) (now : Int) (chargePoint : ChargePoint)
    (station : Station) (ocppVersion : OcppVersion) (options : Option ProvisioningOptions)
    (existing : Option RedisChargerIdentity) : RedisChargerIdentity where
  chargePointId := chargePoint.ocppId
  stationId := station.id
  tenantId := (orText station.siteOwnerId none).getD "unknown-owner"
  allowedProtocols := some [gatewayVersion ocppVersion]
  -- what the options do not mention stays
  allowedIps := some (normalizeList
    ((options.bind (·.allowedIps)).or (existing.bind (·.allowedIps))))
  allowedCidrs := some (normalizeList
    ((options.bind (·.allowedCidrs)).or (existing.bind (·.allowedCidrs))))
  auth := provisionAuth config now chargePoint options
    ((existing.map RedisChargerIdentity.auth).getD IdentityAuth.empty)
  updatedAt := now

/-- A certificate replaces the one with the same fingerprint. -/
def bindCertificates (chargePointId : String) (validFrom : String) (input : CertificateBindInput)
    (certificates : List Certificate) : List Certificate :=
  let normalized := normalizeFingerprint input.fingerprint
  certificates.filter (fun entry =>
    (orText entry.fingerprint none).all fun other => normalizeFingerprint other ≠ normalized) ++
    [{ fingerprint := some normalized
       subject := input.subject
       validFrom := some ((orText input.validFrom none).getD validFrom)
       validTo := input.validTo
       chargePointId := some chargePointId }]

def bindCertificate (now : Int) (nowText chargePointId : String) (input : CertificateBindInput)
    (identity : RedisChargerIdentity) : RedisChargerIdentity :=
  { identity with
    auth :=
      { identity.auth with
        certificates := some (bindCertificates chargePointId nowText input
          (identity.auth.certificates.getD []))
        type := some .mtls
        allowNoAuthBootstrap := some false
        noAuthUntil := none
        bootstrapRequireIpAllowlist := none }
    updatedAt := now }

def updateBootstrap (config : BootstrapConfig) (now : Int) (input : BootstrapUpdateInput)
    (identity : RedisChargerIdentity) : Except String RedisChargerIdentity :=
  let allowedIps := normalizeList (input.allowedIps.or identity.allowedIps)
  let allowedCidrs := normalizeList (input.allowedCidrs.or identity.allowedCidrs)
  if input.enabled then
    if allowedIps = [] ∧ allowedCidrs = [] then
      .error "Bootstrap allowlist is required (allowedIps or allowedCidrs)"
    else
      .ok { identity with
        auth :=
          { identity.auth with
            type := some .basic
            allowNoAuthBootstrap := some true
            noAuthUntil := some (now + config.resolveBootstrapTtl input.ttlMinutes * 60000)
            bootstrapRequireIpAllowlist := some true }
        allowedIps := some allowedIps
        allowedCidrs := some allowedCidrs
        updatedAt := now }
  else
    .ok { identity with
      auth := { identity.auth with allowNoAuthBootstrap := some false, noAuthUntil := none }
      updatedAt := now }

/-- What an operation makes of the identity that it has read. -/
inductive IdentityChange
  | provision (now : Int) (chargePoint : ChargePoint) (station : Station)
      (ocppVersion : OcppVersion) (options : Option ProvisioningOptions)
  | bindCertificate (now : Int) (nowText chargePointId : String) (input : CertificateBindInput)
  | updateBootstrap (now : Int) (input : BootstrapUpdateInput)

namespace IdentityChange

/-- Binding and updating throw if there is no identity. -/
def apply (config : BootstrapConfig) (chargePointId : String) :
    IdentityChange → Option RedisChargerIdentity → Except String RedisChargerIdentity
  | provision now chargePoint station ocppVersion options, existing =>
    .ok (Provisioning.provision config now chargePoint station ocppVersion options existing)
  | bindCertificate now nowText chargePointId input, some identity =>
    .ok (Provisioning.bindCertificate now nowText chargePointId input identity)
  | updateBootstrap now input, some identity =>
    Provisioning.updateBootstrap config now input identity
  | _, none => .error ("Identity not found for " ++ chargePointId)

/-- The time at which it is made. -/
def now : IdentityChange → Int
  | provision now .. => now
  | bindCertificate now .. => now
  | updateBootstrap now .. => now

/-- The change asks for connections without a password. -/
def enables : IdentityChange → Bool
  | provision _ _ _ _ options =>
    options.bind ProvisioningOptions.authProfile = some .mtlsBootstrap
  | bindCertificate .. => false
  | updateBootstrap _ input => input.enabled

end IdentityChange

/-- A missing flag is falsy. -/
def RedisChargerIdentity.isBootstrapOn (identity : RedisChargerIdentity) : Bool :=
  identity.auth.allowNoAuthBootstrap.getD false

end Csms.Provisioning
