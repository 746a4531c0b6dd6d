import Csms.Auth.Roles
import Csms.Commands.Core
import Csms.Table.Keyed

/-!
# Plug-and-Charge contracts and certificates

The requests of a tenant that create and update contracts, and issue and revoke the certificates
of a contract.
-/

namespace Csms.Pnc

open Auth Js

inductive ContractStatus
  | active
  | suspended
  | revoked
deriving DecidableEq

inductive CertificateType
  | contract
  | provisioning
  | root
deriving DecidableEq

inductive CertificateStatus
  | active
  | revoked
deriving DecidableEq

structure PncContract where
  (id organizationId contractRef : String)
  (eMobilityAccountId providerPartyId vehicleVin : Option String)
  status : ContractStatus
deriving DecidableEq

structure PncContractCertificate where
  (id contractId organizationId certificateHash : String)
  certificateType : CertificateType
  status : CertificateStatus
  (validFrom validTo revokedAt : Option Int)
  revocationReason : Option String
  /-- Empty for `null`. -/
  mappedChargePointIds : List String
deriving DecidableEq

structure Store where
  contracts : Table PncContract PncContract.id
  certificates : Table PncContractCertificate PncContractCertificate.id

inductive PncException
  | badRequest (message : String)
  | forbidden (message : String)
  | notFound (message : String)
deriving DecidableEq

/-- What the engine makes of texts. -/
structure Runtime where
  toUpperCase : String → String
  /-- The time of `new Date(text)`. -/
  newDate : String → Option Int

/-- The station of a charge point. -/
structure Station where
  (orgId siteOrganizationId : Option String)

/-- `station.orgId || station.site?.organizationId`, if that is not empty. -/
def Station.ownerTenant (station : Station) : Option String :=
  orText station.orgId (orText station.siteOrganizationId none)

/-- A request in its tenant context, with what it finds outside of the contracts and
certificates. -/
structure Call where
  context : Option TenantContext
  actorId : String
  roleOf : String → Option UserRole
  /-- The membership of a user in an organization. -/
  membershipOf : String → String → Option MembershipStatus
  /-- The charge points with their stations. -/
  chargePoints : String → Option Station
  now : Int
  /-- The id of a row that the request creates. -/
  newId : String

structure CreatePncContractDto where
  contractRef : String
  (eMobilityAccountId providerPartyId vehicleVin status : Option String)

structure UpdatePncContractDto where
  (eMobilityAccountId providerPartyId vehicleVin status : Option String)

structure IssuePncCertificateDto where
  certificateHash : String
  (certificateType validFrom validTo : Option String)
  mappedChargePointIds : Option (List String)

structure RevokePncCertificateDto where
  reason : Option String

def requiredTrimmed (value : String) (field : String) : Except PncException String :=
  if trim value = "" then .error (.badRequest (field ++ " is required")) else .ok (trim value)

def optionalTrimmed (value : Option String) : Option String :=
  value.bind fun value => if trim value = "" then none else some (trim value)

def normalizeOptionalStatus {α : Type} (value : Option String) (allowed : List (String × α)) :
    Except PncException (Option α) :=
  match orText value none with
  | none => .ok none
  | some value =>
    match allowed.lookup (toUpperCase (trim value)) with
    | some status => .ok (some status)
    | none =>
      .error (.badRequest
        ("Invalid value \"" ++ value ++ "\". Allowed values: " ++
          join ", " (allowed.map Prod.fst)))

def contractStatuses : List (String × ContractStatus) :=
  [("ACTIVE", .active), ("SUSPENDED", .suspended), ("REVOKED", .revoked)]

def certificateTypes : List (String × CertificateType) :=
  [("CONTRACT", .contract), ("PROVISIONING", .provisioning), ("ROOT", .root)]

section Input

variable (runtime : Runtime)

def optionalDate (value : Option String) (field : String) : Except PncException (Option Int) :=
  match orText value none with
  | none => .ok none
  | some value =>
    match runtime.newDate value with
    | some parsed => .ok (some parsed)
    | none => .error (.badRequest (field ++ " must be a valid ISO date"))

def normalizeCertificateHash (value : String) : Except PncException String :=
  let normalized := runtime.toUpperCase
    (trim (String.ofList (value.toList.filter fun c => !(isWhitespace c || c == ':'))))
  if length normalized < 32 ∨ 256 < length normalized then
    .error (.badRequest "certificateHash must be a normalized fingerprint/hash string")
  else .ok normalized

end Input

section Checks

variable (call : Call) (store : Store)

def resolveTenantId : Except PncException String :=
  match TenantContext.resolve call.context none with
  | some tenantId => .ok tenantId
  | none => .error (.badRequest "Active tenant context is required for PnC operations")

def isPlatformAdmin (role : UserRole) : Bool :=
  role = .superAdmin || role = .evzoneAdmin

def assertTenantActor (tenantId : String) : Except PncException Unit := do
  let normalizedActorId ← requiredTrimmed call.actorId "actorId"
  match call.roleOf normalizedActorId with
  | none => .error (.forbidden "Authenticated user is not recognized")
  | some role =>
    if !isPlatformAdmin role && call.membershipOf normalizedActorId tenantId ≠ some .active then
      .error (.forbidden "User must be an active tenant member for PnC operations")
    else .ok ()

/-- The tenant whose actor makes the request. -/
def actingTenant : Except PncException String := do
  let tenantId ← resolveTenantId call
  assertTenantActor call tenantId
  pure tenantId

def assertContractInTenant (contractId tenantId : String) : Except PncException PncContract :=
  match store.contracts.find? contractId with
  | none => .error (.notFound "PnC contract not found")
  | some contract =>
    if contract.organizationId = tenantId then .ok contract
    else .error (.notFound "PnC contract not found")

def assertCertificateInTenant (certificateId tenantId : String) :
    Except PncException PncContractCertificate :=
  match store.certificates.find? certificateId with
  | none => .error (.notFound "PnC certificate not found")
  | some certificate =>
    if certificate.organizationId = tenantId then .ok certificate
    else .error (.notFound "PnC certificate not found")

def validateMappedChargePointId (tenantId chargePointId : String) : Except PncException Unit :=
  match call.chargePoints chargePointId with
  | none => .error (.badRequest ("Mapped charge point " ++ chargePointId ++ " does not exist"))
  | some station =>
    match station.ownerTenant with
    | none => .ok ()
    | some ownerTenant =>
      if ownerTenant = tenantId then .ok ()
      else
        .error (.badRequest
          ("Mapped charge point " ++ chargePointId ++ " is outside tenant scope"))

def validateMappedChargePointIds (tenantId : String) (value : Option (List String)) :
    Except PncException (List String) :=
  let normalizedIds := distinctTexts (value.getD [])
  if 200 < normalizedIds.length then
    .error (.badRequest "mappedChargePointIds cannot contain more than 200 entries")
  else do
    normalizedIds.forM (validateMappedChargePointId call tenantId)
    pure normalizedIds

end Checks

/-- What an update writes: a column is there when it is written. -/
structure ContractUpdate where
  (eMobilityAccountId providerPartyId vehicleVin : Option (Option String))
  status : Option ContractStatus

def ContractUpdate.apply (data : ContractUpdate) (contract : PncContract) : PncContract :=
  { contract with
    eMobilityAccountId := data.eMobilityAccountId.getD contract.eMobilityAccountId
    providerPartyId := data.providerPartyId.getD contract.providerPartyId
    vehicleVin := data.vehicleVin.getD contract.vehicleVin
    status := data.status.getD contract.status }

theorem ContractUpdate.id_apply (data : ContractUpdate) (contract : PncContract) :
    (data.apply contract).id = contract.id :=
  rfl

def UpdatePncContractDto.data (dto : UpdatePncContractDto) : Except PncException ContractUpdate := do
  let status ← normalizeOptionalStatus dto.status contractStatuses
  pure
    { eMobilityAccountId := dto.eMobilityAccountId.map fun value => optionalTrimmed (some value)
      providerPartyId := dto.providerPartyId.map fun value => optionalTrimmed (some value)
      vehicleVin := dto.vehicleVin.map fun value => optionalTrimmed (some value)
      -- an empty text is given, and means `ACTIVE`
      status := dto.status.map fun _ => status.getD .active }

def PncContractCertificate.revoke (now : Int) (reason : String)
    (certificate : PncContractCertificate) : PncContractCertificate :=
  { certificate with
    status := .revoked
    revokedAt := some now
    revocationReason := some reason }

theorem PncContractCertificate.id_revoke (now : Int) (reason : String)
    (certificate : PncContractCertificate) : (certificate.revoke now reason).id = certificate.id :=
  rfl

def RevokePncCertificateDto.reasonText (dto : RevokePncCertificateDto) : String :=
  (optionalTrimmed dto.reason).getD "Operator initiated"

def Store.writeContract (store : Store) (contractId : String) (data : ContractUpdate) : Store :=
  { store with
    contracts := store.contracts.updateWhere (fun row => row.id = contractId) data.apply
      data.id_apply }

/-- The update of a certificate that is revoked. -/
def Store.writeRevocation (store : Store) (certificateId : String) (now : Int) (reason : String) :
    Store :=
  { store with
    certificates := store.certificates.updateWhere (fun row => row.id = certificateId)
      (PncContractCertificate.revoke now reason) (PncContractCertificate.id_revoke now reason) }

section Requests

variable (runtime : Runtime) (call : Call) (store : Store)

/-- The primary key and the reference, which is unique in its organization. -/
def isFreeContract (contract : PncContract) : Bool :=
  store.contracts.rows.all fun row =>
    row.id ≠ contract.id &&
      !(row.organizationId = contract.organizationId && row.contractRef = contract.contractRef)

def isFreeCertificate (certificate : PncContractCertificate) : Bool :=
  store.certificates.rows.all fun row =>
    row.id ≠ certificate.id &&
      !(row.organizationId = certificate.organizationId &&
        row.certificateHash = certificate.certificateHash)

def createContract (dto : CreatePncContractDto) : Except PncException Store := do
  let tenantId ← actingTenant call
  let contractRef ← requiredTrimmed dto.contractRef "contractRef"
  let status ← normalizeOptionalStatus dto.status contractStatuses
  let contract : PncContract :=
    { id := call.newId
      organizationId := tenantId
      contractRef
      eMobilityAccountId := optionalTrimmed dto.eMobilityAccountId
      providerPartyId := optionalTrimmed dto.providerPartyId
      vehicleVin := optionalTrimmed dto.vehicleVin
      status := status.getD .active }
  if isFreeContract store contract then
    .ok { store with contracts := store.contracts.insert contract }
  else .error (.badRequest "PnC contract reference already exists for this tenant")

def updateContract (contractId : String) (dto : UpdatePncContractDto) :
    Except PncException Store := do
  let tenantId ← actingTenant call
  let _ ← assertContractInTenant store contractId tenantId
  let data ← dto.data
  .ok (store.writeContract contractId data)

def certificateToIssue (tenantId : String) (contract : PncContract)
    (dto : IssuePncCertificateDto) : Except PncException PncContractCertificate := do
  let certificateHash ← normalizeCertificateHash runtime dto.certificateHash
  let mappedChargePointIds ← validateMappedChargePointIds call tenantId dto.mappedChargePointIds
  let validFrom ← optionalDate runtime dto.validFrom "validFrom"
  let validTo ← optionalDate runtime dto.validTo "validTo"
  if validFrom.any fun start => validTo.any fun stop => stop ≤ start then
    .error (.badRequest "validTo must be after validFrom")
  else do
    let certificateType ← normalizeOptionalStatus dto.certificateType certificateTypes
    pure
      { id := call.newId
        contractId := contract.id
        organizationId := tenantId
        certificateHash
        certificateType := certificateType.getD .contract
        status := .active
        validFrom
        validTo
        revokedAt := none
        revocationReason := none
        mappedChargePointIds }

def issueCertificate (contractId : String) (dto : IssuePncCertificateDto) :
    Except PncException Store := do
  let tenantId ← actingTenant call
  let contract ← assertContractInTenant store contractId tenantId
  let certificate ← certificateToIssue runtime call tenantId contract dto
  if isFreeCertificate store certificate then
    .ok { store with certificates := store.certificates.insert certificate }
  else .error (.badRequest "Certificate hash already exists for this tenant")

def revokeCertificate (certificateId : String) (dto : RevokePncCertificateDto) :
    Except PncException Store := do
  let tenantId ← actingTenant call
  let certificate ← assertCertificateInTenant store certificateId tenantId
  .ok (store.writeRevocation certificate.id call.now dto.reasonText)

end Requests

inductive Request
  | createContract (dto : CreatePncContractDto)
  | updateContract (contractId : String) (dto : UpdatePncContractDto)
  | issueCertificate (contractId : String) (dto : IssuePncCertificateDto)
  | revokeCertificate (certificateId : String) (dto : RevokePncCertificateDto)

def Request.run (runtime : Runtime) (store : Store) (call : Call) :
    Request → Except PncException Store
  | createContract dto => Pnc.createContract call store dto
  | updateContract contractId dto => Pnc.updateContract call store contractId dto
  | issueCertificate contractId dto => Pnc.issueCertificate runtime call store contractId dto
  | revokeCertificate certificateId dto => Pnc.revokeCertificate call store certificateId dto

/-- The store after a request: an exception changes nothing. -/
def next (runtime : Runtime) (store : Store) (request : Call × Request) : Store :=
  match request.2.run runtime store request.1 with
  | .ok after => after
  | .error _ => store

end Csms.Pnc
