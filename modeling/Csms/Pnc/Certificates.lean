import Csms.Pnc.Service
import Csms.Service.Program
import Csms.Transition.Run

/-!
# The life of a certificate

A certificate is issued active, with charge points that no other tenant owns, and is revoked for
good.  It outlives its contract when it is issued for one that is not active, or when its contract
changes its status, and a further revocation overwrites the time and the reason of the first.
-/

namespace Csms.Pnc

open Js Service Transition

variable {runtime : Runtime} {store after : Store} {call : Call}

/-! ## What the requests do -/

variable {contract : PncContract}

theorem assertContractInTenant_eq_ok_iff {contractId tenantId : String} :
    assertContractInTenant store contractId tenantId = .ok contract ↔
      store.contracts.find? contractId = some contract ∧ contract.organizationId = tenantId := by
  unfold assertContractInTenant
  cases store.contracts.find? contractId with
  | none => simp
  | some found =>
    by_cases own : found.organizationId = tenantId
    · simp only [own, if_true, Except.ok.injEq, Option.some.injEq, iff_self_and]
      rintro rfl
      exact own
    · simp only [own, if_false, reduceCtorEq, Option.some.injEq, false_iff, not_and]
      rintro rfl
      exact own

variable {certificate : PncContractCertificate}

theorem assertCertificateInTenant_eq_ok_iff {certificateId tenantId : String} :
    assertCertificateInTenant store certificateId tenantId = .ok certificate ↔
      store.certificates.find? certificateId = some certificate ∧
        certificate.organizationId = tenantId := by
  unfold assertCertificateInTenant
  cases store.certificates.find? certificateId with
  | none => simp
  | some found =>
    by_cases own : found.organizationId = tenantId
    · simp only [own, if_true, Except.ok.injEq, Option.some.injEq, iff_self_and]
      rintro rfl
      exact own
    · simp only [own, if_false, reduceCtorEq, Option.some.injEq, false_iff, not_and]
      rintro rfl
      exact own

def IsMappable (call : Call) (tenantId chargePointId : String) : Prop :=
  ∃ station, call.chargePoints chargePointId = some station ∧
    ∀ owner, station.ownerTenant = some owner → owner = tenantId

theorem validateMappedChargePointId_eq_ok_iff {tenantId chargePointId : String} :
    validateMappedChargePointId call tenantId chargePointId = .ok () ↔
      IsMappable call tenantId chargePointId := by
  unfold validateMappedChargePointId IsMappable
  cases call.chargePoints chargePointId with
  | none => simp
  | some station =>
    cases owned : station.ownerTenant with
    | none => simp [owned]
    | some owner => by_cases same : owner = tenantId <;> simp [owned, same]

theorem mappable_of_validated {tenantId : String} {value : Option (List String)}
    {ids : List String} (validated : validateMappedChargePointIds call tenantId value = .ok ids) :
    ∀ chargePointId ∈ ids, IsMappable call tenantId chargePointId := by
  unfold validateMappedChargePointIds at validated
  dsimp only at validated
  split at validated
  · cases validated
  · obtain ⟨_, checked, same⟩ := bind_eq_ok_iff.mp validated
    obtain rfl := Except.ok.inj same
    intro chargePointId member
    exact validateMappedChargePointId_eq_ok_iff.mp (forM_eq_ok_iff.mp checked chargePointId member)

/-- The checks of an update, and what it writes. -/
structure UpdatePasses (call : Call) (store : Store) (contractId : String)
    (dto : UpdatePncContractDto) (contract : PncContract) (data : ContractUpdate) : Prop where
  acting : actingTenant call = .ok contract.organizationId
  found : store.contracts.find? contractId = some contract
  valid : dto.data = .ok data

variable {contractId : String}

theorem updateContract_eq_ok_iff {dto : UpdatePncContractDto} :
    updateContract call store contractId dto = .ok after ↔
      ∃ contract data, UpdatePasses call store contractId dto contract data ∧
        after = store.writeContract contractId data := by
  unfold updateContract
  simp only [bind_eq_ok_iff, assertContractInTenant_eq_ok_iff, Except.ok.injEq]
  constructor
  · rintro ⟨_, acting, contract, ⟨found, rfl⟩, data, valid, rfl⟩
    exact ⟨contract, data, ⟨acting, found, valid⟩, rfl⟩
  · rintro ⟨contract, data, passes, rfl⟩
    exact ⟨_, passes.acting, contract, ⟨passes.found, rfl⟩, data, passes.valid, rfl⟩

/-- The checks of an issue, and the certificate that it makes. -/
structure IssuePasses (runtime : Runtime) (call : Call) (store : Store) (contractId : String)
    (dto : IssuePncCertificateDto) (contract : PncContract)
    (certificate : PncContractCertificate) : Prop where
  acting : actingTenant call = .ok contract.organizationId
  found : store.contracts.find? contractId = some contract
  valid : certificateToIssue runtime call contract.organizationId contract dto = .ok certificate
  free : isFreeCertificate store certificate = true

variable {dto : IssuePncCertificateDto}

theorem issueCertificate_eq_ok_iff :
    issueCertificate runtime call store contractId dto = .ok after ↔ ∃ contract certificate,
        IssuePasses runtime call store contractId dto contract certificate ∧
        after = { store with certificates := store.certificates.insert certificate } := by
  unfold issueCertificate
  simp only [bind_eq_ok_iff, assertContractInTenant_eq_ok_iff]
  constructor
  · rintro ⟨_, acting, contract, ⟨found, rfl⟩, certificate, valid, written⟩
    split at written
    · rename_i free
      exact ⟨contract, certificate, ⟨acting, found, valid, free⟩, (Except.ok.inj written).symm⟩
    · cases written
  · rintro ⟨contract, certificate, passes, rfl⟩
    refine ⟨_, passes.acting, contract, ⟨passes.found, rfl⟩, certificate, passes.valid, ?_⟩
    rw [if_pos passes.free]

/-- The checks of a revocation. -/
structure RevokePasses (call : Call) (store : Store) (certificateId : String)
    (certificate : PncContractCertificate) : Prop where
  acting : actingTenant call = .ok certificate.organizationId
  found : store.certificates.find? certificateId = some certificate

theorem revokeCertificate_eq_ok_iff {certificateId : String} {dto : RevokePncCertificateDto} :
    revokeCertificate call store certificateId dto = .ok after ↔
      ∃ certificate, RevokePasses call store certificateId certificate ∧
        after = store.writeRevocation certificate.id call.now dto.reasonText := by
  unfold revokeCertificate
  simp only [bind_eq_ok_iff, assertCertificateInTenant_eq_ok_iff, Except.ok.injEq]
  constructor
  · rintro ⟨_, acting, certificate, ⟨found, rfl⟩, rfl⟩
    exact ⟨certificate, ⟨acting, found⟩, rfl⟩
  · rintro ⟨certificate, passes, rfl⟩
    exact ⟨_, passes.acting, certificate, ⟨passes.found, rfl⟩, rfl⟩

theorem createContract_of_ok {dto : CreatePncContractDto}
    (created : createContract call store dto = .ok after) :
    ∃ contract, store.contracts.find? contract.id = none ∧
      after = { store with contracts := store.contracts.insert contract } := by
  unfold createContract at created
  simp only [bind_eq_ok_iff] at created
  obtain ⟨_, _, _, _, _, _, written⟩ := created
  split at written
  · rename_i free
    refine ⟨_, ?_, (Except.ok.inj written).symm⟩
    rw [Table.find?_eq_none_iff, List.mem_map]
    rintro ⟨row, member, sameId⟩
    have differs := List.all_eq_true.mp free row member
    simp [sameId] at differs
  · cases written

/-- A certificate is issued active, for the contract that was found. -/
theorem certificate_of_valid {tenantId : String}
    (valid : certificateToIssue runtime call tenantId contract dto = .ok certificate) :
    certificate.contractId = contract.id ∧ certificate.organizationId = tenantId ∧
      certificate.status = .active ∧ ∀ chargePointId ∈ certificate.mappedChargePointIds,
        IsMappable call tenantId chargePointId := by
  unfold certificateToIssue at valid
  simp only [bind_eq_ok_iff] at valid
  obtain ⟨_, _, ids, validated, _, _, _, _, written⟩ := valid
  split at written
  · cases written
  · obtain ⟨_, _, same⟩ := bind_eq_ok_iff.mp written
    obtain rfl := Except.ok.inj same
    exact ⟨rfl, rfl, rfl, mappable_of_validated validated⟩

/-! ## What the updates write -/

theorem find?_writeRevocation (certificateId : String) (now : Int) (reason id : String) :
    (store.writeRevocation certificateId now reason).certificates.find? id =
      (store.certificates.find? id).map fun row =>
        if row.id = certificateId then row.revoke now reason else row := by
  rw [Store.writeRevocation, Table.find?_updateWhere]
  simp only [decide_eq_true_eq]

theorem mem_writeRevocation {certificateId : String} {now : Int} {reason : String} :
    certificate ∈ (store.writeRevocation certificateId now reason).certificates.rows ↔
      ∃ old ∈ store.certificates.rows, old.id = certificateId ∧ certificate = old.revoke now reason ∨
        old.id ≠ certificateId ∧ certificate = old := by
  rw [Store.writeRevocation, Table.mem_updateWhere]
  simp only [decide_eq_true_eq, decide_eq_false_iff_not, ne_eq]

theorem mem_writeContract {data : ContractUpdate} :
    contract ∈ (store.writeContract contractId data).contracts.rows ↔
      ∃ old ∈ store.contracts.rows, old.id = contractId ∧ contract = data.apply old ∨
        old.id ≠ contractId ∧ contract = old := by
  rw [Store.writeContract, Table.mem_updateWhere]
  simp only [decide_eq_true_eq, decide_eq_false_iff_not, ne_eq]

/-! ## One request -/

variable {request : Request}

theorem next_of_ok (done : request.run runtime store call = .ok after) :
    next runtime store (call, request) = after := by
  simp only [next, done]

theorem next_of_error {refused : PncException}
    (failed : request.run runtime store call = .error refused) :
    next runtime store (call, request) = store := by
  simp only [next, failed]

theorem id_free_of_issue
    (passes : IssuePasses runtime call store contractId dto contract certificate) :
    store.certificates.find? certificate.id = none := by
  rw [Table.find?_eq_none_iff, List.mem_map]
  rintro ⟨row, member, sameId⟩
  have differs := List.all_eq_true.mp passes.free row member
  simp [sameId] at differs

/-- A certificate stays as it is, unless it is revoked. -/
theorem find?_next {id : String} (found : store.certificates.find? id = some certificate) :
    (next runtime store (call, request)).certificates.find? id = some certificate ∨
      ∃ dto, request = .revokeCertificate id dto ∧ RevokePasses call store id certificate ∧
        (next runtime store (call, request)).certificates.find? id =
          some (certificate.revoke call.now dto.reasonText) := by
  cases ran : request.run runtime store call with
  | error refused =>
    rw [next_of_error ran]
    exact Or.inl found
  | ok after =>
    rw [next_of_ok ran]
    cases request with
    | createContract dto =>
      obtain ⟨contract, _, rfl⟩ := createContract_of_ok ran
      exact Or.inl found
    | updateContract contractId dto =>
      obtain ⟨contract, data, _, rfl⟩ := updateContract_eq_ok_iff.mp ran
      exact Or.inl found
    | issueCertificate contractId dto =>
      obtain ⟨contract, issued, _, rfl⟩ := issueCertificate_eq_ok_iff.mp ran
      left
      rw [Table.find?_insert, found]
      rfl
    | revokeCertificate certificateId dto =>
      obtain ⟨revoked, passes, rfl⟩ := revokeCertificate_eq_ok_iff.mp ran
      obtain ⟨_, rfl⟩ := Table.find?_eq_some_iff.mp passes.found
      obtain ⟨_, rfl⟩ := Table.find?_eq_some_iff.mp found
      rw [find?_writeRevocation, found]
      by_cases same : certificate.id = revoked.id
      · obtain rfl : revoked = certificate := by
          rw [same, passes.found] at found
          exact Option.some.inj found
        exact Or.inr ⟨dto, rfl, passes, by simp⟩
      · exact Or.inl (by simp [same])

/-- What no request changes of a certificate. -/
structure SameIssue (old certificate : PncContractCertificate) : Prop where
  id : old.id = certificate.id
  contractId : old.contractId = certificate.contractId
  organizationId : old.organizationId = certificate.organizationId
  mappedChargePointIds : old.mappedChargePointIds = certificate.mappedChargePointIds

/-- A certificate has been there before, or is issued now. -/
theorem origin_of_mem_next
    (member : certificate ∈ (next runtime store (call, request)).certificates.rows) :
    (∃ old ∈ store.certificates.rows, SameIssue old certificate ∧
        (certificate.status = .active → old = certificate)) ∨
      ∃ contractId dto contract, request = .issueCertificate contractId dto ∧
        IssuePasses runtime call store contractId dto contract certificate := by
  cases ran : request.run runtime store call with
  | error refused =>
    rw [next_of_error ran] at member
    exact Or.inl ⟨certificate, member, ⟨rfl, rfl, rfl, rfl⟩, fun _ => rfl⟩
  | ok after =>
    rw [next_of_ok ran] at member
    cases request with
    | createContract dto =>
      obtain ⟨contract, _, rfl⟩ := createContract_of_ok ran
      exact Or.inl ⟨certificate, member, ⟨rfl, rfl, rfl, rfl⟩, fun _ => rfl⟩
    | updateContract contractId dto =>
      obtain ⟨contract, data, _, rfl⟩ := updateContract_eq_ok_iff.mp ran
      exact Or.inl ⟨certificate, member, ⟨rfl, rfl, rfl, rfl⟩, fun _ => rfl⟩
    | issueCertificate contractId dto =>
      obtain ⟨contract, issued, passes, rfl⟩ := issueCertificate_eq_ok_iff.mp ran
      rw [Table.rows_insert_of_free (id_free_of_issue passes), List.mem_append,
        List.mem_singleton] at member
      rcases member with old | rfl
      · exact Or.inl ⟨certificate, old, ⟨rfl, rfl, rfl, rfl⟩, fun _ => rfl⟩
      · exact Or.inr ⟨contractId, dto, contract, rfl, passes⟩
    | revokeCertificate certificateId dto =>
      obtain ⟨revoked, _, rfl⟩ := revokeCertificate_eq_ok_iff.mp ran
      obtain ⟨old, oldMem, ⟨_, rfl⟩ | ⟨_, rfl⟩⟩ := mem_writeRevocation.mp member
      · refine Or.inl ⟨old, oldMem, ⟨rfl, rfl, rfl, rfl⟩, ?_⟩
        intro active
        simp [PncContractCertificate.revoke] at active
      · exact Or.inl ⟨certificate, oldMem, ⟨rfl, rfl, rfl, rfl⟩, fun _ => rfl⟩

theorem exists_contract_next (request : Request) (member : contract ∈ store.contracts.rows) :
    ∃ later ∈ (next runtime store (call, request)).contracts.rows, later.id = contract.id ∧
      later.organizationId = contract.organizationId := by
  cases ran : request.run runtime store call with
  | error refused =>
    rw [next_of_error ran]
    exact ⟨contract, member, rfl, rfl⟩
  | ok after =>
    rw [next_of_ok ran]
    cases request with
    | createContract dto =>
      obtain ⟨created, free, rfl⟩ := createContract_of_ok ran
      refine ⟨contract, ?_, rfl, rfl⟩
      rw [Table.rows_insert_of_free free]
      exact List.mem_append_left _ member
    | updateContract contractId dto =>
      obtain ⟨_, data, _, rfl⟩ := updateContract_eq_ok_iff.mp ran
      by_cases isUpdated : contract.id = contractId
      · exact ⟨data.apply contract,
          mem_writeContract.mpr ⟨contract, member, Or.inl ⟨isUpdated, rfl⟩⟩, rfl, rfl⟩
      · exact ⟨contract,
          mem_writeContract.mpr ⟨contract, member, Or.inr ⟨isUpdated, rfl⟩⟩, rfl, rfl⟩
    | issueCertificate contractId dto =>
      obtain ⟨_, _, _, rfl⟩ := issueCertificate_eq_ok_iff.mp ran
      exact ⟨contract, member, rfl, rfl⟩
    | revokeCertificate certificateId dto =>
      obtain ⟨_, _, rfl⟩ := revokeCertificate_eq_ok_iff.mp ran
      exact ⟨contract, member, rfl, rfl⟩

/-! ## Certificates and their contracts -/

/-- Every certificate is one of a contract of its tenant. -/
def OwnContracts (store : Store) : Prop :=
  ∀ certificate ∈ store.certificates.rows, ∃ contract ∈ store.contracts.rows,
    contract.id = certificate.contractId ∧ contract.organizationId = certificate.organizationId

theorem ownContracts_next (own : OwnContracts store) (request : Request) :
    OwnContracts (next runtime store (call, request)) := by
  intro certificate member
  have contractBefore : ∃ contract ∈ store.contracts.rows, contract.id = certificate.contractId ∧
      contract.organizationId = certificate.organizationId := by
    rcases origin_of_mem_next member with
      ⟨old, oldMem, same, _⟩ | ⟨contractId, dto, contract, _, passes⟩
    · obtain ⟨contract, contractMem, isOf, isOwn⟩ := own old oldMem
      exact ⟨contract, contractMem, isOf.trans same.contractId, isOwn.trans same.organizationId⟩
    · obtain ⟨contractMem, rfl⟩ := Table.find?_eq_some_iff.mp passes.found
      obtain ⟨isOf, isOwn, _⟩ := certificate_of_valid passes.valid
      exact ⟨contract, contractMem, isOf.symm, isOwn.symm⟩
  obtain ⟨contract, contractMem, isOf, isOwn⟩ := contractBefore
  obtain ⟨later, laterMem, sameId, sameOrganization⟩ :=
    @exists_contract_next runtime store call _ request contractMem
  exact ⟨later, laterMem, sameId.trans isOf, sameOrganization.trans isOwn⟩

/-- No certificate is active while its contract is not. -/
def NoneOutlives (store : Store) : Prop :=
  ∀ certificate ∈ store.certificates.rows, certificate.status = .active →
    ∀ contract ∈ store.contracts.rows, contract.id = certificate.contractId →
      contract.status = .active

/-- No certificate is issued for a contract that is not active, and no contract with active
certificates gets another status. -/
def KeepsActive (runtime : Runtime) (store : Store) (request : Call × Request) : Prop :=
  match request.2 with
  | .updateContract contractId dto =>
    ∀ contract data, UpdatePasses request.1 store contractId dto contract data →
      (data.apply contract).status ≠ .active →
        ∀ certificate ∈ store.certificates.rows, certificate.contractId = contractId →
          certificate.status ≠ .active
  | .issueCertificate contractId dto =>
    ∀ contract certificate, IssuePasses runtime request.1 store contractId dto contract certificate →
      contract.status = .active
  | _ => True

theorem noneOutlives_insert_contract (own : OwnContracts store) (none : NoneOutlives store)
    (free : store.contracts.find? contract.id = .none) :
    NoneOutlives { store with contracts := store.contracts.insert contract } := by
  intro certificate member active found foundMem isOf
  rw [Table.rows_insert_of_free free, List.mem_append, List.mem_singleton] at foundMem
  rcases foundMem with old | rfl
  · exact none certificate member active found old isOf
  · -- the id of the new contract is not that of the certificate's contract
    obtain ⟨other, otherMem, otherId, _⟩ := own certificate member
    rw [Table.find?_eq_none_iff, isOf, ← otherId] at free
    exact absurd (List.mem_map_of_mem otherMem) free

theorem noneOutlives_writeContract_iff (none : NoneOutlives store)
    (member : contract ∈ store.contracts.rows) (data : ContractUpdate) :
    NoneOutlives (store.writeContract contract.id data) ↔ ((data.apply contract).status ≠ .active →
        ∀ certificate ∈ store.certificates.rows, certificate.contractId = contract.id →
          certificate.status ≠ .active) := by
  constructor
  · intro noneAfter inactive certificate certificateMem isOf active
    apply inactive
    exact noneAfter certificate certificateMem active (data.apply contract)
      (mem_writeContract.mpr ⟨contract, member, Or.inl ⟨rfl, rfl⟩⟩) isOf.symm
  · intro kept certificate certificateMem active later laterMem isOf
    obtain ⟨old, oldMem, ⟨sameId, rfl⟩ | ⟨_, rfl⟩⟩ := mem_writeContract.mp laterMem
    · obtain rfl := store.contracts.eq_of_key_eq oldMem member sameId
      by_contra inactive
      exact kept inactive certificate certificateMem isOf.symm active
    · exact none certificate certificateMem active later oldMem isOf

theorem noneOutlives_insert_certificate_iff (none : NoneOutlives store)
    (passes : IssuePasses runtime call store contractId dto contract certificate) :
    NoneOutlives { store with certificates := store.certificates.insert certificate } ↔
      contract.status = .active := by
  obtain ⟨member, rfl⟩ := Table.find?_eq_some_iff.mp passes.found
  obtain ⟨isOf, _, active, _⟩ := certificate_of_valid passes.valid
  have rows := Table.rows_insert_of_free (id_free_of_issue passes)
  constructor
  · intro noneAfter
    have isIssued : certificate ∈ (store.certificates.insert certificate).rows := by simp [rows]
    exact noneAfter certificate isIssued active contract member isOf.symm
  · intro contractActive other otherMem otherActive found foundMem foundIs
    replace otherMem : other ∈ store.certificates.rows ∨ other = certificate := by
      simpa [rows] using otherMem
    rcases otherMem with old | rfl
    · exact none other old otherActive found foundMem foundIs
    · rwa [store.contracts.eq_of_key_eq foundMem member (foundIs.trans isOf)]

theorem noneOutlives_writeRevocation (none : NoneOutlives store) (certificateId : String)
    (now : Int) (reason : String) :
    NoneOutlives (store.writeRevocation certificateId now reason) := by
  intro certificate member active
  obtain ⟨old, oldMem, ⟨_, rfl⟩ | ⟨_, rfl⟩⟩ := mem_writeRevocation.mp member
  · simp [PncContractCertificate.revoke] at active
  · exact none certificate oldMem active

theorem keepsActive_of_error {refused : PncException}
    (failed : request.run runtime store call = .error refused) :
    KeepsActive runtime store (call, request) := by
  have notDone (after : Store) : request.run runtime store call ≠ .ok after := by
    simp [failed]
  cases request with
  | createContract | revokeCertificate => trivial
  | updateContract contractId dto =>
    intro contract data passes
    exact absurd (updateContract_eq_ok_iff.mpr ⟨contract, data, passes, rfl⟩) (notDone _)
  | issueCertificate contractId dto =>
    intro contract certificate passes
    exact absurd (issueCertificate_eq_ok_iff.mpr ⟨contract, certificate, passes, rfl⟩)
      (notDone _)

theorem noneOutlives_next_iff (own : OwnContracts store) (none : NoneOutlives store)
    (request : Request) : NoneOutlives (next runtime store (call, request)) ↔
      KeepsActive runtime store (call, request) := by
  cases ran : request.run runtime store call with
  | error refused =>
    rw [next_of_error ran]
    exact iff_of_true none (keepsActive_of_error ran)
  | ok after =>
    rw [next_of_ok ran]
    cases request with
    | createContract dto =>
      obtain ⟨contract, free, rfl⟩ := createContract_of_ok ran
      exact iff_of_true (noneOutlives_insert_contract own none free) trivial
    | updateContract contractId dto =>
      obtain ⟨contract, data, passes, rfl⟩ := updateContract_eq_ok_iff.mp ran
      obtain ⟨member, rfl⟩ := Table.find?_eq_some_iff.mp passes.found
      rw [noneOutlives_writeContract_iff none member]
      constructor
      · intro kept contract' data' passes'
        obtain rfl := Option.some.inj (passes.found.symm.trans passes'.found)
        obtain rfl := Except.ok.inj (passes.valid.symm.trans passes'.valid)
        exact kept
      · intro kept
        exact kept contract data passes
    | issueCertificate contractId dto =>
      obtain ⟨contract, certificate, passes, rfl⟩ := issueCertificate_eq_ok_iff.mp ran
      rw [noneOutlives_insert_certificate_iff none passes]
      constructor
      · intro active contract' certificate' passes'
        rwa [← Option.some.inj (passes.found.symm.trans passes'.found)]
      · intro active
        exact active contract certificate passes
    | revokeCertificate certificateId dto =>
      obtain ⟨certificate, _, rfl⟩ := revokeCertificate_eq_ok_iff.mp ran
      exact iff_of_true (noneOutlives_writeRevocation none _ _ _) trivial

/-! ## Revocations -/

def StaysRevoked (before after : Store) : Prop :=
  ∀ id certificate, before.certificates.find? id = some certificate →
    certificate.status = .revoked →
      ∃ later, after.certificates.find? id = some later ∧ later.status = .revoked

theorem StaysRevoked.trans (first second third : Store) (stays : StaysRevoked first second)
    (staysOn : StaysRevoked second third) : StaysRevoked first third := by
  intro id certificate found revoked
  obtain ⟨later, laterFound, laterRevoked⟩ := stays id certificate found revoked
  exact staysOn id later laterFound laterRevoked

theorem staysRevoked_next (request : Request) :
    StaysRevoked store (next runtime store (call, request)) := by
  intro id certificate found revoked
  rcases @find?_next runtime store call _ request _ found with
    same | ⟨dto, _, _, isRevoked⟩
  · exact ⟨certificate, same, revoked⟩
  · exact ⟨_, isRevoked, rfl⟩

/-- A revoked certificate keeps the time and the reason of its revocation. -/
def KeepsRevocation (before after : Store) : Prop :=
  ∀ id certificate, before.certificates.find? id = some certificate →
    certificate.status = .revoked →
      ∃ later, after.certificates.find? id = some later ∧ later.status = .revoked ∧
        later.revokedAt = certificate.revokedAt ∧
        later.revocationReason = certificate.revocationReason

theorem KeepsRevocation.trans (first second third : Store) (keeps : KeepsRevocation first second)
    (keepsOn : KeepsRevocation second third) : KeepsRevocation first third := by
  intro id certificate found revoked
  obtain ⟨later, laterFound, laterRevoked, sameTime, sameReason⟩ :=
    keeps id certificate found revoked
  obtain ⟨last, lastFound, lastRevoked, lastTime, lastReason⟩ :=
    keepsOn id later laterFound laterRevoked
  exact ⟨last, lastFound, lastRevoked, lastTime.trans sameTime, lastReason.trans sameReason⟩

theorem KeepsRevocation.revokedAt_eq {before : Store} (keeps : KeepsRevocation before after)
    {id : String}
    (revoked : (before.certificates.find? id).map PncContractCertificate.status = some .revoked) :
    (after.certificates.find? id).map PncContractCertificate.revokedAt =
      (before.certificates.find? id).map PncContractCertificate.revokedAt := by
  obtain ⟨certificate, found, isRevoked⟩ := Option.map_eq_some_iff.mp revoked
  obtain ⟨later, laterFound, _, sameTime, _⟩ := keeps id certificate found isRevoked
  rw [found, laterFound, Option.map_some, Option.map_some, sameTime]

/-- No revoked certificate is revoked again, at another time or for another reason. -/
def RevokesOnce (store : Store) (request : Call × Request) : Prop :=
  match request.2 with
  | .revokeCertificate certificateId dto =>
    ∀ certificate, RevokePasses request.1 store certificateId certificate →
      certificate.status = .revoked →
        certificate.revokedAt = some request.1.now ∧
          certificate.revocationReason = some dto.reasonText
  | _ => True

theorem keepsRevocation_next_iff (request : Request) :
    KeepsRevocation store (next runtime store (call, request)) ↔
      RevokesOnce store (call, request) := by
  constructor
  · intro keeps
    cases request with
    | revokeCertificate certificateId dto =>
      intro certificate passes revoked
      have done : (Request.revokeCertificate certificateId dto).run runtime store call =
          .ok (store.writeRevocation certificate.id call.now dto.reasonText) :=
        revokeCertificate_eq_ok_iff.mpr ⟨certificate, passes, rfl⟩
      obtain ⟨later, laterFound, _, sameTime, sameReason⟩ :=
        keeps certificateId certificate passes.found revoked
      obtain ⟨_, rfl⟩ := Table.find?_eq_some_iff.mp passes.found
      rw [next_of_ok done, find?_writeRevocation, passes.found, Option.map_some,
        if_pos rfl] at laterFound
      obtain rfl := Option.some.inj laterFound
      exact ⟨sameTime.symm, sameReason.symm⟩
    | _ => trivial
  · intro once id certificate found revoked
    rcases @find?_next runtime store call _ request _ found with
      same | ⟨dto, rfl, passes, isRevoked⟩
    · exact ⟨certificate, same, revoked, rfl, rfl⟩
    · obtain ⟨sameTime, sameReason⟩ := once certificate passes revoked
      exact ⟨_, isRevoked, rfl, sameTime.symm, sameReason.symm⟩

/-! ## Runs -/

/-- The certificate was issued during the run, and its charge points then belonged to its tenant
or to nobody. -/
def IssuedIn (runtime : Runtime) (store : Store) (requests : List (Call × Request))
    (certificate : PncContractCertificate) : Prop :=
  ∃ before call contractId dto later,
    requests = before ++ (call, .issueCertificate contractId dto) :: later ∧
      (final (next runtime) store before).certificates.find? certificate.id = none ∧
      ∀ chargePointId ∈ certificate.mappedChargePointIds,
        IsMappable call certificate.organizationId chargePointId

theorem IssuedIn.cons {requests : List (Call × Request)} (request : Call × Request)
    (issued : IssuedIn runtime (next runtime store request) requests certificate) :
    IssuedIn runtime store (request :: requests) certificate := by
  obtain ⟨before, call, contractId, dto, later, rfl, free, mappable⟩ := issued
  exact ⟨request :: before, call, contractId, dto, later, rfl, free, mappable⟩

/-- Every certificate was there at the start, or is issued during the run. -/
theorem origin_of_mem_final {requests : List (Call × Request)}
    (member : certificate ∈ (final (next runtime) store requests).certificates.rows) :
    (∃ old ∈ store.certificates.rows, SameIssue old certificate) ∨
      IssuedIn runtime store requests certificate := by
  induction requests generalizing store with
  | nil => exact Or.inl ⟨certificate, member, rfl, rfl, rfl, rfl⟩
  | cons request requests ih =>
    rcases ih member with ⟨old, oldMem, same⟩ | issued
    · rcases origin_of_mem_next oldMem with
        ⟨first, firstMem, sameFirst, _⟩ | ⟨contractId, dto, contract, isIssue, passes⟩
      · exact Or.inl ⟨first, firstMem, sameFirst.id.trans same.id,
          sameFirst.contractId.trans same.contractId,
          sameFirst.organizationId.trans same.organizationId,
          sameFirst.mappedChargePointIds.trans same.mappedChargePointIds⟩
      · obtain ⟨_, isOwn, _, mappable⟩ := certificate_of_valid passes.valid
        right
        refine ⟨[], request.1, contractId, dto, requests, ?_, ?_, ?_⟩
        · rw [← isIssue]
          rfl
        · rw [← same.id]
          exact id_free_of_issue passes
        · rw [← same.mappedChargePointIds, ← same.organizationId, isOwn]
          exact mappable
    · exact Or.inr (issued.cons request)

/-- In every run certificates stay with contracts and charge points of their tenants, and revoked
ones stay revoked.  None is active without its contract, and none loses its first revocation,
exactly when every step of the run meets the condition for it. -/
theorem certificates_of_run (own : OwnContracts store) (none : NoneOutlives store)
    (requests : List (Call × Request)) :
    (∀ reached ∈ states (next runtime) store requests, OwnContracts reached) ∧
      ((∀ reached ∈ states (next runtime) store requests, NoneOutlives reached) ↔
        StepsMeet (next runtime) (KeepsActive runtime) store requests) ∧
      (states (next runtime) store requests).Pairwise StaysRevoked ∧
      ((states (next runtime) store requests).Pairwise KeepsRevocation ↔
        StepsMeet (next runtime) RevokesOnce store requests) ∧
      ∀ certificate ∈ (final (next runtime) store requests).certificates.rows,
        (∃ old ∈ store.certificates.rows, SameIssue old certificate) ∨
          IssuedIn runtime store requests certificate := by
  have keepsOwn : ∀ store request, OwnContracts store →
      OwnContracts (next runtime store request) :=
    fun store request own => ownContracts_next own request.2
  refine ⟨forall_mem_states keepsOwn own requests, ?_, ?_, ?_, ?_⟩
  · exact forall_mem_states_iff_stepsMeet OwnContracts keepsOwn
      (fun store request own none => noneOutlives_next_iff own none request.2) own none requests
  · have stays : ∀ store request, StaysRevoked store (next runtime store request) :=
      fun store request => staysRevoked_next request.2
    exact pairwise_states_of_stepsMeet StaysRevoked.trans
      (stepsMeet_of_forall stays store requests)
  · have agree : ∀ store request,
        KeepsRevocation store (next runtime store request) ↔ RevokesOnce store request :=
      fun store request => keepsRevocation_next_iff request.2
    rw [← stepsMeet_congr agree store requests]
    exact ⟨stepsMeet_of_pairwise_states, pairwise_states_of_stepsMeet KeepsRevocation.trans⟩
  · intro certificate member
    exact origin_of_mem_final member

/-! ## A certificate for a suspended contract -/

namespace Sample

def utc : Runtime where
  toUpperCase := Js.toUpperCase
  newDate _ := none

def acmeCall (now : Int) (newId : String) : Call where
  context := some ⟨some "acme", none⟩
  actorId := "root"
  roleOf _ := some .superAdmin
  membershipOf _ _ := none
  chargePoints _ := some ⟨none, none⟩
  now
  newId

def nothing : Store where
  contracts := Table.empty
  certificates := Table.empty

def createsContract : Call × Request :=
  (acmeCall 1 "contract", .createContract
    { contractRef := "EV-1"
      eMobilityAccountId := none
      providerPartyId := none
      vehicleVin := none
      status := none })

def suspends : Call × Request :=
  (acmeCall 2 "", .updateContract "contract"
    { eMobilityAccountId := none
      providerPartyId := none
      vehicleVin := none
      status := some "suspended" })

def issues : Call × Request :=
  (acmeCall 3 "certificate", .issueCertificate "contract"
    { certificateHash := "0123456789abcdef0123456789abcdef"
      certificateType := none
      validFrom := none
      validTo := none
      mappedChargePointIds := some ["garage"] })

def revokes (now : Int) (reason : String) : Call × Request :=
  (acmeCall now "", .revokeCertificate "certificate" ⟨some reason⟩)

def issuedStore : Store :=
  final (next utc) nothing [createsContract, suspends, issues]

def revokedStore : Store :=
  next utc issuedStore (revokes 4 "lost")

def lifeOfCertificate : List (Call × Request) :=
  [createsContract, issues, revokes 4 "lost"]

end Sample

open Sample in
/-- A certificate that is issued for a suspended contract, with a charge point that nobody owns,
and is revoked twice. -/
theorem suspended_outlived : ¬NoneOutlives issuedStore ∧
      ¬(∀ certificate ∈ issuedStore.certificates.rows,
        ∀ chargePointId ∈ certificate.mappedChargePointIds,
          ((issues.1.chargePoints chargePointId).bind Station.ownerTenant) =
            some certificate.organizationId) ∧
      ¬KeepsRevocation revokedStore (next utc revokedStore (revokes 5 "stolen")) := by
  refine ⟨?_, by decide +kernel, ?_⟩
  · unfold NoneOutlives
    decide +kernel
  · intro keeps
    have isRevoked : (revokedStore.certificates.find? "certificate").map
        PncContractCertificate.status = some .revoked := by decide +kernel
    have sameTime := keeps.revokedAt_eq isRevoked
    revert sameTime
    decide +kernel

open Sample in
theorem certificates_of_sample :
    (∀ reached ∈ states (next utc) nothing lifeOfCertificate, NoneOutlives reached) ∧
      (states (next utc) nothing lifeOfCertificate).Pairwise KeepsRevocation := by
  have own : OwnContracts nothing := by simp [OwnContracts, nothing]
  have none : NoneOutlives nothing := by simp [NoneOutlives, nothing]
  obtain ⟨_, outlives, _, keeps, _⟩ :=
    @certificates_of_run utc nothing own none lifeOfCertificate
  refine ⟨outlives.mpr ⟨trivial, ?_, trivial, trivial⟩, keeps.mpr ⟨trivial, trivial, ?_, trivial⟩⟩
  · intro contract certificate passes
    have active : ((next utc nothing createsContract).contracts.find? "contract").map
        PncContract.status = some .active := by decide +kernel
    have found := congrArg (Option.map PncContract.status) passes.found
    exact Option.some.inj (found.symm.trans active)
  · intro certificate passes revoked
    have active : ((final (next utc) nothing [createsContract, issues]).certificates.find?
        "certificate").map PncContractCertificate.status = some .active := by decide +kernel
    have found := congrArg (Option.map PncContractCertificate.status) passes.found
    have isActive := Option.some.inj (found.symm.trans active)
    simp [isActive] at revoked

end Csms.Pnc
