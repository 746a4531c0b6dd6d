import Csms.Database.Attains
import Csms.Provisioning.Secured

/-!
# Operations on a charger that interleave

An identity is read, and written as a whole later; the row of the charge point is written after
that.  If each identity write finds the identity that its request has read, and each row write the
flag that it is for, no operation is lost: certificates stay, a bootstrap that was disabled is
enabled again only by a request for it, and at the end the row is in step with the identity.
-/

namespace Csms.Provisioning

open Js Database

def Store.isBootstrapOn (store : Store) (key : String) : Bool :=
  (store.identities key).any RedisChargerIdentity.isBootstrapOn

def Store.HasCertificate (store : Store) (key fingerprint : String) : Prop :=
  ∃ identity, store.identities key = some identity ∧
    ∃ certificate ∈ identity.certificates, certificate.fingerprint = some fingerprint

/-- No creation. -/
def IdentityChange.isRebuild : IdentityChange → Bool
  | provision _ _ _ _ options => options.isNone
  | _ => true

/-- The identity is the one that was read, the row is for the flag that the identity has, and no
charge point is created by a request or removed. -/
def ProvisioningWrite.findsAsRead (store : Store) : ProvisioningWrite → Bool
  | setIdentity id key existing change =>
    store.identities key = existing && change.isRebuild &&
      (store.chargePoints.find? id).any fun row => row.ocppId = key
  | setAllowedInsecure id allowed =>
    (store.chargePoints.find? id).any fun row => store.isBootstrapOn row.ocppId = allowed
  | removeChargePoint _ => false
  | _ => true

def findsAsRead : Conditions Store ProvisioningQuery ProvisioningWrite ProvisioningAction where
  onArrive _ _ := true
  onQuery _ _ _ := true
  onCommit _ write shared := write.findsAsRead shared.store

/-! ## What a change does to the flag -/

/-- Whether the bootstrap is on after the change. -/
def IdentityChange.leavesOn : IdentityChange → Bool → Bool
  | provision _ _ _ _ options, wasOn =>
    match options.bind ProvisioningOptions.authProfile with
    | none => wasOn
    | some profile => profile = .mtlsBootstrap
  | bindCertificate .., _ => false
  | updateBootstrap _ input, _ => input.enabled

section Changes

variable {config : BootstrapConfig} {key : String} {change : IdentityChange}
  {existing : Option RedisChargerIdentity} {identity : RedisChargerIdentity}

theorem isBootstrapOn_of_apply (applied : change.apply config key existing = .ok identity) :
    identity.isBootstrapOn = change.leavesOn (existing.any RedisChargerIdentity.isBootstrapOn) := by
  cases change with
  | provision now chargePoint station ocppVersion options =>
    cases applied
    rcases options with _ | ⟨_ | _ | _, ttl, ips, cidrs⟩ <;> cases existing <;> rfl
  | bindCertificate now nowText chargePointId input =>
    cases existing with
    | none => contradiction
    | some old =>
      cases applied
      rfl
  | updateBootstrap now input =>
    cases existing with
    | none => contradiction
    | some old =>
      dsimp only [IdentityChange.apply, updateBootstrap] at applied
      split at applied
      · rename_i isEnabled
        split at applied
        · contradiction
        · cases applied
          exact isEnabled.symm
      · rename_i notEnabled
        cases applied
        exact (Bool.eq_false_of_not_eq_true notEnabled).symm

theorem hasFingerprint_of_apply {fingerprint : String} (isValid : isFingerprint fingerprint = true)
    (applied : change.apply config key existing = .ok identity) {old : RedisChargerIdentity}
    (isOld : existing = some old) {certificate : Certificate}
    (member : certificate ∈ old.certificates) (isIts : certificate.fingerprint = some fingerprint) :
    ∃ certificate ∈ identity.certificates, certificate.fingerprint = some fingerprint := by
  subst isOld
  cases change with
  | provision now chargePoint station ocppVersion options =>
    cases applied
    refine ⟨certificate, ?_, isIts⟩
    rcases options with _ | ⟨_ | _ | _, ttl, ips, cidrs⟩ <;> exact member
  | bindCertificate now nowText chargePointId input =>
    cases applied
    by_cases same : normalizeFingerprint input.fingerprint = fingerprint
    · refine ⟨_, List.mem_append_right _ (List.mem_singleton_self _), ?_⟩
      rw [same]
    · refine ⟨certificate, List.mem_append_left _ (List.mem_filter.mpr ⟨member, ?_⟩), isIts⟩
      have notEmpty : fingerprint ≠ "" := by
        rintro rfl
        exact normalizeFingerprint_ne_of_isFingerprint isValid
          (normalizeFingerprint_of_isFingerprint isValid)
      simp [isIts, orText, notEmpty, normalizeFingerprint_of_isFingerprint isValid, Ne.symm same]
  | updateBootstrap now input =>
    dsimp only [IdentityChange.apply, updateBootstrap] at applied
    split at applied
    · split at applied
      · contradiction
      · cases applied
        exact ⟨certificate, member, isIts⟩
    · cases applied
      exact ⟨certificate, member, isIts⟩

theorem hasFingerprint_of_bindCertificate {now : Int} {nowText chargePointId : String}
    {input : CertificateBindInput} (isValid : isFingerprint input.fingerprint = true)
    (applied : (IdentityChange.bindCertificate now nowText chargePointId input).apply config key
      existing = .ok identity) : ∃ certificate ∈ identity.certificates,
      certificate.fingerprint = some input.fingerprint := by
  cases existing with
  | none => contradiction
  | some old =>
    cases applied
    refine ⟨_, List.mem_append_right _ (List.mem_singleton_self _), ?_⟩
    exact congrArg some (normalizeFingerprint_of_isFingerprint isValid)

end Changes

/-! ## Certificates -/

def CertificatesStay (before after : Shared Store ProvisioningWrite) : Prop :=
  ∀ key fingerprint, isFingerprint fingerprint = true →
    before.store.HasCertificate key fingerprint → after.store.HasCertificate key fingerprint

variable {chargePointId : String}

section Certificates

variable {runtime : ProvisioningRuntime} {action : ProvisioningAction} {id : Nat}

theorem hasCertificate_setIdentity {store after : Store} {chargePointId key : String}
    {existing : Option RedisChargerIdentity} {change : IdentityChange}
    (isAsRead : store.identities key = existing)
    (happens : (ProvisioningWrite.setIdentity chargePointId key existing change).effect runtime
      store = some (after, ())) {other fingerprint : String}
    (isValid : isFingerprint fingerprint = true) (has : store.HasCertificate other fingerprint) :
    after.HasCertificate other fingerprint := by
  obtain ⟨identity, applied, rfl⟩ := ProvisioningWrite.setIdentity_eq_some_iff.mp happens
  obtain ⟨old, isOld, certificate, member, isIts⟩ := has
  by_cases isKey : other = key
  · subst isKey
    exact ⟨identity, Function.update_self _ _ _,
      hasFingerprint_of_apply isValid applied (isAsRead.symm.trans isOld) member isIts⟩
  · exact ⟨old, (Function.update_of_ne isKey _ _).trans isOld, certificate, member, isIts⟩

theorem guarantee_certificatesStay (runtime : ProvisioningRuntime) :
    Guarantee (fun write => (ProvisioningWrite.body runtime write).run) findsAsRead
      CertificatesStay where
  refl _ _ _ _ has := has
  trans _ _ _ first second key fingerprint isValid has :=
    second key fingerprint isValid (first key fingerprint isValid has)
  commit action id shared write after result allowed happens := by
    intro key fingerprint isValid has
    rw [ProvisioningWrite.run_body] at happens
    by_cases isOther : write.time? = none
    · obtain ⟨identity, isIdentity, hasIt⟩ := has
      refine ⟨identity, ?_, hasIt⟩
      change after.identities key = some identity
      rw [ProvisioningWrite.identities_of_effect isOther happens]
      exact isIdentity
    · cases write with
      | setIdentity chargePointId other existing change =>
        have isAsRead : decide (shared.store.identities other = existing) = true :=
          (Bool.and_eq_true_iff.mp (Bool.and_eq_true_iff.mp allowed).1).1
        exact hasCertificate_setIdentity (of_decide_eq_true isAsRead) happens isValid has
      | _ => exact absurd rfl isOther

/-- What a request is answered with stands for a certificate that is there. -/
def ProvisioningAnswer.IsKept (answer : ProvisioningAnswer) (shared : Shared Store ProvisioningWrite) :
    Prop :=
  match answer with
  | .certificateBound _ key fingerprint =>
    isFingerprint fingerprint = true ∧ shared.store.HasCertificate key fingerprint
  | _ => True

abbrev AttainsKept (runtime : ProvisioningRuntime) (action : ProvisioningAction) (id : Nat)
    (program : ProvisioningRequest ProvisioningAnswer) : Prop :=
  program.Attains (fun write => (ProvisioningWrite.body runtime write).run) findsAsRead
    CertificatesStay action id ProvisioningAnswer.IsKept

/-- A binding has put its certificate there. -/
theorem attains_changeIdentity {chargePointId key nowText : String} {now : Int}
    (input : CertificateBindInput) (isValid : isFingerprint input.fingerprint = true)
    {failure : HttpException} :
    (changeIdentity runtime chargePointId key (.bindCertificate now nowText key input)
      failure).Attains (fun write => (ProvisioningWrite.body runtime write).run) findsAsRead
      CertificatesStay action id
      fun _ shared => shared.store.HasCertificate key input.fingerprint := by
  refine (guarantee_certificatesStay runtime).attains_bind fun existing _ => ?_
  split
  · exact (guarantee_certificatesStay runtime).attains_throw
  · apply (guarantee_certificatesStay runtime).attains_commit
    · intro _ earlier later stay has
      exact stay key input.fingerprint isValid has
    · intro shared after result _ happens
      rw [ProvisioningWrite.run_body] at happens
      obtain ⟨identity, applied, rfl⟩ := ProvisioningWrite.setIdentity_eq_some_iff.mp happens
      exact ⟨identity, Function.update_self _ _ _,
        hasFingerprint_of_bindCertificate isValid applied⟩

theorem attainsKept_bind {α : Type} {first : ProvisioningRequest α}
    {next : α → ProvisioningRequest ProvisioningAnswer}
    (onward : ∀ value, first.Answers (fun _ => True) value →
      AttainsKept runtime action id (next value)) :
    AttainsKept runtime action id (first >>= next) :=
  (guarantee_certificatesStay runtime).attains_bind onward

theorem attainsKept_throw {exception : HttpException} :
    AttainsKept runtime action id (.throw exception) :=
  (guarantee_certificatesStay runtime).attains_throw

theorem attainsKept_pure {answer : ProvisioningAnswer} (isKept : ∀ shared, answer.IsKept shared) :
    AttainsKept runtime action id (pure answer) :=
  (guarantee_certificatesStay runtime).attains_of_answers fun value answers later => by
    rw [answers_pure_iff.mp answers]
    exact isKept later

theorem attainsKept_bindChargePointCertificate {call : ProvisioningCall}
    {dto : BindChargePointCertificateDto} :
    AttainsKept runtime action id (bindChargePointCertificate runtime call chargePointId dto) := by
  refine attainsKept_bind fun chargePoint _ => attainsKept_bind fun _ isChecked => ?_
  refine attainsKept_bind fun _ _ => attainsKept_bind fun _ _ => ?_
  have isValid := isFingerprint_of_assertValidFingerprint isChecked.of_ofExcept
  let input : CertificateBindInput :=
    ⟨normalizeFingerprint dto.fingerprint, dto.subject, dto.validFrom, dto.validTo⟩
  refine (guarantee_certificatesStay runtime).attains_of_first
    (attains_changeIdentity input isValid) ?_ ?_
  · intro _ earlier later stay has
    exact stay _ _ isValid has
  · intro _ answer _ answers later has
    obtain ⟨_, _, answers⟩ := answers.of_bind
    rw [answers_pure_iff.mp answers]
    exact ⟨isValid, has⟩

theorem attainsKept_program (runtime : ProvisioningRuntime) (action : ProvisioningAction)
    (id : Nat) : AttainsKept runtime action id (action.program runtime) := by
  obtain ⟨call, operation⟩ := action
  cases operation with
  | createChargePoint dto =>
    refine attainsKept_bind fun owns _ => attainsKept_bind fun _ _ => ?_
    refine attainsKept_bind fun found _ => ?_
    cases found with
    | none => exact attainsKept_throw
    | some station =>
      refine attainsKept_bind fun _ _ => attainsKept_bind fun _ _ => ?_
      exact attainsKept_pure fun _ => trivial
  | handleBootNotification ocppId =>
    refine attainsKept_bind fun found _ => ?_
    cases found with
    | none =>
      refine attainsKept_bind fun station _ => attainsKept_bind fun _ _ => ?_
      exact attainsKept_bind fun _ _ => attainsKept_pure fun _ => trivial
    | some chargePoint =>
      refine attainsKept_bind fun updated _ => attainsKept_bind fun _ _ => ?_
      exact attainsKept_pure fun _ => trivial
  | bindChargePointCertificate chargePointId dto => exact attainsKept_bindChargePointCertificate
  | updateChargePointBootstrap chargePointId dto =>
    refine attainsKept_bind fun chargePoint _ => attainsKept_bind fun _ _ => ?_
    refine attainsKept_bind fun _ _ => attainsKept_bind fun _ _ => attainsKept_bind fun _ _ => ?_
    refine attainsKept_bind fun _ _ => attainsKept_bind fun _ _ => ?_
    exact attainsKept_pure fun _ => trivial
  | removeChargePoint chargePointId =>
    refine attainsKept_bind fun existing _ => attainsKept_bind fun _ _ => ?_
    exact attainsKept_pure fun _ => trivial

end Certificates

/-! ## The bootstrap -/

/-- The write asks for the bootstrap of the charger. -/
def ProvisioningWrite.enables (key : String) : ProvisioningWrite → Bool
  | setIdentity _ other _ change => other = key && change.leavesOn false
  | _ => false

/-- The write ends the bootstrap of the charger. -/
def ProvisioningWrite.disables (key : String) : ProvisioningWrite → Bool
  | setIdentity _ other _ change => other = key && !change.leavesOn true
  | _ => false

/-- The commit replaces the identity that its request has read. -/
def IsFresh (key : String) (commit : Commit Store ProvisioningWrite) : Prop :=
  ∃ id change, commit.label = .setIdentity id key (commit.before.identities key) change

/-- A bootstrap that was disabled is on only after a later request for it, which has read what it
replaced. -/
def StaysDisabled (shared : Shared Store ProvisioningWrite) : Prop :=
  ∀ key earlier commit later, shared.commits = earlier ++ commit :: later →
    commit.label.disables key = true → shared.store.isBootstrapOn key = true →
      ∃ other ∈ later, other.label.enables key = true ∧ IsFresh key other

section Bootstrap

variable {runtime : ProvisioningRuntime} {shared : Shared Store ProvisioningWrite}
  {write : ProvisioningWrite} {after : Store} {result : write.Result} {key : String}

theorem isBootstrapOn_of_effect (key : String) (allowed : write.findsAsRead shared.store = true)
    (happens : write.effect runtime shared.store = some (after, result)) :
    (∃ id change, write = .setIdentity id key (shared.store.identities key) change ∧
        after.isBootstrapOn key = change.leavesOn (shared.store.isBootstrapOn key)) ∨
      (∀ id existing change, write ≠ .setIdentity id key existing change) ∧
        after.isBootstrapOn key = shared.store.isBootstrapOn key := by
  by_cases isOther : write.time? = none
  · right
    constructor
    · rintro id existing change rfl
      contradiction
    · rw [Store.isBootstrapOn, ProvisioningWrite.identities_of_effect isOther happens]
      rfl
  · cases write with
    | setIdentity id other existing change =>
      have isAsRead : decide (shared.store.identities other = existing) = true :=
        (Bool.and_eq_true_iff.mp (Bool.and_eq_true_iff.mp allowed).1).1
      obtain rfl := of_decide_eq_true isAsRead
      obtain ⟨identity, applied, rfl⟩ := ProvisioningWrite.setIdentity_eq_some_iff.mp happens
      by_cases isKey : other = key
      · subst isKey
        refine Or.inl ⟨id, change, rfl, ?_⟩
        change Option.any _ (Function.update shared.store.identities other (some identity) other)
          = _
        rw [Function.update_self, Option.any_some, isBootstrapOn_of_apply applied]
        rfl
      · right
        constructor
        · rintro _ _ _ ⟨⟩
          exact isKey rfl
        · change Option.any _ (Function.update shared.store.identities other (some identity) key)
            = _
          rw [Function.update_of_ne (Ne.symm isKey)]
          rfl
    | _ => exact absurd rfl isOther

theorem IdentityChange.leavesOn_eq_false {change : IdentityChange} (ends : change.leavesOn true = false)
    (wasOn : Bool) : change.leavesOn wasOn = false := by
  cases wasOn with
  | true => exact ends
  | false =>
    cases change with
    | provision now chargePoint station ocppVersion options =>
      simp only [leavesOn] at ends ⊢
      cases isProfile : options.bind ProvisioningOptions.authProfile with
      | none => rfl
      | some profile =>
        rw [isProfile] at ends
        exact ends
    | bindCertificate => rfl
    | updateBootstrap => exact ends

theorem StaysDisabled.commit (stays : StaysDisabled shared)
    (allowed : write.findsAsRead shared.store = true)
    (happens : write.effect runtime shared.store = some (after, result)) {id : Nat} :
    StaysDisabled (shared.commit id write after) := by
  intro key earlier commit later isCommit disables isOn
  rw [Shared.commits_commit] at isCommit
  change after.isBootstrapOn key = true at isOn
  have changed := isBootstrapOn_of_effect key allowed happens
  rcases append_singleton_eq_append_cons isCommit with ⟨rfl, rfl⟩ | ⟨rest, rfl, isOld⟩
  · -- the write that ends it leaves it off
    rcases changed with ⟨_, change, rfl, isAfter⟩ | ⟨isOther, _⟩
    · have ends : change.leavesOn true = false := by
        simpa [ProvisioningWrite.disables] using disables
      rw [isAfter, IdentityChange.leavesOn_eq_false ends] at isOn
      contradiction
    · cases write with
      | setIdentity chargePointId other existing change =>
        have isKey : other = key :=
          of_decide_eq_true (Bool.and_eq_true_iff.mp disables).1
        exact absurd (isKey ▸ rfl) (isOther chargePointId existing change)
      | _ => contradiction
  · by_cases wasOn : shared.store.isBootstrapOn key = true
    · obtain ⟨other, member, enables⟩ := stays key earlier commit rest isOld disables wasOn
      exact ⟨other, List.mem_append_left _ member, enables⟩
    · have wasOff := Bool.eq_false_of_not_eq_true wasOn
      refine ⟨_, List.mem_append_right _ (List.mem_singleton_self _), ?_⟩
      rcases changed with ⟨chargePointId, change, rfl, isAfter⟩ | ⟨_, isAfter⟩
      · rw [isAfter, wasOff] at isOn
        exact ⟨by simpa [ProvisioningWrite.enables] using isOn, chargePointId, change, rfl⟩
      · rw [isAfter] at isOn
        exact absurd isOn wasOn

end Bootstrap

/-! ## The row of the charge point -/

/-- What the request has to write to the row after it. -/
def ProvisioningWrite.follow : ProvisioningWrite → Option ProvisioningWrite
  | setIdentity id _ _ (.bindCertificate ..) => some (setAllowedInsecure id false)
  | setIdentity id _ _ (.updateBootstrap _ input) => some (setAllowedInsecure id input.enabled)
  | _ => none

/-- Whose flag is written. -/
def ProvisioningWrite.rowOf : ProvisioningWrite → Option String
  | setAllowedInsecure id _ => some id
  | _ => none

/-- An identity was written, and the row has not been since. -/
def Pending (id : String) (shared : Shared Store ProvisioningWrite) : Prop :=
  ∃ earlier commit later, shared.commits = earlier ++ commit :: later ∧
    (commit.label.follow.bind ProvisioningWrite.rowOf = some id) ∧
      ∀ other ∈ later, other.label.rowOf ≠ some id

/-- The charge point is there, is the only one of its charger, and has the flag of the identity
or is going to get it. -/
structure InStep (id key : String) (shared : Shared Store ProvisioningWrite) : Prop where
  unique : ∀ row ∈ shared.store.chargePoints.rows, row.ocppId = key → row.id = id
  present : ∃ row ∈ shared.store.chargePoints.rows, row.id = id ∧ row.ocppId = key
  flag : (∀ row ∈ shared.store.chargePoints.rows, row.id = id →
    row.allowedInsecure = shared.store.isBootstrapOn key) ∨ Pending id shared

variable {isAllowed : Bool}

section Rows

variable {runtime : ProvisioningRuntime} {shared : Shared Store ProvisioningWrite}
  {write : ProvisioningWrite} {after : Store} {result : write.Result} {id key : String}
  {session : Nat}

theorem Pending.commit (pending : Pending id shared) (isOther : write.rowOf ≠ some id) :
    Pending id (shared.commit session write after) := by
  obtain ⟨earlier, commit, later, isCommit, isIts, others⟩ := pending
  refine ⟨earlier, commit, later ++ [⟨session, write, shared.store, after⟩], ?_, isIts, ?_⟩
  · rw [Shared.commits_commit, isCommit, List.append_assoc, List.cons_append]
  · exact List.forall_mem_append.mpr ⟨others, List.forall_mem_singleton.mpr isOther⟩

theorem pending_commit (follows : write.follow.bind ProvisioningWrite.rowOf = some id) :
    Pending id (shared.commit session write after) :=
  ⟨shared.commits, _, [], Shared.commits_commit .., follows, fun _ => nofun⟩

theorem InStep.createChargePoint {row : ChargePoint} (inStep : InStep id key shared)
    (happens : (ProvisioningWrite.createChargePoint row).effect runtime shared.store =
      some (after, ())) : InStep id key (shared.commit session (.createChargePoint row) after) := by
  obtain ⟨present, isPresent, isId, isKey⟩ := inStep.present
  rw [ProvisioningWrite.effect] at happens
  split at happens
  · contradiction
  · rename_i notTaken
    obtain ⟨grown, inserted, done⟩ := Option.map_eq_some_iff.mp happens
    cases done
    obtain ⟨notUsed, isGrown⟩ := Table.insert?_eq_some_iff.mp inserted
    have isNew : ∀ old ∈ shared.store.chargePoints.rows, old.ocppId ≠ row.ocppId := by
      simpa [Store.chargePointOf?] using notTaken
    refine ⟨?_, ⟨present, ?_, isId, isKey⟩, inStep.flag.imp ?_ fun pending =>
      pending.commit (by rintro ⟨⟩)⟩
    · change ∀ row ∈ grown.rows, _
      rw [isGrown]
      refine List.forall_mem_append.mpr ⟨inStep.unique, List.forall_mem_singleton.mpr ?_⟩
      intro isIts
      exact absurd (isKey.trans isIts.symm) (isNew present isPresent)
    · change present ∈ grown.rows
      rw [isGrown]
      exact List.mem_append_left _ isPresent
    · intro same
      change ∀ row ∈ grown.rows, _
      rw [isGrown]
      refine List.forall_mem_append.mpr ⟨same, List.forall_mem_singleton.mpr ?_⟩
      rintro rfl
      exact absurd (isId ▸ List.mem_map_of_mem isPresent) notUsed

/-- Where a row comes from. -/
theorem exists_of_setAllowedInsecure {store : Store}
    (happens : (ProvisioningWrite.setAllowedInsecure chargePointId isAllowed).effect runtime store = some (after, ()))
    {row : ChargePoint} (member : row ∈ after.chargePoints.rows) : ∃ old ∈ store.chargePoints.rows,
      (old.id = chargePointId ∧ row = { old with allowedInsecure := isAllowed }) ∨
        (old.id ≠ chargePointId ∧ row = old) := by
  obtain ⟨_, _, done⟩ := Option.map_eq_some_iff.mp happens
  cases done
  obtain ⟨old, isOld, rfl⟩ := List.mem_map.mp member
  refine ⟨old, isOld, ?_⟩
  by_cases isIt : old.id = chargePointId <;> simp [isIt]

theorem InStep.setAllowedInsecure (inStep : InStep id key shared)
    (allowed : (ProvisioningWrite.setAllowedInsecure chargePointId isAllowed).findsAsRead shared.store = true)
    (happens : (ProvisioningWrite.setAllowedInsecure chargePointId isAllowed).effect runtime shared.store = some (after, ())) :
    InStep id key (shared.commit session (.setAllowedInsecure chargePointId isAllowed) after) := by
  obtain ⟨present, isPresent, isId, isKey⟩ := inStep.present
  refine ⟨?_, ?_, ?_⟩
  · intro row member isIts
    obtain ⟨old, isOld, ⟨_, rfl⟩ | ⟨_, rfl⟩⟩ := exists_of_setAllowedInsecure happens member
    · exact inStep.unique old isOld isIts
    · exact inStep.unique _ isOld isIts
  · obtain ⟨_, _, done⟩ := Option.map_eq_some_iff.mp happens
    cases done
    refine ⟨_, List.mem_map_of_mem isPresent, ?_, ?_⟩
    · split
      · exact isId
      · exact isId
    · split
      · exact isKey
      · exact isKey
  · have sameFlag : (shared.commit session (.setAllowedInsecure chargePointId isAllowed)
        after).store.isBootstrapOn key = shared.store.isBootstrapOn key := by
      rw [Store.isBootstrapOn, Shared.store_commit,
        ProvisioningWrite.identities_of_effect rfl happens]
      rfl
    rw [sameFlag]
    by_cases isIt : chargePointId = id
    · -- the flag is the one of the identity
      subst isIt
      left
      intro row member isIts
      have known := Table.find?_eq_some_iff.mpr ⟨isPresent, isId⟩
      rw [ProvisioningWrite.findsAsRead, known, Option.any_some, isKey] at allowed
      obtain ⟨old, _, ⟨_, rfl⟩ | ⟨notIt, rfl⟩⟩ := exists_of_setAllowedInsecure happens member
      · exact (of_decide_eq_true allowed).symm
      · exact absurd isIts notIt
    · refine inStep.flag.imp ?_ fun pending => pending.commit (by simpa [ProvisioningWrite.rowOf])
      intro same row member isIts
      obtain ⟨old, isOld, ⟨isOther, rfl⟩ | ⟨_, rfl⟩⟩ := exists_of_setAllowedInsecure happens member
      · exact absurd (isOther.symm.trans isIts) isIt
      · exact same _ isOld isIts

/-- A write of an identity that its request has read. -/
theorem InStep.setIdentity {chargePointId other : String} {existing : Option RedisChargerIdentity}
    {change : IdentityChange} (inStep : InStep id key shared)
    (allowed : (ProvisioningWrite.setIdentity chargePointId other existing change).findsAsRead
      shared.store = true)
    (happens : (ProvisioningWrite.setIdentity chargePointId other existing change).effect runtime
      shared.store = some (after, ())) : InStep id key
      (shared.commit session (.setIdentity chargePointId other existing change) after) := by
  obtain ⟨identity, applied, rfl⟩ := ProvisioningWrite.setIdentity_eq_some_iff.mp happens
  obtain ⟨isRead, isRow⟩ := Bool.and_eq_true_iff.mp allowed
  obtain ⟨isAsRead, isRebuild⟩ := Bool.and_eq_true_iff.mp isRead
  obtain rfl := of_decide_eq_true isAsRead
  refine ⟨inStep.unique, inStep.present, ?_⟩
  by_cases isKey : other = key
  · subst isKey
    obtain ⟨row, isFound, isIts⟩ := (Option.any_eq_true _ _).mp isRow
    obtain ⟨member, rfl⟩ := Table.find?_eq_some_iff.mp isFound
    have isId := inStep.unique row member (of_decide_eq_true isIts)
    cases change with
    | provision now chargePoint station ocppVersion options =>
      refine inStep.flag.imp ?_ fun pending => pending.commit nofun
      intro same changed isChanged isChangedId
      rw [same changed isChanged isChangedId]
      change _ = Option.any _ (Function.update shared.store.identities other (some identity) other)
      cases options with
      | none =>
        rw [Function.update_self, Option.any_some, isBootstrapOn_of_apply applied]
        rfl
      | some options => contradiction
    | bindCertificate now nowText chargePointId input =>
      exact Or.inr (pending_commit (congrArg some isId))
    | updateBootstrap now input => exact Or.inr (pending_commit (congrArg some isId))
  · refine inStep.flag.imp ?_ fun pending => pending.commit nofun
    intro same changed isChanged isChangedId
    rw [same changed isChanged isChangedId]
    change _ = Option.any _ (Function.update shared.store.identities other (some identity) key)
    rw [Function.update_of_ne (Ne.symm isKey)]
    rfl

theorem InStep.commit (inStep : InStep id key shared)
    (allowed : write.findsAsRead shared.store = true)
    (happens : write.effect runtime shared.store = some (after, result)) :
    InStep id key (shared.commit session write after) := by
  cases write with
  | createStation row =>
    obtain ⟨_, _, done⟩ := Option.map_eq_some_iff.mp happens
    cases done
    exact ⟨inStep.unique, inStep.present, inStep.flag.imp_right fun pending =>
      pending.commit nofun⟩
  | createChargePoint row => exact inStep.createChargePoint happens
  | bootChargePoint id =>
    obtain ⟨_, _, happens⟩ := Option.bind_eq_some_iff.mp happens
    obtain ⟨_, _, done⟩ := Option.bind_eq_some_iff.mp happens
    cases done
    exact ⟨inStep.unique, inStep.present, inStep.flag.imp_right fun pending =>
      pending.commit nofun⟩
  | setIdentity chargePointId other existing change => exact inStep.setIdentity allowed happens
  | setAllowedInsecure chargePointId isAllowed => exact inStep.setAllowedInsecure allowed happens
  | removeChargePoint id => contradiction

end Rows

/-- All requests have been answered, or have thrown before they wrote an identity that a row has
to follow. -/
def ProvisioningState.Finished (state : ProvisioningState) : Prop :=
  ∀ (id : Nat) connection, state.sessions[id]? = some connection →
    (∃ answer, connection.progress = .outside (.answer answer)) ∨
      (∃ error, connection.progress = .outside (.throw error)) ∧
        ∀ write ∈ state.shared.labelsOf id, write.follow = none

section Duties

variable {runtime : ProvisioningRuntime}

abbrev IsDutiful (program : ProvisioningRequest ProvisioningAnswer) : Prop :=
  program.Dutiful fun write _ => write.follow

/-- The row is written right after the identity. -/
theorem isDutiful_changeIdentity_bind {id key : String} {change : IdentityChange}
    {failure failure' : HttpException} {more : ProvisioningRequest ProvisioningAnswer}
    (isFollowed : ∀ existing, (ProvisioningWrite.setIdentity id key existing change).follow = some (.setAllowedInsecure id isAllowed))
    (onward : IsDutiful more) : IsDutiful (changeIdentity runtime id key change failure >>= fun _ =>
      (ProvisioningWrite.setAllowedInsecure id isAllowed).commit failure' >>= fun _ => more) := by
  rw [changeIdentity, bind_assoc]
  refine (transacts_read _ _).dutiful_bind fun existing => ?_
  split
  · exact .throw _
  · exact dutiful_commit_bind_commit (fun _ => isFollowed existing) (fun _ _ => rfl)
      fun _ _ => onward

section Free

variable {allowed : ProvisioningWrite → Prop}

theorem transacts_getExistingChargePoint {call : ProvisioningCall} {id : String} :
    (getExistingChargePoint call id).Transacts allowed := by
  refine transacts_ofExcept_bind fun owns _ => ?_
  refine (transacts_read _ _).bind fun found => ?_
  cases found with
  | none => exact .throw _
  | some chargePoint => exact .answer _

theorem transacts_provisionChargePoint {call : ProvisioningCall} {chargePoint : ChargePoint}
    {station : Station} {ocppVersion : OcppVersion} {options : Option ProvisioningOptions}
    (isAllowed : ∀ existing, allowed (.setIdentity chargePoint.id chargePoint.ocppId existing
      (.provision call.now chargePoint station ocppVersion options))) :
    (provisionChargePoint runtime call chargePoint station ocppVersion options).Transacts
      allowed := by
  refine Request.Transacts.ite (transacts_pure ()) ?_
  refine (transacts_read _ _).bind fun existing => ?_
  split
  · exact .throw _
  · exact Request.transacts_commit _ (isAllowed existing)

end Free

theorem isDutiful_program (action : ProvisioningAction) : IsDutiful (action.program runtime) := by
  obtain ⟨call, operation⟩ := action
  cases operation with
  | createChargePoint dto =>
    refine Request.Transacts.dutiful ?_
    refine transacts_ofExcept_bind fun owns _ => ?_
    refine transacts_ofExcept_bind fun _ _ => ?_
    refine (transacts_read _ _).bind fun found => ?_
    cases found with
    | none => exact .throw _
    | some station =>
      refine (Request.transacts_commit _ fun _ => rfl).bind fun _ => ?_
      exact (transacts_provisionChargePoint fun _ _ => rfl).bind fun _ => .answer _
  | handleBootNotification ocppId =>
    refine Request.Transacts.dutiful ?_
    refine (transacts_read _ _).bind fun found => ?_
    cases found with
    | none =>
      refine Request.Transacts.bind ?_ fun station => ?_
      · refine (transacts_read _ _).bind fun found => ?_
        cases found with
        | some station => exact .answer _
        | none => exact (Request.transacts_commit _ fun _ => rfl).bind fun _ => .answer _
      · refine (Request.transacts_commit _ fun _ => rfl).bind fun _ => ?_
        exact (transacts_provisionChargePoint fun _ _ => rfl).bind fun _ => .answer _
    | some chargePoint =>
      refine (Request.transacts_commit _ fun _ => rfl).bind fun updated => ?_
      exact (transacts_provisionChargePoint fun _ _ => rfl).bind fun _ => .answer _
  | bindChargePointCertificate id dto =>
    refine transacts_getExistingChargePoint.dutiful_bind fun chargePoint => ?_
    refine (transacts_ofExcept _).dutiful_bind fun _ => ?_
    refine (transacts_ofExcept _).dutiful_bind fun _ => ?_
    refine (transacts_ofExcept _).dutiful_bind fun _ => ?_
    exact isDutiful_changeIdentity_bind (fun _ => rfl) (.answer _)
  | updateChargePointBootstrap id dto =>
    refine transacts_getExistingChargePoint.dutiful_bind fun chargePoint => ?_
    refine (transacts_ofExcept _).dutiful_bind fun _ => ?_
    refine (transacts_ofExcept _).dutiful_bind fun _ => ?_
    refine isDutiful_changeIdentity_bind (fun _ => rfl) ?_
    refine transacts_getExistingChargePoint.dutiful_bind fun _ => ?_
    exact (transacts_read _ _).dutiful_bind fun _ => .answer _
  | removeChargePoint id =>
    refine Request.Transacts.dutiful ?_
    refine transacts_getExistingChargePoint.bind fun existing => ?_
    exact (Request.transacts_commit _ fun _ => rfl).bind fun _ => .answer _

end Duties

/-! ## Runs -/

/-- No operation that was acknowledged is lost. -/
structure NothingLost (store : Store) (state : ProvisioningState) : Prop where
  certificates : ∀ (id : Nat) action arrived chargePointId key fingerprint,
    state.sessions[id]? = some ⟨action, arrived,
      .outside (.answer (.certificateBound chargePointId key fingerprint))⟩ →
        state.shared.store.HasCertificate key fingerprint
  bootstrap : StaysDisabled state.shared
  row : state.Finished → ∀ chargePoint ∈ store.chargePoints.rows,
    ∃ row, state.shared.store.chargePoints.find? chargePoint.id = some row ∧
      row.ocppId = chargePoint.ocppId ∧
      row.allowedInsecure = state.shared.store.isBootstrapOn row.ocppId

section Runs

variable {runtime : ProvisioningRuntime} {store : Store} {state : ProvisioningState}

theorem keeps_of_commit {invariant : Shared Store ProvisioningWrite → Prop}
    (each : ∀ shared write after (result : write.Result) id, invariant shared →
      write.findsAsRead shared.store = true →
        write.effect runtime shared.store = some (after, result) →
          invariant (shared.commit id write after)) (initially : invariant (Shared.initial store))
    (reachable : state.Reachable runtime findsAsRead store) : invariant state.shared := by
  let rely : Shared Store ProvisioningWrite → Shared Store ProvisioningWrite → Prop :=
    fun _ _ => True
  have keeps (action : ProvisioningAction) (id : Nat) :
      (action.program runtime).Keeps (fun write => (ProvisioningWrite.body runtime write).run)
        findsAsRead invariant rely action id := by
    refine Request.Transacts.keeps ?_ (transacts_of_forall (fun _ => trivial) _)
    intro shared write after result holds _ allowed happens
    rw [ProvisioningWrite.run_body] at happens
    exact ⟨trivial, each shared write after result id holds allowed happens⟩
  exact ReadCommitted.Reachable.keeps (ProvisioningWrite.guarded runtime) (fun _ => trivial)
    (fun _ _ _ _ _ => trivial) keeps initially reachable

theorem inStep_of_findsAsRead (distinct : (store.chargePoints.rows.map ChargePoint.ocppId).Nodup)
    (isInStep : ∀ row ∈ store.chargePoints.rows,
      row.allowedInsecure = store.isBootstrapOn row.ocppId)
    {chargePoint : ChargePoint} (member : chargePoint ∈ store.chargePoints.rows)
    (reachable : state.Reachable runtime findsAsRead store) :
    InStep chargePoint.id chargePoint.ocppId state.shared := by
  refine keeps_of_commit (fun _ _ _ _ _ inStep allowed happens => inStep.commit allowed happens)
    ?_ reachable
  refine ⟨?_, ⟨chargePoint, member, rfl, rfl⟩, Or.inl ?_⟩
  · intro row isRow sameKey
    exact congrArg ChargePoint.id (List.inj_on_of_nodup_map distinct isRow member sameKey)
  · intro row isRow sameId
    obtain rfl := store.chargePoints.eq_of_key_eq isRow member sameId
    exact isInStep row isRow

/-- In a finished run, every row has followed its identity. -/
theorem not_pending_of_finished {conditions :
      Conditions Store ProvisioningQuery ProvisioningWrite ProvisioningAction}
    (reachable : state.Reachable runtime conditions store) (finished : state.Finished)
    (id : String) : ¬ Pending id state.shared := by
  rintro ⟨earlier, commit, later, isCommit, isIts, others⟩
  obtain ⟨next, isNext, isRow⟩ := Option.bind_eq_some_iff.mp isIts
  have member : commit ∈ state.shared.commits := by
    rw [isCommit]
    exact List.mem_append_right _ List.mem_cons_self
  obtain ⟨⟨action, arrived, progress⟩, found⟩ :=
    ReadCommitted.Reachable.session_of_commit (ProvisioningWrite.guarded runtime) reachable member
  rcases finished _ _ found with ⟨answer, answered⟩ | ⟨_, nothing⟩
  · cases answered
    obtain ⟨result, run⟩ :=
      ReadCommitted.Reachable.commit_run (ProvisioningWrite.guarded runtime) reachable commit member
    have keeps := (ReadCommitted.Reachable.abstract (ProvisioningWrite.guarded runtime)
      reachable).keepsDuties isDutiful_program
    obtain ⟨other, isLater, _, rfl⟩ :=
      keeps.done isCommit run isNext (ReadCommitted.abstract_getElem? found)
    exact others other isLater isRow
  · have notFollowed := nothing commit.label
      (Shared.mem_labelsOf.mpr ⟨commit, member, rfl, rfl⟩)
    rw [notFollowed] at isNext
    contradiction

end Runs

/-- If each write finds what its request has read, nothing is lost. -/
theorem nothingLost_of_findsAsRead {runtime : ProvisioningRuntime} {store : Store}
    (distinct : (store.chargePoints.rows.map ChargePoint.ocppId).Nodup)
    (isInStep : ∀ row ∈ store.chargePoints.rows,
      row.allowedInsecure = store.isBootstrapOn row.ocppId) {state : ProvisioningState}
    (reachable : state.Reachable runtime findsAsRead store) : NothingLost store state := by
  constructor
  · intro id action arrived chargePointId key fingerprint found
    have isKept := ReadCommitted.Reachable.attains (ProvisioningWrite.guarded runtime)
      (guarantee_certificatesStay runtime) (attainsKept_program runtime) reachable found
    exact isKept.2
  · refine keeps_of_commit (fun _ _ _ _ _ stays allowed happens => stays.commit allowed happens)
      ?_ reachable
    intro key earlier commit later isCommit
    simp [Shared.initial] at isCommit
  · intro finished chargePoint member
    have inStep := inStep_of_findsAsRead distinct isInStep member reachable
    obtain ⟨row, isRow, isId, isKey⟩ := inStep.present
    refine ⟨row, Table.find?_eq_some_iff.mpr ⟨isRow, isId⟩, isKey, ?_⟩
    rcases inStep.flag with same | pending
    · rw [isKey]
      exact same row isRow isId
    · exact absurd pending (not_pending_of_finished reachable finished _)

namespace Sample

def fingerprint : String :=
  String.ofList (List.replicate 64 'A')

def chargePoint : ChargePoint :=
  ⟨"point", "CP1", "station", some "hash", some "salt", true⟩

def bootstrapStore : Store where
  stations := emptyStore.stations
  chargePoints := { rows := [chargePoint], nodup := by decide }
  identities key :=
    if key = "CP1" then
      some (provision runtime.provisioning 0 chargePoint ⟨"station", "Acme 1", some "acme"⟩ .v16
        (some ⟨some .mtlsBootstrap, some 30, some ["10.0.0.1"], none⟩) none)
    else none

def writes (id : Nat) : List (DatabaseEvent ProvisioningAction) :=
  [.begin id, .statement id, .statement id, .commit id]

def bindAction : ProvisioningAction :=
  ⟨call, .bindChargePointCertificate "point" ⟨fingerprint, none, none, none⟩⟩

def bound : List (DatabaseEvent ProvisioningAction) :=
  [.arrive bindAction, .query 0, .query 0] ++ writes 0 ++ writes 0

def overwritten : List (DatabaseEvent ProvisioningAction) :=
  [.arrive ⟨call, .handleBootNotification "CP1"⟩, .query 0] ++ writes 0 ++ [.query 0] ++
    [.arrive bindAction, .query 1, .query 1] ++ writes 1 ++ writes 1 ++ writes 0

def isBound (state : ProvisioningState) (id : Nat) : Bool :=
  match state.sessions[id]? with
  | some ⟨_, _, .outside (.answer (.certificateBound point key found))⟩ =>
    point = "point" && key = "CP1" && found = fingerprint
  | _ => false

theorem exists_of_isBound {state : ProvisioningState} {id : Nat} (isIt : isBound state id = true) :
    ∃ action arrived, state.sessions[id]? = some ⟨action, arrived,
      .outside (.answer (.certificateBound "point" "CP1" fingerprint))⟩ := by
  unfold isBound at isIt
  split at isIt
  · rename_i found
    simp only [Bool.and_eq_true, decide_eq_true_eq] at isIt
    obtain ⟨⟨rfl, rfl⟩, rfl⟩ := isIt
    exact ⟨_, _, found⟩
  · contradiction

def certificatesOf (store : Store) (key : String) : List Certificate :=
  ((store.identities key).map RedisChargerIdentity.certificates).getD []

end Sample

open Sample

/-- A binding on its own. -/
theorem nothingLost_of_findsAsRead_bound :
    ∃ state : ProvisioningState, Sample.isBound state 0 = true ∧
      NothingLost bootstrapStore state := by
  have run : (after bootstrapStore findsAsRead bound).map (fun state =>
      Sample.isBound state 0) = some true := by decide +kernel
  obtain ⟨state, reached, isBound⟩ := Option.map_eq_some_iff.mp run
  exact ⟨state, isBound,
    nothingLost_of_findsAsRead (by decide) (by decide) (Transition.reachable_of_foldlM reached)⟩

/-- A boot that has read the identity before a certificate is bound undoes the binding, although
it was acknowledged, and turns the bootstrap on again that the binding has ended and that the row
does not allow. -/
theorem overwritten_loses : ∃ state : ProvisioningState,
      state.Reachable runtime Conditions.none bootstrapStore ∧
        Sample.isBound state 1 = true ∧ certificatesOf state.shared.store "CP1" = [] ∧
        state.shared.store.isBootstrapOn "CP1" = true ∧
        (state.shared.store.chargePoints.find? "point").map ChargePoint.allowedInsecure =
          some false ∧ ¬ NothingLost bootstrapStore state := by
  have run : (after bootstrapStore Conditions.none overwritten).map
      (fun state => (Sample.isBound state 1,
        certificatesOf state.shared.store "CP1",
        state.shared.store.isBootstrapOn "CP1",
        (state.shared.store.chargePoints.find? "point").map ChargePoint.allowedInsecure)) =
      some (true, [], true, some false) := by decide +kernel
  obtain ⟨state, reached, observed⟩ := Option.map_eq_some_iff.mp run
  simp only [Prod.mk.injEq] at observed
  obtain ⟨isBound, noCertificates, isOn, notAllowed⟩ := observed
  refine ⟨state, Transition.reachable_of_foldlM reached, isBound, noCertificates, isOn, notAllowed, ?_⟩
  intro nothingLost
  obtain ⟨action, arrived, found⟩ := exists_of_isBound isBound
  obtain ⟨identity, isIdentity, certificate, member, _⟩ :=
    nothingLost.certificates _ _ _ _ _ _ found
  have isEmpty : identity.certificates = [] := by
    simpa [certificatesOf, isIdentity] using noCertificates
  rw [isEmpty] at member
  exact absurd member List.not_mem_nil

end Csms.Provisioning
