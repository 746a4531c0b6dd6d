import Csms.Database.Keeps
import Csms.Provisioning.Service

/-!
# What a charger may do without a password

Whatever order charge points are created, boot, get certificates and have their bootstrap updated
in, a connection without a password needs an address on a list and is possible for a limited time,
and never next to a certificate that is required.
-/

namespace Csms.Provisioning

open Js Database

def Certificate.key (certificate : Certificate) : String :=
  normalizeFingerprint ((orText certificate.fingerprint none).getD "")

def RedisChargerIdentity.allowlist (identity : RedisChargerIdentity) : List String :=
  identity.allowedIps.getD [] ++ identity.allowedCidrs.getD []

def RedisChargerIdentity.certificates (identity : RedisChargerIdentity) : List Certificate :=
  identity.auth.certificates.getD []

/-- Bootstrap is limited to listed addresses, and to the time since it was last enabled; with
mTLS it is off and there is a certificate; and no certificate is there twice. -/
structure Secured (maxMinutes : Int) (lastEnabled : Option Int) (identity : RedisChargerIdentity) :
    Prop where
  /-- An entry that is not blank. -/
  allowlisted : identity.isBootstrapOn = true → ∃ entry ∈ identity.allowlist, trim entry ≠ ""
  required : identity.isBootstrapOn = true → identity.auth.bootstrapRequireIpAllowlist = some true
  closes : identity.isBootstrapOn = true → ∃ enabled closing, lastEnabled = some enabled ∧
    identity.auth.noAuthUntil = some closing ∧ closing ≤ enabled + max 1 maxMinutes * 60000
  certified : identity.auth.type = some .mtls →
    identity.isBootstrapOn = false ∧ identity.certificates ≠ []
  distinct : (identity.certificates.map Certificate.key).Nodup

/-- The bootstrap was not enabled at a later time before. -/
def NotAfter (earlier later : Option Int) : Prop :=
  ∀ enabled, earlier = some enabled → ∃ enabled', later = some enabled' ∧ enabled ≤ enabled'

variable {identity : RedisChargerIdentity}

theorem Secured.mono {maxMinutes : Int} {earlier later : Option Int}
    (secured : Secured maxMinutes earlier identity) (notAfter : NotAfter earlier later) :
    Secured maxMinutes later identity where
  allowlisted := secured.allowlisted
  required := secured.required
  closes isOn := by
    obtain ⟨enabled, closing, isEnabled, isClosing, inTime⟩ := secured.closes isOn
    obtain ⟨enabled', isLater, le⟩ := notAfter enabled isEnabled
    exact ⟨enabled', closing, isLater, isClosing, by omega⟩
  certified := secured.certified
  distinct := secured.distinct

/-- What the service has checked of a change: the creation names a profile, with an allowlist if it
is the bootstrap, and a fingerprint is one. -/
def IdentityChange.IsChecked : IdentityChange → Prop
  | .provision _ _ _ _ none => True
  | .provision _ _ _ _ (some options) =>
    options.authProfile = some .basic ∨
      options.authProfile = some .mtlsBootstrap ∧
        ∃ entry ∈ options.allowedIps.getD [] ++ options.allowedCidrs.getD [], trim entry ≠ ""
  | .bindCertificate _ _ _ input => isFingerprint input.fingerprint = true
  | .updateBootstrap .. => True

theorem isFingerprint_of_assertValidFingerprint {value : String}
    (isValid : assertValidFingerprint value = .ok ()) : isFingerprint value = true := by
  unfold assertValidFingerprint at isValid
  split at isValid
  · assumption
  · contradiction

theorem trim_ne_of_mem_normalizeList {values : Option (List String)} {entry : String}
    (member : entry ∈ normalizeList values) : trim entry ≠ "" := by
  obtain ⟨other, _, rfl, notBlank⟩ := mem_distinctTexts.mp member
  rwa [trim_trim]

variable {ips cidrs : Option (List String)}

theorem exists_entry_of_not_empty (notEmpty : ¬ (normalizeList ips = [] ∧ normalizeList cidrs = [])) :
    ∃ entry ∈ normalizeList ips ++ normalizeList cidrs, trim entry ≠ "" := by
  obtain ⟨entry, member⟩ : ∃ entry, entry ∈ normalizeList ips ++ normalizeList cidrs :=
    List.exists_mem_of_ne_nil _ fun isEmpty => notEmpty (List.append_eq_nil_iff.mp isEmpty)
  exact ⟨entry, member, (List.mem_append.mp member).elim trim_ne_of_mem_normalizeList
    trim_ne_of_mem_normalizeList⟩

variable {chargePoint : ChargePoint} {station : Station} {ocppVersion : OcppVersion}

theorem isChecked_of_assertBootstrapAllowed {runtime : ProvisioningRuntime}
    {authProfile : ChargePointAuthProfile}
    (isAllowed : assertBootstrapAllowed runtime authProfile (normalizeList ips) (normalizeList cidrs) = .ok ())
    {now minutes : Int} : (IdentityChange.provision now chargePoint station ocppVersion
      (some ⟨some authProfile, some minutes, some (normalizeList ips),
        some (normalizeList cidrs)⟩)).IsChecked := by
  cases authProfile with
  | basic => exact Or.inl rfl
  | mtlsBootstrap =>
    refine Or.inr ⟨rfl, ?_⟩
    unfold assertBootstrapAllowed at isAllowed
    dsimp only at isAllowed
    split at isAllowed
    · contradiction
    · split at isAllowed
      · contradiction
      · exact exists_entry_of_not_empty ‹_›

variable {options : Option ProvisioningOptions}

section Changes

variable {config : BootstrapConfig} {lastEnabled : Option Int} {now : Int}

theorem exists_mem_normalizeList {values : Option (List String)} {entry : String}
    (member : entry ∈ values.getD []) (notBlank : trim entry ≠ "") :
    ∃ other ∈ normalizeList values, trim other ≠ "" :=
  ⟨trim entry, mem_distinctTexts.mpr ⟨entry, member, rfl, notBlank⟩, by rwa [trim_trim]⟩

/-- Lists of which one has an entry that is not blank are normalized to such lists, whether they
are given or kept. -/
theorem exists_mem_normalized {entry : String} (member : entry ∈ ips.getD [] ++ cidrs.getD [])
    (notBlank : trim entry ≠ "") :
    ∃ other ∈ normalizeList ips ++ normalizeList cidrs, trim other ≠ "" := by
  rcases List.mem_append.mp member with inIps | inCidrs
  · obtain ⟨other, isIn, still⟩ := exists_mem_normalizeList inIps notBlank
    exact ⟨other, List.mem_append_left _ isIn, still⟩
  · obtain ⟨other, isIn, still⟩ := exists_mem_normalizeList inCidrs notBlank
    exact ⟨other, List.mem_append_right _ isIn, still⟩

theorem closing_le (config : BootstrapConfig) (now : Int) (minutes : Option Int) :
    now + config.resolveBootstrapTtl minutes * 60000 ≤ now + max 1 config.maxMinutes * 60000 := by
  have bounded := config.resolveBootstrapTtl_le minutes
  omega

theorem secured_bindCertificate {nowText chargePointId : String} {input : CertificateBindInput}
    (isValid : isFingerprint input.fingerprint = true)
    (secured : Secured config.maxMinutes lastEnabled identity) :
    Secured config.maxMinutes lastEnabled
      (bindCertificate now nowText chargePointId input identity) := by
  refine ⟨nofun, nofun, nofun, fun _ => ⟨rfl, ?_⟩, ?_⟩
  · exact List.append_ne_nil_of_right_ne_nil _ (List.cons_ne_nil _ _)
  · have isNormal := normalizeFingerprint_of_isFingerprint isValid
    change ((bindCertificates chargePointId nowText input
      identity.certificates).map Certificate.key).Nodup
    rw [bindCertificates, List.map_append, List.nodup_append]
    refine ⟨secured.distinct.sublist (List.filter_sublist.map _), List.nodup_singleton _, ?_⟩
    intro key isOld key' isNew same
    obtain ⟨entry, isEntry, rfl⟩ := List.mem_map.mp isOld
    obtain rfl := List.mem_singleton.mp isNew
    have others := (List.mem_filter.mp isEntry).2
    rw [isNormal] at others
    have isNew : (orText (some input.fingerprint) none).getD "" = input.fingerprint := by
      by_cases isEmpty : input.fingerprint = "" <;> simp [orText, isEmpty]
    rw [isNormal, Certificate.key, Certificate.key, isNew, isNormal] at same
    rcases hasFingerprint : orText entry.fingerprint none with _ | fingerprint
    · rw [hasFingerprint] at same
      exact normalizeFingerprint_ne_of_isFingerprint isValid same
    · rw [hasFingerprint] at same others
      exact absurd same (by simpa using others)

/-- A change that neither asks for the bootstrap nor ends it. -/
theorem Secured.of_kept {identity after : RedisChargerIdentity}
    (secured : Secured config.maxMinutes lastEnabled identity)
    (sameFlag : after.auth.allowNoAuthBootstrap = identity.auth.allowNoAuthBootstrap)
    (sameClosing : after.auth.noAuthUntil = identity.auth.noAuthUntil)
    (sameRequired : after.auth.bootstrapRequireIpAllowlist =
      identity.auth.bootstrapRequireIpAllowlist)
    (sameCertificates : after.auth.certificates = identity.auth.certificates)
    (isMtls : after.auth.type = some .mtls → identity.auth.type = some .mtls)
    (allowlist : ∀ entry ∈ identity.allowlist, trim entry ≠ "" →
      ∃ other ∈ after.allowlist, trim other ≠ "") :
    Secured config.maxMinutes lastEnabled after := by
  have sameOn : after.isBootstrapOn = identity.isBootstrapOn := congrArg (·.getD false) sameFlag
  have same : after.certificates = identity.certificates := congrArg (·.getD []) sameCertificates
  refine ⟨?_, ?_, ?_, ?_, ?_⟩
  · intro isOn
    obtain ⟨entry, member, notBlank⟩ := secured.allowlisted (sameOn ▸ isOn)
    exact allowlist entry member notBlank
  · rw [sameOn, sameRequired]
    exact secured.required
  · rw [sameOn, sameClosing]
    exact secured.closes
  · rw [sameOn, same]
    exact fun type => secured.certified (isMtls type)
  · rw [same]
    exact secured.distinct

theorem secured_of_off (isOff : identity.isBootstrapOn = false)
    (certified : identity.auth.type = some .mtls → identity.certificates ≠ [])
    (distinct : (identity.certificates.map Certificate.key).Nodup) :
    Secured config.maxMinutes lastEnabled identity where
  allowlisted isOn := absurd isOn (by rw [isOff]; exact Bool.false_ne_true)
  required isOn := absurd isOn (by rw [isOff]; exact Bool.false_ne_true)
  closes isOn := absurd isOn (by rw [isOff]; exact Bool.false_ne_true)
  certified type := ⟨isOff, certified type⟩
  distinct := distinct

/-- Only a boot leaves a certificate required. -/
theorem isMtls_of_provisionAuth {existingAuth : IdentityAuth}
    (type : (provisionAuth config now chargePoint options existingAuth).type = some .mtls) :
    options.bind ProvisioningOptions.authProfile = none ∧ existingAuth.type = some .mtls := by
  cases asked : options.bind ProvisioningOptions.authProfile with
  | none =>
    refine ⟨rfl, ?_⟩
    by_contra isOther
    simp [provisionAuth, asked, isOther] at type
  | some profile => cases profile <;> simp [provisionAuth, asked] at type

theorem secured_provision {existing : Option RedisChargerIdentity}
    (isChecked : (IdentityChange.provision now chargePoint station ocppVersion options).IsChecked)
    (secured : ∀ identity, existing = some identity → Secured config.maxMinutes lastEnabled identity) :
    Secured config.maxMinutes
      (if (IdentityChange.provision now chargePoint station ocppVersion options).enables then
        some now else lastEnabled)
      (provision config now chargePoint station ocppVersion options existing) := by
  have distinct : (((existing.map (·.certificates)).getD []).map Certificate.key).Nodup := by
    cases existing with
    | none => exact List.nodup_nil
    | some identity => exact (secured identity rfl).distinct
  rcases options with _ | ⟨_ | _ | _, ttl, ips, cidrs⟩
  · cases existing with
    | none => exact secured_of_off rfl nofun List.nodup_nil
    | some identity =>
      refine (secured identity rfl).of_kept rfl rfl rfl rfl ?_ ?_
      · exact fun type => (isMtls_of_provisionAuth type).2
      · exact fun entry member notBlank => exists_mem_normalized member notBlank
  · rcases isChecked with isBasic | ⟨isBootstrap, _⟩ <;> contradiction
  · refine secured_of_off rfl (fun type => nomatch (isMtls_of_provisionAuth type).1) ?_
    cases existing <;> exact distinct
  · rcases isChecked with isBasic | ⟨_, entry, member, notBlank⟩
    · cases isBasic
    · have kept {given existing : Option (List String)} (member : entry ∈ given.getD []) :
          entry ∈ (given.or existing).getD [] := by
        cases given with
        | none => contradiction
        | some values => exact member
      refine ⟨fun _ => exists_mem_normalized (List.mem_append.mpr ?_) notBlank, fun _ => rfl,
        fun _ => ⟨now, _, rfl, rfl, closing_le config now _⟩, (fun type => by cases type), ?_⟩
      · exact (List.mem_append.mp member).imp kept kept
      · cases existing <;> exact distinct

theorem secured_updateBootstrap {input : BootstrapUpdateInput}
    {identity after : RedisChargerIdentity}
    (updated : updateBootstrap config now input identity = .ok after)
    (secured : Secured config.maxMinutes lastEnabled identity) :
    Secured config.maxMinutes (if input.enabled then some now else lastEnabled) after := by
  unfold updateBootstrap at updated
  dsimp only at updated
  split at updated
  · rename_i isEnabled
    split at updated
    · contradiction
    · rename_i notEmpty
      cases updated
      rw [if_pos isEnabled]
      refine ⟨fun _ => ?_, fun _ => rfl, fun _ => ⟨now, _, rfl, rfl, closing_le config now _⟩,
        (fun type => by cases type), secured.distinct⟩
      exact exists_entry_of_not_empty notEmpty
  · rename_i notEnabled
    cases updated
    rw [if_neg notEnabled]
    exact secured_of_off rfl (fun type => (secured.certified type).2) secured.distinct

theorem secured_apply {change : IdentityChange} {key : String}
    {existing : Option RedisChargerIdentity}
    (applied : change.apply config key existing = .ok identity) (isChecked : change.IsChecked)
    (secured : ∀ identity, existing = some identity → Secured config.maxMinutes lastEnabled identity) :
    Secured config.maxMinutes (if change.enables then some change.now else lastEnabled)
      identity := by
  cases change with
  | provision now chargePoint station ocppVersion options =>
    cases applied
    exact secured_provision isChecked secured
  | bindCertificate now nowText chargePointId input =>
    cases existing with
    | none => contradiction
    | some existing =>
      cases applied
      exact secured_bindCertificate isChecked (secured existing rfl)
  | updateBootstrap now input =>
    cases existing with
    | none => contradiction
    | some existing => exact secured_updateBootstrap applied (secured existing rfl)

end Changes

/-- The clock does not go back. -/
def inOrder : Conditions Store ProvisioningQuery ProvisioningWrite ProvisioningAction where
  onArrive _ _ := true
  onQuery _ _ _ := true
  onCommit _ write shared :=
    write.time?.all fun now => shared.commits.all fun commit => commit.label.time?.all (· ≤ now)

/-- The time at which the write enables the bootstrap of the charger. -/
def ProvisioningWrite.enabledAt (key : String) : ProvisioningWrite → Option Int
  | setIdentity _ other _ change =>
    if other = key ∧ change.enables = true then some change.now else none
  | _ => none

def lastEnabled (shared : Shared Store ProvisioningWrite) (key : String) : Option Int :=
  (shared.commits.filterMap fun commit => commit.label.enabledAt key).getLast?

def AllSecured (runtime : ProvisioningRuntime) (shared : Shared Store ProvisioningWrite) : Prop :=
  ∀ key identity, shared.store.identities key = some identity →
    Secured runtime.provisioning.maxMinutes (lastEnabled shared key) identity

/-- The bootstrap of no charger was enabled at a later time before. -/
def ClockGoesOn (before after : Shared Store ProvisioningWrite) : Prop :=
  ∀ key, NotAfter (lastEnabled before key) (lastEnabled after key)

section Runs

variable {runtime : ProvisioningRuntime} {action : ProvisioningAction} {id : Nat}
  {shared : Shared Store ProvisioningWrite} {write : ProvisioningWrite} {after : Store}
  {α γ : Type}

theorem lastEnabled_commit (key : String) : lastEnabled (shared.commit id write after) key =
      (write.enabledAt key).or (lastEnabled shared key) := by
  rw [lastEnabled, Shared.filterMap_commit, List.getLast?_append]
  cases write.enabledAt key <;> rfl

theorem time?_of_enabledAt {key : String} {now : Int} (enabled : write.enabledAt key = some now) :
    write.time? = some now := by
  unfold ProvisioningWrite.enabledAt at enabled
  split at enabled
  · split at enabled
    · exact enabled
    · contradiction
  · contradiction

theorem clockGoesOn_commit (allowed : inOrder.onCommit action write shared = true) :
    ClockGoesOn shared (shared.commit id write after) := by
  intro key enabled isEnabled
  rw [lastEnabled_commit]
  cases isNew : write.enabledAt key with
  | none => exact ⟨enabled, isEnabled, le_refl enabled⟩
  | some now =>
    refine ⟨now, rfl, ?_⟩
    obtain ⟨commit, member, isIts⟩ :=
      List.mem_filterMap.mp (List.mem_of_getLast? isEnabled)
    change write.time?.all _ = true at allowed
    rw [time?_of_enabledAt isNew, Option.all_some, List.all_eq_true] at allowed
    have before := allowed commit member
    rw [time?_of_enabledAt isIts] at before
    exact of_decide_eq_true before

theorem AllSecured.commit (holds : AllSecured runtime shared) (isOther : write.time? = none)
    (sameIdentities : after.identities = shared.store.identities) :
    AllSecured runtime (shared.commit id write after) := by
  intro key identity found
  have unchanged : write.enabledAt key = none := by
    cases isEnabled : write.enabledAt key with
    | none => rfl
    | some now =>
      rw [time?_of_enabledAt isEnabled] at isOther
      contradiction
  rw [lastEnabled_commit, unchanged, Option.none_or]
  exact holds key identity (by rw [← sameIdentities]; exact found)

theorem NotAfter.trans {first second third : Option Int} (left : NotAfter first second)
    (right : NotAfter second third) : NotAfter first third := by
  intro enabled isFirst
  obtain ⟨middle, isMiddle, le⟩ := left enabled isFirst
  obtain ⟨last, isLast, le'⟩ := right middle isMiddle
  exact ⟨last, isLast, le.trans le'⟩

theorem clockGoesOn_refl (shared : Shared Store ProvisioningWrite) : ClockGoesOn shared shared :=
  fun _ enabled isEnabled => ⟨enabled, isEnabled, le_refl enabled⟩

/-- Whatever others do in between, the program keeps all identities secured. -/
abbrev KeepsSecured (runtime : ProvisioningRuntime) (action : ProvisioningAction) (id : Nat)
    (program : ProvisioningRequest α) : Prop :=
  program.Keeps (fun write => (write.body runtime).run) inOrder (AllSecured runtime) ClockGoesOn
    action id

theorem keepsSecured_commit (isOther : write.time? = none) {failure : HttpException} :
    KeepsSecured runtime action id (write.commit failure) := by
  intro shared _
  refine (meets_commit _ _).mpr fun later _ holds => ⟨fun _ _ _ => trivial, ?_⟩
  intro allowed after result happens
  rw [ProvisioningWrite.run_body] at happens
  exact ⟨clockGoesOn_commit allowed,
    holds.commit isOther (ProvisioningWrite.identities_of_effect isOther happens),
    fun _ _ _ => trivial⟩

theorem keepsSecured_changeIdentity {chargePointId key : String} {change : IdentityChange}
    (isChecked : change.IsChecked) {failure : HttpException} :
    KeepsSecured runtime action id (changeIdentity runtime chargePointId key change failure) := by
  intro shared _
  refine (meets_read_bind _ _ _).mpr fun read _ holdsRead _ => ?_
  split
  · exact (meets_throw _).mpr fun _ _ _ => trivial
  · let write :=
      ProvisioningWrite.setIdentity chargePointId key (read.store.identities key) change
    apply (meets_commit write failure).mpr
    intro later goesOn holds
    refine ⟨fun _ _ _ => trivial, ?_⟩
    intro allowed after result happens
    rw [ProvisioningWrite.run_body] at happens
    obtain ⟨identity, applied, rfl⟩ := ProvisioningWrite.setIdentity_eq_some_iff.mp happens
    refine ⟨clockGoesOn_commit allowed, ?_, fun _ _ _ => trivial⟩
    intro other found isFound
    rw [lastEnabled_commit, ProvisioningWrite.enabledAt]
    change Function.update later.store.identities key (some identity) other = some found at isFound
    by_cases isKey : key = other
    · subst isKey
      rw [Function.update_self] at isFound
      cases isFound
      have secured := secured_apply applied isChecked fun existing isExisting =>
        (holdsRead key existing isExisting).mono (goesOn key)
      by_cases enables : change.enables = true
      · rw [if_pos enables] at secured
        rw [if_pos ⟨rfl, enables⟩]
        exact secured
      · rw [if_neg enables] at secured
        rw [if_neg fun both => enables both.2]
        exact secured
    · rw [Function.update_of_ne (Ne.symm isKey)] at isFound
      rw [if_neg fun both => isKey both.1]
      exact holds other found isFound

theorem keepsSecured_bind {first : ProvisioningRequest γ} {next : γ → ProvisioningRequest α}
    (keeps : KeepsSecured runtime action id first)
    (onward : ∀ value, KeepsSecured runtime action id (next value)) :
    KeepsSecured runtime action id (first >>= next) :=
  Request.Keeps.bind clockGoesOn_refl keeps onward

theorem keepsSecured_read {name : ProvisioningQuery} {find : Store → α} :
    KeepsSecured runtime action id (Request.read name find) :=
  fun _ _ => (meets_read _ _).mpr fun _ _ _ _ _ _ _ => trivial

variable {call : ProvisioningCall}

theorem keepsSecured_getExistingChargePoint {chargePointId : String} :
    KeepsSecured runtime action id (getExistingChargePoint call chargePointId) := by
  refine keeps_ofExcept_bind fun owns _ => keepsSecured_bind keepsSecured_read fun found => ?_
  cases found with
  | none => exact keeps_throw _
  | some chargePoint => exact Request.keeps_pure _

theorem keepsSecured_provisionChargePoint
    (isChecked : (IdentityChange.provision call.now chargePoint station ocppVersion options).IsChecked) :
    KeepsSecured runtime action id
      (provisionChargePoint runtime call chargePoint station ocppVersion options) :=
  Request.Keeps.ite (Request.keeps_pure _) (keepsSecured_changeIdentity isChecked)

theorem keepsSecured_createChargePoint {dto : CreateChargePointDto} :
    KeepsSecured runtime action id (createChargePoint runtime call dto) := by
  refine keeps_ofExcept_bind fun owns _ => keeps_ofExcept_bind fun _ isAllowed => ?_
  refine keepsSecured_bind keepsSecured_read fun found => ?_
  cases found with
  | none => exact keeps_throw _
  | some station =>
    refine keepsSecured_bind (keepsSecured_commit rfl) fun _ => ?_
    refine keepsSecured_bind (keepsSecured_provisionChargePoint ?_) fun _ => Request.keeps_pure _
    exact isChecked_of_assertBootstrapAllowed isAllowed

theorem keepsSecured_unknownStation : KeepsSecured runtime action id (unknownStation call) := by
  refine keepsSecured_bind keepsSecured_read fun found => ?_
  cases found with
  | none => exact keepsSecured_bind (keepsSecured_commit rfl) fun _ => Request.keeps_pure _
  | some station => exact Request.keeps_pure _

theorem keepsSecured_program (runtime : ProvisioningRuntime) (action : ProvisioningAction)
    (id : Nat) : KeepsSecured runtime action id (action.program runtime) := by
  obtain ⟨call, operation⟩ := action
  cases operation with
  | createChargePoint dto => exact keepsSecured_createChargePoint
  | handleBootNotification ocppId =>
    refine keepsSecured_bind keepsSecured_read fun found => ?_
    cases found with
    | none =>
      refine keepsSecured_bind keepsSecured_unknownStation fun station => ?_
      refine keepsSecured_bind (keepsSecured_commit rfl) fun _ => ?_
      exact keepsSecured_bind (keepsSecured_provisionChargePoint trivial)
        fun _ => Request.keeps_pure _
    | some chargePoint =>
      refine keepsSecured_bind (keepsSecured_commit rfl) fun updated => ?_
      exact keepsSecured_bind (keepsSecured_provisionChargePoint trivial)
        fun _ => Request.keeps_pure _
  | bindChargePointCertificate chargePointId dto =>
    refine keepsSecured_bind keepsSecured_getExistingChargePoint fun chargePoint => ?_
    refine keeps_ofExcept_bind fun _ isValid => ?_
    refine keeps_ofExcept_bind fun _ _ => keeps_ofExcept_bind fun _ _ => ?_
    refine keepsSecured_bind (keepsSecured_changeIdentity ?_) fun _ => ?_
    · exact isFingerprint_of_assertValidFingerprint isValid
    · exact keepsSecured_bind (keepsSecured_commit rfl) fun _ => Request.keeps_pure _
  | updateChargePointBootstrap chargePointId dto =>
    refine keepsSecured_bind keepsSecured_getExistingChargePoint fun chargePoint => ?_
    refine keeps_ofExcept_bind fun _ _ => keeps_ofExcept_bind fun _ _ => ?_
    refine keepsSecured_bind (keepsSecured_changeIdentity ?_) fun _ => ?_
    · exact trivial
    · refine keepsSecured_bind (keepsSecured_commit rfl) fun _ => ?_
      refine keepsSecured_bind keepsSecured_getExistingChargePoint fun _ => ?_
      exact keepsSecured_bind keepsSecured_read fun _ => Request.keeps_pure _
  | removeChargePoint chargePointId =>
    refine keepsSecured_bind keepsSecured_getExistingChargePoint fun existing => ?_
    exact keepsSecured_bind (keepsSecured_commit rfl) fun _ => Request.keeps_pure _

end Runs

/-- From before there were identities on, in every run of the operations in which the clock does
not go back. -/
theorem allSecured_of_inOrder {runtime : ProvisioningRuntime} {store : Store}
    (noIdentities : ∀ key, store.identities key = none) {state : ProvisioningState}
    (reachable : state.Reachable runtime inOrder store) : AllSecured runtime state.shared := by
  refine ReadCommitted.Reachable.keeps (ProvisioningWrite.guarded runtime) clockGoesOn_refl
    (fun _ _ _ left right key => (left key).trans (right key)) (keepsSecured_program runtime) ?_
    reachable
  intro key identity found
  rw [Shared.initial, noIdentities key] at found
  contradiction

namespace Sample

def created : List (DatabaseEvent ProvisioningAction) :=
  [.arrive ⟨call, .createChargePoint
      ⟨"CP1", "station", none, some .mtlsBootstrap, some 500, some ["10.0.0.1"], none⟩⟩,
    .query 0, .begin 0, .statement 0, .statement 0, .commit 0, .query 0, .begin 0, .statement 0,
    .statement 0, .commit 0]

end Sample

/-- A charge point that was created with the bootstrap. -/
theorem allSecured_of_inOrder_created :
    ∃ state : ProvisioningState, (state.shared.store.identities "CP1").any (·.isBootstrapOn) = true ∧
      AllSecured Sample.runtime state.shared := by
  have run : (Sample.after Sample.emptyStore inOrder Sample.created).map (fun state =>
      (state.shared.store.identities "CP1").any (·.isBootstrapOn)) = some true := by decide +kernel
  obtain ⟨state, reached, isOn⟩ := Option.map_eq_some_iff.mp run
  exact ⟨state, isOn,
    allSecured_of_inOrder (fun _ => rfl) (Transition.reachable_of_foldlM reached)⟩

end Csms.Provisioning
