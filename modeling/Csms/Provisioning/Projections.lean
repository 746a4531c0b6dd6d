import Csms.Provisioning.Registry
import Csms.Service.Program

/-!
# Identities and locations as projections of the charge points

An identity that is provisioned names the version it is given, and keeps the certificates it finds.
A boot gives none, and a removal leaves identity and location behind, so both are what the row says
exactly as long as neither of the two matters.
-/

namespace Csms.Provisioning.Registry

open Js Transition

variable {runtime : RegistryRuntime} {call : RegistryCall} {registry written : Registry}
  {row : RegisteredChargePoint} {station : PlacedStation}

theorem gatewayVersion_inj {first second : OcppVersion} :
    gatewayVersion first = gatewayVersion second ↔ first = second := by
  cases first <;> cases second <;> decide

/-! ## Projections -/

/-- The identity says what the row does, with certificates that were bound to the row. -/
structure IdentityOf (registry : Registry) (row : RegisteredChargePoint)
    (identity : RedisChargerIdentity) : Prop where
  allowedProtocols : identity.allowedProtocols = some [gatewayVersion row.ocppVersion]
  certificates : ∀ certificate ∈ identity.auth.certificates.getD [],
    ⟨row.id, certificate⟩ ∈ registry.bindings

/-- The identities are those of charge points. -/
def IdentitiesProject (registry : Registry) (keys : String → Prop) : Prop :=
  ∀ key, keys key → ∀ identity, registry.identities key = some identity →
    ∃ row ∈ registry.chargePoints.rows, row.ocppId = key ∧ IdentityOf registry row identity

/-- The locations that are published are those of charge points. -/
def LocationsProject (runtime : RegistryRuntime) (registry : Registry) : Prop :=
  ∀ location ∈ registry.locations.rows, ∀ id, isPublication runtime id location = true →
    ∃ row ∈ registry.chargePoints.rows, row.id = id

structure Projects (runtime : RegistryRuntime) (registry : Registry) : Prop where
  identities : IdentitiesProject registry fun _ => True
  locations : LocationsProject runtime registry

/-- The identity under one `ocppId` is left out. -/
structure ProjectsElsewhere (runtime : RegistryRuntime) (ocppId : String) (registry : Registry) :
    Prop where
  identities : IdentitiesProject registry fun key => key ≠ ocppId
  locations : LocationsProject runtime registry

theorem eq_of_ocppId_eq {first second : RegisteredChargePoint}
    (firstMem : first ∈ registry.chargePoints.rows)
    (secondMem : second ∈ registry.chargePoints.rows) (same : first.ocppId = second.ocppId) :
    first = second :=
  List.inj_on_of_nodup_map registry.ocppIds firstMem secondMem same

theorem Projects.elsewhere (projects : Projects runtime registry) (ocppId : String) :
    ProjectsElsewhere runtime ocppId registry where
  identities key _ := projects.identities key trivial
  locations := projects.locations

theorem Projects.identityOf (projects : Projects runtime registry)
    (member : row ∈ registry.chargePoints.rows) {identity : RedisChargerIdentity}
    (found : registry.identities row.ocppId = some identity) :
    IdentityOf registry row identity := by
  obtain ⟨other, otherMem, same, isOf⟩ := projects.identities _ trivial _ found
  rwa [eq_of_ocppId_eq otherMem member same] at isOf

theorem projects_iff_of_mem (member : row ∈ registry.chargePoints.rows)
    (elsewhere : ProjectsElsewhere runtime row.ocppId registry) : Projects runtime registry ↔
      ∀ identity, registry.identities row.ocppId = some identity →
        IdentityOf registry row identity := by
  constructor
  · exact fun projects _ found => projects.identityOf member found
  · intro isOf
    refine ⟨fun key _ identity found => ?_, elsewhere.locations⟩
    by_cases own : key = row.ocppId
    · subst own
      exact ⟨row, member, rfl, isOf identity found⟩
    · exact elsewhere.identities key own identity found

/-- A registry in which no row went, with all the bindings, and other identities only under the
`ocppId`. -/
theorem ProjectsElsewhere.of_subset {ocppId : String}
    (elsewhere : ProjectsElsewhere runtime ocppId registry)
    (rows : registry.chargePoints.rows ⊆ written.chargePoints.rows)
    (identities : ∀ key, key ≠ ocppId → written.identities key = registry.identities key)
    (locations : written.locations = registry.locations)
    (bindings : registry.bindings ⊆ written.bindings) :
    ProjectsElsewhere runtime ocppId written where
  identities key apart identity found := by
    rw [identities key apart] at found
    obtain ⟨row, member, same, isOf⟩ := elsewhere.identities key apart identity found
    exact ⟨row, rows member, same, isOf.allowedProtocols,
      fun certificate isIn => bindings (isOf.certificates certificate isIn)⟩
  locations location member id isOwn := by
    rw [locations] at member
    obtain ⟨row, rowMem, same⟩ := elsewhere.locations location member id isOwn
    exact ⟨row, rows rowMem, same⟩

/-! ## Rows -/

theorem chargePointOf?_eq_some {ocppId : String}
    (found : registry.chargePointOf? ocppId = some row) :
    row ∈ registry.chargePoints.rows ∧ row.ocppId = ocppId :=
  ⟨List.mem_of_find?_eq_some found, by simpa using List.find?_some found⟩

/-- An added row is the only thing that is new. -/
theorem insertChargePoint?_eq_some (inserted : registry.insertChargePoint? row = some written) :
    (∀ other ∈ registry.chargePoints.rows, other.ocppId ≠ row.ocppId) ∧
      written.chargePoints.rows = registry.chargePoints.rows ++ [row] ∧
      written.identities = registry.identities ∧ written.locations = registry.locations ∧
      written.bindings = registry.bindings := by
  unfold insertChargePoint? at inserted
  split at inserted
  · cases inserted
  · rename_i free
    split at inserted
    · cases inserted
    · rename_i added
      cases inserted
      have rowsEq := (Table.insert?_eq_some_iff.mp added).2
      refine ⟨fun other member same => free ?_, rowsEq, rfl, rfl, rfl⟩
      exact same ▸ List.mem_map_of_mem member

/-- A row is added unless its id or its `ocppId` is taken. -/
theorem isSome_insertChargePoint? (free : registry.chargePointOf? row.ocppId = none) :
    (registry.insertChargePoint? row).isSome = (registry.chargePoints.find? row.id).isNone := by
  have isFree : row.ocppId ∉ registry.chargePoints.rows.map fun other => other.ocppId := by
    rw [chargePointOf?, List.find?_eq_none] at free
    simpa using free
  unfold insertChargePoint?
  rw [dif_neg isFree]
  split
  · rename_i refused
    rw [Option.isSome_none, eq_comm, Option.isNone_eq_false_iff, Option.isSome_iff_ne_none]
    intro missing
    rw [Table.insert?, dif_neg (Table.find?_eq_none_iff.mp missing)] at refused
    cases refused
  · rename_i added
    rw [Option.isSome_some, eq_comm, Option.isNone_iff_eq_none, Table.find?_eq_none_iff]
    exact (Table.insert?_eq_some_iff.mp added).1

theorem ProjectsElsewhere.of_inserted (projects : Projects runtime registry)
    (inserted : registry.insertChargePoint? row = some written) :
    row ∈ written.chargePoints.rows ∧ written.identities row.ocppId = none ∧
      ProjectsElsewhere runtime row.ocppId written := by
  obtain ⟨free, rows, identities, locations, bindings⟩ := insertChargePoint?_eq_some inserted
  refine ⟨?_, ?_, ?_⟩
  · rw [rows]
    exact List.mem_append_right _ List.mem_cons_self
  · rw [identities, Option.eq_none_iff_forall_ne_some]
    intro identity found
    obtain ⟨other, member, same, _⟩ := projects.identities _ trivial identity found
    exact free other member same
  · refine (projects.elsewhere row.ocppId).of_subset ?_ ?_ locations ?_
    · rw [rows]
      exact List.subset_append_left _ _
    · intro key _
      rw [identities]
    · rw [bindings]
      exact List.Subset.refl _

section Update

variable {change : RegisteredChargePoint → RegisteredChargePoint}
  {keepsId : ∀ row, (change row).id = row.id}
  {keepsOcppId : ∀ row, (change row).ocppId = row.ocppId}

theorem mem_updateChargePoint {id : String} {other : RegisteredChargePoint} :
    other ∈ (registry.updateChargePoint id change keepsId keepsOcppId).chargePoints.rows ↔
      ∃ old ∈ registry.chargePoints.rows,
        old.id = id ∧ other = change old ∨ old.id ≠ id ∧ other = old := by
  rw [updateChargePoint, Table.mem_updateWhere]
  simp only [decide_eq_true_eq, decide_eq_false_iff_not, ne_eq]

/-- An update concerns the identity under the `ocppId` of its row. -/
theorem ProjectsElsewhere.of_updated (projects : Projects runtime registry)
    (member : row ∈ registry.chargePoints.rows) : ProjectsElsewhere runtime row.ocppId
      (registry.updateChargePoint row.id change keepsId keepsOcppId) where
  identities key apart identity found := by
    obtain ⟨other, otherMem, rfl, isOf⟩ := projects.identities key trivial identity found
    have otherId : other.id ≠ row.id := by
      intro same
      obtain rfl := registry.chargePoints.eq_of_key_eq otherMem member same
      exact apart rfl
    exact ⟨other, mem_updateChargePoint.mpr ⟨other, otherMem, Or.inr ⟨otherId, rfl⟩⟩, rfl,
      isOf.allowedProtocols, isOf.certificates⟩
  locations location isIn id isOwn := by
    obtain ⟨other, otherMem, rfl⟩ := projects.locations location isIn id isOwn
    by_cases same : other.id = row.id
    · exact ⟨change other, mem_updateChargePoint.mpr ⟨other, otherMem, Or.inl ⟨same, rfl⟩⟩,
        keepsId other⟩
    · exact ⟨other, mem_updateChargePoint.mpr ⟨other, otherMem, Or.inr ⟨same, rfl⟩⟩, rfl⟩

end Update

/-- A removed row must have no identity and no location. -/
theorem projects_deleteChargePoint_iff (projects : Projects runtime registry)
    (member : row ∈ registry.chargePoints.rows) :
    Projects runtime (registry.deleteChargePoint row.id) ↔ registry.identities row.ocppId = none ∧
        ∀ location ∈ registry.locations.rows, isPublication runtime row.id location = false := by
  have mem_rows {other : RegisteredChargePoint} :
      other ∈ (registry.deleteChargePoint row.id).chargePoints.rows ↔
        other ∈ registry.chargePoints.rows ∧ other.id ≠ row.id := by
    rw [deleteChargePoint, Table.rows_deleteWhere, List.mem_filter]
    simp
  constructor
  · intro after
    refine ⟨Option.eq_none_iff_forall_ne_some.mpr fun identity found => ?_, fun location isIn => ?_⟩
    · obtain ⟨other, isLeft, same, _⟩ := after.identities _ trivial identity found
      obtain ⟨otherMem, apart⟩ := mem_rows.mp isLeft
      exact apart (congrArg (fun row => row.id) (eq_of_ocppId_eq otherMem member same))
    · rw [Bool.eq_false_iff]
      intro isOwn
      obtain ⟨other, isLeft, same⟩ := after.locations location isIn _ isOwn
      exact (mem_rows.mp isLeft).2 same
  · rintro ⟨unidentified, unpublished⟩
    refine ⟨fun key _ identity found => ?_, fun location isIn id isOwn => ?_⟩
    · obtain ⟨other, otherMem, rfl, isOf⟩ := projects.identities key trivial identity found
      have apart : other.id ≠ row.id := by
        intro same
        obtain rfl := registry.chargePoints.eq_of_key_eq otherMem member same
        rw [deleteChargePoint, unidentified] at found
        cases found
      refine ⟨other, mem_rows.mpr ⟨otherMem, apart⟩, rfl, isOf.allowedProtocols, ?_⟩
      intro certificate isBound
      exact List.mem_filter.mpr ⟨isOf.certificates certificate isBound, decide_eq_true apart⟩
    · obtain ⟨other, otherMem, rfl⟩ := projects.locations location isIn id isOwn
      refine ⟨other, mem_rows.mpr ⟨otherMem, fun same => ?_⟩, rfl⟩
      rw [same, unpublished location isIn] at isOwn
      cases isOwn

/-! ## Provisioning -/

theorem certificates_provision (now : Int) (version : OcppVersion)
    (options : Option ProvisioningOptions) (existing : Option RedisChargerIdentity) :
    (Provisioning.provision runtime.provisioning now row.toChargePoint station.toStation version
      options existing).auth.certificates = existing.bind (·.auth.certificates) := by
  have kept (auth : IdentityAuth) :
      (provisionAuth runtime.provisioning now row.toChargePoint options auth).certificates =
        auth.certificates := by
    unfold provisionAuth
    cases options.bind ProvisioningOptions.authProfile with
    | none => rfl
    | some profile => cases profile <;> rfl
  rw [Provisioning.provision, kept]
  cases existing <;> rfl

theorem setIdentity_self (registry : Registry) (key : String) (identity : RedisChargerIdentity) :
    (registry.setIdentity key identity).identities key = some identity :=
  Function.update_self _ _ _

section

variable (member : row ∈ registry.chargePoints.rows)
    (elsewhere : ProjectsElsewhere runtime row.ocppId registry)
include member elsewhere

theorem projects_setIdentity_iff (identity : RedisChargerIdentity) :
    Projects runtime (registry.setIdentity row.ocppId identity) ↔
      IdentityOf registry row identity := by
  have elsewhere' : ProjectsElsewhere runtime row.ocppId
      (registry.setIdentity row.ocppId identity) :=
    elsewhere.of_subset (List.Subset.refl _) (fun _ apart => Function.update_of_ne apart _ _) rfl
      (List.Subset.refl _)
  have member' : row ∈ (registry.setIdentity row.ocppId identity).chargePoints.rows := member
  rw [projects_iff_of_mem member' elsewhere', setIdentity_self]
  simp only [Option.some.injEq, forall_eq']
  exact ⟨fun isOf => ⟨isOf.allowedProtocols, isOf.certificates⟩,
    fun isOf => ⟨isOf.allowedProtocols, isOf.certificates⟩⟩

/-- What is provisioned for a row is its identity exactly if the version is that of the row; where
nothing can be written, the identity that is there has to be it. -/
theorem projects_provision_iff
    (bound : ∀ identity, registry.identities row.ocppId = some identity → ∀ certificate ∈ identity.auth.certificates.getD [], ⟨row.id, certificate⟩ ∈ registry.bindings)
    (version : OcppVersion) (options : Option ProvisioningOptions) :
    Projects runtime (registry.provision runtime call row station version options).1 ↔
      if row.ocppId = "" ∨ call.redisAnswers = false then
        ∀ identity, registry.identities row.ocppId = some identity →
          identity.allowedProtocols = some [gatewayVersion row.ocppVersion]
      else version = row.ocppVersion := by
  have unwritten : Projects runtime registry ↔
      ∀ identity, registry.identities row.ocppId = some identity →
        identity.allowedProtocols = some [gatewayVersion row.ocppVersion] := by
    rw [projects_iff_of_mem member elsewhere]
    exact forall₂_congr fun identity found =>
      ⟨IdentityOf.allowedProtocols, fun protocols => ⟨protocols, bound identity found⟩⟩
  unfold provision
  by_cases isEmpty : row.ocppId = ""
  · rw [if_pos isEmpty, if_pos (Or.inl isEmpty)]
    exact unwritten
  · rw [if_neg isEmpty]
    cases answers : call.redisAnswers with
    | false =>
      rw [if_neg (by decide), if_pos (Or.inr rfl)]
      exact unwritten
    | true =>
      rw [if_pos rfl, if_neg (by simpa using isEmpty)]
      refine (projects_setIdentity_iff member elsewhere _).trans ⟨fun isOf => ?_, ?_⟩
      · have protocols := isOf.allowedProtocols
        simpa [Provisioning.provision, gatewayVersion_inj] using protocols
      · rintro rfl
        refine ⟨rfl, fun certificate isIn => ?_⟩
        rw [certificates_provision] at isIn
        cases found : registry.identities row.ocppId with
        | none =>
          rw [found] at isIn
          cases isIn
        | some existing =>
          rw [found] at isIn
          exact bound existing found certificate isIn

/-! ## Operations -/

end

/-- Where neither rows nor identities changed, the locations decide. -/
theorem Projects.of_locations (projects : Projects runtime registry)
    (chargePoints : written.chargePoints = registry.chargePoints)
    (identities : written.identities = registry.identities)
    (bindings : written.bindings = registry.bindings)
    (locations : LocationsProject runtime written) : Projects runtime written where
  identities key _ identity found := by
    rw [identities] at found
    obtain ⟨row, member, same, isOf⟩ := projects.identities key trivial identity found
    rw [chargePoints]
    refine ⟨row, member, same, isOf.allowedProtocols, ?_⟩
    rw [bindings]
    exact isOf.certificates
  locations := locations

/-- A row that is added has no identity yet. -/
theorem projects_provision_inserted_iff (projects : Projects runtime registry)
    (inserted : registry.insertChargePoint? row = some written) (version : OcppVersion)
    (options : Option ProvisioningOptions) :
    Projects runtime (written.provision runtime call row station version options).1 ↔
      (row.ocppId = "" ∨ call.redisAnswers = false) ∨ version = row.ocppVersion := by
  obtain ⟨member, unidentified, elsewhere⟩ := ProjectsElsewhere.of_inserted projects inserted
  have noIdentity (property : RedisChargerIdentity → Prop) (identity : RedisChargerIdentity)
      (found : written.identities row.ocppId = some identity) : property identity := by
    rw [unidentified] at found
    cases found
  rw [projects_provision_iff member elsewhere (noIdentity _)]
  split
  · rename_i unwritten
    exact iff_of_true (noIdentity _) (Or.inl unwritten)
  · rename_i isWritten
    exact (or_iff_right isWritten).symm

theorem projects_createChargePoint (projects : Projects runtime registry) (createDto : CreateDto) :
    Projects runtime (registry.createChargePoint runtime call createDto).1 := by
  unfold createChargePoint
  split
  · exact projects
  · split
    · exact projects
    · rename_i inserted
      exact (projects_provision_inserted_iff projects inserted _ _).mpr (Or.inr rfl)

theorem unknownStation_eq_some {stationed : Registry}
    (found : unknownStation call registry = some (stationed, station)) :
    stationed.chargePoints = registry.chargePoints ∧
      stationed.identities = registry.identities ∧ stationed.locations = registry.locations ∧
      stationed.bindings = registry.bindings := by
  unfold unknownStation at found
  split at found
  · cases found
    exact ⟨rfl, rfl, rfl, rfl⟩
  · obtain ⟨_, _, isNew⟩ := Option.map_eq_some_iff.mp found
    cases isNew
    exact ⟨rfl, rfl, rfl, rfl⟩

/-- The row of the charger is there with its station, or can be added. -/
def canBoot (call : RegistryCall) (registry : Registry) (ocppId : String) : Bool :=
  match registry.chargePointOf? ocppId with
  | some chargePoint => (registry.stations.find? chargePoint.stationId).isSome
  | none =>
    (unknownStation call registry).isSome &&
      (registry.chargePoints.find? call.newChargePointId).isNone

/-- A boot provisions 1.6, and may only leave an identity of the version that boots. -/
def BootAgrees (call : RegistryCall) (registry : Registry) (ocppId : String)
    (normalizedVersion : OcppVersion) : Prop :=
  if ocppId = "" ∨ call.redisAnswers = false then
    ∀ identity, registry.identities ocppId = some identity →
      identity.allowedProtocols = some [gatewayVersion normalizedVersion]
  else .v16 = normalizedVersion

theorem projects_provision_booted_iff (projects : Projects runtime registry)
    (member : row ∈ registry.chargePoints.rows) (version : OcppVersion) : Projects runtime
        (provision runtime call
          (registry.updateChargePoint row.id (boot version) (fun _ => rfl) fun _ => rfl)
          (boot version row) station .v16 none).1 ↔
      BootAgrees call registry row.ocppId version := by
  have elsewhere : ProjectsElsewhere runtime row.ocppId
      (registry.updateChargePoint row.id (boot version) (fun _ => rfl) fun _ => rfl) :=
    ProjectsElsewhere.of_updated projects member
  have sameId : (boot version row).ocppId = row.ocppId := rfl
  rw [← sameId] at elsewhere
  refine projects_provision_iff ?_ elsewhere ?_ _ _
  · exact mem_updateChargePoint.mpr ⟨row, member, Or.inl ⟨rfl, rfl⟩⟩
  · exact fun identity found => (projects.identityOf member found).certificates

/-- Before the first boot of a charger there is no identity. -/
theorem bootAgrees_iff_of_unknown (projects : Projects runtime registry) {ocppId : String}
    (unknown : registry.chargePointOf? ocppId = none) (version : OcppVersion) :
    BootAgrees call registry ocppId version ↔
      (ocppId = "" ∨ call.redisAnswers = false) ∨ .v16 = version := by
  unfold BootAgrees
  split
  · rename_i unwritten
    refine iff_of_true (fun identity found => ?_) (Or.inl unwritten)
    obtain ⟨row, member, rfl, _⟩ := projects.identities ocppId trivial identity found
    rw [chargePointOf?, List.find?_eq_none] at unknown
    exact absurd (decide_eq_true rfl) (unknown row member)
  · rename_i isWritten
    exact (or_iff_right isWritten).symm

theorem projects_handleBootNotification_iff (projects : Projects runtime registry)
    (ocppId : String) (ocppVersion : Option String) :
    Projects runtime (registry.handleBootNotification runtime call ocppId ocppVersion).1 ↔
      (canBoot call registry ocppId = true →
        BootAgrees call registry ocppId (normalizeOcppVersion ocppVersion)) := by
  unfold handleBootNotification canBoot
  generalize normalizeOcppVersion ocppVersion = version
  cases known : registry.chargePointOf? ocppId with
  | some chargePoint =>
    obtain ⟨member, rfl⟩ := chargePointOf?_eq_some known
    dsimp only
    cases placed : registry.stations.find? chargePoint.stationId with
    | none => simp [projects]
    | some station =>
      exact (projects_provision_booted_iff projects member _).trans
        ⟨fun agrees _ => agrees, fun agrees => agrees rfl⟩
  | none =>
    dsimp only
    cases placed : unknownStation call registry with
    | none => simp [projects]
    | some placing =>
      obtain ⟨stationed, station⟩ := placing
      obtain ⟨chargePoints, identities, locations, bindings⟩ := unknownStation_eq_some placed
      have projects' : Projects runtime stationed := by
        refine projects.of_locations chargePoints identities bindings ?_
        rw [LocationsProject, locations, chargePoints]
        exact projects.locations
      have unknown : stationed.chargePointOf? ocppId = none := by
        rw [chargePointOf?, chargePoints]
        exact known
      have isFree := @isSome_insertChargePoint? stationed
        (unknownChargePoint call ocppId version station) unknown
      rw [chargePoints] at isFree
      dsimp only
      cases inserted :
          stationed.insertChargePoint? (unknownChargePoint call ocppId version station) with
      | none =>
        rw [inserted] at isFree
        refine iff_of_true projects' fun free => ?_
        rw [Option.isSome_some, Bool.true_and] at free
        exact absurd (isFree.trans free) (by decide)
      | some written =>
        rw [inserted] at isFree
        refine (projects_provision_inserted_iff projects' inserted _ _).trans ?_
        rw [bootAgrees_iff_of_unknown projects known, Option.isSome_some, Bool.true_and]
        exact ⟨fun agrees _ => agrees, fun agrees => agrees isFree.symm⟩

theorem mem_bindCertificates {now : Int} {input : CertificateBindInput} {certificate : Certificate}
    {identity : RedisChargerIdentity} {key : String}
    (member : certificate ∈ (bindCertificate now (runtime.toISOString call.now) key input
      identity).auth.certificates.getD []) : certificate ∈ identity.auth.certificates.getD [] ∨
      certificate = boundCertificate runtime call key input := by
  rcases List.mem_append.mp member with old | new
  · exact Or.inl (List.mem_filter.mp old).1
  · exact Or.inr (List.mem_singleton.mp new)

theorem bindable_eq_ok {id fingerprint : String} {dto : BindChargePointCertificateDto}
    (isOk : bindable runtime call registry id dto = .ok (row, fingerprint)) :
    getExistingChargePoint call registry id = .ok row := by
  unfold bindable at isOk
  obtain ⟨found, isFound, isOk⟩ := Service.bind_eq_ok_iff.mp isOk
  obtain ⟨_, _, isOk⟩ := Service.bind_eq_ok_iff.mp isOk
  obtain ⟨_, _, isOk⟩ := Service.bind_eq_ok_iff.mp isOk
  obtain ⟨_, _, isOk⟩ := Service.bind_eq_ok_iff.mp isOk
  cases isOk
  exact isFound

theorem getExistingChargePoint_eq_ok {id : String}
    (isOk : getExistingChargePoint call registry id = .ok row) :
    row ∈ registry.chargePoints.rows ∧ row.id = id := by
  unfold getExistingChargePoint at isOk
  obtain ⟨owns, _, isOk⟩ := Service.bind_eq_ok_iff.mp isOk
  split at isOk
  · cases isOk
  · rename_i found
    cases isOk
    exact Table.find?_eq_some_iff.mp (Option.filter_eq_some_iff.mp found).1

theorem projects_bindChargePointCertificate (projects : Projects runtime registry) (id : String)
    (dto : BindChargePointCertificateDto) :
    Projects runtime (registry.bindChargePointCertificate runtime call id dto).1 := by
  unfold bindChargePointCertificate
  split
  · exact projects
  · rename_i chargePoint fingerprint isOk
    obtain ⟨member, _⟩ := getExistingChargePoint_eq_ok (bindable_eq_ok isOk)
    split
    · split
      · exact projects
      · rename_i identity found
        have isOf := projects.identityOf member found
        have updated : disallowInsecure chargePoint ∈ (registry.updateChargePoint chargePoint.id
            disallowInsecure (fun _ => rfl) fun _ => rfl).chargePoints.rows :=
          mem_updateChargePoint.mpr ⟨chargePoint, member, Or.inl ⟨rfl, rfl⟩⟩
        have elsewhere : ProjectsElsewhere runtime chargePoint.ocppId
            (registry.updateChargePoint chargePoint.id disallowInsecure (fun _ => rfl)
              fun _ => rfl) :=
          ProjectsElsewhere.of_updated projects member
        refine (projects_iff_of_mem (?_ : disallowInsecure chargePoint ∈ _) ?_).mpr
          fun bound isBound => ?_
        · exact updated
        · exact elsewhere.of_subset (List.Subset.refl _)
            (fun key apart => Function.update_of_ne apart _ _) rfl (List.subset_append_left _ _)
        · have isSet := setIdentity_self registry chargePoint.ocppId
            (bindCertificate call.now (runtime.toISOString call.now) chargePoint.ocppId
              ⟨fingerprint, dto.subject, dto.validFrom, dto.validTo⟩ identity)
          obtain rfl := Option.some.inj (isSet.symm.trans isBound)
          refine ⟨isOf.allowedProtocols, fun certificate isIn => ?_⟩
          rcases mem_bindCertificates isIn with old | rfl
          · exact List.mem_append_left _ (isOf.certificates certificate old)
          · exact List.mem_append_right _ List.mem_cons_self
    · exact projects

theorem projects_removeChargePoint_iff (projects : Projects runtime registry) (id : String) :
    Projects runtime (registry.removeChargePoint call id).1 ↔
      ∀ row, getExistingChargePoint call registry id = .ok row → call.isReferenced id = false →
        registry.identities row.ocppId = none ∧
          ∀ location ∈ registry.locations.rows, isPublication runtime id location = false := by
  unfold removeChargePoint
  cases existing : getExistingChargePoint call registry id with
  | error refused => simp [projects]
  | ok row =>
    obtain ⟨member, rfl⟩ := getExistingChargePoint_eq_ok existing
    cases referenced : call.isReferenced row.id with
    | true => simp [projects]
    | false =>
      simpa using projects_deleteChargePoint_iff projects member

theorem projects_setChargePointRoamingPublication (projects : Projects runtime registry)
    (chargePointId : String) (published : Bool) : Projects runtime
      (registry.setChargePointRoamingPublication runtime call chargePointId published).1 := by
  unfold setChargePointRoamingPublication
  split
  · exact projects
  · rename_i cp found
    obtain ⟨member, rfl⟩ := Table.find?_eq_some_iff.mp found
    split
    · refine projects.of_locations rfl rfl rfl fun location isIn id isOwn => ?_
      rcases Table.key_eq_or_mem_of_mem_upsert isIn with sameKey | old
      · have sameId : location.locationId = cp.id := congrArg (fun key => key.2.2.1) sameKey
        rw [isPublication, Bool.and_eq_true, decide_eq_true_eq] at isOwn
        exact ⟨cp, member, sameId.symm.trans isOwn.2⟩
      · exact projects.locations location old id isOwn
    · refine projects.of_locations rfl rfl rfl fun location isIn id isOwn => ?_
      exact projects.locations location (List.mem_filter.mp isIn).1 id isOwn

/-! ## Runs -/

/-- A boot agrees with what it provisions, and a row that is removed has neither an identity nor a
location. -/
def StaysInStep (runtime : RegistryRuntime) (registry : Registry) (action : RegistryAction) :
    Prop :=
  match action.operation with
  | .handleBootNotification ocppId ocppVersion =>
    canBoot action.call registry ocppId = true →
      BootAgrees action.call registry ocppId (normalizeOcppVersion ocppVersion)
  | .removeChargePoint id =>
    ∀ row, getExistingChargePoint action.call registry id = .ok row →
      action.call.isReferenced id = false → registry.identities row.ocppId = none ∧
        ∀ location ∈ registry.locations.rows, isPublication runtime id location = false
  | _ => True

theorem projects_next_iff (projects : Projects runtime registry) (action : RegistryAction) :
    Projects runtime (registry.next runtime action) ↔ StaysInStep runtime registry action := by
  obtain ⟨call, operation⟩ := action
  cases operation with
  | createChargePoint createDto => exact iff_of_true (projects_createChargePoint projects _) trivial
  | handleBootNotification ocppId ocppVersion =>
    exact projects_handleBootNotification_iff projects ocppId ocppVersion
  | bindChargePointCertificate id dto =>
    exact iff_of_true (projects_bindChargePointCertificate projects id dto) trivial
  | removeChargePoint id => exact projects_removeChargePoint_iff projects id
  | setChargePointRoamingPublication chargePointId published =>
    exact iff_of_true (projects_setChargePointRoamingPublication projects _ published) trivial

/-- Identities and locations are projections of the rows throughout a run exactly when each of its
boots and removals leaves them in step. -/
theorem projections_iff (runtime : RegistryRuntime) {registry : Registry}
    (initial : Projects runtime registry) (actions : List RegistryAction) :
    (∀ reached ∈ states (next runtime) registry actions, Projects runtime reached) ↔
      StepsMeet (next runtime) (StaysInStep runtime) registry actions :=
  @forall_mem_states_iff_stepsMeet _ _ (next runtime) (fun _ => True) (Projects runtime)
    (StaysInStep runtime) (fun _ _ _ => trivial)
    (fun _ action _ projects => projects_next_iff projects action) _ trivial initial actions

namespace Sample

def settings : RegistryRuntime :=
  { Provisioning.Sample.runtime with
    countryCode := none
    partyId := none
    toUpperCase := Js.toUpperCase }

def callFor (newChargePointId : String) : RegistryCall :=
  { Provisioning.Sample.call with
    newChargePointId
    redisAnswers := true
    isReferenced _ := false }

def stationsOnly : Registry where
  stations :=
    { rows :=
        [{ id := "acme", name := "Acme 1", siteOwnerId := some "acme", address := "1 Road"
           latitude := .finite 0, longitude := .finite 0 },
         { id := "rival", name := "Rival 1", siteOwnerId := some "rival", address := "2 Road"
           latitude := .finite 0, longitude := .finite 0 }]
      nodup := by decide }
  chargePoints := Table.empty
  ocppIds := List.nodup_nil
  identities _ := none
  locations := Table.empty
  bindings := []

theorem projects_stationsOnly : Projects settings stationsOnly :=
  ⟨by rintro key _ identity ⟨⟩, by rintro location ⟨⟩⟩

def create (newChargePointId ocppId stationId : String) : RegistryAction where
  call := callFor newChargePointId
  operation := .createChargePoint
    { ocppId, stationId, ocppVersion := some .v201, authProfile := none
      bootstrapTtlMinutes := none, allowedIps := none, allowedCidrs := none, type := none
      power := none }

def bindTo (id : String) : RegistryAction where
  call := callFor "unused"
  operation := .bindChargePointCertificate id
    ⟨String.ofList (List.replicate 64 'A'), none, none, none⟩

def bootAs (ocppId version : String) : RegistryAction where
  call := callFor "booted"
  operation := .handleBootNotification ocppId (some version)

def publish (id : String) (published : Bool) : RegistryAction where
  call := callFor "unused"
  operation := .setChargePointRoamingPublication id published

def remove (id : String) : RegistryAction where
  call := callFor "unused"
  operation := .removeChargePoint id

def booted : Registry :=
  final (next settings) stationsOnly [bootAs "CP1" "2.0.1"]

def removed : Registry :=
  final (next settings) stationsOnly
    [create "first" "CP1" "acme", bindTo "first", publish "first" true, remove "first"]

def recreated : Registry :=
  removed.next settings (create "second" "CP1" "rival")

def kept : List RegistryAction :=
  [create "first" "CP1" "acme", bindTo "first", publish "first" true, bootAs "CP2" "1.6",
    publish "first" false, publish "booted" true]

end Sample

open Csms.Provisioning.Registry.Sample

/-- A charge point that is created gets its certificate, one boots with 1.6, both are published. -/
theorem projections_of_kept :
    Projects settings (final (next settings) stationsOnly kept) ∧
      (final (next settings) stationsOnly kept).chargePoints.rows.map
        (·.ocppId) = ["CP1", "CP2"] := by
  have met : StepsMeet (next settings) (StaysInStep settings) stationsOnly
      kept := by
    refine ⟨trivial, trivial, trivial, fun _ => ?_, trivial, trivial, trivial⟩
    rw [BootAgrees, if_neg (by decide)]
    decide +kernel
  refine ⟨?_, by decide +kernel⟩
  exact (projections_iff settings projects_stationsOnly kept).mpr met _
    (final_mem_states _ _ _)

/-- The identity of a charger that boots with 2.0.1 is one for 1.6; a removed charge point leaves
its identity and its location, and its certificate lets it in as that of another owner. -/
theorem identities_and_locations_drift : Projects settings stationsOnly ∧
      (booted.chargePoints.rows.map (·.ocppVersion) = [.v201] ∧
        (booted.identities "CP1").bind (·.allowedProtocols) = some ["1.6J"]) ∧
      (removed.chargePoints.rows = [] ∧ (removed.identities "CP1").isSome = true ∧
        removed.locations.rows.map (·.locationId) = ["first"]) ∧
      (recreated.bindings = [] ∧
        (recreated.identities "CP1").map (·.tenantId) = some "rival" ∧
        ((recreated.identities "CP1").bind (·.auth.certificates)).map List.length = some 1) ∧
      ¬Projects settings booted ∧ ¬Projects settings removed ∧
        ¬Projects settings recreated := by
  have versions : booted.chargePoints.rows.map (·.ocppVersion) = [.v201] := by
    decide +kernel
  have protocols : (booted.identities "CP1").bind (·.allowedProtocols) = some ["1.6J"] := by
    decide +kernel
  have noRows : removed.chargePoints.rows = [] := by decide +kernel
  have orphan : (removed.identities "CP1").isSome = true := by decide +kernel
  have noBindings : recreated.bindings = [] := by decide +kernel
  have inherited : ((recreated.identities "CP1").bind (·.auth.certificates)).map
      List.length = some 1 := by
    decide +kernel
  refine ⟨projects_stationsOnly, ⟨versions, protocols⟩, ⟨noRows, orphan, ?_⟩,
    ⟨noBindings, ?_, inherited⟩, fun projects => ?_, fun projects => ?_, fun projects => ?_⟩
  · decide +kernel
  · decide +kernel
  · obtain ⟨identity, found, names⟩ := Option.bind_eq_some_iff.mp protocols
    obtain ⟨row, member, _, isOf⟩ := projects.identities _ trivial identity found
    have version : row.ocppVersion ∈ booted.chargePoints.rows.map (·.ocppVersion) :=
      List.mem_map_of_mem member
    rw [versions, List.mem_singleton] at version
    have named := isOf.allowedProtocols
    rw [version, names] at named
    revert named
    decide
  · obtain ⟨identity, found⟩ := Option.isSome_iff_exists.mp orphan
    obtain ⟨row, member, _⟩ := projects.identities _ trivial identity found
    rw [noRows] at member
    cases member
  · obtain ⟨certificates, isIn, isOne⟩ := Option.map_eq_some_iff.mp inherited
    obtain ⟨identity, found, has⟩ := Option.bind_eq_some_iff.mp isIn
    obtain ⟨certificate, rfl⟩ := List.length_eq_one_iff.mp isOne
    obtain ⟨row, _, _, isOf⟩ := projects.identities _ trivial identity found
    have bound := isOf.certificates certificate (by simp [has])
    rw [noBindings] at bound
    cases bound

end Csms.Provisioning.Registry
