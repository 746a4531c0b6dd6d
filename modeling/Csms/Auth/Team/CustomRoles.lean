import Csms.Auth.Team.Memberships

/-!
# The permissions of a custom role

A member with an active custom role has no other permissions than the role.  With one that
is not active, the member has all permissions of the role that the membership is of.
-/

namespace Csms.Auth

open Database Js
open Service Transition

namespace Store

def carriedRole (row : OrganizationMembership) : Option String :=
  orText row.customRoleId none

def hasActiveCustomRole (store : Store) (organizationId customRoleId : String) : Bool :=
  isSet (some organizationId) && store.customRoles.rows.any fun row =>
    row.id = customRoleId && row.organizationId = organizationId && row.status = .active

def carriesActive (store : Store) (row : OrganizationMembership) : Bool :=
  row.status ≠ .active ||
    (carriedRole row).all fun customRoleId =>
      store.hasActiveCustomRole row.organizationId customRoleId

def customRolePermissions (store : Store) (customRoleId : String) : List String :=
  ((store.customRoles.find? customRoleId).map TenantCustomRole.permissions).getD []

section Access

variable {store : Store}

theorem exists_resolveActiveCustomRoleAccess {membership : ActiveMembership}
    {customRoleId : String} (isRole : carriedRole membership.toOrganizationMembership =
      some customRoleId)
    (active : store.hasActiveCustomRole membership.organizationId customRoleId = true) :
    ∃ customRole, store.resolveActiveCustomRoleAccess (some membership.organizationId)
        (some membership) = some customRole ∧
      customRole.permissions = store.customRolePermissions customRoleId := by
  rw [hasActiveCustomRole, Bool.and_eq_true, List.any_eq_true] at active
  obtain ⟨inOrganization, row, isRow, isActive⟩ := active
  obtain ⟨found, isFound⟩ : ∃ found, (store.customRoles.rows.find? fun row =>
      row.id = customRoleId && row.organizationId = membership.organizationId &&
        row.status = .active) = some found :=
    Option.isSome_iff_exists.mp (List.find?_isSome.mpr ⟨row, isRow, isActive⟩)
  refine ⟨⟨found.id, found.name, found.baseRoleKey, found.permissions⟩, ?_, ?_⟩
  · rw [resolveActiveCustomRoleAccess, orText_of_isSet inOrganization]
    change (orText membership.customRoleId none >>= fun customRoleId => _) = _
    rw [show orText membership.customRoleId none = some customRoleId from isRole]
    change ((store.customRoles.rows.find? _) >>= fun customRole => _) = _
    rw [isFound]
    rfl
  · have hasId := List.find?_some isFound
    simp only [Bool.and_eq_true, decide_eq_true_eq] at hasId
    rw [customRolePermissions,
      Table.find?_eq_some_iff.mpr ⟨List.mem_of_find?_eq_some isFound, hasId.1.1⟩]
    rfl

theorem mem_of_mem_resolveCustomRolePermissions {baseRoleKey : CanonicalRoleKey}
    {customRole : ActiveCustomRoleAccessSummary} {permission : String}
    (isPermission : permission ∈ resolveCustomRolePermissions baseRoleKey customRole) :
    permission ∈ customRole.permissions := by
  rw [resolveCustomRolePermissions, mem_sortedSet] at isPermission
  exact (List.mem_filter.mp isPermission).1

end Access

end Store

theorem permissions_buildProfile {input : AccessProfileInput}
    {customRole : ActiveCustomRoleAccessSummary} (isRole : input.customRole = some customRole) :
    (buildProfile input).permissions =
      resolveCustomRolePermissions customRole.baseRoleKey.definition.key customRole := by
  rw [buildProfile, isRole]
  rfl

namespace Store

/-- Whoever has no platform role, but a membership with a custom role in the organization
of the session, has no other permissions than the role. -/
def IsConfined (store : Store) : Prop :=
  ∀ (user : User) (options : AuthSessionContextOptions) (membership : ActiveMembership)
    (customRoleId : String),
    let context := buildAuthUserContext (store.accessReads user.id) user options
    store.resolveActivePlatformRoleKey user.id = none →
      membershipIn context.memberships context.activeOrganizationId = some membership →
      carriedRole membership.toOrganizationMembership = some customRoleId →
      ∀ permission ∈ (context.accessProfile user).permissions,
        permission ∈ store.customRolePermissions customRoleId

theorem isConfined_of_carriesActive {store : Store}
    (carries : ∀ row ∈ store.memberships.rows, store.carriesActive row = true) :
    store.IsConfined := by
  intro user options membership customRoleId context noPlatformRole isMembership isRole
    permission isPermission
  have inOrganization : some membership.organizationId = context.activeOrganizationId := by
    simpa using List.find?_some isMembership
  obtain ⟨row, isRow, rfl⟩ := List.mem_map.mp (List.mem_of_find?_eq_some isMembership)
  rw [List.mem_filter, Bool.and_eq_true, decide_eq_true_eq, decide_eq_true_eq] at isRow
  have active := carries row isRow.1
  rw [carriesActive, isRow.2.2, isRole, Option.all_some] at active
  obtain ⟨customRole, isFound, isPermissions⟩ :=
    exists_resolveActiveCustomRoleAccess isRole (by simpa using active)
  have isActiveRole : context.activeCustomRole = some customRole := by
    have noneOf : (store.accessReads user.id).platformRoleKey.isSome = false := by
      rw [accessReads, noPlatformRole]
      rfl
    have looksUp : context.activeCustomRole = store.resolveActiveCustomRoleAccess
        context.activeOrganizationId
        (membershipIn context.memberships context.activeOrganizationId) := by
      simp only [context, buildAuthUserContext, AccessReads.contextIn, noneOf]
      rfl
    rw [looksUp, isMembership, ← inOrganization, isFound]
  rw [AuthUserContext.accessProfile, permissions_buildProfile isActiveRole] at isPermission
  rw [← isPermissions]
  exact mem_of_mem_resolveCustomRolePermissions isPermission

end Store

/-- A membership that the write leaves active carries an active custom role, if any, and a
custom role that it takes from the active ones is not carried by an active membership. -/
def TeamWrite.keepsCustomRoles (runtime : AuthRuntime) (store : Store) : TeamWrite → Bool
  | updateCustomRole customRoleId update =>
    (update.status.all fun status => status = .active) ||
      store.memberships.rows.all fun row =>
        row.status ≠ .active || Store.carriedRole row ≠ some customRoleId
  | write => (write.setMemberships runtime store).all store.carriesActive

section Writes

variable {runtime : AuthRuntime} {store after : Store}

namespace Store

theorem carriesActive_of_customRoles_eq (same : after.customRoles = store.customRoles)
    (row : OrganizationMembership) : after.carriesActive row = store.carriesActive row := by
  simp only [carriesActive, hasActiveCustomRole, same]

theorem carriesActive_of_imp {row : OrganizationMembership}
    (active : ∀ customRoleId, carriedRole row = some customRoleId →
      row.status = .active → store.hasActiveCustomRole row.organizationId customRoleId = true →
        after.hasActiveCustomRole row.organizationId customRoleId = true)
    (carries : store.carriesActive row = true) : after.carriesActive row = true := by
  rw [carriesActive, Bool.or_eq_true, Option.all_eq_true] at carries ⊢
  rcases carries with inactive | carries
  · exact Or.inl inactive
  · by_cases isActive : row.status = .active
    · exact Or.inr fun customRoleId isRole =>
        active customRoleId isRole isActive (carries customRoleId isRole)
    · exact Or.inl (decide_eq_true isActive)

theorem carriesActive_createCustomRole {created : TenantCustomRole}
    (done : store.createCustomRole created = .ok after)
    (carries : ∀ row ∈ store.memberships.rows, store.carriesActive row = true) :
    ∀ row ∈ after.memberships.rows, after.carriesActive row = true := by
  obtain ⟨_, _, later⟩ := exists_of_bind_eq_ok done
  obtain ⟨customRoles, inserted, isCreated⟩ := exists_of_bind_eq_ok later
  cases isCreated
  have isGrown := (Table.insert?_eq_some_iff.mp (orDatabaseError_eq_ok_iff.mp inserted)).2
  intro row isRow
  refine carriesActive_of_imp ?_ (carries row isRow)
  intro customRoleId _ _ active
  rw [hasActiveCustomRole, Bool.and_eq_true] at active ⊢
  exact ⟨active.1, by rw [isGrown, List.any_append, active.2, Bool.true_or]⟩

theorem hasActiveCustomRole_updateCustomRole {changedId : String} {update : CustomRoleUpdate}
    (done : store.updateCustomRole changedId update = .ok after)
    {organizationId customRoleId : String}
    (stays : customRoleId = changedId → (update.status.all fun status => status = .active) = true)
    (active : store.hasActiveCustomRole organizationId customRoleId = true) :
    after.hasActiveCustomRole organizationId customRoleId = true := by
  obtain ⟨_, _, isUpdated⟩ := exists_of_bind_eq_ok done
  cases isUpdated
  simp only [hasActiveCustomRole, Bool.and_eq_true, List.any_eq_true, decide_eq_true_eq]
    at active ⊢
  obtain ⟨inOrganization, row, isRow, ⟨rfl, isOf⟩, isActive⟩ := active
  refine ⟨inOrganization, ?_⟩
  by_cases isChanged : row.id = changedId
  · refine ⟨_, Table.mem_updateWhere.mpr
      ⟨row, isRow, Or.inl ⟨decide_eq_true isChanged, rfl⟩⟩, ⟨rfl, isOf⟩, ?_⟩
    have stillActive := stays isChanged
    rcases isStatus : update.status with _ | status
    · exact isActive
    · rw [isStatus, Option.all_some, decide_eq_true_eq] at stillActive
      exact stillActive
  · exact ⟨row, Table.mem_updateWhere.mpr
      ⟨row, isRow, Or.inr ⟨decide_eq_false isChanged, rfl⟩⟩, ⟨rfl, isOf⟩, isActive⟩

theorem carriesActive_updateCustomRole {customRoleId : String} {update : CustomRoleUpdate}
    (keeps : (TeamWrite.updateCustomRole customRoleId update).keepsCustomRoles runtime store = true)
    (done : store.updateCustomRole customRoleId update = .ok after)
    (carries : ∀ row ∈ store.memberships.rows, store.carriesActive row = true) :
    ∀ row ∈ after.memberships.rows, after.carriesActive row = true := by
  have sameRows : after.memberships = store.memberships := by
    obtain ⟨_, _, isUpdated⟩ := exists_of_bind_eq_ok done
    cases isUpdated
    rfl
  intro row isRow
  rw [sameRows] at isRow
  refine carriesActive_of_imp ?_ (carries row isRow)
  intro carriedId isRole isActive
  refine hasActiveCustomRole_updateCustomRole done ?_
  rintro rfl
  rw [TeamWrite.keepsCustomRoles, Bool.or_eq_true, List.all_eq_true] at keeps
  rcases keeps with stays | noneCarries
  · exact stays
  · have carriesNone := noneCarries row isRow
    simp [isRole, isActive] at carriesNone

end Store

theorem TeamWrite.carriesActive_run {write : TeamWrite} {value : String}
    (keeps : write.keepsCustomRoles runtime store = true)
    (done : write.run runtime store = .ok (after, value))
    (carries : ∀ row ∈ store.memberships.rows, store.carriesActive row = true) :
    ∀ row ∈ after.memberships.rows, after.carriesActive row = true := by
  have ofSets (isThere : write.isOnControlPlane = true)
      (allCarry : (write.setMemberships runtime store).all store.carriesActive = true) :
      ∀ row ∈ after.memberships.rows, after.carriesActive row = true := by
    have sets := setsMemberships_run isThere done
    intro row isRow
    rw [Store.carriesActive_of_customRoles_eq sets.customRoles]
    exact sets.forall_memberships carries (List.all_eq_true.mp allCarry) row isRow
  cases write with
  | createCustomRole row =>
    obtain ⟨created, isCreated, isAfter⟩ := exists_of_map_eq_ok done
    cases isAfter
    exact Store.carriesActive_createCustomRole isCreated carries
  | updateCustomRole customRoleId update =>
    obtain ⟨updated, isUpdated, isAfter⟩ := exists_of_map_eq_ok done
    cases isAfter
    exact Store.carriesActive_updateCustomRole keeps isUpdated carries
  | upsertTenantMembership row =>
    cases done
    exact carries
  | _ => exact ofSets rfl keeps

/-- Each write of the step that succeeds leaves custom roles active where they are carried. -/
def TeamStep.KeepsCustomRoles (runtime : AuthRuntime) (store : Store) (step : TeamStep) : Prop :=
  step.CommitsMeet runtime (fun write store => write.succeeds runtime store = true →
    write.keepsCustomRoles runtime store = true) store

instance TeamStep.decidableKeepsCustomRoles (store : Store) (step : TeamStep) :
    Decidable (step.KeepsCustomRoles runtime store) :=
  Request.decidableCommitsMeet _ _ _ _

theorem TeamStep.carriesActive_next {step : TeamStep} (met : step.KeepsCustomRoles runtime store)
    (carries : ∀ row ∈ store.memberships.rows, store.carriesActive row = true) :
    ∀ row ∈ (step.next runtime store).memberships.rows,
      (step.next runtime store).carriesActive row = true := by
  have keepsEach (write : TeamWrite) (current after : Store)
      (result : Except AuthException String) (_ : write.isOf step.operation = true)
      (keeps : write.succeeds runtime current = true →
        write.keepsCustomRoles runtime current = true)
      (holds : ∀ row ∈ current.memberships.rows, current.carriesActive row = true)
      (happens : write.effect runtime current = some (after, result)) :
      ∀ row ∈ after.memberships.rows, after.carriesActive row = true := by
    rcases TeamWrite.of_effect happens with rfl | ⟨value, done⟩
    · exact holds
    · exact write.carriesActive_run (keeps (by rw [TeamWrite.succeeds, done]; rfl)) done holds
  exact (transacts_program _).leaves keepsEach met carries

end Writes

/-- In a run in which active memberships only come to carry active custom roles, and those
that they carry stay active, members have no more permissions than their custom role. -/
theorem isConfined_of_keepsCustomRoles {runtime : AuthRuntime} {store : Store}
    (carries : ∀ row ∈ store.memberships.rows, store.carriesActive row = true)
    {steps : List TeamStep} (met : StepsMeet (TeamStep.next runtime)
      (fun store step => step.KeepsCustomRoles runtime store) store steps) :
    ∀ reached ∈ states (TeamStep.next runtime) store steps, reached.IsConfined := by
  intro reached isReached
  have carriedActive := forall_mem_states_of_stepsMeet
    (fun _ _ => TeamStep.carriesActive_next) carries met reached isReached
  exact Store.isConfined_of_carriesActive carriedActive

namespace Sample

def createsReader : TeamStep :=
  whole (.createCustomRole { call with uuid _ := "reader" } "acme"
    ⟨none, "Reader", "STATION_MANAGER", none, ["stations.read"]⟩)

def assignsReader : TeamStep :=
  whole (.assignMembership "acme" ⟨"ben", none, some "reader", none⟩ "ada")

def archivesReader : TeamStep :=
  whole (.updateCustomRole "acme" "reader" ⟨none, some "ARCHIVED", none⟩)

def withReader : Store :=
  assignsReader.next authRuntime (createsReader.next authRuntime team)

def permissionsOf (store : Store) : List String :=
  ((buildAuthUserContext (store.accessReads "ben") (userOf "ben" .manager)
    ⟨none, none, none, none, none⟩).accessProfile (userOf "ben" .manager)).permissions

end Sample

open Sample

/-- The member of the organization may read its stations, and no more. -/
theorem isConfined_withReader :
    permissionsOf withReader = ["stations.read"] ∧ withReader.IsConfined := by
  constructor
  · decide +kernel
  · have carries : ∀ row ∈ team.memberships.rows, team.carriesActive row = true := by
      decide +kernel
    have created : createsReader.KeepsCustomRoles authRuntime team := by
      decide +kernel
    have assigned : assignsReader.KeepsCustomRoles authRuntime
        (createsReader.next authRuntime team) := by
      decide +kernel
    have met : StepsMeet (TeamStep.next authRuntime)
        (fun store step => step.KeepsCustomRoles authRuntime store)
        team [createsReader, assignsReader] :=
      ⟨created, assigned, trivial⟩
    exact isConfined_of_keepsCustomRoles carries met _
      (List.mem_cons_of_mem _ (List.mem_cons_of_mem _ List.mem_cons_self))

/-- With the custom role in the archive, the member may do what a station manager may. -/
theorem archivesReader_not_isConfined :
    (∀ row ∈ withReader.memberships.rows, withReader.carriesActive row = true) ∧
      "stations.write" ∈ permissionsOf
        (archivesReader.next authRuntime withReader) ∧
      ¬ (archivesReader.next authRuntime withReader).IsConfined := by
  have mayWrite : "stations.write" ∈ permissionsOf
      (archivesReader.next authRuntime withReader) := by
    decide +kernel
  refine ⟨by decide +kernel, mayWrite, ?_⟩
  intro confined
  have isMembership : (membershipIn
      ((archivesReader.next authRuntime withReader).getActiveMemberships
        "ben") (some "acme")).bind (fun membership =>
          Store.carriedRole membership.toOrganizationMembership) = some "reader" := by
    decide +kernel
  obtain ⟨membership, isActive, isRole⟩ := Option.bind_eq_some_iff.mp isMembership
  have isPermission := confined (userOf "ben" .manager) ⟨none, none, none, none, none⟩
    membership "reader" (by decide +kernel) isActive isRole "stations.write" mayWrite
  have noPermission : "stations.write" ∉
      (archivesReader.next authRuntime withReader).customRolePermissions
        "reader" := by
    decide +kernel
  exact noPermission isPermission

end Csms.Auth
