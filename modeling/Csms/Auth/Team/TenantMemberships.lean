import Csms.Auth.Team.Memberships

/-!
# Memberships in the databases of the tenants

An assignment writes a membership on the control plane and then in the database of the
tenant.  The other operations write on the control plane alone.
-/

namespace Csms.Auth

open Database Service Transition

/-- The same role, custom role and status. -/
def OrganizationMembership.agreesWith (row : OrganizationMembership) (tenant : TenantMembership) :
    Bool :=
  row.canonicalRoleKey = some tenant.roleKey && row.customRoleId = tenant.customRoleId &&
    row.status = tenant.status

/-- The update sets nothing else than the row says. -/
def Store.MembershipUpdate.agreesWith (update : MembershipUpdate) (tenant : TenantMembership) :
    Bool :=
  (update.canonicalRoleKey.all fun roleKey => roleKey = some tenant.roleKey) &&
    (update.customRoleId.all fun customRoleId => customRoleId = tenant.customRoleId) &&
    update.status.all fun status => status = tenant.status

variable {update : MembershipUpdate} {row : OrganizationMembership} {tenant : TenantMembership}

namespace Store

theorem agreesWith_setsAll (row : OrganizationMembership) (tenant : TenantMembership) :
    (MembershipUpdate.setsAll row).agreesWith tenant = row.agreesWith tenant :=
  rfl

theorem agreesWith_apply (agrees : row.agreesWith tenant = true)
    (allowed : update.agreesWith tenant = true) : (update.apply row).agreesWith tenant = true := by
  simp only [OrganizationMembership.agreesWith, MembershipUpdate.agreesWith, Bool.and_eq_true,
    decide_eq_true_eq, Option.all_eq_true] at agrees allowed ⊢
  obtain ⟨⟨sameRole, sameCustomRole⟩, sameStatus⟩ := agrees
  obtain ⟨⟨roleAllowed, customRoleAllowed⟩, statusAllowed⟩ := allowed
  refine ⟨⟨?_, ?_⟩, ?_⟩
  · rcases isSet : update.canonicalRoleKey with _ | roleKey
    · simpa [MembershipUpdate.apply, isSet] using sameRole
    · simpa [MembershipUpdate.apply, isSet] using roleAllowed roleKey isSet
  · rcases isSet : update.customRoleId with _ | customRoleId
    · simpa [MembershipUpdate.apply, isSet] using sameCustomRole
    · simpa [MembershipUpdate.apply, isSet] using customRoleAllowed customRoleId isSet
  · rcases isSet : update.status with _ | status
    · simpa [MembershipUpdate.apply, isSet] using sameStatus
    · simpa [MembershipUpdate.apply, isSet] using statusAllowed status isSet

/-- Whenever the tenant has a membership, the control plane has the same. -/
def IsMirrored (store : Store) : Prop :=
  ∀ userId organizationId tenant, store.tenantMembership? userId organizationId = some tenant →
    ∃ row, store.membership? userId organizationId = some row ∧ row.agreesWith tenant = true

theorem IsMirrored.of_sets {store after : Store} {rows : List OrganizationMembership}
    (mirrored : store.IsMirrored) (sets : store.SetsMemberships after rows)
    (agree : ∀ row ∈ rows, ∀ tenant,
      store.tenantMembership? row.userId row.organizationId = some tenant →
        row.agreesWith tenant = true) : after.IsMirrored := by
  intro userId organizationId tenant isTenant
  rw [tenantMembership?, sets.tenantMemberships] at isTenant
  rcases sets.memberships userId organizationId with unchanged | ⟨row, isRow, isKey, isAfter⟩
  · rw [unchanged]
    exact mirrored userId organizationId tenant isTenant
  · obtain ⟨rfl, rfl⟩ := Prod.mk.inj isKey
    exact ⟨row, isAfter, agree row isRow tenant isTenant⟩

theorem agreesWith_upserted {store : Store} (mirrored : store.IsMirrored)
    (isTenant : store.tenantMembership? row.userId row.organizationId = some tenant)
    (allowed : update.agreesWith tenant = true) :
    (store.upserted row update).agreesWith tenant = true := by
  obtain ⟨old, isOld, agrees⟩ := mirrored row.userId row.organizationId tenant isTenant
  rw [upserted, isOld]
  exact agreesWith_apply agrees allowed

/-- The row of the tenant, if there is one, says what the update sets. -/
def allowsUpdate (store : Store) (userId organizationId : String) (update : MembershipUpdate) :
    Bool :=
  (store.tenantMembership? userId organizationId).all update.agreesWith

end Store

/-- A write on the control plane sets what the database of the tenant has, if it has the
membership.  An assignment does so where it breaks off after it. -/
def TeamWrite.keepsMirrored (runtime : AuthRuntime) (isLast : Bool) (store : Store) :
    TeamWrite → Bool
  | inviteMember call invite =>
    let userId := invite.existingUserId.getD (call.uuid 0)
    store.allowsUpdate userId invite.organizationId
        (.setsAll (Store.invitedMembership invite userId)) &&
      (!isEvzoneRole invite.role ||
        store.allowsUpdate userId (store.evzoneOrganizationId (call.uuid 1))
          (Store.invitedToEvzone invite userId).update)
  | activateInvitation _ activation =>
    (store.invitations.find? (runtime.hashToken activation.inviteToken)).all fun invitation =>
      store.allowsUpdate activation.userId invitation.organizationId
        (Store.activationUpdate (Store.activatedMembership invitation activation.userId))
  | updateTeamMember call update =>
    store.allowsUpdate update.targetUserId update.organizationId
        (Store.memberMembershipUpdate update.dto update.role) &&
      update.role.all fun role =>
        !isEvzoneRole role ||
          store.allowsUpdate update.targetUserId (store.evzoneOrganizationId (call.uuid 0))
            (update.evzoneAssignment role
              (store.membership? update.targetUserId update.organizationId)).update
  | assignOrganizationMembership row =>
    !isLast || store.allowsUpdate row.userId row.organizationId (Store.assignmentUpdate row)
  | _ => true

section Writes

variable {runtime : AuthRuntime} {store after : Store}

namespace Store

theorem agreesWith_of_allowsUpdate {userId organizationId : String}
    (allowed : store.allowsUpdate userId organizationId update = true)
    (isTenant : store.tenantMembership? userId organizationId = some tenant) :
    update.agreesWith tenant = true := by
  rw [allowsUpdate, isTenant] at allowed
  exact allowed

theorem agreesWith_setInEvzone (mirrored : store.IsMirrored) {params : EvzoneAssignment}
    {newId : String} (allowed : (!isEvzoneRole params.role ||
      store.allowsUpdate params.userId (store.evzoneOrganizationId newId) params.update) = true) :
    ∀ row ∈ store.setInEvzone params newId, ∀ tenant,
      store.tenantMembership? row.userId row.organizationId = some tenant →
        row.agreesWith tenant = true := by
  intro row isRow tenant isTenant
  rw [setInEvzone] at isRow
  split at isRow
  · rename_i isEvzone
    obtain rfl := List.mem_singleton.mp isRow
    have sameKey := key_upserted store (params.membership (store.evzoneOrganizationId newId))
      params.update
    have isOf : store.tenantMembership? params.userId (store.evzoneOrganizationId newId) =
        some tenant := by
      obtain ⟨sameUser, sameOrganization⟩ := Prod.mk.inj sameKey
      rw [sameUser, sameOrganization] at isTenant
      exact isTenant
    rw [isEvzone, Bool.not_true, Bool.false_or] at allowed
    exact agreesWith_upserted mirrored isOf (agreesWith_of_allowsUpdate allowed isOf)
  · exact absurd isRow List.not_mem_nil

theorem agreesWith_upserted_of_allows (mirrored : store.IsMirrored)
    (allowed : store.allowsUpdate row.userId row.organizationId update = true)
    (isTenant : store.tenantMembership? (store.upserted row update).userId (store.upserted row update).organizationId = some tenant) :
    (store.upserted row update).agreesWith tenant = true := by
  obtain ⟨sameUser, sameOrganization⟩ := Prod.mk.inj (key_upserted store row update)
  rw [sameUser, sameOrganization] at isTenant
  exact agreesWith_upserted mirrored isTenant (agreesWith_of_allowsUpdate allowed isTenant)

end Store

theorem TeamWrite.agree_setMemberships (mirrored : store.IsMirrored) {write : TeamWrite}
    (keeps : write.keepsMirrored runtime true store = true) :
    ∀ row ∈ write.setMemberships runtime store, ∀ tenant,
      store.tenantMembership? row.userId row.organizationId = some tenant →
        row.agreesWith tenant = true := by
  intro row isRow tenant isTenant
  cases write with
  | inviteMember call invite =>
    rw [keepsMirrored, Bool.and_eq_true] at keeps
    have ofInvited {tenant : TenantMembership}
        (isTenant : store.tenantMembership? (invite.existingUserId.getD (call.uuid 0))
          invite.organizationId = some tenant) :
        (Store.invitedMembership invite (invite.existingUserId.getD (call.uuid 0))).agreesWith
          tenant = true := by
      have allowed := Store.agreesWith_of_allowsUpdate keeps.1 isTenant
      rw [Store.agreesWith_setsAll] at allowed
      exact allowed
    rcases List.mem_cons.mp isRow with rfl | inEvzone
    · exact ofInvited isTenant
    · -- the second upsert finds the membership that the first one has set
      have invited := mirrored.of_sets (Store.setsMemberships_setMembership store
        (Store.invitedMembership invite (invite.existingUserId.getD (call.uuid 0)))) (by
          intro other isOther tenant isTenant
          obtain rfl := List.mem_singleton.mp isOther
          exact ofInvited isTenant)
      exact Store.agreesWith_setInEvzone invited keeps.2 row inEvzone tenant isTenant
  | activateInvitation call activation =>
    rw [setMemberships, List.mem_map] at isRow
    obtain ⟨invitation, isInvitation, rfl⟩ := isRow
    rw [Option.mem_toList] at isInvitation
    rw [keepsMirrored, Option.mem_def.mp isInvitation, Option.all_some] at keeps
    exact Store.agreesWith_upserted_of_allows mirrored keeps isTenant
  | updateTeamMember call update =>
    rw [keepsMirrored, Bool.and_eq_true] at keeps
    have ofUpdated : ∀ other ∈
        (store.membership? update.targetUserId update.organizationId).toList.map
          (Store.memberMembershipUpdate update.dto update.role).apply, ∀ tenant,
        store.tenantMembership? other.userId other.organizationId = some tenant →
          other.agreesWith tenant = true := by
      intro other isOther tenant isTenant
      obtain ⟨old, isOld, rfl⟩ := List.mem_map.mp isOther
      rw [Option.mem_toList] at isOld
      obtain ⟨isUser, isOrganization⟩ :=
        Prod.mk.inj (Store.membership?_eq_some_iff.mp isOld).2
      have isOf : store.tenantMembership? update.targetUserId update.organizationId =
          some tenant := by
        rw [← isUser, ← isOrganization]
        exact isTenant
      obtain ⟨row, isRow, agrees⟩ := mirrored _ _ tenant isOf
      rw [Option.mem_def.mp isOld] at isRow
      cases isRow
      exact Store.agreesWith_apply agrees (Store.agreesWith_of_allowsUpdate keeps.1 isOf)
    rcases List.mem_append.mp isRow with updated | inEvzone
    · exact ofUpdated row updated tenant isTenant
    · rcases isRole : update.role with _ | role
      · rw [isRole] at inEvzone
        exact absurd inEvzone List.not_mem_nil
      · rw [isRole] at inEvzone
        have allowed := keeps.2
        rw [isRole, Option.all_some] at allowed
        have withMembership :=
          mirrored.of_sets (Store.setsMemberships_updateMember update) ofUpdated
        exact Store.agreesWith_setInEvzone withMembership allowed row inEvzone tenant isTenant
  | assignOrganizationMembership assigned =>
    obtain rfl := List.mem_singleton.mp isRow
    exact Store.agreesWith_upserted_of_allows mirrored keeps isTenant
  | _ => exact absurd isRow List.not_mem_nil

namespace Store

theorem tenantMembership?_upsertTenantMembership (store : Store) (row : TenantMembership)
    (userId organizationId : String) :
    (store.upsertTenantMembership row).tenantMembership? userId organizationId =
      if (userId, organizationId) = row.key then
        some (((store.tenantMembership? userId organizationId).map fun old =>
          { old with
            roleKey := row.roleKey
            customRoleId := row.customRoleId
            status := row.status }).getD row)
      else store.tenantMembership? userId organizationId :=
  Table.find?_upsert store.tenantMemberships row
    (fun old =>
      { old with
        roleKey := row.roleKey
        customRoleId := row.customRoleId
        status := row.status }) (fun _ => rfl) _

theorem agreesWith_upserted_assignmentUpdate (store : Store) (row : OrganizationMembership)
    (tenant : TenantMembership) :
    (store.upserted row (assignmentUpdate row)).agreesWith tenant = row.agreesWith tenant := by
  rw [upserted]
  rcases store.membership? row.userId row.organizationId with _ | old <;> rfl

theorem isMirrored_assigned (mirrored : store.IsMirrored) {assigned : TenantMembership}
    (sameKey : row.key = assigned.key) (agrees : row.agreesWith assigned = true) :
    ((store.assignOrganizationMembership row).upsertTenantMembership assigned).IsMirrored := by
  intro userId organizationId tenant isTenant
  rw [tenantMembership?_upsertTenantMembership] at isTenant
  change ∃ found, (store.upsertMembership row (assignmentUpdate row)).membership? userId
    organizationId = some found ∧ _
  rw [membership?_upsertMembership, sameKey]
  by_cases isKey : (userId, organizationId) = assigned.key
  · rw [if_pos isKey] at isTenant ⊢
    refine ⟨_, rfl, ?_⟩
    rw [agreesWith_upserted_assignmentUpdate, ← agrees]
    obtain rfl := Option.some.inj isTenant
    rcases (store.assignOrganizationMembership row).tenantMembership? userId organizationId with
      _ | old <;> rfl
  · rw [if_neg isKey] at isTenant ⊢
    exact mirrored userId organizationId tenant isTenant

end Store

/-- An assignment does nothing, or writes a membership on the control plane and, unless it
breaks off after it, the same one in the database of the tenant. -/
theorem leaves_assignMembership {condition : TeamWrite → Store → Prop}
    {organizationId : String} {dto : AssignTenantMembershipDto} {actorId : String}
    {limit : Option Nat}
    (met : (assignMembership organizationId dto actorId).CommitsMeet (TeamWrite.effect runtime)
      condition limit store) :
    (assignMembership organizationId dto actorId).leaves (TeamWrite.effect runtime) limit store =
        store ∨ ∃ (row : OrganizationMembership) (assigned : TenantMembership),
        row.key = assigned.key ∧ row.agreesWith assigned = true ∧
        condition (.assignOrganizationMembership row) store ∧ ((limit = some 1 ∧
            (assignMembership organizationId dto actorId).leaves (TeamWrite.effect runtime) limit
              store = store.assignOrganizationMembership row) ∨
          (assignMembership organizationId dto actorId).leaves (TeamWrite.effect runtime) limit
              store =
            (store.assignOrganizationMembership row).upsertTenantMembership assigned) := by
  rw [assignMembership] at met ⊢
  simp only [commitsMeet_read_bind, commitsMeet_ofExcept_bind] at met
  simp only [leaves_read_bind, leaves_ofExcept_bind,
    TeamWrite.leaves_commit_bind, leaves_pure]
  rcases isRole : store.customRoleOf organizationId dto.customRoleId with _ | customRole
  · exact Or.inl rfl
  · simp only []
    rcases isKey : (customRole.elim (parseCanonicalRoleKey dto.roleKey) fun customRole =>
      Except.ok customRole.baseRoleKey) with _ | roleKey
    · exact Or.inl rfl
    · simp only []
      rcases isStorage : ((resolveStorageRole roleKey).elim
        (Except.error (AuthException.badRequest ("Unsupported role key \"" ++ roleKey.text ++ "\"")))
          Except.ok) with _ | storageRole
      · exact Or.inl rfl
      · rcases isStatus : parseMembershipStatus dto.status with _ | status
        · exact Or.inl rfl
        · have metHere := met customRole isRole roleKey isKey storageRole isStorage status isStatus
          rcases isNext : nextLimit limit with _ | remaining
          · exact Or.inl rfl
          · rw [TeamWrite.commitsMeet_commit_bind isNext rfl] at metHere
            refine Or.inr ⟨_, ⟨dto.userId, organizationId, roleKey,
              Js.orText (customRole.map TenantCustomRole.id) none, status⟩, rfl, ?_, metHere.1, ?_⟩
            · simp [OrganizationMembership.agreesWith]
            · rcases isLast : nextLimit remaining with _ | _
              · refine Or.inl ⟨?_, by simp only [TeamWrite.run, isLast]⟩
                rcases limit with _ | _ | _ | limit
                · cases isNext
                  contradiction
                · contradiction
                · rfl
                · cases isNext
                  contradiction
              · exact Or.inr (by simp only [TeamWrite.run, isLast])

/-- Each write of the step that succeeds says what the databases of the tenants do. -/
def TeamStep.KeepsMirrored (runtime : AuthRuntime) (store : Store) (step : TeamStep) : Prop :=
  step.CommitsMeet runtime (fun write store => write.succeeds runtime store = true →
    write.keepsMirrored runtime (step.breaksOffAfter = some 1) store = true) store

theorem isMirrored_run {write : TeamWrite} {value : String} (mirrored : store.IsMirrored)
    (keeps : write.keepsMirrored runtime true store = true)
    (isOther : ∀ row, write ≠ .upsertTenantMembership row)
    (done : write.run runtime store = .ok (after, value)) : after.IsMirrored := by
  cases write with
  | createCustomRole row =>
    obtain ⟨created, isCreated, isAfter⟩ := exists_of_map_eq_ok done
    cases isAfter
    obtain ⟨_, _, later⟩ := exists_of_bind_eq_ok isCreated
    obtain ⟨customRoles, _, isCreated⟩ := exists_of_bind_eq_ok later
    cases isCreated
    exact mirrored
  | updateCustomRole customRoleId update =>
    obtain ⟨updated, isUpdated, isAfter⟩ := exists_of_map_eq_ok done
    cases isAfter
    obtain ⟨_, _, isUpdated⟩ := exists_of_bind_eq_ok isUpdated
    cases isUpdated
    exact mirrored
  | upsertTenantMembership row => exact absurd rfl (isOther row)
  | _ =>
    exact mirrored.of_sets (TeamWrite.setsMemberships_run rfl done)
      (TeamWrite.agree_setMemberships mirrored keeps)

theorem TeamStep.isMirrored_next {step : TeamStep} (met : step.KeepsMirrored runtime store)
    (mirrored : store.IsMirrored) : (step.next runtime store).IsMirrored := by
  rcases step with ⟨operation, limit⟩
  have keepsEach (isOther : ∀ write : TeamWrite, write.isOf operation = true →
      (∀ row, write ≠ .upsertTenantMembership row) ∧
        ∀ row, write ≠ .assignOrganizationMembership row)
      (write : TeamWrite) (current after : Store) (result : Except AuthException String)
      (isOf : write.isOf operation = true)
      (keeps : write.succeeds runtime current = true →
        write.keepsMirrored runtime (limit = some 1) current = true)
      (holds : current.IsMirrored)
      (happens : write.effect runtime current = some (after, result)) : after.IsMirrored := by
    rcases TeamWrite.of_effect happens with rfl | ⟨value, done⟩
    · exact holds
    · have kept := keeps (by rw [TeamWrite.succeeds, done]; rfl)
      refine isMirrored_run holds ?_ (isOther write isOf).1 done
      cases write with
      | assignOrganizationMembership row => exact absurd rfl ((isOther _ isOf).2 row)
      | _ => exact kept
  cases operation with
  | assignMembership organizationId dto actorId =>
    rcases leaves_assignMembership met with unchanged |
      ⟨row, assigned, sameKey, agrees, keeps, ⟨isLast, left⟩ | left⟩
    · rw [TeamStep.next, TeamOperation.program, unchanged]
      exact mirrored
    · rw [TeamStep.next, TeamOperation.program, left]
      have kept := keeps rfl
      rw [decide_eq_true isLast] at kept
      exact mirrored.of_sets (Store.SetsMemberships.upsert _ _ _)
        (TeamWrite.agree_setMemberships mirrored kept)
    · rw [TeamStep.next, TeamOperation.program, left]
      exact Store.isMirrored_assigned mirrored sameKey agrees
  | _ =>
    refine (transacts_program _).leaves (keepsEach ?_) met mirrored
    intro write isOf
    constructor <;> (rintro row rfl; contradiction)

end Writes

/-- In a run in which the control plane is only told what the databases of the tenants have,
and no assignment breaks off between its writes, the two agree. -/
theorem isMirrored_of_keepsMirrored {runtime : AuthRuntime} {store : Store}
    (mirrored : store.IsMirrored) {steps : List TeamStep} (met : StepsMeet (TeamStep.next runtime)
      (fun store step => step.KeepsMirrored runtime store) store steps) :
    ∀ reached ∈ states (TeamStep.next runtime) store steps, reached.IsMirrored :=
  forall_mem_states_of_stepsMeet (fun _ _ => TeamStep.isMirrored_next) mirrored met

namespace Sample

def assigns (status : String) (breaksOffAfter : Option Nat) : TeamStep :=
  ⟨.assignMembership "acme" ⟨"ben", some "STATION_MANAGER", none, some status⟩ "ada",
    breaksOffAfter⟩

def suspends : TeamStep :=
  whole (.updateTeamMember call "ben" ⟨none, none, none, none, none, none, some "Suspended"⟩
    "ada" none)

def standing (store : Store) : Option MembershipStatus × Option MembershipStatus :=
  ((store.membership? "ben" "acme").map OrganizationMembership.status,
    (store.tenantMembership? "ben" "acme").map TenantMembership.status)

theorem isMirrored_team : team.IsMirrored := by
  intro userId organizationId tenant isTenant
  exact nomatch isTenant

theorem not_isMirrored_of_standing {store : Store} {onControlPlane atTenant : MembershipStatus}
    (isStanding : standing store = (some onControlPlane, some atTenant))
    (differ : onControlPlane ≠ atTenant) : ¬ store.IsMirrored := by
  obtain ⟨isStatus, isTenantStatus⟩ := Prod.mk.inj isStanding
  obtain ⟨row, isRow, rfl⟩ := Option.map_eq_some_iff.mp isStatus
  obtain ⟨tenant, isTenant, rfl⟩ := Option.map_eq_some_iff.mp isTenantStatus
  intro mirrored
  obtain ⟨found, isFound, agrees⟩ := mirrored _ _ tenant isTenant
  rw [isRow] at isFound
  cases isFound
  simp only [OrganizationMembership.agreesWith, Bool.and_eq_true, decide_eq_true_eq] at agrees
  exact differ agrees.2

end Sample

open Sample

theorem isMirrored_assigns :
    standing ((assigns "SUSPENDED" none).next authRuntime team) =
        (some .suspended, some .suspended) ∧
      ((assigns "SUSPENDED" none).next authRuntime team).IsMirrored := by
  constructor
  · decide +kernel
  · have met : StepsMeet (TeamStep.next authRuntime)
        (fun store step => step.KeepsMirrored authRuntime store)
        team [assigns "SUSPENDED" none] := by
      refine ⟨(transacts_program _).commitsMeet ?_ _ _, trivial⟩
      intro write store isOf _
      cases write with
      | assignOrganizationMembership row => rfl
      | upsertTenantMembership row => rfl
      | _ => contradiction
    exact isMirrored_of_keepsMirrored isMirrored_team met _
      (List.mem_cons_of_mem _ List.mem_cons_self)

/-- A member is suspended on the control plane alone; so is one whose assignment breaks off. -/
theorem suspends_not_isMirrored : team.IsMirrored ∧
      ¬ (suspends.next authRuntime
        ((assigns "ACTIVE" none).next authRuntime team)).IsMirrored ∧
      ¬ ((assigns "SUSPENDED" (some 1)).next authRuntime
        ((assigns "ACTIVE" none).next authRuntime team)).IsMirrored := by
  refine ⟨isMirrored_team, ?_, ?_⟩
  · have isStanding : standing (suspends.next authRuntime
        ((assigns "ACTIVE" none).next authRuntime team)) =
          (some .suspended, some .active) := by
      decide +kernel
    exact not_isMirrored_of_standing isStanding (by decide)
  · have isStanding : standing ((assigns "SUSPENDED" (some 1)).next
        authRuntime ((assigns "ACTIVE" none).next authRuntime
          team)) = (some .suspended, some .active) := by
      decide +kernel
    exact not_isMirrored_of_standing isStanding (by decide)

end Csms.Auth
