import Csms.Branding.Service
import Csms.Database.Sequential
import Csms.Table.MarkedOnce

/-!
# Revisions that stay

A revision that is published or rolled back keeps its configuration, the configuration that was
published last is active, and a tenant has one draft at most, exactly as long as each transaction
finds the revisions it writes to still drafts.
-/

namespace Csms.Branding

open Database Js

variable {runtime : Runtime} {store after : Store}

/-! ## What a transaction does -/

/-- The revisions and the organizations after a transaction. -/
inductive Does (runtime : Runtime) (store after : Store) : BrandingWrite → Prop
  | created (call : Call) (tenantId : String) (config : WhiteLabelConfigV1)
      (latestVersion : Option Int) :
      call.newId ∉ store.revisions.rows.map TenantBrandingRevision.id →
      after.revisions.rows =
        store.revisions.rows ++ [call.revision tenantId config latestVersion .draft none none] →
      after.organizations = store.organizations →
      Does runtime store after (.saveDraft call tenantId config [] latestVersion)
  | saved (call : Call) (tenantId : String) (config : WhiteLabelConfigV1)
      (activeDraft : TenantBrandingRevision) (staleDrafts : List TenantBrandingRevision)
      (latestVersion : Option Int) :
      after.revisions.rows =
        (store.revisions.rows.filter fun row =>
          !decide (row.id ∈ staleDrafts.map TenantBrandingRevision.id)).map (fun row =>
            if row.id = activeDraft.id then row.saved call config else row) →
      after.organizations = store.organizations →
      Does runtime store after
        (.saveDraft call tenantId config (activeDraft :: staleDrafts) latestVersion)
  | published (call : Call) (tenantId : String) (organization : TenantBrandingOrganizationRecord)
      (draft : TenantBrandingRevision) (config : WhiteLabelConfigV1) :
      normalizeRevision runtime call organization draft = .ok config →
      (∃ row ∈ store.organizations.rows, row.id = tenantId) →
      (∃ row ∈ store.revisions.rows, row.id = draft.id) →
      after.revisions.rows = store.revisions.rows.map (fun row =>
        if row.id = draft.id then row.publish call config else row) →
      after.organizations.rows = store.organizations.rows.map (fun row =>
        if row.id = tenantId then toOrganizationBrandingUpdate config row else row) →
      Does runtime store after (.publishDraft call tenantId organization draft)
  | rolledBack (call : Call) (tenantId : String) (organization : TenantBrandingOrganizationRecord)
      (targetRevision : TenantBrandingRevision) (version : Int) (latestVersion : Option Int)
      (config : WhiteLabelConfigV1) :
      normalizeRevision runtime call organization targetRevision = .ok config →
      (∃ row ∈ store.organizations.rows, row.id = tenantId) →
      call.newId ∉ store.revisions.rows.map TenantBrandingRevision.id →
      after.revisions.rows = store.revisions.rows ++
        [call.revision tenantId config latestVersion .rolledBack (some call.now) (some version)] →
      after.organizations.rows = store.organizations.rows.map (fun row =>
        if row.id = tenantId then toOrganizationBrandingUpdate config row else row) →
      Does runtime store after
        (.rollback call tenantId organization targetRevision version latestVersion)

variable {row : TenantBrandingRevision} {tenantId : String}

section Statements

theorem updateRevision_eq_some {id : String}
    {change : TenantBrandingRevision → TenantBrandingRevision}
    {keeps : ∀ row, (change row).id = row.id}
    (happens : store.updateRevision id change keeps = some after) :
    (∃ row ∈ store.revisions.rows, row.id = id) ∧ after.organizations = store.organizations ∧
      after.revisions.rows = store.revisions.rows.map fun row =>
        if row.id = id then change row else row := by
  rw [Store.updateRevision, Option.map_eq_some_iff] at happens
  obtain ⟨row, isFound, rfl⟩ := happens
  refine ⟨⟨row, Table.find?_eq_some_iff.mp isFound⟩, rfl, ?_⟩
  simp [Table.rows_updateWhere]

theorem createRevision_eq_some (happens : store.createRevision row = some after) :
    row.id ∉ store.revisions.rows.map TenantBrandingRevision.id ∧
      after.organizations = store.organizations ∧
      after.revisions.rows = store.revisions.rows ++ [row] := by
  rw [Store.createRevision] at happens
  split at happens
  · cases happens
  · obtain ⟨revisions, isGrown, rfl⟩ := Option.map_eq_some_iff.mp happens
    obtain ⟨isFresh, rows⟩ := Table.insert?_eq_some_iff.mp isGrown
    exact ⟨isFresh, rfl, rows⟩

theorem updateOrganization_eq_some {config : WhiteLabelConfigV1}
    (happens : store.updateOrganization tenantId config = some after) :
    (∃ row ∈ store.organizations.rows, row.id = tenantId) ∧ after.revisions = store.revisions ∧
      after.organizations.rows = store.organizations.rows.map fun row =>
        if row.id = tenantId then toOrganizationBrandingUpdate config row else row := by
  rw [Store.updateOrganization, Option.map_eq_some_iff] at happens
  obtain ⟨row, isFound, rfl⟩ := happens
  refine ⟨⟨row, Table.find?_eq_some_iff.mp isFound⟩, rfl, ?_⟩
  simp [Table.rows_updateWhere]

end Statements

variable {write : BrandingWrite}

theorem does_of_effect (happens : write.effect runtime store = some (after, ())) :
    Does runtime store after write := by
  cases write with
  | saveDraft call tenantId config existingDrafts latestVersion =>
    cases existingDrafts with
    | nil =>
      obtain ⟨_, isCreated, same⟩ := Option.map_eq_some_iff.mp happens
      obtain rfl := (Prod.mk.inj same).1
      obtain ⟨isFresh, organizations, rows⟩ := createRevision_eq_some isCreated
      exact .created call tenantId config latestVersion isFresh rows organizations
    | cons activeDraft staleDrafts =>
      obtain ⟨_, isSaved, same⟩ := Option.map_eq_some_iff.mp happens
      obtain rfl := (Prod.mk.inj same).1
      obtain ⟨_, organizations, rows⟩ := updateRevision_eq_some isSaved
      exact .saved call tenantId config activeDraft staleDrafts latestVersion rows organizations
  | publishDraft call tenantId organization draft =>
    rw [BrandingWrite.effect] at happens
    split at happens
    · rename_i config isConfig
      obtain ⟨middle, isUpdated, rest⟩ := Option.bind_eq_some_iff.mp happens
      obtain ⟨last, isPublished, same⟩ := Option.bind_eq_some_iff.mp rest
      obtain rfl := (Prod.mk.inj (Option.some.inj same)).1
      obtain ⟨isTenant, sameRevisions, organizations⟩ := updateOrganization_eq_some isUpdated
      obtain ⟨isRow, sameOrganizations, rows⟩ := updateRevision_eq_some isPublished
      rw [sameRevisions] at isRow rows
      rw [← sameOrganizations] at organizations
      exact .published call tenantId organization draft config isConfig isTenant isRow rows
        organizations
    · cases happens
  | rollback call tenantId organization targetRevision version latestVersion =>
    rw [BrandingWrite.effect] at happens
    split at happens
    · rename_i config isConfig
      obtain ⟨middle, isUpdated, rest⟩ := Option.bind_eq_some_iff.mp happens
      obtain ⟨last, isCreated, same⟩ := Option.bind_eq_some_iff.mp rest
      obtain rfl := (Prod.mk.inj (Option.some.inj same)).1
      obtain ⟨isTenant, sameRevisions, organizations⟩ := updateOrganization_eq_some isUpdated
      obtain ⟨isFresh, sameOrganizations, rows⟩ := createRevision_eq_some isCreated
      rw [sameRevisions] at isFresh rows
      rw [← sameOrganizations] at organizations
      exact .rolledBack call tenantId organization targetRevision version latestVersion config
        isConfig isTenant isFresh rows organizations
    · cases happens

/-! ## The laws -/

/-- A tenant has one draft at most. -/
def OneDraft (store : Store) : Prop :=
  MarkedOnce TenantBrandingRevision.id TenantBrandingRevision.isDraft
    TenantBrandingRevision.organizationId store.revisions.rows

/-- What is published or rolled back stays, with its configuration. -/
def SettledStay (before after : Store) : Prop :=
  ∀ row ∈ before.revisions.rows, row.status ≠ .draft →
    ∃ later ∈ after.revisions.rows,
      later.id = row.id ∧ later.status ≠ .draft ∧ later.config = row.config

/-- The columns of the organization are those of the configuration of the revision. -/
def IsActive (store : Store) (tenantId revisionId : String) : Prop :=
  ∃ organization ∈ store.organizations.rows, ∃ revision ∈ store.revisions.rows,
    ∃ config : WhiteLabelConfigV1,
      organization.id = tenantId ∧ revision.id = revisionId ∧ revision.status ≠ .draft ∧
        revision.config = config.toJson ∧
        organization.whiteLabelConfig = config.toJson ∧
        organization.primaryDomain = config.domain.primaryDomain ∧
        organization.allowedOrigins = config.domain.allowedOrigins

/-- The tenant and the revision that a transaction publishes or rolls back. -/
def BrandingWrite.settles : BrandingWrite → Option (String × String)
  | saveDraft _ _ _ _ _ => none
  | publishDraft _ tenantId _ draft => some (tenantId, draft.id)
  | rollback call tenantId _ _ _ _ => some (tenantId, call.newId)

/-- The revision of each tenant that was published or rolled back last. -/
def lastSettled (initially : String → Option String) (commits : List (Commit Store BrandingWrite)) :
    String → Option String :=
  commits.foldl (fun last commit =>
    match commit.label.settles with
    | some (tenantId, revisionId) => Function.update last tenantId (some revisionId)
    | none => last) initially

def ActiveIsLast (initially : String → Option String) (shared : Shared Store BrandingWrite) :
    Prop :=
  ∀ tenantId revisionId, lastSettled initially shared.commits tenantId = some revisionId →
    IsActive shared.store tenantId revisionId

/-- The transaction finds what it has read still so: there is no draft, or the drafts that it
deletes and the one that it writes are drafts still, if that one has not the configuration already
that it writes. -/
def BrandingWrite.Undisturbed (runtime : Runtime) (write : BrandingWrite) (store : Store) : Prop :=
  match write with
  | saveDraft _ tenantId _ [] _ =>
    ∀ row ∈ store.revisions.rows, row.organizationId = tenantId → row.status ≠ .draft
  | saveDraft _ _ config (activeDraft :: staleDrafts) _ =>
    ∀ row ∈ store.revisions.rows, row.status ≠ .draft →
      row.id ∉ staleDrafts.map TenantBrandingRevision.id ∧
        (row.id = activeDraft.id → row.config = config.toJson)
  | publishDraft call _ organization draft =>
    ∀ row ∈ store.revisions.rows, row.status ≠ .draft → row.id = draft.id →
      ∀ config, normalizeRevision runtime call organization draft = .ok config →
        row.config = config.toJson
  | rollback _ _ _ _ _ _ => True

/-! ## One transaction -/

section Changes

theorem settledStay_of_append (rows : after.revisions.rows = store.revisions.rows ++ [row]) :
    SettledStay store after := by
  intro old member settled
  refine ⟨old, ?_, rfl, settled, rfl⟩
  rw [rows]
  exact List.mem_append_left _ member

variable {isDeleted : TenantBrandingRevision → Bool} {id : String}
  {change : TenantBrandingRevision → TenantBrandingRevision} {config : JsValue}

/-- Rows are deleted, and one gets a configuration. -/
theorem settledStay_iff_of_update (keepsId : ∀ row, (change row).id = row.id)
    (staysSettled : ∀ row, row.status ≠ .draft → (change row).status ≠ .draft)
    (isConfig : ∀ row, (change row).config = config)
    (rows : after.revisions.rows = (store.revisions.rows.filter fun row => !isDeleted row).map
      fun row => if row.id = id then change row else row) :
    SettledStay store after ↔
      ∀ row ∈ store.revisions.rows, row.status ≠ .draft →
        isDeleted row = false ∧ (row.id = id → row.config = config) := by
  have keeps (row : TenantBrandingRevision) :
      (if row.id = id then change row else row).id = row.id := by
    split
    · exact keepsId row
    · rfl
  constructor
  · intro stays row member settled
    obtain ⟨later, isLater, sameId, _, sameConfig⟩ := stays row member settled
    rw [rows] at isLater
    obtain ⟨old, isOld, rfl⟩ := List.mem_map.mp isLater
    obtain ⟨isOld, notDeleted⟩ := List.mem_filter.mp isOld
    obtain rfl := store.revisions.eq_of_key_eq isOld member ((keeps old).symm.trans sameId)
    refine ⟨by simpa using notDeleted, fun isIt => ?_⟩
    rw [if_pos isIt, isConfig] at sameConfig
    exact sameConfig.symm
  · intro finds row member settled
    obtain ⟨notDeleted, same⟩ := finds row member settled
    refine ⟨if row.id = id then change row else row, ?_, keeps row, ?_, ?_⟩
    · rw [rows]
      exact List.mem_map_of_mem (List.mem_filter.mpr ⟨member, by simp [notDeleted]⟩)
    · split
      · exact staysSettled row settled
      · exact settled
    · split
      · rename_i isIt
        exact (isConfig row).trans (same isIt).symm
      · rfl

theorem oneDraft_of_update (oneDraft : OneDraft store) (keepsId : ∀ row, (change row).id = row.id)
    (keepsTenant : ∀ row, (change row).organizationId = row.organizationId)
    (staysSettled : ∀ row, row.status ≠ .draft → (change row).status ≠ .draft)
    (rows : after.revisions.rows = (store.revisions.rows.filter fun row => !isDeleted row).map
      fun row => if row.id = id then change row else row) : OneDraft after := by
  rw [OneDraft, rows]
  refine (MarkedOnce.subset oneDraft List.filter_sublist.subset).map_of_unmarks ?_ ?_ ?_
  · intro row
    split
    · exact keepsId row
    · rfl
  · intro row
    split
    · exact keepsTenant row
    · rfl
  · intro row _ isDraft
    split at isDraft
    · by_contra notDraft
      rw [TenantBrandingRevision.isDraft_eq_true_iff] at isDraft notDraft
      exact staysSettled row notDraft isDraft
    · exact isDraft

end Changes

theorem keepsLaws_iff (oneDraft : OneDraft store)
    (happens : write.effect runtime store = some (after, ())) :
    OneDraft after ∧ SettledStay store after ↔ write.Undisturbed runtime store := by
  cases does_of_effect happens with
  | created call tenantId config latestVersion isFresh rows _ =>
    rw [and_iff_left (settledStay_of_append rows), OneDraft, rows,
      markedOnce_append_singleton_iff oneDraft]
    constructor
    · intro alone row member isTenant isDraft
      have sameId := alone rfl row member
        (TenantBrandingRevision.isDraft_eq_true_iff.mpr isDraft) isTenant
      exact isFresh (List.mem_map.mpr ⟨row, member, sameId⟩)
    · intro noDraft _ row member isDraft isTenant
      exact absurd (TenantBrandingRevision.isDraft_eq_true_iff.mp isDraft)
        (noDraft row member isTenant)
  | saved call tenantId config activeDraft staleDrafts latestVersion rows _ =>
    rw [and_iff_right (oneDraft_of_update oneDraft (TenantBrandingRevision.id_saved call config)
        (fun _ => rfl) (fun _ settled => settled) rows),
      settledStay_iff_of_update (TenantBrandingRevision.id_saved call config)
        (fun _ settled => settled) (TenantBrandingRevision.config_saved call config) rows]
    simp only [decide_eq_false_iff_not, BrandingWrite.Undisturbed]
  | published call tenantId organization draft config isConfig _ _ rows _ =>
    have rows' : after.revisions.rows =
        (store.revisions.rows.filter fun _ => !false).map fun row =>
          if row.id = draft.id then row.publish call config else row := by
      rw [rows, Bool.not_false, List.filter_true]
    rw [and_iff_right (oneDraft_of_update oneDraft (TenantBrandingRevision.id_publish call config)
        (fun _ => rfl) (fun _ _ => nofun) rows'),
      settledStay_iff_of_update (TenantBrandingRevision.id_publish call config)
        (fun _ _ => nofun) (TenantBrandingRevision.config_publish call config) rows']
    simp only [BrandingWrite.Undisturbed, isConfig, Except.ok.injEq, forall_eq', true_and]
  | rolledBack call tenantId organization targetRevision version latestVersion config _ _ _ rows
      _ =>
      rw [and_iff_left (settledStay_of_append rows), OneDraft, rows,
        markedOnce_append_singleton_iff oneDraft]
      exact iff_of_true nofun trivial

/-! ## What is active -/

theorem isActive_of_settledStay {tenantId revisionId : String}
    (active : IsActive store tenantId revisionId) (stays : SettledStay store after)
    (sameOrganization : ∀ row ∈ store.organizations.rows, row.id = tenantId →
      row ∈ after.organizations.rows) : IsActive after tenantId revisionId := by
  obtain ⟨organization, isOrganization, revision, isRevision, config, isTenant, isIt, settled,
    isConfig, columns⟩ := active
  obtain ⟨later, isLater, sameId, laterSettled, sameConfig⟩ := stays revision isRevision settled
  exact ⟨organization, sameOrganization organization isOrganization isTenant, later, isLater,
    config, isTenant, sameId.trans isIt, laterSettled, sameConfig.trans isConfig, columns⟩

/-- The organization gets the configuration of a settled revision, and the others stay. -/
theorem isActive_update {config : WhiteLabelConfigV1} {tenantId revisionId : String}
    {last : String → Option String}
    (active : ∀ tenantId revisionId, last tenantId = some revisionId →
      IsActive store tenantId revisionId) (stays : SettledStay store after)
    (isTenant : ∃ row ∈ store.organizations.rows, row.id = tenantId)
    (organizations : after.organizations.rows = store.organizations.rows.map (fun row =>
      if row.id = tenantId then toOrganizationBrandingUpdate config row else row))
    (settles : ∃ revision ∈ after.revisions.rows, revision.id = revisionId ∧
      revision.status ≠ .draft ∧ revision.config = config.toJson) :
    ∀ otherId otherRevisionId,
      Function.update last tenantId (some revisionId) otherId = some otherRevisionId →
        IsActive after otherId otherRevisionId := by
  intro otherId otherRevisionId isLast
  by_cases same : otherId = tenantId
  · subst same
    obtain rfl : revisionId = otherRevisionId := by simpa using isLast
    obtain ⟨organization, member, isIt⟩ := isTenant
    obtain ⟨revision, isRevision, isRevisionId, settled, isConfig⟩ := settles
    refine ⟨toOrganizationBrandingUpdate config organization, ?_, revision, isRevision, config,
      isIt, isRevisionId, settled, isConfig, rfl, rfl, rfl⟩
    rw [organizations]
    exact List.mem_map.mpr ⟨organization, member, if_pos isIt⟩
  · rw [Function.update_of_ne same] at isLast
    refine isActive_of_settledStay (active otherId otherRevisionId isLast) stays ?_
    intro row member isOther
    rw [organizations]
    exact List.mem_map.mpr ⟨row, member, if_neg fun isIt => same (isOther.symm.trans isIt)⟩

theorem activeIsLast_commit {initially : String → Option String}
    {shared : Shared Store BrandingWrite} {id : Nat} (activeIsLast : ActiveIsLast initially shared)
    (stays : SettledStay shared.store after)
    (happens : write.effect runtime shared.store = some (after, ())) :
    ActiveIsLast initially (shared.commit id write after) := by
  rw [ActiveIsLast, Shared.commits_commit, Shared.store_commit, lastSettled, List.foldl_append]
  have unchanged (sameOrganizations : after.organizations = shared.store.organizations) :
      ∀ tenantId revisionId, lastSettled initially shared.commits tenantId = some revisionId →
        IsActive after tenantId revisionId := by
    intro tenantId revisionId isLast
    refine isActive_of_settledStay (activeIsLast tenantId revisionId isLast) stays ?_
    intro row member _
    rwa [sameOrganizations]
  cases does_of_effect happens with
  | created call tenantId config latestVersion _ _ organizations => exact unchanged organizations
  | saved call tenantId config activeDraft staleDrafts latestVersion _ organizations =>
    exact unchanged organizations
  | published call tenantId organization draft config isConfig isTenant isRow rows organizations =>
    obtain ⟨row, member, isDraft⟩ := isRow
    refine isActive_update activeIsLast stays isTenant organizations
      ⟨row.publish call config, ?_, isDraft, nofun, rfl⟩
    rw [rows]
    exact List.mem_map.mpr ⟨row, member, if_pos isDraft⟩
  | rolledBack call tenantId organization targetRevision version latestVersion config isConfig
      isTenant isFresh rows organizations =>
      refine isActive_update activeIsLast stays isTenant organizations
        ⟨call.revision tenantId config latestVersion .rolledBack (some call.now) (some version), ?_,
          rfl, nofun, rfl⟩
      rw [rows]
      exact List.mem_append_right _ (List.mem_singleton_self _)

/-! ## Runs -/

section Runs

variable {initially : String → Option String} {state : BrandingState}

/-- The laws in a state and at all commits before. -/
structure KeptLaws (initially : String → Option String) (shared : Shared Store BrandingWrite) :
    Prop where
  oneDraft : OneDraft shared.store
  earlier : ∀ commit ∈ shared.commits, OneDraft commit.before
  stay : ∀ commit ∈ shared.commits, SettledStay commit.before commit.after
  active : ActiveIsLast initially shared

theorem activeIsLast_of_reachable
    (active : ∀ tenantId revisionId, initially tenantId = some revisionId →
      IsActive store tenantId revisionId) (reachable : BrandingState.Reachable runtime store state)
    (stay : ∀ commit ∈ state.shared.commits, SettledStay commit.before commit.after) :
    ActiveIsLast initially state.shared := by
  revert stay
  apply reachable.shared_invariant (BrandingWrite.guarded runtime) fun shared =>
    (∀ commit ∈ shared.commits, SettledStay commit.before commit.after) →
      ActiveIsLast initially shared
  · exact fun _ => active
  · intro shared id write after result before happens stay
    rw [BrandingWrite.run_body] at happens
    simp only [Shared.commits_commit, List.forall_mem_append, List.forall_mem_singleton] at stay
    exact activeIsLast_commit (before stay.1) stay.2 happens

theorem keptLaws_iff_undisturbed (oneDraft : OneDraft store)
    (active : ∀ tenantId revisionId, initially tenantId = some revisionId →
      IsActive store tenantId revisionId)
    (reachable : BrandingState.Reachable runtime store state) : KeptLaws initially state.shared ↔
      ∀ commit ∈ state.shared.commits, commit.label.Undisturbed runtime commit.before := by
  have exact := reachable.kept_iff (BrandingWrite.guarded runtime) OneDraft SettledStay
    (fun _ _ => True) (BrandingWrite.Undisturbed runtime)
    (fun write store after result isOne _ happens =>
      keepsLaws_iff isOne ((BrandingWrite.run_body runtime write store).symm.trans happens))
    oneDraft fun _ _ => trivial
  rw [← exact]
  constructor
  · intro laws
    exact ⟨laws.oneDraft, fun commit member =>
      ⟨laws.earlier commit member, laws.stay commit member⟩⟩
  · rintro ⟨isOne, commits⟩
    have stay := fun commit member => (commits commit member).2
    exact ⟨isOne, fun commit member => (commits commit member).1, stay,
      activeIsLast_of_reachable active reachable stay⟩

end Runs

/-! ## A request that is alone -/

section Alone

variable {α : Type} {condition : BrandingWrite → Store → Prop} {limit : Option Nat}

theorem Store.mem_draftsOf_iff : row ∈ store.draftsOf tenantId ↔
      row ∈ store.revisions.rows ∧ row.organizationId = tenantId ∧ row.status = .draft := by
  rw [draftsOf, (List.perm_insertionSort _ _).mem_iff, List.mem_filter, isDraftOf,
    Bool.and_eq_true, decide_eq_true_eq, TenantBrandingRevision.isDraft_eq_true_iff]

theorem Store.mem_of_latestDraft {draft : TenantBrandingRevision}
    (found : store.latestDraft tenantId = some draft) :
    draft ∈ store.revisions.rows ∧ draft.status = .draft := by
  obtain ⟨member, isDraft⟩ := List.mem_filter.mp (mem_of_newestOf found)
  rw [isDraftOf, Bool.and_eq_true] at isDraft
  exact ⟨member, TenantBrandingRevision.isDraft_eq_true_iff.mp isDraft.2⟩

theorem commitsMeet_requireOrganization_bind {tenantId : Option String}
    {next : TenantBrandingOrganizationRecord → BrandingRequest α}
    (onward : ∀ organization, (next organization).CommitsMeet (BrandingWrite.effect runtime)
      condition limit store) :
    (requireOrganization tenantId >>= next).CommitsMeet (BrandingWrite.effect runtime) condition
      limit store := by
  rw [requireOrganization, bind_assoc, commitsMeet_read_bind]
  split
  · exact onward _
  · trivial

theorem transacts_writingTenant (call : BrandingCall) :
    (writingTenant call).Transacts fun _ : BrandingWrite => False := by
  have requires (tenantId : Option String) :
      (requireOrganization tenantId).Transacts fun _ : BrandingWrite => False := by
    refine (transacts_read _ _).bind fun found => ?_
    split
    · exact transacts_pure _
    · exact .throw _
  unfold writingTenant
  split
  · refine (transacts_ofExcept _).bind fun tenantId => Request.Transacts.bind ?_ fun _ =>
      transacts_pure _
    refine (transacts_ofExcept _).bind fun actorId => (transacts_read _ _).bind
      fun user => (transacts_read _ _).bind fun membership => ?_
    split
    · exact .throw _
    · exact .ite (.throw _) (transacts_pure _)
  · refine Request.Transacts.bind ?_ fun _ => (requires _).bind fun _ => transacts_pure _
    exact (transacts_ofExcept _).bind fun actorId => (transacts_read _ _).bind
      fun user => .ite (transacts_pure _) (.throw _)

theorem undisturbed_saveDraft (call : Call) (tenantId : String) (config : WhiteLabelConfigV1)
    (latestVersion : Option Int) (store : Store) :
    (BrandingWrite.saveDraft call tenantId config (store.draftsOf tenantId)
      latestVersion).Undisturbed runtime store := by
  rcases drafts : store.draftsOf tenantId with _ | ⟨activeDraft, staleDrafts⟩
  · intro row member isTenant isDraft
    have isFound := Store.mem_draftsOf_iff.mpr ⟨member, isTenant, isDraft⟩
    simp [drafts] at isFound
  · have isDraft (draft : TenantBrandingRevision) (member : draft ∈ activeDraft :: staleDrafts)
        (row : TenantBrandingRevision) (isRow : row ∈ store.revisions.rows)
        (same : row.id = draft.id) : row.status = .draft := by
      obtain ⟨isOld, _, isDraft⟩ := Store.mem_draftsOf_iff.mp (drafts ▸ member)
      rwa [store.revisions.eq_of_key_eq isRow isOld same]
    intro row member settled
    constructor
    · intro isStale
      obtain ⟨stale, isStale, same⟩ := List.mem_map.mp isStale
      exact settled (isDraft stale (List.mem_cons_of_mem _ isStale) row member same.symm)
    · intro same
      exact absurd (isDraft activeDraft List.mem_cons_self row member same) settled

theorem undisturbed_program (call : BrandingCall) (limit : Option Nat) (store : Store) :
    (program runtime call).CommitsMeet (BrandingWrite.effect runtime)
      (BrandingWrite.Undisturbed runtime) limit store := by
  refine Request.CommitsMeet.bind
    ((transacts_writingTenant call).commitsMeet (fun _ _ never => never.elim) limit store)
    fun tenantId limit store => ?_
  split
  · rw [saveDraft, commitsMeet_ofExcept_bind]
    intro actorId _
    refine commitsMeet_requireOrganization_bind fun organization => ?_
    rw [commitsMeet_ofExcept_bind]
    intro fallback _
    rw [commitsMeet_ofExcept_bind]
    intro config _
    rw [commitsMeet_read_bind, commitsMeet_read_bind]
    exact commitsMeet_commit _ _ (undisturbed_saveDraft _ tenantId config _ store)
  · rw [publishDraft, commitsMeet_ofExcept_bind]
    intro actorId _
    refine commitsMeet_requireOrganization_bind fun organization => ?_
    rw [commitsMeet_read_bind]
    split
    · trivial
    · rename_i draft isFound
      rw [commitsMeet_ofExcept_bind]
      intro _ _
      obtain ⟨isOld, isDraft⟩ := Store.mem_of_latestDraft isFound
      refine commitsMeet_commit _ _ fun row member settled same => ?_
      rw [store.revisions.eq_of_key_eq member isOld same] at settled
      exact absurd isDraft settled
  · rw [rollback, commitsMeet_ofExcept_bind]
    intro actorId _
    rw [commitsMeet_ofExcept_bind]
    intro version _
    refine commitsMeet_requireOrganization_bind fun organization => ?_
    rw [commitsMeet_read_bind]
    split
    · trivial
    · rw [commitsMeet_ofExcept_bind]
      intro _ _
      rw [commitsMeet_read_bind]
      exact commitsMeet_commit _ _ trivial

end Alone

/-- However transactions interleave, the laws are kept exactly when each of them finds what it has
read still so; those of a request that is alone find it so. -/
theorem keptLaws_iff {initially : String → Option String} (oneDraft : OneDraft store)
    (active : ∀ tenantId revisionId, initially tenantId = some revisionId →
      IsActive store tenantId revisionId)
    {state : BrandingState} (reachable : BrandingState.Reachable runtime store state) :
    (KeptLaws initially state.shared ↔
        ∀ commit ∈ state.shared.commits, commit.label.Undisturbed runtime commit.before) ∧
      ∀ call limit other, (program runtime call).CommitsMeet (BrandingWrite.effect runtime)
        (BrandingWrite.Undisturbed runtime) limit other :=
  ⟨keptLaws_iff_undisturbed oneDraft active reachable, undisturbed_program⟩

/-! ## A draft that is saved while it is published -/

namespace Sample

def epoch : Runtime where
  parseUrl _ := none
  parseDate _ := none
  toISOString _ := "1970-01-01T00:00:00.000Z"
  toLowerCase := toLowerCase

def organization (id name : String) : TenantBrandingOrganizationRecord where
  id := id
  name := name
  logoUrl := none
  tenantSubdomain := none
  primaryDomain := none
  whiteLabelConfig := .null
  allowedOrigins := []

def tenants : Store where
  users := [⟨"ann", .owner⟩, ⟨"bob", .owner⟩]
  memberships := [⟨"ann", "acme", .active⟩, ⟨"bob", "best", .active⟩]
  organizations :=
    { rows := [organization "acme" "Acme", organization "best" "Best"], nodup := by decide }
  revisions := Table.empty

def request (actorId tenantId newId : String) (operation : BrandingOperation) : BrandingCall where
  actorId := actorId
  now := 0
  newId := newId
  route := .tenantActor (some ⟨some tenantId, none⟩)
  operation := operation

def draft (newId appName : String) : BrandingCall :=
  request "ann" "acme" newId (.saveDraft fun name =>
    if name = "branding" then recordOf [("appName", .string appName)] else .undefined)

def publication : BrandingCall :=
  request "ann" "acme" "" .publishDraft

def commits (session : Nat) : List (DatabaseEvent BrandingCall) :=
  [.begin session, .statement session, .statement session, .commit session]

def saved : List (DatabaseEvent BrandingCall) :=
  .arrive (draft "first" "First") :: (List.replicate 5 (.query 0) ++ commits 0)

def sequential : List (DatabaseEvent BrandingCall) :=
  saved ++ .arrive publication :: (List.replicate 4 (.query 1) ++ commits 1)

def overlapping : List (DatabaseEvent BrandingCall) :=
  saved ++ [.arrive (draft "" "Second"), .arrive publication] ++ List.replicate 5 (.query 1) ++
    List.replicate 4 (.query 2) ++ commits 2 ++ commits 1

def twice : List (DatabaseEvent BrandingCall) :=
  [.arrive (draft "first" "First"), .arrive (draft "second" "Second")] ++
    List.replicate 4 (.query 1) ++ List.replicate 5 (.query 0) ++ commits 0 ++ [.query 1] ++
    commits 1

def outcome (events : List (DatabaseEvent BrandingCall)) : Option BrandingState :=
  events.foldlM (ReadCommitted.next (BrandingWrite.body epoch) (program epoch)
    Conditions.none) (ReadCommitted.initial tenants)

theorem oneDraft_tenants : OneDraft tenants := by
  intro first member
  simp [tenants, Table.empty] at member

def appNameOf (config : JsValue) : Option String :=
  match ensureRecord (ensureRecord config "branding") "appName" with
  | .string text => some text
  | _ => none

def seen (state : BrandingState) :
    Option String × List (String × Option String) × List (String × Option String) :=
  (lastSettled (fun _ => none) state.shared.commits "acme",
    state.shared.store.organizations.rows.map fun row => (row.id, appNameOf row.whiteLabelConfig),
    state.shared.store.revisions.rows.map fun row => (row.id, appNameOf row.config))

def isFound (commit : Commit Store BrandingWrite) : Bool :=
  commit.before.revisions.rows.all TenantBrandingRevision.isDraft &&
    (commit.label.settles.isSome || commit.before.revisions.rows.isEmpty)

theorem undisturbed_of_isFound {commit : Commit Store BrandingWrite}
    (found : isFound commit = true) : commit.label.Undisturbed epoch commit.before := by
  rw [isFound, Bool.and_eq_true, Bool.or_eq_true, List.isEmpty_iff] at found
  obtain ⟨areDrafts, settles⟩ := found
  have noneSettled (row : TenantBrandingRevision) (member : row ∈ commit.before.revisions.rows) :
      row.status = .draft :=
    TenantBrandingRevision.isDraft_eq_true_iff.mp (List.all_eq_true.mp areDrafts row member)
  cases isLabel : commit.label with
  | saveDraft call tenantId config existingDrafts latestVersion =>
    have isEmpty : commit.before.revisions.rows = [] := by
      simpa [isLabel, BrandingWrite.settles] using settles
    cases existingDrafts <;> simp [BrandingWrite.Undisturbed, isEmpty]
  | publishDraft call tenantId organization draft =>
    exact fun row member settled => absurd (noneSettled row member) settled
  | rollback call tenantId organization targetRevision version latestVersion => trivial

end Sample

open Sample

/-- A draft is saved and then published. -/
theorem keptLaws_of_sequential : ∃ state : BrandingState, state.shared.commits.length = 2 ∧
      Sample.seen state = (some "first", [("acme", some "First"), ("best", none)],
        [("first", some "First")]) ∧ KeptLaws (fun _ => none) state.shared := by
  have seen : (outcome sequential).map Sample.seen =
      some (some "first", [("acme", some "First"), ("best", none)], [("first", some "First")]) := by
    decide +kernel
  have run : (outcome sequential).map (fun state =>
      (state.shared.commits.length, state.shared.commits.all isFound)) = some (2, true) := by
    decide +kernel
  obtain ⟨state, reached, observed⟩ := Option.map_eq_some_iff.mp run
  obtain ⟨isTwo, areFound⟩ := Prod.mk.inj observed
  rw [reached] at seen
  refine ⟨state, isTwo, Option.some.inj seen, ?_⟩
  refine (keptLaws_iff oneDraft_tenants (fun _ _ isSome => by simp at isSome)
    (Transition.reachable_of_foldlM reached)).1.mpr ?_
  intro commit member
  exact undisturbed_of_isFound (List.all_eq_true.mp areFound commit member)

/-- A draft that is saved while it is published changes the published revision, which the
organization does not follow; and two requests that overlap leave two drafts. -/
theorem overlapping_changes_published : OneDraft tenants ∧
      (∃ state, BrandingState.Reachable epoch tenants state ∧
        ¬ActiveIsLast (fun _ => none) state.shared ∧ ¬KeptLaws (fun _ => none) state.shared) ∧
      ∃ state, BrandingState.Reachable epoch tenants state ∧
        ¬OneDraft state.shared.store := by
  have overlaps : (outcome overlapping).map seen =
      some (some "first", [("acme", some "First"), ("best", none)],
        [("first", some "Second")]) := by
    decide +kernel
  have twoDrafts : (outcome twice).map (fun state =>
      decide (MarkedOnce TenantBrandingRevision.id TenantBrandingRevision.isDraft
        TenantBrandingRevision.organizationId state.shared.store.revisions.rows)) = some false := by
    decide +kernel
  obtain ⟨state, reached, isSeen⟩ := Option.map_eq_some_iff.mp overlaps
  obtain ⟨both, reachedBoth, isFalse⟩ := Option.map_eq_some_iff.mp twoDrafts
  have notActive : ¬ActiveIsLast (fun _ => none) state.shared := by
    simp only [seen, Prod.mk.injEq] at isSeen
    obtain ⟨isLast, organizations, revisions⟩ := isSeen
    intro activeIsLast
    obtain ⟨organization, isOrganization, revision, isRevision, config, isTenant, isIt, _, isConfig,
      isOfOrganization, _⟩ := activeIsLast "acme" "first" isLast
    have first := organizations ▸ List.mem_map_of_mem
      (f := fun row : TenantBrandingOrganizationRecord =>
        (row.id, appNameOf row.whiteLabelConfig)) isOrganization
    have second := revisions ▸ List.mem_map_of_mem
      (f := fun row : TenantBrandingRevision => (row.id, appNameOf row.config)) isRevision
    simp [isTenant, isOfOrganization] at first
    simp [isIt, isConfig] at second
    exact absurd (first.symm.trans second) (by decide)
  have notOneDraft : ¬OneDraft both.shared.store := by
    simpa only [OneDraft] using of_decide_eq_false isFalse
  exact ⟨oneDraft_tenants,
    ⟨state, Transition.reachable_of_foldlM reached, notActive, fun laws => notActive laws.active⟩,
    both, Transition.reachable_of_foldlM reachedBoth, notOneDraft⟩

end Csms.Branding
