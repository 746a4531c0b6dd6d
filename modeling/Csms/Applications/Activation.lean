import Csms.Applications.Stages

/-!
# One organization for an application

An activation creates the organization first and completes the application last, each on
its own, and nothing tells a later call that an earlier one has come half of the way.  The
application gets one organization as long as no call creates another one meanwhile.
-/

namespace Csms.Applications

open Database

namespace OnboardingWrite

def created (id : String) : OnboardingWrite → Option Organization
  | createOrganization current row => if current.id = id then some row else none
  | _ => none

/-- The id of the organization with which a statement completes the application. -/
def completed (id : String) : OnboardingWrite → Option String
  | updateApplication current (.activate organizationId ..) =>
    if current.id = id then some organizationId else none
  | _ => none

end OnboardingWrite

/-- The organizations that were created for the application. -/
def organizationsFor (shared : Shared Store OnboardingWrite) (id : String) : List Organization :=
  shared.commits.filterMap fun commit => commit.label.created id

/-- The organizations with which the application was completed. -/
def completionsOf (shared : Shared Store OnboardingWrite) (id : String) : List String :=
  shared.commits.filterMap fun commit => commit.label.completed id

/-- At most one organization was created for the application, and whoever has completed it
has done so with that one. -/
structure ProvisionedOnce (shared : Shared Store OnboardingWrite) (id : String) : Prop where
  atMostOne : (organizationsFor shared id).length ≤ 1
  same : ∀ organizationId ∈ completionsOf shared id,
    ∃ organization ∈ organizationsFor shared id, organization.id = organizationId

/-- A call has created an organization for the application, and not completed it. -/
def isHalfway (shared : Shared Store OnboardingWrite) (id : String) : Bool :=
  shared.commits.any fun commit => (commit.label.created id).isSome &&
    shared.commits.all fun other =>
      other.session ≠ commit.session || (other.label.completed id).isNone

/-- No call is half of the way when another one creates an organization, which still finds
the stage that it has read; and when there is an organization, other operations leave the
application alone. -/
def OnboardingWrite.isAlone (shared : Shared Store OnboardingWrite) : OnboardingWrite → Bool
  | createOrganization current _ =>
    !isHalfway shared current.id &&
      shared.store.stage? current.id = some current.onboardingStage
  | updateApplication current change =>
    change.operation = .activate || (organizationsFor shared current.id).isEmpty
  | _ => true

/-- Activations of an application are alone. -/
def alone : Conditions Store OnboardingQuery OnboardingWrite OnboardingAction where
  onArrive _ _ := true
  onQuery _ _ _ := true
  onCommit _ write shared := write.isAlone shared

variable {organizationId : String}

namespace OnboardingWrite

variable {write : OnboardingWrite} {id : String}

theorem created_eq_some_iff {organization : Organization} : write.created id = some organization ↔
      ∃ current, write = .createOrganization current organization ∧ current.id = id := by
  cases write with
  | createOrganization current row =>
    rw [created]
    split <;> simp_all
  | _ => simp [created]

theorem completed_eq_some_iff : write.completed id = some organizationId ↔
      ∃ current change, write = .updateApplication current change ∧ current.id = id ∧
        ∃ reviewerId roleKey subdomain domain now,
          change = .activate organizationId reviewerId roleKey subdomain domain now := by
  cases write with
  | updateApplication current change =>
    cases change with
    | activate organization reviewerId roleKey subdomain domain now =>
      rw [completed]
      split <;> simp_all
    | _ => simp [completed]
  | _ => simp [completed]

end OnboardingWrite

section Commits

variable {shared : Shared Store OnboardingWrite} {session : Nat} {write : OnboardingWrite}
  {after : Store} {id : String}

theorem organizationsFor_commit : organizationsFor (shared.commit session write after) id =
      organizationsFor shared id ++ (write.created id).toList :=
  shared.filterMap_commit (OnboardingWrite.created id) session write after

theorem completionsOf_commit : completionsOf (shared.commit session write after) id =
      completionsOf shared id ++ (write.completed id).toList :=
  shared.filterMap_commit (OnboardingWrite.completed id) session write after

end Commits

/-- The application is completed once somebody has completed it. -/
structure Orderly (shared : Shared Store OnboardingWrite) (id : String) : Prop
    extends ProvisionedOnce shared id where
  done : completionsOf shared id ≠ [] → shared.store.stage? id = some .completed

def AllOrderly (shared : Shared Store OnboardingWrite) : Prop :=
  ∀ id, Orderly shared id

/-- An activation completes the application with an organization that was created for it. -/
def OnboardingWrite.IsProvided (shared : Shared Store OnboardingWrite) (write : OnboardingWrite) :
    Prop :=
  ∀ id organizationId, write.completed id = some organizationId →
    ∃ organization ∈ organizationsFor shared id, organization.id = organizationId

section Steps

variable {shared : Shared Store OnboardingWrite} {session : Nat} {write : OnboardingWrite}
  {after : Store} {id : String} {result : write.Result}

theorem ProvisionedOnce.completionsOf_eq_nil (once : ProvisionedOnce shared id)
    (noneYet : organizationsFor shared id = []) : completionsOf shared id = [] := by
  apply List.eq_nil_iff_forall_not_mem.mpr
  intro organizationId member
  rcases once.same organizationId member with ⟨organization, isCreated, _⟩
  rw [noneYet] at isCreated
  contradiction

section

variable (orderly : Orderly shared id)
include orderly

/-- Other statements leave an application that is completed as it is. -/
theorem Orderly.of_neutral (createsNone : write.created id = none)
    (completesNone : write.completed id = none) (permitted : write.isAlone shared = true)
    (run : write.body.run shared.store = some (after, result)) :
    Orderly (shared.commit session write after) id := by
  have organizations : organizationsFor (shared.commit session write after) id =
      organizationsFor shared id := by
    rw [organizationsFor_commit, createsNone, Option.toList_none, List.append_nil]
  have completions : completionsOf (shared.commit session write after) id =
      completionsOf shared id := by
    rw [completionsOf_commit, completesNone, Option.toList_none, List.append_nil]
  refine ⟨⟨?_, ?_⟩, ?_⟩
  · rw [organizations]
    exact orderly.atMostOne
  · rw [organizations, completions]
    exact orderly.same
  · rw [completions]
    intro someCompleted
    rcases Option.map_eq_some_iff.mp (orderly.done someCompleted) with ⟨row, found, isStage⟩
    have other : write.isUpdateOf id = false := by
      cases write with
      | updateApplication current change =>
        refine decide_eq_false ?_
        rintro rfl
        have isActivation : change.operation ≠ .activate := by
          cases change with
          | activate => simp [OnboardingWrite.completed] at completesNone
          | _ => exact nofun
        rw [OnboardingWrite.isAlone, decide_eq_false isActivation, Bool.false_or,
          List.isEmpty_iff] at permitted
        exact someCompleted (orderly.completionsOf_eq_nil permitted)
      | _ => rfl
    rw [Shared.store_commit, Store.stage?, OnboardingWrite.application?_of_other run found other,
      Option.map_some, isStage]

/-- An organization is created only when there is none yet. -/
theorem organizationsFor_eq_nil {stage : TenantOnboardingStage}
    (notHalfway : isHalfway shared id = false) (found : shared.store.stage? id = some stage)
    (pending : stage.isPendingActivation = true) : organizationsFor shared id = [] := by
  apply List.eq_nil_iff_forall_not_mem.mpr
  intro organization member
  obtain ⟨commit, isCommit, isCreated⟩ := List.mem_filterMap.mp member
  have completed : completionsOf shared id ≠ [] := by
    intro noneCompleted
    have unfinished : ∀ other ∈ shared.commits, other.label.completed id = none :=
      fun other isOther => List.filterMap_eq_nil_iff.mp noneCompleted other isOther
    have halfway : isHalfway shared id = true := by
      refine List.any_eq_true.mpr ⟨commit, isCommit, ?_⟩
      rw [isCreated, Option.isSome_some, Bool.true_and, List.all_eq_true]
      intro other isOther
      rw [unfinished other isOther, Option.isNone_none, Bool.or_true]
    rw [halfway] at notHalfway
    contradiction
  have isCompleted := orderly.done completed
  rw [found] at isCompleted
  obtain rfl := Option.some.inj isCompleted
  contradiction

theorem Orderly.of_created {organization : Organization}
    (creates : write.created id = some organization) (guarded : write.IsGuarded)
    (permitted : write.isAlone shared = true) : Orderly (shared.commit session write after) id := by
  obtain ⟨current, isWrite, isId⟩ := OnboardingWrite.created_eq_some_iff.mp creates
  have completesNone : write.completed id = none := by
    rw [isWrite]
    rfl
  have noneYet : organizationsFor shared id = [] := by
    rw [isWrite, OnboardingWrite.isAlone, Bool.and_eq_true, Bool.not_eq_true', decide_eq_true_eq,
      isId] at permitted
    rw [isWrite] at guarded
    exact organizationsFor_eq_nil orderly permitted.1 permitted.2 guarded
  have noneCompleted : completionsOf (shared.commit session write after) id = [] := by
    rw [completionsOf_commit, completesNone, orderly.completionsOf_eq_nil noneYet]
    rfl
  refine ⟨⟨?_, ?_⟩, ?_⟩
  · rw [organizationsFor_commit, noneYet, creates]
    exact le_refl 1
  · rw [noneCompleted]
    exact fun _ member => absurd member List.not_mem_nil
  · exact fun someCompleted => absurd noneCompleted someCompleted

theorem Orderly.of_completed (completes : write.completed id = some organizationId)
    (provided : write.IsProvided shared) (run : write.body.run shared.store = some (after, result)) :
    Orderly (shared.commit session write after) id := by
  obtain ⟨current, change, isWrite, isId, reviewerId, roleKey, subdomain, domain, now, isChange⟩ :=
    OnboardingWrite.completed_eq_some_iff.mp completes
  have createsNone : write.created id = none := by
    rw [isWrite]
    rfl
  have organizations : organizationsFor (shared.commit session write after) id =
      organizationsFor shared id := by
    rw [organizationsFor_commit, createsNone, Option.toList_none, List.append_nil]
  refine ⟨⟨?_, ?_⟩, ?_⟩
  · rw [organizations]
    exact orderly.atMostOne
  · rw [organizations, completionsOf_commit, completes]
    intro wanted member
    rcases List.mem_append.mp member with old | new
    · exact orderly.same wanted old
    · obtain rfl := List.mem_singleton.mp new
      exact provided id wanted completes
  · intro _
    subst isWrite isId isChange
    rcases OnboardingWrite.application?_of_update run with ⟨row, _, isAfter⟩
    rw [Shared.store_commit, Store.stage?, isAfter]
    rfl

end

/-- The statements of activations that are alone keep all applications orderly. -/
theorem orderly_commit (orderly : AllOrderly shared) (guarded : write.IsGuarded)
    (provided : write.IsProvided shared) (permitted : write.isAlone shared = true)
    (run : write.body.run shared.store = some (after, result)) :
    AllOrderly (shared.commit session write after) := by
  intro id
  rcases creates : write.created id with _ | organization
  · rcases completes : write.completed id with _ | organizationId
    · exact (orderly id).of_neutral creates completes permitted run
    · exact (orderly id).of_completed completes provided run
  · exact (orderly id).of_created creates guarded permitted

end Steps

def GoesOn (first second : Shared Store OnboardingWrite) : Prop :=
  first.commits ⊆ second.commits

theorem GoesOn.refl (shared : Shared Store OnboardingWrite) : GoesOn shared shared :=
  List.Subset.refl _

theorem GoesOn.trans {first second third : Shared Store OnboardingWrite}
    (left : GoesOn first second) (right : GoesOn second third) : GoesOn first third :=
  List.Subset.trans left right

abbrev OnboardingRequest.StaysOrderly {α : Type} (request : OnboardingAction) (session : Nat)
    (program : OnboardingRequest α) : Prop :=
  program.Keeps (fun write => write.body.run) alone AllOrderly GoesOn request session

/-- The organization was created for the application. -/
def IsFor (shared : Shared Store OnboardingWrite) (id organizationId : String) : Prop :=
  ∃ organization ∈ organizationsFor shared id, organization.id = organizationId

theorem IsFor.goesOn {first second : Shared Store OnboardingWrite} (later : GoesOn first second)
    {id organizationId : String} (isFor : IsFor first id organizationId) :
    IsFor second id organizationId := by
  obtain ⟨organization, member, isId⟩ := isFor
  obtain ⟨commit, isCommit, isCreated⟩ := List.mem_filterMap.mp member
  exact ⟨organization, List.mem_filterMap.mpr ⟨commit, later isCommit, isCreated⟩, isId⟩

/-- The statement is not the last one of an activation. -/
def OnboardingWrite.CompletesNone (write : OnboardingWrite) : Prop :=
  write.IsGuarded ∧ ∀ id, write.completed id = none

section Requests

variable {request : OnboardingAction} {session : Nat}

theorem staysOrderly_of_transacts {α : Type} {program : OnboardingRequest α}
    (transacts : program.Transacts OnboardingWrite.CompletesNone) :
    program.StaysOrderly request session := by
  refine transacts.keeps ?_
  intro shared write after result orderly completesNone permitted run
  refine ⟨shared.subset_commits_commit session write after,
    orderly_commit orderly completesNone.1 ?_ permitted run⟩
  intro id organizationId completes
  rw [completesNone.2 id] at completes
  contradiction

theorem StaysOrderly.bind {α γ : Type} {first : OnboardingRequest α}
    {next : α → OnboardingRequest γ} (keeps : first.StaysOrderly request session)
    (onward : ∀ value, (next value).StaysOrderly request session) :
    (first >>= next).StaysOrderly request session :=
  Request.Keeps.bind GoesOn.refl keeps onward

theorem completed_of_isOf {operation : Operation} {write : OnboardingWrite}
    (isOf : write.isOf operation = true) (other : operation ≠ .activate) (id : String) :
    write.completed id = none := by
  rcases completes : write.completed id with _ | organizationId
  · rfl
  · obtain ⟨current, change, rfl, _, _, _, _, _, _, rfl⟩ :=
      OnboardingWrite.completed_eq_some_iff.mp completes
    exact absurd (of_decide_eq_true isOf) other

/-- The memberships and the user, for an organization that stays known. -/
theorem isFor_kept {α : Type} {program : OnboardingRequest α}
    {shared : Shared Store OnboardingWrite} (keeps : program.StaysOrderly request session)
    (orderly : AllOrderly shared) {id organizationId : String}
    (isFor : IsFor shared id organizationId) :
    program.Meets (fun write => write.body.run) alone AllOrderly GoesOn request session
      (fun _ later => True ∧ IsFor later id organizationId) shared :=
  (keeps shared orderly).frame (IsFor · id organizationId) (fun _ _ later => IsFor.goesOn later)
    isFor

theorem staysOrderly_assignMembership (organizationId userId roleKey actorId : String) :
    (assignMembership organizationId userId roleKey actorId).StaysOrderly request session :=
  staysOrderly_of_transacts
    (transacts_assignMembership organizationId userId roleKey actorId
      (fun _ => ⟨trivial, fun _ => rfl⟩) fun _ => ⟨trivial, fun _ => rfl⟩)

theorem staysOrderly_updateUser (id organizationId : String) :
    (execute (.updateUser id organizationId)).StaysOrderly request session :=
  staysOrderly_of_transacts (Request.transacts_commit _ ⟨trivial, fun _ => rfl⟩)

variable {current : TenantApplication}

theorem isFor_of_create {shared : Shared Store OnboardingWrite}
    {organization created : Organization} {after : Store}
    (run : (OnboardingWrite.createOrganization current organization).body.run shared.store = some (after, created)) :
    IsFor (shared.commit session (.createOrganization current organization) after) current.id
      created.id := by
  rcases OnboardingWrite.run_onOnboarding_eq_some_iff.mp run with ⟨left, inPart, _⟩
  rcases Tx.run_statement_eq_some_iff.mp inPart with ⟨_, same⟩
  obtain ⟨_, rfl⟩ := Prod.mk.inj same
  refine ⟨created, ?_, rfl⟩
  rw [organizationsFor_commit, OnboardingWrite.created, if_pos rfl]
  exact List.mem_append_right _ (List.mem_singleton_self created)

/-- The last statement of an activation. -/
theorem meets_complete {shared : Shared Store OnboardingWrite}
    (pending : current.onboardingStage.isPendingActivation = true)
    (isFor : IsFor shared current.id organizationId) (reviewerId roleKey : String)
    (subdomain domain : Option String) (now : Int) : (execute (.updateApplication current
      (.activate organizationId reviewerId roleKey subdomain domain now))).Meets
      (fun write => write.body.run) alone AllOrderly GoesOn request session
      (fun _ _ => True) shared := by
  refine (meets_commit _ _).mpr ?_
  intro later goesOn orderly
  refine ⟨fun _ _ _ => trivial, ?_⟩
  intro permitted after result run
  refine ⟨later.subset_commits_commit session _ after,
    orderly_commit orderly ⟨pending, trivial⟩ ?_ permitted run, fun _ _ _ => trivial⟩
  intro id wanted completes
  rw [OnboardingWrite.completed] at completes
  split at completes
  · rename_i isId
    obtain rfl := Option.some.inj completes
    rw [← isId]
    exact isFor.goesOn goesOn
  · contradiction

theorem staysOrderly_provision (call : Billing.Call) (reviewerId : String)
    (pending : current.onboardingStage.isPendingActivation = true) (organization : Organization)
    (roleKey : String) (subdomain domain : Option String) :
    (provision call reviewerId current organization roleKey subdomain domain).StaysOrderly request
      session := by
  intro shared _
  refine (Request.meets_commit_bind _ _ _).mpr ?_
  intro first _ orderly
  refine ⟨fun _ _ _ => trivial, ?_⟩
  intro permitted after created run
  have guarded : (OnboardingWrite.createOrganization current organization).IsGuarded := pending
  have stillOrderly :
      AllOrderly (first.commit session (.createOrganization current organization) after) :=
    orderly_commit orderly guarded (fun _ _ => nofun) permitted run
  refine ⟨first.subset_commits_commit session _ after, stillOrderly, ?_⟩
  refine Request.Meets.bind GoesOn.refl
    (isFor_kept (staysOrderly_assignMembership _ _ _ _) stillOrderly (isFor_of_create run))
    stillOrderly ?_ fun _ _ _ => trivial
  rintro _ second secondOrderly ⟨_, isFor⟩
  refine Request.Meets.bind GoesOn.refl
    (isFor_kept (staysOrderly_updateUser _ _) secondOrderly isFor) secondOrderly ?_
    fun _ _ _ => trivial
  rintro _ third _ ⟨_, stillFor⟩
  exact meets_complete pending stillFor reviewerId roleKey subdomain domain call.now

theorem staysOrderly_activate (call : Billing.Call) (id reviewerId : String)
    (dto : ActivateApplicationDto) :
    (activate call id reviewerId dto).StaysOrderly request session := by
  refine StaysOrderly.bind (staysOrderly_of_transacts (transacts_findByIdForUpdate id)) ?_
  intro current
  refine keeps_ofExcept_bind fun _ passed => ?_
  have pending := assertStage_eq_ok passed
  refine keeps_ofExcept_bind fun tierCode _ => ?_
  refine keeps_ofExcept_bind fun roleKey _ => ?_
  refine StaysOrderly.bind
    (staysOrderly_of_transacts (transacts_assertDomainAvailability _ _ _)) fun _ => ?_
  refine keeps_ofExcept_bind fun tenantTier _ => ?_
  exact staysOrderly_provision call reviewerId pending _ roleKey _ _

theorem staysOrderly_program (runtime : Billing.Webhooks.Runtime) (action : OnboardingAction) :
    (action.program runtime).StaysOrderly request session := by
  have completesNone (other : action.operation ≠ .activate) :
      (action.program runtime).StaysOrderly request session :=
    staysOrderly_of_transacts ((follows_program runtime action).imp fun _ follows =>
      ⟨follows.2, completed_of_isOf follows.1 other⟩)
  cases action with
  | activate call userId id dto =>
    refine StaysOrderly.bind (staysOrderly_of_transacts (transacts_assertSuperAdmin userId)) ?_
    intro _
    exact StaysOrderly.bind (staysOrderly_activate call id userId dto) fun _ =>
      Request.keeps_pure _
  | _ => exact completesNone nofun

end Requests

/-- In a run whose activations are alone, each application gets at most one organization,
and whoever completes it does so with that one. -/
theorem provisionedOnce_of_alone {runtime : Billing.Webhooks.Runtime} {store : Store}
    {state : OnboardingState} (reachable : state.Reachable runtime alone store) (id : String) :
    ProvisionedOnce state.shared id := by
  have initially : AllOrderly (Shared.initial store) := by
    intro id
    refine ⟨⟨Nat.zero_le 1, ?_⟩, fun someCompleted => absurd rfl someCompleted⟩
    exact fun _ member => absurd member List.not_mem_nil
  have keeps (action : OnboardingAction) (session : Nat) :
      (action.program runtime).StaysOrderly action session :=
    staysOrderly_program runtime action
  have orderly := ReadCommitted.Reachable.keeps OnboardingWrite.guarded
    GoesOn.refl (fun _ _ _ => GoesOn.trans) keeps initially reachable
  exact (orderly id).toProvisionedOnce

namespace Sample

/-- The super admin activates the application, and the call breaks off once it has created
the organization. -/
def breaksOff (id : Nat) (name : String) : List (DatabaseEvent OnboardingAction) :=
  [.arrive (.activate (Billing.Sample.call name) "root" applicationId ⟨none, none, none⟩)] ++
    queries id 4 ++ writes id ++ [.stop id]

def provisioned (shared : Shared Store OnboardingWrite) : Nat × List String :=
  ((organizationsFor shared applicationId).length, completionsOf shared applicationId)

end Sample

open Sample

/-- An application that is activated once. -/
theorem provisionedOnce_of_alone_completed : ∃ state : OnboardingState,
      state.shared.store.stage? applicationId = some .completed ∧
        ProvisionedOnce state.shared applicationId := by
  have run : (afterFrom store alone
      (onboards ++ declaresSettled 4 ++ activates 5 "act")).map
        (fun state => state.shared.store.stage? applicationId) =
      some (some .completed) := by
    decide +kernel
  rcases Option.map_eq_some_iff.mp run with ⟨state, reached, isCompleted⟩
  exact ⟨state, isCompleted, provisionedOnce_of_alone (Transition.reachable_of_foldlM reached) _⟩

/-- The retry of an activation that broke off provisions the application again. -/
theorem retry_provisions_again :
    ∃ state : OnboardingState, state.Reachable runtime Conditions.none store ∧
      completionsOf state.shared applicationId ≠ [] ∧
        ¬ ProvisionedOnce state.shared applicationId := by
  have run : (afterFrom store Conditions.none
      (onboards ++ declaresSettled 4 ++ breaksOff 5 "first" ++
        activates 6 "second")).map (fun state => provisioned state.shared) =
      some (2, ["second8"]) := by
    decide +kernel
  rcases Option.map_eq_some_iff.mp run with ⟨state, reached, facts⟩
  rcases Prod.mk.inj facts with ⟨two, completions⟩
  refine ⟨state, Transition.reachable_of_foldlM reached, ?_, ?_⟩
  · rw [completions]
    exact List.cons_ne_nil _ _
  · intro once
    have atMostOne := once.atMostOne
    rw [two] at atMostOne
    contradiction

end Csms.Applications
