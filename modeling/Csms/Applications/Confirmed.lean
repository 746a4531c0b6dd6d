import Csms.Applications.Entitled

/-!
# The types that a price was made for

The price of a tier is made for the types of the application as `confirmTier` has read it,
and `updateOwn` changes the types of the row, whatever has become of it since it was read.
The types stay those of the price as long as neither finds the row changed.
-/

namespace Csms.Applications

open Database

/-- The application that a price was made for, as it was read, with the price. -/
def OnboardingWrite.confirmation (id : String) :
    OnboardingWrite → Option (TenantApplication × PricingSnapshot)
  | updateApplication current (.confirmTier _ _ snapshot _) =>
    if current.id = id then some (current, snapshot) else none
  | _ => none

def lastConfirmation (shared : Shared Store OnboardingWrite) (id : String) :
    Option (TenantApplication × PricingSnapshot) :=
  (shared.commits.filterMap fun commit => commit.label.confirmation id).getLast?

def PricedFor (shared : Shared Store OnboardingWrite) (row : TenantApplication) : Prop :=
  ∃ current snapshot, lastConfirmation shared row.id = some (current, snapshot) ∧
    row.pricingSnapshot = some snapshot ∧ snapshot.cpoType = row.cpoType ∧
      current.cpoType = row.cpoType ∧ current.tenantType = row.tenantType

def UpdateOwnApplicationDto.keepsTypes (dto : UpdateOwnApplicationDto) (row : TenantApplication) :
    Bool :=
  dto.tenantType.getD row.tenantType = row.tenantType && dto.cpoType.getD row.cpoType = row.cpoType

/-- An update of the types finds no confirmed tier, a confirmation finds the types that it
has read, and other operations do not make up for a confirmation. -/
def ApplicationChange.isTyped (current row : TenantApplication) : ApplicationChange → Bool
  | updateOwn dto => dto.keepsTypes row || !row.onboardingStage.isConfirmed
  | confirmTier .. => current.cpoType = row.cpoType && current.tenantType = row.tenantType
  | change =>
    (change.nextStage current).all fun next =>
      !next.isConfirmed || row.onboardingStage.isConfirmed

def OnboardingWrite.isTyped (store : Store) : OnboardingWrite → Bool
  | updateApplication current change =>
    (store.application? current.id).all fun row => change.isTyped current row
  | _ => true

/-- Updates and confirmations find the rows that they expect. -/
def typed : Conditions Store OnboardingQuery OnboardingWrite OnboardingAction where
  onArrive _ _ := true
  onQuery _ _ _ := true
  onCommit _ write shared := write.isTyped shared.store

theorem cpoType_of_pricingSnapshot {pricing : PlatformTierPricingVersion} {tierCode : String}
    {cpoType : CpoServiceType} {billingCycle : Option BillingCycle} {whiteLabelRequested : Bool}
    {snapshot : PricingSnapshot}
    (taken : pricingSnapshot pricing tierCode cpoType billingCycle whiteLabelRequested =
      .ok snapshot) : snapshot.cpoType = cpoType := by
  unfold pricingSnapshot at taken
  split at taken
  · cases taken
    rfl
  · unfold standardSnapshot at taken
    split at taken
    · contradiction
    · split at taken
      · contradiction
      · rename_i cycle _ base _
        rcases addons : resolveCpoPricingAddons pricing cpoType cycle with
          refusal | ⟨recurring, setup⟩
        · rw [addons] at taken
          contradiction
        · rw [addons] at taken
          cases taken
          rfl

/-- The price of a confirmation is one for the application that was read. -/
def OnboardingWrite.IsComputed : OnboardingWrite → Prop
  | updateApplication current (.confirmTier _ _ snapshot _) => snapshot.cpoType = current.cpoType
  | _ => True

theorem OnboardingWrite.isComputed_of_isOf {operation : Operation} {write : OnboardingWrite}
    (isOf : write.isOf operation = true) (other : operation ≠ .confirmTier) : write.IsComputed := by
  cases write with
  | updateApplication current change =>
    have isOperation : operation = change.operation := of_decide_eq_true isOf
    cases change with
    | confirmTier => exact absurd isOperation other
    | _ => trivial
  | _ => trivial

theorem computes_confirmTier (call : Billing.Call) (id applicantId : String)
    (dto : ConfirmTierSelectionDto) : (confirmTier call id applicantId dto).Transacts fun write =>
      write.IsGuarded ∧ write.IsComputed :=
  (transacts_findOwn _ _).bind fun _ => transacts_ofExcept_bind fun _ passed =>
    (transacts_read _ _).bind fun _ => (transacts_ofExcept _).bind fun _ =>
      (transacts_ofExcept _).bind fun _ => transacts_ofExcept_bind fun _ taken =>
        Request.transacts_commit _
          ⟨⟨assertStage_eq_ok passed, _, _, _, _, taken⟩, cpoType_of_pricingSnapshot taken⟩

theorem computes_program (runtime : Billing.Webhooks.Runtime) (action : OnboardingAction) :
    (action.program runtime).Transacts fun write => write.IsGuarded ∧ write.IsComputed := by
  have computesNone (other : action.operation ≠ .confirmTier) :
      (action.program runtime).Transacts fun write => write.IsGuarded ∧ write.IsComputed :=
    (follows_program runtime action).imp fun _ follows =>
      ⟨follows.2, OnboardingWrite.isComputed_of_isOf follows.1 other⟩
  cases action with
  | confirmTier call userId id dto =>
    exact (computes_confirmTier _ _ _ _).bind fun _ => transacts_pure _
  | _ => exact computesNone nofun

section Steps

variable {shared : Shared Store OnboardingWrite} {session : Nat} {write : OnboardingWrite}
  {after : Store} {id : String}

theorem lastConfirmation_commit : lastConfirmation (shared.commit session write after) id =
      (write.confirmation id).or (lastConfirmation shared id) := by
  rw [lastConfirmation, shared.filterMap_commit (OnboardingWrite.confirmation id) session write
    after, lastConfirmation]
  rcases write.confirmation id with _ | confirmation
  · rw [Option.toList_none, List.append_nil, Option.none_or]
  · rw [Option.toList_some, List.getLast?_concat, Option.some_or]

/-- Another application, or another operation. -/
theorem PricedFor.commit {row next : TenantApplication} (priced : PricedFor shared row)
    (confirmsNone : write.confirmation row.id = none) (sameId : next.id = row.id)
    (sameSnapshot : next.pricingSnapshot = row.pricingSnapshot)
    (sameCpoType : next.cpoType = row.cpoType) (sameTenantType : next.tenantType = row.tenantType) :
    PricedFor (shared.commit session write after) next := by
  obtain ⟨current, snapshot, isLast, isSnapshot, isFor, isCpoType, isTenantType⟩ := priced
  refine ⟨current, snapshot, ?_, ?_, ?_, ?_, ?_⟩
  · rw [lastConfirmation_commit, sameId, confirmsNone, Option.none_or, isLast]
  · rw [sameSnapshot, isSnapshot]
  · rw [isFor, sameCpoType]
  · rw [isCpoType, sameCpoType]
  · rw [isTenantType, sameTenantType]

/-- Other operations than the two leave the types and the price as they are. -/
theorem ApplicationChange.isConfirmed_of_other {current row : TenantApplication}
    {change : ApplicationChange} (isOther : change.operation ≠ .updateOwn)
    (confirmsNone : change.operation ≠ .confirmTier) (typed : change.isTyped current row = true)
    (confirmed : (change.apply current row).onboardingStage.isConfirmed = true) :
    row.onboardingStage.isConfirmed = true ∧
      (change.apply current row).pricingSnapshot = row.pricingSnapshot ∧
        (change.apply current row).cpoType = row.cpoType ∧
          (change.apply current row).tenantType = row.tenantType := by
  have isPast : (change.nextStage current).all
      (fun next => !next.isConfirmed || row.onboardingStage.isConfirmed) = true := by
    cases change with
    | updateOwn => exact absurd rfl isOther
    | confirmTier => exact absurd rfl confirmsNone
    | _ => exact typed
  constructor
  · rw [onboardingStage_apply] at confirmed
    rcases isNext : change.nextStage current with _ | next
    · rwa [isNext, Option.getD_none] at confirmed
    · rw [isNext, Option.getD_some] at confirmed
      simpa [isNext, confirmed] using isPast
  · cases change with
    | confirmTier => exact absurd rfl confirmsNone
    | updateOwn => exact absurd rfl isOther
    | _ => exact ⟨rfl, rfl, rfl⟩

theorem OnboardingWrite.confirmation_of_operation {current : TenantApplication}
    {change : ApplicationChange} (other : change.operation ≠ .confirmTier) :
    (updateApplication current change).confirmation id = none := by
  cases change with
  | confirmTier => exact absurd rfl other
  | _ => rfl

theorem pricedFor_update {current row : TenantApplication} {change : ApplicationChange}
    (isId : row.id = current.id)
    (holds : row.onboardingStage.isConfirmed = true → PricedFor shared row)
    (computed : (OnboardingWrite.updateApplication current change).IsComputed)
    (typed : change.isTyped current row = true)
    (confirmed : (change.apply current row).onboardingStage.isConfirmed = true) :
    PricedFor (shared.commit session (.updateApplication current change) after)
      (change.apply current row) := by
  by_cases isOwn : change.operation = .updateOwn
  · cases change with
    | updateOwn dto =>
      have wasConfirmed : row.onboardingStage.isConfirmed = true := confirmed
      simp only [ApplicationChange.isTyped, wasConfirmed, Bool.not_true, Bool.or_false,
        UpdateOwnApplicationDto.keepsTypes, Bool.and_eq_true, decide_eq_true_eq] at typed
      exact (holds wasConfirmed).commit rfl rfl rfl typed.2 typed.1
    | _ => contradiction
  · by_cases confirms : change.operation = .confirmTier
    · cases change with
      | confirmTier tierCode billingCycle snapshot now =>
        simp only [ApplicationChange.isTyped, Bool.and_eq_true, decide_eq_true_eq] at typed
        have isFor : snapshot.cpoType = current.cpoType := computed
        refine ⟨current, snapshot, ?_, rfl, isFor.trans typed.1, typed.1, typed.2⟩
        rw [lastConfirmation_commit, ApplicationChange.id_apply, isId,
          OnboardingWrite.confirmation, if_pos rfl, Option.some_or]
      | _ => contradiction
    · obtain ⟨wasConfirmed, sameSnapshot, sameCpoType, sameTenantType⟩ :=
        ApplicationChange.isConfirmed_of_other isOwn confirms typed confirmed
      exact (holds wasConfirmed).commit (OnboardingWrite.confirmation_of_operation confirms)
        (change.id_apply current row) sameSnapshot sameCpoType sameTenantType

/-- Whose tier is confirmed has the types of the price. -/
def AllPricedFor (shared : Shared Store OnboardingWrite) : Prop :=
  ∀ id row, shared.store.application? id = some row → row.onboardingStage.isConfirmed = true →
    PricedFor shared row

theorem allPricedFor_commit {result : write.Result} (holds : AllPricedFor shared)
    (guarded : write.IsGuarded) (computed : write.IsComputed)
    (permitted : write.isTyped shared.store = true)
    (run : write.body.run shared.store = some (after, result)) :
    AllPricedFor (shared.commit session write after) := by
  intro id next found confirmed
  have isId : next.id = id := (Table.find?_eq_some_iff.mp found).2
  have stays {row : TenantApplication} (before : shared.store.application? id = some row)
      (confirmsNone : write.confirmation id = none) (same : next = row) :
      PricedFor (shared.commit session write after) next := by
    subst same
    exact (holds id next before confirmed).commit (isId ▸ confirmsNone) rfl rfl rfl rfl
  rw [Shared.store_commit, OnboardingWrite.application?_of_run run] at found
  cases write with
  | createApplication row =>
    rcases before : shared.store.application? id with _ | old
    · -- the application is a new one, and has no tier yet
      obtain ⟨call, applicantId, dto, isNew⟩ := guarded
      rw [before, OnboardingWrite.applicationAfter, Option.none_or] at found
      split at found
      · obtain rfl := Option.some.inj found
        rw [isNew] at confirmed
        contradiction
      · contradiction
    · rw [before, OnboardingWrite.applicationAfter, Option.some_or] at found
      exact stays before rfl (Option.some.inj found).symm
  | updateApplication current change =>
    rw [OnboardingWrite.applicationAfter] at found
    split at found
    · rename_i isIt
      subst isIt
      rcases Option.map_eq_some_iff.mp found with ⟨row, before, rfl⟩
      have typed : change.isTyped current row = true := by
        simpa [OnboardingWrite.isTyped, before] using permitted
      exact pricedFor_update (Table.find?_eq_some_iff.mp before).2
        (holds current.id row before) computed typed confirmed
    · rename_i isOther
      refine stays found ?_ rfl
      cases change with
      | confirmTier => exact if_neg (Ne.symm isOther)
      | _ => rfl
  | _ => exact stays found rfl rfl

end Steps

/-- In a run whose updates and confirmations find the rows that they expect, an application
with a confirmed tier has the types for which its price was made. -/
theorem pricedFor_of_typed {runtime : Billing.Webhooks.Runtime} {store : Store}
    {state : OnboardingState} (noApplications : store.onboarding.applications = Table.empty)
    (reachable : state.Reachable runtime typed store) (id : String) (row : TenantApplication)
    (found : state.shared.store.application? id = some row)
    (confirmed : row.onboardingStage.isConfirmed = true) : PricedFor state.shared row := by
  have initially : AllPricedFor (Shared.initial store) := by
    intro id row found
    rw [Store.application?, Shared.initial, noApplications] at found
    contradiction
  have keeps (action : OnboardingAction) (session : Nat) :
      (action.program runtime).Keeps (fun write => write.body.run) typed AllPricedFor
        (fun _ _ => True) action session :=
    (computes_program runtime action).keeps fun _ _ _ _ holds allowed permitted run =>
      ⟨trivial, allPricedFor_commit holds allowed.1 allowed.2 permitted run⟩
  have allPriced : AllPricedFor state.shared :=
    ReadCommitted.Reachable.keeps OnboardingWrite.guarded (fun _ => trivial)
      (fun _ _ _ _ _ => trivial) keeps initially reachable
  exact allPriced id row found confirmed

namespace Sample

def changesType (id : Nat) (tenantType : Option TenantAccountType)
    (cpoType : Option CpoServiceType) : List (DatabaseEvent OnboardingAction) :=
  [.arrive (.updateOwn "ada" applicationId ⟨tenantType, cpoType, none, none, none, none⟩)] ++
    queries id 1

def typesOf (shared : Shared Store OnboardingWrite) :
    Option (TenantOnboardingStage × TenantAccountType × CpoServiceType × Option CpoServiceType) :=
  (shared.store.application? applicationId).map fun row =>
    (row.onboardingStage, row.tenantType, row.cpoType,
      row.pricingSnapshot.map PricingSnapshot.cpoType)

end Sample

open Sample

/-- The applicant changes the account type, and confirms the tier then. -/
theorem pricedFor_of_typed_individual : ∃ (state : OnboardingState) (row : TenantApplication),
      state.shared.store.application? applicationId = some row ∧
        row.tenantType = .individual ∧ PricedFor state.shared row := by
  have run : (afterFrom store typed
      (creates 0 ++ reviews 1 .approve ++
        changesType 2 (some .individual) none ++ writes 2 ++
          confirmsTier 3)).map (fun state => typesOf state.shared) =
      some (some (.tierConfirmedPendingPayment, .individual, .charge, some .charge)) := by
    decide +kernel
  rcases Option.map_eq_some_iff.mp run with ⟨state, reached, types⟩
  rcases Option.map_eq_some_iff.mp types with ⟨row, found, facts⟩
  simp only [Prod.mk.injEq] at facts
  obtain ⟨isStage, isIndividual, _⟩ := facts
  refine ⟨state, row, found, isIndividual, ?_⟩
  exact pricedFor_of_typed rfl (Transition.reachable_of_foldlM reached) applicationId row found
    (by rw [isStage]; rfl)

/-- The update was read before the confirmation, and is written after it. -/
theorem type_changes_after_price :
    ∃ state : OnboardingState, state.Reachable runtime Conditions.none store ∧
      ∃ row, state.shared.store.application? applicationId = some row ∧
        row.onboardingStage.isConfirmed = true ∧ ¬ PricedFor state.shared row := by
  have run : (afterFrom store Conditions.none
      (creates 0 ++ reviews 1 .approve ++
        changesType 2 none (some .hybrid) ++ confirmsTier 3 ++
          writes 2)).map (fun state => typesOf state.shared) =
      some (some (.tierConfirmedPendingPayment, .company, .hybrid, some .charge)) := by
    decide +kernel
  rcases Option.map_eq_some_iff.mp run with ⟨state, reached, types⟩
  rcases Option.map_eq_some_iff.mp types with ⟨row, found, facts⟩
  simp only [Prod.mk.injEq] at facts
  obtain ⟨isStage, _, isHybrid, isCharge⟩ := facts
  refine ⟨state, Transition.reachable_of_foldlM reached, row, found, by rw [isStage]; rfl, ?_⟩
  rintro ⟨_, snapshot, _, isSnapshot, isFor, _⟩
  rw [isSnapshot, Option.map_some, isFor, isHybrid] at isCharge
  contradiction

end Csms.Applications
