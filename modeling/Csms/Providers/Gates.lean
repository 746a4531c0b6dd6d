import Csms.Providers.Compliance

/-!
# Gates of compliance

The result of `buildCompliance`: what each gate asks for, and when the whole is blocked.  Whether
documents cover a requirement does not depend on their expiry, but a document that has expired
blocks on its own, also when another one has replaced it.
-/

namespace Csms.Providers

open Js

inductive GateState where
  | pass
  | warn
  | blocked
  deriving DecidableEq

inductive ComplianceState where
  | ready
  | warn
  | blocked
  deriving DecidableEq

structure GateStatus where
  gate : ProviderComplianceGate
  (required met criticalRequired criticalMet : Nat)
  (missingCritical missingRecommended : List String)
  status : GateState

structure ComplianceResult where
  gateStatuses : List GateStatus
  (missingCritical missingRecommended : List String)
  (expiringSoon expiredCritical : List ProviderDocument)
  overallState : ComplianceState
  (blockerReasonCodes policyWarnings pendingActivation : List String)

def codesOf (condition : RequirementEval → Bool) (evaluations : List RequirementEval) :
    List String :=
  (evaluations.filter condition).map fun item => item.requirement.requirementCode

def RequirementEval.isMissingCritical (item : RequirementEval) : Bool :=
  !item.satisfied && item.isEnforced

def RequirementEval.isMissingRecommended (item : RequirementEval) : Bool :=
  !item.satisfied && (!item.requirement.isCritical || item.downgradedPreEffective)

def gateStatus (evaluations : List RequirementEval) (gate : ProviderComplianceGate) : GateStatus :=
  let gateItems := evaluations.filter fun item => item.requirement.gate = gate
  let missingCritical := codesOf RequirementEval.isMissingCritical gateItems
  let missingRecommended := codesOf RequirementEval.isMissingRecommended gateItems
  { gate
    required := gateItems.length
    met := gateItems.countP RequirementEval.satisfied
    criticalRequired := gateItems.countP RequirementEval.isEnforced
    criticalMet := gateItems.countP fun item => item.satisfied && item.isEnforced
    missingCritical
    missingRecommended
    status :=
      if 0 < missingCritical.length then .blocked
      else if 0 < missingRecommended.length then .warn
      else .pass }

/-- `EXPIRY_WARNING_DAYS` are thirty. -/
def isExpiringSoon (now : Int) (document : ProviderDocument) : Bool :=
  document.expiryDate.any fun expiry => now ≤ expiry && expiry - now ≤ 30 * 24 * 60 * 60 * 1000

/-- The options of `buildCompliance`, without the documents. -/
structure ComplianceOptions where
  requirements : Requirements
  scope : ProviderRequirementScope
  now : Int
  provider : SwapProvider
  relationship : Option RelationshipProfile
  policy : ProviderCompliancePolicyData

namespace ComplianceOptions

def evaluations (options : ComplianceOptions) (documents : List ProviderDocument) :
    List RequirementEval :=
  activeEvaluations options.requirements options.scope options.now options.provider
    options.relationship documents options.policy

/-- The warnings that `evaluateRequirementApplies` adds. -/
def policyWarnings (options : ComplianceOptions) : List String :=
  let policy := options.policy
  let markets := activeMarkets options.provider options.relationship policy
  if (options.requirements.listForScope options.scope).any fun requirement =>
      requirementMatchesMarket requirement markets &&
        requirement.policyDependency = some "HK_DG_THRESHOLD" && markets.contains .hk &&
        policy.requireConfig && policy.thresholdKwh.isNone
  then ["HK_DG_THRESHOLD_UNCONFIGURED"]
  else []

def buildCompliance (options : ComplianceOptions) (documents : List ProviderDocument) :
    ComplianceResult :=
  let evaluations := options.evaluations documents
  let gateStatuses := gateOrder.map (gateStatus evaluations)
  let missingRecommended := (gateStatuses.flatMap GateStatus.missingRecommended).eraseDups
  let expiringSoon := documents.filter fun document =>
    isDocumentVerified document && isExpiringSoon options.now document
  let blockerReasonCodes := blockerReasonCodes options.requirements options.scope options.now
    options.provider options.relationship documents options.policy
  { gateStatuses
    missingCritical := (gateStatuses.flatMap GateStatus.missingCritical).eraseDups
    missingRecommended
    expiringSoon
    expiredCritical := expiredCritical options.now documents evaluations
    overallState :=
      if 0 < blockerReasonCodes.length then .blocked
      else if 0 < missingRecommended.length || 0 < expiringSoon.length ||
        0 < options.policyWarnings.length then .warn
      else .ready
    blockerReasonCodes
    policyWarnings := options.policyWarnings
    pendingActivation := (codesOf RequirementEval.downgradedPreEffective evaluations).eraseDups }

/-- The models that documents have to cover. -/
def models (options : ComplianceOptions) : List String :=
  options.provider.batteriesSupported.filter (· ≠ "")

end ComplianceOptions

structure GateStatus.IsConsistent (status : GateStatus) : Prop where
  criticalMet : status.criticalMet ≤ status.criticalRequired
  criticalRequired : status.criticalRequired ≤ status.required
  met : status.met ≤ status.required
  missing : status.missingCritical.length = status.criticalRequired - status.criticalMet
  blocked : status.status = .blocked ↔ 0 < status.criticalRequired - status.criticalMet

theorem countP_isEnforced (items : List RequirementEval) :
    items.countP RequirementEval.isEnforced =
      items.countP (fun item => item.satisfied && item.isEnforced) +
        items.countP RequirementEval.isMissingCritical := by
  induction items with
  | nil => rfl
  | cons item rest ih =>
    simp only [List.countP_cons, ih, RequirementEval.isMissingCritical]
    rcases Bool.eq_false_or_eq_true item.satisfied with isSatisfied | isSatisfied
    · simp only [isSatisfied, Bool.true_and, Bool.not_true, Bool.false_and, Bool.false_eq_true,
        if_false]
      omega
    · simp only [isSatisfied, Bool.false_and, Bool.not_false, Bool.true_and,
        Bool.false_eq_true, if_false]
      omega

theorem isConsistent_gateStatus (evaluations : List RequirementEval)
    (gate : ProviderComplianceGate) : (gateStatus evaluations gate).IsConsistent := by
  have split := countP_isEnforced (evaluations.filter fun item => item.requirement.gate = gate)
  have missing : (gateStatus evaluations gate).missingCritical.length =
      (gateStatus evaluations gate).criticalRequired - (gateStatus evaluations gate).criticalMet := by
    simp only [gateStatus, codesOf, List.length_map, ← List.countP_eq_length_filter]
    omega
  refine ⟨?_, List.countP_le_length, List.countP_le_length, missing, ?_⟩
  · simp only [gateStatus]
    omega
  · rw [← missing]
    simp only [gateStatus]
    split
    · exact iff_of_true rfl ‹_›
    · refine iff_of_false ?_ ‹_›
      split <;> decide

def IsCovered (requirement : ProviderRequirementDefinition) (documents : List ProviderDocument)
    (providerModels : List String) : Prop :=
  (∃ document ∈ documents,
      document.status = .approved ∧ documentMatches requirement document = true) ∧
    (requirement.perModel = true → ∀ model ∈ providerModels, ∃ document ∈ documents,
      document.status = .approved ∧ documentMatches requirement document = true ∧
        model ∈ document.coveredModels)

theorem evaluateRequirementSatisfaction_iff {requirement : ProviderRequirementDefinition}
    {documents : List ProviderDocument} {providerModels : List String} :
    evaluateRequirementSatisfaction requirement documents providerModels = true ↔
      IsCovered requirement documents providerModels := by
  simp only [evaluateRequirementSatisfaction, IsCovered, isDocumentVerified, Bool.and_eq_true,
    Bool.or_eq_true, Bool.not_eq_true', List.all_eq_true, List.any_eq_true, List.mem_filter,
    decide_eq_true_eq, List.contains_iff_mem, List.isEmpty_eq_false_iff_exists_mem, and_assoc]
  cases requirement.perModel <;> simp

theorem IsCovered.mono {requirement : ProviderRequirementDefinition}
    {documents more : List ProviderDocument} {providerModels : List String}
    (covered : IsCovered requirement documents providerModels) (subset : documents ⊆ more) :
    IsCovered requirement more providerModels := by
  obtain ⟨⟨document, member, isFor⟩, models⟩ := covered
  refine ⟨⟨document, subset member, isFor⟩, fun perModel model isModel => ?_⟩
  obtain ⟨document, member, covers⟩ := models perModel model isModel
  exact ⟨document, subset member, covers⟩

section Blocked

variable {options : ComplianceOptions} {documents more : List ProviderDocument}
  {evaluations : List RequirementEval} {item : RequirementEval} {document : ProviderDocument}
  {code : String} {now : Int}

theorem satisfied_iff (member : item ∈ options.evaluations documents) :
    item.satisfied = true ↔ IsCovered item.requirement documents options.models := by
  obtain ⟨requirement, applies, rfl⟩ := List.mem_map.mp member
  exact evaluateRequirementSatisfaction_iff

theorem exists_mem_evaluations (more : List ProviderDocument)
    (member : item ∈ options.evaluations documents) :
    ∃ other ∈ options.evaluations more, other.requirement = item.requirement ∧
      other.downgradedPreEffective = item.downgradedPreEffective := by
  obtain ⟨requirement, applies, rfl⟩ := List.mem_map.mp member
  exact ⟨_, List.mem_map_of_mem applies, rfl, rfl⟩

theorem mem_codesOf_gates_iff {condition : RequirementEval → Bool} :
    code ∈ (gateOrder.flatMap fun gate =>
        codesOf condition (evaluations.filter fun item => item.requirement.gate = gate)) ↔
      ∃ item ∈ evaluations, condition item = true ∧ item.requirement.requirementCode = code := by
  simp only [List.mem_flatMap, codesOf, List.mem_map, List.mem_filter, decide_eq_true_eq]
  constructor
  · rintro ⟨_, _, item, ⟨⟨member, _⟩, holds⟩, isCode⟩
    exact ⟨item, member, holds, isCode⟩
  · rintro ⟨item, member, holds, isCode⟩
    refine ⟨item.requirement.gate, ?_, item, ⟨⟨member, rfl⟩, holds⟩, isCode⟩
    cases item.requirement.gate <;> decide

theorem mem_missingCritical_iff :
    code ∈ missingCritical evaluations ↔
      ∃ item ∈ evaluations,
        item.isMissingCritical = true ∧ item.requirement.requirementCode = code := by
  rw [missingCritical, List.mem_eraseDups, ← mem_codesOf_gates_iff]
  simp only [codesOf, List.filter_filter, RequirementEval.isMissingCritical, Bool.and_comm,
    Bool.and_assoc, Bool.and_left_comm]

/-- The document has expired and is for a requirement with the code of one that is enforced. -/
def IsExpiredCritical (now : Int) (evaluations : List RequirementEval)
    (document : ProviderDocument) : Prop :=
  document.status = .approved ∧ (∃ expiry, document.expiryDate = some expiry ∧ expiry < now) ∧
    ∃ item ∈ evaluations, documentMatches item.requirement document = true ∧
      ∃ enforced ∈ evaluations, enforced.isEnforced = true ∧
        enforced.requirement.requirementCode = item.requirement.requirementCode

theorem mem_expiredCritical_iff :
    document ∈ expiredCritical now documents evaluations ↔
      document ∈ documents ∧ IsExpiredCritical now evaluations document := by
  simp only [expiredCritical, IsExpiredCritical, isDocumentVerified, List.mem_filter,
    Bool.and_eq_true, decide_eq_true_eq, Option.any_eq_true, List.any_eq_true,
    List.contains_iff_mem, List.mem_map]
  tauto

theorem isExpiredCritical_congr (more : List ProviderDocument)
    (isExpired : IsExpiredCritical now (options.evaluations documents) document) :
    IsExpiredCritical now (options.evaluations more) document := by
  obtain ⟨approved, expired, item, member, matched, enforced, isMember, isEnforced, sameCode⟩ :=
    isExpired
  obtain ⟨item', member', same, _⟩ := exists_mem_evaluations more member
  obtain ⟨enforced', isMember', same', sameDate⟩ := exists_mem_evaluations more isMember
  refine ⟨approved, expired, item', member', same ▸ matched, enforced', isMember', ?_, ?_⟩
  · rw [RequirementEval.isEnforced, same', sameDate]
    exact isEnforced
  · rw [same', same]
    exact sameCode

theorem overallState_eq_blocked_iff_length :
    (options.buildCompliance documents).overallState = .blocked ↔
      0 < (options.buildCompliance documents).blockerReasonCodes.length := by
  simp only [ComplianceOptions.buildCompliance]
  split
  · exact iff_of_true rfl ‹_›
  · refine iff_of_false ?_ ‹_›
    split <;> decide

theorem overallState_eq_blocked_iff :
    (options.buildCompliance documents).overallState = .blocked ↔
      (∃ item ∈ options.evaluations documents,
        item.isEnforced = true ∧ ¬ IsCovered item.requirement documents options.models) ∨
      ∃ document ∈ documents,
        IsExpiredCritical options.now (options.evaluations documents) document := by
  rw [overallState_eq_blocked_iff_length, List.length_pos_iff_exists_mem]
  simp only [ComplianceOptions.buildCompliance, blockerReasonCodes, List.mem_append, List.mem_map,
    exists_or, mem_expiredCritical_iff, mem_missingCritical_iff, RequirementEval.isMissingCritical,
    Bool.and_eq_true, Bool.not_eq_true']
  refine or_congr ⟨?_, ?_⟩ ⟨?_, ?_⟩
  · rintro ⟨_, _, ⟨item, member, ⟨missing, isEnforced⟩, _⟩, _⟩
    refine ⟨item, member, isEnforced, fun covered => ?_⟩
    rw [(satisfied_iff member).mpr covered] at missing
    contradiction
  · rintro ⟨item, member, isEnforced, notCovered⟩
    have missing := Bool.eq_false_iff.mpr fun satisfied =>
      notCovered ((satisfied_iff member).mp satisfied)
    exact ⟨_, _, ⟨item, member, ⟨missing, isEnforced⟩, rfl⟩, rfl⟩
  · rintro ⟨_, document, isExpired, _⟩
    exact ⟨document, isExpired⟩
  · rintro ⟨document, isExpired⟩
    exact ⟨_, document, isExpired, rfl⟩

/-- A result is blocked exactly when approved documents leave a critical requirement that is
enforced uncovered, or one of them has expired on such a requirement; what else they leave
uncovered is recommended. -/
theorem buildCompliance_reports (options : ComplianceOptions) (documents : List ProviderDocument) :
    ((options.buildCompliance documents).overallState = .blocked ↔
      (∃ item ∈ options.evaluations documents,
        item.isEnforced = true ∧ ¬ IsCovered item.requirement documents options.models) ∨
      ∃ document ∈ documents,
        IsExpiredCritical options.now (options.evaluations documents) document) ∧
      ∀ code, code ∈ (options.buildCompliance documents).missingRecommended ↔
        ∃ item ∈ options.evaluations documents,
          item.isEnforced = false ∧ ¬ IsCovered item.requirement documents options.models ∧
            item.requirement.requirementCode = code := by
  refine ⟨overallState_eq_blocked_iff, fun code => ?_⟩
  simp only [ComplianceOptions.buildCompliance, List.mem_eraseDups, List.flatMap_map]
  refine mem_codesOf_gates_iff.trans (exists_congr fun item => and_congr_right fun member => ?_)
  rw [← satisfied_iff member, ← and_assoc, RequirementEval.isEnforced,
    RequirementEval.isMissingRecommended]
  refine and_congr_left fun _ => ?_
  cases item.satisfied <;> cases item.requirement.isCritical <;>
    cases item.downgradedPreEffective <;> decide

theorem exists_blocked_iff :
    (∃ status ∈ (options.buildCompliance documents).gateStatuses, status.status = .blocked) ↔
      ∃ code, code ∈ missingCritical (options.evaluations documents) := by
  have blocked (gate : ProviderComplianceGate) :
      (gateStatus (options.evaluations documents) gate).status = .blocked ↔
        ∃ code, code ∈ (gateStatus (options.evaluations documents) gate).missingCritical := by
    have consistent := isConsistent_gateStatus (options.evaluations documents) gate
    rw [consistent.blocked, ← consistent.missing, List.length_pos_iff_exists_mem]
  simp only [mem_missingCritical_iff, ← mem_codesOf_gates_iff, List.mem_flatMap,
    ComplianceOptions.buildCompliance]
  constructor
  · rintro ⟨_, member, isBlocked⟩
    obtain ⟨gate, isGate, rfl⟩ := List.mem_map.mp member
    obtain ⟨code, isCode⟩ := (blocked gate).mp isBlocked
    exact ⟨code, gate, isGate, isCode⟩
  · rintro ⟨code, gate, isGate, isCode⟩
    exact ⟨_, List.mem_map_of_mem isGate, (blocked gate).mpr ⟨code, isCode⟩⟩

/-- The counts of each gate agree, and a result is blocked by a gate or an expired document. -/
structure ComplianceResult.IsConsistent (result : ComplianceResult) : Prop where
  gates : ∀ status ∈ result.gateStatuses, status.IsConsistent
  blocked : result.overallState = .blocked ↔
    (∃ status ∈ result.gateStatuses, status.status = .blocked) ∨ result.expiredCritical ≠ []

theorem isConsistent_buildCompliance (options : ComplianceOptions)
    (documents : List ProviderDocument) : (options.buildCompliance documents).IsConsistent := by
  constructor
  · intro status member
    obtain ⟨gate, _, rfl⟩ := List.mem_map.mp member
    exact isConsistent_gateStatus _ gate
  · rw [overallState_eq_blocked_iff_length, exists_blocked_iff, ← List.length_pos_iff_exists_mem,
      ← List.length_pos_iff]
    simp only [ComplianceOptions.buildCompliance, blockerReasonCodes, List.length_append,
      List.length_map, ComplianceOptions.evaluations]
    omega

def isUnexpired (now : Int) (document : ProviderDocument) : Bool :=
  document.expiryDate.all (now ≤ ·)

/-- A further document that has not expired blocks nothing and takes no requirement back; and the
counts of every result agree. -/
theorem buildCompliance_laws {before after : List ProviderDocument}
    (unexpired : isUnexpired options.now document = true) :
    ((options.buildCompliance (before ++ after)).overallState ≠ .blocked →
        (options.buildCompliance (before ++ document :: after)).overallState ≠ .blocked) ∧
      (∀ item ∈ options.evaluations (before ++ after), item.satisfied = true →
        item ∈ options.evaluations (before ++ document :: after)) ∧
      ∀ documents, (options.buildCompliance documents).IsConsistent := by
  have subset : before ++ after ⊆ before ++ document :: after := fun _ member =>
    List.mem_append.mpr ((List.mem_append.mp member).imp_right (List.mem_cons_of_mem _))
  refine ⟨fun free blocked => free ?_, ?_, isConsistent_buildCompliance options⟩
  · rw [overallState_eq_blocked_iff] at blocked ⊢
    refine blocked.imp ?_ ?_
    · rintro ⟨item, member, isEnforced, notCovered⟩
      obtain ⟨other, isOther, same, sameDate⟩ := exists_mem_evaluations (before ++ after) member
      refine ⟨other, isOther, ?_, fun covered => notCovered (same ▸ covered.mono subset)⟩
      rw [RequirementEval.isEnforced, same, sameDate]
      exact isEnforced
    · rintro ⟨expired, member, isExpired⟩
      refine ⟨expired, ?_, isExpiredCritical_congr _ isExpired⟩
      rcases List.mem_append.mp member with earlier | later
      · exact List.mem_append_left _ earlier
      · rcases List.mem_cons.mp later with rfl | later
        · obtain ⟨expiry, isExpiry, before⟩ := isExpired.2.1
          rw [isUnexpired, isExpiry] at unexpired
          exact absurd before (not_lt.mpr (of_decide_eq_true unexpired))
        · exact List.mem_append_right _ later
  · intro item member satisfied
    obtain ⟨other, isOther, same, sameDate⟩ :=
      exists_mem_evaluations (before ++ document :: after) member
    have covered := ((satisfied_iff member).mp satisfied).mono subset
    have isSatisfied := (satisfied_iff isOther).mpr (same ▸ covered)
    have sameItem : other = item := by
      cases other
      cases item
      simp_all
    exact sameItem ▸ isOther

end Blocked

namespace Sample

def insurance : ProviderRequirementDefinition where
  requirementCode := "INSURANCE"
  gate := .kyb
  isCritical := true
  acceptedDocTypes := [.insurance]
  conditions := []
  markets := [none]
  effectiveFrom := none
  perModel := false
  policyDependency := none
  roadmapAllowedBeforeEffective := none

def insured : ComplianceOptions where
  requirements := ⟨fun _ => [insurance], fun _ => .nan, fun _ => ""⟩
  scope := .provider
  now := 100
  provider := ⟨"maker", .approved, "Universal", [], [], "", [], [], .null⟩
  relationship := none
  policy := defaultPolicy

def insuredUntil (expiry : Int) : ProviderDocument :=
  ⟨"policy", some "maker", none, none, .insurance, none, some expiry, [], .approved⟩

end Sample

open Sample

theorem buildCompliance_laws_renewed :
    (insured.buildCompliance [insuredUntil 200, insuredUntil 300]).overallState ≠ .blocked := by
  have laws := @buildCompliance_laws insured (insuredUntil 200) [] [insuredUntil 300] rfl
  exact laws.1 (by decide)

theorem renewed_document_stays_blocked :
    ¬ ((insured.buildCompliance [insuredUntil 50, insuredUntil 200]).overallState = .blocked ↔
      ∃ item ∈ insured.evaluations [insuredUntil 50, insuredUntil 200], item.isEnforced = true ∧
        ¬ IsCovered item.requirement
          ([insuredUntil 50, insuredUntil 200].filter (isUnexpired insured.now)) insured.models) := by
  intro claimed
  obtain ⟨item, member, _, notCovered⟩ := claimed.mp rfl
  cases List.mem_singleton.mp member
  exact notCovered (evaluateRequirementSatisfaction_iff.mp rfl)

end Csms.Providers
