import Csms.EnergyManagement.Logic.Allocations

/-!
# The effective limit and the phases

A plan reduces three phases to one scalar limit, the least *positive* phase.  A
phase whose ceiling is zero is left out of that minimum, whether it is not
configured or its headroom is used up.  This file states when the scalar limit
respects the headroom of every configured phase all the same.
-/

namespace Csms.EnergyManagement

open Js

theorem resolveScalarLimit_nonneg (value : PhaseTriple Int) : 0 ≤ resolveScalarLimit value := by
  rcases value with ⟨first, second, third⟩
  by_cases firstPos : 0 < first <;> by_cases secondPos : 0 < second <;>
    by_cases thirdPos : 0 < third <;>
    simp [resolveScalarLimit, firstPos, secondPos, thirdPos] <;> omega

variable {value : PhaseTriple Int} {phase : Phase}

theorem resolveScalarLimit_le (positive : 0 < value.get phase) :
    resolveScalarLimit value ≤ value.get phase := by
  rcases value with ⟨first, second, third⟩
  by_cases firstPos : 0 < first <;> by_cases secondPos : 0 < second <;>
    by_cases thirdPos : 0 < third <;> cases phase <;>
    simp only [PhaseTriple.get] at positive ⊢ <;>
    simp [resolveScalarLimit, firstPos, secondPos, thirdPos] <;> omega

theorem exists_phase_of_resolveScalarLimit_pos (positive : 0 < resolveScalarLimit value) :
    ∃ phase, value.get phase = resolveScalarLimit value := by
  rcases value with ⟨first, second, third⟩
  have someEqual : resolveScalarLimit ⟨first, second, third⟩ = first ∨
      resolveScalarLimit ⟨first, second, third⟩ = second ∨
      resolveScalarLimit ⟨first, second, third⟩ = third := by
    revert positive
    by_cases firstPos : 0 < first <;> by_cases secondPos : 0 < second <;>
      by_cases thirdPos : 0 < third <;>
      simp [resolveScalarLimit, firstPos, secondPos, thirdPos] <;> omega
  rcases someEqual with equal | equal | equal
  · exact ⟨.phase1, equal.symm⟩
  · exact ⟨.phase2, equal.symm⟩
  · exact ⟨.phase3, equal.symm⟩

theorem resolveScalarLimit_eq_zero_iff :
    resolveScalarLimit value = 0 ↔ ∀ phase, value.get phase ≤ 0 := by
  constructor
  · intro isZero phase
    by_contra positive
    have phasePos : 0 < value.get phase := not_le.mp positive
    rcases (resolveScalarLimit_nonneg value).lt_or_eq with limitPos | limitZero
    · omega
    · -- the least positive phase is positive
      obtain ⟨first, second, third⟩ := value
      revert isZero phasePos
      by_cases firstPos : 0 < first <;> by_cases secondPos : 0 < second <;>
        by_cases thirdPos : 0 < third <;> cases phase <;>
        simp only [PhaseTriple.get] <;>
        simp [resolveScalarLimit, firstPos, secondPos, thirdPos] <;> omega
  · intro nonpositive
    by_contra nonzero
    have limitPos : 0 < resolveScalarLimit value :=
      lt_of_le_of_ne (resolveScalarLimit_nonneg value) (Ne.symm nonzero)
    obtain ⟨phase, equal⟩ := exists_phase_of_resolveScalarLimit_pos limitPos
    have := nonpositive phase
    omega

section

variable (input : EnergyAllocationPlanInput) (phase : Phase)

theorem planFailSafeCeiling_nonneg : 0 ≤ (planFailSafeCeiling input).get phase := by
  simp [planFailSafeCeiling]

theorem planHeadroom_nonneg : 0 ≤ (planHeadroom input).get phase := by
  simp [planHeadroom]

theorem planFailSafeCeiling_le_planHeadroom :
    (planFailSafeCeiling input).get phase ≤ (planHeadroom input).get phase := by
  have headroomNonneg := planHeadroom_nonneg input phase
  simp only [planFailSafeCeiling, get_clampPhaseTriple, get_minPhaseTriple]
  omega

end

/-- The effective limit and the targets of a plan respect the headroom of one
phase. -/
structure RespectsPhase (plan : EnergyAllocationPlan) (phase : Phase) : Prop where
  limit : plan.effectiveLimitAmps ≤ plan.headroomAmps.get phase
  targets : (plan.allocations.map (·.targetAmps)).sum ≤ plan.headroomAmps.get phase
  exhausted : plan.headroomAmps.get phase = 0 →
    ∀ allocation ∈ plan.allocations, allocation.targetAmps = 0

def RespectsConfiguredPhases (input : EnergyAllocationPlanInput) (plan : EnergyAllocationPlan) :
    Prop :=
  ∀ phase, 0 < (normalizePhaseTriple input.siteLimitAmps).get phase → RespectsPhase plan phase

/-- Every configured phase that the scalar limit leaves out, because its ceiling
is zero, is covered by something else: an override cap within its headroom, the
lack of any phase with a positive ceiling, or a phase with a positive ceiling
within its headroom. -/
def DroppedPhasesCovered (input : EnergyAllocationPlanInput) : Prop :=
  ∀ phase, 0 < (normalizePhaseTriple input.siteLimitAmps).get phase →
    (planFailSafeCeiling input).get phase = 0 →
      (∃ cap, resolveOverrideCap input.override input.nowIso = some cap ∧
        cap ≤ (planHeadroom input).get phase) ∨
      (∀ other, (planFailSafeCeiling input).get other = 0) ∨
      ∃ other, 0 < (planFailSafeCeiling input).get other ∧
        (planFailSafeCeiling input).get other ≤ (planHeadroom input).get phase

theorem limitUnderCap_le_iff {baseLimitAmps bound : Int} {overrideCapAmps : Option Int}
    (boundNonneg : 0 ≤ bound) : limitUnderCap baseLimitAmps overrideCapAmps ≤ bound ↔
      baseLimitAmps ≤ bound ∨ ∃ cap, overrideCapAmps = some cap ∧ cap ≤ bound := by
  cases overrideCapAmps with
  | none | some => simp [limitUnderCap, boundNonneg]

/-- A limit within the headroom is all a phase asks for: the targets follow. -/
theorem respectsPhase_iff (engine : EnergyEngine) (input : EnergyAllocationPlanInput)
    (phase : Phase) : RespectsPhase (buildEnergyAllocationPlan engine input) phase ↔
      (buildEnergyAllocationPlan engine input).effectiveLimitAmps ≤
        (planHeadroom input).get phase := by
  constructor
  · exact RespectsPhase.limit
  · intro limitLe
    have sumLe := (plan_sum_targetAmps_le engine input).trans limitLe
    refine ⟨limitLe, sumLe, ?_⟩
    intro exhausted allocation member
    have headroomZero : (planHeadroom input).get phase = 0 := exhausted
    have allNonneg : ∀ target ∈
        (buildEnergyAllocationPlan engine input).allocations.map (·.targetAmps), 0 ≤ target := by
      intro target targetMem
      obtain ⟨other, otherMem, rfl⟩ := List.mem_map.mp targetMem
      exact plan_targetAmps_nonneg engine input otherMem
    have targetLe := List.single_le_sum allNonneg _ (List.mem_map_of_mem member)
    have targetNonneg := plan_targetAmps_nonneg engine input member
    omega

/-- For every input: the plan respects every configured phase exactly when the
phases dropped from the scalar limit are covered. -/
theorem respectsConfiguredPhases_iff (engine : EnergyEngine) (input : EnergyAllocationPlanInput) :
    RespectsConfiguredPhases input (buildEnergyAllocationPlan engine input) ↔
      DroppedPhasesCovered input := by
  have limitEq : (buildEnergyAllocationPlan engine input).effectiveLimitAmps =
      limitUnderCap (resolveScalarLimit (planFailSafeCeiling input))
        (resolveOverrideCap input.override input.nowIso) := rfl
  refine forall_congr' fun phase => forall_congr' fun _ => ?_
  rw [respectsPhase_iff, limitEq, limitUnderCap_le_iff (planHeadroom_nonneg input phase)]
  constructor
  · rintro (baseLe | capLe) dropped
    · by_cases baseZero : resolveScalarLimit (planFailSafeCeiling input) = 0
      · refine Or.inr (Or.inl fun other => ?_)
        exact le_antisymm (resolveScalarLimit_eq_zero_iff.mp baseZero other)
          (planFailSafeCeiling_nonneg input other)
      · have basePos := lt_of_le_of_ne (resolveScalarLimit_nonneg _) (Ne.symm baseZero)
        obtain ⟨other, equal⟩ := exists_phase_of_resolveScalarLimit_pos basePos
        exact Or.inr (Or.inr ⟨other, by rwa [equal], by rwa [equal]⟩)
    · exact Or.inl capLe
  · intro covered
    by_cases dropped : (planFailSafeCeiling input).get phase = 0
    · rcases covered dropped with capLe | allZero | ⟨other, otherPos, otherLe⟩
      · exact Or.inr capLe
      · have baseZero : resolveScalarLimit (planFailSafeCeiling input) = 0 :=
          resolveScalarLimit_eq_zero_iff.mpr fun other => (allZero other).le
        rw [baseZero]
        exact Or.inl (planHeadroom_nonneg input phase)
      · exact Or.inl ((resolveScalarLimit_le otherPos).trans otherLe)
    · have phasePos := lt_of_le_of_ne (planFailSafeCeiling_nonneg input phase) (Ne.symm dropped)
      exact Or.inl ((resolveScalarLimit_le phasePos).trans
        (planFailSafeCeiling_le_planHeadroom input phase))

/-- Non-EV load uses up phase 1 while the other phases have 32 A left. -/
def exhaustedPhase : EnergyAllocationPlanInput :=
  { twoBands with
    siteLimitAmps := ⟨.ofInt 32, .ofInt 32, .ofInt 32⟩
    nonEvLoadAmps := ⟨.ofInt 32, .ofInt 0, .ofInt 0⟩
    failSafeAmps := ⟨.ofInt 32, .ofInt 32, .ofInt 32⟩ }

/-- An exhausted phase does not stop charging: the plan for `exhaustedPhase`
still hands out 32 A. -/
theorem exhaustedPhase_not_respected :
    (normalizePhaseTriple exhaustedPhase.siteLimitAmps).get .phase1 = 32 ∧
      (buildEnergyAllocationPlan plainEngine exhaustedPhase).headroomAmps.get .phase1 = 0 ∧
      (buildEnergyAllocationPlan plainEngine exhaustedPhase).effectiveLimitAmps = 32 ∧
      ((buildEnergyAllocationPlan plainEngine exhaustedPhase).allocations.map
        (·.targetAmps)).sum = 32 ∧ ¬ RespectsConfiguredPhases exhaustedPhase
        (buildEnergyAllocationPlan plainEngine exhaustedPhase) := by
  have headroomEq :
      (buildEnergyAllocationPlan plainEngine exhaustedPhase).headroomAmps.get .phase1 = 0 := by
    decide +kernel
  have limitEq :
      (buildEnergyAllocationPlan plainEngine exhaustedPhase).effectiveLimitAmps = 32 := by
    decide +kernel
  refine ⟨by decide +kernel, headroomEq, limitEq, by decide +kernel, ?_⟩
  intro respected
  have limitLe := (respected .phase1 (by decide +kernel)).limit
  rw [headroomEq, limitEq] at limitLe
  exact absurd limitLe (by decide)

def Phase.all : List Phase :=
  [.phase1, .phase2, .phase3]

theorem Phase.mem_all (phase : Phase) : phase ∈ Phase.all := by
  cases phase <;> decide

/-- The headroom of the phases with a configured site limit. -/
def configuredHeadroom (input : EnergyAllocationPlanInput) : List Int :=
  (Phase.all.filter fun phase => 0 < (normalizePhaseTriple input.siteLimitAmps).get phase).map
    (planHeadroom input).get

/-- The least headroom over the configured phases, zero when none is configured. -/
def leastHeadroom (input : EnergyAllocationPlanInput) : Int :=
  (configuredHeadroom input).min?.getD 0

/-- While telemetry is fresh, nothing but the headroom and an override bounds the limit. -/
def FollowsHeadroom (input : EnergyAllocationPlanInput) (plan : EnergyAllocationPlan) : Prop :=
  plan.isTelemetryFailSafe = false →
    plan.effectiveLimitAmps =
      limitUnderCap (leastHeadroom input) (resolveOverrideCap input.override input.nowIso)

/-- The phase has both headroom and a fail-safe limit. -/
def IsServed (input : EnergyAllocationPlanInput) (phase : Phase) : Prop :=
  0 < (planHeadroom input).get phase ∧ 0 < (normalizePhaseTriple input.failSafeAmps).get phase

/-- The fail-safe limits and the phases without headroom leave the limit alone: it is all used
up; or the fail-safe limits of the served phases reach down to the least headroom and no lower;
or an override asks for no more than all of them. -/
def FailSafeAside (input : EnergyAllocationPlanInput) : Prop :=
  let failSafe := normalizePhaseTriple input.failSafeAmps
  (leastHeadroom input = 0 ∧ ∀ phase, ¬IsServed input phase) ∨
    ((∃ phase, IsServed input phase ∧
        min ((planHeadroom input).get phase) (failSafe.get phase) = leastHeadroom input) ∧
      ∀ phase, IsServed input phase → leastHeadroom input ≤ failSafe.get phase) ∨
    ∃ cap, resolveOverrideCap input.override input.nowIso = some cap ∧
      cap ≤ leastHeadroom input ∧
        (cap = 0 ∨ ((∃ phase, IsServed input phase) ∧
          ∀ phase, IsServed input phase → cap ≤ failSafe.get phase))

theorem configured_of_headroom {input : EnergyAllocationPlanInput}
    (hasHeadroom : 0 < (planHeadroom input).get phase) :
    0 < (normalizePhaseTriple input.siteLimitAmps).get phase := by
  have loadNonneg := normalizePhaseTriple_nonneg input.nonEvLoadAmps phase
  have bufferNonneg := normalizePhaseTriple_nonneg input.dynamicBufferAmps phase
  simp only [planHeadroom, get_subtractPhaseTriple] at hasHeadroom
  omega

theorem leastHeadroom_nonneg (input : EnergyAllocationPlanInput) : 0 ≤ leastHeadroom input := by
  rw [leastHeadroom]
  cases least : (configuredHeadroom input).min? with
  | none => exact le_rfl
  | some value =>
    obtain ⟨phase, _, isValue⟩ := List.mem_map.mp (List.min?_eq_some_iff.mp least).1
    exact isValue ▸ planHeadroom_nonneg input phase

theorem leastHeadroom_le {input : EnergyAllocationPlanInput}
    (hasHeadroom : 0 < (planHeadroom input).get phase) :
    leastHeadroom input ≤ (planHeadroom input).get phase := by
  have member : (planHeadroom input).get phase ∈ configuredHeadroom input :=
    List.mem_map_of_mem (List.mem_filter.mpr
      ⟨phase.mem_all, decide_eq_true (configured_of_headroom hasHeadroom)⟩)
  rw [leastHeadroom]
  cases least : (configuredHeadroom input).min? with
  | none => rw [List.min?_eq_none_iff.mp least] at member; contradiction
  | some value => exact (List.min?_eq_some_iff.mp least).2 _ member

theorem planFailSafeCeiling_pos_iff {input : EnergyAllocationPlanInput} :
    0 < (planFailSafeCeiling input).get phase ↔ IsServed input phase := by
  simp [planFailSafeCeiling, IsServed]

theorem planFailSafeCeiling_of_isServed {input : EnergyAllocationPlanInput}
    (served : IsServed input phase) : (planFailSafeCeiling input).get phase =
      min ((planHeadroom input).get phase)
        ((normalizePhaseTriple input.failSafeAmps).get phase) := by
  obtain ⟨headroomPos, failSafePos⟩ := served
  simp only [planFailSafeCeiling, get_clampPhaseTriple, get_minPhaseTriple]
  omega

theorem le_resolveScalarLimit_iff {bound : Int} (positive : 0 < bound) :
    bound ≤ resolveScalarLimit value ↔
      (∃ phase, 0 < value.get phase) ∧ ∀ phase, 0 < value.get phase → bound ≤ value.get phase := by
  constructor
  · intro within
    obtain ⟨phase, isLimit⟩ := exists_phase_of_resolveScalarLimit_pos (positive.trans_le within)
    exact ⟨⟨phase, by omega⟩, fun other otherPos => within.trans (resolveScalarLimit_le otherPos)⟩
  · rintro ⟨⟨phase, phasePos⟩, bounded⟩
    have limitPos : 0 < resolveScalarLimit value := by
      refine lt_of_le_of_ne (resolveScalarLimit_nonneg value) fun isZero => ?_
      exact absurd (resolveScalarLimit_eq_zero_iff.mp isZero.symm phase) (not_le.mpr phasePos)
    obtain ⟨least, isLimit⟩ := exists_phase_of_resolveScalarLimit_pos limitPos
    exact isLimit ▸ bounded least (isLimit ▸ limitPos)

/-- What a cap makes of two limits is the same exactly when they are, or it is below both. -/
theorem limitUnderCap_eq_iff {left right : Int} (leftNonneg : 0 ≤ left) (rightNonneg : 0 ≤ right)
    {overrideCapAmps : Option Int} (capNonneg : ∀ cap, overrideCapAmps = some cap → 0 ≤ cap) :
    limitUnderCap left overrideCapAmps = limitUnderCap right overrideCapAmps ↔
      left = right ∨ ∃ cap, overrideCapAmps = some cap ∧ cap ≤ right ∧ cap ≤ left := by
  cases overrideCapAmps with
  | none => simp [limitUnderCap, leftNonneg, rightNonneg]
  | some cap =>
    have := capNonneg cap rfl
    simp only [limitUnderCap, Option.getD_some, Option.some.injEq, exists_eq_left']
    omega

section

variable {input : EnergyAllocationPlanInput}

/-- The base limit reaches a bound within the headroom of the served phases exactly when their
fail-safe limits do. -/
theorem le_baseLimit_iff {bound : Int} (positive : 0 < bound)
    (within : bound ≤ leastHeadroom input) :
    bound ≤ resolveScalarLimit (planFailSafeCeiling input) ↔
      (∃ phase, IsServed input phase) ∧ ∀ phase, IsServed input phase →
        bound ≤ (normalizePhaseTriple input.failSafeAmps).get phase := by
  rw [le_resolveScalarLimit_iff positive]
  simp only [planFailSafeCeiling_pos_iff]
  refine and_congr_right fun _ => forall₂_congr fun phase served => ?_
  have := within.trans (leastHeadroom_le served.1)
  rw [planFailSafeCeiling_of_isServed served]
  omega

theorem baseLimit_eq_leastHeadroom_iff :
    resolveScalarLimit (planFailSafeCeiling input) = leastHeadroom input ↔
      (leastHeadroom input = 0 ∧ ∀ phase, ¬IsServed input phase) ∨ ((∃ phase, IsServed input phase ∧
            min ((planHeadroom input).get phase)
              ((normalizePhaseTriple input.failSafeAmps).get phase) = leastHeadroom input) ∧
          ∀ phase, IsServed input phase →
            leastHeadroom input ≤ (normalizePhaseTriple input.failSafeAmps).get phase) := by
  have noneServed : resolveScalarLimit (planFailSafeCeiling input) = 0 ↔
      ∀ phase, ¬IsServed input phase := by
    simp only [resolveScalarLimit_eq_zero_iff, ← planFailSafeCeiling_pos_iff, not_lt]
  rcases (leastHeadroom_nonneg input).eq_or_lt with isZero | positive
  · constructor
    · intro same
      exact Or.inl ⟨isZero.symm, noneServed.mp (same.trans isZero.symm)⟩
    · rintro (⟨_, unserved⟩ | ⟨⟨phase, ⟨headroomPos, failSafePos⟩, isLeast⟩, _⟩)
      · exact (noneServed.mpr unserved).trans isZero
      · omega
  · constructor
    · intro same
      obtain ⟨_, within⟩ := (le_baseLimit_iff positive le_rfl).mp same.ge
      obtain ⟨phase, isLimit⟩ := exists_phase_of_resolveScalarLimit_pos (same ▸ positive)
      have served : IsServed input phase :=
        planFailSafeCeiling_pos_iff.mp (isLimit ▸ same ▸ positive)
      exact Or.inr ⟨⟨phase, served,
        (planFailSafeCeiling_of_isServed served).symm.trans (isLimit.trans same)⟩, within⟩
    · rintro (⟨isZero, _⟩ | ⟨⟨phase, served, isLeast⟩, within⟩)
      · omega
      · refine le_antisymm ?_ ((le_baseLimit_iff positive le_rfl).mpr ⟨⟨phase, served⟩, within⟩)
        rw [← isLeast, ← planFailSafeCeiling_of_isServed served]
        exact resolveScalarLimit_le (planFailSafeCeiling_pos_iff.mpr served)

/-- For every input: while telemetry is fresh the limit follows the headroom exactly when the
fail-safe limits and the phases without headroom leave it alone. -/
theorem followsHeadroom_iff (engine : EnergyEngine) :
    FollowsHeadroom input (buildEnergyAllocationPlan engine input) ↔
      ((buildEnergyAllocationPlan engine input).isTelemetryFailSafe = false →
        FailSafeAside input) := by
  refine imp_congr_right fun _ => ?_
  change limitUnderCap (resolveScalarLimit (planFailSafeCeiling input)) _ = _ ↔ _
  rw [limitUnderCap_eq_iff (resolveScalarLimit_nonneg _) (leastHeadroom_nonneg input)
    fun cap => nonneg_of_resolveOverrideCap, baseLimit_eq_leastHeadroom_iff, or_assoc]
  refine or_congr_right (or_congr_right (exists_congr fun cap => and_congr_right fun isCap =>
    and_congr_right fun within => ?_))
  rcases (nonneg_of_resolveOverrideCap isCap).eq_or_lt with isZero | positive
  · exact iff_of_true (isZero ▸ resolveScalarLimit_nonneg _) (Or.inl isZero.symm)
  · rw [le_baseLimit_iff positive within]
    exact (or_iff_right positive.ne').symm

end

/-- Nothing is drawn from 32 A a phase, and the fail-safe limit is 6 A. -/
def lowFailSafe : EnergyAllocationPlanInput :=
  { twoBands with
    siteLimitAmps := ⟨.ofInt 32, .ofInt 32, .ofInt 32⟩
    nonEvLoadAmps := ⟨.ofInt 0, .ofInt 0, .ofInt 0⟩
    failSafeAmps := ⟨.ofInt 6, .ofInt 6, .ofInt 6⟩
    telemetry := some ⟨some (toISOString 0), some (.ofInt 5), none⟩ }

/-- Fresh telemetry does not lift the fail-safe limit: 6 A of 32 A are handed out. -/
theorem lowFailSafe_not_followsHeadroom :
    (buildEnergyAllocationPlan plainEngine lowFailSafe).isTelemetryFailSafe = false ∧
      (buildEnergyAllocationPlan plainEngine lowFailSafe).effectiveLimitAmps = 6 ∧
      leastHeadroom lowFailSafe = 32 ∧
      ¬FollowsHeadroom lowFailSafe (buildEnergyAllocationPlan plainEngine lowFailSafe) := by
  have isFresh :
      (buildEnergyAllocationPlan plainEngine lowFailSafe).isTelemetryFailSafe = false := by
    decide +kernel
  have isLow : (buildEnergyAllocationPlan plainEngine lowFailSafe).effectiveLimitAmps = 6 := by
    decide +kernel
  refine ⟨isFresh, isLow, by decide +kernel, fun follows => ?_⟩
  have wanted := follows isFresh
  rw [isLow] at wanted
  exact absurd wanted (by decide +kernel)

end Csms.EnergyManagement
