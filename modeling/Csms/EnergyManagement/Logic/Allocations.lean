import Csms.EnergyManagement.Logic.Plan

/-!
# What a plan's allocations promise

The allocations of a plan list the active members once each, and their targets
are exactly the feasible raw targets of the allocation method, except that a
disabled group gets zero everywhere.
-/

namespace Csms.EnergyManagement

open Allocation Js

theorem rawTargets_feasible (method : EnergyAllocationMethod)
    (members : List EnergyAllocationMemberInput) {effectiveLimitAmps : Int}
    (limitNonneg : 0 ≤ effectiveLimitAmps) : Feasible (memberCaps members) effectiveLimitAmps
      (rawTargets method members effectiveLimitAmps) := by
  cases method with
  | equal => exact allocateEqual_feasible members limitNonneg
  | priority => exact allocatePriority_feasible members limitNonneg

theorem allocateMember_targetAmps (input : AllocateMembersInput)
    {member : EnergyAllocationMemberInput} {rawTarget : Int}
    (admissible : Admissible (memberCap member) rawTarget) :
    (allocateMember input member rawTarget).targetAmps =
      if input.controlMode = .disabled then 0 else rawTarget := by
  simp only [allocateMember, clampToMemberLimit_eq_self admissible, max_eq_right admissible.1]

/-- The command for a limit is due: the limit changed, the last command is too
long ago, or no decision was applied yet. -/
def isDue (input : AllocateMembersInput) (member : EnergyAllocationMemberInput)
    (targetAmps : Int) : Bool :=
  ampsChanged input.deadbandAmps (normalizeOptionalInt member.lastAppliedAmps) targetAmps ||
    hasRefreshWindowExpired member.lastCommandAt input.nowIso input.commandRefreshSec ||
      member.lastAppliedDecisionHash.isNone

theorem allocateMember_shouldSendCommand (input : AllocateMembersInput)
    {member : EnergyAllocationMemberInput} {rawTarget : Int} (active : isActiveMember member = true)
    (admissible : Admissible (memberCap member) rawTarget) :
    (allocateMember input member rawTarget).shouldSendCommand =
      (input.controlMode = .active && isDue input member rawTarget) := by
  simp only [isActiveMember, Bool.and_eq_true] at active
  simp only [allocateMember, active, clampToMemberLimit_eq_self admissible, isDue]
  cases input.controlMode with
  | observeOnly => rfl
  | active => simp
  | disabled => rfl

/-- Each sorted member with its raw target. -/
theorem allocateMembers_eq_zipWith (engine : EnergyEngine) (input : AllocateMembersInput)
    (limitNonneg : 0 ≤ input.effectiveLimitAmps) : allocateMembers engine input =
      List.zipWith (allocateMember input) (sortMembers engine input.activeMembers)
        (rawTargets input.allocationMethod (sortMembers engine input.activeMembers)
          input.effectiveLimitAmps) := by
  have lengthEq := (rawTargets_feasible input.allocationMethod
    (sortMembers engine input.activeMembers) limitNonneg).length_eq
  rw [memberCaps, List.length_map] at lengthEq
  apply List.ext_getElem
  · simp [allocateMembers, lengthEq]
  · intro index inAllocations inZip
    have inTargets : index < (rawTargets input.allocationMethod
        (sortMembers engine input.activeMembers) input.effectiveLimitAmps).length := by
      simp only [List.length_zipWith] at inZip
      omega
    simp [allocateMembers, inTargets]

/-- Every allocation belongs to an active member and has an admissible target
for it. -/
theorem exists_member_of_mem_allocateMembers {engine : EnergyEngine}
    {input : AllocateMembersInput} (limitNonneg : 0 ≤ input.effectiveLimitAmps)
    {allocation : EnergyAllocationMemberPlan} (member : allocation ∈ allocateMembers engine input) :
    ∃ claimant ∈ input.activeMembers, ∃ rawTarget, Admissible (memberCap claimant) rawTarget ∧
        allocation = allocateMember input claimant rawTarget := by
  rw [allocateMembers_eq_zipWith engine input limitNonneg, List.mem_iff_getElem] at member
  obtain ⟨index, inZip, rfl⟩ := member
  have feasible := rawTargets_feasible input.allocationMethod
    (sortMembers engine input.activeMembers) limitNonneg
  simp only [List.length_zipWith, lt_inf_iff] at inZip
  have inCaps : index < (memberCaps (sortMembers engine input.activeMembers)).length := by
    simpa [memberCaps] using inZip.1
  have admissible := admissible_getElem feasible.admissible inCaps
  rw [List.getElem?_eq_getElem inZip.2, Option.getD_some] at admissible
  refine ⟨(sortMembers engine input.activeMembers)[index], ?_, _, ?_, List.getElem_zipWith⟩
  · exact (List.perm_insertionSort _ _).mem_iff.mp (List.getElem_mem inZip.1)
  · simpa [memberCaps] using admissible

theorem zipWith_allocateMember_targets (input : AllocateMembersInput)
    {members : List EnergyAllocationMemberInput} {targets : List Int}
    (admissible : List.Forall₂ (fun member share => Admissible (memberCap member) share)
      members targets) :
    (List.zipWith (allocateMember input) members targets).map (·.targetAmps) =
      targets.map fun target => if input.controlMode = .disabled then 0 else target := by
  induction admissible with
  | nil => rfl
  | cons head _ ih =>
    simp only [List.zipWith_cons_cons, List.map_cons, allocateMember_targetAmps input head]
    exact congrArg _ ih

section

variable (engine : EnergyEngine) (input : AllocateMembersInput)
include input

/-- The targets are the raw targets, or zero throughout when the group is
disabled. -/
theorem allocateMembers_targets (limitNonneg : 0 ≤ input.effectiveLimitAmps) :
    (allocateMembers engine input).map (·.targetAmps) =
      (rawTargets input.allocationMethod (sortMembers engine input.activeMembers)
        input.effectiveLimitAmps).map
          fun target => if input.controlMode = .disabled then 0 else target := by
  have admissible := (rawTargets_feasible input.allocationMethod
    (sortMembers engine input.activeMembers) limitNonneg).admissible
  rw [memberCaps, List.forall₂_map_left_iff] at admissible
  rw [allocateMembers_eq_zipWith engine input limitNonneg]
  exact zipWith_allocateMember_targets input admissible

theorem sum_targetAmps_le (limitNonneg : 0 ≤ input.effectiveLimitAmps) :
    ((allocateMembers engine input).map (·.targetAmps)).sum ≤ input.effectiveLimitAmps := by
  have feasible := rawTargets_feasible input.allocationMethod
    (sortMembers engine input.activeMembers) limitNonneg
  rw [allocateMembers_targets engine input limitNonneg]
  by_cases disabled : input.controlMode = .disabled
  · simpa [disabled] using limitNonneg
  · simpa [disabled] using feasible.total

theorem allocateMembers_chargePointIds : ((allocateMembers engine input).map (·.chargePointId)).Perm
      (input.activeMembers.map (·.chargePointId)) := by
  have listed : (allocateMembers engine input).map (·.chargePointId) =
      (sortMembers engine input.activeMembers).map (·.chargePointId) := by
    apply List.ext_getElem
    · simp [allocateMembers]
    · intro index inAllocations inSorted
      simp [allocateMembers, allocateMember]
  rw [listed]
  exact (List.perm_insertionSort _ _).map _

end

theorem limitUnderCap_nonneg (baseLimitAmps : Int) (overrideCapAmps : Option Int) :
    0 ≤ limitUnderCap baseLimitAmps overrideCapAmps :=
  le_max_left _ _

/-- The record `buildEnergyAllocationPlan` passes to `allocateMembers`. -/
def planAllocateInput (input : EnergyAllocationPlanInput) : AllocateMembersInput where
  activeMembers := input.memberships.filter isActiveMember
  effectiveLimitAmps := limitUnderCap (resolveScalarLimit (planFailSafeCeiling input))
    (resolveOverrideCap input.override input.nowIso)
  allocationMethod := input.allocationMethod
  deadbandAmps := JsNumber.max (.ofInt 1) (input.deadbandAmps.orElse (.ofInt 1)).floor
  commandRefreshSec :=
    JsNumber.max (.ofInt 1) (input.commandRefreshSec.orElse (.ofInt 300)).floor
  nowIso := input.nowIso
  controlMode := input.controlMode
  observeOnly := input.observeOnly

@[simp]
theorem plan_allocations (engine : EnergyEngine) (input : EnergyAllocationPlanInput) :
    (buildEnergyAllocationPlan engine input).allocations =
      allocateMembers engine (planAllocateInput input) :=
  rfl

theorem planAllocateInput_limit_nonneg (input : EnergyAllocationPlanInput) :
    0 ≤ (planAllocateInput input).effectiveLimitAmps :=
  limitUnderCap_nonneg _ _

theorem plan_sum_targetAmps_le (engine : EnergyEngine) (input : EnergyAllocationPlanInput) :
    ((buildEnergyAllocationPlan engine input).allocations.map (·.targetAmps)).sum ≤
      (buildEnergyAllocationPlan engine input).effectiveLimitAmps :=
  sum_targetAmps_le engine (planAllocateInput input) (planAllocateInput_limit_nonneg input)

theorem plan_targetAmps_nonneg (engine : EnergyEngine) (input : EnergyAllocationPlanInput)
    {allocation : EnergyAllocationMemberPlan}
    (member : allocation ∈ (buildEnergyAllocationPlan engine input).allocations) :
    0 ≤ allocation.targetAmps := by
  obtain ⟨claimant, _, rawTarget, admissible, rfl⟩ :=
    exists_member_of_mem_allocateMembers (planAllocateInput_limit_nonneg input) member
  rw [allocateMember_targetAmps _ admissible]
  split
  · exact le_rfl
  · exact admissible.1

/-- What the allocations of a plan guarantee about its members. -/
structure SoundAllocations (input : EnergyAllocationPlanInput) (plan : EnergyAllocationPlan) :
    Prop where
  /-- The active members are listed, and nobody else. -/
  activeMembers : (plan.allocations.map (·.chargePointId)).Perm
    ((input.memberships.filter isActiveMember).map (·.chargePointId))
  once : (plan.allocations.map (·.chargePointId)).Nodup
  withinLimit : (plan.allocations.map (·.targetAmps)).sum ≤ plan.effectiveLimitAmps
  natural : ∀ allocation ∈ plan.allocations, ∃ amps : Nat, allocation.targetAmps = amps
  capped : ∀ allocation ∈ plan.allocations, ∀ membership ∈ input.memberships,
    membership.chargePointId = allocation.chargePointId →
      ∀ limit, normalizeOptionalInt membership.maxAmps = some limit →
        allocation.targetAmps ≤ limit
  disabled : input.controlMode = .disabled → ∀ allocation ∈ plan.allocations,
    allocation.targetAmps = 0 ∧ allocation.shouldSendCommand = false

/-- Every plan for members with pairwise different charge points is sound. -/
theorem buildEnergyAllocationPlan_sound (engine : EnergyEngine) (input : EnergyAllocationPlanInput)
    (distinct : (input.memberships.map (·.chargePointId)).Nodup) :
    SoundAllocations input (buildEnergyAllocationPlan engine input) where
  activeMembers := allocateMembers_chargePointIds engine (planAllocateInput input)
  once := by
    have listed := allocateMembers_chargePointIds engine (planAllocateInput input)
    rw [plan_allocations, listed.nodup_iff]
    exact List.Sublist.nodup (List.Sublist.map _ List.filter_sublist) distinct
  withinLimit := plan_sum_targetAmps_le engine input
  natural := by
    intro allocation member
    exact Int.eq_ofNat_of_zero_le (plan_targetAmps_nonneg engine input member)
  capped := by
    intro allocation member membership stored sameCharger limit capEq
    obtain ⟨claimant, active, rawTarget, admissible, rfl⟩ :=
      exists_member_of_mem_allocateMembers (planAllocateInput_limit_nonneg input) member
    have claimantStored : claimant ∈ input.memberships := List.mem_of_mem_filter active
    have sameMember : membership = claimant :=
      List.inj_on_of_nodup_map distinct stored claimantStored sameCharger
    subst sameMember
    rw [allocateMember_targetAmps _ admissible]
    split
    · exact nonneg_of_normalizeOptionalInt capEq
    · exact admissible.2 limit capEq
  disabled := by
    intro isDisabled allocation member
    obtain ⟨claimant, _, rawTarget, admissible, rfl⟩ :=
      exists_member_of_mem_allocateMembers (planAllocateInput_limit_nonneg input) member
    have modeEq : (planAllocateInput input).controlMode = .disabled := isDisabled
    constructor
    · rw [allocateMember_targetAmps _ admissible, if_pos modeEq]
    · simp [allocateMember, modeEq]

/-- `localeCompare` is a total order on the texts. -/
structure IsTotalOrderOn (engine : EnergyEngine) (texts : List String) : Prop where
  total : ∀ left ∈ texts, ∀ right ∈ texts,
    engine.localeCompare left right ≤ 0 ∨ engine.localeCompare right left ≤ 0
  trans : ∀ left ∈ texts, ∀ middle ∈ texts, ∀ right ∈ texts,
    engine.localeCompare left middle ≤ 0 → engine.localeCompare middle right ≤ 0 →
      engine.localeCompare left right ≤ 0
  antisymm : ∀ left ∈ texts, ∀ right ∈ texts,
    engine.localeCompare left right ≤ 0 → engine.localeCompare right left ≤ 0 → left = right

theorem compareMembers_nonpos_iff {engine : EnergyEngine}
    {left right : EnergyAllocationMemberInput} : compareMembers engine left right ≤ 0 ↔
      left.priority < right.priority ∨ left.priority = right.priority ∧
        engine.localeCompare left.chargePointId right.chargePointId ≤ 0 := by
  rw [compareMembers]
  split <;> omega

section Order

variable {engine : EnergyEngine} {texts : List String} (order : IsTotalOrderOn engine texts)
  {members : List EnergyAllocationMemberInput}

include order

theorem pairwise_sortMembers (areTexts : ∀ member ∈ members, member.chargePointId ∈ texts) :
    (sortMembers engine members).Pairwise fun left right =>
      compareMembers engine left right ≤ 0 := by
  let precedes (left right : { member // member ∈ members }) : Prop :=
    compareMembers engine left right ≤ 0
  have : Std.Total precedes := ⟨fun left right => by
    have total := order.total _ (areTexts _ left.2) _ (areTexts _ right.2)
    simp only [precedes, compareMembers_nonpos_iff]
    omega⟩
  have : IsTrans _ precedes := ⟨fun left middle right before after => by
    have trans := order.trans _ (areTexts _ left.2) _ (areTexts _ middle.2) _ (areTexts _ right.2)
    simp only [precedes, compareMembers_nonpos_iff] at before after ⊢
    omega⟩
  have sorted := List.map_insertionSort precedes
    (fun left right => compareMembers engine left right ≤ 0) Subtype.val members.attach
    fun _ _ _ _ => Iff.rfl
  rw [List.attach_map_subtype_val] at sorted
  rw [sortMembers, ← sorted, List.pairwise_map]
  exact List.pairwise_insertionSort precedes members.attach

theorem sortMembers_perm (areTexts : ∀ member ∈ members, member.chargePointId ∈ texts)
    (distinct : (members.map (·.chargePointId)).Nodup)
    {others : List EnergyAllocationMemberInput} (perm : others.Perm members) :
    sortMembers engine others = sortMembers engine members := by
  have samePerm : (sortMembers engine others).Perm (sortMembers engine members) :=
    (List.perm_insertionSort _ _).trans (perm.trans (List.perm_insertionSort _ _).symm)
  refine List.Perm.eq_of_pairwise ?_
    (pairwise_sortMembers order fun member isOther => areTexts member (perm.mem_iff.mp isOther))
    (pairwise_sortMembers order areTexts) samePerm
  intro left right isLeft isRight before after
  have leftMem := perm.mem_iff.mp ((List.perm_insertionSort _ _).mem_iff.mp isLeft)
  have rightMem := (List.perm_insertionSort _ _).mem_iff.mp isRight
  have sameId := order.antisymm _ (areTexts _ leftMem) _ (areTexts _ rightMem)
  rw [compareMembers_nonpos_iff] at before after
  exact List.inj_on_of_nodup_map distinct leftMem rightMem (sameId (by omega) (by omega))

end Order

/-- An online, enabled member without a history. -/
def freshMember (chargePointId : String) (priority : Int) (maxAmps : Option JsNumber) :
    EnergyAllocationMemberInput where
  chargePointId := chargePointId
  enabled := true
  priority := priority
  smartChargingEnabled := true
  chargePointOnline := true
  maxAmps := maxAmps
  lastAppliedAmps := none
  lastAppliedDecisionHash := none
  lastCommandAt := none

/-- Two bands of members, one of them capped, behind a limit of 40 A a phase. -/
def twoBands : EnergyAllocationPlanInput where
  groupId := "group-1"
  controlMode := .active
  observeOnly := false
  allocationMethod := .priority
  siteLimitAmps := ⟨.ofInt 40, .ofInt 40, .ofInt 40⟩
  nonEvLoadAmps := ⟨.ofInt 0, .ofInt 0, .ofInt 0⟩
  dynamicBufferAmps := ⟨.ofInt 0, .ofInt 0, .ofInt 0⟩
  failSafeAmps := ⟨.ofInt 40, .ofInt 40, .ofInt 40⟩
  deadbandAmps := .ofInt 1
  staleWarningAfterSec := .ofInt 30
  failSafeAfterSec := .ofInt 60
  commandRefreshSec := .ofInt 300
  nowIso := toISOString 0
  telemetry := none
  override := none
  memberships :=
    [freshMember "cp-1" 2 none, freshMember "cp-2" 1 (some (.ofInt 16)),
      freshMember "cp-3" 1 (some (.ofInt 10))]

/-- Up to its hash, a plan does not depend on the order of the memberships. -/
theorem buildEnergyAllocationPlan_perm (engine : EnergyEngine) (input : EnergyAllocationPlanInput)
    (distinct : (input.memberships.map (·.chargePointId)).Nodup)
    (order : IsTotalOrderOn engine (input.memberships.map (·.chargePointId)))
    {memberships : List EnergyAllocationMemberInput} (perm : memberships.Perm input.memberships)
    (decisionHash : String) :
    { buildEnergyAllocationPlan engine { input with memberships } with decisionHash } =
      { buildEnergyAllocationPlan engine input with decisionHash } := by
  have activePerm := perm.filter isActiveMember
  have sorted : sortMembers engine (memberships.filter isActiveMember) =
      sortMembers engine (input.memberships.filter isActiveMember) :=
    sortMembers_perm order (fun member isActive => List.mem_map_of_mem (List.mem_of_mem_filter isActive))
      (distinct.sublist (List.filter_sublist.map _)) activePerm
  -- what a member is allocated does not depend on the list it comes from
  have allocated (limit method deadband refresh nowIso mode observeOnly) :
      allocateMembers engine ⟨memberships.filter isActiveMember, limit, method, deadband, refresh,
          nowIso, mode, observeOnly⟩ =
        allocateMembers engine ⟨input.memberships.filter isActiveMember, limit, method, deadband,
          refresh, nowIso, mode, observeOnly⟩ := by
    simp only [allocateMembers, sorted]
    rfl
  simp only [buildEnergyAllocationPlan, deriveReasonCode, allocated, perm.length_eq,
    activePerm.length_eq]
  rfl

theorem buildEnergyAllocationPlan_perm_twoBands : { buildEnergyAllocationPlan plainEngine
        { twoBands with memberships := twoBands.memberships.reverse } with decisionHash := "" } =
      { buildEnergyAllocationPlan plainEngine twoBands with decisionHash := "" } :=
  buildEnergyAllocationPlan_perm plainEngine twoBands (by decide)
    ⟨by decide, by decide, by decide⟩ (List.reverse_perm _) ""

theorem buildEnergyAllocationPlan_sound_twoBands :
    SoundAllocations twoBands (buildEnergyAllocationPlan plainEngine twoBands) :=
  buildEnergyAllocationPlan_sound plainEngine twoBands (by decide)

example : (buildEnergyAllocationPlan plainEngine twoBands).allocations.map
    (fun allocation => (allocation.chargePointId, allocation.targetAmps)) =
      [("cp-2", 16), ("cp-3", 10), ("cp-1", 14)] := by
  decide +kernel

end Csms.EnergyManagement
