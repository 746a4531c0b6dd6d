import Csms.EnergyManagement.Recalculate

/-!
# What a recalculation sends

The allocations that a recalculation sends as commands: each is for a stored
membership of the group with an online and capable charge point, no charge point
gets two, and the command sets a limit exactly when the target is positive.
-/

namespace Csms.EnergyManagement

open Allocation Js

theorem loaded_chargePointIds_nodup (store : Store) (group : EnergyLoadGroup) :
    ((groupBundle store group).memberships.map (·.chargePointId)).Nodup := by
  have keysNodup : ((groupBundle store group).memberships.map (·.key)).Nodup :=
    List.Sublist.nodup (List.Sublist.map _ List.filter_sublist) store.memberships.nodup
  refine List.Nodup.of_map (fun chargePointId => (group.id, chargePointId)) ?_
  have keysEq : ((groupBundle store group).memberships.map (·.chargePointId)).map
      (fun chargePointId => (group.id, chargePointId)) =
        (groupBundle store group).memberships.map (·.key) := by
    rw [List.map_map]
    apply List.map_congr_left
    intro membership member
    have inGroup : membership.groupId = group.id := by
      simpa using (List.mem_filter.mp member).2
    simp [EnergyLoadGroupMembership.key, inGroup]
  rw [keysEq]
  exact keysNodup

section Loaded

variable {context : ServiceContext} {clock : RecalculateClock} {store : Store}
  {group : EnergyLoadGroup}

abbrev bundleOf (clock : RecalculateClock) (store : Store) (group : EnergyLoadGroup) :
    ResolvedBundle :=
  loadBundle clock.bundleNow store (groupBundle store group)

/-- The planner's input in a recalculation of a stored group. -/
abbrev inputOf (context : ServiceContext) (clock : RecalculateClock) (store : Store)
    (group : EnergyLoadGroup) : EnergyAllocationPlanInput :=
  planInput context.engine.toEngine clock.planNow group (bundleOf clock store group)

/-- The allocations that a recalculation of a stored group sends as commands. -/
abbrev sentOf (context : ServiceContext) (clock : RecalculateClock) (input : RecalculateInput)
    (store : Store) (group : EnergyLoadGroup) : List EnergyAllocationMemberPlan :=
  sentAllocations group (bundleOf clock store group)
    (planOf context clock store (groupBundle store group)) input

theorem planOf_chargePointIds_nodup :
    ((planOf context clock store (groupBundle store group)).allocations.map
      (·.chargePointId)).Nodup := by
  have listed := allocateMembers_chargePointIds context.engine
    (planAllocateInput (inputOf context clock store group))
  have memberIds : ((inputOf context clock store group).memberships.map (·.chargePointId)).Nodup := by
    have sameIds : (inputOf context clock store group).memberships.map (·.chargePointId) =
        (groupBundle store group).memberships.map (·.chargePointId) :=
      List.map_map
    rw [sameIds]
    exact loaded_chargePointIds_nodup store group
  refine listed.nodup_iff.mpr ?_
  exact List.Sublist.nodup (List.Sublist.map _ List.filter_sublist) memberIds

variable {input : RecalculateInput}

theorem sentAllocations_sublist {bundle : ResolvedBundle} {plan : EnergyAllocationPlan} :
    (sentAllocations group bundle plan input).Sublist plan.allocations := by
  unfold sentAllocations
  split
  · exact List.nil_sublist _
  · exact List.filter_sublist

theorem sentOf_nodup (context : ServiceContext) (clock : RecalculateClock)
    (input : RecalculateInput) (store : Store) (group : EnergyLoadGroup) :
    ((sentOf context clock input store group).map (·.chargePointId)).Nodup :=
  List.Sublist.nodup (List.Sublist.map _ sentAllocations_sublist) planOf_chargePointIds_nodup

variable {allocation : EnergyAllocationMemberPlan}

theorem mem_sentAllocations_iff {bundle : ResolvedBundle} {plan : EnergyAllocationPlan} :
    allocation ∈ sentAllocations group bundle plan input ↔
      holdsCommandsBack group input = false ∧ allocation ∈ plan.allocations ∧
        isCommanded bundle allocation = true := by
  unfold sentAllocations
  by_cases back : holdsCommandsBack group input
  · simp [back]
  · simp [back]

theorem exists_membership_of_sent (sent : allocation ∈ sentOf context clock input store group) :
    ∃ membership ∈ store.memberships.rows, membership.groupId = group.id ∧
      membership.chargePointId = allocation.chargePointId := by
  obtain ⟨_, _, commanded⟩ := mem_sentAllocations_iff.mp sent
  unfold isCommanded at commanded
  simp only [Bool.and_eq_true, Option.isSome_iff_exists] at commanded
  obtain ⟨⟨_, membership, found⟩, _⟩ := commanded
  have member : membership ∈ (groupBundle store group).memberships :=
    List.mem_of_find?_eq_some found
  rw [groupBundle, List.mem_filter, decide_eq_true_eq] at member
  exact ⟨membership, member.1, member.2, by simpa using List.find?_some found⟩

section

variable (member : allocation ∈ (planOf context clock store (groupBundle store group)).allocations)
include member

/-- Every allocation is that of a membership of the group whose charge point is
online and capable. -/
theorem exists_membership_of_mem_plan :
    ∃ membership ∈ (groupBundle store group).memberships, ∃ rawTarget,
      isActiveMember (memberInput (bundleOf clock store group) membership) = true ∧
        Admissible (memberCap (memberInput (bundleOf clock store group) membership)) rawTarget ∧
          allocation = allocateMember (planAllocateInput (inputOf context clock store group))
            (memberInput (bundleOf clock store group) membership) rawTarget := by
  obtain ⟨claimant, active, rawTarget, admissible, equal⟩ :=
    exists_member_of_mem_allocateMembers
      (planAllocateInput_limit_nonneg (inputOf context clock store group)) member
  obtain ⟨listed, isActive⟩ := List.mem_filter.mp active
  obtain ⟨membership, stored, rfl⟩ := List.mem_map.mp listed
  exact ⟨membership, stored, rawTarget, isActive, admissible, equal⟩

/-- The loop of `applyPlan` finds the membership and the charge point of every
allocation, so it sends what is due. -/
theorem isCommanded_of_mem_plan :
    isCommanded (bundleOf clock store group) allocation = allocation.shouldSendCommand := by
  obtain ⟨membership, stored, rawTarget, isActive, _, rfl⟩ :=
    exists_membership_of_mem_plan member
  have isMember : ((bundleOf clock store group).membership? membership.chargePointId).isSome :=
    List.find?_isSome.mpr ⟨membership, stored, by simp⟩
  have hasChargePoint :
      ((bundleOf clock store group).chargePoint? membership.chargePointId).isSome := by
    simp only [isActiveMember, memberInput, resolveChargePointCapability, Bool.and_eq_true,
      Option.any_eq_true] at isActive
    obtain ⟨⟨_, chargePoint, found, _⟩, _⟩ := isActive
    rw [Option.isSome_iff_exists]
    exact ⟨chargePoint, found⟩
  simp only [isCommanded, allocateMember, memberInput, isMember, hasChargePoint, Bool.and_true]

/-- The commands of a plan set a limit exactly when the target is positive. -/
theorem commandTypeText_eq_apply_iff (send : allocation.shouldSendCommand = true) :
    commandTypeText allocation = "ApplyChargingLimit" ↔ 0 < allocation.targetAmps := by
  obtain ⟨membership, _, rawTarget, isActive, admissible, rfl⟩ :=
    exists_membership_of_mem_plan member
  have capable : (memberInput (bundleOf clock store group) membership).smartChargingEnabled =
      true ∧ (memberInput (bundleOf clock store group) membership).enabled = true := by
    simp only [isActiveMember, Bool.and_eq_true] at isActive
    exact ⟨isActive.1.2, isActive.1.1⟩
  have enabled : (planAllocateInput (inputOf context clock store group)).controlMode ≠
      .disabled := by
    intro disabled
    simp [allocateMember, disabled] at send
  simp only [commandTypeText, allocateMember, capable, clampToMemberLimit_eq_self admissible,
    max_eq_right admissible.1, if_neg enabled, Bool.and_self, if_true]
  by_cases positive : 0 < rawTarget
  · simp [positive]
  · simp [positive]

end

end Loaded

end Csms.EnergyManagement
