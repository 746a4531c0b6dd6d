import Csms.EnergyManagement.Sending.Sent

/-!
# Ceilings at the chargers

The gateway sets a charger's ceiling on `ApplyChargingLimit` and removes it on
`ClearChargingLimit`.  A command with a positive target sets it; a command with
target zero removes it, so the chargers end up within their targets exactly when
no command is due for a share of zero.
-/

namespace Csms.EnergyManagement

open Allocation Commands Js

abbrev Ceilings :=
  String → Option Int

/-- What the gateway does with a command: a limit becomes the ceiling, clearing
the limit removes it. -/
def applyCommand (ceilings : Ceilings) (request : CommandRequest EnergyCommandPayload) : Ceilings :=
  match request.chargePointId with
  | none => ceilings
  | some chargePointId =>
    if request.commandType = "ApplyChargingLimit" then
      Function.update ceilings chargePointId (some request.payload.limitAmps)
    else if request.commandType = "ClearChargingLimit" then
      Function.update ceilings chargePointId none
    else
      ceilings

/-- The commands of a plan, applied one after the other. -/
def applyCommands (ceilings : Ceilings) (requests : List (CommandRequest EnergyCommandPayload)) :
    Ceilings :=
  requests.foldl applyCommand ceilings

def ceilingFor (allocation : EnergyAllocationMemberPlan) : Option Int :=
  if commandTypeText allocation = "ApplyChargingLimit" then some allocation.targetAmps else none

theorem applyCommand_commandRequest (group : EnergyLoadGroup) (plan : EnergyAllocationPlan)
    (ceilings : Ceilings) (allocation : EnergyAllocationMemberPlan) :
    applyCommand ceilings (commandRequest group plan allocation) =
      Function.update ceilings allocation.chargePointId (ceilingFor allocation) := by
  by_cases clears : allocation.commandType = .clearChargingLimit
  · simp [applyCommand, commandRequest, ceilingFor, commandTypeText, clears]
  · simp [applyCommand, commandRequest, commandPayload, ceilingFor, commandTypeText, clears]

theorem applyCommands_map_commandRequest (group : EnergyLoadGroup) (plan : EnergyAllocationPlan)
    (allocations : List EnergyAllocationMemberPlan) (ceilings : Ceilings) :
    applyCommands ceilings (allocations.map (commandRequest group plan)) =
      writeAll (·.chargePointId) ceilingFor ceilings allocations := by
  unfold applyCommands writeAll
  rw [List.foldl_map]
  simp only [applyCommand_commandRequest]

section Loaded

variable (context : ServiceContext) (clock : RecalculateClock) (input : RecalculateInput)
  (store : Store) (group : EnergyLoadGroup)

/-- The commands that a recalculation of a stored group asks for. -/
def commandsOf : List (CommandRequest EnergyCommandPayload) :=
  (sentOf context clock input store group).map
    (commandRequest group (planOf context clock store (groupBundle store group)))

/-- From whatever ceilings, every charger that is sent a command ends up with a
ceiling, and it is at most the charger's target. -/
def CeilingsWithinTargets : Prop :=
  ∀ ceilings : Ceilings, ∀ allocation ∈ sentOf context clock input store group,
    ∃ ceiling, applyCommands ceilings (commandsOf context clock input store group)
      allocation.chargePointId = some ceiling ∧ ceiling ≤ allocation.targetAmps

variable {allocation : EnergyAllocationMemberPlan}

theorem applyCommands_sent (ceilings : Ceilings)
    (sent : allocation ∈ sentOf context clock input store group) :
    applyCommands ceilings (commandsOf context clock input store group)
      allocation.chargePointId = ceilingFor allocation := by
  rw [commandsOf, applyCommands_map_commandRequest]
  exact writeAll_of_mem _ _ (sentOf_nodup context clock input store group) sent ceilings

theorem ceilingFor_withinTarget_iff
    (planned : allocation ∈ (planOf context clock store (groupBundle store group)).allocations)
    (send : allocation.shouldSendCommand = true) :
    (∃ ceiling, ceilingFor allocation = some ceiling ∧ ceiling ≤ allocation.targetAmps) ↔
      0 < allocation.targetAmps := by
  have applies := commandTypeText_eq_apply_iff planned send
  unfold ceilingFor
  constructor
  · rintro ⟨ceiling, present, _⟩
    split at present
    · exact applies.mp ‹_›
    · contradiction
  · intro positive
    rw [if_pos (applies.mpr positive)]
    exact ⟨_, rfl, le_rfl⟩

theorem ceilingsWithinTargets_iff_positive : CeilingsWithinTargets context clock input store group ↔
      ∀ allocation ∈ sentOf context clock input store group, 0 < allocation.targetAmps := by
  have each (allocation : EnergyAllocationMemberPlan)
      (sent : allocation ∈ sentOf context clock input store group) :
      (∃ ceiling, ceilingFor allocation = some ceiling ∧ ceiling ≤ allocation.targetAmps) ↔
        0 < allocation.targetAmps := by
    obtain ⟨_, planned, commanded⟩ := mem_sentAllocations_iff.mp sent
    rw [isCommanded_of_mem_plan planned] at commanded
    exact ceilingFor_withinTarget_iff context clock store group planned commanded
  constructor
  · intro within allocation sent
    have ceiling := within (fun _ => none) allocation sent
    rw [applyCommands_sent context clock input store group _ sent] at ceiling
    exact (each allocation sent).mp ceiling
  · intro positive ceilings allocation sent
    rw [applyCommands_sent context clock input store group ceilings sent]
    exact (each allocation sent).mpr (positive allocation sent)

/-- Each active member with the share that the allocation method gives it. -/
def memberShares (engine : EnergyEngine) (allocateInput : AllocateMembersInput) :
    List (EnergyAllocationMemberInput × Int) :=
  (sortMembers engine allocateInput.activeMembers).zip
    (rawTargets allocateInput.allocationMethod
      (sortMembers engine allocateInput.activeMembers) allocateInput.effectiveLimitAmps)

/-- Where commands are sent at all, every active member that a limit of 0 A would
be due for gets a positive share. -/
def PositiveSharesWhereDue : Prop :=
  holdsCommandsBack group input = false → group.controlMode = .active →
    ∀ claim ∈ memberShares context.engine
        (planAllocateInput (inputOf context clock store group)),
      isDue (planAllocateInput (inputOf context clock store group)) claim.1 0 = true →
        0 < claim.2

theorem allocations_eq_map_memberShares :
    (planOf context clock store (groupBundle store group)).allocations =
      (memberShares context.engine (planAllocateInput (inputOf context clock store group))).map
        fun claim => allocateMember (planAllocateInput (inputOf context clock store group))
          claim.1 claim.2 := by
  have zipped := allocateMembers_eq_zipWith context.engine
    (planAllocateInput (inputOf context clock store group))
    (planAllocateInput_limit_nonneg (inputOf context clock store group))
  rw [← List.map_uncurry_zip_eq_zipWith] at zipped
  exact zipped

theorem admissible_of_mem_memberShares {claim : EnergyAllocationMemberInput × Int} (member : claim ∈
      memberShares context.engine (planAllocateInput (inputOf context clock store group))) :
    isActiveMember claim.1 = true ∧ Admissible (memberCap claim.1) claim.2 := by
  have shares := (rawTargets_feasible
    (planAllocateInput (inputOf context clock store group)).allocationMethod
    (sortMembers context.engine
      (planAllocateInput (inputOf context clock store group)).activeMembers)
    (planAllocateInput_limit_nonneg (inputOf context clock store group))).admissible
  rw [memberCaps, List.forall₂_map_left_iff] at shares
  constructor
  · have sorted := (List.perm_insertionSort _ _).mem_iff.mp (List.of_mem_zip member).1
    exact (List.mem_filter.mp sorted).2
  · exact (List.forall₂_iff_zip.mp shares).2 member

theorem mem_sentOf_iff : allocation ∈ sentOf context clock input store group ↔
      holdsCommandsBack group input = false ∧ group.controlMode = .active ∧
        ∃ claim ∈ memberShares context.engine
            (planAllocateInput (inputOf context clock store group)),
          isDue (planAllocateInput (inputOf context clock store group)) claim.1 claim.2 = true ∧
            allocateMember (planAllocateInput (inputOf context clock store group))
              claim.1 claim.2 = allocation := by
  have modeEq : (planAllocateInput (inputOf context clock store group)).controlMode =
      group.controlMode := rfl
  have dueIff (claim : EnergyAllocationMemberInput × Int)
      (member : claim ∈ memberShares context.engine
        (planAllocateInput (inputOf context clock store group))) :
      (allocateMember (planAllocateInput (inputOf context clock store group))
        claim.1 claim.2).shouldSendCommand = true ↔ group.controlMode = .active ∧
          isDue (planAllocateInput (inputOf context clock store group)) claim.1 claim.2 = true := by
    obtain ⟨active, admissible⟩ :=
      admissible_of_mem_memberShares context clock store group member
    rw [allocateMember_shouldSendCommand _ active admissible, modeEq, Bool.and_eq_true,
      decide_eq_true_eq]
  rw [mem_sentAllocations_iff]
  constructor
  · rintro ⟨sends, planned, commanded⟩
    rw [isCommanded_of_mem_plan planned] at commanded
    rw [allocations_eq_map_memberShares] at planned
    obtain ⟨claim, member, rfl⟩ := List.mem_map.mp planned
    obtain ⟨isActive, due⟩ := (dueIff claim member).mp commanded
    exact ⟨sends, isActive, claim, member, due, rfl⟩
  · rintro ⟨sends, isActive, claim, member, due, rfl⟩
    have planned : allocateMember (planAllocateInput (inputOf context clock store group))
        claim.1 claim.2 ∈ (planOf context clock store (groupBundle store group)).allocations := by
      rw [allocations_eq_map_memberShares]
      exact List.mem_map_of_mem member
    refine ⟨sends, planned, ?_⟩
    rw [isCommanded_of_mem_plan planned]
    exact (dueIff claim member).mpr ⟨isActive, due⟩

theorem positive_iff_positiveSharesWhereDue :
    (∀ allocation ∈ sentOf context clock input store group, 0 < allocation.targetAmps) ↔
      PositiveSharesWhereDue context clock input store group := by
  have targetEq (isActive : group.controlMode = .active)
      (claim : EnergyAllocationMemberInput × Int)
      (member : claim ∈ memberShares context.engine
        (planAllocateInput (inputOf context clock store group))) :
      (allocateMember (planAllocateInput (inputOf context clock store group))
        claim.1 claim.2).targetAmps = claim.2 ∧ 0 ≤ claim.2 := by
    obtain ⟨_, admissible⟩ := admissible_of_mem_memberShares context clock store group member
    have modeEq : (planAllocateInput (inputOf context clock store group)).controlMode =
        group.controlMode := rfl
    rw [allocateMember_targetAmps _ admissible, modeEq, isActive, if_neg (by decide)]
    exact ⟨rfl, admissible.1⟩
  constructor
  · intro positive sends isActive claim member due
    obtain ⟨target, nonneg⟩ := targetEq isActive claim member
    by_contra notPositive
    have isZero : claim.2 = 0 := le_antisymm (not_lt.mp notPositive) nonneg
    have sent := (mem_sentOf_iff context clock input store group).mpr
      ⟨sends, isActive, claim, member, by rwa [isZero], rfl⟩
    have targetPos := positive _ sent
    rw [target] at targetPos
    exact notPositive targetPos
  · intro positive allocation sent
    obtain ⟨sends, isActive, claim, member, due, rfl⟩ :=
      (mem_sentOf_iff context clock input store group).mp sent
    obtain ⟨target, nonneg⟩ := targetEq isActive claim member
    rw [target]
    by_contra notPositive
    have isZero : claim.2 = 0 := le_antisymm (not_lt.mp notPositive) nonneg
    rw [isZero] at due
    exact notPositive (positive sends isActive claim member due)

/-- In a recalculation of any stored group: every charger that is sent a command
ends up with a ceiling within its target exactly when every member that 0 A would
be due for gets a positive share. -/
theorem ceilingsWithinTargets_iff : CeilingsWithinTargets context clock input store group ↔
      PositiveSharesWhereDue context clock input store group := by
  rw [ceilingsWithinTargets_iff_positive, positive_iff_positiveSharesWhereDue]

end Loaded

/-- The group of the small site with no headroom left: the non-EV load takes the
whole 32 A. -/
def exhaustedGroup : EnergyLoadGroup :=
  { siteGroup with lastNonEvLoadAmps := ⟨some 32, some 32, some 32⟩ }

/-- Its charger still has the 16 A of an earlier plan. -/
def exhaustedStore : Store :=
  { siteStore with
    groups := ⟨[exhaustedGroup], List.nodup_singleton _⟩
    memberships := ⟨[{ siteMembership "cp-1" with lastAppliedAmps := some 16 }],
      List.nodup_singleton _⟩ }

/-- With no headroom left the charger's target is 0 A, and the command for it
removes the ceiling of 16 A. -/
theorem exhausted_not_withinTargets : applyCommands (fun _ => some 16)
        (commandsOf siteContext (.still 0) ⟨false, none, none⟩ exhaustedStore exhaustedGroup)
          "cp-1" = none ∧
      ¬ CeilingsWithinTargets siteContext (.still 0) ⟨false, none, none⟩ exhaustedStore
        exhaustedGroup := by
  constructor
  · decide +kernel
  · rw [ceilingsWithinTargets_iff_positive]
    decide +kernel

end Csms.EnergyManagement
