import Csms.EnergyManagement.Logic.Conserving

/-!
# How even equal shares are

In each round a member can get one amp more than another, since the remainder goes to the first
ones.  Another round follows only when some member has reached its cap, so the difference between
two members grows by at most one for each other member at its cap.
-/

namespace Csms.EnergyManagement

open Allocation

def isAtCap (members : List EnergyAllocationMemberInput) (targets : List Int) (index : Nat) : Bool :=
  capAt members index = some (targetAt targets index)

def othersAtCap (members : List EnergyAllocationMemberInput) (targets : List Int)
    (first second : Nat) : Nat :=
  ((Finset.range members.length).filter fun index =>
    index ≠ first ∧ index ≠ second ∧ isAtCap members targets index = true).card

/-- A member that gets less than another one by more than an amp, and an amp for each further
member at its cap, is at its cap. -/
def IsFair (members : List EnergyAllocationMemberInput) (targets : List Int) : Prop :=
  ∀ first < members.length, ∀ second < members.length,
    targetAt targets first <
        targetAt targets second - 1 - othersAtCap members targets first second →
      isAtCap members targets first = true

/-- Whoever is still eligible is behind anybody by the number of those who are not. -/
def RunsFair (members : List EnergyAllocationMemberInput) (targets : List Int)
    (eligible : List Nat) : Prop :=
  ∀ first ∈ eligible, ∀ second < members.length,
    targetAt targets second + eligible.length ≤ targetAt targets first + members.length

section Loop

variable {members : List EnergyAllocationMemberInput} {targets : List Int} {eligible : List Nat}
  {share remainder : Int} {after : DistributionRound}

theorem isFair_zeros (members : List EnergyAllocationMemberInput) :
    IsFair members (members.map fun _ => 0) := by
  intro first _ second _ less
  rw [targetAt_zeros, targetAt_zeros] at less
  omega

theorem Distributing.length_le_othersAtCap (state : Distributing members targets eligible)
    (exact : RoundExact members share remainder 0 eligible ⟨targets, 0, []⟩ after)
    {first : Nat} (isEligible : first ∈ eligible) (second : Nat) :
    members.length ≤ othersAtCap members after.targets first second + eligible.length +
      if second ∈ eligible then 0 else 1 := by
  have inRange : eligible.toFinset ⊆ Finset.range members.length := by
    intro index member
    exact Finset.mem_range.mpr (state.inRange index (List.mem_toFinset.mp member))
  have outside : (Finset.range members.length \ eligible.toFinset).card =
      members.length - eligible.length := by
    rw [Finset.card_sdiff_of_subset inRange, Finset.card_range,
      List.toFinset_card_of_nodup state.distinct]
  have others : (Finset.range members.length \ eligible.toFinset).erase second ⊆
      (Finset.range members.length).filter fun index =>
        index ≠ first ∧ index ≠ second ∧ isAtCap members after.targets index = true := by
    intro index member
    rw [Finset.mem_erase, Finset.mem_sdiff, List.mem_toFinset, Finset.mem_range] at member
    obtain ⟨apart, isMember, isOut⟩ := member
    rw [Finset.mem_filter, Finset.mem_range]
    refine ⟨isMember, fun same => isOut (same ▸ isEligible), apart, ?_⟩
    rw [isAtCap, exact.others index isOut, decide_eq_true_eq]
    exact state.full index isMember isOut
  have counted := Finset.card_le_card others
  rw [← othersAtCap] at counted
  split
  · rename_i isIn
    rw [Finset.erase_eq_of_notMem (by simp [isIn]), outside] at counted
    omega
  · have erased := Finset.pred_card_le_card_erase
      (s := Finset.range members.length \ eligible.toFinset) (a := second)
    omega

/-- In a round nobody gets more than one amp above the share. -/
theorem RoundExact.le_share (exact : RoundExact members share remainder 0 eligible
    ⟨targets, 0, []⟩ after) (shareNonneg : 0 ≤ share) (index : Nat) :
    targetAt after.targets index ≤ targetAt targets index + share +
      if index ∈ eligible then 1 else 0 := by
  split
  · rename_i isOffered
    exact (exact.bounds isOffered).2.trans ((raised_le _ _ _).trans (by rw [add_assoc]))
  · rename_i isNot
    rw [exact.others index isNot]
    change targetAt targets index ≤ _
    omega

/-- Who can still take more has got the whole share. -/
theorem RoundExact.share_le (exact : RoundExact members share remainder 0 eligible
    ⟨targets, 0, []⟩ after) {index : Nat} (isOffered : index ∈ eligible)
    (below : isBelowCap (capAt members index) (targetAt after.targets index) = true) :
    targetAt targets index + share ≤ targetAt after.targets index := by
  obtain ⟨place, inRange, rfl⟩ := List.mem_iff_getElem.mp isOffered
  have here := exact.exact place inRange
  rw [here] at below
  rw [here, raised_eq_of_isBelowCap below]
  exact add_le_add_right (offerAt_bounds _ _ _).1 _

theorem RunsFair.isFair_round (runs : RunsFair members targets eligible)
    (state : Distributing members targets eligible) (shareNonneg : 0 ≤ share)
    (exact : RoundExact members share remainder 0 eligible ⟨targets, 0, []⟩ after)
    (nextState : Distributing members after.targets after.nextEligible)
    (nextBelow : AllBelow members after.targets after.nextEligible) :
    IsFair members after.targets := by
  intro first firstIn second secondIn less
  by_contra notAtCap
  have isNext : first ∈ after.nextEligible := by
    by_contra isNot
    exact notAtCap (decide_eq_true (nextState.full first firstIn isNot))
  have isEligible : first ∈ eligible := by
    rw [exact.next, List.nil_append] at isNext
    exact (List.mem_filter.mp isNext).1
  have atLeast := exact.share_le isEligible (nextBelow first isNext)
  have atMost := exact.le_share shareNonneg second
  have behind := runs first isEligible second secondIn
  have counted := state.length_le_othersAtCap exact isEligible second
  split at atMost <;> rename_i isIn <;> simp only [isIn, if_true, if_false] at counted <;> omega

/-- A round that leaves something over has brought somebody to the cap. -/
theorem RunsFair.round (runs : RunsFair members targets eligible) (shareNonneg : 0 ≤ share)
    (exact : RoundExact members share remainder 0 eligible ⟨targets, 0, []⟩ after)
    (nextBelow : AllBelow members after.targets after.nextEligible)
    (leftOver : after.assigned ≠ roundQuota share remainder 0 eligible.length) :
    RunsFair members after.targets after.nextEligible := by
  have next : after.nextEligible = eligible.filter fun index =>
      isBelowCap (capAt members index) (targetAt after.targets index) := by
    rw [exact.next, List.nil_append]
  have fewer : after.nextEligible.length < eligible.length := by
    rcases exact.spent with wholly | ⟨index, isOffered, isCap⟩
    · exact absurd (wholly.trans (zero_add _)) leftOver
    · rw [next]
      refine List.length_filter_lt_length_iff_exists.mpr ⟨index, isOffered, ?_⟩
      rw [isCap]
      simp [isBelowCap]
  intro first isNext second secondIn
  have isEligible : first ∈ eligible := by
    rw [next] at isNext
    exact (List.mem_filter.mp isNext).1
  have atLeast := exact.share_le isEligible (nextBelow first isNext)
  have atMost := exact.le_share shareNonneg second
  have behind := runs first isEligible second secondIn
  split at atMost <;> omega

theorem distributeLoop_fair {remaining : Int} (remainingNonneg : 0 ≤ remaining)
    (state : Distributing members targets eligible) (fair : IsFair members targets)
    (runs : 0 < remaining → RunsFair members targets eligible) :
    IsFair members (distributeLoop members targets remaining eligible) := by
  induction targets, remaining, eligible using distributeLoop.induct members with
  | case1 targets remaining eligible guard share remainder round stuck =>
    obtain ⟨exact, admissible, _, _⟩ := state.round_of_loop remainingNonneg guard.2
    obtain ⟨nextState, nextBelow⟩ := state.round exact admissible
    rw [distributeLoop, if_pos guard, if_pos stuck]
    exact (runs guard.1).isFair_round state
      (Int.ediv_nonneg remainingNonneg (Int.natCast_nonneg _)) exact nextState nextBelow
  | case2 targets remaining eligible guard share remainder round moved ih =>
    obtain ⟨exact, admissible, _, bounded⟩ := state.round_of_loop remainingNonneg guard.2
    obtain ⟨nextState, nextBelow⟩ := state.round exact admissible
    have shareNonneg : 0 ≤ share := Int.ediv_nonneg remainingNonneg (Int.natCast_nonneg _)
    have nextFair := (runs guard.1).isFair_round state shareNonneg exact nextState nextBelow
    rw [distributeLoop, if_pos guard, if_neg moved]
    refine ih (sub_nonneg.mpr bounded) nextState nextFair fun leftOver => ?_
    refine (runs guard.1).round shareNonneg exact nextBelow ?_
    rw [roundQuota_share guard.2]
    exact (sub_pos.mp leftOver).ne
  | case3 targets remaining eligible guard =>
    rw [distributeLoop, if_neg guard]
    exact fair

end Loop

theorem distributeEvenlyWithCaps_fair (members : List EnergyAllocationMemberInput)
    (capacity : ℚ) : IsFair members (distributeEvenlyWithCaps members capacity) := by
  refine distributeLoop_fair (le_max_left 0 _) (distributing_start members)
    (isFair_zeros members) fun _ => ?_
  intro first _ second _
  rw [targetAt_zeros, targetAt_zeros, List.length_range]

/-- Both in the division of any capacity and in the equal method. -/
theorem allocateEqual_fair (members : List EnergyAllocationMemberInput) (capacity : ℚ)
    (effectiveLimitAmps : Int) : IsFair members (distributeEvenlyWithCaps members capacity) ∧
      IsFair members (allocateEqual members effectiveLimitAmps) := by
  refine ⟨distributeEvenlyWithCaps_fair members capacity, ?_⟩
  rw [allocateEqual]
  split
  · exact isFair_zeros members
  · exact distributeEvenlyWithCaps_fair members effectiveLimitAmps

theorem distributeLoop_eq_of_round {members : List EnergyAllocationMemberInput}
    {targets next : List Int} {remaining left share remainder assigned : Int}
    {eligible nextEligible : List Nat} (guard : 0 < remaining ∧ 0 < eligible.length)
    (isShare : remaining / eligible.length = share)
    (isRemainder : remaining % eligible.length = remainder)
    (isRound : distributeRound members share remainder 0 eligible ⟨targets, 0, []⟩ =
      ⟨next, assigned, nextEligible⟩)
    (moved : 0 < assigned) (isLeft : remaining - assigned = left) :
    distributeLoop members targets remaining eligible =
      distributeLoop members next left nextEligible := by
  rw [distributeLoop, if_pos guard]
  simp only [isShare, isRemainder, isRound, if_neg (not_le.mpr moved), isLeft]

namespace Sample

def uneven : List EnergyAllocationMemberInput :=
  [claimant "first" 0 none, claimant "second" 0 none, claimant "third" 0 (some 1)]

theorem distribute_uneven : distributeEvenlyWithCaps uneven 7 = [4, 2, 1] := by
  have firstRound : distributeRound uneven 2 1 0 [0, 1, 2] ⟨[0, 0, 0], 0, []⟩ =
      ⟨[3, 2, 1], 6, [0, 1]⟩ := by
    decide +kernel
  have secondRound : distributeRound uneven 0 1 0 [0, 1] ⟨[3, 2, 1], 0, []⟩ =
      ⟨[4, 2, 1], 1, [0, 1]⟩ := by
    decide +kernel
  have floorSeven : max 0 ⌊(7 : ℚ)⌋ = 7 := by
    norm_num
  rw [distributeEvenlyWithCaps, floorSeven]
  have first : distributeLoop uneven [0, 0, 0] 7 [0, 1, 2] =
      distributeLoop uneven [3, 2, 1] 1 [0, 1] := by
    exact distributeLoop_eq_of_round (by decide) rfl rfl firstRound (by decide) rfl
  have second : distributeLoop uneven [3, 2, 1] 1 [0, 1] =
      distributeLoop uneven [4, 2, 1] 0 [0, 1] := by
    exact distributeLoop_eq_of_round (by decide) rfl rfl secondRound (by decide) rfl
  have last : distributeLoop uneven [4, 2, 1] 0 [0, 1] = [4, 2, 1] := by
    rw [distributeLoop, if_neg (by decide)]
  exact first.trans (second.trans last)

end Sample

/-- The second charger is two amps behind the first one, and could take more. -/
theorem two_amps_behind : targetAt (distributeEvenlyWithCaps Sample.uneven 7) 1 <
        targetAt (distributeEvenlyWithCaps Sample.uneven 7) 0 - 1 ∧
      isAtCap Sample.uneven (distributeEvenlyWithCaps Sample.uneven 7) 1 = false := by
  rw [Sample.distribute_uneven]
  decide +kernel

end Csms.EnergyManagement
