import Csms.Allocation.Feasible
import Csms.EnergyManagement.Logic.Core

/-!
# Dividing amps among capped members

`distributeEvenlyWithCaps` hands out equal shares round after round, the
remainder one amp each to the first members, and drops members that have
reached their cap from the next round.  Each round hands out at most what
remains, which is the invariant that makes the result feasible for any capacity.
`allocatePriority` runs it band by band on what earlier bands leave over.
-/

namespace Csms.EnergyManagement

open Allocation Js

/-- A member's cap in whole amps, if it has one. -/
def memberCap (member : EnergyAllocationMemberInput) : Option Int :=
  normalizeOptionalInt member.maxAmps

def memberCaps (members : List EnergyAllocationMemberInput) : List (Option Int) :=
  members.map memberCap

theorem memberCaps_nonneg (members : List EnergyAllocationMemberInput) :
    ∀ cap ∈ memberCaps members, ∀ limit, cap = some limit → 0 ≤ limit := by
  intro cap member limit equal
  obtain ⟨claimant, _, rfl⟩ := List.mem_map.mp member
  exact nonneg_of_normalizeOptionalInt equal

/-- What the `forEach` over the eligible members of one round updates. -/
structure DistributionRound where
  targets : List Int
  assigned : Int
  nextEligible : List Nat
  deriving DecidableEq, Repr

/-- The body of the `forEach`: the member at `index` is the `position`-th
eligible one. -/
def distributeToMember (members : List EnergyAllocationMemberInput) (share remainder : Int)
    (round : DistributionRound) (position index : Nat) : DistributionRound :=
  let cap := ((memberCaps members)[index]?).getD none
  let current := (round.targets[index]?).getD 0
  let desired := current + share + if (position : Int) < remainder then 1 else 0
  let capped := match cap with
    | none => desired
    | some limit => min desired limit
  let delta := capped - current
  { targets := round.targets.set index capped
    assigned := round.assigned + delta
    nextEligible :=
      if cap.all fun limit => capped < limit then
        round.nextEligible ++ [index]
      else
        round.nextEligible }

/-- The `forEach` over the eligible members, from one position on. -/
def distributeRound (members : List EnergyAllocationMemberInput) (share remainder : Int) :
    Nat → List Nat → DistributionRound → DistributionRound
  | _, [], round => round
  | position, index :: rest, round =>
    distributeRound members share remainder (position + 1) rest
      (distributeToMember members share remainder round position index)

/-- The most that `count` members can be handed from `position` on. -/
def roundQuota (share remainder : Int) : Nat → Nat → Int
  | _, 0 => 0
  | position, count + 1 =>
    share + (if (position : Int) < remainder then 1 else 0) +
      roundQuota share remainder (position + 1) count

theorem roundQuota_eq (share remainder : Int) (position count : Nat) :
    roundQuota share remainder position count =
      count * share + max 0 (min (remainder - position) count) := by
  induction count generalizing position with
  | zero => simp [roundQuota]
  | succ count ih =>
    rw [roundQuota, ih]
    have expand : ((count + 1 : Nat) : Int) * share = count * share + share := by
      push_cast
      ring
    rw [expand]
    split <;> push_cast <;> omega

/-- What a round keeps while it hands out at most `quota`. -/
structure RoundKeeps (members : List EnergyAllocationMemberInput) (quota : Int)
    (offered : List Nat) (before after : DistributionRound) : Prop where
  admissible : List.Forall₂ Admissible (memberCaps members) after.targets
  accounted : after.targets.sum - after.assigned = before.targets.sum - before.assigned
  bounded : after.assigned ≤ before.assigned + quota
  eligible : ∀ index ∈ after.nextEligible, index ∈ before.nextEligible ∨ index ∈ offered

variable {members : List EnergyAllocationMemberInput}

theorem distributeToMember_keeps {share : Int} (shareNonneg : 0 ≤ share) (remainder : Int)
    {round : DistributionRound}
    (admissible : List.Forall₂ Admissible (memberCaps members) round.targets) (position : Nat)
    {index : Nat} (inRange : index < (memberCaps members).length) :
    RoundKeeps members (share + if (position : Int) < remainder then 1 else 0) [index] round
      (distributeToMember members share remainder round position index) := by
  have currentAdmissible := admissible_getElem admissible inRange
  have targetsInRange : index < round.targets.length := by
    rw [← admissible.length_eq]
    exact inRange
  have capEq : ((memberCaps members)[index]?).getD none = (memberCaps members)[index] := by
    simp [inRange]
  have capNonneg : ∀ limit, (memberCaps members)[index] = some limit → 0 ≤ limit :=
    memberCaps_nonneg members _ (List.getElem_mem inRange)
  have bonusNonneg : (0 : Int) ≤ if (position : Int) < remainder then 1 else 0 := by
    split <;> decide
  have currentEq : (round.targets[index]?).getD 0 = round.targets[index] := by
    simp [targetsInRange]
  rw [currentEq] at currentAdmissible
  have sumSet (value : Int) : (round.targets.set index value).sum =
      round.targets.sum + (value - round.targets[index]) := by
    rw [List.sum_set', dif_pos targetsInRange]
    ring
  constructor
  · apply admissible_set admissible
    rw [capEq]
    cases cap : (memberCaps members)[index] with
    | none =>
      refine ⟨?_, by simp⟩
      linarith [currentAdmissible.1]
    | some limit =>
      refine ⟨le_min (by linarith [currentAdmissible.1]) (capNonneg limit cap), ?_⟩
      intro other equal
      cases equal
      exact min_le_right _ _
  · simp only [distributeToMember, currentEq, sumSet]
    ring
  · simp only [distributeToMember, capEq, currentEq]
    cases (memberCaps members)[index] with
    | none => linarith
    | some limit =>
      have cappedLe := min_le_left
        (round.targets[index] + share + if (position : Int) < remainder then 1 else 0) limit
      linarith
  · intro other member
    -- the index is appended or not; either way nothing else is
    have kept : other ∈ round.nextEligible ++ [index] := by
      unfold distributeToMember at member
      dsimp only at member
      split_ifs at member
      all_goals first
        | exact member
        | exact List.mem_append_left _ member
    simpa using kept

theorem RoundKeeps.trans {quota more : Int} {offered rest : List Nat}
    {before middle after : DistributionRound}
    (first : RoundKeeps members quota offered before middle)
    (second : RoundKeeps members more rest middle after) :
    RoundKeeps members (quota + more) (offered ++ rest) before after where
  admissible := second.admissible
  accounted := second.accounted.trans first.accounted
  bounded := by linarith [first.bounded, second.bounded]
  eligible := by
    intro index member
    rcases second.eligible index member with inMiddle | inRest
    · rcases first.eligible index inMiddle with inBefore | inOffered
      · exact Or.inl inBefore
      · exact Or.inr (List.mem_append_left _ inOffered)
    · exact Or.inr (List.mem_append_right _ inRest)

theorem distributeRound_keeps {share : Int} (shareNonneg : 0 ≤ share) (remainder : Int)
    (position : Nat) {offered : List Nat}
    (inRange : ∀ index ∈ offered, index < (memberCaps members).length) (round : DistributionRound)
    (admissible : List.Forall₂ Admissible (memberCaps members) round.targets) :
    RoundKeeps members (roundQuota share remainder position offered.length) offered round
      (distributeRound members share remainder position offered round) := by
  induction offered generalizing position round with
  | nil => exact ⟨admissible, rfl, by simp [distributeRound, roundQuota], fun _ => Or.inl⟩
  | cons index rest ih =>
    have first := distributeToMember_keeps shareNonneg remainder admissible position
      (inRange index List.mem_cons_self)
    have later := ih (position + 1)
      (fun other member => inRange other (List.mem_cons_of_mem _ member)) _ first.admissible
    exact first.trans later

/-- The `while` loop of `distributeEvenlyWithCaps`.  A round that assigns
nothing breaks out of it, so what remains decreases in every other one. -/
def distributeLoop (members : List EnergyAllocationMemberInput) (targets : List Int)
    (remaining : Int) (eligible : List Nat) : List Int :=
  if 0 < remaining ∧ 0 < eligible.length then
    let share := remaining / eligible.length
    let remainder := remaining % eligible.length
    let round := distributeRound members share remainder 0 eligible ⟨targets, 0, []⟩
    if round.assigned ≤ 0 then
      round.targets
    else
      distributeLoop members round.targets (remaining - round.assigned) round.nextEligible
  else
    targets
termination_by remaining.toNat
decreasing_by
  change (remaining - round.assigned).toNat < remaining.toNat
  omega

/-- `capacity` is a finite number; it is rounded down. -/
def distributeEvenlyWithCaps (members : List EnergyAllocationMemberInput) (capacity : ℚ) :
    List Int :=
  distributeLoop members (members.map fun _ => 0) (max 0 ⌊capacity⌋) (List.range members.length)

variable {remaining : Int}

/-- Equal shares of a round and the remainder add up to what remains. -/
theorem roundQuota_share {count : Nat} (countPos : 0 < count) :
    roundQuota (remaining / count) (remaining % count) 0 count = remaining := by
  have countPos' : (0 : Int) < count := by exact_mod_cast countPos
  have remainderNonneg := Int.emod_nonneg remaining countPos'.ne'
  have remainderLt := Int.emod_lt_of_pos remaining countPos'
  rw [roundQuota_eq]
  have bonus : max 0 (min (remaining % count - ((0 : Nat) : Int)) count) = remaining % count := by
    omega
  rw [bonus]
  exact Int.mul_ediv_add_emod remaining count

/-- The loop's invariant: targets stay admissible, and what they hold together
never exceeds what they held before plus what remained. -/
theorem distributeLoop_feasible {targets : List Int} {eligible : List Nat}
    (remainingNonneg : 0 ≤ remaining)
    (inRange : ∀ index ∈ eligible, index < (memberCaps members).length)
    (admissible : List.Forall₂ Admissible (memberCaps members) targets) :
    Feasible (memberCaps members) (targets.sum + remaining)
      (distributeLoop members targets remaining eligible) := by
  induction targets, remaining, eligible using distributeLoop.induct members with
  | case1 targets remaining eligible guard share remainder round stuck =>
    rw [distributeLoop, if_pos guard, if_pos stuck]
    have keeps := distributeRound_keeps
      (Int.ediv_nonneg remainingNonneg (by omega) : 0 ≤ share) remainder 0 inRange
      ⟨targets, 0, []⟩ admissible
    refine ⟨keeps.admissible, ?_⟩
    have accounted := keeps.accounted
    linarith
  | case2 targets remaining eligible guard share remainder round moved ih =>
    rw [distributeLoop, if_pos guard, if_neg moved]
    have keeps := distributeRound_keeps
      (Int.ediv_nonneg remainingNonneg (by omega) : 0 ≤ share) remainder 0 inRange
      ⟨targets, 0, []⟩ admissible
    have bounded := keeps.bounded
    rw [roundQuota_share guard.2, zero_add] at bounded
    have accounted := keeps.accounted
    have nextInRange : ∀ index ∈ round.nextEligible, index < (memberCaps members).length := by
      intro index member
      rcases keeps.eligible index member with absent | offered
      · simp at absent
      · exact inRange index offered
    have later := ih (by linarith) nextInRange keeps.admissible
    have capacityEq : round.targets.sum + (remaining - round.assigned) =
        targets.sum + remaining := by
      linarith
    rw [capacityEq] at later
    exact later
  | case3 targets remaining eligible guard =>
    rw [distributeLoop, if_neg guard]
    exact ⟨admissible, by linarith⟩

/-- The shares are feasible for the capacity rounded down. -/
theorem distributeEvenlyWithCaps_feasible (members : List EnergyAllocationMemberInput)
    (capacity : ℚ) : Feasible (memberCaps members) (max 0 ⌊capacity⌋)
      (distributeEvenlyWithCaps members capacity) := by
  have zeros := admissible_zeros (memberCaps_nonneg members)
  have zerosEq : (memberCaps members).map (fun _ => (0 : Int)) = members.map fun _ => 0 :=
    List.map_map
  rw [zerosEq] at zeros
  have inRange : ∀ index ∈ List.range members.length, index < (memberCaps members).length := by
    simp [memberCaps]
  have feasible := distributeLoop_feasible (le_max_left 0 ⌊capacity⌋) inRange zeros
  have sumZero : (members.map fun _ => (0 : Int)).sum = 0 := by simp
  rw [sumZero, zero_add] at feasible
  exact feasible

def allocateEqual (members : List EnergyAllocationMemberInput) (effectiveLimitAmps : Int) :
    List Int :=
  if members.length = 0 ∨ effectiveLimitAmps ≤ 0 then
    members.map fun _ => 0
  else
    distributeEvenlyWithCaps members effectiveLimitAmps

/-- The `while` loop of `allocatePriority`, on the members from its cursor on:
the members of the first priority form a band that is served from what remains,
and whoever is left when nothing remains gets nothing. -/
def allocateBands : List EnergyAllocationMemberInput → Int → List Int
  | [], _ => []
  | member :: rest, remaining =>
    if 0 < remaining then
      let band := member :: rest.takeWhile fun other => other.priority = member.priority
      let bandTargets := distributeEvenlyWithCaps band remaining
      bandTargets ++
        allocateBands (rest.dropWhile fun other => other.priority = member.priority)
          (remaining - bandTargets.sum)
    else
      (member :: rest).map fun _ => 0
termination_by members => members.length
decreasing_by
  simp only [List.length_cons]
  exact Nat.lt_succ_of_le (List.dropWhile_suffix _).length_le

def allocatePriority (members : List EnergyAllocationMemberInput) (effectiveLimitAmps : Int) :
    List Int :=
  if members.length = 0 ∨ effectiveLimitAmps ≤ 0 then
    members.map fun _ => 0
  else
    allocateBands members effectiveLimitAmps

theorem zeros_feasible (members : List EnergyAllocationMemberInput) {capacity : Int}
    (capacityNonneg : 0 ≤ capacity) :
    Feasible (memberCaps members) capacity (members.map fun _ => 0) := by
  have zeros := feasible_zeros capacityNonneg (memberCaps_nonneg members)
  rwa [memberCaps, List.map_map] at zeros

theorem distribute_amps_feasible (members : List EnergyAllocationMemberInput) {amps : Int}
    (ampsNonneg : 0 ≤ amps) :
    Feasible (memberCaps members) amps (distributeEvenlyWithCaps members amps) := by
  have feasible := distributeEvenlyWithCaps_feasible members amps
  rwa [Int.floor_intCast, max_eq_right ampsNonneg] at feasible

theorem allocateBands_feasible (members : List EnergyAllocationMemberInput)
    (remainingNonneg : 0 ≤ remaining) :
    Feasible (memberCaps members) remaining (allocateBands members remaining) := by
  induction members, remaining using allocateBands.induct with
  | case1 remaining =>
    rw [allocateBands]
    exact ⟨List.Forall₂.nil, by simpa using remainingNonneg⟩
  | case2 member rest remaining positive band bandTargets ih =>
    rw [allocateBands, if_pos positive]
    have served : Feasible (memberCaps band) remaining bandTargets :=
      distribute_amps_feasible band remainingNonneg
    have later := ih (by linarith [served.total])
    have capsEq : memberCaps (member :: rest) = memberCaps band ++
        memberCaps (rest.dropWhile fun other => other.priority = member.priority) := by
      simp only [memberCaps, band, ← List.map_append, List.cons_append,
        List.takeWhile_append_dropWhile]
    rw [capsEq]
    exact served.append later
  | case3 member rest remaining exhausted =>
    rw [allocateBands, if_neg exhausted]
    exact zeros_feasible _ remainingNonneg

/-- The equal method never hands out more than the limit. -/
theorem allocateEqual_feasible (members : List EnergyAllocationMemberInput)
    {effectiveLimitAmps : Int} (limitNonneg : 0 ≤ effectiveLimitAmps) :
    Feasible (memberCaps members) effectiveLimitAmps
      (allocateEqual members effectiveLimitAmps) := by
  unfold allocateEqual
  split
  · exact zeros_feasible members limitNonneg
  · exact distribute_amps_feasible members limitNonneg

/-- The priority method never hands out more than the limit. -/
theorem allocatePriority_feasible (members : List EnergyAllocationMemberInput)
    {effectiveLimitAmps : Int} (limitNonneg : 0 ≤ effectiveLimitAmps) :
    Feasible (memberCaps members) effectiveLimitAmps
      (allocatePriority members effectiveLimitAmps) := by
  unfold allocatePriority
  split
  · exact zeros_feasible members limitNonneg
  · exact allocateBands_feasible members limitNonneg

end Csms.EnergyManagement
