import Csms.EnergyManagement.Logic.Distribution

/-!
# What a round does to each member

A round raises the target of every eligible member by an equal share, and by one more for the
first ones, up to the cap.  The members that stay eligible are those below their caps, and a
round that leaves something over has brought some member to its cap.
-/

namespace Csms.EnergyManagement

open Allocation

def capAt (members : List EnergyAllocationMemberInput) (index : Nat) : Option Int :=
  ((memberCaps members)[index]?).getD none

def targetAt (targets : List Int) (index : Nat) : Int :=
  (targets[index]?).getD 0

/-- The target after one more amount, up to the cap. -/
def raised (cap : Option Int) (current amount : Int) : Int :=
  match cap with
  | none => current + amount
  | some limit => min (current + amount) limit

/-- The member can take more. -/
def isBelowCap (cap : Option Int) (target : Int) : Bool :=
  cap.all fun limit => target < limit

theorem raised_le (cap : Option Int) (current amount : Int) :
    raised cap current amount ≤ current + amount := by
  cases cap with
  | none => exact le_rfl
  | some limit => exact min_le_left _ _

theorem raised_mono {cap : Option Int} {current : Int} {less more : Int} (le : less ≤ more) :
    raised cap current less ≤ raised cap current more := by
  cases cap with
  | none => exact add_le_add_right le current
  | some limit => exact min_le_min_right limit (add_le_add_right le current)

theorem raised_eq_or (cap : Option Int) (current amount : Int) :
    raised cap current amount = current + amount ∨ cap = some (raised cap current amount) := by
  cases cap with
  | none => exact Or.inl rfl
  | some limit =>
    rcases le_total (current + amount) limit with within | beyond
    · exact Or.inl (min_eq_left within)
    · exact Or.inr (congrArg some (min_eq_right beyond).symm)

theorem isBelowCap_iff {cap : Option Int} {target : Int} :
    isBelowCap cap target = true ↔ ∀ limit, cap = some limit → target < limit := by
  simp [isBelowCap, Option.all_eq_true]

theorem raised_eq_of_isBelowCap {cap : Option Int} {current amount : Int}
    (below : isBelowCap cap (raised cap current amount) = true) :
    raised cap current amount = current + amount := by
  rcases raised_eq_or cap current amount with same | isCap
  · exact same
  · exact absurd (isBelowCap_iff.mp below _ isCap) (lt_irrefl _)

section Member

variable {members : List EnergyAllocationMemberInput} {share remainder : Int}
  {round : DistributionRound} {position index : Nat}

def offerAt (share remainder : Int) (position : Nat) : Int :=
  share + if (position : Int) < remainder then 1 else 0

theorem distributeToMember_eq (members : List EnergyAllocationMemberInput) (share remainder : Int)
    (round : DistributionRound) (position index : Nat) :
    distributeToMember members share remainder round position index =
      let target := raised (capAt members index) (targetAt round.targets index)
        (offerAt share remainder position)
      { targets := round.targets.set index target
        assigned := round.assigned + (target - targetAt round.targets index)
        nextEligible :=
          if isBelowCap (capAt members index) target then round.nextEligible ++ [index]
          else round.nextEligible } := by
  have sameTarget : raised (capAt members index) (targetAt round.targets index)
      (offerAt share remainder position) =
        match capAt members index with
        | none => targetAt round.targets index + share +
            if (position : Int) < remainder then 1 else 0
        | some limit => min (targetAt round.targets index + share +
            if (position : Int) < remainder then 1 else 0) limit := by
    simp only [raised, offerAt]
    split <;> rw [add_assoc]
  simp only [sameTarget]
  rfl

theorem targetAt_set_self {targets : List Int} (inRange : index < targets.length) (value : Int) :
    targetAt (targets.set index value) index = value := by
  simp [targetAt, inRange]

theorem targetAt_set_of_ne {targets : List Int} {other : Nat} (apart : index ≠ other)
    (value : Int) : targetAt (targets.set index value) other = targetAt targets other := by
  rw [targetAt, targetAt, List.getElem?_set_ne apart]

end Member

/-- What a round does to the members it is offered to, from a position on. -/
structure RoundExact (members : List EnergyAllocationMemberInput) (share remainder : Int)
    (position : Nat) (offered : List Nat) (before after : DistributionRound) : Prop where
  length : after.targets.length = before.targets.length
  others : ∀ index ∉ offered, targetAt after.targets index = targetAt before.targets index
  exact : ∀ place, (inRange : place < offered.length) →
    targetAt after.targets offered[place] =
      raised (capAt members offered[place]) (targetAt before.targets offered[place])
        (offerAt share remainder (position + place))
  next : after.nextEligible = before.nextEligible ++
    offered.filter fun index => isBelowCap (capAt members index) (targetAt after.targets index)
  spent : after.assigned = before.assigned + roundQuota share remainder position offered.length ∨
    ∃ index ∈ offered, capAt members index = some (targetAt after.targets index)

theorem distributeRound_exact (members : List EnergyAllocationMemberInput) (share remainder : Int)
    (position : Nat) {offered : List Nat} (distinct : offered.Nodup) (round : DistributionRound)
    (inRange : ∀ index ∈ offered, index < round.targets.length) :
    RoundExact members share remainder position offered round
      (distributeRound members share remainder position offered round) := by
  induction offered generalizing position round with
  | nil =>
    refine ⟨rfl, fun _ _ => rfl, fun _ beyond => absurd beyond (Nat.not_lt_zero _), ?_, ?_⟩
    · simp [distributeRound]
    · simp [distributeRound, roundQuota]
  | cons index rest ih =>
    rw [List.nodup_cons] at distinct
    have here := inRange index List.mem_cons_self
    rw [distributeRound, distributeToMember_eq]
    set target := raised (capAt members index) (targetAt round.targets index)
      (offerAt share remainder position) with isTarget
    set middle : DistributionRound :=
      { targets := round.targets.set index target
        assigned := round.assigned + (target - targetAt round.targets index)
        nextEligible :=
          if isBelowCap (capAt members index) target then round.nextEligible ++ [index]
          else round.nextEligible }
    have middleLength : middle.targets.length = round.targets.length := List.length_set
    have later := ih (position + 1) distinct.2 middle (by
      intro other isOther
      rw [middleLength]
      exact inRange other (List.mem_cons_of_mem _ isOther))
    set after := distributeRound members share remainder (position + 1) rest middle
    have stays : targetAt after.targets index = target := by
      rw [later.others index distinct.1]
      exact targetAt_set_self here target
    constructor
    · exact later.length.trans middleLength
    · intro other isOther
      rw [List.mem_cons, not_or] at isOther
      rw [later.others other isOther.2]
      exact targetAt_set_of_ne (Ne.symm isOther.1) target
    · rintro (_ | place) inOffered
      · simpa using stays
      · have inRest : place < rest.length := Nat.lt_of_succ_lt_succ inOffered
        have apart : index ≠ rest[place] := fun same =>
          distinct.1 (same ▸ List.getElem_mem inRest)
        have before : targetAt middle.targets rest[place] = targetAt round.targets rest[place] :=
          targetAt_set_of_ne apart target
        have exact := later.exact place inRest
        rw [before, add_right_comm position 1 place] at exact
        exact exact
    · rw [later.next, List.filter_cons, stays]
      split <;> rename_i below
      · simp [middle, below]
      · simp [middle, below]
    · rcases later.spent with wholly | ⟨other, isOther, isCap⟩
      · rcases raised_eq_or (capAt members index) (targetAt round.targets index)
          (offerAt share remainder position) with same | isCap
        · left
          have given : target = targetAt round.targets index +
              offerAt share remainder position := same
          have spent : middle.assigned = round.assigned + offerAt share remainder position := by
            change round.assigned + (target - targetAt round.targets index) = _
            rw [given]
            ring
          rw [wholly, spent, List.length_cons, roundQuota, ← offerAt]
          ring
        · right
          exact ⟨index, List.mem_cons_self, stays ▸ isCap⟩
      · exact Or.inr ⟨other, List.mem_cons_of_mem _ isOther, isCap⟩

section Round

variable {members : List EnergyAllocationMemberInput} {share remainder : Int} {position : Nat}
  {offered : List Nat} {before after : DistributionRound}

theorem offerAt_bounds (share remainder : Int) (position : Nat) :
    share ≤ offerAt share remainder position ∧ offerAt share remainder position ≤ share + 1 := by
  rw [offerAt]
  split <;> constructor <;> omega

theorem RoundExact.bounds (round : RoundExact members share remainder position offered before after)
    {index : Nat} (isOffered : index ∈ offered) :
    raised (capAt members index) (targetAt before.targets index) share ≤
        targetAt after.targets index ∧ targetAt after.targets index ≤
        raised (capAt members index) (targetAt before.targets index) (share + 1) := by
  obtain ⟨place, inRange, rfl⟩ := List.mem_iff_getElem.mp isOffered
  rw [round.exact place inRange]
  exact ⟨raised_mono (offerAt_bounds _ _ _).1, raised_mono (offerAt_bounds _ _ _).2⟩

end Round

end Csms.EnergyManagement
