import Csms.EnergyManagement.Logic.Rounds

/-!
# Nothing is left over

From its second round on the loop offers amps only to members below their caps, so each round
places some, and the loop ends when nothing remains or everybody is at the cap.  The first round
also offers to members whose cap is zero: when its first offers go to such members only, it
places nothing and the loop breaks off.
-/

namespace Csms.EnergyManagement

open Allocation

/-- A state of the loop: who is not eligible is at the cap. -/
structure Distributing (members : List EnergyAllocationMemberInput) (targets : List Int)
    (eligible : List Nat) : Prop where
  distinct : eligible.Nodup
  inRange : ∀ index ∈ eligible, index < members.length
  admissible : List.Forall₂ Admissible (memberCaps members) targets
  full : ∀ index < members.length, index ∉ eligible →
    capAt members index = some (targetAt targets index)

/-- Everybody who is eligible can take more. -/
def AllBelow (members : List EnergyAllocationMemberInput) (targets : List Int)
    (eligible : List Nat) : Prop :=
  ∀ index ∈ eligible, isBelowCap (capAt members index) (targetAt targets index) = true

variable {cap : Option Int} {remaining : Int}

section Loop

variable {members : List EnergyAllocationMemberInput} {targets : List Int} {eligible : List Nat}

theorem Distributing.length_eq (state : Distributing members targets eligible) :
    targets.length = members.length := by
  rw [← state.admissible.length_eq, memberCaps, List.length_map]

theorem admissible_capAt (admissible : List.Forall₂ Admissible (memberCaps members) targets)
    {index : Nat} (inRange : index < members.length) :
    Admissible (capAt members index) (targetAt targets index) := by
  have inCaps : index < (memberCaps members).length := by
    rwa [memberCaps, List.length_map]
  have here := admissible_getElem admissible inCaps
  rwa [capAt, List.getElem?_eq_getElem inCaps]

theorem capAt_eq_of_not_isBelowCap {target : Int} (admissible : Admissible cap target)
    (isNot : isBelowCap cap target = false) : cap = some target := by
  rw [← Bool.not_eq_true, isBelowCap_iff] at isNot
  push Not at isNot
  obtain ⟨limit, isCap, reached⟩ := isNot
  rw [isCap, le_antisymm (admissible.2 limit isCap) reached]

variable {share remainder : Int} {after : DistributionRound}

theorem Distributing.round (state : Distributing members targets eligible)
    (exact : RoundExact members share remainder 0 eligible ⟨targets, 0, []⟩ after)
    (admissible : List.Forall₂ Admissible (memberCaps members) after.targets) :
    Distributing members after.targets after.nextEligible ∧
      AllBelow members after.targets after.nextEligible := by
  have next : after.nextEligible = eligible.filter fun index =>
      isBelowCap (capAt members index) (targetAt after.targets index) := by
    rw [exact.next, List.nil_append]
  have isNext {index : Nat} : index ∈ after.nextEligible ↔ index ∈ eligible ∧
      isBelowCap (capAt members index) (targetAt after.targets index) = true := by
    rw [next, List.mem_filter]
  refine ⟨⟨?_, ?_, admissible, ?_⟩, fun index member => (isNext.mp member).2⟩
  · rw [next]
    exact state.distinct.filter _
  · exact fun index member => state.inRange index (isNext.mp member).1
  · intro index inRange isNot
    by_cases isOffered : index ∈ eligible
    · have reached : isBelowCap (capAt members index) (targetAt after.targets index) = false := by
        rw [← Bool.not_eq_true]
        exact fun below => isNot (isNext.mpr ⟨isOffered, below⟩)
      exact capAt_eq_of_not_isBelowCap (admissible_capAt admissible inRange) reached
    · rw [exact.others index isOffered]
      exact state.full index inRange isOffered

theorem le_raised {current amount : Int} (admissible : Admissible cap current)
    (amountNonneg : 0 ≤ amount) : current ≤ raised cap current amount := by
  cases cap with
  | none => exact le_add_of_nonneg_right amountNonneg
  | some limit => exact le_min (le_add_of_nonneg_right amountNonneg) (admissible.2 limit rfl)

theorem lt_raised {current amount : Int} (below : isBelowCap cap current = true)
    (amountPos : 0 < amount) : current < raised cap current amount := by
  cases cap with
  | none => exact lt_add_of_pos_right current amountPos
  | some limit =>
    exact lt_min (lt_add_of_pos_right current amountPos) (isBelowCap_iff.mp below limit rfl)

section

variable {first second : List Int} (sameLength : first.length = second.length)
    (le : ∀ index, targetAt first index ≤ targetAt second index)
include sameLength le

theorem sum_le_sum_of_targetAt : first.sum ≤ second.sum := by
  induction first generalizing second with
  | nil => rw [List.length_eq_zero_iff.mp sameLength.symm]
  | cons target first ih =>
    cases second with
    | nil => contradiction
    | cons other second =>
      rw [List.sum_cons, List.sum_cons]
      exact add_le_add (le 0) (ih (Nat.succ.inj sameLength) fun index => le (index + 1))

theorem sum_lt_sum_of_targetAt {index : Nat} (lt : targetAt first index < targetAt second index) :
    first.sum < second.sum := by
  induction first generalizing second index with
  | nil =>
    rw [List.length_eq_zero_iff.mp sameLength.symm] at lt
    exact absurd lt (lt_irrefl _)
  | cons target first ih =>
    cases second with
    | nil => contradiction
    | cons other second =>
      have restLength := Nat.succ.inj sameLength
      rw [List.sum_cons, List.sum_cons]
      cases index with
      | zero =>
        exact add_lt_add_of_lt_of_le lt
          (sum_le_sum_of_targetAt restLength fun index => le (index + 1))
      | succ index =>
        exact add_lt_add_of_le_of_lt (le 0)
          (ih restLength (fun index => le (index + 1)) lt)

end

theorem RoundExact.le (exact : RoundExact members share remainder 0 eligible ⟨targets, 0, []⟩ after)
    (state : Distributing members targets eligible) (shareNonneg : 0 ≤ share) (index : Nat) :
    targetAt targets index ≤ targetAt after.targets index := by
  by_cases isOffered : index ∈ eligible
  · exact (le_raised (admissible_capAt state.admissible (state.inRange index isOffered))
      shareNonneg).trans (exact.bounds isOffered).1
  · exact (exact.others index isOffered).ge

/-- The first member of a round is offered something. -/
theorem offerAt_zero_pos {count : Nat} (remainingPos : 0 < remaining) (countPos : 0 < count) :
    0 < offerAt (remaining / count) (remaining % count) 0 := by
  have countPos' : (0 : Int) < count := by exact_mod_cast countPos
  have shareNonneg := Int.ediv_nonneg remainingPos.le countPos'.le
  have whole := Int.mul_ediv_add_emod remaining count
  rw [offerAt]
  split
  · omega
  · rename_i noRemainder
    have remainderNonneg := Int.emod_nonneg remaining countPos'.ne'
    have noShare : remaining / count ≠ 0 := by
      intro zero
      rw [zero, mul_zero, zero_add] at whole
      rw [whole] at noRemainder
      exact noRemainder (by exact_mod_cast remainingPos)
    omega

theorem Distributing.round_of_loop (state : Distributing members targets eligible)
    (remainingNonneg : 0 ≤ remaining) (someEligible : 0 < eligible.length) :
    let round := distributeRound members (remaining / eligible.length)
      (remaining % eligible.length) 0 eligible ⟨targets, 0, []⟩
    RoundExact members (remaining / eligible.length) (remaining % eligible.length) 0 eligible
        ⟨targets, 0, []⟩ round ∧
      List.Forall₂ Admissible (memberCaps members) round.targets ∧
      round.targets.sum = targets.sum + round.assigned ∧ round.assigned ≤ remaining := by
  have inCaps : ∀ index ∈ eligible, index < (memberCaps members).length := by
    intro index member
    rw [memberCaps, List.length_map]
    exact state.inRange index member
  have inTargets : ∀ index ∈ eligible, index < targets.length := by
    intro index member
    rw [state.length_eq]
    exact state.inRange index member
  have keeps := distributeRound_keeps
    (Int.ediv_nonneg remainingNonneg (Int.natCast_nonneg eligible.length))
    (remaining % eligible.length) 0 inCaps ⟨targets, 0, []⟩ state.admissible
  refine ⟨distributeRound_exact members _ _ 0 state.distinct _ inTargets, keeps.admissible, ?_, ?_⟩
  · have accounted := keeps.accounted
    simp only [sub_zero] at accounted
    rw [← accounted]
    ring
  · have bounded := keeps.bounded
    rwa [roundQuota_share someEligible, zero_add] at bounded

/-- Among members that can take more, a round places something. -/
theorem Distributing.assigned_pos (state : Distributing members targets eligible)
    (below : AllBelow members targets eligible) (remainingPos : 0 < remaining)
    (someEligible : 0 < eligible.length)
    (exact : RoundExact members (remaining / eligible.length) (remaining % eligible.length) 0 eligible ⟨targets, 0, []⟩ after)
    (accounted : after.targets.sum = targets.sum + after.assigned) : 0 < after.assigned := by
  have first := exact.exact 0 someEligible
  have isFirst := below _ (List.getElem_mem someEligible)
  have gains : targetAt targets eligible[0] < targetAt after.targets eligible[0] := by
    rw [first]
    exact lt_raised isFirst (offerAt_zero_pos remainingPos someEligible)
  have more := sum_lt_sum_of_targetAt exact.length.symm (exact.le state
    (Int.ediv_nonneg remainingPos.le (Int.natCast_nonneg eligible.length))) gains
  linarith

theorem forall₂_of_full (admissible : List.Forall₂ Admissible (memberCaps members) targets)
    (full : ∀ index < members.length, capAt members index = some (targetAt targets index)) :
    List.Forall₂ (fun cap share => cap = some share) (memberCaps members) targets := by
  refine List.forall₂_iff_get.mpr ⟨admissible.length_eq, ?_⟩
  intro index inCaps inTargets
  have inRange : index < members.length := by
    rwa [memberCaps, List.length_map] at inCaps
  have here := full index inRange
  rwa [capAt, targetAt, List.getElem?_eq_getElem inCaps, List.getElem?_eq_getElem inTargets] at here

theorem distributeLoop_usesUp (remainingNonneg : 0 ≤ remaining)
    (state : Distributing members targets eligible) (below : AllBelow members targets eligible) :
    (distributeLoop members targets remaining eligible).sum = targets.sum + remaining ∨
      List.Forall₂ (fun cap share => cap = some share) (memberCaps members)
        (distributeLoop members targets remaining eligible) := by
  induction targets, remaining, eligible using distributeLoop.induct members with
  | case1 targets remaining eligible guard share remainder round stuck =>
    obtain ⟨exact, _, accounted, _⟩ := state.round_of_loop remainingNonneg guard.2
    exact absurd (state.assigned_pos below guard.1 guard.2 exact accounted) (not_lt.mpr stuck)
  | case2 targets remaining eligible guard share remainder round moved ih =>
    obtain ⟨exact, admissible, accounted, bounded⟩ :=
      state.round_of_loop remainingNonneg guard.2
    obtain ⟨nextState, nextBelow⟩ := state.round exact admissible
    rw [distributeLoop, if_pos guard, if_neg moved]
    have whole : targets.sum + remaining = round.targets.sum + (remaining - round.assigned) := by
      rw [accounted]
      ring
    rw [whole]
    exact ih (sub_nonneg.mpr bounded) nextState nextBelow
  | case3 targets remaining eligible guard =>
    rw [distributeLoop, if_neg guard]
    by_cases nothing : remaining = 0
    · exact Or.inl (by rw [nothing, add_zero])
    · have isEmpty : eligible = [] := by
        rw [← List.length_eq_zero_iff]
        omega
      refine Or.inr (forall₂_of_full state.admissible fun index inRange => ?_)
      exact state.full index inRange (by simp [isEmpty])

end Loop

/-- All that the first offers go to are members whose cap is zero. -/
def PlacesNothing (caps : List (Option Int)) (amount : Int) : Prop :=
  0 < amount ∧ ∀ cap ∈ caps.take amount.toNat, cap = some 0

/-- The first offers go to such members, while another one could take some. -/
def Starves (caps : List (Option Int)) (amount : Int) : Prop :=
  PlacesNothing caps amount ∧ ∃ cap ∈ caps, cap ≠ some 0

variable {amount : Int}

section First

variable {members : List EnergyAllocationMemberInput}

theorem distributing_start (members : List EnergyAllocationMemberInput) :
    Distributing members (members.map fun _ => 0) (List.range members.length) where
  distinct := List.nodup_range
  inRange := by simp
  admissible := by
    have zeros := admissible_zeros (memberCaps_nonneg members)
    rwa [memberCaps, List.map_map] at zeros
  full index inRange isNot := absurd (List.mem_range.mpr inRange) isNot

theorem targetAt_zeros (index : Nat) : targetAt (members.map fun _ => 0) index = 0 := by
  rw [targetAt, List.getElem?_map]
  cases members[index]? <;> rfl

/-- Who is offered something in the first round: everybody when there is enough, else as many
as there are amps. -/
theorem offerAt_pos_iff {count position : Nat} (remainingPos : 0 < remaining)
    (inRange : position < count) : 0 < offerAt (remaining / count) (remaining % count) position ↔
      position < remaining.toNat := by
  have countPos : (0 : Int) < count := by exact_mod_cast Nat.zero_lt_of_lt inRange
  have shareNonneg := Int.ediv_nonneg remainingPos.le countPos.le
  rw [offerAt]
  rcases lt_or_ge remaining count with few | enough
  · rw [Int.ediv_eq_zero_of_lt remainingPos.le few, Int.emod_eq_of_lt remainingPos.le few]
    split <;> omega
  · have someShare : 1 ≤ remaining / count :=
      Int.le_ediv_of_mul_le countPos (by rwa [one_mul])
    split <;> omega

theorem eq_zeros {targets : List Int} (length : targets.length = members.length)
    (zero : ∀ index, targetAt targets index = 0) : targets = members.map fun _ => 0 := by
  apply List.ext_getElem
  · rw [length, List.length_map]
  · intro index inTargets inZeros
    have here := zero index
    rw [targetAt, List.getElem?_eq_getElem inTargets, Option.getD_some] at here
    rw [here, List.getElem_map]

theorem targetAt_firstRound {after : DistributionRound}
    (exact : RoundExact members (amount / members.length) (amount % members.length) 0 (List.range members.length) ⟨members.map fun _ => 0, 0, []⟩ after)
    {index : Nat} (inRange : index < members.length) :
    targetAt after.targets index = raised (capAt members index) 0
      (offerAt (amount / members.length) (amount % members.length) index) := by
  have here := exact.exact index (by rwa [List.length_range])
  rwa [List.getElem_range, targetAt_zeros, zero_add] at here

theorem mem_take_caps_iff {amount : Nat} : cap ∈ (memberCaps members).take amount ↔
      ∃ index < amount, index < members.length ∧ capAt members index = cap := by
  rw [List.mem_take_iff_getElem]
  constructor
  · rintro ⟨index, inBoth, isCap⟩
    rw [lt_min_iff] at inBoth
    refine ⟨index, inBoth.1, by simpa [memberCaps] using inBoth.2, ?_⟩
    rw [capAt, List.getElem?_eq_getElem inBoth.2, isCap, Option.getD_some]
  · rintro ⟨index, isFirst, inRange, isCap⟩
    have inCaps : index < (memberCaps members).length := by
      rwa [memberCaps, List.length_map]
    rw [capAt, List.getElem?_eq_getElem inCaps, Option.getD_some] at isCap
    exact ⟨index, lt_min isFirst inCaps, isCap⟩

theorem firstRound_zeros {after : DistributionRound}
    (exact : RoundExact members (amount / members.length) (amount % members.length) 0 (List.range members.length) ⟨members.map fun _ => 0, 0, []⟩ after)
    (nothing : PlacesNothing (memberCaps members) amount) :
    after.targets = members.map fun _ => 0 := by
  apply eq_zeros
  · rw [exact.length, List.length_map]
  · intro index
    by_cases inRange : index < members.length
    · have nonneg : Admissible (capAt members index) 0 := by
        have here := admissible_capAt (distributing_start members).admissible inRange
        rwa [targetAt_zeros] at here
      have offered := offerAt_pos_iff nothing.1 inRange
      have offerNonneg : 0 ≤ offerAt (amount / members.length) (amount % members.length) index :=
        (Int.ediv_nonneg nothing.1.le (Int.natCast_nonneg _)).trans (offerAt_bounds _ _ _).1
      rw [targetAt_firstRound exact inRange]
      apply le_antisymm
      · by_cases isFirst : index < amount.toNat
        · rw [nothing.2 _ (mem_take_caps_iff.mpr ⟨index, isFirst, inRange, rfl⟩)]
          exact min_le_right _ _
        · have noOffer := not_lt.mp (mt offered.mp isFirst)
          exact (raised_le _ _ _).trans (by rwa [zero_add])
      · exact le_raised nonneg offerNonneg
    · rw [exact.others index (by simpa using inRange), targetAt_zeros]

theorem firstRound_assigned_pos (amountPos : 0 < amount) {after : DistributionRound}
    (exact : RoundExact members (amount / members.length) (amount % members.length) 0 (List.range members.length) ⟨members.map fun _ => 0, 0, []⟩ after)
    (accounted : after.targets.sum = (members.map fun _ => (0 : Int)).sum + after.assigned)
    (places : ¬PlacesNothing (memberCaps members) amount) : 0 < after.assigned := by
  have start := distributing_start members
  obtain ⟨cap, isTaken, notZero⟩ : ∃ cap ∈ (memberCaps members).take amount.toNat, cap ≠ some 0 := by
    by_contra none
    push Not at none
    exact places ⟨amountPos, none⟩
  obtain ⟨index, isFirst, inRange, rfl⟩ := mem_take_caps_iff.mp isTaken
  have nonneg : Admissible (capAt members index) 0 := by
    have here := admissible_capAt start.admissible inRange
    rwa [targetAt_zeros] at here
  have below : isBelowCap (capAt members index) 0 = true := by
    by_contra isNot
    exact notZero (capAt_eq_of_not_isBelowCap nonneg (Bool.eq_false_of_not_eq_true isNot))
  have gains : targetAt (members.map fun _ => (0 : Int)) index < targetAt after.targets index := by
    rw [targetAt_zeros, targetAt_firstRound exact inRange]
    exact lt_raised below ((offerAt_pos_iff amountPos inRange).mpr isFirst)
  have more := sum_lt_sum_of_targetAt exact.length.symm (exact.le start
    (Int.ediv_nonneg amountPos.le (Int.natCast_nonneg _))) gains
  linarith

theorem distributeLoop_start (amountNonneg : 0 ≤ amount) :
    (PlacesNothing (memberCaps members) amount →
        distributeLoop members (members.map fun _ => 0) amount (List.range members.length) =
          members.map fun _ => 0) ∧
      (¬PlacesNothing (memberCaps members) amount →
        (distributeLoop members (members.map fun _ => 0) amount
            (List.range members.length)).sum = amount ∨
          List.Forall₂ (fun cap share => cap = some share) (memberCaps members)
            (distributeLoop members (members.map fun _ => 0) amount
              (List.range members.length))) := by
  by_cases guard : 0 < amount ∧ 0 < (List.range members.length).length
  · have start := distributing_start members
    obtain ⟨exact, admissible, accounted, bounded⟩ :=
      start.round_of_loop amountNonneg guard.2
    have first := exact
    rw [List.length_range] at first accounted bounded
    rw [distributeLoop, if_pos guard, List.length_range]
    constructor
    · intro nothing
      have zeros := firstRound_zeros first nothing
      have stuck : (distributeRound members (amount / members.length) (amount % members.length) 0
          (List.range members.length) ⟨members.map fun _ => 0, 0, []⟩).assigned ≤ 0 := by
        rw [zeros] at accounted
        linarith
      rw [if_pos stuck]
      exact zeros
    · intro places
      have moved := firstRound_assigned_pos guard.1 first accounted places
      rw [if_neg (not_le.mpr moved)]
      obtain ⟨nextState, nextBelow⟩ := start.round exact admissible
      rw [List.length_range] at nextState nextBelow
      have usesUp := distributeLoop_usesUp (sub_nonneg.mpr bounded) nextState nextBelow
      rw [accounted] at usesUp
      rcases usesUp with wholly | full
      · left
        rw [wholly]
        simp
      · exact Or.inr full
  · rw [distributeLoop, if_neg guard]
    refine ⟨fun _ => rfl, fun _ => ?_⟩
    by_cases nothing : amount = 0
    · left
      rw [nothing]
      simp
    · have isEmpty : members = [] := by
        rw [List.length_range] at guard
        rw [← List.length_eq_zero_iff]
        omega
      subst isEmpty
      exact Or.inr List.Forall₂.nil

end First

theorem sum_zeros (members : List EnergyAllocationMemberInput) :
    (members.map fun _ => (0 : Int)).sum = 0 := by
  simp

theorem conserving_of_floor_nonneg (members : List EnergyAllocationMemberInput)
    (amountNonneg : 0 ≤ amount) : Conserving (memberCaps members) amount
        (distributeLoop members (members.map fun _ => 0) amount (List.range members.length)) ↔
      ¬Starves (memberCaps members) amount := by
  have start := @distributeLoop_start amount members amountNonneg
  have feasible : Feasible (memberCaps members) amount
      (distributeLoop members (members.map fun _ => 0) amount (List.range members.length)) := by
    have inCaps : ∀ index ∈ List.range members.length, index < (memberCaps members).length := by
      simp [memberCaps]
    have feasible := distributeLoop_feasible amountNonneg inCaps
      (distributing_start members).admissible
    rwa [sum_zeros, zero_add] at feasible
  by_cases nothing : PlacesNothing (memberCaps members) amount
  · rw [start.1 nothing] at feasible ⊢
    constructor
    · rintro conserving ⟨_, cap, member, notZero⟩
      have positive : (0 : WithTop Int) < min (amount : WithTop Int) (capTotal (memberCaps members)) :=
        lt_min (WithTop.coe_pos.mpr nothing.1)
          (capTotal_pos (memberCaps_nonneg members) member notZero)
      rw [← conserving, sum_zeros] at positive
      exact absurd positive (lt_irrefl _)
    · intro feeds
      have allZero : ∀ cap ∈ memberCaps members, cap = some 0 := by
        by_contra notAll
        push Not at notAll
        exact feeds ⟨nothing, notAll⟩
      refine feasible.conserving (Or.inr (forall₂_of_full feasible.admissible ?_))
      intro index inRange
      have inCaps : index < (memberCaps members).length := by
        rwa [memberCaps, List.length_map]
      rw [targetAt_zeros, capAt, List.getElem?_eq_getElem inCaps]
      exact allZero _ (List.getElem_mem inCaps)
  · refine iff_of_true (feasible.conserving ?_) fun starves => nothing starves.1
    exact start.2 nothing

/-- Everything is handed out exactly if the first offers do not all go to members without a share
while another one could take some. -/
theorem distributeEvenlyWithCaps_conserving_iff (members : List EnergyAllocationMemberInput)
    (capacity : ℚ) :
    Conserving (memberCaps members) ⌊capacity⌋ (distributeEvenlyWithCaps members capacity) ↔
      0 ≤ capacity ∧ ¬Starves (memberCaps members) ⌊capacity⌋ := by
  by_cases isNonneg : 0 ≤ capacity
  · have floorNonneg := Int.floor_nonneg.mpr isNonneg
    rw [distributeEvenlyWithCaps, max_eq_right floorNonneg,
      conserving_of_floor_nonneg members floorNonneg, and_iff_right isNonneg]
  · have floorNeg : ⌊capacity⌋ < 0 := Int.floor_lt.mpr (by simpa using isNonneg)
    refine iff_of_false ?_ fun both => isNonneg both.1
    intro conserving
    have sumNonneg := List.sum_nonneg
      (nonneg_of_admissible (distributeEvenlyWithCaps_feasible members capacity).admissible)
    have atMost : (((distributeEvenlyWithCaps members capacity).sum : Int) : WithTop Int) ≤
        (⌊capacity⌋ : Int) := by
      rw [conserving]
      exact min_le_left _ _
    exact absurd (WithTop.coe_le_coe.mp atMost) (not_le.mpr (floorNeg.trans_le sumNonneg))

namespace Sample

def claimant (chargePointId : String) (priority : Int) (maxAmps : Option Int) :
    EnergyAllocationMemberInput where
  chargePointId := chargePointId
  enabled := true
  priority := priority
  smartChargingEnabled := true
  chargePointOnline := true
  maxAmps := maxAmps.map .ofInt
  lastAppliedAmps := none
  lastAppliedDecisionHash := none
  lastCommandAt := none

def starved : List EnergyAllocationMemberInput :=
  [claimant "dock" 0 (some 0), claimant "free" 0 none]

theorem memberCaps_starved : memberCaps starved = [some 0, none] := by
  simp [memberCaps, memberCap, starved, claimant]

theorem starves_starved : Starves (memberCaps starved) 1 := by
  rw [memberCaps_starved]
  exact ⟨⟨Int.one_pos, by decide⟩, none, by decide, by decide⟩

end Sample

/-- One amp, offered to the charger that may take nothing, is handed to nobody. -/
theorem one_amp_left_over : distributeEvenlyWithCaps Sample.starved 1 = [0, 0] ∧
      ¬Conserving (memberCaps Sample.starved) ⌊(1 : ℚ)⌋
        (distributeEvenlyWithCaps Sample.starved 1) := by
  rw [distributeEvenlyWithCaps, Int.floor_one, max_eq_right Int.one_pos.le]
  exact ⟨(distributeLoop_start Int.one_pos.le).1 Sample.starves_starved.1, fun conserving =>
    (conserving_of_floor_nonneg Sample.starved Int.one_pos.le).mp conserving
      Sample.starves_starved⟩

end Csms.EnergyManagement
