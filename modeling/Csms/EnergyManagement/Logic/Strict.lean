import Csms.EnergyManagement.Logic.Conserving
import Csms.EnergyManagement.Logic.Plan
import Mathlib.Data.Int.ConditionallyCompleteOrder

/-!
# How strict priorities are

The bands are served one after another, each from what is left.  A band that is served leaves
something over only if everybody in it is at the cap, unless the division hands out nothing:
then all amps go on to the later bands.
-/

namespace Csms.EnergyManagement

open Allocation

def bandCaps (members : List EnergyAllocationMemberInput) (priority : Int) : List (Option Int) :=
  memberCaps (members.filter fun member => member.priority = priority)

/-- What the members before a priority can take together. -/
def capsBefore (members : List EnergyAllocationMemberInput) (priority : Int) : WithTop Int :=
  capTotal (memberCaps (members.filter fun member => member.priority < priority))

/-- A member of a later band gets something only if those of earlier bands are at their caps. -/
def IsStrict (members : List EnergyAllocationMemberInput) (targets : List Int) : Prop :=
  ∀ first ∈ members.zip targets, ∀ second ∈ members.zip targets,
    first.1.priority < second.1.priority → 0 < second.2 → memberCap first.1 = some first.2

/-- The amps that the members before leave over are offered in an earlier band to members whose
cap is zero, and in a later band to one whose cap is not. -/
def LeaksAmps (members : List EnergyAllocationMemberInput) (limit : Int) : Prop :=
  ∃ earlier later amps : Int, earlier < later ∧
    capsBefore members earlier + (amps : WithTop Int) = (limit : WithTop Int) ∧
      Starves (bandCaps members earlier) amps ∧
        ∃ cap ∈ (bandCaps members later).take amps.toNat, cap ≠ some 0

/-- The order of the bands. -/
def IsSorted (members : List EnergyAllocationMemberInput) : Prop :=
  members.Pairwise fun left right => left.priority ≤ right.priority

variable {amps : Int}

section Band

variable (band : List EnergyAllocationMemberInput)

theorem distribute_amps_eq (ampsNonneg : 0 ≤ amps) : distributeEvenlyWithCaps band amps =
      distributeLoop band (band.map fun _ => 0) amps (List.range band.length) := by
  rw [distributeEvenlyWithCaps, Int.floor_intCast, max_eq_right ampsNonneg]

/-- A band gets nothing although it could take something, or all that it can take, or all that
there is. -/
theorem distribute_cases (ampsPos : 0 < amps) :
    (Starves (memberCaps band) amps ∧ distributeEvenlyWithCaps band amps = band.map fun _ => 0) ∨
      ¬Starves (memberCaps band) amps ∧
        (List.Forall₂ (fun cap share => cap = some share) (memberCaps band)
            (distributeEvenlyWithCaps band amps) ∨
          (distributeEvenlyWithCaps band amps).sum = amps) := by
  have start := @distributeLoop_start amps band ampsPos.le
  rw [← distribute_amps_eq band ampsPos.le] at start
  by_cases starves : Starves (memberCaps band) amps
  · exact Or.inl ⟨starves, start.1 starves.1⟩
  · refine Or.inr ⟨starves, ?_⟩
    by_cases nothing : PlacesNothing (memberCaps band) amps
    · left
      rw [start.1 nothing, memberCaps, List.forall₂_map_left_iff, List.forall₂_map_right_iff,
        List.forall₂_same]
      intro member isMember
      by_contra notZero
      exact starves ⟨nothing, _, List.mem_map_of_mem isMember, notZero⟩
    · exact (start.2 nothing).symm

/-- A division hands out something unless all its offers go to members whose cap is zero. -/
theorem exists_pos_of_distribute (ampsPos : 0 < amps)
    (places : ∃ cap ∈ (memberCaps band).take amps.toNat, cap ≠ some 0) :
    ∃ target ∈ distributeEvenlyWithCaps band amps, 0 < target := by
  have start := @distributeLoop_start amps band ampsPos.le
  rw [← distribute_amps_eq band ampsPos.le] at start
  obtain ⟨cap, isTaken, notZero⟩ := places
  have admissible := (distributeEvenlyWithCaps_feasible band amps).admissible
  by_contra nobody
  push Not at nobody
  have nothing : (distributeEvenlyWithCaps band amps).sum = 0 :=
    List.sum_eq_zero fun target member =>
      le_antisymm (nobody target member) (nonneg_of_admissible admissible target member)
  rcases start.2 fun none => notZero (none.2 cap isTaken) with wholly | full
  · omega
  · have positive := capTotal_pos (memberCaps_nonneg band) (List.mem_of_mem_take isTaken) notZero
    rw [capTotal_eq_of_full full, nothing] at positive
    exact absurd positive (lt_irrefl _)

end Band

/-- The members of one priority before those of later ones. -/
structure IsSplit (band later : List EnergyAllocationMemberInput) (priority : Int) : Prop where
  same : ∀ member ∈ band, member.priority = priority
  after : ∀ member ∈ later, priority < member.priority

theorem IsSorted.split {member : EnergyAllocationMemberInput}
    {rest : List EnergyAllocationMemberInput} (sorted : IsSorted (member :: rest)) :
    IsSplit (member :: rest.takeWhile fun other => other.priority = member.priority)
        (rest.dropWhile fun other => other.priority = member.priority) member.priority ∧
      IsSorted (rest.dropWhile fun other => other.priority = member.priority) := by
  obtain ⟨isFirst, restSorted⟩ := List.pairwise_cons.mp sorted
  refine ⟨⟨?_, ?_⟩, restSorted.sublist (List.dropWhile_suffix _).sublist⟩
  · intro other isOther
    rcases List.mem_cons.mp isOther with rfl | isTaken
    · rfl
    · simpa using List.mem_takeWhile_imp isTaken
  · induction rest with
    | nil => simp
    | cons head tail ih =>
      obtain ⟨headFirst, tailSorted⟩ := List.pairwise_cons.mp restSorted
      have headAfter := isFirst head List.mem_cons_self
      by_cases isSame : head.priority = member.priority
      · rw [List.dropWhile_cons_of_pos (by simpa using isSame)]
        exact ih (List.pairwise_cons.mpr
          ⟨fun other isOther => isFirst other (List.mem_cons_of_mem _ isOther), tailSorted⟩)
          (fun other isOther => isFirst other (List.mem_cons_of_mem _ isOther)) tailSorted
      · rw [List.dropWhile_cons_of_neg (by simpa using isSame)]
        intro other isOther
        rcases List.mem_cons.mp isOther with rfl | isTail
        · exact lt_of_le_of_ne headAfter (Ne.symm isSame)
        · exact (lt_of_le_of_ne headAfter (Ne.symm isSame)).trans_le (headFirst other isTail)

namespace IsSplit

variable {band later : List EnergyAllocationMemberInput} {priority : Int}
  (split : IsSplit band later priority)
include split

theorem bandCaps_self : bandCaps (band ++ later) priority = memberCaps band := by
  rw [bandCaps, List.filter_append, List.filter_eq_self.mpr, List.filter_eq_nil_iff.mpr,
    List.append_nil]
  · intro member isLater
    simpa using (split.after member isLater).ne'
  · intro member isMember
    simpa using split.same member isMember

theorem bandCaps_of_ne {other : Int} (apart : other ≠ priority) :
    bandCaps (band ++ later) other = bandCaps later other := by
  rw [bandCaps, List.filter_append, List.filter_eq_nil_iff.mpr, List.nil_append, bandCaps]
  intro member isMember
  simpa [split.same member isMember] using apart.symm

theorem bandCaps_later {other : Int} (notAfter : other ≤ priority) : bandCaps later other = [] := by
  rw [bandCaps, List.filter_eq_nil_iff.mpr, memberCaps, List.map_nil]
  intro member isLater
  simpa using (notAfter.trans_lt (split.after member isLater)).ne'

theorem capsBefore_self : capsBefore (band ++ later) priority = 0 := by
  rw [capsBefore, List.filter_eq_nil_iff.mpr]
  · rfl
  · intro member isMember
    rcases List.mem_append.mp isMember with inBand | isLater
    · simpa using (split.same member inBand).ge
    · simpa using (split.after member isLater).le

theorem capsBefore_of_lt {other : Int} (isAfter : priority < other) :
    capsBefore (band ++ later) other = capTotal (memberCaps band) + capsBefore later other := by
  rw [capsBefore, List.filter_append, List.filter_eq_self.mpr, memberCaps, List.map_append,
    capTotal_append]
  · rfl
  · intro member isMember
    simpa [split.same member isMember] using isAfter

end IsSplit

theorem not_starves_nil (amps : Int) : ¬Starves [] amps := by
  rintro ⟨_, cap, isMember, _⟩
  exact absurd isMember List.not_mem_nil

theorem capsBefore_nonneg (members : List EnergyAllocationMemberInput) (priority : Int) :
    0 ≤ capsBefore members priority := by
  have zeros := zeros_feasible (members.filter fun member => member.priority < priority) le_rfl
  have atMost := sum_le_capTotal zeros.admissible
  rwa [sum_zeros] at atMost

theorem priority_le_of_starves {band later : List EnergyAllocationMemberInput} {priority : Int}
    (split : IsSplit band later priority) {earlier amps : Int}
    (starves : Starves (bandCaps (band ++ later) earlier) amps) : priority ≤ earlier := by
  by_contra isBefore
  rw [split.bandCaps_of_ne (not_le.mp isBefore).ne,
    split.bandCaps_later (not_le.mp isBefore).le] at starves
  exact not_starves_nil amps starves

theorem coe_add_add_eq_iff {caps : WithTop Int} {sum amps limit : Int} :
    (sum : WithTop Int) + caps + (amps : WithTop Int) = (limit : WithTop Int) ↔
      caps + (amps : WithTop Int) = ((limit - sum : Int) : WithTop Int) := by
  cases caps with
  | top =>
    rw [WithTop.add_top, WithTop.top_add]
    exact iff_of_false WithTop.top_ne_coe WithTop.top_ne_coe
  | coe caps =>
    norm_cast
    omega

namespace IsSplit

variable {band later : List EnergyAllocationMemberInput} {priority limit : Int}
  (split : IsSplit band later priority)
include split

theorem leaksAmps_of_starves (starves : Starves (memberCaps band) limit) :
    LeaksAmps (band ++ later) limit ↔
      ∃ other, ∃ cap ∈ (bandCaps later other).take limit.toNat, cap ≠ some 0 := by
  constructor
  · rintro ⟨earlier, other, amps, isAfter, total, starvesEarlier, cap, isTaken, notZero⟩
    have isLater := (priority_le_of_starves split starvesEarlier).trans_lt isAfter
    rw [split.bandCaps_of_ne isLater.ne'] at isTaken
    refine ⟨other, cap, List.take_subset_take_left _ (Int.toNat_le_toNat ?_) isTaken, notZero⟩
    have before := capsBefore_nonneg (band ++ later) earlier
    have atMost : (amps : WithTop Int) ≤ (limit : WithTop Int) := by
      rw [← total]
      exact le_add_of_nonneg_left before
    exact WithTop.coe_le_coe.mp atMost
  · rintro ⟨other, cap, isTaken, notZero⟩
    have isLater : priority < other := by
      by_contra notLater
      rw [split.bandCaps_later (not_lt.mp notLater), List.take_nil] at isTaken
      exact absurd isTaken List.not_mem_nil
    refine ⟨priority, other, limit, isLater, ?_, ?_, cap, ?_, notZero⟩
    · rw [split.capsBefore_self, zero_add]
    · rwa [split.bandCaps_self]
    · rwa [split.bandCaps_of_ne isLater.ne']

theorem leaksAmps_of_full (fed : ¬Starves (memberCaps band) limit) {sum : Int}
    (total : capTotal (memberCaps band) = (sum : WithTop Int)) :
    LeaksAmps (band ++ later) limit ↔ LeaksAmps later (limit - sum) := by
  constructor
  · rintro ⟨earlier, other, amps, isAfter, left, starves, isOffered⟩
    rcases (priority_le_of_starves split starves).eq_or_lt with rfl | isLater
    · rw [split.capsBefore_self, zero_add, WithTop.coe_eq_coe] at left
      rw [split.bandCaps_self, left] at starves
      exact absurd starves fed
    · rw [split.capsBefore_of_lt isLater, total, coe_add_add_eq_iff] at left
      rw [split.bandCaps_of_ne isLater.ne'] at starves
      rw [split.bandCaps_of_ne (isLater.trans isAfter).ne'] at isOffered
      exact ⟨earlier, other, amps, isAfter, left, starves, isOffered⟩
  · rintro ⟨earlier, other, amps, isAfter, left, starves, isOffered⟩
    have isLater : priority < earlier := by
      by_contra notLater
      rw [split.bandCaps_later (not_lt.mp notLater)] at starves
      exact not_starves_nil amps starves
    refine ⟨earlier, other, amps, isAfter, ?_, ?_, ?_⟩
    · rwa [split.capsBefore_of_lt isLater, total, coe_add_add_eq_iff]
    · rwa [split.bandCaps_of_ne isLater.ne']
    · rwa [split.bandCaps_of_ne (isLater.trans isAfter).ne']

theorem not_leaksAmps_of_exhausted (fed : ¬Starves (memberCaps band) limit)
    (enough : (limit : WithTop Int) ≤ capTotal (memberCaps band)) :
    ¬LeaksAmps (band ++ later) limit := by
  rintro ⟨earlier, other, amps, isAfter, left, starves, isOffered⟩
  rcases (priority_le_of_starves split starves).eq_or_lt with rfl | isLater
  · rw [split.capsBefore_self, zero_add, WithTop.coe_eq_coe] at left
    rw [split.bandCaps_self, left] at starves
    exact fed starves
  · rw [split.capsBefore_of_lt isLater] at left
    have beyond : (limit : WithTop Int) + (amps : WithTop Int) ≤ (limit : WithTop Int) := by
      calc
        (limit : WithTop Int) + (amps : WithTop Int) ≤
            capTotal (memberCaps band) + capsBefore later earlier + (amps : WithTop Int) :=
          add_le_add (le_add_of_le_of_nonneg enough (capsBefore_nonneg later earlier)) le_rfl
        _ = limit := left
    have ampsPos := starves.1.1
    rw [← WithTop.coe_add, WithTop.coe_le_coe] at beyond
    omega

end IsSplit

section Targets

variable {band later : List EnergyAllocationMemberInput} {priority : Int}
  {bandTargets laterTargets : List Int}

theorem getElem_mem_zip {α β : Type} {first : List α} {second : List β} {index : Nat}
    (inFirst : index < first.length) (inSecond : index < second.length) :
    (first[index], second[index]) ∈ first.zip second := by
  have inZip : index < (first.zip second).length := by
    rw [List.length_zip]
    exact lt_min inFirst inSecond
  have member := List.getElem_mem inZip
  rwa [List.getElem_zip] at member

theorem mem_zip_append (sameLength : band.length = bandTargets.length)
    {entry : EnergyAllocationMemberInput × Int} :
    entry ∈ (band ++ later).zip (bandTargets ++ laterTargets) ↔
      entry ∈ band.zip bandTargets ∨ entry ∈ later.zip laterTargets := by
  rw [List.zip_append sameLength, List.mem_append]

namespace IsSplit

variable (split : IsSplit band later priority)
include split

theorem isStrict_of_full
    (full : List.Forall₂ (fun cap share => cap = some share) (memberCaps band) bandTargets) :
    IsStrict (band ++ later) (bandTargets ++ laterTargets) ↔ IsStrict later laterTargets := by
  have sameLength : band.length = bandTargets.length := by
    rw [← full.length_eq, memberCaps, List.length_map]
  constructor
  · intro strict first isFirst second isSecond
    exact strict first ((mem_zip_append sameLength).mpr (Or.inr isFirst)) second
      ((mem_zip_append sameLength).mpr (Or.inr isSecond))
  · intro strict first isFirst second isSecond isAfter isPos
    rcases (mem_zip_append sameLength).mp isFirst with inBand | inLater
    · rw [memberCaps, List.forall₂_map_left_iff] at full
      exact List.forall₂_zip full inBand
    · rcases (mem_zip_append sameLength).mp isSecond with secondBand | secondLater
      · have firstAfter := split.after first.1 (List.of_mem_zip inLater).1
        have secondSame := split.same second.1 (List.of_mem_zip secondBand).1
        omega
      · exact strict first inLater second secondLater isAfter isPos

theorem isStrict_of_nothing_later (sameLength : band.length = bandTargets.length)
    (nothing : ∀ target ∈ laterTargets, target ≤ 0) :
    IsStrict (band ++ later) (bandTargets ++ laterTargets) := by
  intro first isFirst second isSecond isAfter isPos
  rcases (mem_zip_append sameLength).mp isSecond with secondBand | secondLater
  · have secondSame := split.same second.1 (List.of_mem_zip secondBand).1
    rcases (mem_zip_append sameLength).mp isFirst with inBand | inLater
    · have firstSame := split.same first.1 (List.of_mem_zip inBand).1
      omega
    · have firstAfter := split.after first.1 (List.of_mem_zip inLater).1
      omega
  · exact absurd (nothing _ (List.of_mem_zip secondLater).2) (not_le.mpr isPos)

/-- Below a member that gets nothing and could take some, nobody may get anything. -/
theorem isStrict_of_zeros (some : ∃ cap ∈ memberCaps band, cap ≠ some 0)
    (laterLength : later.length = laterTargets.length) :
    IsStrict (band ++ later) ((band.map fun _ => 0) ++ laterTargets) ↔
      ∀ target ∈ laterTargets, target ≤ 0 := by
  have sameLength : band.length = (band.map fun _ => (0 : Int)).length := by
    rw [List.length_map]
  constructor
  · intro strict target isTarget
    by_contra isPos
    obtain ⟨cap, isCap, notZero⟩ := some
    obtain ⟨member, isMember, rfl⟩ := List.mem_map.mp isCap
    obtain ⟨place, inBand, rfl⟩ := List.mem_iff_getElem.mp isMember
    obtain ⟨index, inTargets, rfl⟩ := List.mem_iff_getElem.mp isTarget
    have inLater : index < later.length := laterLength ▸ inTargets
    have isFirst := getElem_mem_zip inBand (sameLength ▸ inBand)
    have isSecond := getElem_mem_zip inLater inTargets
    rw [List.getElem_map] at isFirst
    have isAfter : band[place].priority < later[index].priority := by
      rw [split.same _ (List.getElem_mem inBand)]
      exact split.after _ (List.getElem_mem inLater)
    exact notZero (strict _ ((mem_zip_append sameLength).mpr (Or.inl isFirst)) _
      ((mem_zip_append sameLength).mpr (Or.inr isSecond)) isAfter (not_le.mp isPos))
  · exact split.isStrict_of_nothing_later sameLength

end IsSplit

end Targets

theorem allocateBands_of_nothing (members : List EnergyAllocationMemberInput) {remaining : Int}
    (nothing : remaining ≤ 0) : allocateBands members remaining = members.map fun _ => 0 := by
  cases members with
  | nil =>
    rw [allocateBands]
    rfl
  | cons member rest => rw [allocateBands, if_neg (not_lt.mpr nothing)]

theorem band_append_later (member : EnergyAllocationMemberInput)
    (rest : List EnergyAllocationMemberInput) :
    member :: rest = (member :: rest.takeWhile fun other => other.priority = member.priority) ++
      rest.dropWhile fun other => other.priority = member.priority := by
  rw [List.cons_append, List.takeWhile_append_dropWhile]

variable {members : List EnergyAllocationMemberInput}

/-- Something is handed out exactly if some band has a first offer to a member with a share. -/
theorem exists_pos_allocateBands_iff (ampsPos : 0 < amps) (sorted : IsSorted members) :
    (∃ target ∈ allocateBands members amps, 0 < target) ↔
      ∃ priority, ∃ cap ∈ (bandCaps members priority).take amps.toNat, cap ≠ some 0 := by
  induction members, amps using allocateBands.induct with
  | case1 remaining =>
    rw [allocateBands]
    refine iff_of_false (by simp) ?_
    rintro ⟨priority, cap, isTaken, _⟩
    rw [bandCaps, List.filter_nil, memberCaps, List.map_nil, List.take_nil] at isTaken
    exact absurd isTaken List.not_mem_nil
  | case2 member rest remaining positive band bandTargets ih =>
    obtain ⟨split, laterSorted⟩ := sorted.split
    rw [allocateBands, if_pos positive, band_append_later member rest]
    by_cases places : ∃ cap ∈ (memberCaps band).take remaining.toNat, cap ≠ some 0
    · obtain ⟨target, isTarget, isPos⟩ := exists_pos_of_distribute band positive places
      refine iff_of_true ⟨target, List.mem_append_left _ isTarget, isPos⟩ ⟨member.priority, ?_⟩
      rwa [split.bandCaps_self]
    · push Not at places
      have zeros : bandTargets = band.map fun _ => 0 := by
        have start := @distributeLoop_start remaining band positive.le
        rw [← distribute_amps_eq band positive.le] at start
        exact start.1 ⟨positive, places⟩
      have later := ih (by rwa [zeros, sum_zeros, sub_zero]) laterSorted
      rw [zeros, sum_zeros, sub_zero] at later
      change (∃ target ∈ bandTargets ++ allocateBands _ (remaining - bandTargets.sum), _) ↔ _
      rw [zeros, sum_zeros, sub_zero]
      constructor
      · rintro ⟨target, isTarget, isPos⟩
        rcases List.mem_append.mp isTarget with inBand | inLater
        · obtain ⟨_, _, rfl⟩ := List.mem_map.mp inBand
          exact absurd isPos (lt_irrefl 0)
        · obtain ⟨priority, cap, isTaken, notZero⟩ := later.mp ⟨target, inLater, isPos⟩
          have apart : priority ≠ member.priority := by
            rintro rfl
            rw [split.bandCaps_later le_rfl, List.take_nil] at isTaken
            exact absurd isTaken List.not_mem_nil
          exact ⟨priority, cap, by rwa [split.bandCaps_of_ne apart], notZero⟩
      · rintro ⟨priority, cap, isTaken, notZero⟩
        by_cases isFirst : priority = member.priority
        · rw [isFirst, split.bandCaps_self] at isTaken
          exact absurd (places cap isTaken) notZero
        · rw [split.bandCaps_of_ne isFirst] at isTaken
          obtain ⟨target, isTarget, isPos⟩ := later.mpr ⟨priority, cap, isTaken, notZero⟩
          exact ⟨target, List.mem_append_right _ isTarget, isPos⟩
  | case3 member rest remaining exhausted => exact absurd ampsPos exhausted

theorem isStrict_zeros (members : List EnergyAllocationMemberInput) :
    IsStrict members (members.map fun _ => 0) := by
  intro first isFirst second isSecond isAfter isPos
  obtain ⟨_, _, isZero⟩ := List.mem_map.mp (List.of_mem_zip isSecond).2
  exact absurd isPos (by rw [← isZero]; exact lt_irrefl 0)

theorem not_leaksAmps_of_nothing (members : List EnergyAllocationMemberInput) {limit : Int}
    (nothing : limit ≤ 0) : ¬LeaksAmps members limit := by
  rintro ⟨earlier, _, amps, _, left, starves, _⟩
  have atMost : (amps : WithTop Int) ≤ (limit : WithTop Int) := by
    rw [← left]
    exact le_add_of_nonneg_left (capsBefore_nonneg members earlier)
  exact absurd (starves.1.1.trans_le (WithTop.coe_le_coe.mp atMost)) (not_lt.mpr nothing)

theorem allocateBands_strict_iff (amps : Int) (sorted : IsSorted members) :
    IsStrict members (allocateBands members amps) ↔ ¬LeaksAmps members amps := by
  induction members, amps using allocateBands.induct with
  | case1 remaining =>
    refine iff_of_true (by simp [IsStrict]) ?_
    rintro ⟨earlier, _, amps, _, _, starves, _⟩
    exact not_starves_nil amps starves
  | case2 member rest remaining positive band bandTargets ih =>
    obtain ⟨split, laterSorted⟩ := sorted.split
    have feasible := distribute_amps_feasible band positive.le
    have targetsLength : band.length = bandTargets.length := by
      rw [feasible.length_eq, memberCaps, List.length_map]
    rw [allocateBands, if_pos positive, band_append_later member rest]
    change IsStrict _ (bandTargets ++ allocateBands _ (remaining - bandTargets.sum)) ↔ _
    rcases distribute_cases band positive with ⟨starves, zeros⟩ | ⟨fed, full | wholly⟩
    · change bandTargets = _ at zeros
      have laterPos := exists_pos_allocateBands_iff positive laterSorted
      have laterLength := (allocateBands_feasible (rest.dropWhile fun other =>
        other.priority = member.priority) positive.le).length_eq
      rw [memberCaps, List.length_map] at laterLength
      rw [zeros, sum_zeros, sub_zero, split.isStrict_of_zeros starves.2 laterLength.symm,
        split.leaksAmps_of_starves starves, ← laterPos]
      push Not
      exact Iff.rfl
    · rw [split.isStrict_of_full full, split.leaksAmps_of_full fed (capTotal_eq_of_full full)]
      exact ih laterSorted
    · change bandTargets.sum = remaining at wholly
      have enough := sum_le_capTotal feasible.admissible
      change ((bandTargets.sum : Int) : WithTop Int) ≤ _ at enough
      rw [wholly] at enough
      rw [wholly, sub_self, allocateBands_of_nothing _ le_rfl]
      refine iff_of_true (split.isStrict_of_nothing_later targetsLength ?_)
        (split.not_leaksAmps_of_exhausted fed enough)
      intro target isTarget
      obtain ⟨_, _, rfl⟩ := List.mem_map.mp isTarget
      exact le_rfl
  | case3 member rest remaining exhausted =>
    rw [allocateBands_of_nothing _ (not_lt.mp exhausted)]
    exact iff_of_true (isStrict_zeros _) (not_leaksAmps_of_nothing _ (not_lt.mp exhausted))

theorem isSorted_orderedInsert (engine : EnergyEngine) (member : EnergyAllocationMemberInput)
    (sorted : IsSorted members) :
    IsSorted (members.orderedInsert (fun left right => compareMembers engine left right ≤ 0)
      member) := by
  induction members with
  | nil => exact List.pairwise_singleton _ _
  | cons head tail ih =>
    obtain ⟨headFirst, tailSorted⟩ := List.pairwise_cons.mp sorted
    rw [List.orderedInsert_cons]
    split
    · rename_i comesFirst
      have memberFirst : member.priority ≤ head.priority := by
        rw [compareMembers] at comesFirst
        split at comesFirst <;> omega
      refine List.pairwise_cons.mpr ⟨?_, sorted⟩
      intro other isOther
      rcases List.mem_cons.mp isOther with rfl | isTail
      · exact memberFirst
      · exact memberFirst.trans (headFirst other isTail)
    · rename_i comesLater
      have headBefore : head.priority ≤ member.priority := by
        rw [compareMembers] at comesLater
        split at comesLater <;> omega
      refine List.pairwise_cons.mpr ⟨?_, ih tailSorted⟩
      intro other isOther
      have isEither := (List.perm_orderedInsert _ member tail).mem_iff.mp isOther
      rcases List.mem_cons.mp isEither with rfl | isTail
      · exact headBefore
      · exact headFirst other isTail

theorem isSorted_sortMembers (engine : EnergyEngine) (members : List EnergyAllocationMemberInput) :
    IsSorted (sortMembers engine members) := by
  induction members with
  | nil => exact List.Pairwise.nil
  | cons member members ih => exact isSorted_orderedInsert engine member ih

/-- The allocation by priority is strict exactly if no band leaks amps. -/
theorem allocatePriority_strict_iff (engine : EnergyEngine)
    (members : List EnergyAllocationMemberInput) (effectiveLimitAmps : Int) :
    IsStrict (sortMembers engine members)
        (allocatePriority (sortMembers engine members) effectiveLimitAmps) ↔
      ¬LeaksAmps (sortMembers engine members) effectiveLimitAmps := by
  have sorted := isSorted_sortMembers engine members
  rw [allocatePriority]
  split
  · rename_i nothing
    refine iff_of_true (isStrict_zeros _) ?_
    rcases nothing with isEmpty | noAmps
    · rintro ⟨earlier, _, amps, _, _, starves, _⟩
      rw [List.length_eq_zero_iff.mp isEmpty] at starves
      exact not_starves_nil amps starves
    · exact not_leaksAmps_of_nothing _ noAmps
  · exact allocateBands_strict_iff effectiveLimitAmps sorted

namespace Sample

def leaking : List EnergyAllocationMemberInput :=
  starved ++ [claimant "late" 1 none]

theorem sortMembers_leaking : sortMembers plainEngine leaking = leaking := by
  have order : compareMembers plainEngine (claimant "dock" 0 (some 0)) (claimant "free" 0 none) ≤ 0 ∧
      compareMembers plainEngine (claimant "free" 0 none) (claimant "late" 1 none) ≤ 0 := by
    decide +kernel
  simp [sortMembers, leaking, starved, List.insertionSort, order.1, order.2]

theorem leaksAmps_leaking : LeaksAmps leaking 1 := by
  refine ⟨0, 1, 1, by decide, ?_, starves_starved, none, ?_, by decide⟩
  · rfl
  · rw [leaking, starved, bandCaps]
    simp [claimant, memberCaps, memberCap]

end Sample

/-- The charger of the later priority gets the amp that one of the earlier priority could take. -/
theorem later_charger_served : ¬IsStrict (sortMembers plainEngine Sample.leaking)
      (allocatePriority (sortMembers plainEngine Sample.leaking) 1) := by
  rw [Sample.sortMembers_leaking, allocatePriority, if_neg (by decide)]
  intro strict
  have sorted := isSorted_sortMembers plainEngine Sample.leaking
  rw [Sample.sortMembers_leaking] at sorted
  exact (allocateBands_strict_iff 1 sorted).mp strict Sample.leaksAmps_leaking

end Csms.EnergyManagement
