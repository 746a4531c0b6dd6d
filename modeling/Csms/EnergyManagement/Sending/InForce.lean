import Csms.EnergyManagement.Sending.LastApplied

/-!
# The limits in force after a recalculation

After a recalculation that sends its commands, every charger that was sent one
records its target.  Two kinds of members keep an older limit: active ones whose
change is smaller than the deadband, and those the plan excludes.  The sum of
the recorded limits is therefore bounded by the plan's limit, a deadband for
each of the former, and what the latter had before.
-/

namespace Csms.EnergyManagement

open Allocation Js Service

def membersOf (groupId : String) (store : Store) : List EnergyLoadGroupMembership :=
  store.memberships.rows.filter (·.groupId = groupId)

/-- A recorded limit as a number of amps, nothing recorded counting as 0. -/
def recordedAmps (membership : EnergyLoadGroupMembership) : Int :=
  membership.lastAppliedAmps.getD 0

/-- The sum of the limits that the memberships of a group record. -/
def totalRecorded (groupId : String) (store : Store) : Int :=
  ((membersOf groupId store).map recordedAmps).sum

def targetIn (allocations : List EnergyAllocationMemberPlan) (chargePointId : String) :
    Option Int :=
  (allocations.find? (·.chargePointId = chargePointId)).map (·.targetAmps)

def recordedAfter (groupId : String) (allocations : List EnergyAllocationMemberPlan)
    (membership : EnergyLoadGroupMembership) : Option Int :=
  if membership.groupId = groupId then
    (targetIn allocations membership.chargePointId).or membership.lastAppliedAmps
  else
    membership.lastAppliedAmps

variable {allocations : List EnergyAllocationMemberPlan}

theorem targetIn_of_mem (distinct : (allocations.map (·.chargePointId)).Nodup)
    {allocation : EnergyAllocationMemberPlan} (member : allocation ∈ allocations) :
    targetIn allocations allocation.chargePointId = some allocation.targetAmps := by
  let table : Table EnergyAllocationMemberPlan (·.chargePointId) := ⟨allocations, distinct⟩
  have found : table.find? allocation.chargePointId = some allocation :=
    Table.find?_eq_some_iff.mpr ⟨member, rfl⟩
  exact congrArg (Option.map (·.targetAmps)) found

variable {chargePointId : String}

theorem targetIn_eq_none_iff : targetIn allocations chargePointId = none ↔
      chargePointId ∉ allocations.map (·.chargePointId) := by
  simp [targetIn, List.find?_eq_none]

theorem targetIn_cons_self (allocation : EnergyAllocationMemberPlan)
    (allocations : List EnergyAllocationMemberPlan) :
    targetIn (allocation :: allocations) allocation.chargePointId = some allocation.targetAmps := by
  simp [targetIn]

theorem targetIn_cons_other {allocation : EnergyAllocationMemberPlan}
    (other : allocation.chargePointId ≠ chargePointId)
    (allocations : List EnergyAllocationMemberPlan) :
    targetIn (allocation :: allocations) chargePointId = targetIn allocations chargePointId := by
  simp [targetIn, other]

theorem sum_targetIn (distinct : (allocations.map (·.chargePointId)).Nodup)
    {chargePointIds : List String}
    (listed : (allocations.map (·.chargePointId)).Perm chargePointIds) :
    (chargePointIds.map fun chargePointId => (targetIn allocations chargePointId).getD 0).sum =
      (allocations.map (·.targetAmps)).sum := by
  rw [← (listed.map _).sum_eq, List.map_map]
  refine congrArg List.sum (List.map_congr_left ?_)
  intro allocation member
  simp [targetIn_of_mem distinct member]

section Sends

variable (context : ServiceContext) (clock : RecalculateClock) (group : EnergyLoadGroup)
  (bundle : ResolvedBundle) (plan : EnergyAllocationPlan)

theorem recorded_foldl (distinct : (allocations.map (·.chargePointId)).Nodup) (store : Store) :
    ((allocations.foldl (sendCommand context clock group bundle plan)
      store).memberships.rows.map fun membership =>
        (membership.key, membership.lastAppliedAmps)) =
      store.memberships.rows.map fun membership =>
        (membership.key, recordedAfter group.id allocations membership) := by
  induction allocations generalizing store with
  | nil => simp [recordedAfter, targetIn]
  | cons allocation allocations ih =>
    rw [List.map_cons, List.nodup_cons] at distinct
    obtain ⟨response, rowsEq⟩ :=
      memberships_sendCommand context clock group bundle plan store allocation
    rw [List.foldl_cons, ih distinct.2, rowsEq, List.map_map]
    apply List.map_congr_left
    intro membership _
    by_cases commanded : membership.groupId = group.id ∧
        membership.chargePointId = allocation.chargePointId
    · have later : targetIn allocations allocation.chargePointId = none :=
        targetIn_eq_none_iff.mpr distinct.1
      simp [commanded, EnergyLoadGroupMembership.commanded, EnergyLoadGroupMembership.key,
        recordedAfter, later, targetIn_cons_self]
    · by_cases inGroup : membership.groupId = group.id
      · have other : allocation.chargePointId ≠ membership.chargePointId :=
          fun equal => commanded ⟨inGroup, equal.symm⟩
        simp [inGroup, Ne.symm other, recordedAfter, targetIn_cons_other other]
      · simp [inGroup, recordedAfter]

end Sends

section Group

variable {context : ServiceContext} {clock : RecalculateClock} {input : RecalculateInput}
  {store : Store} {group : EnergyLoadGroup}

/-- The membership takes part in the plan: it is enabled, and its charge point is
online and capable. -/
def isActiveMembership (clock : RecalculateClock) (store : Store) (group : EnergyLoadGroup)
    (membership : EnergyLoadGroupMembership) : Bool :=
  isActiveMember (memberInput (bundleOf clock store group) membership)

def activeMemberships (clock : RecalculateClock) (store : Store) (group : EnergyLoadGroup) :
    List EnergyLoadGroupMembership :=
  (membersOf group.id store).filter (isActiveMembership clock store group)

def excludedMemberships (clock : RecalculateClock) (store : Store) (group : EnergyLoadGroup) :
    List EnergyLoadGroupMembership :=
  (membersOf group.id store).filter fun membership =>
    !isActiveMembership clock store group membership

/-- The active members that no command is sent to. -/
def suppressedMemberships (context : ServiceContext) (clock : RecalculateClock)
    (input : RecalculateInput) (store : Store) (group : EnergyLoadGroup) :
    List EnergyLoadGroupMembership :=
  (activeMemberships clock store group).filter fun membership =>
    (targetIn (sentOf context clock input store group) membership.chargePointId).isNone

variable (context clock store group) in
theorem allocated_perm_active :
    ((planOf context clock store (groupBundle store group)).allocations.map
      (·.chargePointId)).Perm ((activeMemberships clock store group).map (·.chargePointId)) := by
  have listed := allocateMembers_chargePointIds context.engine
    (planAllocateInput (inputOf context clock store group))
  have sameIds : (planAllocateInput (inputOf context clock store group)).activeMembers.map
      (·.chargePointId) = (activeMemberships clock store group).map (·.chargePointId) := by
    change (((groupBundle store group).memberships.map _).filter isActiveMember).map
      EnergyAllocationMemberInput.chargePointId = _
    rw [List.filter_map, List.map_map]
    rfl
  rw [← sameIds]
  exact listed

/-- A send is to an active member, with the target planned for it. -/
theorem targetIn_sent {target : Int}
    (sent : targetIn (sentOf context clock input store group) chargePointId = some target) :
    targetIn (planOf context clock store (groupBundle store group)).allocations chargePointId =
      some target := by
  obtain ⟨allocation, found, rfl⟩ := Option.map_eq_some_iff.mp sent
  have isSent : allocation ∈ sentOf context clock input store group :=
    List.mem_of_find?_eq_some found
  obtain rfl : allocation.chargePointId = chargePointId := by
    simpa using List.find?_some found
  exact targetIn_of_mem planOf_chargePointIds_nodup (sentAllocations_sublist.subset isSent)

variable {membership : EnergyLoadGroupMembership}

variable (context input) in
theorem targetIn_sent_of_excluded (member : membership ∈ membersOf group.id store)
    (excluded : isActiveMembership clock store group membership = false) :
    targetIn (sentOf context clock input store group) membership.chargePointId = none := by
  rw [targetIn_eq_none_iff]
  intro sent
  obtain ⟨allocation, isSent, sameCharger⟩ := List.mem_map.mp sent
  have allocated := List.mem_map_of_mem (f := (·.chargePointId))
    (sentAllocations_sublist.subset isSent)
  obtain ⟨active, isActive, activeCharger⟩ :=
    List.mem_map.mp ((allocated_perm_active context clock store group).mem_iff.mp allocated)
  obtain ⟨activeMember, holds⟩ := List.mem_filter.mp isActive
  have same : active = membership :=
    List.inj_on_of_nodup_map (loaded_chargePointIds_nodup store group) activeMember member
      (activeCharger.trans sameCharger)
  rw [same, excluded] at holds
  contradiction

theorem ampsChanged_eq_false_iff {deadbandAmps targetAmps : Int} {previousAmps : Option Int} :
    ampsChanged (.ofInt deadbandAmps) previousAmps targetAmps = false ↔
      ∃ previous, previousAmps = some previous ∧ |targetAmps - previous| < deadbandAmps := by
  cases previousAmps with
  | none | some => simp [ampsChanged]

theorem planAllocateInput_deadbandAmps :
    (planAllocateInput (inputOf context clock store group)).deadbandAmps =
      .ofInt (max 1 group.deadbandAmps) := by
  have normalized : (planAllocateInput (inputOf context clock store group)).deadbandAmps =
      JsNumber.max (.ofInt 1) ((JsNumber.ofInt group.deadbandAmps).orElse (.ofInt 1)).floor := rfl
  rw [normalized, JsNumber.orElse_ofInt, JsNumber.floor_ofInt, JsNumber.max_ofInt]
  by_cases zero : group.deadbandAmps = 0
  · simp [zero]
  · simp [zero]

theorem suppressed_within_deadband (isActive : group.controlMode = .active)
    (sends : holdsCommandsBack group input = false)
    (suppressed : membership ∈ suppressedMemberships context clock input store group) :
    ∃ target previous, targetIn (planOf context clock store (groupBundle store group)).allocations
        membership.chargePointId = some target ∧ membership.lastAppliedAmps = some previous ∧
        |target - previous| < max 1 group.deadbandAmps := by
  obtain ⟨activeMember, unsent⟩ := List.mem_filter.mp suppressed
  have allocated := (allocated_perm_active context clock store group).mem_iff.mpr
    (List.mem_map_of_mem activeMember)
  obtain ⟨allocation, planned, sameCharger⟩ := List.mem_map.mp allocated
  have notDue : allocation.shouldSendCommand = false := by
    by_contra due
    rw [Bool.not_eq_false, ← isCommanded_of_mem_plan planned] at due
    have sent : allocation ∈ sentOf context clock input store group :=
      mem_sentAllocations_iff.mpr ⟨sends, planned, due⟩
    rw [Option.isNone_iff_eq_none, targetIn_eq_none_iff, ← sameCharger] at unsent
    exact unsent (List.mem_map_of_mem sent)
  have target := targetIn_of_mem planOf_chargePointIds_nodup planned
  obtain ⟨row, stored, rawTarget, rowActive, admissible, rfl⟩ :=
    exists_membership_of_mem_plan planned
  have same : row = membership :=
    List.inj_on_of_nodup_map (loaded_chargePointIds_nodup store group) stored
      (List.mem_of_mem_filter activeMember) sameCharger
  subst same
  have isActiveInput :
      (planAllocateInput (inputOf context clock store group)).controlMode = .active := isActive
  rw [allocateMember_shouldSendCommand _ rowActive admissible, isActiveInput] at notDue
  simp only [decide_true, Bool.true_and, isDue, Bool.or_eq_false_iff] at notDue
  have unchanged := notDue.1.1
  rw [planAllocateInput_deadbandAmps, ampsChanged_eq_false_iff] at unchanged
  obtain ⟨previous, previousEq, near⟩ := unchanged
  have recorded : row.lastAppliedAmps = some previous := by
    cases stored : row.lastAppliedAmps with
    | none => simp [memberInput, stored] at previousEq
    | some amps =>
      simp only [memberInput, stored, Option.map_some, normalizeOptionalInt_ofInt] at previousEq
      split at previousEq
      · exact previousEq
      · contradiction
  rw [allocateMember_targetAmps _ admissible, isActiveInput, if_neg (by decide)] at target
  exact ⟨rawTarget, previous, target, recorded, near⟩

theorem totalRecorded_eq (groupId : String) (store : Store) : totalRecorded groupId store =
      (((store.memberships.rows.map fun membership =>
        (membership.key, membership.lastAppliedAmps)).filter
          fun recorded => recorded.1.1 = groupId).map fun recorded => recorded.2.getD 0).sum := by
  rw [List.filter_map, List.map_map]
  rfl

theorem recorded_commandsSent :
    ((commandsSent context clock input store (groupBundle store group)).memberships.rows.map
      fun membership => (membership.key, membership.lastAppliedAmps)) =
      store.memberships.rows.map fun membership =>
        (membership.key,
          recordedAfter group.id (sentOf context clock input store group) membership) :=
  recorded_foldl context clock group (bundleOf clock store group)
    (planOf context clock store (groupBundle store group))
    (sentOf_nodup context clock input store group) store

theorem totalRecorded_commandsSent :
    totalRecorded group.id (commandsSent context clock input store (groupBundle store group)) =
      ((membersOf group.id store).map fun membership =>
        (recordedAfter group.id (sentOf context clock input store group)
          membership).getD 0).sum := by
  rw [totalRecorded_eq, recorded_commandsSent, List.filter_map, List.map_map]
  rfl

theorem recorded_of_sent
    (member : membership ∈ membersOf group.id (commandsSent context clock input store (groupBundle store group)))
    {target : Int}
    (sent : targetIn (sentOf context clock input store group) membership.chargePointId = some target) :
    membership.lastAppliedAmps = some target := by
  obtain ⟨stored, inGroup⟩ := List.mem_filter.mp member
  have recorded := List.mem_map_of_mem (f := fun membership : EnergyLoadGroupMembership =>
    (membership.key, membership.lastAppliedAmps)) stored
  rw [recorded_commandsSent] at recorded
  obtain ⟨old, _, equal⟩ := List.mem_map.mp recorded
  simp only [EnergyLoadGroupMembership.key, Prod.mk.injEq] at equal
  obtain ⟨⟨sameGroup, sameCharger⟩, recordedEq⟩ := equal
  rw [decide_eq_true_eq, ← sameGroup] at inGroup
  rw [← recordedEq, recordedAfter, if_pos inGroup, sameCharger, sent]
  rfl

theorem recordedAfter_of_excluded (excluded : membership ∈ excludedMemberships clock store group) :
    (recordedAfter group.id (sentOf context clock input store group) membership).getD 0 =
      recordedAmps membership := by
  obtain ⟨member, inactive⟩ := List.mem_filter.mp excluded
  have unsent := targetIn_sent_of_excluded context input member (by simpa using inactive)
  simp [recordedAfter, unsent, recordedAmps]

/-- The ampere steps a change may be off without being sent. -/
def deadbandSlack (group : EnergyLoadGroup) : Int :=
  max 1 group.deadbandAmps - 1

variable (context clock store) in
/-- An active member records its target, up to the slack if nothing is sent. -/
theorem recordedAfter_of_active (isActive : group.controlMode = .active)
    (sends : holdsCommandsBack group input = false)
    (active : membership ∈ activeMemberships clock store group) :
    (recordedAfter group.id (sentOf context clock input store group) membership).getD 0 ≤
      (targetIn (planOf context clock store (groupBundle store group)).allocations
          membership.chargePointId).getD 0 +
        if (targetIn (sentOf context clock input store group) membership.chargePointId).isNone
        then deadbandSlack group else 0 := by
  have inGroup : membership.groupId = group.id := by
    simpa using (List.mem_filter.mp (List.mem_of_mem_filter active)).2
  cases sent : targetIn (sentOf context clock input store group) membership.chargePointId with
  | some target => simp [recordedAfter, inGroup, sent, targetIn_sent sent]
  | none =>
    have suppressed : membership ∈ suppressedMemberships context clock input store group :=
      List.mem_filter.mpr ⟨active, by rw [sent]; rfl⟩
    obtain ⟨target, previous, targetEq, previousEq, near⟩ :=
      suppressed_within_deadband isActive sends suppressed
    have above := (abs_lt.mp near).1
    simp only [recordedAfter, inGroup, sent, targetEq, previousEq, if_true, Option.none_or,
      Option.getD_some, Option.isNone_none, deadbandSlack]
    omega

/-- What the recorded limits of a group are after a recalculation of it. -/
structure RecordedWithinAllowance (context : ServiceContext) (clock : RecalculateClock)
    (input : RecalculateInput) (store : Store) (group : EnergyLoadGroup)
    (plan : EnergyAllocationPlan) (recalculated : Store) : Prop where
  /-- A dry run and an observing group send nothing. -/
  heldBack : holdsCommandsBack group input = true →
    recalculated.memberships = store.memberships
  /-- A charger that a command was sent to has its target in force. -/
  commanded : ∀ membership ∈ membersOf group.id recalculated, ∀ target,
    targetIn (sentOf context clock input store group) membership.chargePointId = some target →
      membership.lastAppliedAmps = some target
  /-- The active members that nothing is sent to were near their targets. -/
  suppressed : holdsCommandsBack group input = false →
    ∀ membership ∈ suppressedMemberships context clock input store group,
      ∃ target previous, targetIn plan.allocations membership.chargePointId = some target ∧
        membership.lastAppliedAmps = some previous ∧
          |target - previous| < max 1 group.deadbandAmps
  total : holdsCommandsBack group input = false →
    totalRecorded group.id recalculated ≤ plan.effectiveLimitAmps +
      (suppressedMemberships context clock input store group).length * deadbandSlack group +
        ((excludedMemberships clock store group).map recordedAmps).sum

/-- After the sends the total is at most the plan's limit and the allowance. -/
theorem totalRecorded_commandsSent_le (isActive : group.controlMode = .active)
    (sends : holdsCommandsBack group input = false) :
    totalRecorded group.id (commandsSent context clock input store (groupBundle store group)) ≤
      (planOf context clock store (groupBundle store group)).effectiveLimitAmps +
        (suppressedMemberships context clock input store group).length * deadbandSlack group +
          ((excludedMemberships clock store group).map recordedAmps).sum := by
  have planned : ((activeMemberships clock store group).map fun membership =>
      (targetIn (planOf context clock store (groupBundle store group)).allocations
        membership.chargePointId).getD 0).sum ≤
          (planOf context clock store (groupBundle store group)).effectiveLimitAmps := by
    have targets := sum_targetIn planOf_chargePointIds_nodup
      (allocated_perm_active context clock store group)
    rw [List.map_map] at targets
    exact targets.trans_le (plan_sum_targetAmps_le _ _)
  have active := List.sum_le_sum fun _ member =>
    recordedAfter_of_active context clock store isActive sends member
  rw [sum_map_add_surcharge, nsmul_eq_mul] at active
  have excluded : ((excludedMemberships clock store group).map fun membership =>
      (recordedAfter group.id (sentOf context clock input store group) membership).getD 0) =
        (excludedMemberships clock store group).map recordedAmps :=
    List.map_congr_left fun _ member => recordedAfter_of_excluded member
  rw [totalRecorded_commandsSent, sum_map_eq_filter_add _ (isActiveMembership clock store group),
    ← activeMemberships, ← excludedMemberships, excluded]
  exact add_le_add (active.trans (add_le_add planned le_rfl)) le_rfl

theorem commandsSent_of_held (held : holdsCommandsBack group input = true) :
    commandsSent context clock input store (groupBundle store group) = store := by
  have nothing : sentOf context clock input store group = [] := by
    unfold sentOf sentAllocations
    rw [if_pos held]
  change (sentOf context clock input store group).foldl _ store = store
  rw [nothing]
  rfl

end Group

/-- Every recalculation of a group in ACTIVE mode succeeds, and afterwards the
recorded limits add up to at most the plan's limit, a deadband less one ampere
for every active member that nothing was sent to, and what the excluded members
record. -/
theorem recalculateGroup_withinAllowance (context : ServiceContext) (clock : RecalculateClock)
    (input : RecalculateInput) {store : Store} {id : String} {group : EnergyLoadGroup}
    (found : loadGroupOrThrow context store id = .ok (groupBundle store group))
    (isActive : group.controlMode = .active) : ∃ recalculation recalculated,
      recalculateGroup context clock id input store = .ok recalculation recalculated ∧
        RecordedWithinAllowance context clock input store group recalculation.plan
          recalculated := by
  obtain ⟨commands, carriedOut⟩ := recalculateGroup_eq context clock input found
  refine ⟨_, _, carriedOut, ?_⟩
  constructor
  case heldBack =>
    intro held
    change (commandsSent context clock input store (groupBundle store group)).memberships = _
    rw [commandsSent_of_held held]
  case commanded =>
    intro membership member target sent
    exact recorded_of_sent member sent
  case suppressed =>
    intro sends membership suppressed
    exact suppressed_within_deadband isActive sends suppressed
  case total =>
    intro sends
    exact totalRecorded_commandsSent_le isActive sends

/-- Where the recalculation succeeds, the recorded limits add up to at most the
limit of its plan. -/
def TotalWithinPlan (groupId : String) : EStateM.Result HttpException Store Recalculation → Prop
  | .ok recalculation recalculated =>
    totalRecorded groupId recalculated ≤ recalculation.plan.effectiveLimitAmps
  | .error _ _ => True

instance (groupId : String) : (result : EStateM.Result HttpException Store Recalculation) →
    Decidable (TotalWithinPlan groupId result)
  | .ok recalculation recalculated => inferInstanceAs (Decidable
      (totalRecorded groupId recalculated ≤ recalculation.plan.effectiveLimitAmps))
  | .error _ _ => inferInstanceAs (Decidable True)

/-- Beside an online charger, an offline one that was given 32 A earlier. -/
def offlineStore : Store :=
  { siteStore with
    chargePoints := ⟨[siteChargePoint "cp-1",
      { siteChargePoint "cp-2" with status := "OFFLINE" }], by decide⟩
    memberships := ⟨[siteMembership "cp-1",
      { siteMembership "cp-2" with lastAppliedAmps := some 32 }], by decide⟩ }

/-- Two chargers, each 2 A above its share, and a deadband of 5 A. -/
def deadbandStore : Store :=
  let commanded (chargePointId : String) : EnergyLoadGroupMembership :=
    { siteMembership chargePointId with
      lastAppliedAmps := some 18
      lastAppliedDecisionHash := some "earlier"
      lastCommandAt := some 0 }
  { siteStore with
    chargePoints := ⟨[siteChargePoint "cp-1", siteChargePoint "cp-2"], by decide⟩
    groups := ⟨[{ siteGroup with deadbandAmps := 5 }], by decide⟩
    memberships := ⟨[commanded "cp-1", commanded "cp-2"], by decide⟩ }

/-- Behind 32 A the limits in force add up to 64 A and to 36 A. -/
theorem oldLimits_not_withinPlan :
    ¬ TotalWithinPlan "group-1" (recalculateGroup siteContext (.still 0) "group-1"
        ⟨false, none, none⟩ offlineStore) ∧
      ¬ TotalWithinPlan "group-1" (recalculateGroup siteContext (.still 0) "group-1"
        ⟨false, none, none⟩ deadbandStore) := by
  constructor
  · decide +kernel
  · decide +kernel

/-- The allowance for `offlineStore` is what its offline member records. -/
theorem recalculateGroup_withinAllowance_offline : ∃ recalculation recalculated,
      recalculateGroup siteContext (.still 0) "group-1" ⟨false, none, none⟩ offlineStore =
        .ok recalculation recalculated ∧
      RecordedWithinAllowance siteContext (.still 0) ⟨false, none, none⟩ offlineStore siteGroup
        recalculation.plan recalculated :=
  recalculateGroup_withinAllowance siteContext (.still 0) ⟨false, none, none⟩ rfl rfl

end Csms.EnergyManagement
