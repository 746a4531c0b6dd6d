import Csms.Auth.Team.Projection

/-!
# Primary assignments

Of the assignments in a list, one is made primary when none is, or none that is active.  What
is primary already stays so, and an activation leaves the primary assignment at a station that
its invitation does not name.
-/

namespace Csms.Auth

open Service Transition

/-- Whether the assignment is primary and whether it is active, as far as the request says. -/
def TeamStationAssignmentDto.flags (assignment : TeamStationAssignmentDto) : Bool × Bool :=
  (assignment.isPrimary.getD false, assignment.isActive.getD true)

def NormalizedAssignment.flags (assignment : NormalizedAssignment) : Bool × Bool :=
  (assignment.isPrimary, assignment.isActive)

def StationTeamAssignment.flags (row : StationTeamAssignment) : Bool × Bool :=
  (row.isPrimary, row.isActive)

/-- Exactly one of the active assignments is primary if there are any, and no inactive one is. -/
structure HasOnePrimary (assignments : List NormalizedAssignment) : Prop where
  one : (∃ assignment ∈ assignments, assignment.isActive = true) →
    (assignments.map NormalizedAssignment.flags).count (true, true) = 1
  active : (true, false) ∉ assignments.map NormalizedAssignment.flags

/-- Nothing is marked as primary and the first is active, or one is marked, which is active. -/
def MarksOne (flags : List (Bool × Bool)) : Prop :=
  flags.filter Prod.fst = [] ∧ flags.head?.any Prod.snd = true ∨
    flags.filter Prod.fst = [(true, true)]

theorem filter_fst_eq_iff {flags : List (Bool × Bool)} :
    flags.filter Prod.fst = [(true, true)] ↔
      flags.count (true, true) = 1 ∧ (true, false) ∉ flags := by
  constructor
  · intro one
    constructor
    · rw [← List.count_filter (rfl : Prod.fst (true, true) = true), one, List.count_singleton_self]
    · intro inactive
      have isMarked : (true, false) ∈ flags.filter Prod.fst := List.mem_filter.mpr ⟨inactive, rfl⟩
      rw [one] at isMarked
      simp at isMarked
  · rintro ⟨one, noneInactive⟩
    have same : flags.filter Prod.fst = flags.filter (· == (true, true)) := by
      apply List.filter_congr
      rintro ⟨isPrimary, isActive⟩ member
      cases isPrimary <;> cases isActive <;> first | rfl | exact absurd member noneInactive
    rw [same, List.filter_beq, one]
    rfl

/-- Where something is primary, it must be the only one and active. -/
theorem hasOnePrimary_iff {assignments : List NormalizedAssignment}
    (isMarked : ∃ assignment ∈ assignments, assignment.isPrimary = true) :
    HasOnePrimary assignments ↔
      (assignments.map NormalizedAssignment.flags).filter Prod.fst = [(true, true)] := by
  rw [filter_fst_eq_iff]
  constructor
  · intro holds
    refine ⟨holds.one ?_, holds.active⟩
    obtain ⟨assignment, member, isPrimary⟩ := isMarked
    refine ⟨assignment, member, ?_⟩
    by_contra inactive
    apply holds.active
    rw [Bool.not_eq_true] at inactive
    exact List.mem_map.mpr ⟨assignment, member, Prod.ext isPrimary inactive⟩
  · rintro ⟨one, noneInactive⟩
    exact ⟨fun _ => one, noneInactive⟩

section Choice

variable {condition : NormalizedAssignment → Bool} {assignments : List NormalizedAssignment}

theorem mem_makeFirstPrimary {assignment : NormalizedAssignment} (member : assignment ∈ assignments)
    (fails : condition assignment = false) :
    assignment ∈ makeFirstPrimary condition assignments := by
  induction assignments with
  | nil => exact member
  | cons first rest ih =>
    rw [makeFirstPrimary]
    rcases List.mem_cons.mp member with rfl | later
    · rw [fails]
      exact List.mem_cons_self
    · split
      · exact List.mem_cons_of_mem _ later
      · exact List.mem_cons_of_mem _ (ih later)

theorem count_makeFirstPrimary_le (flags : Bool × Bool) :
    ((makeFirstPrimary condition assignments).map NormalizedAssignment.flags).count flags ≤
      (assignments.map NormalizedAssignment.flags).count flags + 1 := by
  induction assignments with
  | nil => exact Nat.zero_le _
  | cons first rest ih =>
    rw [makeFirstPrimary]
    split
    · simp only [List.map_cons, List.count_cons]
      split <;> omega
    · simp only [List.map_cons, List.count_cons]
      omega

theorem any_isPrimary_eq_false_iff :
    (assignments.any fun assignment => assignment.isActive && assignment.isPrimary) = false ↔
      (true, true) ∉ assignments.map NormalizedAssignment.flags := by
  rw [← Bool.not_eq_true, List.any_eq_true, List.mem_map]
  refine not_congr (exists_congr fun assignment => and_congr_right fun _ => ?_)
  rw [NormalizedAssignment.flags, Prod.mk.injEq, Bool.and_eq_true, and_comm]

/-- The choice of an active assignment does not help where another one is primary. -/
theorem hasOnePrimary_chosen_iff
    (isMarked : ∃ assignment ∈ assignments, assignment.isPrimary = true) :
    HasOnePrimary (if assignments.any fun assignment => assignment.isActive && assignment.isPrimary
        then assignments else makeFirstPrimary NormalizedAssignment.isActive assignments) ↔
      (assignments.map NormalizedAssignment.flags).filter Prod.fst = [(true, true)] := by
  split
  · exact hasOnePrimary_iff isMarked
  · rename_i noneActive
    rw [Bool.not_eq_true, any_isPrimary_eq_false_iff] at noneActive
    obtain ⟨marked, member, isPrimary⟩ := isMarked
    have inactive : marked.isActive = false := by
      refine Bool.eq_false_iff.mpr fun isActive => noneActive ?_
      exact List.mem_map.mpr ⟨marked, member, Prod.ext isPrimary isActive⟩
    refine iff_of_false (fun holds => ?_) fun one => noneActive ?_
    · have stays := mem_makeFirstPrimary member inactive
      exact holds.active (List.mem_map.mpr ⟨marked, stays, Prod.ext isPrimary inactive⟩)
    · exact (List.mem_filter.mp (one ▸ List.mem_singleton_self _)).1

theorem hasOnePrimary_choosePrimary_iff (given : assignments ≠ []) :
    HasOnePrimary (choosePrimary assignments) ↔
      MarksOne (assignments.map NormalizedAssignment.flags) := by
  rw [choosePrimary, MarksOne]
  by_cases isMarked : assignments.any NormalizedAssignment.isPrimary = true
  · rw [if_pos isMarked]
    obtain ⟨marked, member, isPrimary⟩ := List.any_eq_true.mp isMarked
    have notNone : (assignments.map NormalizedAssignment.flags).filter Prod.fst ≠ [] := fun none =>
      List.filter_eq_nil_iff.mp none _ (List.mem_map_of_mem member) isPrimary
    rw [or_iff_right fun none => notNone none.1]
    exact hasOnePrimary_chosen_iff ⟨marked, member, isPrimary⟩
  · rw [if_neg isMarked]
    have none : (assignments.map NormalizedAssignment.flags).filter Prod.fst = [] := by
      rw [List.filter_eq_nil_iff, List.forall_mem_map]
      intro assignment member isPrimary
      exact isMarked (List.any_eq_true.mpr ⟨assignment, member, isPrimary⟩)
    obtain ⟨first, rest, rfl⟩ := List.exists_cons_of_ne_nil given
    have noneInRest : (rest.map NormalizedAssignment.flags).filter Prod.fst = [] :=
      List.filter_eq_nil_iff.mpr fun flags member =>
        List.filter_eq_nil_iff.mp none flags (List.mem_cons_of_mem _ member)
    rw [none, or_iff_left (List.cons_ne_nil _ _).symm, and_iff_right rfl, makeFirstPrimary,
      if_pos rfl]
    refine (hasOnePrimary_chosen_iff ⟨_, List.mem_cons_self, rfl⟩).trans ?_
    rw [List.map_cons, List.filter_cons_of_pos rfl, noneInRest]
    simp [NormalizedAssignment.flags]

/-- One active assignment that is marked stays the only one. -/
theorem count_choosePrimary_le
    (atMost : (assignments.map NormalizedAssignment.flags).count (true, true) ≤ 1) :
    ((choosePrimary assignments).map NormalizedAssignment.flags).count (true, true) ≤ 1 := by
  have chosen (marked : List NormalizedAssignment)
      (atMost : (marked.map NormalizedAssignment.flags).count (true, true) ≤ 1) :
      ((if marked.any fun assignment => assignment.isActive && assignment.isPrimary then marked
        else makeFirstPrimary NormalizedAssignment.isActive marked).map
          NormalizedAssignment.flags).count (true, true) ≤ 1 := by
    split
    · exact atMost
    · rename_i noneActive
      rw [Bool.not_eq_true, any_isPrimary_eq_false_iff] at noneActive
      have bound := @count_makeFirstPrimary_le NormalizedAssignment.isActive marked (true, true)
      rw [List.count_eq_zero.mpr noneActive] at bound
      exact bound
  rw [choosePrimary]
  apply chosen
  split
  · exact atMost
  · rename_i noneMarked
    have bound := @count_makeFirstPrimary_le (fun _ => true) assignments (true, true)
    have none : (true, true) ∉ assignments.map NormalizedAssignment.flags := by
      intro member
      obtain ⟨marked, isMarked, flags⟩ := List.mem_map.mp member
      exact noneMarked (List.any_eq_true.mpr ⟨marked, isMarked, (Prod.ext_iff.mp flags).1⟩)
    rw [List.count_eq_zero.mpr none] at bound
    exact bound

end Choice

theorem exists_of_normalizeTeamAssignments {given : List TeamStationAssignmentDto}
    {normalized : List NormalizedAssignment} {context : String}
    (accepted : normalizeTeamAssignments given context = .ok normalized) :
    ∃ assignments, assignments ≠ [] ∧ normalized = choosePrimary assignments ∧
      assignments.map NormalizedAssignment.flags = given.map TeamStationAssignmentDto.flags ∧
      assignments.map NormalizedAssignment.stationId =
        given.map TeamStationAssignmentDto.stationId := by
  obtain ⟨_, isGiven, later⟩ := exists_of_bind_eq_ok accepted
  obtain ⟨_, _, later⟩ := exists_of_bind_eq_ok later
  obtain ⟨assignments, areChecked, isNormalized⟩ := exists_of_bind_eq_ok later
  cases isNormalized
  have sameFlags : assignments.map NormalizedAssignment.flags =
      given.map TeamStationAssignmentDto.flags := by
    refine map_of_mapM (fun assignment normalized done => ?_) areChecked
    obtain ⟨role, _, later⟩ := exists_of_bind_eq_ok done
    obtain ⟨_, _, isNormalized⟩ := exists_of_bind_eq_ok later
    cases isNormalized
    split <;> rfl
  refine ⟨assignments, ?_, rfl, sameFlags,
    map_of_mapM (fun _ _ => stationId_normalizeTeamAssignment) areChecked⟩
  rintro rfl
  rw [List.map_nil, eq_comm, List.map_eq_nil_iff] at sameFlags
  rw [sameFlags] at isGiven
  contradiction

namespace Store

/-- A user has at most one active primary assignment at the stations of an organization. -/
def OnePrimary (store : Store) : Prop :=
  ∀ organizationId, ∀ first ∈ store.stationTeamAssignments.rows,
    ∀ second ∈ store.stationTeamAssignments.rows,
      first.flags = (true, true) → second.flags = (true, true) → first.userId = second.userId →
        store.isStationOf organizationId first.stationId = true →
          store.isStationOf organizationId second.stationId = true → first = second

section

variable {store after : Store} {call : Call} {userId organizationId : String}
  {atStation : String → Bool} {assignments : List NormalizedAssignment}

theorem OnePrimary.of_fewer (one : store.OnePrimary) (stations : after.stations = store.stations)
    (fewer : ∀ row ∈ after.stationTeamAssignments.rows, row.isActive = true →
      row ∈ store.stationTeamAssignments.rows) : after.OnePrimary := by
  intro organizationId first isFirst second isSecond firstPrimary secondPrimary sameUser
  rw [isStationOf, isStationOf, stations]
  exact one organizationId first (fewer first isFirst (Prod.ext_iff.mp firstPrimary).2) second
    (fewer second isSecond (Prod.ext_iff.mp secondPrimary).2) firstPrimary secondPrimary sameUser

theorem OnePrimary.of_sameStaff (one : store.OnePrimary) (same : store.SameStaff after) :
    after.OnePrimary :=
  one.of_fewer same.stations fun _ isRow _ => same.stationTeamAssignments ▸ isRow

theorem map_flags_createdRows (userId : String) (uuid : Nat → String)
    (assignments : List NormalizedAssignment) :
    (createdRows userId uuid assignments).map StationTeamAssignment.flags =
      assignments.map NormalizedAssignment.flags := by
  apply List.ext_getElem
  · simp only [createdRows, List.length_map, List.length_mapIdx]
  · intro index isIndex _
    simp only [createdRows, List.getElem_map, List.getElem_mapIdx, assignmentRow,
      StationTeamAssignment.flags, NormalizedAssignment.flags]

theorem rows_recreates (recreates : Recreates call userId atStation assignments store after) :
    after.stations = store.stations ∧ after.stationTeamAssignments.rows =
      (store.deactivateAssignments userId atStation).stationTeamAssignments.rows ++
        createdRows userId call.uuid assignments := by
  obtain ⟨created, assigned, uuid, isCreated, same, done⟩ := recreates
  obtain ⟨table, rfl, areRows⟩ := rows_createAssignments isCreated
  obtain ⟨_, rfl⟩ := eq_of_syncAttendantProjectionForUser done
  exact ⟨same.stations, (congrArg Table.rows same.stationTeamAssignments).trans areRows⟩

theorem eq_of_count_map_le_one {rows : List StationTeamAssignment} {flags : Bool × Bool}
    (atMost : (rows.map StationTeamAssignment.flags).count flags ≤ 1)
    {first second : StationTeamAssignment} (isFirst : first ∈ rows) (isSecond : second ∈ rows)
    (firstFlags : first.flags = flags) (secondFlags : second.flags = flags) : first = second := by
  induction rows with
  | nil => exact absurd isFirst List.not_mem_nil
  | cons row rest ih =>
    have noLater (isFlags : row.flags = flags) {later : StationTeamAssignment}
        (isLater : later ∈ rest) (laterFlags : later.flags = flags) : False := by
      have positive := List.count_pos_iff.mpr (List.mem_map.mpr ⟨later, isLater, laterFlags⟩)
      rw [List.map_cons, isFlags, List.count_cons_self] at atMost
      omega
    rcases List.mem_cons.mp isFirst with rfl | firstLater <;>
      rcases List.mem_cons.mp isSecond with rfl | secondLater
    · rfl
    · exact (noLater firstFlags secondLater secondFlags).elim
    · exact (noLater secondFlags firstLater firstFlags).elim
    · refine ih (Nat.le_trans ?_ atMost) firstLater secondLater
      rw [List.map_cons]
      exact List.count_le_count_cons

/-- New assignments bring one primary assignment, and take the place of the one there was. -/
theorem OnePrimary.recreates (one : store.OnePrimary)
    (inOrganization : ∀ stationId ∈ assignments.map NormalizedAssignment.stationId,
      store.isStationOf organizationId stationId = true)
    (atMost : (assignments.map NormalizedAssignment.flags).count (true, true) ≤ 1)
    (replaced : (true, true) ∈ assignments.map NormalizedAssignment.flags →
      ∀ row ∈ store.stationTeamAssignments.rows, row.userId = userId →
        row.flags = (true, true) → store.isStationOf organizationId row.stationId = true →
          atStation row.stationId = true)
    (recreates : Recreates call userId atStation assignments store after) : after.OnePrimary := by
  obtain ⟨stations, areRows⟩ := rows_recreates recreates
  have sameStations (wanted stationId : String) :
      after.isStationOf wanted stationId = store.isStationOf wanted stationId := by
    rw [isStationOf, isStationOf, stations]
  rw [← map_flags_createdRows userId call.uuid] at atMost replaced
  rw [← map_stationId_createdRows userId call.uuid] at inOrganization
  -- one primary assignment is old and the other one is new
  have apart {wanted : String} {old new : StationTeamAssignment}
      (isOld : old ∈ (store.deactivateAssignments userId atStation).stationTeamAssignments.rows)
      (isNew : new ∈ createdRows userId call.uuid assignments) (oldFlags : old.flags = (true, true))
      (newFlags : new.flags = (true, true)) (sameUser : old.userId = new.userId)
      (ofOld : store.isStationOf wanted old.stationId = true)
      (ofNew : store.isStationOf wanted new.stationId = true) : False := by
    obtain ⟨wasOld, untouched⟩ := mem_deactivateAssignments isOld (Prod.ext_iff.mp oldFlags).2
    have isUser := sameUser.trans (userId_of_mem_createdRows isNew)
    have isOf := inOrganization new.stationId (List.mem_map_of_mem isNew)
    rw [isStationOf, decide_eq_true_eq] at ofNew isOf
    obtain rfl : wanted = organizationId := Option.some.inj (ofNew.symm.trans isOf)
    exact untouched ⟨isUser, replaced (newFlags ▸ List.mem_map_of_mem isNew) old wasOld isUser
      oldFlags ofOld⟩
  intro wanted first isFirst second isSecond firstFlags secondFlags sameUser ofFirst ofSecond
  rw [sameStations] at ofFirst ofSecond
  rw [areRows, List.mem_append] at isFirst isSecond
  rcases isFirst with isFirst | isFirst <;> rcases isSecond with isSecond | isSecond
  · exact one wanted first
      (mem_deactivateAssignments isFirst (Prod.ext_iff.mp firstFlags).2).1 second
      (mem_deactivateAssignments isSecond (Prod.ext_iff.mp secondFlags).2).1 firstFlags
      secondFlags sameUser ofFirst ofSecond
  · exact (apart isFirst isSecond firstFlags secondFlags sameUser ofFirst ofSecond).elim
  · exact (apart isSecond isFirst secondFlags firstFlags sameUser.symm ofSecond ofFirst).elim
  · exact eq_of_count_map_le_one atMost isFirst isSecond firstFlags secondFlags

end

end Store

/-- The invitation marks one active assignment at most, and if it has active ones it names the
station in the organization at which the user has a primary assignment. -/
def TeamWrite.LeavesOnePrimary (runtime : AuthRuntime) (store : Store) : TeamWrite → Prop
  | activateInvitation _ activation =>
    ∀ invitation,
      store.invitations.find? (runtime.hashToken activation.inviteToken) = some invitation →
        (invitation.initialAssignments.map TeamStationAssignmentDto.flags).count (true, true) ≤ 1 ∧
        ((∃ assignment ∈ invitation.initialAssignments, assignment.flags.2 = true) →
          ∀ row ∈ store.stationTeamAssignments.rows, row.userId = activation.userId →
            row.flags = (true, true) →
              store.isStationOf invitation.organizationId row.stationId = true →
                row.stationId ∈
                  invitation.initialAssignments.map TeamStationAssignmentDto.stationId)
  | _ => True

/-- A replacement marks one active assignment at most. -/
def TeamOperation.marksAtMostOne : TeamOperation → Bool
  | replaceTeamAssignments _ _ assignments _ _ =>
    (assignments.map TeamStationAssignmentDto.flags).count (true, true) ≤ 1
  | _ => true

def TeamStep.LeavesOnePrimary (runtime : AuthRuntime) (store : Store) (step : TeamStep) : Prop :=
  step.CommitsMeet runtime (fun write current => write.LeavesOnePrimary runtime current) store ∧
    step.operation.marksAtMostOne = true

section Steps

variable {runtime : AuthRuntime} {store after : Store}

theorem onePrimary_activateInvitation {call : Call} {activation : Activation}
    {organizationId : String} (one : store.OnePrimary)
    (keeps : (TeamWrite.activateInvitation call activation).LeavesOnePrimary runtime store)
    (done : store.activateInvitationOnLogin runtime call activation =
      .ok (after, organizationId)) : after.OnePrimary := by
  obtain ⟨invitation, isFound, same | ⟨marked, synced, normalized, same, normalizes, valid,
    recreates, sameAfter⟩⟩ := Store.recreates_activateInvitationOnLogin done
  · exact one.of_sameStaff same
  · obtain ⟨atMost, named⟩ := keeps invitation isFound
    obtain ⟨assignments, _, rfl, sameFlags, sameIds⟩ := exists_of_normalizeTeamAssignments normalizes
    rw [← sameFlags] at atMost
    refine ((one.of_sameStaff same).recreates (Store.isStationOf_of_validate valid)
      (count_choosePrimary_le atMost) ?_ recreates).of_sameStaff sameAfter
    intro isChosen row isRow isUser flags isStation
    rw [same.stationTeamAssignments] at isRow
    rw [Store.isStationOf, same.stations] at isStation
    rw [List.contains_iff_mem, map_choosePrimary _ (fun _ => rfl), sameIds]
    refine named ?_ row isRow isUser flags isStation
    obtain ⟨chosen, member, chosenFlags⟩ := List.mem_map.mp isChosen
    have isActive : true ∈ assignments.map NormalizedAssignment.isActive := by
      rw [← map_choosePrimary _ (fun _ => rfl)]
      exact List.mem_map.mpr ⟨chosen, member, (Prod.ext_iff.mp chosenFlags).2⟩
    obtain ⟨assignment, isAssignment, isActive⟩ := List.mem_map.mp isActive
    obtain ⟨given, isGiven, givenFlags⟩ :=
      List.mem_map.mp (sameFlags ▸ List.mem_map_of_mem isAssignment)
    exact ⟨given, isGiven, (congrArg Prod.snd givenFlags).trans isActive⟩

theorem onePrimary_updateTeamMember {call : Call} {update : Store.MemberUpdate}
    (one : store.OnePrimary) (done : store.updateTeamMember call update = .ok after) :
    after.OnePrimary := by
  obtain ⟨withUser, isUpdated, later⟩ := exists_of_bind_eq_ok done
  obtain ⟨enforced, isEnforced, isAfter⟩ := exists_of_bind_eq_ok later
  have withMembership : withUser.SameStaff (withUser.updateMemberMembership update) :=
    ⟨rfl, rfl, rfl⟩
  have isOne := one.of_sameStaff (((Store.sameStaff_updateMemberUser isUpdated).trans
    withMembership).trans (Store.sameStaff_enforceMemberRole isEnforced))
  cases isAfter
  rw [Store.dropMemberStations]
  split
  · refine isOne.of_fewer rfl fun row isRow isActive => ?_
    exact (Store.mem_deactivateAssignments isRow isActive).1
  · exact isOne

theorem onePrimary_next {step : TeamStep} (met : step.LeavesOnePrimary runtime store)
    (one : store.OnePrimary) : (step.next runtime store).OnePrimary := by
  refine TeamStep.keeps_next ?_ ?_ met.1 one
  · intro write current after value isOther keeps one done
    rcases sameStaff_run done with
      same | ⟨call, activation, rfl⟩ | ⟨call, update, rfl⟩ | ⟨_, _, _, _, isReplacement⟩
    · exact one.of_sameStaff same
    · exact onePrimary_activateInvitation one keeps done
    · obtain ⟨updated, isUpdated, isAfter⟩ := exists_of_map_eq_ok done
      cases isAfter
      exact onePrimary_updateTeamMember one isUpdated
    · exact absurd isReplacement (isOther _ _ _ _)
  · intro call targetUserId given _ _ organizationId normalized after isReplacement normalizes
      valid done one
    have atMost := met.2
    rw [isReplacement, TeamOperation.marksAtMostOne, decide_eq_true_eq] at atMost
    obtain ⟨assignments, _, rfl, sameFlags, _⟩ := exists_of_normalizeTeamAssignments normalizes
    rw [← sameFlags] at atMost
    exact one.recreates (Store.isStationOf_of_validate valid) (count_choosePrimary_le atMost)
      (fun _ _ _ _ _ isStation => isStation) (Store.recreates_replaceTeamAssignments done)

end Steps

/-- One of the accepted assignments is primary, and active, if that one alone or none is marked;
and users keep to one primary assignment in an organization if no list marks several and an
activation names the station of the one there is. -/
theorem onePrimary_of_leavesOnePrimary {runtime : AuthRuntime} {store : Store}
    {steps : List TeamStep} (one : store.OnePrimary)
    (met : StepsMeet (TeamStep.next runtime) (TeamStep.LeavesOnePrimary runtime) store steps) :
    (∀ (given : List TeamStationAssignmentDto) (context : String)
      (normalized : List NormalizedAssignment),
        normalizeTeamAssignments given context = .ok normalized →
          (HasOnePrimary normalized ↔ MarksOne (given.map TeamStationAssignmentDto.flags))) ∧
      ∀ reached ∈ states (TeamStep.next runtime) store steps, reached.OnePrimary := by
  constructor
  · intro given context normalized accepted
    obtain ⟨assignments, notNil, rfl, sameFlags, _⟩ := exists_of_normalizeTeamAssignments accepted
    rw [← sameFlags]
    exact hasOnePrimary_choosePrimary_iff notNil
  · exact forall_mem_states_of_stepsMeet (fun _ _ met one => onePrimary_next met one) one met

namespace Sample

def managing (stationId : String) (isPrimary : Option Bool) : TeamStationAssignmentDto :=
  ⟨stationId, "MANAGER", isPrimary, none, none, none, none, none⟩

def normalizedAs (stationId : String) (isPrimary : Bool) : NormalizedAssignment :=
  ⟨stationId, .manager, isPrimary, true, none, none, none, none⟩

end Sample

open Sample in
theorem onePrimary_of_leavesOnePrimary_assignsAttendant :
    (HasOnePrimary [normalizedAs "depot" true, normalizedAs "hub" false] ↔
        MarksOne ([managing "depot" none, managing "hub" none].map
          TeamStationAssignmentDto.flags)) ∧
      (assignsAttendant.next authRuntime team).OnePrimary := by
  have one : team.OnePrimary := fun _ first isFirst => absurd isFirst List.not_mem_nil
  have met : StepsMeet (TeamStep.next authRuntime) (TeamStep.LeavesOnePrimary authRuntime) team
      [assignsAttendant] := by
    refine ⟨⟨?_, rfl⟩, trivial⟩
    refine (transacts_program assignsAttendant.operation).commitsMeet ?_ none team
    intro write store isOf
    cases write with
    | activateInvitation call activation => contradiction
    | _ => trivial
  have holds := onePrimary_of_leavesOnePrimary one met
  exact ⟨holds.1 _ "team assignment update" _ rfl,
    holds.2 _ (List.mem_cons_of_mem _ List.mem_cons_self)⟩

open Sample in
/-- Two assignments that are marked as primary both stay primary. -/
theorem two_marked_stay_primary :
    normalizeTeamAssignments [managing "depot" (some true), managing "hub" (some true)]
        "team assignment update" =
          .ok [normalizedAs "depot" true, normalizedAs "hub" true] ∧
      ¬HasOnePrimary [normalizedAs "depot" true, normalizedAs "hub" true] := by
  refine ⟨rfl, fun holds => ?_⟩
  have one := holds.one ⟨_, List.mem_cons_self, rfl⟩
  contradiction

end Csms.Auth
