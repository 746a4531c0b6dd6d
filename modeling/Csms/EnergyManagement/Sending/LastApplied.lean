import Csms.EnergyManagement.Sending.Sent
import Csms.Transition.Run

/-!
# Recorded limits and sent commands

A recalculation records a target as the last applied limit of a member, and the
limit in force is the one of the latest `ApplyChargingLimit` command for that
charger.  The two agree after a send exactly when the send created such a
command or the latest one has the same limit: a replay of an earlier command and
a `ClearChargingLimit` record a limit without creating it.
-/

/-!
## Dedupe keys

The correlation id of a charging limit command is made of the group, the charge
point, the target and the reason.  This file shows that the command service
keeps it as it is, and that within a group two charge points never share one.
-/

namespace Csms.Js

theorem append_separator_inj {α : Type*} {separator : α} {left left' right right' : List α}
    (absent : separator ∉ right) (absent' : separator ∉ right')
    (equal : left ++ separator :: right = left' ++ separator :: right') :
    left = left' ∧ right = right' := by
  rcases List.append_eq_append_iff.mp equal with ⟨more, leftEq, rightEq⟩ | ⟨more, leftEq, rightEq⟩
  · cases more with
    | nil =>
      simp only [List.nil_append, List.cons.injEq, true_and] at rightEq
      exact ⟨by simpa using leftEq.symm, rightEq⟩
    | cons head rest =>
      simp only [List.cons_append, List.cons.injEq] at rightEq
      exact absurd (by simp [rightEq.2]) absent
  · cases more with
    | nil =>
      simp only [List.nil_append, List.cons.injEq, true_and] at rightEq
      exact ⟨by simpa using leftEq, rightEq.symm⟩
    | cons head rest =>
      simp only [List.cons_append, List.cons.injEq] at rightEq
      exact absurd (by simp [rightEq.2]) absent'

/-- No colon occurs in the digits of an integer. -/
theorem colon_notMem_toString (value : Int) : ':' ∉ (toString value).toList := by
  have noColon (number : Nat) : ':' ∉ (toString number).toList := by
    intro member
    have digits : (toString number).toList = Nat.toDigits 10 number := by
      simp [toString, Nat.repr]
    rw [digits] at member
    exact absurd (Nat.isDigit_of_mem_toDigits (by decide) (by decide) member) (by decide)
  cases value with
  | ofNat number => exact noColon number
  | negSucc number =>
    have split : (toString (Int.negSucc number)).toList =
        '-' :: (toString (number + 1)).toList := by
      simp [toString, Int.repr]
    rw [split, List.mem_cons, not_or]
    exact ⟨by decide, noColon (number + 1)⟩

end Csms.Js

namespace Csms.EnergyManagement

open Commands Js

theorem toList_buildDedupeKey (groupId chargePointId : String) (targetAmps : Int)
    (reasonCode : String) : (buildDedupeKey groupId chargePointId targetAmps reasonCode).toList =
      "ems:".toList ++ (groupId.toList ++ ':' :: (chargePointId.toList ++
        ':' :: ((toString targetAmps).toList ++ ':' :: reasonCode.toList))) := by
  simp [buildDedupeKey, join]

theorem chargePointId_eq_of_buildDedupeKey_eq {groupId chargePointId chargePointId' : String}
    {targetAmps targetAmps' : Int} {reasonCode : String}
    (equal : buildDedupeKey groupId chargePointId targetAmps reasonCode =
      buildDedupeKey groupId chargePointId' targetAmps' reasonCode) :
    chargePointId = chargePointId' := by
  have lists := congrArg String.toList equal
  rw [toList_buildDedupeKey, toList_buildDedupeKey, List.append_cancel_left_eq,
    List.append_cancel_left_eq, List.cons.injEq] at lists
  have parts : (chargePointId.toList ++ ':' :: (toString targetAmps).toList) ++
      ':' :: reasonCode.toList =
        (chargePointId'.toList ++ ':' :: (toString targetAmps').toList) ++
          ':' :: reasonCode.toList := by
    simpa using lists.2
  rw [List.append_cancel_right_eq] at parts
  have chargePointEq := (append_separator_inj (colon_notMem_toString targetAmps)
    (colon_notMem_toString targetAmps') parts).1
  exact String.toList_inj.mp chargePointEq

/-- A key with the reason code of a plan is kept by `trim`. -/
theorem trim_buildDedupeKey (groupId chargePointId : String) (targetAmps : Int)
    (reasonCode : PlanReasonCode) :
    trim (buildDedupeKey groupId chargePointId targetAmps reasonCode.text) =
      buildDedupeKey groupId chargePointId targetAmps reasonCode.text := by
  obtain ⟨front, last, reasonEq, lastKept⟩ : ∃ front last,
      reasonCode.text.toList = front ++ [last] ∧ isWhitespace last = false := by
    cases reasonCode
    · exact ⟨"GROUP_DISABLE".toList, 'D', by decide, by decide⟩
    · exact ⟨"FAIL_SAFE_LIMI".toList, 'T', by decide, by decide⟩
    · exact ⟨"MANUAL_OVERRID".toList, 'E', by decide, by decide⟩
    · exact ⟨"STALE_TELEMETR".toList, 'Y', by decide, by decide⟩
    · exact ⟨"NO_ACTIVE_CHARGER".toList, 'S', by decide, by decide⟩
    · exact ⟨"CHARGER_EXCLUDE".toList, 'D', by decide, by decide⟩
    · exact ⟨"NORMAL_OPERATIO".toList, 'N', by decide, by decide⟩
  have split : (buildDedupeKey groupId chargePointId targetAmps reasonCode.text).toList =
      'e' :: ("ms:".toList ++ (groupId.toList ++ ':' :: (chargePointId.toList ++
        ':' :: ((toString targetAmps).toList ++ ':' :: front)))) ++ [last] := by
    rw [toList_buildDedupeKey, reasonEq]
    simp
  exact trim_eq_self split (by decide) lastKept

theorem requestKey_commandRequest (group : EnergyLoadGroup) (plan : EnergyAllocationPlan)
    (allocation : EnergyAllocationMemberPlan) : requestKey (commandRequest group plan allocation) =
      some (buildDedupeKey group.id allocation.chargePointId allocation.targetAmps
        plan.reasonCode.text) := by
  have nonempty : buildDedupeKey group.id allocation.chargePointId allocation.targetAmps
      plan.reasonCode.text ≠ "" := by
    intro empty
    have lists := congrArg String.toList empty
    rw [toList_buildDedupeKey] at lists
    simp at lists
  simp only [requestKey, commandRequest, optionalTrimmed, trim_buildDedupeKey, if_neg nonempty,
    Option.some_or]

open Service Transition

def isLimitFor (chargePointId : String) (command : CommandRecord EnergyCommandPayload) : Bool :=
  command.commandType = "ApplyChargingLimit" ∧
    command.chargePointId = orText (some chargePointId) none

/-- The most recently created `ApplyChargingLimit` command for a charger. -/
def latestLimit? (commands : List (CommandRecord EnergyCommandPayload)) (chargePointId : String) :
    Option (CommandRecord EnergyCommandPayload) :=
  (commands.filter (isLimitFor chargePointId)).getLast?

/-- Each membership of the group records the limit of the latest
`ApplyChargingLimit` command for its charger, if there is one. -/
def RecordsLimitsInForce (groupId : String) (store : Store) : Prop :=
  ∀ membership ∈ store.memberships.rows, membership.groupId = groupId →
    ∀ command ∈ latestLimit? store.commands.commands membership.chargePointId,
      membership.lastAppliedAmps = some command.payload.limitAmps

instance (groupId : String) (store : Store) : Decidable (RecordsLimitsInForce groupId store) :=
  inferInstanceAs (Decidable (∀ membership ∈ store.memberships.rows,
    membership.groupId = groupId →
      ∀ command ∈ latestLimit? store.commands.commands membership.chargePointId,
        membership.lastAppliedAmps = some command.payload.limitAmps))

/-- The same for the membership of one charger. -/
def RecordsLimitOf (groupId : String) (store : Store) (chargePointId : String) : Prop :=
  ∀ membership ∈ store.memberships.rows, membership.groupId = groupId →
    membership.chargePointId = chargePointId →
      ∀ command ∈ latestLimit? store.commands.commands chargePointId,
        membership.lastAppliedAmps = some command.payload.limitAmps

variable {store : Store}

theorem recordsLimitsInForce_iff {groupId : String} :
    RecordsLimitsInForce groupId store ↔ ∀ chargePointId, RecordsLimitOf groupId store chargePointId := by
  constructor
  · rintro records chargePointId membership member inGroup rfl
    exact records membership member inGroup
  · intro records membership member inGroup
    exact records membership.chargePointId membership member inGroup rfl

theorem orText_some_inj {left right : String}
    (equal : orText (some left) none = orText (some right) none) : left = right := by
  unfold orText at equal
  split at equal <;> split at equal <;> simp_all

variable {chargePointId : String}

theorem latestLimit?_append_other {commands : List (CommandRecord EnergyCommandPayload)}
    {command : CommandRecord EnergyCommandPayload}
    (other : isLimitFor chargePointId command = false) :
    latestLimit? (commands ++ [command]) chargePointId = latestLimit? commands chargePointId := by
  simp [latestLimit?, List.filter_append, other]

theorem latestLimit?_append_self {commands : List (CommandRecord EnergyCommandPayload)}
    {command : CommandRecord EnergyCommandPayload}
    (limits : isLimitFor chargePointId command = true) :
    latestLimit? (commands ++ [command]) chargePointId = some command := by
  simp [latestLimit?, List.filter_append, limits]

section Send

variable (context : ServiceContext) (clock : RecalculateClock) (group : EnergyLoadGroup)
  (bundle : ResolvedBundle) (plan : EnergyAllocationPlan)

theorem commands_sendCommand (store : Store) (allocation : EnergyAllocationMemberPlan) :
    (sendCommand context clock group bundle plan store allocation).commands =
      store.commands.afterRequest (commandCall context clock allocation.chargePointId)
        (commandRequest group plan allocation) := by
  unfold sendCommand
  cases bundle.chargePoint? allocation.chargePointId with
  | none => rfl
  | some chargePoint =>
    by_cases capable : chargePoint.smartChargingEnabled
    · simp only [capable, if_true]
      rfl
    · simp only [capable, Bool.false_eq_true, if_false]
      rfl

/-- A send records its target with the charger's membership of the group, and
touches no other membership. -/
theorem memberships_sendCommand (store : Store) (allocation : EnergyAllocationMemberPlan) :
    ∃ response, (sendCommand context clock group bundle plan store allocation).memberships.rows =
      store.memberships.rows.map fun membership =>
        if membership.groupId = group.id ∧
            membership.chargePointId = allocation.chargePointId then
          membership.commanded clock.applyNow plan.decisionHash allocation.targetAmps response
        else
          membership := by
  refine ⟨store.commands.answer (commandCall context clock allocation.chargePointId)
    (commandRequest group plan allocation), ?_⟩
  unfold sendCommand
  cases bundle.chargePoint? allocation.chargePointId with
  | none => simp [markCommanded]
  | some chargePoint =>
    by_cases capable : chargePoint.smartChargingEnabled
    · simp [markCommanded, capable]
    · simp [markCommanded, alertExcluded, capable]

theorem isLimitFor_newCommand (call : CommandCall) (allocation : EnergyAllocationMemberPlan)
    (chargePointId : String) :
    isLimitFor chargePointId (newCommand call (commandRequest group plan allocation)) =
      decide (commandTypeText allocation = "ApplyChargingLimit" ∧
        chargePointId = allocation.chargePointId) := by
  have sameCharger : orText (some allocation.chargePointId) none =
      orText (some chargePointId) none ↔ chargePointId = allocation.chargePointId :=
    ⟨fun equal => (orText_some_inj equal).symm, fun equal => by rw [equal]⟩
  simp only [isLimitFor, newCommand, commandRequest, sameCharger]

/-- The send creates a fresh `ApplyChargingLimit` command, or the latest one for
the charger already has the target as its limit. -/
def SetsLimit (store : Store) (allocation : EnergyAllocationMemberPlan) : Prop :=
  (commandTypeText allocation = "ApplyChargingLimit" ∧
    findExisting (commandCall context clock allocation.chargePointId)
      (commandRequest group plan allocation) store.commands.commands = none) ∨
  ∀ command ∈ latestLimit? store.commands.commands allocation.chargePointId,
    command.payload.limitAmps = allocation.targetAmps

variable {allocation : EnergyAllocationMemberPlan}

/-- A send to another charger leaves the limit in force alone. -/
theorem latestLimit?_sendCommand_other (store : Store)
    (other : chargePointId ≠ allocation.chargePointId) :
    latestLimit? (sendCommand context clock group bundle plan store
        allocation).commands.commands chargePointId =
      latestLimit? store.commands.commands chargePointId := by
  rw [commands_sendCommand]
  cases existing : findExisting (commandCall context clock allocation.chargePointId)
      (commandRequest group plan allocation) store.commands.commands with
  | some command => rw [afterRequest_of_replay existing]
  | none =>
    rw [afterRequest_of_fresh existing, latestLimit?_append_other]
    simp [isLimitFor_newCommand, other]

theorem recordsLimitOf_sendCommand_other (store : Store)
    (other : chargePointId ≠ allocation.chargePointId) :
    RecordsLimitOf group.id (sendCommand context clock group bundle plan store allocation)
        chargePointId ↔ RecordsLimitOf group.id store chargePointId := by
  obtain ⟨response, rowsEq⟩ :=
    memberships_sendCommand context clock group bundle plan store allocation
  unfold RecordsLimitOf
  rw [rowsEq, latestLimit?_sendCommand_other _ _ _ _ _ _ other, List.forall_mem_map]
  refine forall₂_congr fun membership _ => ?_
  by_cases commanded : membership.groupId = group.id ∧
      membership.chargePointId = allocation.chargePointId
  · -- the commanded membership is not the one of `chargePointId`
    rw [if_pos commanded]
    simp [EnergyLoadGroupMembership.commanded, commanded.2, Ne.symm other]
  · rw [if_neg commanded]

theorem recordsLimitOf_sendCommand_self (store : Store)
    (isMember : ∃ membership ∈ store.memberships.rows, membership.groupId = group.id ∧ membership.chargePointId = allocation.chargePointId) :
    RecordsLimitOf group.id (sendCommand context clock group bundle plan store allocation)
        allocation.chargePointId ↔ SetsLimit context clock group plan store allocation := by
  obtain ⟨response, rowsEq⟩ :=
    memberships_sendCommand context clock group bundle plan store allocation
  have records : RecordsLimitOf group.id
      (sendCommand context clock group bundle plan store allocation) allocation.chargePointId ↔
        ∀ command ∈ latestLimit? (sendCommand context clock group bundle plan store
            allocation).commands.commands allocation.chargePointId,
          command.payload.limitAmps = allocation.targetAmps := by
    unfold RecordsLimitOf
    rw [rowsEq, List.forall_mem_map]
    constructor
    · intro agree command latest
      obtain ⟨membership, member, inGroup, ofCharger⟩ := isMember
      have recorded := agree membership member
      rw [if_pos ⟨inGroup, ofCharger⟩] at recorded
      have limitEq := recorded inGroup ofCharger command latest
      exact (Option.some.inj limitEq).symm
    · intro agree membership _
      by_cases commanded : membership.groupId = group.id ∧
          membership.chargePointId = allocation.chargePointId
      · rw [if_pos commanded]
        intro _ _ command latest
        exact congrArg some (agree command latest).symm
      · rw [if_neg commanded]
        intro inGroup ofCharger
        exact absurd ⟨inGroup, ofCharger⟩ commanded
  rw [records, commands_sendCommand]
  unfold SetsLimit
  cases existing : findExisting (commandCall context clock allocation.chargePointId)
      (commandRequest group plan allocation) store.commands.commands with
  | some command =>
    rw [afterRequest_of_replay existing]
    simp
  | none =>
    rw [afterRequest_of_fresh existing]
    by_cases applies : commandTypeText allocation = "ApplyChargingLimit"
    · rw [latestLimit?_append_self (by simp [isLimitFor_newCommand, applies])]
      simp [applies, newCommand, commandRequest, commandPayload]
    · rw [latestLimit?_append_other (by simp [isLimitFor_newCommand, applies])]
      simp [applies]

theorem setsLimit_sendCommand_other (store : Store)
    {allocation earlier : EnergyAllocationMemberPlan}
    (other : allocation.chargePointId ≠ earlier.chargePointId) : SetsLimit context clock group plan
        (sendCommand context clock group bundle plan store earlier) allocation ↔
      SetsLimit context clock group plan store allocation := by
  unfold SetsLimit
  rw [latestLimit?_sendCommand_other _ _ _ _ _ _ other, commands_sendCommand]
  cases existing : findExisting (commandCall context clock earlier.chargePointId)
      (commandRequest group plan earlier) store.commands.commands with
  | some command => rw [afterRequest_of_replay existing]
  | none =>
    rw [afterRequest_of_fresh existing]
    have unanswered (tenantId : Option String) (windowStart : Int) :
        answersRequest tenantId (buildDedupeKey group.id allocation.chargePointId
            allocation.targetAmps plan.reasonCode.text) windowStart
          (newCommand (commandCall context clock earlier.chargePointId)
            (commandRequest group plan earlier)) = false := by
      have keysDiffer : buildDedupeKey group.id earlier.chargePointId earlier.targetAmps
          plan.reasonCode.text ≠ buildDedupeKey group.id allocation.chargePointId
            allocation.targetAmps plan.reasonCode.text := by
        intro equal
        exact other (chargePointId_eq_of_buildDedupeKey_eq equal).symm
      simp [answersRequest, newCommand, requestKey_commandRequest, keysDiffer]
    simp only [findExisting_eq_none_iff, requestKey_commandRequest, Option.some.injEq,
      forall_eq', List.forall_mem_append, List.forall_mem_singleton, unanswered, and_true]

theorem exists_membership_sendCommand
    (isMember : ∃ membership ∈ store.memberships.rows, membership.groupId = group.id ∧ membership.chargePointId = chargePointId) :
    ∃ membership ∈ (sendCommand context clock group bundle plan store allocation).memberships.rows,
      membership.groupId = group.id ∧ membership.chargePointId = chargePointId := by
  obtain ⟨membership, member, inGroup, ofCharger⟩ := isMember
  obtain ⟨response, rowsEq⟩ :=
    memberships_sendCommand context clock group bundle plan store allocation
  rw [rowsEq]
  refine ⟨_, List.mem_map_of_mem member, ?_⟩
  split
  · exact ⟨inGroup, ofCharger⟩
  · exact ⟨inGroup, ofCharger⟩

variable {allocations : List EnergyAllocationMemberPlan}

/-- A charger that nothing is sent to keeps its recorded and its real limit. -/
theorem recordsLimitOf_foldl_other (store : Store)
    (absent : chargePointId ∉ allocations.map (·.chargePointId)) : RecordsLimitOf group.id
        (allocations.foldl (sendCommand context clock group bundle plan) store) chargePointId ↔
      RecordsLimitOf group.id store chargePointId := by
  induction allocations generalizing store with
  | nil => exact Iff.rfl
  | cons allocation allocations ih =>
    rw [List.map_cons, List.mem_cons, not_or] at absent
    rw [List.foldl_cons, ih _ absent.2]
    exact recordsLimitOf_sendCommand_other context clock group bundle plan store absent.1

/-- A charger that something is sent to agrees afterwards exactly when that send
sets the limit, judged in the store before all sends. -/
theorem recordsLimitOf_foldl_sent (store : Store)
    (distinct : (allocations.map (·.chargePointId)).Nodup)
    (isMember : ∀ allocation ∈ allocations, ∃ membership ∈ store.memberships.rows, membership.groupId = group.id ∧ membership.chargePointId = allocation.chargePointId)
    (sent : allocation ∈ allocations) : RecordsLimitOf group.id
        (allocations.foldl (sendCommand context clock group bundle plan) store)
        allocation.chargePointId ↔ SetsLimit context clock group plan store allocation := by
  induction allocations generalizing store with
  | nil => contradiction
  | cons head allocations ih =>
    rw [List.map_cons, List.nodup_cons] at distinct
    rw [List.foldl_cons]
    rcases List.mem_cons.mp sent with rfl | later
    · rw [recordsLimitOf_foldl_other _ _ _ _ _ _ distinct.1]
      exact recordsLimitOf_sendCommand_self context clock group bundle plan store
        (isMember allocation List.mem_cons_self)
    · have other : allocation.chargePointId ≠ head.chargePointId := by
        intro equal
        exact distinct.1 (equal ▸ List.mem_map_of_mem later)
      have stillMember : ∀ allocation ∈ allocations, ∃ membership ∈
          (sendCommand context clock group bundle plan store head).memberships.rows,
            membership.groupId = group.id ∧
              membership.chargePointId = allocation.chargePointId := by
        intro allocation later
        exact exists_membership_sendCommand context clock group bundle plan
          (isMember allocation (List.mem_cons_of_mem _ later))
      rw [ih _ distinct.2 stillMember later]
      exact setsLimit_sendCommand_other context clock group bundle plan store other

/-- Sends keep the agreement of all memberships exactly when each of them sets
its limit. -/
theorem recordsLimitsInForce_foldl_iff (distinct : (allocations.map (·.chargePointId)).Nodup)
    (isMember : ∀ allocation ∈ allocations, ∃ membership ∈ store.memberships.rows, membership.groupId = group.id ∧ membership.chargePointId = allocation.chargePointId)
    (before : RecordsLimitsInForce group.id store) : RecordsLimitsInForce group.id
        (allocations.foldl (sendCommand context clock group bundle plan) store) ↔
      ∀ allocation ∈ allocations, SetsLimit context clock group plan store allocation := by
  rw [recordsLimitsInForce_iff] at before ⊢
  constructor
  · intro records allocation sent
    rw [← recordsLimitOf_foldl_sent context clock group bundle plan store distinct isMember sent]
    exact records allocation.chargePointId
  · intro sets chargePointId
    by_cases sent : chargePointId ∈ allocations.map (·.chargePointId)
    · obtain ⟨allocation, isSent, rfl⟩ := List.mem_map.mp sent
      rw [recordsLimitOf_foldl_sent context clock group bundle plan store distinct isMember isSent]
      exact sets allocation isSent
    · rw [recordsLimitOf_foldl_other _ _ _ _ _ _ sent]
      exact before chargePointId

end Send

/-- The columns of a membership that other requests set. -/
structure MembershipFlags where
  priority : Int
  (enabled smartChargingEnabled : Bool)
  maxAmps : Option Int

def EnergyLoadGroupMembership.withFlags (membership : EnergyLoadGroupMembership)
    (flags : MembershipFlags) : EnergyLoadGroupMembership :=
  { membership with
    priority := flags.priority
    enabled := flags.enabled
    smartChargingEnabled := flags.smartChargingEnabled
    maxAmps := flags.maxAmps }

theorem EnergyLoadGroupMembership.key_withFlags (membership : EnergyLoadGroupMembership)
    (flags : MembershipFlags) : (membership.withFlags flags).key = membership.key :=
  rfl

/-- A recalculation, and what other requests have made of the store before it:
all tables may be different but the commands and the limits the memberships
record. -/
structure RecalculationEvent where
  surroundings : Store
  flags : EnergyLoadGroupMembership → MembershipFlags
  context : ServiceContext
  clock : RecalculateClock
  input : RecalculateInput

def RecalculationEvent.start (event : RecalculationEvent) (store : Store) : Store :=
  { event.surroundings with
    commands := store.commands
    memberships := store.memberships.updateWhere (fun _ => true)
      (fun membership => membership.withFlags (event.flags membership))
      fun membership => membership.key_withFlags _ }

def RecalculationEvent.next (groupId : String) (store : Store) (event : RecalculationEvent) :
    Store :=
  after (recalculateGroup event.context event.clock groupId event.input) (event.start store)

/-- Every command the recalculation decides on really limits its charger to the
target: the target is positive and no command with the dedupe key is in the
replay window, or the latest `ApplyChargingLimit` command for the charger, if
there is one, already has the target as its limit. -/
def LimitsEveryTarget (groupId : String) (store : Store) (event : RecalculationEvent) : Prop :=
  ∀ loaded, loadGroupOrThrow event.context (event.start store) groupId = .ok loaded →
    ∀ allocation ∈ sentAllocations loaded.group
        (loadBundle event.clock.bundleNow (event.start store) loaded)
        (planOf event.context event.clock (event.start store) loaded) event.input,
      (0 < allocation.targetAmps ∧
        findExisting (commandCall event.context event.clock allocation.chargePointId)
          (commandRequest loaded.group
            (planOf event.context event.clock (event.start store) loaded) allocation)
          store.commands.commands = none) ∨
      ∀ command ∈ latestLimit? store.commands.commands allocation.chargePointId,
        command.payload.limitAmps = allocation.targetAmps

theorem recordsLimitsInForce_start {groupId : String} {event : RecalculationEvent}
    (records : RecordsLimitsInForce groupId store) :
    RecordsLimitsInForce groupId (event.start store) := by
  intro membership member
  simp only [RecalculationEvent.start, Table.rows_updateWhere, if_true] at member
  obtain ⟨old, oldMember, rfl⟩ := List.mem_map.mp member
  exact records old oldMember

/-- One event keeps the agreement exactly when its recalculation limits every
target. -/
theorem recordsLimitsInForce_next (groupId : String) (store : Store)
    (event : RecalculationEvent) (before : RecordsLimitsInForce groupId store) :
    RecordsLimitsInForce groupId (event.next groupId store) ↔
      LimitsEveryTarget groupId store event := by
  have started : RecordsLimitsInForce groupId (event.start store) :=
    recordsLimitsInForce_start before
  unfold RecalculationEvent.next after
  cases found : loadGroupOrThrow event.context (event.start store) groupId with
  | error error =>
    rw [recalculateGroup_error event.context event.clock event.input found]
    simp only [LimitsEveryTarget, found, reduceCtorEq, false_implies, implies_true, iff_true]
    exact started
  | ok loaded =>
    obtain ⟨commands, carriedOut⟩ :=
      recalculateGroup_eq event.context event.clock event.input found
    rw [carriedOut]
    obtain ⟨_, group, _, groupFound, _, rfl⟩ := loadGroupOrThrow_eq_ok_iff.mp found
    obtain rfl : group.id = groupId := (Table.find?_eq_some_iff.mp groupFound).2
    have folded := recordsLimitsInForce_foldl_iff event.context event.clock group
      (bundleOf event.clock (event.start store) group)
      (planOf event.context event.clock (event.start store)
        (groupBundle (event.start store) group))
      (sentOf_nodup event.context event.clock event.input (event.start store) group)
      (fun _ sent => exists_membership_of_sent sent) started
    have targets : LimitsEveryTarget group.id store event ↔
        ∀ allocation ∈ sentOf event.context event.clock event.input (event.start store) group,
          SetsLimit event.context event.clock group
            (planOf event.context event.clock (event.start store)
              (groupBundle (event.start store) group)) (event.start store) allocation := by
      simp only [LimitsEveryTarget, found, Except.ok.injEq, forall_eq']
      refine forall₂_congr fun allocation sent => ?_
      obtain ⟨_, planned, commanded⟩ := mem_sentAllocations_iff.mp sent
      simp only [isCommanded, Bool.and_eq_true] at commanded
      unfold SetsLimit
      rw [commandTypeText_eq_apply_iff planned commanded.1.1]
      rfl
    rw [targets, ← folded]
    rfl

/-- In every run of recalculations of a group: its memberships record the limits
in force in every state reached exactly when they do at the start and every
recalculation of the run limits every target it decides on. -/
theorem recordsLimitsInForce_run_iff (groupId : String) (store : Store)
    (events : List RecalculationEvent) :
    (∀ reached ∈ states (RecalculationEvent.next groupId) store events,
      RecordsLimitsInForce groupId reached) ↔ RecordsLimitsInForce groupId store ∧
        StepsMeet (RecalculationEvent.next groupId) (LimitsEveryTarget groupId) store events :=
  forall_mem_states_iff (recordsLimitsInForce_next groupId) store events

/-- A recalculation of the group of the small site, at a time and with a site
limit. -/
def recalculateBehind (amps now : Int) : RecalculationEvent where
  surroundings :=
    { siteStore with
      groups := ⟨[{ siteGroup with siteLimitAmps := ⟨amps, amps, amps⟩ }],
        List.nodup_singleton _⟩ }
  flags := fun membership => ⟨membership.priority, membership.enabled,
    membership.smartChargingEnabled, membership.maxAmps⟩
  context := siteContext
  clock := .still now
  input := ⟨false, none, none⟩

/-- From 16 A to 10 A and back within the refresh interval: the third command is
a replay of the first, the charger stays at 10 A and its membership records
16 A. -/
theorem backToSixteen_not_recordsLimitsInForce : RecordsLimitsInForce "group-1" siteStore ∧
      ¬ ∀ reached ∈ states (RecalculationEvent.next "group-1") siteStore
          [recalculateBehind 16 0, recalculateBehind 10 60000, recalculateBehind 16 120000],
        RecordsLimitsInForce "group-1" reached := by
  constructor <;> decide +kernel

end Csms.EnergyManagement
