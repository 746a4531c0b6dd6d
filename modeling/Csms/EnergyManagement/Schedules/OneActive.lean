import Csms.EnergyManagement.Schedules.Handlers
import Csms.Table.MarkedOnce
import Csms.Transition.Run

/-!
# One active schedule a group

At most one schedule of an energy group is ACTIVE, and a superseded or cancelled
schedule is never active or approved again.  Approving a schedule establishes the
first part, whatever its status was, and so it breaks the second one for a
retired schedule; creating one keeps the second part and breaks the first when it
is created ACTIVE beside another.
-/

namespace Csms.EnergyManagement

open Js Service Transition

def EnergyManagementSchedule.controlsGroup (schedule : EnergyManagementSchedule) : Bool :=
  schedule.status = .active && schedule.groupId.isSome

variable {schedule : EnergyManagementSchedule}

theorem EnergyManagementSchedule.controlsGroup_iff : schedule.controlsGroup = true ↔
      schedule.status = .active ∧ ∃ groupId, schedule.groupId = some groupId := by
  simp [controlsGroup, Option.isSome_iff_exists]

/-- At most one schedule of each energy group is ACTIVE. -/
def OneActiveSchedule (store : Store) : Prop :=
  MarkedOnce (·.id) (·.controlsGroup) (·.groupId) store.schedules.rows

instance (store : Store) : Decidable (OneActiveSchedule store) :=
  inferInstanceAs (Decidable
    (MarkedOnce (·.id) (·.controlsGroup) (·.groupId) store.schedules.rows))

def isRetired (status : ScheduleStatus) : Prop :=
  status = .superseded ∨ status = .cancelled

instance (status : ScheduleStatus) : Decidable (isRetired status) :=
  inferInstanceAs (Decidable (status = .superseded ∨ status = .cancelled))

/-- No schedule that is retired in the earlier state is active or approved in the
later one. -/
def StaysRetired (earlier later : Store) : Prop :=
  ∀ old ∈ earlier.schedules.rows, isRetired old.status →
    ∀ schedule ∈ later.schedules.rows, schedule.id = old.id →
      schedule.status ≠ .active ∧ schedule.status ≠ .approved

instance (earlier later : Store) : Decidable (StaysRetired earlier later) :=
  inferInstanceAs (Decidable (∀ old ∈ earlier.schedules.rows, isRetired old.status →
    ∀ schedule ∈ later.schedules.rows, schedule.id = old.id →
      schedule.status ≠ .active ∧ schedule.status ≠ .approved))

/-- A schedule for a group belongs to the tenant of the group. -/
def SchedulesOwned (store : Store) : Prop :=
  ∀ schedule ∈ store.schedules.rows, ∀ groupId, schedule.groupId = some groupId →
    groupId ≠ "" ∧ ∃ group, store.groups.find? groupId = some group ∧
      group.tenantId = schedule.tenantId

def insertedSchedule (context : ServiceContext) (store : Store) (now : Int) (createdId : String)
    (actorId : Option String) (input : JsRecord) : Option EnergyManagementSchedule :=
  match newSchedule context store now createdId actorId input with
  | .error _ => none
  | .ok created => if created.id ∈ store.schedules.rows.map (·.id) then none else some created

variable {context : ServiceContext} {store : Store} {input : JsRecord}

theorem insertedSchedule_eq_some_iff {now : Int} {createdId : String} {actorId : Option String}
    {created : EnergyManagementSchedule} :
    insertedSchedule context store now createdId actorId input = some created ↔
      newSchedule context store now createdId actorId input = .ok created ∧
        created.id ∉ store.schedules.rows.map (·.id) := by
  unfold insertedSchedule
  cases newSchedule context store now createdId actorId input with
  | error error => simp
  | ok row =>
    by_cases taken : row.id ∈ store.schedules.rows.map (·.id)
    · simp only [if_pos taken]
      constructor
      · intro equal
        contradiction
      · rintro ⟨⟨⟩, fresh⟩
        contradiction
    · simp only [if_neg taken]
      constructor
      · rintro ⟨⟩
        exact ⟨rfl, taken⟩
      · rintro ⟨⟨⟩, _⟩
        rfl

theorem after_createSchedule (context : ServiceContext) (store : Store) (now : Int)
    (createdId : String) (actorId : Option String) (input : JsRecord) :
    (after (createSchedule context now createdId actorId input) store).schedules.rows =
        store.schedules.rows ++
          (insertedSchedule context store now createdId actorId input).toList ∧
      (after (createSchedule context now createdId actorId input) store).groups =
        store.groups := by
  unfold createSchedule insertedSchedule
  rw [after_lookup]
  cases newSchedule context store now createdId actorId input with
  | error error => simp
  | ok created =>
    have insertEq : insertSchedule created store =
        (store.schedules.insert? created).elim (.error .internal store)
          fun schedules => .ok () { store with schedules } := by
      unfold insertSchedule
      rw [bind_of_ok (rfl : (get : Handler Store) store = .ok store store)]
      cases store.schedules.insert? created <;> rfl
    dsimp only
    rw [after_bind, insertEq]
    cases inserted : store.schedules.insert? created with
    | none =>
      have taken : created.id ∈ store.schedules.rows.map (·.id) := by
        by_contra fresh
        simp [Table.insert?, fresh] at inserted
      simp [taken]
    | some schedules =>
      obtain ⟨fresh, rowsEq⟩ := Table.insert?_eq_some_iff.mp inserted
      rw [if_neg fresh]
      exact ⟨rowsEq, rfl⟩

def approval (approved : EnergyManagementSchedule) (status : ScheduleStatus) (now : Int)
    (actorId notes : Option String) (row : EnergyManagementSchedule) : EnergyManagementSchedule :=
  if row.id = approved.id then row.approved status now actorId notes
  else if status = .active ∧ isSupersededBy approved row then row.superseded
  else row

theorem isSupersededBy_iff {approved row : EnergyManagementSchedule} :
    isSupersededBy approved row = true ↔ row.tenantId = approved.tenantId ∧
      inScopeOf approved row = true ∧ row.id ≠ approved.id ∧ row.status = .active := by
  simp [isSupersededBy, and_assoc]

section

variable (approved : EnergyManagementSchedule) (status : ScheduleStatus) (now : Int)
    (actorId notes : Option String) (store : Store)

theorem rows_approveAll :
    (after (approveAll approved status now actorId notes) store).schedules.rows =
      store.schedules.rows.map (approval approved status now actorId notes) := by
  by_cases activates : status = .active
  · subst activates
    have rowsEq : (after (approveAll approved .active now actorId notes) store).schedules.rows =
        (approveRow approved .active now actorId notes
          (supersedeOthers approved store)).schedules.rows := rfl
    rw [rowsEq]
    simp only [approveRow, supersedeOthers, Table.rows_updateWhere, List.map_map]
    apply List.map_congr_left
    intro row _
    by_cases isTarget : row.id = approved.id
    · have kept : isSupersededBy approved row = false := by
        by_contra superseded
        exact (isSupersededBy_iff.mp (by simpa using superseded)).2.2.1 isTarget
      simp [approval, isTarget, kept]
    · by_cases superseded : isSupersededBy approved row
      · simp [approval, isTarget, superseded, EnergyManagementSchedule.id_superseded]
      · simp [approval, isTarget, superseded]
  · have rowsEq : (after (approveAll approved status now actorId notes) store).schedules.rows =
        (approveRow approved status now actorId notes store).schedules.rows := by
      unfold approveAll
      rw [if_neg activates]
      rfl
    rw [rowsEq]
    simp only [approveRow, Table.rows_updateWhere]
    apply List.map_congr_left
    intro row _
    simp [approval, activates]

theorem groups_approveAll :
    (after (approveAll approved status now actorId notes) store).groups = store.groups := by
  unfold approveAll
  split
  · rfl
  · rfl

end

section Approval

variable (approved : EnergyManagementSchedule) (status : ScheduleStatus) (now : Int)
  (actorId notes : Option String) (row : EnergyManagementSchedule)

@[simp]
theorem id_approval : (approval approved status now actorId notes row).id = row.id := by
  unfold approval
  split
  · rfl
  · split <;> rfl

@[simp]
theorem groupId_approval :
    (approval approved status now actorId notes row).groupId = row.groupId := by
  unfold approval
  split
  · rfl
  · split <;> rfl

@[simp]
theorem tenantId_approval :
    (approval approved status now actorId notes row).tenantId = row.tenantId := by
  unfold approval
  split
  · rfl
  · split <;> rfl

theorem status_approval : (approval approved status now actorId notes row).status =
    if row.id = approved.id then status
    else if status = .active ∧ isSupersededBy approved row = true then .superseded
    else row.status := by
  unfold approval
  split
  · rfl
  · split <;> rfl

end Approval

theorem after_approveSchedule_of_error {id : String} {error : HttpException}
    (missing : findSchedule context store id = .error error) (now : Int) (actorId : Option String)
    (input : JsRecord) : after (approveSchedule context now id actorId input) store = store := by
  unfold approveSchedule
  rw [after_lookup, missing]

theorem after_approveSchedule {id : String} (found : findSchedule context store id = .ok schedule)
    (now : Int) (actorId : Option String) (input : JsRecord) :
    after (approveSchedule context now id actorId input) store =
      after (approveAll schedule (approvedStatus schedule input) now actorId
        (readOptionalString (input "notes"))) store := by
  unfold approveSchedule
  rw [after_lookup, found]

theorem mem_of_findSchedule {id : String} (found : findSchedule context store id = .ok schedule) :
    schedule ∈ store.schedules.rows := by
  obtain ⟨tenantId, _, found⟩ := exists_of_bind_eq_ok found
  split at found
  · contradiction
  · rename_i stored isStored
    split at found
    · contradiction
    · cases found
      exact (Table.find?_eq_some_iff.mp isStored).1

theorem assertScheduleGroup_eq_ok {tenantId stationId groupId : String} {given : Option String}
    (owned : assertScheduleGroup store tenantId stationId given = .ok ())
    (named : orText given none = some groupId) :
    groupId ≠ "" ∧ ∃ group, store.groups.find? groupId = some group ∧
      group.tenantId = tenantId := by
  constructor
  · rintro rfl
    unfold orText at named
    split at named
    · split at named
      · contradiction
      · rename_i nonempty
        exact nonempty (Option.some.inj named)
    · contradiction
  · unfold assertScheduleGroup at owned
    rw [named] at owned
    dsimp only at owned
    split at owned
    · contradiction
    · rename_i group found
      refine ⟨group, found, ?_⟩
      split at owned
      · contradiction
      · rename_i sameTenant
        exact not_not.mp sameTenant

theorem newSchedule_owned {now : Int} {createdId : String} {actorId : Option String}
    {created : EnergyManagementSchedule}
    (isNew : newSchedule context store now createdId actorId input = .ok created) {groupId : String}
    (named : created.groupId = some groupId) :
    groupId ≠ "" ∧ ∃ group, store.groups.find? groupId = some group ∧
      group.tenantId = created.tenantId := by
  obtain ⟨tenantId, _, isNew⟩ := exists_of_bind_eq_ok isNew
  obtain ⟨draft, _, isNew⟩ := exists_of_bind_eq_ok isNew
  split at isNew
  · contradiction
  · rename_i stationId _
    obtain ⟨_, _, isNew⟩ := exists_of_bind_eq_ok isNew
    obtain ⟨_, owned, isNew⟩ := exists_of_bind_eq_ok isNew
    dsimp only at isNew
    split at isNew
    · contradiction
    · split at isNew
      · contradiction
      · cases isNew
        exact assertScheduleGroup_eq_ok owned named

theorem groups_next (store : Store) (request : ScheduleRequest) :
    (request.next store).groups = store.groups := by
  cases request with
  | createSchedule context now createdId actorId input =>
    exact (after_createSchedule context store now createdId actorId input).2
  | approveSchedule context now id actorId input =>
    simp only [ScheduleRequest.next]
    cases found : findSchedule context store id with
    | error error => rw [after_approveSchedule_of_error found]
    | ok schedule => rw [after_approveSchedule found, groups_approveAll]

theorem schedulesOwned_next (store : Store) (request : ScheduleRequest)
    (owned : SchedulesOwned store) : SchedulesOwned (request.next store) := by
  intro schedule member groupId named
  rw [groups_next]
  cases request with
  | createSchedule context now createdId actorId input =>
    rw [ScheduleRequest.next, (after_createSchedule context store now createdId actorId input).1,
      List.mem_append, Option.mem_toList] at member
    rcases member with old | new
    · exact owned schedule old groupId named
    · exact newSchedule_owned (insertedSchedule_eq_some_iff.mp new).1 named
  | approveSchedule context now id actorId input =>
    simp only [ScheduleRequest.next] at member
    cases found : findSchedule context store id with
    | error error =>
      rw [after_approveSchedule_of_error found] at member
      exact owned schedule member groupId named
    | ok approved =>
      rw [after_approveSchedule found, rows_approveAll] at member
      obtain ⟨row, rowMem, rfl⟩ := List.mem_map.mp member
      rw [groupId_approval] at named
      rw [tenantId_approval]
      exact owned row rowMem groupId named

def CreatesFirstActive (store : Store) : ScheduleRequest → Prop
  | .createSchedule context now createdId actorId input =>
    ∀ created, insertedSchedule context store now createdId actorId input = some created →
      created.controlsGroup = true → ∀ other ∈ store.schedules.rows,
        other.status = .active → other.groupId ≠ created.groupId
  | .approveSchedule .. => True

/-- A superseded or cancelled schedule is approved only into the fallback. -/
def ApprovesUnretired (store : Store) : ScheduleRequest → Prop
  | .createSchedule .. => True
  | .approveSchedule context _ id _ input =>
    ∀ schedule, findSchedule context store id = .ok schedule → isRetired schedule.status →
      schedule.fallbackToDlm = true ∨ isTrue (input "fallbackToDlm") = true

theorem approvedStatus_eq_active_or (schedule : EnergyManagementSchedule) (input : JsRecord) :
    approvedStatus schedule input = .active ∨ approvedStatus schedule input = .fallbackDlm := by
  unfold approvedStatus
  split
  · exact Or.inr rfl
  · exact Or.inl rfl

theorem oneActiveSchedule_approval (owned : SchedulesOwned store) (law : OneActiveSchedule store)
    {approved : EnergyManagementSchedule} (member : approved ∈ store.schedules.rows)
    {status : ScheduleStatus} (activeOr : status = .active ∨ status = .fallbackDlm) (now : Int)
    (actorId notes : Option String) : MarkedOnce (·.id) (·.controlsGroup) (·.groupId)
      (store.schedules.rows.map (approval approved status now actorId notes)) := by
  have keepsId := id_approval approved status now actorId notes
  have keepsGroup := groupId_approval approved status now actorId notes
  rcases activeOr with rfl | rfl
  · apply markedOnce_map_of_promotes keepsId keepsGroup approved.id approved.groupId
    · intro row rowMem sameId
      rw [store.schedules.eq_of_key_eq rowMem member sameId]
    · intro row rowMem controls other
      rw [EnergyManagementSchedule.controlsGroup_iff, groupId_approval, status_approval,
        if_neg other] at controls
      obtain ⟨isActive, groupId, named⟩ := controls
      have notSuperseded : ¬ isSupersededBy approved row = true := by
        intro superseded
        rw [if_pos ⟨rfl, superseded⟩] at isActive
        contradiction
      rw [if_neg fun both => notSuperseded both.2] at isActive
      refine ⟨EnergyManagementSchedule.controlsGroup_iff.mpr ⟨isActive, groupId, named⟩, ?_⟩
      -- an active schedule of the same group is of the same tenant, hence superseded
      intro sameGroup
      rw [named] at sameGroup
      obtain ⟨nonempty, group, found, tenantEq⟩ := owned row rowMem groupId named
      obtain ⟨_, sameFound, foundAgain, approvedTenant⟩ :=
        owned approved member groupId sameGroup.symm
      rw [found, Option.some.injEq] at foundAgain
      apply notSuperseded
      refine isSupersededBy_iff.mpr ⟨?_, ?_, other, isActive⟩
      · rw [← tenantEq, foundAgain, approvedTenant]
      · simp [inScopeOf, ← sameGroup, named, orText, nonempty]
    · intro first firstMem second secondMem _ _
      exact law first firstMem second secondMem
  · apply law.map_of_unmarks keepsId keepsGroup
    intro row _ controls
    rw [EnergyManagementSchedule.controlsGroup_iff, groupId_approval, status_approval] at controls
    obtain ⟨isActive, named⟩ := controls
    split at isActive
    · contradiction
    · rw [if_neg fun both => by simp at both] at isActive
      exact EnergyManagementSchedule.controlsGroup_iff.mpr ⟨isActive, named⟩

theorem oneActiveSchedule_next (store : Store) (request : ScheduleRequest)
    (owned : SchedulesOwned store) (law : OneActiveSchedule store) :
    OneActiveSchedule (request.next store) ↔ CreatesFirstActive store request := by
  cases request with
  | createSchedule context now createdId actorId input =>
    unfold OneActiveSchedule CreatesFirstActive
    rw [ScheduleRequest.next, (after_createSchedule context store now createdId actorId input).1]
    cases inserted : insertedSchedule context store now createdId actorId input with
    | none =>
      rw [Option.toList_none, List.append_nil]
      refine iff_of_true law ?_
      intro created equal
      rw [inserted] at equal
      contradiction
    | some created =>
      have fresh := (insertedSchedule_eq_some_iff.mp inserted).2
      rw [Option.toList_some, markedOnce_append_singleton_iff law]
      constructor
      · intro alone row equal controls other member isActive sameGroup
        rw [inserted] at equal
        cases equal
        have otherControls : other.controlsGroup = true := by
          rw [EnergyManagementSchedule.controlsGroup_iff] at controls ⊢
          rw [sameGroup]
          exact ⟨isActive, controls.2⟩
        have sameId := alone controls other member otherControls sameGroup
        exact fresh (sameId ▸ List.mem_map_of_mem member)
      · intro first controls other member otherControls sameGroup
        have isActive := (EnergyManagementSchedule.controlsGroup_iff.mp otherControls).1
        exact absurd sameGroup (first created inserted controls other member isActive)
  | approveSchedule context now id actorId input =>
    refine iff_of_true ?_ trivial
    simp only [ScheduleRequest.next]
    cases found : findSchedule context store id with
    | error error =>
      rw [after_approveSchedule_of_error found]
      exact law
    | ok approved =>
      unfold OneActiveSchedule
      rw [after_approveSchedule found, rows_approveAll]
      exact oneActiveSchedule_approval owned law (mem_of_findSchedule found)
        (approvedStatus_eq_active_or approved input) now actorId _

/-- A status that no request leaves for ACTIVE or APPROVED, once retired
schedules are only approved into the fallback. -/
def isSettled (status : ScheduleStatus) : Prop :=
  isRetired status ∨ status = .fallbackDlm

def StaysSettled (earlier later : Store) : Prop :=
  ∀ old ∈ earlier.schedules.rows, isSettled old.status →
    ∃ schedule ∈ later.schedules.rows, schedule.id = old.id ∧ isSettled schedule.status

theorem StaysSettled.trans {first second third : Store} (earlier : StaysSettled first second)
    (later : StaysSettled second third) : StaysSettled first third := by
  intro old member settled
  obtain ⟨middle, middleMem, middleId, middleSettled⟩ := earlier old member settled
  obtain ⟨last, lastMem, lastId, lastSettled⟩ := later middle middleMem middleSettled
  exact ⟨last, lastMem, lastId.trans middleId, lastSettled⟩

theorem StaysSettled.staysRetired {earlier later : Store} (settles : StaysSettled earlier later) :
    StaysRetired earlier later := by
  intro old member retired schedule scheduleMem sameId
  obtain ⟨settledRow, settledMem, settledId, settled⟩ := settles old member (Or.inl retired)
  rw [later.schedules.eq_of_key_eq scheduleMem settledMem (sameId.trans settledId.symm)]
  rcases settled with (isSuperseded | isCancelled) | isFallback
  · simp [isSuperseded]
  · simp [isCancelled]
  · simp [isFallback]

theorem staysSettled_of_subset {earlier later : Store}
    (kept : earlier.schedules.rows ⊆ later.schedules.rows) : StaysSettled earlier later := by
  intro old member settled
  exact ⟨old, kept member, rfl, settled⟩

theorem staysSettled_approval {store later : Store} {approved : EnergyManagementSchedule}
    (member : approved ∈ store.schedules.rows)
    (unretired : isRetired approved.status → approved.fallbackToDlm = true ∨ isTrue (input "fallbackToDlm") = true)
    {now : Int} {actorId notes : Option String}
    (rowsEq : later.schedules.rows = store.schedules.rows.map (approval approved (approvedStatus approved input) now actorId notes)) :
    StaysSettled store later := by
  intro row rowMem settled
  refine ⟨approval approved (approvedStatus approved input) now actorId notes row, ?_,
    id_approval _ _ _ _ _ _, ?_⟩
  · rw [rowsEq]
    exact List.mem_map_of_mem rowMem
  · rw [status_approval]
    by_cases isTarget : row.id = approved.id
    · rw [if_pos isTarget]
      have same : row = approved := store.schedules.eq_of_key_eq rowMem member isTarget
      subst same
      have fallback : approvedStatus row input = .fallbackDlm := by
        unfold approvedStatus
        rcases settled with retired | isFallback
        · rcases unretired retired with flagged | asked
          · simp [flagged]
          · simp [asked]
        · simp [isFallback]
      exact Or.inr fallback
    · rw [if_neg isTarget]
      split
      · exact Or.inl (Or.inl rfl)
      · exact settled

theorem staysSettled_next {request : ScheduleRequest} (unretired : ApprovesUnretired store request) :
    StaysSettled store (request.next store) := by
  cases request with
  | createSchedule context now createdId actorId input =>
    apply staysSettled_of_subset
    rw [ScheduleRequest.next, (after_createSchedule context store now createdId actorId input).1]
    exact List.subset_append_left _ _
  | approveSchedule context now id actorId input =>
    simp only [ScheduleRequest.next]
    cases found : findSchedule context store id with
    | error error =>
      rw [after_approveSchedule_of_error found]
      exact staysSettled_of_subset (List.Subset.refl _)
    | ok approved =>
      rw [after_approveSchedule found]
      exact staysSettled_approval (mem_of_findSchedule found) (unretired approved found)
        (rows_approveAll approved (approvedStatus approved input) now actorId
          (readOptionalString (input "notes")) store)

theorem staysRetired_next_iff (store : Store) (request : ScheduleRequest) :
    StaysRetired store (request.next store) ↔ ApprovesUnretired store request := by
  constructor
  · intro staysRetired
    cases request with
    | createSchedule => trivial
    | approveSchedule context now id actorId input =>
      intro approved found retired
      by_contra noFallback
      have member := mem_of_findSchedule found
      have activates : approvedStatus approved input = .active := by
        unfold approvedStatus
        rw [not_or, Bool.not_eq_true, Bool.not_eq_true] at noFallback
        rcases retired with isSuperseded | isCancelled
        · simp [noFallback, isSuperseded]
        · simp [noFallback, isCancelled]
      have revived := staysRetired approved member retired
        (approval approved .active now actorId (readOptionalString (input "notes")) approved)
        (by
          simp only [ScheduleRequest.next]
          rw [after_approveSchedule found, rows_approveAll, activates]
          exact List.mem_map_of_mem member)
        (id_approval _ _ _ _ _ _)
      rw [status_approval, if_pos rfl] at revived
      exact revived.1 rfl
  · intro unretired
    exact (staysSettled_next unretired).staysRetired

/-- In every run of requests from a store whose schedules belong to the tenants of
their groups: at most one schedule of each group is ACTIVE in every state, and no
retired schedule is ever active or approved again, exactly when the first law holds
at the start, every schedule created ACTIVE for a group is the first one, and
retired schedules are only approved into the fallback. -/
theorem scheduleLaws_run_iff {store : Store} (owned : SchedulesOwned store)
    (requests : List ScheduleRequest) :
    ((∀ reached ∈ states ScheduleRequest.next store requests, OneActiveSchedule reached) ∧
        (states ScheduleRequest.next store requests).Pairwise StaysRetired) ↔
      OneActiveSchedule store ∧ StepsMeet ScheduleRequest.next
        (fun state request => CreatesFirstActive state request ∧ ApprovesUnretired state request)
        store requests := by
  rw [stepsMeet_and]
  constructor
  · rintro ⟨always, pairwise⟩
    have initial := always store (mem_states_self _ store requests)
    refine ⟨initial, ?_, ?_⟩
    · exact (forall_mem_states_iff_stepsMeet SchedulesOwned schedulesOwned_next
        oneActiveSchedule_next owned initial requests).mp always
    · exact (stepsMeet_congr staysRetired_next_iff store requests).mp
        (stepsMeet_of_pairwise_states pairwise)
  · rintro ⟨initial, first, unretired⟩
    constructor
    · exact (forall_mem_states_iff_stepsMeet SchedulesOwned schedulesOwned_next
        oneActiveSchedule_next owned initial requests).mpr first
    · have settles := unretired.imp fun _ _ => staysSettled_next
      have pairwise : (states ScheduleRequest.next store requests).Pairwise StaysSettled := by
        apply pairwise_states_of_stepsMeet
        · intro first second third
          exact StaysSettled.trans
        · exact settles
      exact pairwise.imp StaysSettled.staysRetired

def createSiteSchedule (createdId : String) (status : JsValue) : ScheduleRequest :=
  .createSchedule siteContext 0 createdId none
    (((JsRecord.empty.with "stationId" (.string "station-1")).with "groupId"
      (.string "group-1")).with "status" status)

def approveSiteSchedule (id : String) : ScheduleRequest :=
  .approveSchedule siteContext 0 id none JsRecord.empty

/-- A schedule created ACTIVE beside another one is a second active schedule, and a
superseded schedule is active again after one more approval. -/
theorem siteSchedules_not_lawful : (¬ ∀ reached ∈ states ScheduleRequest.next siteStore
        [createSiteSchedule "first" (.string "ACTIVE"),
          createSiteSchedule "second" (.string "ACTIVE")], OneActiveSchedule reached) ∧
      ¬ (states ScheduleRequest.next siteStore
        [createSiteSchedule "first" .undefined, createSiteSchedule "second" .undefined,
          approveSiteSchedule "first", approveSiteSchedule "second",
          approveSiteSchedule "first"]).Pairwise StaysRetired := by
  constructor
  · decide +kernel
  · decide +kernel

/-- The small site has no schedules yet, so the laws apply to its runs. -/
theorem scheduleLaws_run_iff_site : ((∀ reached ∈ states ScheduleRequest.next siteStore
          [createSiteSchedule "first" .undefined, approveSiteSchedule "first"],
        OneActiveSchedule reached) ∧ (states ScheduleRequest.next siteStore
        [createSiteSchedule "first" .undefined, approveSiteSchedule "first"]).Pairwise
          StaysRetired) ↔ OneActiveSchedule siteStore ∧ StepsMeet ScheduleRequest.next
        (fun state request => CreatesFirstActive state request ∧ ApprovesUnretired state request)
        siteStore [createSiteSchedule "first" .undefined, approveSiteSchedule "first"] :=
  scheduleLaws_run_iff (fun _ member => absurd member List.not_mem_nil) _

end Csms.EnergyManagement
