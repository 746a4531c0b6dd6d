import Csms.Auth.Team.Transactions
import Csms.Service.Program

/-!
# What a synchronization leaves

After `syncAttendantProjectionForUser` the active rows of the user are those of the active
assignments as an attendant, and the rows of other users are as they were.
-/

namespace Csms.Auth

open Js Service

/-- What a station assignment and its projection agree on. -/
structure AttendantShift where
  mode : AttendantRoleMode
  (shiftStart shiftEnd timezone : String)
deriving DecidableEq

/-- The shift of an assignment, with the defaults for what it leaves open. -/
def StationTeamAssignment.shift (assignment : StationTeamAssignment) : AttendantShift where
  mode := assignment.attendantMode.getD .fixed
  shiftStart := (orText assignment.shiftStart none).getD "00:00"
  shiftEnd := (orText assignment.shiftEnd none).getD "23:59"
  timezone := (orText assignment.timezone none).getD defaultAttendantTimezone

def AttendantAssignment.shift (row : AttendantAssignment) : AttendantShift where
  mode := row.roleMode
  shiftStart := row.shiftStart
  shiftEnd := row.shiftEnd
  timezone := row.timezone

namespace Store

def isAt (userId stationId : String) (row : AttendantAssignment) : Bool :=
  row.userId = userId && row.stationId = stationId

def rowsAt (table : AttendantTable) (userId stationId : String) : List AttendantAssignment :=
  table.rows.filter (isAt userId stationId)

theorem mem_rowsAt {table : AttendantTable} {userId stationId : String}
    {row : AttendantAssignment} : row ∈ rowsAt table userId stationId ↔
      row ∈ table.rows ∧ row.userId = userId ∧ row.stationId = stationId := by
  simp [rowsAt, isAt]

def activeShifts (rows : List AttendantAssignment) : List AttendantShift :=
  (rows.filter AttendantAssignment.isActive).map AttendantAssignment.shift

section Updates

variable {table : AttendantTable} {userId stationId : String} {rows : List AttendantAssignment}
  {ids : List String} {id : String} {assignment : StationTeamAssignment}

theorem rowsAt_deactivateAttendants : rowsAt (deactivateAttendants table ids) userId stationId =
      (rowsAt table userId stationId).map fun row =>
        if ids.contains row.id then { row with isActive := false } else row :=
  Table.filter_updateWhere table _ fun _ => rfl

theorem rowsAt_projectAttendant : rowsAt (projectAttendant table id assignment) userId stationId =
      (rowsAt table userId stationId).map fun row =>
        if row.id = id then projected assignment row else row := by
  rw [projectAttendant, rowsAt, Table.filter_updateWhere table (id_projected assignment) fun _ => rfl]
  simp only [decide_eq_true_eq]
  rfl

theorem rowsAt_deactivateAttendants_of_other
    (elsewhere : ∀ row ∈ table.rows, ids.contains row.id = true →
      isAt userId stationId row = false) :
    rowsAt (deactivateAttendants table ids) userId stationId = rowsAt table userId stationId :=
  Table.filter_updateWhere_of_not table _ (fun _ => rfl) elsewhere

theorem rowsAt_projectAttendant_of_other
    (elsewhere : ∀ row ∈ table.rows, row.id = id → isAt userId stationId row = false) :
    rowsAt (projectAttendant table id assignment) userId stationId =
      rowsAt table userId stationId :=
  Table.filter_updateWhere_of_not table (id_projected assignment) (fun _ => rfl)
    fun row isRow isId => elsewhere row isRow (of_decide_eq_true isId)

/-- Updates keep the place of each row. -/
theorem exists_of_mem_projectAttendant {row : AttendantAssignment}
    (isRow : row ∈ (projectAttendant table id assignment).rows) :
    ∃ old ∈ table.rows, row.id = old.id ∧ row.userId = old.userId ∧
      row.stationId = old.stationId := by
  obtain ⟨old, isOld, change⟩ := Table.mem_updateWhere.mp isRow
  rcases change with ⟨_, isChanged⟩ | ⟨_, isSame⟩
  · exact ⟨old, isOld, by rw [isChanged]; rfl, by rw [isChanged]; rfl, by rw [isChanged]; rfl⟩
  · exact ⟨old, isOld, by rw [isSame], by rw [isSame], by rw [isSame]⟩

theorem mem_of_contains_id (areRows : ∀ row ∈ rows, row ∈ table.rows) {row : AttendantAssignment}
    (isRow : row ∈ table.rows)
    (hasId : (rows.map AttendantAssignment.id).contains row.id = true) : row ∈ rows := by
  rw [List.contains_iff_mem, List.mem_map] at hasId
  obtain ⟨other, isOther, sameId⟩ := hasId
  have same := table.eq_of_key_eq (areRows other isOther) isRow sameId
  exact same ▸ isOther

end Updates

section Assignment

variable {userId stationId other : String} {existing : List AttendantAssignment}
  {table synced : AttendantTable} {newId : String} {assignment : StationTeamAssignment}

theorem shift_projected (row : AttendantAssignment) :
    (projected assignment row).shift = assignment.shift :=
  rfl

theorem nodup_rowsAt (table : AttendantTable) (userId stationId : String) :
    ((rowsAt table userId stationId).map AttendantAssignment.id).Nodup :=
  (List.filter_sublist.map AttendantAssignment.id).nodup table.nodup

theorem map_deactivate {primaryRow : AttendantAssignment} {duplicates : List AttendantAssignment}
    (distinct : ((primaryRow :: duplicates).map AttendantAssignment.id).Nodup) :
    activeShifts (((primaryRow :: duplicates).map fun row =>
      if row.id = primaryRow.id then projected assignment row else row).map fun row =>
        if (duplicates.map AttendantAssignment.id).contains row.id then
          { row with isActive := false } else row) = [assignment.shift] := by
  rw [List.map_cons, List.nodup_cons] at distinct
  have isOnce : (duplicates.map AttendantAssignment.id).contains
      (projected assignment primaryRow).id = false := by
    rw [← Bool.not_eq_true, List.contains_iff_mem]
    exact distinct.1
  have areInactive : activeShifts ((duplicates.map fun row =>
      if row.id = primaryRow.id then projected assignment row else row).map fun row =>
        if (duplicates.map AttendantAssignment.id).contains row.id then
          { row with isActive := false } else row) = [] := by
    rw [activeShifts, List.map_eq_nil_iff, List.filter_eq_nil_iff]
    intro row member
    simp only [List.map_map, List.mem_map, Function.comp_apply] at member
    obtain ⟨duplicate, isDuplicate, rfl⟩ := member
    have isOther : duplicate.id ≠ primaryRow.id := fun same =>
      distinct.1 (same ▸ List.mem_map_of_mem isDuplicate)
    have isContained : (duplicates.map AttendantAssignment.id).contains duplicate.id = true :=
      List.contains_iff_mem.mpr (List.mem_map_of_mem isDuplicate)
    rw [if_neg isOther, if_pos isContained]
    exact Bool.false_ne_true
  rw [List.map_cons, List.map_cons, if_pos rfl, isOnce, if_neg Bool.false_ne_true, activeShifts,
    List.filter_cons_of_pos rfl, List.map_cons, shift_projected]
  exact congrArg (assignment.shift :: ·) areInactive

section

variable
    (current : existing.filter (fun row => row.stationId = assignment.stationId) = rowsAt table userId assignment.stationId)
include current

/-- Whether or not there were rows at the station, the first is active with the shift of the
assignment, and no other is. -/
theorem activeShifts_syncAssignment
    (done : syncAssignment userId existing table newId assignment = .ok synced) :
    activeShifts (rowsAt synced userId assignment.stationId) = [assignment.shift] := by
  rw [syncAssignment, current] at done
  rcases isRows : rowsAt table userId assignment.stationId with _ | ⟨primaryRow, duplicates⟩
  · rw [isRows] at done
    have grownRows := (Table.insert?_eq_some_iff.mp (orDatabaseError_eq_ok_iff.mp done)).2
    rw [rowsAt] at isRows
    rw [rowsAt, grownRows, List.filter_append, isRows, List.nil_append,
      List.filter_cons_of_pos (by simp [isAt, projected])]
    rfl
  · rw [isRows] at done
    obtain rfl := Except.ok.inj done
    have distinct := nodup_rowsAt table userId assignment.stationId
    rw [isRows] at distinct
    rw [rowsAt_deactivateAttendants, rowsAt_projectAttendant, isRows]
    exact map_deactivate distinct

theorem rowsAt_syncAssignment_of_other
    (elsewhere : other ≠ userId ∨ stationId ≠ assignment.stationId)
    (done : syncAssignment userId existing table newId assignment = .ok synced) :
    rowsAt synced other stationId = rowsAt table other stationId := by
  have isNotAt {row : AttendantAssignment} (sameUser : row.userId = userId)
      (sameStation : row.stationId = assignment.stationId) : isAt other stationId row = false := by
    rw [isAt, sameUser, sameStation, Bool.and_eq_false_iff]
    rcases elsewhere with otherUser | otherStation
    · exact Or.inl (decide_eq_false (Ne.symm otherUser))
    · exact Or.inr (decide_eq_false (Ne.symm otherStation))
  rw [syncAssignment, current] at done
  rcases isRows : rowsAt table userId assignment.stationId with _ | ⟨primaryRow, duplicates⟩
  · rw [isRows] at done
    have grownRows := (Table.insert?_eq_some_iff.mp (orDatabaseError_eq_ok_iff.mp done)).2
    rw [rowsAt, grownRows, List.filter_append, List.filter_singleton, isNotAt rfl rfl]
    exact List.append_nil _
  · rw [isRows] at done
    obtain rfl := Except.ok.inj done
    have areRows : ∀ row ∈ primaryRow :: duplicates, row ∈ table.rows ∧ row.userId = userId ∧
        row.stationId = assignment.stationId := fun row member =>
      mem_rowsAt.mp (isRows ▸ member)
    rw [rowsAt_deactivateAttendants_of_other, rowsAt_projectAttendant_of_other]
    · intro row isRow sameId
      obtain ⟨isPrimary, sameUser, sameStation⟩ := areRows primaryRow List.mem_cons_self
      have same := table.eq_of_key_eq isRow isPrimary sameId
      subst same
      exact isNotAt sameUser sameStation
    · intro row isRow hasId
      obtain ⟨old, isOld, isId, isUser, isStation⟩ := exists_of_mem_projectAttendant isRow
      have isDuplicate := mem_of_contains_id
        (fun duplicate member => (areRows duplicate (List.mem_cons_of_mem _ member)).1) isOld
        (isId ▸ hasId)
      obtain ⟨_, sameUser, sameStation⟩ := areRows old (List.mem_cons_of_mem _ isDuplicate)
      exact isNotAt (isUser.trans sameUser) (isStation.trans sameStation)

end

end Assignment

theorem activeShifts_syncAssignments {userId : String} {existing : List AttendantAssignment}
    {uuid : Nat → String} {table synced : AttendantTable} {assignments : List StationTeamAssignment}
    (distinct : (assignments.map StationTeamAssignment.stationId).Nodup)
    (current : ∀ assignment ∈ assignments,
      existing.filter (fun row => row.stationId = assignment.stationId) =
        rowsAt table userId assignment.stationId)
    (done : syncAssignments userId existing uuid table assignments = .ok synced) :
    (∀ assignment ∈ assignments,
      activeShifts (rowsAt synced userId assignment.stationId) = [assignment.shift]) ∧
    ∀ other stationId,
      (other ≠ userId ∨ stationId ∉ assignments.map StationTeamAssignment.stationId) →
        rowsAt synced other stationId = rowsAt table other stationId := by
  induction assignments generalizing table with
  | nil =>
    obtain rfl := Except.ok.inj done
    exact ⟨nofun, fun _ _ _ => rfl⟩
  | cons assignment rest ih =>
    obtain ⟨first, isFirst, later⟩ := exists_of_bind_eq_ok done
    rw [List.map_cons, List.nodup_cons] at distinct
    have atFirst := current assignment List.mem_cons_self
    have isStill : ∀ further ∈ rest,
        existing.filter (fun row => row.stationId = further.stationId) =
          rowsAt first userId further.stationId := by
      intro further member
      have otherStation : further.stationId ≠ assignment.stationId := fun same =>
        distinct.1 (same ▸ List.mem_map_of_mem member)
      rw [rowsAt_syncAssignment_of_other atFirst (Or.inr otherStation) isFirst]
      exact current further (List.mem_cons_of_mem _ member)
    obtain ⟨synchronized, unchanged⟩ := ih distinct.2 isStill later
    constructor
    · intro further member
      rcases List.mem_cons.mp member with rfl | member
      · rw [unchanged userId _ (Or.inr distinct.1)]
        exact activeShifts_syncAssignment atFirst isFirst
      · exact synchronized further member
    · intro other stationId elsewhere
      rw [List.map_cons, List.mem_cons, not_or] at elsewhere
      rw [unchanged other stationId (elsewhere.imp_right And.right)]
      exact rowsAt_syncAssignment_of_other atFirst (elsewhere.imp_right And.left) isFirst

section Synchronization

variable {store after : Store} {userId : String} {uuid : Nat → String}

theorem eq_of_syncAttendantProjectionForUser
    (done : store.syncAttendantProjectionForUser userId uuid = .ok after) :
    ∃ attendantAssignments, after = { store with attendantAssignments } := by
  obtain ⟨synced, _, isAfter⟩ := exists_of_bind_eq_ok done
  obtain rfl := Except.ok.inj isAfter
  exact ⟨_, rfl⟩

/-- The active rows of the user become those of the active assignments as an attendant, of
which there is one at each station; the rows of other users stay. -/
theorem activeShifts_syncAttendantProjectionForUser
    (distinct : ((store.activeAttendantAssignments userId).map
      StationTeamAssignment.stationId).Nodup)
    (done : store.syncAttendantProjectionForUser userId uuid = .ok after) :
    (∀ stationId, activeShifts (rowsAt after.attendantAssignments userId stationId) =
      ((store.activeAttendantAssignments userId).filter
        fun assignment => assignment.stationId = stationId).map StationTeamAssignment.shift) ∧
    ∀ other stationId, other ≠ userId →
      rowsAt after.attendantAssignments other stationId =
        rowsAt store.attendantAssignments other stationId := by
  obtain ⟨synced, isSynced, isAfter⟩ := exists_of_bind_eq_ok done
  obtain rfl := Except.ok.inj isAfter
  have selected (stationId : String) :
      (store.attendantAssignments.rows.filter fun row => row.userId = userId).filter
        (fun row => row.stationId = stationId) =
          rowsAt store.attendantAssignments userId stationId := by
    rw [List.filter_filter, rowsAt]
    apply List.filter_congr
    intro row _
    rw [isAt, Bool.and_comm]
  obtain ⟨synchronized, unchanged⟩ :=
    activeShifts_syncAssignments distinct (fun _ _ => selected _) isSynced
  have isStale {row : AttendantAssignment} (stale : row ∈ (store.attendantAssignments.rows.filter
      fun row => row.userId = userId).filter fun row =>
        !((store.activeAttendantAssignments userId).map
          StationTeamAssignment.stationId).contains row.stationId && row.isActive) :
      row ∈ synced.rows ∧ row.userId = userId ∧ row.stationId ∉
        (store.activeAttendantAssignments userId).map StationTeamAssignment.stationId := by
    simp only [List.mem_filter, decide_eq_true_eq, Bool.and_eq_true, Bool.not_eq_true',
      ← Bool.not_eq_true, List.contains_iff_mem] at stale
    obtain ⟨⟨isRow, sameUser⟩, notActive, _⟩ := stale
    have isAtStation := mem_rowsAt.mpr ⟨isRow, sameUser, rfl⟩
    rw [← unchanged userId row.stationId (Or.inr notActive)] at isAtStation
    exact ⟨(mem_rowsAt.mp isAtStation).1, sameUser, notActive⟩
  constructor
  · intro stationId
    by_cases isActive : stationId ∈
      (store.activeAttendantAssignments userId).map StationTeamAssignment.stationId
    · obtain ⟨assignment, member, rfl⟩ := List.mem_map.mp isActive
      have isOne := Table.filter_key_eq ⟨_, distinct⟩ member
      rw [isOne, rowsAt_deactivateAttendants_of_other, synchronized assignment member]
      · rfl
      · intro row isRow hasId
        obtain ⟨_, _, notActive⟩ :=
          isStale (mem_of_contains_id (fun row stale => (isStale stale).1) isRow hasId)
        rw [isAt, Bool.and_eq_false_iff]
        exact Or.inr (decide_eq_false fun same => notActive (same ▸ isActive))
    · have noAssignment : (store.activeAttendantAssignments userId).filter
          (fun assignment => assignment.stationId = stationId) = [] := by
        rw [List.filter_eq_nil_iff]
        intro assignment member same
        exact isActive ((of_decide_eq_true same) ▸ List.mem_map_of_mem member)
      rw [noAssignment, rowsAt_deactivateAttendants, unchanged userId stationId (Or.inr isActive),
        activeShifts, List.map_nil, List.map_eq_nil_iff, List.filter_eq_nil_iff]
      intro row member
      obtain ⟨old, isOld, rfl⟩ := List.mem_map.mp member
      obtain ⟨isRow, sameUser, sameStation⟩ := mem_rowsAt.mp isOld
      split
      · exact Bool.false_ne_true
      · rename_i notStale
        intro oldActive
        refine notStale (List.contains_iff_mem.mpr (List.mem_map_of_mem ?_))
        simp only [List.mem_filter, decide_eq_true_eq, Bool.and_eq_true, Bool.not_eq_true',
          ← Bool.not_eq_true, List.contains_iff_mem]
        exact ⟨⟨isRow, sameUser⟩, sameStation ▸ isActive, oldActive⟩
  · intro other stationId isOther
    rw [rowsAt_deactivateAttendants_of_other, unchanged other stationId (Or.inl isOther)]
    intro row isRow hasId
    obtain ⟨_, sameUser, _⟩ :=
      isStale (mem_of_contains_id (fun row stale => (isStale stale).1) isRow hasId)
    rw [isAt, Bool.and_eq_false_iff]
    exact Or.inl (decide_eq_false fun same => isOther (same.symm.trans sameUser))

end Synchronization

end Store

end Csms.Auth
