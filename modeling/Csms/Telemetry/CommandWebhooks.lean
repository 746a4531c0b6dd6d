import Csms.Commands.Status
import Csms.Telemetry.Latest

/-!
# Command webhooks

A Smartcar webhook for a vehicle can report the status of a command, which is found by
its id alone.  Neither is it compared with the vehicle, nor is a final status kept.
-/

namespace Csms.Telemetry

open Database Js
open Commands (Command isTerminalText)

inductive VehicleCommandStatus where
  | queued
  | sent
  | confirmed
  | failed
  deriving DecidableEq, Repr

def mapCommandStatus (status : String) : VehicleCommandStatus :=
  match toUpperCase (trim status) with
  | "QUEUED" => .queued
  | "SENT" => .sent
  | "CONFIRMED" | "COMPLETED" => .confirmed
  | "FAILED" | "DEADLETTERED" | "DEAD_LETTERED" => .failed
  | _ => .queued

/-- Nothing more is to come for the command. -/
def isTerminal (status : String) : Bool :=
  isTerminalText status || mapCommandStatus status = .confirmed ||
    mapCommandStatus status = .failed

/-- No command with a final status has another one afterwards. -/
def KeepsTerminal (before after : Store) : Prop :=
  ∀ id command, before.commands.find? id = some command → isTerminal command.status = true →
    (after.commands.find? id).map (·.status) = some command.status

/-- A webhook leaves the commands of all vehicles but its own as they are. -/
def TelemetryWrite.KeepsOthers (write : TelemetryWrite) (before after : Store) : Prop :=
  match write with
  | .updateCommand vehicleId .. =>
    ∀ id command owner, before.commands.find? id = some command →
      command.vehicleId = some owner → owner ≠ vehicleId →
        after.commands.find? id = some command
  | _ => True

def ReportsNothingNew (status : String) (now : Int) (command : Command) : Prop :=
  status = command.status ∧
    (status = "Confirmed" ∨ status = "Failed" → command.completedAt = some now)

/-- The command that a webhook updates has no other final status, and it is of the
webhook's vehicle, unless the webhook reports nothing new of it. -/
def TelemetryWrite.Fits (write : TelemetryWrite) (store : Store) : Prop :=
  match write with
  | .updateCommand vehicleId commandId status now =>
    ∀ command, store.commands.find? commandId = some command →
      isSmartcarCommand commandId command = true →
        (isTerminal command.status = true → status = command.status) ∧
          ∀ owner, command.vehicleId = some owner → owner ≠ vehicleId →
            ReportsNothingNew status now command
  | _ => True

section Updates

variable {store : Store} {commandId status : String} {now : Int}

theorem status_apply_commandUpdate (command : Command) :
    ((TelemetryWrite.commandUpdate status now).apply command).status = status :=
  rfl

theorem apply_commandUpdate_eq_iff {command : Command} :
    (TelemetryWrite.commandUpdate status now).apply command = command ↔
      ReportsNothingNew status now command := by
  constructor
  · intro same
    have sameStatus : status = command.status := congrArg (·.status) same
    refine ⟨sameStatus, fun isFinal => ?_⟩
    have sameTime : (TelemetryWrite.commandUpdate status now).completedAt.getD
        command.completedAt = command.completedAt := congrArg (·.completedAt) same
    rw [TelemetryWrite.commandUpdate, if_pos isFinal, Option.getD_some] at sameTime
    exact sameTime.symm
  · rintro ⟨rfl, sameTime⟩
    by_cases isFinal : command.status = "Confirmed" ∨ command.status = "Failed"
    · rw [TelemetryWrite.commandUpdate, if_pos isFinal, ← sameTime isFinal]
      rfl
    · rw [TelemetryWrite.commandUpdate, if_neg isFinal]
      rfl

theorem find?_updateCommand (vehicleId id : String) :
    ((TelemetryWrite.updateCommand vehicleId commandId status now).change store).commands.find? id =
      (store.commands.find? id).map fun command =>
        if TelemetryWrite.isSmartcarCommand commandId command then
          (TelemetryWrite.commandUpdate status now).apply command
        else command :=
  Table.find?_updateWhere store.commands (TelemetryWrite.isSmartcarCommand commandId)
    (TelemetryWrite.commandUpdate status now).apply
    (TelemetryWrite.commandUpdate status now).id_apply id

theorem id_of_isSmartcarCommand {command : Command}
    (isIt : TelemetryWrite.isSmartcarCommand commandId command = true) : command.id = commandId :=
  of_decide_eq_true (Bool.and_eq_true_iff.mp (Bool.and_eq_true_iff.mp isIt).1).1

theorem keepsTerminal_updateCommand_iff (vehicleId : String) : KeepsTerminal store
        ((TelemetryWrite.updateCommand vehicleId commandId status now).change store) ↔
      ∀ command, store.commands.find? commandId = some command →
        TelemetryWrite.isSmartcarCommand commandId command = true →
          isTerminal command.status = true → status = command.status := by
  constructor
  · intro keeps command found isIt terminal
    have kept := keeps commandId command found terminal
    rw [find?_updateCommand, found, Option.map_some, if_pos isIt, Option.map_some] at kept
    exact Option.some.inj kept
  · intro fits id command found terminal
    rw [find?_updateCommand, found, Option.map_some, Option.map_some]
    by_cases isIt : TelemetryWrite.isSmartcarCommand commandId command = true
    · obtain rfl := (Table.find?_eq_some_iff.mp found).2
      rw [if_pos isIt, status_apply_commandUpdate]
      exact congrArg some
        (fits command (id_of_isSmartcarCommand isIt ▸ found) isIt terminal)
    · rw [if_neg isIt]

theorem keepsOthers_updateCommand_iff (vehicleId : String) :
    (TelemetryWrite.updateCommand vehicleId commandId status now).KeepsOthers store
        ((TelemetryWrite.updateCommand vehicleId commandId status now).change store) ↔
      ∀ command, store.commands.find? commandId = some command →
        TelemetryWrite.isSmartcarCommand commandId command = true →
          ∀ owner, command.vehicleId = some owner → owner ≠ vehicleId →
            ReportsNothingNew status now command := by
  constructor
  · intro keeps command found isIt owner isOwner isOther
    have kept := keeps commandId command owner found isOwner isOther
    rw [find?_updateCommand, found, Option.map_some, if_pos isIt] at kept
    exact apply_commandUpdate_eq_iff.mp (Option.some.inj kept)
  · intro fits id command owner found isOwner isOther
    rw [find?_updateCommand, found, Option.map_some]
    by_cases isIt : TelemetryWrite.isSmartcarCommand commandId command = true
    · obtain rfl := (Table.find?_eq_some_iff.mp found).2
      rw [if_pos isIt]
      exact congrArg some (apply_commandUpdate_eq_iff.mpr
        (fits command (id_of_isSmartcarCommand isIt ▸ found) isIt owner isOwner isOther))
    · rw [if_neg isIt]

end Updates

theorem TelemetryWrite.commands_change_of_ne {write : TelemetryWrite}
    (isOther : ∀ vehicleId commandId status now,
      write ≠ .updateCommand vehicleId commandId status now) (store : Store) :
    (write.change store).commands = store.commands := by
  cases write with
  | updateCommand vehicleId commandId status now => exact absurd rfl (isOther _ _ _ _)
  | upsertLatest row =>
    change (upserted row store).commands = store.commands
    rw [upserted]
    split <;> rfl
  | _ => rfl

theorem TelemetryWrite.keeps_iff_fits (write : TelemetryWrite) (store : Store) :
    (KeepsTerminal store (write.change store) ∧ write.KeepsOthers store (write.change store)) ↔
      write.Fits store := by
  by_cases isUpdate : ∃ vehicleId commandId status now,
      write = .updateCommand vehicleId commandId status now
  · rcases isUpdate with ⟨vehicleId, commandId, status, now, rfl⟩
    rw [keepsTerminal_updateCommand_iff, keepsOthers_updateCommand_iff]
    constructor
    · rintro ⟨terminal, others⟩ command found isIt
      exact ⟨terminal command found isIt, others command found isIt⟩
    · intro fits
      exact ⟨fun command found isIt => (fits command found isIt).1,
        fun command found isIt => (fits command found isIt).2⟩
  · have unchanged : (write.change store).commands = store.commands := by
      apply commands_change_of_ne
      intro vehicleId commandId status now same
      exact isUpdate ⟨vehicleId, commandId, status, now, same⟩
    have terminal : KeepsTerminal store (write.change store) := by
      intro id command found _
      rw [unchanged, found]
      rfl
    cases write with
    | updateCommand vehicleId commandId status now => exact absurd ⟨_, _, _, _, rfl⟩ isUpdate
    | _ => exact iff_of_true ⟨terminal, trivial⟩ trivial

/-- In every run, final statuses and the commands of other vehicles are kept exactly when
each webhook fits the command that it updates. -/
theorem commands_kept_iff {runtime : Runtime}
    {conditions : Conditions Store TelemetryQuery TelemetryWrite TelemetryAction} {store : Store}
    {state : TelemetryState} (reachable : state.Reachable runtime conditions store) :
    (∀ commit ∈ state.shared.commits, KeepsTerminal commit.before commit.after ∧
        commit.label.KeepsOthers commit.before commit.after) ↔
      ∀ commit ∈ state.shared.commits, commit.label.Fits commit.before := by
  apply forall₂_congr
  intro commit member
  rw [(reachable.commit_change member).2]
  exact commit.label.keeps_iff_fits commit.before

namespace Sample

def command (vehicleId status : String) : Command where
  id := "cmd"
  status := status
  requestedAt := 0
  correlationId := some "cmd"
  payload := .null
  tenantId := none
  stationId := none
  chargePointId := none
  connectorId := none
  commandType := "LOCK"
  requestedBy := some "ada"
  idempotencyTtlSec := none
  domain := "VEHICLE"
  vehicleId := some vehicleId
  provider := some "SMARTCAR"
  providerCommandId := none
  resultCode := none
  sentAt := some 0
  completedAt := none
  error := none

def storeWith (command : Command) : Store :=
  { store with commands := ⟨[command], List.nodup_singleton _⟩ }

def reports (status : String) : TelemetryAction :=
  .smartcarWebhook (call "")
    (((JsRecord.empty.with "vehicleId" (.string "car")).with "commandId" (.string "cmd")).with
      "status" (.string status))

def reportsStatus (id : Nat) (status : String) : List (DatabaseEvent TelemetryAction) :=
  [.arrive (reports status), .query id, .query id, .query id] ++ writes id ++ writes id ++
    writes id ++ [.query id] ++ writes id

def commandStatuses (state : TelemetryState) : List String :=
  state.shared.store.commands.rows.map fun command => command.status

def addressee : TelemetryWrite → Option String
  | .updateCommand vehicleId .. => some vehicleId
  | _ => none

def effectOf (commit : Commit Store TelemetryWrite) :
    Option String × Option (Option String × String) × Option String :=
  (addressee commit.label,
    (commit.before.commands.find? "cmd").map fun command => (command.vehicleId, command.status),
    (commit.after.commands.find? "cmd").map fun command => command.status)

end Sample

open Sample

/-- A webhook that confirms a command of its own vehicle. -/
theorem commands_kept_iff_confirmed :
    ∃ state : TelemetryState, commandStatuses state = ["Confirmed"] ∧
      ((∀ commit ∈ state.shared.commits, KeepsTerminal commit.before commit.after ∧
          commit.label.KeepsOthers commit.before commit.after) ↔
        ∀ commit ∈ state.shared.commits, commit.label.Fits commit.before) := by
  have run : (afterFrom (storeWith (command "car" "Sent")) Conditions.none
      (reportsStatus 0 "COMPLETED")).map commandStatuses = some ["Confirmed"] := by
    decide +kernel
  rcases Option.map_eq_some_iff.mp run with ⟨state, reached, statuses⟩
  exact ⟨state, statuses, commands_kept_iff (Transition.reachable_of_foldlM reached)⟩

/-- A webhook for the car sets the confirmed command of the van to failed. -/
theorem confirmed_command_of_other_vehicle_fails : ∃ state : TelemetryState,
      state.Reachable runtime Conditions.none
        (storeWith (Sample.command "van" "Confirmed")) ∧
      ∃ commit ∈ state.shared.commits, ¬ KeepsTerminal commit.before commit.after ∧
        ¬ commit.label.KeepsOthers commit.before commit.after := by
  have run : (afterFrom (storeWith (Sample.command "van" "Confirmed"))
      Conditions.none (reportsStatus 0 "FAILED")).map
        (fun state => state.shared.commits.getLast?.map effectOf) =
      some (some (some "car", some (some "van", "Confirmed"), some "Failed")) := by
    decide +kernel
  rcases Option.map_eq_some_iff.mp run with ⟨state, reached, isLast⟩
  rcases Option.map_eq_some_iff.mp isLast with ⟨commit, last, effect⟩
  refine ⟨state, Transition.reachable_of_foldlM reached, commit, List.mem_of_getLast? last, ?_⟩
  rcases Prod.mk.inj effect with ⟨addressee, effect⟩
  rcases Prod.mk.inj effect with ⟨isBefore, isAfter⟩
  rcases Option.map_eq_some_iff.mp isBefore with ⟨command, found, isCommand⟩
  rcases Prod.mk.inj isCommand with ⟨isVan, isConfirmed⟩
  constructor
  · intro keeps
    have terminal : isTerminal command.status = true := by
      rw [isConfirmed]
      decide +kernel
    have kept := keeps "cmd" command found terminal
    rw [isAfter, isConfirmed] at kept
    exact absurd kept (by decide)
  · intro keeps
    rcases commit with ⟨session, label, before, after⟩
    cases label with
    | updateCommand vehicleId commandId status now =>
      cases addressee
      have kept : after.commands.find? "cmd" = some command :=
        keeps "cmd" command "van" found isVan (by decide)
      rw [kept, Option.map_some, isConfirmed] at isAfter
      exact absurd isAfter (by decide)
    | _ => contradiction

end Csms.Telemetry
