import Csms.Commands.Consumer
import Csms.Commands.Effects
import Csms.Commands.Outbox
import Csms.Database.ReadCommitted

/-!
# Terminal statuses under concurrency

Outbox workers, the consumer of gateway events and the endpoint for command
results write the status of one command with read committed isolation.  Only the
consumer looks at the status before, and at the row as it read it; so a terminal
status can be overwritten, and it is exactly when a transaction that writes
another status finds it.
-/

namespace Csms.Commands

open Database Js

inductive CommandsRequest where
  | tick (tick : Tick)
  | domainEvent (engine : Engine) (event : DomainEvent)
  | annotateCallback (commandId : String) (patch : List (String × JsValue))
  | commandResult (engine : Engine) (now : Int) (request : OcpiCommandResult)

inductive CommandsAnswer where
  | done
  | reconciled (result : Reconciled)
  | recorded (answer : CommandResultAnswer)
  deriving DecidableEq

def CommandsRequest.program : CommandsRequest → Dispatch CommandsAnswer
  | tick call => do
    Outbox.run call
    return .done
  | domainEvent engine event => do
    let result ← Consumer.reconcileEvent engine event
    return .reconciled result
  | annotateCallback commandId patch => do
    Consumer.annotateCommandCallback commandId patch
    return .done
  | commandResult engine now request => do
    let answer ← Ocpi.createCommandResult engine now request
    return .recorded answer

/-- The database with the sessions of the writers. -/
abbrev CommandsState :=
  ReadCommitted Store Store.Lock Query Write Write.Result HttpException CommandsRequest
    CommandsAnswer

/-- What can be reached from a store when no request has arrived. -/
def CommandsState.Reachable (store : Store) : CommandsState → Prop :=
  ReadCommitted.Reachable Write.body CommandsRequest.program Conditions.none
    (ReadCommitted.initial store)

/-- Commands in a terminal status keep it. -/
def Store.TerminalKept (before after : Store) : Prop :=
  ∀ id command, before.command? id = some command → isTerminalText command.status = true →
    ∃ later, after.command? id = some later ∧ later.status = command.status

/-- What the transaction finds when it commits: its command in a status that is not
terminal, or in the very status it writes. -/
def Write.FindsOpen (write : Write) (store : Store) : Prop :=
  match write with
  | markSent _ commandId _ | markConfirmed _ commandId _ _ =>
    ∀ command, store.command? commandId = some command → isTerminalText command.status = false
  | markDeadLettered _ commandId _ _ =>
    ∀ command, store.command? commandId = some command →
      isTerminalText command.status = true → command.status = CommandStatus.failed.text
  | reconcileEvent report | recordResult report =>
    ∀ command, store.command? report.commandId = some command →
      isTerminalText command.status = true → command.status = report.status.text
  | _ => True

/-- In terms of the rows before: a transaction leaves the terminal ones in their
status. -/
theorem Effect.terminalKept_iff_change {write : Write} {before after : Store}
    (effect : Effect write before after) : before.TerminalKept after ↔
      ∀ id command, before.command? id = some command → isTerminalText command.status = true →
        (write.change id command).status = command.status := by
  apply forall₄_congr
  intro id command found terminal
  rw [effect.command?, found, Option.map_some]
  simp only [Option.some.injEq, exists_eq_left']

section Updates

variable {write : Write} {commandId : String} {update : CommandUpdate} {store : Store}

/-- Whether terminal rows stay is decided at the one row that is updated. -/
theorem change_keeps_iff (updates : write.commandUpdate = some (commandId, update))
    {status : String} (sets : update.status = some status) :
    (∀ id command, store.command? id = some command → isTerminalText command.status = true →
        (write.change id command).status = command.status) ↔
      ∀ command, store.command? commandId = some command →
        isTerminalText command.status = true → command.status = status := by
  constructor
  · intro keeps command found terminal
    have same := keeps commandId command found terminal
    rw [Write.status_change updates sets] at same
    exact same.symm
  · intro same id command found terminal
    by_cases isUpdated : id = commandId
    · subst isUpdated
      rw [Write.status_change updates sets, same command found terminal]
    · rw [Write.change_of_ne updates isUpdated]

theorem forall_eq_iff_of_not_terminal {status : String}
    (notTerminal : isTerminalText status = false) :
    (∀ command, store.command? commandId = some command →
        isTerminalText command.status = true → command.status = status) ↔
      ∀ command, store.command? commandId = some command →
        isTerminalText command.status = false := by
  apply forall₂_congr
  intro command found
  constructor
  · intro same
    by_contra terminal
    rw [Bool.not_eq_false] at terminal
    rw [same terminal, notTerminal] at terminal
    contradiction
  · intro isOpen terminal
    rw [isOpen] at terminal
    contradiction

end Updates

/-- A transaction keeps terminal statuses exactly when it finds its command open. -/
theorem Effect.terminalKept_iff {write : Write} {before after : Store}
    (effect : Effect write before after) : before.TerminalKept after ↔ write.FindsOpen before := by
  rw [effect.terminalKept_iff_change]
  cases write with
  | claim | scheduleRetry => exact iff_of_true (fun _ _ _ _ => rfl) trivial
  | markSent | markConfirmed =>
    rw [change_keeps_iff rfl rfl]
    exact forall_eq_iff_of_not_terminal (by decide)
  | markDeadLettered | reconcileEvent | recordResult => exact change_keeps_iff rfl rfl
  | annotateCallback commandId payload =>
    refine iff_of_true ?_ trivial
    intro id command _ _
    apply Write.status_change_of_none
    rintro _ _ ⟨rfl⟩
    rfl

/-- Terminal statuses are kept in a run exactly when each transaction that writes a
status finds its command open when it commits. -/
theorem terminalKept_iff_findsOpen {store : Store} {state : CommandsState}
    (reachable : state.Reachable store) :
    (∀ commit ∈ state.shared.commits, commit.before.TerminalKept commit.after) ↔
      ∀ commit ∈ state.shared.commits, commit.label.FindsOpen commit.before := by
  apply forall₂_congr
  intro commit member
  rcases ReadCommitted.Reachable.commit_run Write.guarded reachable commit member with
    ⟨result, run⟩
  exact (Write.effect_of_run run).terminalKept_iff

namespace Sample

def engine : Engine where
  localeCompare _ _ := 0
  parseDateText _ := none
  coerceNumber _ := .nan

def command : Command where
  id := "cmd"
  tenantId := none
  stationId := some "station"
  chargePointId := some "cp"
  connectorId := none
  commandType := "RemoteStart"
  payload := .null
  status := "Queued"
  requestedBy := none
  requestedAt := 0
  correlationId := some "cmd"
  idempotencyTtlSec := none
  domain := "CHARGE_POINT"
  vehicleId := none
  provider := none
  providerCommandId := none
  resultCode := none
  sentAt := none
  completedAt := none
  error := none

def outbox : CommandOutbox where
  commandId := "cmd"
  status := "Queued"
  attempts := 0
  createdAt := 0
  id := "out"
  lockedAt := none
  publishedAt := none
  lastError := none
  updatedAt := 0

def store : Store where
  commands := ⟨[command], by decide⟩
  commandOutbox := ⟨[outbox], by decide⟩
  commandEvents := []
  bookings := Table.empty
  bookingEvents := []

def tick : Tick where
  config := ⟨50, 60000, 5000, 5⟩
  engine := engine
  now := 1000
  publishedAt _ := 1001
  failedAt _ := 1002
  ocppId _ _ := some "CP-1"
  publishMessage _ := none
  transactionError := "Publish failed"
  newProviderCommandId _ := "mock_1"

def accepted : DomainEvent where
  eventType := "CommandAccepted"
  correlationId := some "cmd"
  occurredAt := 1500
  payload := JsRecord.empty

def after (events : List (DatabaseEvent CommandsRequest)) : Option CommandsState :=
  events.foldlM (ReadCommitted.next Write.body CommandsRequest.program Conditions.none)
    (ReadCommitted.initial store)

def published (id : Nat) : List (DatabaseEvent CommandsRequest) :=
  [.arrive (.tick tick), .query id, .begin id, .statement id, .statement id, .commit id, .query id]

def marked (id : Nat) : List (DatabaseEvent CommandsRequest) :=
  [.begin id, .statement id, .statement id, .statement id, .commit id]

def replied (id : Nat) : List (DatabaseEvent CommandsRequest) :=
  [.arrive (.domainEvent engine accepted), .query id, .query id, .begin id, .statement id,
    .statement id, .commit id]

end Sample

open Sample

/-- A reply that comes after the command was marked as sent. -/
theorem terminalKept_iff_findsOpen_reply : ∃ state : CommandsState,
      (state.shared.store.command? "cmd").map (fun command => command.status) = some "Accepted" ∧
        ((∀ commit ∈ state.shared.commits, commit.before.TerminalKept commit.after) ↔
          ∀ commit ∈ state.shared.commits, commit.label.FindsOpen commit.before) := by
  have run : (after (published 0 ++ marked 0 ++ replied 1)).map
      (fun state => (state.shared.store.command? "cmd").map fun command => command.status) =
        some (some "Accepted") := by
    decide +kernel
  rcases Option.map_eq_some_iff.mp run with ⟨state, reached, status⟩
  exact ⟨state, status, terminalKept_iff_findsOpen (Transition.reachable_of_foldlM reached)⟩

/-- The reply overtakes the transaction that marks the command as sent: the
accepted command is sent again. -/
theorem late_publication_overwrites : ∃ state : CommandsState, state.Reachable store ∧
      ∃ commit ∈ state.shared.commits,
        (commit.before.command? "cmd").map (fun command => command.status) = some "Accepted" ∧
          (commit.after.command? "cmd").map (fun command => command.status) = some "Sent" := by
  have run : (after (published 0 ++ replied 1 ++ marked 0)).bind
      (fun state => (state.shared.commits.getLast?).map fun commit =>
        ((commit.before.command? "cmd").map fun command => command.status,
          (commit.after.command? "cmd").map fun command => command.status)) =
        some (some "Accepted", some "Sent") := by
    decide +kernel
  rcases Option.bind_eq_some_iff.mp run with ⟨state, reached, last⟩
  rcases Option.map_eq_some_iff.mp last with ⟨commit, isLast, statuses⟩
  rcases Prod.mk.inj statuses with ⟨before, later⟩
  exact ⟨state, Transition.reachable_of_foldlM reached, commit, List.mem_of_getLast? isLast, before,
    later⟩

end Csms.Commands
