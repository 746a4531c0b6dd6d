import Csms.Commands.Writes
import Csms.Database.Executed

/-!
# The requests that enqueue commands

`enqueueCommand` and `enqueueVehicleCommand` of `CommandsService` create three
rows with three statements, each of which is a transaction of its own.  The id of
a vehicle at its provider, which no part of the pipeline reads, is left out.
-/

namespace Csms.Commands

open Database Js

inductive EnqueueWrite where
  | createCommand (command : Command)
  | createOutbox (outbox : CommandOutbox)
  | createEvent (event : CommandEvent)

namespace EnqueueWrite

def body : EnqueueWrite → CommandTx Unit
  | createCommand command =>
    Tx.insertRow Store.commandTable [.command command.id] command (fun _ => true) (.commit ())
  | createOutbox outbox =>
    Tx.insertRow Store.outboxTable [.outbox outbox.id] outbox (fun _ => true) (.commit ())
  | createEvent event => createCommandEvent event (.commit ())

end EnqueueWrite

/-- The only query of the requests. -/
inductive EnqueueQuery where
  | existing
  deriving DecidableEq

abbrev Enqueue (α : Type) :=
  Request Store EnqueueQuery EnqueueWrite (fun _ => Unit) HttpException α

def create (write : EnqueueWrite) : Enqueue Unit :=
  Request.commit write .internal

/-- What a call reads besides its request, with the id of the outbox row, which the
database generates. -/
structure EnqueueCall extends CommandCall where
  outboxId : String

structure VehicleCommandEnqueueInput where
  vehicleId : String
  tenantId : Option String
  (provider commandType : String)
  payload : JsValue
  requestedBy : Option String

/-- `data` of the command that `enqueueCommand` creates. -/
def commandRow (call : EnqueueCall) (input : CommandRequest JsValue) : Command :=
  { newCommand call.toCommandCall input with
    domain := "CHARGE_POINT"
    vehicleId := none
    provider := none
    providerCommandId := none
    resultCode := none
    sentAt := none
    completedAt := none
    error := none }

/-- `data` of the command that `enqueueVehicleCommand` creates. -/
def vehicleCommandRow (call : EnqueueCall) (input : VehicleCommandEnqueueInput) : Command where
  id := call.commandId
  domain := "VEHICLE"
  tenantId := optionalTrimmed (orText input.tenantId none)
  stationId := none
  chargePointId := none
  connectorId := none
  vehicleId := some input.vehicleId
  provider := some input.provider
  providerCommandId := none
  resultCode := none
  commandType := input.commandType
  payload := input.payload
  status := "Queued"
  requestedBy := orText input.requestedBy none
  requestedAt := call.now
  sentAt := none
  completedAt := none
  correlationId := some call.commandId
  idempotencyTtlSec := none
  error := none

/-- `data` of the outbox row of a command. -/
def newOutbox (outboxId : String) (command : Command) : CommandOutbox where
  id := outboxId
  commandId := command.id
  status := "Queued"
  attempts := 0
  lockedAt := none
  publishedAt := none
  lastError := none
  createdAt := command.requestedAt
  updatedAt := command.requestedAt

/-- The first row of the history of a command. -/
def newCommandEvent (command : Command) : CommandEvent :=
  ⟨command.id, "Queued", command.requestedAt⟩

inductive EnqueueRequest where
  | command (call : EnqueueCall) (input : CommandRequest JsValue)
  | vehicleCommand (call : EnqueueCall) (input : VehicleCommandEnqueueInput)

structure VehicleCommandResponse where
  (commandId status : String)
  requestedAt : DateText
  providerCommandId : Option String

inductive EnqueueAnswer where
  | command (response : CommandResponse)
  | vehicleCommand (response : VehicleCommandResponse)

namespace Enqueue

/-- The three statements that both functions end with. -/
def createRows (command : Command) (outboxId : String) (answer : EnqueueAnswer) :
    Enqueue EnqueueAnswer := do
  create (.createCommand command)
  create (.createOutbox (newOutbox outboxId command))
  create (.createEvent (newCommandEvent command))
  return answer

def existing (call : EnqueueCall) (input : CommandRequest JsValue) (store : Store) :
    Option (CommandRecord JsValue) :=
  findExisting call.toCommandCall input (store.commands.rows.map Command.toCommandRecord)

theorem mem_of_existing {call : EnqueueCall} {input : CommandRequest JsValue} {store : Store}
    {found : CommandRecord JsValue} (isFound : existing call input store = some found) :
    (∃ command ∈ store.commands.rows, command.toCommandRecord = found) ∧ ∃ ttlSec correlationId,
        normalizeOptionalIdempotencyTtlSec input.idempotencyTtlSec = some ttlSec ∧
          requestKey input = some correlationId ∧
          answersRequest (resolvedTenantId call.toCommandCall input) correlationId
            (call.now - ttlSec * 1000) found = true := by
  rw [existing, findExisting] at isFound
  split at isFound
  · rename_i ttlSec correlationId isTtl isKey
    rcases List.mem_filter.mp (mem_of_newestOf isFound) with ⟨member, answers⟩
    exact ⟨List.mem_map.mp member, ttlSec, correlationId, isTtl, isKey, answers⟩
  · contradiction

/-- `findFirst`, which only a request with a key and a time to live makes. -/
def findEarlier (call : EnqueueCall) (input : CommandRequest JsValue) :
    Enqueue (Option (CommandRecord JsValue)) :=
  match normalizeOptionalIdempotencyTtlSec input.idempotencyTtlSec, requestKey input with
  | some _, some _ => Request.read .existing (existing call input)
  | _, _ => pure none

def enqueueCommand (call : EnqueueCall) (input : CommandRequest JsValue) : Enqueue EnqueueAnswer :=
  if isUpdateFirmwareCommand input.commandType && !call.firmwareCommandsEnabled then
    .throw (.badRequest
      "Firmware update commands are disabled by FEATURE_OCPP_FIRMWARE_COMMANDS_ENABLED")
  else do
    let found ← findEarlier call input
    match found with
    | some found => return .command ⟨found.id, found.status, toISOString found.requestedAt⟩
    | none =>
      createRows (commandRow call input) call.outboxId
        (.command ⟨call.commandId, "Queued", toISOString call.now⟩)

def enqueueVehicleCommand (call : EnqueueCall) (input : VehicleCommandEnqueueInput) :
    Enqueue EnqueueAnswer :=
  createRows (vehicleCommandRow call input) call.outboxId
    (.vehicleCommand ⟨call.commandId, "QUEUED", toISOString call.now, none⟩)

end Enqueue

namespace EnqueueRequest

def program : EnqueueRequest → Enqueue EnqueueAnswer
  | command call input => Enqueue.enqueueCommand call input
  | vehicleCommand call input => Enqueue.enqueueVehicleCommand call input

/-- The rows a request creates, unless it is answered with an earlier command. -/
def row : EnqueueRequest → Command
  | command call input => commandRow call input
  | vehicleCommand call input => vehicleCommandRow call input

def outbox : EnqueueRequest → CommandOutbox
  | command call input => newOutbox call.outboxId (commandRow call input)
  | vehicleCommand call input => newOutbox call.outboxId (vehicleCommandRow call input)

def created : EnqueueRequest → EnqueueAnswer
  | command call _ => .command ⟨call.commandId, "Queued", toISOString call.now⟩
  | vehicleCommand call _ =>
    .vehicleCommand ⟨call.commandId, "QUEUED", toISOString call.now, none⟩

theorem status_row (request : EnqueueRequest) : request.row.status = "Queued" := by
  cases request <;> rfl

theorem commandId_outbox (request : EnqueueRequest) :
    request.outbox.commandId = request.row.id := by
  cases request <;> rfl

end EnqueueRequest

theorem EnqueueWrite.guarded (write : EnqueueWrite) : write.body.Guarded Store.protects [] := by
  cases write with
  | createCommand command =>
    rw [body]
    apply Tx.guarded_insertRow_own Store.Lock.command
    · exact fun _ => rfl
    · intro lock other store table
      cases lock with
      | command wanted => exact absurd rfl (other wanted)
      | _ => rfl
    · trivial
  | createOutbox outbox =>
    rw [body]
    apply Tx.guarded_insertRow_own Store.Lock.outbox
    · exact fun _ => rfl
    · intro lock other store table
      cases lock with
      | outbox wanted => exact absurd rfl (other wanted)
      | _ => rfl
    · trivial
  | createEvent event => exact guarded_createCommandEvent (guarded_commit ())

namespace EnqueueWrite

/-- The rows that a statement adds to each table. -/
def commands : EnqueueWrite → List Command
  | createCommand command => [command]
  | _ => []

def outboxes : EnqueueWrite → List CommandOutbox
  | createOutbox outbox => [outbox]
  | _ => []

theorem rows_of_run {write : EnqueueWrite} {before after : Store} {result : Unit}
    (run : write.body.run before = some (after, result)) :
    after.commands.rows = before.commands.rows ++ write.commands ∧
      after.commandOutbox.rows = before.commandOutbox.rows ++ write.outboxes := by
  cases write with
  | createCommand command =>
    rcases Tx.run_insertRow_eq_some_iff.mp run with ⟨free, _, run⟩
    cases run
    exact ⟨Component.rows_insert free, (List.append_nil _).symm⟩
  | createOutbox outbox =>
    rcases Tx.run_insertRow_eq_some_iff.mp run with ⟨free, _, run⟩
    cases run
    exact ⟨(List.append_nil _).symm, Component.rows_insert free⟩
  | createEvent event =>
    cases run
    exact ⟨(List.append_nil _).symm, (List.append_nil _).symm⟩

end EnqueueWrite

namespace EnqueueRequest

def Replays : EnqueueRequest → Store → EnqueueAnswer → Prop
  | command call input, store, answer =>
    ∃ found, Enqueue.existing call input store = some found ∧
      answer = .command ⟨found.id, found.status, toISOString found.requestedAt⟩
  | vehicleCommand .., _, _ => False

/-- What a request has committed, and where it is then. -/
inductive Stage (request : EnqueueRequest) (seen : Store → Prop) :
    List EnqueueWrite → Enqueue EnqueueAnswer → Prop
  | waiting (last : Enqueue EnqueueAnswer) :
      (∀ outbox rest, last ≠ .transact (.createOutbox outbox) rest) →
      (∀ answer, last = .answer answer → ∃ store, seen store ∧ request.Replays store answer) →
      Stage request seen [] last
  | created (rest : Option Unit → Enqueue EnqueueAnswer) :
      Stage request seen [.createCommand request.row] (.transact (.createOutbox request.outbox) rest)
  | failed (error : HttpException) :
      Stage request seen [.createCommand request.row] (.throw error)
  | published (last : Enqueue EnqueueAnswer) :
      (∀ outbox rest, last ≠ .transact (.createOutbox outbox) rest) →
      (∀ answer, last ≠ .answer answer) →
      Stage request seen [.createCommand request.row, .createOutbox request.outbox] last
  | done :
      Stage request seen
        [.createCommand request.row, .createOutbox request.outbox,
          .createEvent (newCommandEvent request.row)]
        (.answer request.created)

variable {request : EnqueueRequest} {seen : Store → Prop} {labels : List EnqueueWrite}
  {last : Enqueue EnqueueAnswer}

/-- The three statements one after another. -/
theorem stage_createRows {command : Command} {outboxId : String} {answer : EnqueueAnswer}
    (row : request.row = command) (outbox : request.outbox = newOutbox outboxId command)
    (created : request.created = answer)
    (executed : (Enqueue.createRows command outboxId answer).Executed seen labels last) :
    request.Stage seen labels last := by
  rw [← row] at executed outbox
  rw [Enqueue.createRows, ← outbox, ← created, create] at executed
  rcases executed_commit_bind_iff.mp executed with ⟨rfl, rfl | rfl⟩ | ⟨_, _, rfl, second⟩
  · exact .waiting _ (fun _ _ => nofun) fun _ => nofun
  · exact .waiting _ (fun _ _ => nofun) fun _ => nofun
  rcases executed_commit_bind_iff.mp second with ⟨rfl, rfl | rfl⟩ | ⟨_, _, rfl, third⟩
  · exact .created _
  · exact .failed _
  rcases executed_commit_bind_iff.mp third with ⟨rfl, rfl | rfl⟩ | ⟨_, _, rfl, fourth⟩
  · exact .published _ (fun _ _ => nofun) fun _ => nofun
  · exact .published _ (fun _ _ => nofun) fun _ => nofun
  obtain ⟨rfl, rfl⟩ := executed_pure_iff.mp fourth
  exact .done

theorem stage_enqueueCommand {call : EnqueueCall} {input : CommandRequest JsValue}
    (executed : (Enqueue.enqueueCommand call input).Executed seen labels last) :
    (command call input).Stage seen labels last := by
  -- what follows the lookup
  have onward (found : Option (CommandRecord JsValue))
      (isFound : ∀ earlier, found = some earlier →
        ∃ store, seen store ∧ Enqueue.existing call input store = some earlier)
      (executed : Request.Executed seen
        (match found with
          | some found =>
            return .command ⟨found.id, found.status, toISOString found.requestedAt⟩
          | none =>
            Enqueue.createRows (commandRow call input) call.outboxId
              (.command ⟨call.commandId, "Queued", toISOString call.now⟩)) labels last) :
      (command call input).Stage seen labels last := by
    cases found with
    | some earlier =>
      obtain ⟨rfl, rfl⟩ := executed_pure_iff.mp executed
      apply Stage.waiting
      · exact fun _ _ => nofun
      · rintro _ ⟨rfl⟩
        rcases isFound earlier rfl with ⟨store, isSeen, existing⟩
        exact ⟨store, isSeen, earlier, existing, rfl⟩
    | none => exact stage_createRows rfl rfl rfl executed
  unfold Enqueue.enqueueCommand at executed
  split at executed
  · obtain ⟨rfl, rfl⟩ := executed_throw_iff.mp executed
    exact .waiting _ (fun _ _ => nofun) fun _ => nofun
  · unfold Enqueue.findEarlier at executed
    split at executed
    · rcases executed_read_bind_iff.mp executed with ⟨rfl, rfl⟩ | ⟨store, isSeen, executed⟩
      · exact .waiting _ (fun _ _ => nofun) fun _ => nofun
      · exact onward _ (fun earlier found => ⟨store, isSeen, found⟩) executed
    · exact onward none nofun executed

theorem stage_of_executed (executed : request.program.Executed seen labels last) :
    request.Stage seen labels last := by
  cases request with
  | command call input => exact stage_enqueueCommand executed
  | vehicleCommand call input => exact stage_createRows rfl rfl rfl executed

end EnqueueRequest

/-- The database with the sessions that enqueue commands. -/
abbrev EnqueueState :=
  ReadCommitted Store Store.Lock EnqueueQuery EnqueueWrite (fun _ => Unit) HttpException
    EnqueueRequest EnqueueAnswer

/-- What can be reached from a store when no request has arrived. -/
def EnqueueState.Reachable (store : Store) : EnqueueState → Prop :=
  ReadCommitted.Reachable EnqueueWrite.body EnqueueRequest.program Conditions.none
    (ReadCommitted.initial store)

end Csms.Commands
