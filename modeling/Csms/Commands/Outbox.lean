import Csms.Commands.Writes
import Mathlib.Order.Basic

/-!
# The outbox worker

`CommandOutboxWorker` claims queued outbox rows and hands their commands to the
gateway or to the provider of the vehicle.  A tick that the circuit breaker skips
does nothing.
-/

namespace Csms.Commands

open Database Js

/-- The message to the gateway; fields that are `undefined` are absent. -/
structure GatewayRequest where
  (commandId commandType : String)
  (stationId tenantId : Option String)
  chargePointId : String
  connectorId : Option JsNumber
  dedupeKey : String
  idempotencyTtlSec : Option Int
  payload : JsValue
  requestedBy : Option String
  requestedAt : DateText

structure OutboxConfig where
  (batchSize lockTtlMs retryBackoffMs maxAttempts : Nat)

/-- The surroundings of one tick. -/
structure Tick where
  config : OutboxConfig
  engine : Engine
  /-- The time at which rows are claimed. -/
  now : Int
  /-- The times at which the row under an id is published and fails. -/
  (publishedAt failedAt : String → Int)
  /-- The OCPP id of a charge point, in the database of a tenant. -/
  ocppId : Option String → String → Option String
  /-- What becomes of a message to the gateway: `none` when it is accepted, else
  the text of the error. -/
  publishMessage : GatewayRequest → Option String
  /-- The text of the error when a transaction fails. -/
  transactionError : String
  /-- The id of a vehicle command at a provider that has none yet. -/
  newProviderCommandId : String → String

namespace Outbox

variable (tick : Tick)

def staleTime : Int :=
  tick.now - tick.config.lockTtlMs

def retryCutoff : Int :=
  tick.now - tick.config.retryBackoffMs

/-- Claim the candidates one after another; other workers can be faster. -/
def claimAll : List CommandOutbox → Dispatch (List CommandOutbox)
  | [] => pure []
  | candidate :: candidates => do
    let found ← execute (.claim candidate.id (staleTime tick) tick.now)
    let lockedItems ← claimAll candidates
    return if (show Bool from found) then claimedOutbox tick.now candidate :: lockedItems
      else lockedItems

def claimBatch : Dispatch (List CommandOutbox) := do
  let candidates ← findOutboxCandidates (staleTime tick) (retryCutoff tick) tick.config.batchSize
  claimAll tick candidates

/-- The error of the dead-letter topic is logged only. -/
def moveToDeadLetter (outbox : CommandOutbox) (message : String) : Dispatch Unit :=
  execute (.markDeadLettered outbox.id outbox.commandId message (tick.failedAt outbox.id))

def handlePublishFailure (outbox : CommandOutbox) (message : String) : Dispatch Unit :=
  if tick.config.maxAttempts ≤ outbox.attempts then moveToDeadLetter tick outbox message
  else execute (.scheduleRetry outbox.id outbox.commandId message (tick.failedAt outbox.id))

/-- A transaction whose failure counts as a failed publication. -/
def orPublishFailure (outbox : CommandOutbox) (write : Write) : Dispatch Unit :=
  .transact write fun result =>
    match result with
    | some _ => .answer ()
    | none => handlePublishFailure tick outbox tick.transactionError

def supportedCommandTypes : List String :=
  ["LOCK", "UNLOCK", "START_CHARGING", "STOP_CHARGING", "SET_CHARGE_LIMIT", "START_CLIMATE",
    "STOP_CLIMATE"]

def provider (command : Command) : String :=
  toUpperCase ((orText command.provider none).getD "MOCK")

def publishVehicleCommand (command : Command) (outbox : CommandOutbox) : Dispatch Unit :=
  if (orText command.vehicleId none).isNone then
    handlePublishFailure tick outbox "Missing vehicleId for vehicle command"
  else if toUpperCase (trim command.commandType) ∉ supportedCommandTypes then
    handlePublishFailure tick outbox s!"Unsupported vehicle command type: {command.commandType}"
  else
    orPublishFailure tick outbox (.markConfirmed outbox.id command.id
      ((orText command.providerCommandId none).getD
        (tick.newProviderCommandId (provider command)))
      (tick.publishedAt outbox.id))

/-- The OCPP id the message goes to, or the text of the failure. -/
def resolveTargetOcppId (command : Command) : Except String String :=
  match orText command.chargePointId none, orText command.stationId none with
  | none, none => .error "Missing chargePointId or stationId"
  | none, some _ => .error "Unable to resolve OCPP ID"
  | some chargePointId, _ =>
    match tick.ocppId command.tenantId chargePointId with
    | none => .error "ChargePoint not found"
    | some ocppId => if ocppId = "" then .error "Unable to resolve OCPP ID" else .ok ocppId

/-- `payload || {}`. -/
def payloadOrEmpty : JsValue → JsValue
  | .undefined | .null | .boolean false | .string "" => .object JsRecord.empty
  | .number number =>
    if number = .finite 0 ∨ number = .nan then .object JsRecord.empty else .number number
  | payload => payload

def gatewayRequest (command : Command) (targetOcppId : String) : GatewayRequest where
  commandId := command.id
  commandType := command.commandType
  stationId := orText command.stationId none
  tenantId := orText command.tenantId none
  chargePointId := targetOcppId
  connectorId := (orText command.connectorId none).map fun id => tick.engine.toNumber (.string id)
  dedupeKey := (orText command.correlationId none).getD command.id
  idempotencyTtlSec := command.idempotencyTtlSec.filter (0 < ·)
  payload := payloadOrEmpty command.payload
  requestedBy := orText command.requestedBy none
  requestedAt := toISOString command.requestedAt

def publishToGateway (command : Command) (outbox : CommandOutbox) : Dispatch Unit :=
  match resolveTargetOcppId tick command with
  | .error message => handlePublishFailure tick outbox message
  | .ok targetOcppId =>
    match tick.publishMessage (gatewayRequest tick command targetOcppId) with
    | some message => handlePublishFailure tick outbox message
    | none =>
      orPublishFailure tick outbox
        (.markSent outbox.id command.id (tick.publishedAt outbox.id))

def publish (outbox : CommandOutbox) : Dispatch Unit := do
  let command ← findCommand outbox.commandId
  match command with
  | none => handlePublishFailure tick outbox "Command not found"
  | some command =>
    if toUpperCase ((orText (some command.domain) none).getD "CHARGE_POINT") = "VEHICLE" then
      publishVehicleCommand tick command outbox
    else publishToGateway tick command outbox

def publishAll : List CommandOutbox → Dispatch Unit
  | [] => pure ()
  | outbox :: batch => do
    publish tick outbox
    publishAll batch

/-- A tick; an error ends it. -/
def run : Dispatch Unit := do
  let batch ← claimBatch tick
  publishAll tick batch

end Outbox

end Csms.Commands

/-! ## The circuit breaker of the outbox

`CommandOutboxWorker` counts the publications that fail one after the other.  Enough of them
open the circuit, and a tick that starts while it is open is skipped.  The tick that opens it
goes on with its batch.
-/

namespace Csms.Commands.Circuit

structure CircuitConfig where
  /-- `OUTBOX_CIRCUIT_BREAKER_ENABLED`. -/
  isEnabled : Bool
  failureThreshold : Nat
  openMs : Int
  maxAttempts : Nat

structure CircuitWorker where
  consecutivePublishFailures : Nat
  circuitOpenUntilMs : Int
  deriving DecidableEq

inductive KafkaTopic where
  | commandRequests
  | commandDeadLetters
  deriving DecidableEq

/-- How the publication of a row goes. -/
inductive Outcome where
  /-- The command cannot be looked up, which ends the batch. -/
  | throws
  /-- There is no command that can be published. -/
  | rejected
  /-- A command of a charge point: whether Kafka accepts it, and the database what follows. -/
  | chargePoint (isAccepted isStored : Bool)
  /-- A command of a vehicle, which is not published to Kafka. -/
  | vehicle (isStored : Bool)

structure OutboxRow where
  attempts : Nat
  outcome : Outcome
  /-- The time when a failure is recorded. -/
  failedAt : Int
  /-- The transaction of `handlePublishFailure` succeeds. -/
  isHandled : Bool
  /-- The dead letter is published, or its failure is audited. -/
  isReported : Bool

structure Tick where
  startedAt : Int
  kafkaIsDown : Bool
  /-- The time when Kafka was found to be down. -/
  checkedAt : Int
  batch : List OutboxRow

namespace CircuitWorker

variable (config : CircuitConfig) (worker : CircuitWorker)

def openCircuit (now : Int) : CircuitWorker where
  consecutivePublishFailures := 0
  circuitOpenUntilMs := now + config.openMs

def recordPublishSuccess : CircuitWorker :=
  { worker with consecutivePublishFailures := 0 }

def recordPublishFailure (now : Int) : CircuitWorker :=
  if config.failureThreshold ≤ worker.consecutivePublishFailures + 1 then openCircuit config now
  else { worker with consecutivePublishFailures := worker.consecutivePublishFailures + 1 }

/-- The publications of `handlePublishFailure`, and whether the batch goes on. -/
def handlePublishFailure (row : OutboxRow) : List KafkaTopic × Bool :=
  if config.maxAttempts ≤ row.attempts then
    if row.isHandled then ([.commandDeadLetters], row.isReported) else ([], false)
  else ([], row.isHandled)

/-- `publish`: the worker after it, what it has sent to Kafka, and whether the batch goes on. -/
def publish (row : OutboxRow) : CircuitWorker × List KafkaTopic × Bool :=
  let failed (worker : CircuitWorker) := worker.recordPublishFailure config row.failedAt
  let handled := handlePublishFailure config row
  match row.outcome with
  | .throws => (worker, [], false)
  | .rejected => (worker, handled)
  | .chargePoint true true => (worker.recordPublishSuccess, [.commandRequests], true)
  | .chargePoint true false =>
    (failed worker.recordPublishSuccess, .commandRequests :: handled.1, handled.2)
  | .chargePoint false _ => (failed worker, .commandRequests :: handled.1, handled.2)
  | .vehicle true => (worker.recordPublishSuccess, [], true)
  | .vehicle false => (failed worker, handled)

def publishBatch (worker : CircuitWorker) : List OutboxRow → CircuitWorker × List KafkaTopic
  | [] => (worker, [])
  | row :: rest =>
    let (published, sent, goesOn) := worker.publish config row
    if goesOn then
      ((published.publishBatch rest).1, sent ++ (published.publishBatch rest).2)
    else (published, sent)

def tick (tick : Tick) : CircuitWorker × List KafkaTopic :=
  if config.isEnabled then
    if tick.startedAt < worker.circuitOpenUntilMs then (worker, [])
    else if tick.kafkaIsDown then (openCircuit config tick.checkedAt, [])
    else worker.publishBatch config tick.batch
  else worker.publishBatch config tick.batch

def run (worker : CircuitWorker) : List Tick → CircuitWorker × List (List KafkaTopic)
  | [] => (worker, [])
  | next :: rest =>
    let ticked := worker.tick config next
    ((ticked.1.run rest).1, ticked.2 :: (ticked.1.run rest).2)

end CircuitWorker

/-- Ticks that start while the circuit is open send nothing and leave it as it is. -/
theorem run_of_open {config : CircuitConfig} (isEnabled : config.isEnabled = true)
    {worker : CircuitWorker} {ticks : List Tick}
    (isOpen : ∀ tick ∈ ticks, tick.startedAt < worker.circuitOpenUntilMs) :
    worker.run config ticks = (worker, ticks.map fun _ => []) := by
  induction ticks with
  | nil => rfl
  | cons next rest inductionHypothesis =>
    obtain ⟨first, others⟩ := List.forall_mem_cons.mp isOpen
    have skipped : worker.tick config next = (worker, []) := by
      rw [CircuitWorker.tick, if_pos isEnabled, if_pos first]
    rw [CircuitWorker.run, skipped, inductionHypothesis others]
    rfl

namespace Sample

def config : CircuitConfig :=
  ⟨true, 1, 15000, 5⟩

def failure : OutboxRow :=
  ⟨1, .chargePoint false true, 0, true, true⟩

def failing : Tick :=
  ⟨0, false, 0, [failure, failure]⟩

end Sample

open Sample

end Csms.Commands.Circuit
