import Csms.Js.Value
import Csms.Js.Text
import Csms.Table.Newest

/-!
# Enqueueing charge point commands

`CommandsService.enqueueCommand` answers a request with the latest command under
the same tenant and correlation id when that command was requested within the
idempotency window of the request, and creates a new command otherwise.  The
payload of a command is opaque to the service.
-/

namespace Csms

/-- The exceptions a request can end with. -/
inductive HttpException where
  | badRequest (message : String)
  | notFound (message : String)
  /-- Anything the framework turns into a 500: a `TypeError`, a constraint of
  the database. -/
  | internal
  deriving DecidableEq, Repr

/-- The organisations of the request in progress. -/
structure TenantContext where
  (effectiveOrganizationId authenticatedOrganizationId : Option String)

/-- `context?.effectiveOrganizationId || context?.authenticatedOrganizationId || fallback`. -/
def TenantContext.resolve (context : Option TenantContext) (fallback : Option String) :
    Option String :=
  Js.orText (context.bind (·.effectiveOrganizationId))
    (Js.orText (context.bind (·.authenticatedOrganizationId)) fallback)

end Csms

namespace Csms.Commands

open Js

universe u

variable {π : Type u}

structure RequestedBy where
  (userId orgId : Option String)

structure CommandRequest (π : Type u) where
  commandType : String
  (tenantId stationId chargePointId : Option String)
  connectorId : Option Int
  payload : π
  requestedBy : Option RequestedBy
  (correlationId dedupeKey : Option String)
  idempotencyTtlSec : Option JsNumber

/-- A row of `commands`. -/
structure CommandRecord (π : Type u) where
  id : String
  (tenantId stationId chargePointId connectorId : Option String)
  commandType : String
  payload : π
  status : String
  requestedBy : Option String
  requestedAt : Int
  correlationId : Option String
  idempotencyTtlSec : Option Int

/-- A row of the outbox the gateway is fed from. -/
structure CommandOutboxRow where
  (commandId status : String)
  attempts : Nat
  createdAt : Int

/-- A row of the history of a command. -/
structure CommandEventRow where
  (commandId status commandType : String)
  tenantId : Option String
  occurredAt : Int

/-- The tables of the service, rows in the order of their creation. -/
structure CommandTables (π : Type u) where
  commands : List (CommandRecord π)
  commandOutbox : List CommandOutboxRow
  commandEvents : List CommandEventRow

def CommandTables.empty : CommandTables π :=
  ⟨[], [], []⟩

structure CommandResponse where
  (commandId status : String)
  requestedAt : DateText

/-- What one call of the service reads besides its request and the tables. -/
structure CommandCall where
  firmwareCommandsEnabled : Bool
  context : Option TenantContext
  now : Int
  /-- The result of `randomUUID`. -/
  commandId : String

/-- `replace(/([a-z0-9])([A-Z])/g, '$1_$2')`. -/
def splitCamelCase : List Char → List Char
  | lower :: upper :: rest =>
    if (lower.isLower || lower.isDigit) && upper.isUpper then
      lower :: '_' :: splitCamelCase (upper :: rest)
    else
      lower :: splitCamelCase (upper :: rest)
  | rest => rest

def isUpdateFirmwareCommand (commandType : String) : Bool :=
  toWord (String.ofList (splitCamelCase (trim commandType).toList)) = "UPDATE_FIRMWARE"

def optionalTrimmed : Option String → Option String
  | none => none
  | some value => if trim value = "" then none else some (trim value)

def normalizeOptionalIdempotencyTtlSec : Option JsNumber → Option Int
  | some (.finite value) => if 0 < value then some ⌊value⌋ else none
  | _ => none

/-- `normalizedCorrelationId || normalizedDedupeKey`. -/
def requestKey (input : CommandRequest π) : Option String :=
  (optionalTrimmed input.correlationId).or (optionalTrimmed input.dedupeKey)

def resolvedTenantId (call : CommandCall) (input : CommandRequest π) : Option String :=
  TenantContext.resolve call.context
    (orText input.tenantId (input.requestedBy.bind fun requester => orText requester.orgId none))

/-- The condition of the lookup for an earlier command. -/
def answersRequest (tenantId : Option String) (correlationId : String)
    (replayWindowStart : Int) (record : CommandRecord π) : Bool :=
  record.tenantId = tenantId ∧ record.correlationId = some correlationId ∧
    replayWindowStart ≤ record.requestedAt

/-- The earlier command that is replayed, the one requested last. -/
def findExisting (call : CommandCall) (input : CommandRequest π)
    (records : List (CommandRecord π)) : Option (CommandRecord π) :=
  match normalizeOptionalIdempotencyTtlSec input.idempotencyTtlSec, requestKey input with
  | some ttlSec, some correlationId =>
    newestOf CommandRecord.requestedAt
      (records.filter (answersRequest (resolvedTenantId call input) correlationId
        (call.now - ttlSec * 1000)))
  | _, _ => none

def newCommand (call : CommandCall) (input : CommandRequest π) : CommandRecord π where
  id := call.commandId
  tenantId := resolvedTenantId call input
  stationId := orText input.stationId none
  chargePointId := orText input.chargePointId none
  connectorId := input.connectorId.map toString
  commandType := input.commandType
  payload := input.payload
  status := "Queued"
  requestedBy := input.requestedBy.bind fun requester => orText requester.userId none
  requestedAt := call.now
  correlationId := some ((requestKey input).getD call.commandId)
  idempotencyTtlSec := normalizeOptionalIdempotencyTtlSec input.idempotencyTtlSec

/-- The rows a new command adds to the three tables. -/
def CommandTables.create (tables : CommandTables π) (call : CommandCall)
    (input : CommandRequest π) : CommandTables π where
  commands := tables.commands ++ [newCommand call input]
  commandOutbox := tables.commandOutbox ++
    [{ commandId := call.commandId, status := "Queued", attempts := 0, createdAt := call.now }]
  commandEvents := tables.commandEvents ++
    [{ commandId := call.commandId, status := "Queued", commandType := input.commandType
       tenantId := resolvedTenantId call input, occurredAt := call.now }]

/-- The only rejection comes before the first write. -/
def enqueueCommand (call : CommandCall) (input : CommandRequest π) (tables : CommandTables π) :
    Except HttpException (CommandResponse × CommandTables π) :=
  if isUpdateFirmwareCommand input.commandType && !call.firmwareCommandsEnabled then
    .error (.badRequest
      "Firmware update commands are disabled by FEATURE_OCPP_FIRMWARE_COMMANDS_ENABLED")
  else
    match findExisting call input tables.commands with
    | some existing =>
      .ok (⟨existing.id, existing.status, toISOString existing.requestedAt⟩, tables)
    | none =>
      .ok (⟨call.commandId, "Queued", toISOString call.now⟩, tables.create call input)

variable {call : CommandCall} {input : CommandRequest π}

theorem findExisting_eq_none_iff {records : List (CommandRecord π)} :
    findExisting call input records = none ↔
      ∀ ttlSec, normalizeOptionalIdempotencyTtlSec input.idempotencyTtlSec = some ttlSec →
        ∀ correlationId, requestKey input = some correlationId → ∀ record ∈ records,
          answersRequest (resolvedTenantId call input) correlationId
            (call.now - ttlSec * 1000) record = false := by
  unfold findExisting
  cases normalizeOptionalIdempotencyTtlSec input.idempotencyTtlSec with
  | none => simp
  | some ttlSec =>
    cases requestKey input with
    | none => simp
    | some correlationId => simp

/-- The answer to an accepted request. -/
def CommandTables.answer (tables : CommandTables π) (call : CommandCall)
    (input : CommandRequest π) : CommandResponse :=
  match findExisting call input tables.commands with
  | some existing => ⟨existing.id, existing.status, toISOString existing.requestedAt⟩
  | none => ⟨call.commandId, "Queued", toISOString call.now⟩

/-- The tables after an accepted request: unchanged by a replay, one command
longer otherwise. -/
def CommandTables.afterRequest (tables : CommandTables π) (call : CommandCall)
    (input : CommandRequest π) : CommandTables π :=
  match findExisting call input tables.commands with
  | some _ => tables
  | none => tables.create call input

theorem enqueueCommand_eq_ok (call : CommandCall)
    (allowed : isUpdateFirmwareCommand input.commandType = false) (tables : CommandTables π) :
    enqueueCommand call input tables =
      .ok (tables.answer call input, tables.afterRequest call input) := by
  unfold enqueueCommand CommandTables.answer CommandTables.afterRequest
  rw [allowed]
  cases findExisting call input tables.commands <;> rfl

theorem afterRequest_of_fresh {tables : CommandTables π}
    (fresh : findExisting call input tables.commands = none) :
    (tables.afterRequest call input).commands = tables.commands ++ [newCommand call input] := by
  unfold CommandTables.afterRequest
  rw [fresh]
  rfl

theorem afterRequest_of_replay {tables : CommandTables π} {existing : CommandRecord π}
    (replayed : findExisting call input tables.commands = some existing) :
    tables.afterRequest call input = tables := by
  unfold CommandTables.afterRequest
  rw [replayed]

end Csms.Commands
