import Csms.Commands.Writes

/-!
# The consumer of gateway events

`CommandEventsConsumer` applies what the gateway reports about commands, one
event after another.
-/

namespace Csms.Commands

open Database Js

/-- An event that satisfies the contract, so its time is a date. -/
structure DomainEvent where
  eventType : String
  correlationId : Option String
  occurredAt : Int
  payload : JsRecord

/-- What is sent to the partner who asked for the command. -/
structure CallbackInput where
  (commandId requestId command responseUrl : String)
  partnerId : Option String
  status : CommandStatus
  error : Option String
  deriving DecidableEq

structure Reconciled where
  applied : Bool
  status : Option CommandStatus
  enqueueToFinalMs : Option Int
  callback : Option CallbackInput
  deriving DecidableEq

namespace Consumer

def notApplied : Reconciled :=
  ⟨false, none, none, none⟩

def extractErrorMessage (event : DomainEvent) : Option String :=
  match event.payload "error" with
  | .string text => if trim text = "" then none else some text
  | _ => none

/-- `commandUpdate`, without the status. -/
def commandUpdate (command : Command) (event : DomainEvent) (nextStatus : CommandStatus) :
    CommandUpdate where
  sentAt :=
    if nextStatus = .sent ∧ command.sentAt = none then some event.occurredAt else none
  completedAt :=
    if nextStatus.isTerminalStatus ∧ command.completedAt = none then
      some (some event.occurredAt)
    else none
  error :=
    match extractErrorMessage event with
    | some message => some (some message)
    | none => if nextStatus = .accepted then some none else none
  payload :=
    if nextStatus.isTerminalStatus then
      some (withOcpi (ensureObject command.payload)
        [("lastCommandStatus", .string nextStatus.text),
          ("lastCommandStatusAt", .date (some event.occurredAt))])
    else none

def callback (command : Command) (event : DomainEvent) (nextStatus : CommandStatus) :
    Option CallbackInput :=
  let ocpi := ensureObject (ensureObject command.payload "ocpi")
  if nextStatus.isTerminalStatus then
    (extractString ocpi "responseUrl").map fun responseUrl =>
      { commandId := command.id
        requestId :=
          ((extractString ocpi "requestId").or (orText command.correlationId none)).getD command.id
        command := (extractString ocpi "command").getD command.commandType
        responseUrl
        partnerId := extractString ocpi "partnerId"
        status := nextStatus
        error := extractErrorMessage event }
  else none

def reservationOutcome (command : Command) (event : DomainEvent) (nextStatus : CommandStatus) :
    ReservationOutcome where
  commandId := command.id
  commandType := command.commandType
  status := nextStatus
  correlationId := orText command.correlationId none
  payload := ensureObject command.payload
  error := extractErrorMessage event
  occurredAt := event.occurredAt

/-- Everything that is written for an event. -/
def report (command : Command) (event : DomainEvent) (nextStatus : CommandStatus)
    (booking : Option Booking) : StatusReport where
  commandId := command.id
  status := nextStatus
  update := commandUpdate command event nextStatus
  occurredAt := event.occurredAt
  booking := booking.map (Worker.syncBookingReservationState
    (reservationOutcome command event nextStatus))

def reconciled (command : Command) (event : DomainEvent)
    (mappedStatus nextStatus : CommandStatus) : Reconciled where
  applied := true
  status := some mappedStatus
  enqueueToFinalMs :=
    if nextStatus.isTerminalStatus then some (max 0 (event.occurredAt - command.requestedAt))
    else none
  callback := callback command event nextStatus

/-- The transaction of `reconcileEvent`, once the command is found. -/
def reconcileCommand (engine : Engine) (event : DomainEvent) (mappedStatus : CommandStatus)
    (command : Command) : Dispatch Reconciled :=
  if command.status = mappedStatus.text ∧ mappedStatus.isTerminalStatus then pure notApplied
  else do
    let existing ← findCommandEvent ⟨command.id, mappedStatus.text, event.occurredAt⟩
    if existing then pure notApplied
    else
      match resolveNextStatus command.status mappedStatus with
      | none => pure notApplied
      | some nextStatus => do
        let booking ← findReservationBooking command.commandType
          (Worker.extractReservationId engine (ensureObject command.payload))
        let _ ← execute (.reconcileEvent (report command event nextStatus booking))
        return reconciled command event mappedStatus nextStatus

def reconcileEvent (engine : Engine) (event : DomainEvent) : Dispatch Reconciled :=
  match orText event.correlationId none, mapEventTypeToCommandStatus event.eventType with
  | some commandId, some mappedStatus => do
    let command ← findCommand commandId
    match command with
    | none => return notApplied
    | some command => reconcileCommand engine event mappedStatus command
  | _, _ => pure notApplied

/-- What a delivery of a callback notes in the payload of the command. -/
def annotateCommandCallback (commandId : String) (patch : List (String × JsValue)) :
    Dispatch Unit := do
  let existing ← findCommand commandId
  match existing with
  | none => return ()
  | some existing =>
    execute (.annotateCallback commandId (withOcpi (ensureObject existing.payload) patch))

end Consumer

/-! ## The endpoint for command results

`createCommandResult` of the internal OCPI controller writes the result that the
gateway of a roaming partner reports.
-/

/-- The fields of the request that are read. -/
structure OcpiCommandResult where
  requestId : String
  result : JsRecord
  occurredAt : DateText

structure CommandResultAnswer where
  updated : Bool
  requestId : String
  (commandId status : Option String)
  deriving DecidableEq

namespace Ocpi

def mapOcpiResultToCommandStatus (result : JsRecord) : CommandStatus :=
  let normalized :=
    toUpperCase (((extractString result "result").or (extractString result "status")).getD "")
  if normalized = "ACCEPTED" then .accepted
  else if normalized = "TIMEOUT" then .timeout
  else if normalized = "REJECTED" ∨ normalized = "NOT_SUPPORTED" then .rejected
  else .failed

def extractOcpiResultError (result : JsRecord) : Option String :=
  (extractString result "message").or
    ((extractString result "status_message").or (extractString result "error_description"))

variable (engine : Engine) (now : Int) (request : OcpiCommandResult)

/-- `parseDate`. -/
def occurredAt : Int :=
  (dateParse request.occurredAt).getD now

def nextPayload (command : Command) : JsValue :=
  withOcpi (ensureObject command.payload)
    [("latestResult", .object request.result),
      ("latestResultAt", .date (some (occurredAt now request)))]

/-- Everything that is written for a result. -/
def report (command : Command) (mappedStatus : CommandStatus) (booking : Option Booking) :
    StatusReport where
  commandId := command.id
  status := mappedStatus
  update :=
    { completedAt :=
        some (if mappedStatus.isTerminalStatus then some (occurredAt now request) else none)
      error := some (extractOcpiResultError request.result)
      payload := some (nextPayload now request command) }
  occurredAt := occurredAt now request
  booking := booking.map (syncBookingFromCommandResult
    { commandId := command.id
      commandType := command.commandType
      status := mappedStatus
      correlationId := orText command.correlationId (some request.requestId)
      payload := ensureObject (nextPayload now request command)
      error := extractOcpiResultError request.result
      occurredAt := occurredAt now request })

def createCommandResult : Dispatch CommandResultAnswer := do
  let command ← findCommandOf request.requestId
  match command with
  | none => return ⟨false, request.requestId, none, none⟩
  | some command =>
    let mappedStatus := mapOcpiResultToCommandStatus request.result
    if command.status = mappedStatus.text ∧ mappedStatus.isTerminalStatus then
      return ⟨false, request.requestId, some command.id, some command.status⟩
    else do
      let booking ← findReservationBooking command.commandType
        (extractReservationIdFromPayload engine
          (ensureObject (nextPayload now request command)))
      let _ ← execute (.recordResult (report now request command mappedStatus booking))
      return ⟨true, request.requestId, some command.id, some mappedStatus.text⟩

end Ocpi

end Csms.Commands
