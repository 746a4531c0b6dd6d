import Csms.Commands.Status
import Csms.Commands.Core
import Csms.Database.Rows
import Csms.Js.Value

/-!
# The stored state of commands

The rows that the outbox worker, the consumer of gateway events and the endpoint
for command results read and write, the updates of them, and their locks.  The
payloads of history rows, which nothing reads, are left out, and a date inside of
a command's payload is kept as a date.
-/

namespace Csms.Commands

open Database Js

/-- A row of `commands` with all columns. -/
structure Command extends CommandRecord JsValue where
  domain : String
  (vehicleId provider providerCommandId resultCode : Option String)
  (sentAt completedAt : Option Int)
  error : Option String

/-- A row of `command_outbox` with all columns. -/
structure CommandOutbox extends CommandOutboxRow where
  id : String
  (lockedAt publishedAt : Option Int)
  lastError : Option String
  updatedAt : Int

/-- A row of the history of a command. -/
structure CommandEvent where
  (commandId status : String)
  occurredAt : Int
  deriving DecidableEq

/-- A booking, as far as commands reach it. -/
structure Booking where
  id : String
  reservationId : Option Int
  status : String
  (reservationCommandId reservationCommandStatus : Option String)
  reservationCommandUpdatedAt : Option Int
  commandCorrelationId : Option String
  cancelledAt : Option Int
  autoCancelReason : Option String
  createdAt : Int
  deriving DecidableEq

structure BookingEvent where
  (bookingId eventType source status : String)
  occurredAt : Int
  commandId : String
  (correlationId error : Option String)
  deriving DecidableEq

/-- `data` of an update of a command: the columns that are set. -/
structure CommandUpdate where
  status : Option String := none
  sentAt : Option Int := none
  completedAt : Option (Option Int) := none
  providerCommandId : Option String := none
  resultCode : Option (Option String) := none
  error : Option (Option String) := none
  payload : Option JsValue := none

def CommandUpdate.apply (update : CommandUpdate) (command : Command) : Command :=
  { command with
    status := update.status.getD command.status
    sentAt := update.sentAt.or command.sentAt
    completedAt := update.completedAt.getD command.completedAt
    providerCommandId := update.providerCommandId.or command.providerCommandId
    resultCode := update.resultCode.getD command.resultCode
    error := update.error.getD command.error
    payload := update.payload.getD command.payload }

@[simp]
theorem CommandUpdate.id_apply (update : CommandUpdate) (command : Command) :
    (update.apply command).id = command.id :=
  rfl

/-- `data` of an update of an outbox row; every update of it but the one that
claims the row gives up the lock. -/
structure OutboxUpdate where
  status : String
  publishedAt : Option Int := none
  updatedAt : Int
  lastError : Option String

def OutboxUpdate.apply (update : OutboxUpdate) (outbox : CommandOutbox) : CommandOutbox :=
  { outbox with
    status := update.status
    publishedAt := update.publishedAt.or outbox.publishedAt
    updatedAt := update.updatedAt
    lockedAt := none
    lastError := update.lastError }

@[simp]
theorem OutboxUpdate.id_apply (update : OutboxUpdate) (outbox : CommandOutbox) :
    (update.apply outbox).id = outbox.id :=
  rfl

/-- `data` of an update of a booking by its reservation command. -/
structure BookingUpdate where
  (reservationCommandId reservationCommandStatus : String)
  reservationCommandUpdatedAt : Int
  commandCorrelationId : Option String
  status : Option String := none
  cancelledAt : Option Int := none
  autoCancelReason : Option String := none

def BookingUpdate.apply (update : BookingUpdate) (booking : Booking) : Booking :=
  { booking with
    reservationCommandId := some update.reservationCommandId
    reservationCommandStatus := some update.reservationCommandStatus
    reservationCommandUpdatedAt := some update.reservationCommandUpdatedAt
    commandCorrelationId := update.commandCorrelationId.or booking.commandCorrelationId
    status := update.status.getD booking.status
    cancelledAt := update.cancelledAt.or booking.cancelledAt
    autoCancelReason := update.autoCancelReason.or booking.autoCancelReason }

@[simp]
theorem BookingUpdate.id_apply (update : BookingUpdate) (booking : Booking) :
    (update.apply booking).id = booking.id :=
  rfl

structure Store where
  commands : Table Command fun command => command.id
  commandOutbox : Table CommandOutbox CommandOutbox.id
  commandEvents : List CommandEvent
  bookings : Table Booking Booking.id
  bookingEvents : List BookingEvent

namespace Store

def commandTable : Component Store fun command : Command => command.id where
  table := commands
  put store commands := { store with commands }
  table_put _ _ := rfl

def outboxTable : Component Store CommandOutbox.id where
  table := commandOutbox
  put store commandOutbox := { store with commandOutbox }
  table_put _ _ := rfl

def bookingTable : Component Store Booking.id where
  table := bookings
  put store bookings := { store with bookings }
  table_put _ _ := rfl

def command? (store : Store) (id : String) : Option Command :=
  store.commands.find? id

def commandOf (store : Store) (correlationId : String) : Option Command :=
  newestOf (fun command : Command => command.requestedAt)
    (store.commands.rows.filter fun command => command.correlationId = some correlationId)

def hasCommandEvent (store : Store) (event : CommandEvent) : Bool :=
  store.commandEvents.contains event

def bookingOf (store : Store) (reservationId : Int) : Option Booking :=
  newestOf Booking.createdAt
    (store.bookings.rows.filter fun booking => booking.reservationId = some reservationId)

theorem find?_of_bookingOf {store : Store} {reservationId : Int} {booking : Booking}
    (latest : store.bookingOf reservationId = some booking) :
    store.bookings.find? booking.id = some booking :=
  Table.find?_eq_some_iff.mpr ⟨List.mem_of_mem_filter (mem_of_newestOf latest), rfl⟩

inductive Lock where
  | command (id : String)
  | outbox (id : String)
  | booking (id : String)
  deriving DecidableEq

/-- Two stores look the same to the holder of the lock. -/
def protects : Lock → Setoid Store
  | .command id => Setoid.ker (commandTable.find? id)
  | .outbox id => Setoid.ker (outboxTable.find? id)
  | .booking id => Setoid.ker (bookingTable.find? id)

end Store

/-- A transaction of the command database. -/
abbrev CommandTx (α : Type) :=
  Tx Store Store.Lock α

section Statements

variable {α : Type}

def updateCommand (id : String) (update : CommandUpdate) (rest : CommandTx α) : CommandTx α :=
  Tx.updateRow Store.commandTable [.command id] id update.apply update.id_apply fun _ => rest

def updateOutbox (id : String) (update : OutboxUpdate) (rest : CommandTx α) : CommandTx α :=
  Tx.updateRow Store.outboxTable [.outbox id] id update.apply update.id_apply fun _ => rest

def updateBooking (id : String) (update : BookingUpdate) (rest : CommandTx α) : CommandTx α :=
  Tx.updateRow Store.bookingTable [.booking id] id update.apply update.id_apply fun _ => rest

-- the foreign keys of history rows are of rows that exist and are not deleted

def createCommandEvent (event : CommandEvent) (rest : CommandTx α) : CommandTx α :=
  .write [] (fun _ => true)
    (fun store => { store with commandEvents := store.commandEvents ++ [event] }) fun _ => rest

def createBookingEvent (event : BookingEvent) (rest : CommandTx α) : CommandTx α :=
  .write [] (fun _ => true)
    (fun store => { store with bookingEvents := store.bookingEvents ++ [event] }) fun _ => rest

end Statements

/-! ## Bookings and their reservation commands

A command that reserves a charge point or cancels a reservation belongs to a
booking, found by the number of the reservation in the command's payload.  The
worker and the endpoint for command results both write the outcome into it, each
with a function of its own.
-/

def ensureObject : JsValue → JsRecord
  | .object fields => fields
  | _ => JsRecord.empty

/-- `source[key]`, when it is a text that is not blank. -/
def extractString (source : JsRecord) (key : String) : Option String :=
  match source key with
  | .string text => if trim text = "" then none else some (trim text)
  | _ => none

/-- A positive whole number. -/
def readNumber (engine : Engine) (value : JsValue) : Option Int :=
  match value with
  | .undefined | .null | .string "" => none
  | other =>
    match engine.toNumber other with
    | .finite number => if 0 < ⌊number⌋ then some ⌊number⌋ else none
    | _ => none

def extractNumber (engine : Engine) (source : JsRecord) (key : String) : Option Int :=
  readNumber engine (source key)

/-- `{ ...payload, ocpi: { ...ocpi, ...fields } }`. -/
def withOcpi (payload : JsRecord) (fields : List (String × JsValue)) : JsValue :=
  .object (payload.with "ocpi"
    (.object (fields.foldl (fun ocpi field => JsRecord.with ocpi field.1 field.2)
      (ensureObject (payload "ocpi")))))

def normalizeCommandType (commandType : String) : String :=
  toWord (String.ofList (splitCamelCase (trim commandType).toList))

def isReservationCommand (commandType : String) : Bool :=
  normalizeCommandType commandType = "RESERVE_NOW" ∨
    normalizeCommandType commandType = "CANCEL_RESERVATION"

/-- What both functions get. -/
structure ReservationOutcome where
  (commandId commandType : String)
  status : CommandStatus
  correlationId : Option String
  payload : JsRecord
  error : Option String
  occurredAt : Int

/-- A booking as it was read, and what is written into it. -/
structure BookingChange where
  booking : Booking
  update : BookingUpdate
  event : BookingEvent

namespace ReservationOutcome

variable (outcome : ReservationOutcome)

/-- The columns that are written in any case, and the correlation id unless it
is not given. -/
def reservationUpdate (correlationId : Option String) : BookingUpdate where
  reservationCommandId := outcome.commandId
  reservationCommandStatus := outcome.status.text
  reservationCommandUpdatedAt := outcome.occurredAt
  commandCorrelationId := correlationId

def cancelled (update : BookingUpdate) (booking : Booking) (reason : String) : BookingUpdate :=
  { update with
    status := if booking.status = "CANCELLED" then none else some "CANCELLED"
    cancelledAt := some outcome.occurredAt
    autoCancelReason := some ((orText outcome.error none).getD reason) }

def bookingEvent (booking : Booking) (source : String) : BookingEvent where
  bookingId := booking.id
  eventType :=
    s!"{normalizeCommandType outcome.commandType}_{toUpperCase outcome.status.text}"
  source := source
  status := outcome.status.text
  occurredAt := outcome.occurredAt
  commandId := outcome.commandId
  correlationId := outcome.correlationId
  error := outcome.error

end ReservationOutcome

namespace Worker

def extractReservationId (engine : Engine) (payload : JsRecord) : Option Int :=
  (readNumber engine ((payload "reservationId").nullish (payload "id"))).or
    (let originalRequest := ensureObject (ensureObject (payload "ocpi") "originalRequest")
    readNumber engine
      (((originalRequest "reservation_id").nullish (originalRequest "reservationId")).nullish
        (originalRequest "id")))

/-- What `syncBookingReservationState` writes into the booking it finds. -/
def syncBookingReservationState (outcome : ReservationOutcome) (booking : Booking) :
    BookingChange where
  booking := booking
  update :=
    -- an empty correlation id is not written
    let update := outcome.reservationUpdate (orText outcome.correlationId none)
    if normalizeCommandType outcome.commandType = "RESERVE_NOW" then
      match outcome.status with
      | .rejected | .failed | .timeout | .duplicate =>
        outcome.cancelled update booking s!"Reserve command {toLowerCase outcome.status.text}"
      | _ => update
    else
      -- a booking that is cancelled already keeps its time and reason
      if outcome.status = .accepted ∧ booking.status ≠ "CANCELLED" then
        outcome.cancelled update booking "Cancelled by reservation command"
      else update
  event := outcome.bookingEvent booking "worker.command.event"

end Worker

namespace Ocpi

def extractReservationIdFromPayload (engine : Engine) (payload : JsRecord) : Option Int :=
  let ocpi := ensureObject (payload "ocpi")
  let originalRequest := ensureObject (ocpi "originalRequest")
  (extractNumber engine payload "reservationId").or
    ((extractNumber engine payload "reservation_id").or
      ((extractNumber engine payload "id").or
        ((extractNumber engine ocpi "reservationId").or
          ((extractNumber engine originalRequest "reservation_id").or
            (extractNumber engine originalRequest "reservationId")))))

/-- What `syncBookingFromCommandResult` writes into the booking it finds. -/
def syncBookingFromCommandResult (outcome : ReservationOutcome) (booking : Booking) :
    BookingChange where
  booking := booking
  update :=
    let update := outcome.reservationUpdate outcome.correlationId
    if normalizeCommandType outcome.commandType = "RESERVE_NOW" then
      match outcome.status with
      | .rejected | .failed | .timeout =>
        outcome.cancelled update booking s!"Reserve command {toLowerCase outcome.status.text}"
      | _ => update
    else
      if outcome.status = .accepted then
        outcome.cancelled update booking "Cancelled by OCPI command callback"
      else update
  event := outcome.bookingEvent booking "ocpi.command.result"

end Ocpi

end Csms.Commands
