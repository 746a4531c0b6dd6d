import Csms.Bookings.Terminal
import Csms.Commands.Replay

/-!
# The booking of a reservation command

A gateway event and a command result are linked to a booking by the number of the
reservation in the payload of the command, and of the bookings with that number the
latest is taken.  Numbers that the booking service makes are seconds, and others come
with the request, so the latest need not be the booking that the command was sent for.
-/

namespace Csms.Bookings

open Database Js Commands

/-- A command that was sent for a booking: it has the number of its reservation. -/
structure IsCommandOf (command : Command) (booking : Booking) (reservationId : Int) : Prop where
  isReservation : isReservationCommand command.commandType = true
  positive : 0 < reservationId
  ofBooking : booking.reservationId = some reservationId
  inPayload : ∃ payload : JsRecord, command.payload = .object payload ∧
    payload "reservationId" = .number (.ofInt reservationId)

section Payload

variable (engine : Engine) {reservationId : Int} {payload : JsRecord}

theorem readNumber_ofInt (positive : 0 < reservationId) :
    readNumber engine (.number (.ofInt reservationId)) = some reservationId := by
  change (if 0 < ⌊(reservationId : ℚ)⌋ then some ⌊(reservationId : ℚ)⌋ else none) = _
  rw [Int.floor_intCast, if_pos positive]

section

variable (positive : 0 < reservationId)
    (isNumber : payload "reservationId" = .number (.ofInt reservationId))
include positive isNumber

theorem extractReservationId_eq :
    Worker.extractReservationId engine payload = some reservationId := by
  rw [Worker.extractReservationId, isNumber]
  change (readNumber engine (.number (.ofInt reservationId))).or _ = _
  rw [readNumber_ofInt engine positive]
  rfl

theorem extractReservationIdFromPayload_eq :
    Ocpi.extractReservationIdFromPayload engine payload = some reservationId := by
  rw [Ocpi.extractReservationIdFromPayload, extractNumber, isNumber,
    readNumber_ofInt engine positive]
  rfl

end

end Payload

section Service

variable {row : BookingRow} {reservationId : Int} (call : EnqueueCall) (input : DispatchInput)
  (chargePointId correlationId : String)

end Service

/-- A gateway event, or a result that the partner's gateway reports. -/
inductive CommandMessage where
  | event (event : DomainEvent)
  | result (now : Int) (request : OcpiCommandResult)

namespace CommandMessage

variable (engine : Engine) (store : Commands.Store)

def command : CommandMessage → Option Command
  | event reported => (orText reported.correlationId none).bind store.command?
  | result _ request => store.commandOf request.requestId

/-- There is nothing to do: the event was handled, or the command already has the terminal
status that the result reports. -/
def Handled : CommandMessage → Prop
  | event reported => store.Handled reported
  | result _ request =>
    ∀ command ∈ store.commandOf request.requestId,
      command.status = (Ocpi.mapOcpiResultToCommandStatus request.result).text ∧
        (Ocpi.mapOcpiResultToCommandStatus request.result).isTerminalStatus = true

def next : CommandMessage → Commands.Store
  | event reported => store.afterAlone (Consumer.reconcileEvent engine reported)
  | result now request => store.afterAlone (Ocpi.createCommandResult engine now request)

end CommandMessage

/-- What is there of every booking but one, history included, is as it was. -/
def ChangesOnly (id : String) (before after : Commands.Store) : Prop :=
  ∀ other, other ≠ id → after.bookings.find? other = before.bookings.find? other ∧
    after.bookingEvents.filter (fun event => event.bookingId = other) =
      before.bookingEvents.filter (fun event => event.bookingId = other)

/-- A transaction that writes what came of a command into the booking it names. -/
inductive Reports (store : Commands.Store) (booking : Booking) : Commands.Store → Prop
  | report {write : Write} {change : BookingChange} {after : Commands.Store} {result : write.Result} :
      write.bookingChange = some change → change.booking = booking →
      change.event.bookingId = booking.id → write.body.run store = some (after, result) →
      Reports store booking after

theorem Reports.changesOnly_iff {store after : Commands.Store} {booking : Booking}
    (reports : Reports store booking after) (id : String) :
    ChangesOnly id store after ↔ booking.id = id := by
  rcases reports with ⟨isChange, rfl, ofBooking, run⟩
  rename_i write change result
  have effect := Write.bookingEffect_of_run run
  have events : after.bookingEvents = store.bookingEvents ++ [change.event] := by
    rw [effect.bookingEvents, isChange]
    rfl
  constructor
  · intro changesOnly
    by_contra isOther
    have same := (changesOnly change.booking.id isOther).2
    rw [events, List.filter_append] at same
    simp [ofBooking] at same
  · rintro rfl other isOther
    constructor
    · have unchanged : write.changedBooking other = fun booking => booking := by
        funext booking
        rw [Write.changedBooking, isChange]
        exact if_neg isOther.symm
      rw [effect.bookings, unchanged]
      exact Option.map_id'
    · rw [events, List.filter_append]
      simp [ofBooking, isOther.symm]

section Processing

variable (engine : Engine) {store : Commands.Store} {command : Command} {booking found : Booking}
  {reservationId : Int}

theorem exists_run_report {report : StatusReport} {change : BookingChange}
    (isCommand : store.command? report.commandId = some command)
    (isChange : report.booking = some change)
    (isBooking : store.bookings.find? change.booking.id = some change.booking) :
    ∃ after, report.write.run store = some (after, ()) := by
  refine ⟨_, StatusReport.run_write_eq_some_iff.mpr ⟨?_, ?_, rfl⟩⟩
  · exact Option.isSome_iff_exists.mpr ⟨command, isCommand⟩
  · intro other isOther
    obtain rfl := Option.some.inj (isChange.symm.trans isOther)
    exact Option.isSome_iff_exists.mpr ⟨change.booking, isBooking⟩

theorem findReservationBooking_eq (isOf : IsCommandOf command booking reservationId) :
    findReservationBooking command.commandType (some reservationId) =
      Request.read (.bookingOf reservationId) fun store => store.bookingOf reservationId :=
  if_pos isOf.isReservation

section

variable {event : DomainEvent} (isId : orText event.correlationId none = some command.id)
    (isCommand : store.command? command.id = some command)
include isId isCommand

/-- What keeps the consumer from skipping an event. -/
theorem exists_status_of_unhandled (unhandled : ¬ store.Handled event) :
    ∃ mappedStatus, mapEventTypeToCommandStatus event.eventType = some mappedStatus ∧
      ¬ (command.status = mappedStatus.text ∧ mappedStatus.isTerminalStatus = true) ∧
      ⟨command.id, mappedStatus.text, event.occurredAt⟩ ∉ store.commandEvents ∧
      resolveNextStatus command.status mappedStatus = some mappedStatus := by
  by_contra none
  apply unhandled
  intro commandId isOther mappedStatus isMapped other isRow
  obtain rfl := Option.some.inj (isId.symm.trans isOther)
  obtain rfl := Option.some.inj (isCommand.symm.trans isRow)
  by_contra neither
  rw [not_or] at neither
  apply none
  refine ⟨mappedStatus, isMapped, ?_, neither.1, ?_⟩
  · intro same
    apply neither.2
    exact ⟨mappedStatus, by rw [same.1, CommandStatus.ofText?_text], Or.inl same.2⟩
  · rcases resolved : resolveNextStatus command.status mappedStatus with _ | nextStatus
    · exact absurd (ignores_of_resolveNextStatus_eq_none resolved) neither.2
    · rw [eq_of_resolveNextStatus resolved]

theorem reports_of_event (isOf : IsCommandOf command booking reservationId)
    (latest : store.bookingOf reservationId = some found) (unhandled : ¬ store.Handled event) :
    Reports store found (store.afterAlone (Consumer.reconcileEvent engine event)) := by
  rcases exists_status_of_unhandled isId isCommand unhandled with
    ⟨mappedStatus, isMapped, differs, unrecorded, resolved⟩
  rcases isOf.inPayload with ⟨payload, isPayload, isNumber⟩
  have number : Worker.extractReservationId engine (ensureObject command.payload) =
      some reservationId := by
    rw [isPayload]
    exact extractReservationId_eq engine isOf.positive isNumber
  have isChange : (Consumer.report command event mappedStatus (some found)).booking =
      some (Worker.syncBookingReservationState
        (Consumer.reservationOutcome command event mappedStatus) found) :=
    rfl
  rcases exists_run_report isCommand isChange (Store.find?_of_bookingOf latest) with ⟨after, run⟩
  have writes : (Write.reconcileEvent (Consumer.report command event mappedStatus
      (some found))).body.run store = some (after, ()) :=
    run
  have reached : store.afterAlone (Consumer.reconcileEvent engine event) = after := by
    rw [Store.afterAlone, Consumer.reconcileEvent, isId, isMapped]
    dsimp only
    rw [findCommand, alone_read_bind, isCommand]
    dsimp only
    rw [Consumer.reconcileCommand, if_neg differs, findCommandEvent, alone_read_bind,
      if_neg (mt hasCommandEvent_iff.mp unrecorded), resolved]
    rw [number, findReservationBooking_eq isOf, alone_read_bind, latest]
    exact congrArg Prod.fst (alone_commit_bind (fun write : Write => write.body.run) writes)
  rw [reached]
  have changes : (Write.reconcileEvent (Consumer.report command event mappedStatus
      (some found))).bookingChange = some _ :=
    isChange
  exact .report changes rfl rfl writes

end

theorem reports_of_result {now : Int} {request : OcpiCommandResult}
    (isNewest : store.commandOf request.requestId = some command)
    (isOf : IsCommandOf command booking reservationId)
    (latest : store.bookingOf reservationId = some found)
    (differs : ¬ (command.status = (Ocpi.mapOcpiResultToCommandStatus request.result).text ∧
      (Ocpi.mapOcpiResultToCommandStatus request.result).isTerminalStatus = true)) :
    Reports store found (store.afterAlone (Ocpi.createCommandResult engine now request)) := by
  rcases isOf.inPayload with ⟨payload, isPayload, isNumber⟩
  have isCommand : store.command? command.id = some command :=
    Table.find?_eq_some_iff.mpr ⟨List.mem_of_mem_filter (mem_of_newestOf isNewest), rfl⟩
  have number : Ocpi.extractReservationIdFromPayload engine
      (ensureObject (Ocpi.nextPayload now request command)) = some reservationId := by
    apply extractReservationIdFromPayload_eq engine isOf.positive
    rw [Ocpi.nextPayload, isPayload]
    exact isNumber
  have isChange : (Ocpi.report now request command
      (Ocpi.mapOcpiResultToCommandStatus request.result) (some found)).booking =
        some (Ocpi.syncBookingFromCommandResult _ found) :=
    rfl
  rcases exists_run_report isCommand isChange (Store.find?_of_bookingOf latest) with ⟨after, run⟩
  have writes : (Write.recordResult (Ocpi.report now request command
      (Ocpi.mapOcpiResultToCommandStatus request.result) (some found))).body.run store =
        some (after, ()) :=
    run
  have reached : store.afterAlone (Ocpi.createCommandResult engine now request) = after := by
    rw [Store.afterAlone, Ocpi.createCommandResult, findCommandOf, alone_read_bind, isNewest]
    dsimp only
    rw [if_neg differs, number, findReservationBooking_eq isOf, alone_read_bind, latest]
    exact congrArg Prod.fst (alone_commit_bind (fun write : Write => write.body.run) writes)
  rw [reached]
  have changes : (Write.recordResult (Ocpi.report now request command
      (Ocpi.mapOcpiResultToCommandStatus request.result) (some found))).bookingChange = some _ :=
    isChange
  exact .report changes rfl rfl writes

variable {message : CommandMessage}

theorem reports_of_message (isCommand : message.command store = some command)
    (isOf : IsCommandOf command booking reservationId)
    (latest : store.bookingOf reservationId = some found) (unhandled : ¬ message.Handled store) :
    Reports store found (message.next engine store) := by
  cases message with
  | event reported =>
    rcases Option.bind_eq_some_iff.mp isCommand with ⟨commandId, isId, isRow⟩
    obtain rfl := id_of_command? isRow
    exact reports_of_event engine isId isRow isOf latest unhandled
  | result now request =>
    apply reports_of_result engine isCommand isOf latest
    intro same
    apply unhandled
    intro other isOther
    obtain rfl := Option.some.inj (isCommand.symm.trans isOther)
    exact same

/-- Without anything to do, nothing is done. -/
theorem next_of_handled (isCommand : message.command store = some command)
    (handled : message.Handled store) : message.next engine store = store := by
  cases message with
  | event reported => exact Store.Handled.afterConsumer_eq engine handled
  | result now request =>
    have isNewest : store.commandOf request.requestId = some command := isCommand
    change store.afterAlone (Ocpi.createCommandResult engine now request) = store
    rw [Store.afterAlone, Ocpi.createCommandResult, findCommandOf, alone_read_bind,
      isNewest]
    dsimp only
    rw [if_pos (handled command isNewest)]
    rfl

theorem exists_bookingOf (member : booking ∈ store.bookings.rows)
    (ofBooking : booking.reservationId = some reservationId) :
    ∃ found, store.bookingOf reservationId = some found := by
  rw [← Option.ne_none_iff_exists', Store.bookingOf, Ne, newestOf_eq_none_iff]
  apply List.ne_nil_of_mem (a := booking)
  exact List.mem_filter.mpr ⟨member, decide_eq_true ofBooking⟩

/-- A message about a command that was sent for a booking changes that booking only,
exactly when there is nothing to do or the booking is the latest one with its number. -/
theorem changesOnly_iff_latest (engine : Engine) (isCommand : message.command store = some command)
    (isOf : IsCommandOf command booking reservationId) (member : booking ∈ store.bookings.rows) :
    ChangesOnly booking.id store (message.next engine store) ↔
      message.Handled store ∨ store.bookingOf reservationId = some booking := by
  by_cases handled : message.Handled store
  · rw [next_of_handled engine isCommand handled]
    exact iff_of_true (fun _ _ => ⟨rfl, rfl⟩) (Or.inl handled)
  · rcases exists_bookingOf member isOf.ofBooking with ⟨found, latest⟩
    have reports := reports_of_message engine isCommand isOf latest handled
    rw [reports.changesOnly_iff, or_iff_right handled, latest, Option.some.injEq]
    constructor
    · intro sameId
      have inRows := (Table.find?_eq_some_iff.mp (Store.find?_of_bookingOf latest)).1
      exact store.bookings.eq_of_key_eq inRows member sameId
    · rintro rfl
      rfl

end Processing

namespace Sample

def empty : Store where
  commands := ⟨Table.empty, Table.empty, [], Table.empty, []⟩
  details := Table.empty
  events := []
  chargePoints := [⟨"cp", "CP-1", "station"⟩]
  users := ["user"]

def callAt (id : String) (now : Int) : BookingCall where
  bookingId := id
  now := now
  createdAt := now
  commandUpdatedAt := now
  enqueue :=
    { firmwareCommandsEnabled := false, context := none, now := now, commandId := s!"cmd-{id}"
      outboxId := s!"out-{id}" }

def withCreated (id : String) (now : Int) (store : Store) : Store :=
  ((create (callAt id now) { chargePointId := some "cp", startAt := some 9000000 }).alone
    (fun write : BookingWrite => write.body.run) store).1

def rejection (id : String) : CommandMessage :=
  .event { rejected with correlationId := some s!"cmd-{id}" }

end Sample

/-- The only booking with its number. -/
theorem changesOnly_iff_latest_alone : ChangesOnly "booking" Sample.store.commands
      (CommandMessage.next Commands.Sample.engine Sample.store.commands (.event Sample.rejected)) := by
  have isOf : IsCommandOf Sample.command (Sample.reservation "booking" 7 0).booking 7 :=
    ⟨by decide, by decide, rfl, numbered 7, rfl, rfl⟩
  have latest : Sample.store.commands.bookingOf 7 = some (Sample.reservation "booking" 7 0).booking := by
    decide +kernel
  exact (changesOnly_iff_latest Commands.Sample.engine rfl isOf (by decide)).mpr (Or.inr latest)

/-- Of two bookings of the same second, a reply to the command of the first one cancels the
second one. -/
theorem reply_cancels_other_booking :
    let store := Sample.withCreated "second" 5000900 (Sample.withCreated "first" 5000500 Sample.empty)
    let after := CommandMessage.next Commands.Sample.engine store.commands (Sample.rejection "first")
    (store.row? "first").map (fun row => (row.booking.status, row.booking.reservationCommandId)) =
        some ("PENDING", some "cmd-first") ∧
      (store.row? "second").map (fun row => row.booking.status) = some "PENDING" ∧
      (after.bookings.find? "first").map Booking.status = some "PENDING" ∧
      (after.bookings.find? "second").map Booking.status = some "CANCELLED" := by
  decide +kernel

end Csms.Bookings
