import Csms.Commands.Terminal

/-!
# The two copies of the booking sync

The worker and the endpoint for command results each have a function that brings
the booking of a reservation command in line with its outcome.  Here both run as
what they are, statements of the transaction that records the outcome, and their
results are compared: they agree unless one of the few conditions in which the
copies differ is met.
-/

namespace Csms.Commands

open Database Js

/-- The statements of both copies, apart from what they write. -/
def syncBooking (outcome : ReservationOutcome) (reservationId : Option Int)
    (change : Booking → BookingChange) : CommandTx Unit :=
  if isReservationCommand outcome.commandType then
    match reservationId with
    | none => .commit ()
    | some reservationId => .read fun store =>
      match store.bookingOf reservationId with
      | none => .commit ()
      | some booking =>
        updateBooking booking.id (change booking).update <|
        createBookingEvent (change booking).event <|
        .commit ()
  else .commit ()

def Worker.syncStatements (engine : Engine) (outcome : ReservationOutcome) : CommandTx Unit :=
  syncBooking outcome (extractReservationId engine outcome.payload)
    (syncBookingReservationState outcome)

def Ocpi.syncStatements (engine : Engine) (outcome : ReservationOutcome) : CommandTx Unit :=
  syncBooking outcome (extractReservationIdFromPayload engine outcome.payload)
    (syncBookingFromCommandResult outcome)

/-- The booking that a copy finds. -/
def Store.bookingOf? (store : Store) (reservationId : Option Int) : Option Booking :=
  reservationId.bind store.bookingOf

theorem find?_of_bookingOf? {store : Store} {reservationId : Option Int} {booking : Booking}
    (found : store.bookingOf? reservationId = some booking) :
    store.bookings.find? booking.id = some booking := by
  rcases Option.bind_eq_some_iff.mp found with ⟨number, _, latest⟩
  exact Store.find?_of_bookingOf latest

section Run

variable {outcome : ReservationOutcome} {reservationId : Option Int}
  {change : Booking → BookingChange} {store : Store}

/-- The statements succeed, and change the booking that is found. -/
theorem exists_run_syncBooking (reservation : isReservationCommand outcome.commandType = true)
    (store : Store) :
    ∃ after, (syncBooking outcome reservationId change).run store = some (after, ()) ∧
      ∀ id, after.bookings.find? id = (store.bookings.find? id).map fun booking =>
        if store.bookingOf? reservationId = some booking then (change booking).update.apply booking
        else booking := by
  have unfolded : (syncBooking outcome reservationId change).run store =
      match store.bookingOf? reservationId with
      | none => some (store, ())
      | some booking =>
        (updateBooking booking.id (change booking).update <|
          createBookingEvent (change booking).event <|
          .commit ()).run store := by
    unfold syncBooking Store.bookingOf?
    rw [if_pos reservation]
    rcases reservationId with _ | number
    · rfl
    · rw [Tx.run_read, Option.bind_some]
      cases store.bookingOf number <;> rfl
  rw [unfolded]
  rcases found : store.bookingOf? reservationId with _ | booking
  · refine ⟨store, rfl, ?_⟩
    intro id
    simp
  · have isRow : Store.bookingTable.find? booking.id store = some booking :=
      find?_of_bookingOf? found
    refine ⟨_, Tx.run_updateRow_eq_some_iff.mpr ⟨booking, isRow, rfl⟩, ?_⟩
    intro id
    change Store.bookingTable.find? id (Store.bookingTable.update _ _ _ store) = _
    rw [Component.find?_update]
    by_cases isIt : id = booking.id
    · subst isIt
      change _ = (Store.bookingTable.find? booking.id store).map _
      rw [if_pos rfl, isRow]
      simp
    · rw [if_neg isIt]
      change store.bookings.find? id = _
      rcases isOther : store.bookings.find? id with _ | other
      · rfl
      · have ne : booking ≠ other := by
          rintro rfl
          exact isIt (Table.find?_eq_some_iff.mp isOther).2.symm
        simp [ne]

end Run

/-- The status, the times and the reservation columns of a booking. -/
structure ReservationState where
  status : String
  (cancelledAt reservationId : Option Int)
  (reservationCommandId reservationCommandStatus : Option String)
  reservationCommandUpdatedAt : Option Int
  commandCorrelationId : Option String
  deriving DecidableEq

def Booking.reservationState (booking : Booking) : ReservationState where
  status := booking.status
  cancelledAt := booking.cancelledAt
  reservationId := booking.reservationId
  reservationCommandId := booking.reservationCommandId
  reservationCommandStatus := booking.reservationCommandStatus
  reservationCommandUpdatedAt := booking.reservationCommandUpdatedAt
  commandCorrelationId := booking.commandCorrelationId

/-- What a transaction leaves of the bookings, by their ids. -/
def bookingsAfter (statements : CommandTx Unit) (store : Store) (id : String) :
    Option ReservationState :=
  ((statements.run store).bind fun after => after.1.bookings.find? id).map Booking.reservationState

namespace ReservationOutcome

variable (outcome : ReservationOutcome) (booking : Booking)

/-- A rejected reservation, or a cancellation that is accepted. -/
def Cancels : Prop :=
  if normalizeCommandType outcome.commandType = "RESERVE_NOW" then outcome.status ≠ .accepted
  else outcome.status = .accepted

/-- The booking has the columns that are written in any case. -/
@[mk_iff]
structure IsNoted (correlationId : Option String) : Prop where
  commandId : booking.reservationCommandId = some outcome.commandId
  status : booking.reservationCommandStatus = some outcome.status.text
  updatedAt : booking.reservationCommandUpdatedAt = some outcome.occurredAt
  correlationId : ∀ given, correlationId = some given → booking.commandCorrelationId = some given

/-- A booking that both copies find gets the same from both. -/
def AgreesOn : Prop :=
  -- only the endpoint gives a cancelled booking a new time
  (normalizeCommandType outcome.commandType ≠ "RESERVE_NOW" → outcome.status = .accepted →
    booking.status = "CANCELLED" → booking.cancelledAt = some outcome.occurredAt) ∧
  -- only the endpoint writes an empty correlation id
  (outcome.correlationId = some "" → booking.commandCorrelationId = some "")

/-- A booking that has what the worker would write. -/
def DoneByWorker : Prop :=
  outcome.IsNoted booking (orText outcome.correlationId none) ∧
    (outcome.Cancels → booking.status = "CANCELLED" ∧
      (normalizeCommandType outcome.commandType = "RESERVE_NOW" →
        booking.cancelledAt = some outcome.occurredAt))

/-- A booking that has what the endpoint would write. -/
def DoneByOcpi : Prop :=
  outcome.IsNoted booking outcome.correlationId ∧
    (outcome.Cancels → booking.status = "CANCELLED" ∧
      booking.cancelledAt = some outcome.occurredAt)

end ReservationOutcome

/-- The copies find the same booking and agree on it, or what one of them finds
alone has nothing to be written any more. -/
structure SyncsAgree (engine : Engine) (outcome : ReservationOutcome) (store : Store) : Prop where
  both : ∀ booking,
    store.bookingOf? (Worker.extractReservationId engine outcome.payload) = some booking →
    store.bookingOf? (Ocpi.extractReservationIdFromPayload engine outcome.payload) = some booking →
      outcome.AgreesOn booking
  workerOnly : ∀ booking,
    store.bookingOf? (Worker.extractReservationId engine outcome.payload) = some booking →
    store.bookingOf? (Ocpi.extractReservationIdFromPayload engine outcome.payload) ≠ some booking →
      outcome.DoneByWorker booking
  ocpiOnly : ∀ booking,
    store.bookingOf? (Worker.extractReservationId engine outcome.payload) ≠ some booking →
    store.bookingOf? (Ocpi.extractReservationIdFromPayload engine outcome.payload) = some booking →
      outcome.DoneByOcpi booking

section Fields

variable {outcome : ReservationOutcome} {booking : Booking}

theorem reservationState_apply_eq_self_iff {update : BookingUpdate} :
    (update.apply booking).reservationState = booking.reservationState ↔
      booking.reservationCommandId = some update.reservationCommandId ∧
        booking.reservationCommandStatus = some update.reservationCommandStatus ∧
        booking.reservationCommandUpdatedAt = some update.reservationCommandUpdatedAt ∧
        (∀ given, update.commandCorrelationId = some given →
          booking.commandCorrelationId = some given) ∧
        (∀ given, update.status = some given → booking.status = given) ∧
        ∀ given, update.cancelledAt = some given → booking.cancelledAt = some given := by
  rcases update with ⟨_, _, _, _ | _, _ | _, _ | _, _⟩ <;>
    simp [BookingUpdate.apply, Booking.reservationState, eq_comm] <;> tauto

theorem correlationId_eq_iff {given current : Option String} :
    (orText given none).or current = given.or current ↔ (given = some "" → current = some "") := by
  rcases given with _ | text
  · simp [orText]
  · by_cases empty : text = "" <;> simp [orText, empty]

section

variable (mapped : outcome.status ∈ [.accepted, .rejected, .failed, .timeout])
include mapped

theorem agreesOn_iff :
    ((Worker.syncBookingReservationState outcome booking).update.apply booking).reservationState =
        ((Ocpi.syncBookingFromCommandResult outcome booking).update.apply booking).reservationState ↔
      outcome.AgreesOn booking := by
  rw [ReservationOutcome.AgreesOn, ← correlationId_eq_iff]
  by_cases reserves : normalizeCommandType outcome.commandType = "RESERVE_NOW" <;>
    by_cases isCancelled : booking.status = "CANCELLED" <;>
    rcases status : outcome.status <;>
    simp_all [Worker.syncBookingReservationState, Ocpi.syncBookingFromCommandResult,
      ReservationOutcome.cancelled, ReservationOutcome.reservationUpdate, BookingUpdate.apply,
      Booking.reservationState]

theorem doneByWorker_iff :
    ((Worker.syncBookingReservationState outcome booking).update.apply booking).reservationState =
        booking.reservationState ↔ outcome.DoneByWorker booking := by
  rw [reservationState_apply_eq_self_iff, ReservationOutcome.DoneByWorker,
    ReservationOutcome.isNoted_iff]
  by_cases reserves : normalizeCommandType outcome.commandType = "RESERVE_NOW" <;>
    by_cases isCancelled : booking.status = "CANCELLED" <;>
    rcases status : outcome.status <;>
    simp_all [Worker.syncBookingReservationState, ReservationOutcome.cancelled,
      ReservationOutcome.reservationUpdate, ReservationOutcome.Cancels, and_assoc]

theorem doneByOcpi_iff :
    ((Ocpi.syncBookingFromCommandResult outcome booking).update.apply booking).reservationState =
        booking.reservationState ↔ outcome.DoneByOcpi booking := by
  rw [reservationState_apply_eq_self_iff, ReservationOutcome.DoneByOcpi,
    ReservationOutcome.isNoted_iff]
  by_cases reserves : normalizeCommandType outcome.commandType = "RESERVE_NOW" <;>
    by_cases isCancelled : booking.status = "CANCELLED" <;>
    rcases status : outcome.status <;>
    simp_all [Ocpi.syncBookingFromCommandResult, ReservationOutcome.cancelled,
      ReservationOutcome.reservationUpdate, ReservationOutcome.Cancels, and_assoc]

end

end Fields

section Agreement

variable {outcome : ReservationOutcome} {store : Store}

theorem bookingsAfter_syncBooking {reservationId : Option Int} {change : Booking → BookingChange}
    (reservation : isReservationCommand outcome.commandType = true) (id : String) :
    bookingsAfter (syncBooking outcome reservationId change) store id =
      (store.bookings.find? id).map fun booking =>
        (if store.bookingOf? reservationId = some booking then (change booking).update.apply booking
          else booking).reservationState := by
  rcases exists_run_syncBooking reservation store with ⟨after, run, bookings⟩
  rw [bookingsAfter, run, Option.bind_some, bookings, Option.map_map]
  rfl

theorem map_find?_eq_iff {β : Type} {left right : Booking → β} :
    (∀ id, (store.bookings.find? id).map left = (store.bookings.find? id).map right) ↔
      ∀ booking ∈ store.bookings.rows, left booking = right booking := by
  constructor
  · intro same booking member
    have found := same booking.id
    rw [Table.find?_eq_some_iff.mpr ⟨member, rfl⟩] at found
    exact Option.some.inj found
  · intro same id
    apply Option.map_congr
    intro booking found
    exact same booking (Table.find?_eq_some_iff.mp found).1

theorem mem_of_bookingOf? {reservationId : Option Int} {booking : Booking}
    (found : store.bookingOf? reservationId = some booking) : booking ∈ store.bookings.rows :=
  (Table.find?_eq_some_iff.mp (find?_of_bookingOf? found)).1

/-- Both copies leave every booking with the same status, times and reservation
columns exactly where they agree. -/
theorem syncs_agree_iff (engine : Engine) (store : Store) (outcome : ReservationOutcome)
    (reservation : isReservationCommand outcome.commandType = true)
    (mapped : outcome.status ∈ [.accepted, .rejected, .failed, .timeout]) :
    (∀ id, bookingsAfter (Worker.syncStatements engine outcome) store id =
        bookingsAfter (Ocpi.syncStatements engine outcome) store id) ↔
      SyncsAgree engine outcome store := by
  simp only [Worker.syncStatements, Ocpi.syncStatements, bookingsAfter_syncBooking reservation]
  rw [map_find?_eq_iff]
  constructor
  · intro same
    constructor
    · intro booking byWorker byOcpi
      have agrees := same booking (mem_of_bookingOf? byWorker)
      rw [if_pos byWorker, if_pos byOcpi] at agrees
      exact (agreesOn_iff mapped).mp agrees
    · intro booking byWorker notByOcpi
      have agrees := same booking (mem_of_bookingOf? byWorker)
      rw [if_pos byWorker, if_neg notByOcpi] at agrees
      exact (doneByWorker_iff mapped).mp agrees
    · intro booking notByWorker byOcpi
      have agrees := same booking (mem_of_bookingOf? byOcpi)
      rw [if_neg notByWorker, if_pos byOcpi] at agrees
      exact (doneByOcpi_iff mapped).mp agrees.symm
  · intro agree booking _
    by_cases byWorker : store.bookingOf? (Worker.extractReservationId engine outcome.payload) =
        some booking <;>
      by_cases byOcpi : store.bookingOf?
        (Ocpi.extractReservationIdFromPayload engine outcome.payload) = some booking
    · rw [if_pos byWorker, if_pos byOcpi]
      exact (agreesOn_iff mapped).mpr (agree.both booking byWorker byOcpi)
    · rw [if_pos byWorker, if_neg byOcpi]
      exact (doneByWorker_iff mapped).mpr (agree.workerOnly booking byWorker byOcpi)
    · rw [if_neg byWorker, if_pos byOcpi]
      exact ((doneByOcpi_iff mapped).mpr (agree.ocpiOnly booking byWorker byOcpi)).symm
    · rw [if_neg byWorker, if_neg byOcpi]

end Agreement

namespace Sample

def cancelledBooking (cancelledAt : Int) : Booking where
  id := "booking"
  reservationId := some 7
  status := "CANCELLED"
  reservationCommandId := none
  reservationCommandStatus := none
  reservationCommandUpdatedAt := none
  commandCorrelationId := none
  cancelledAt := some cancelledAt
  autoCancelReason := none
  createdAt := 0

def cancelledStore : Store :=
  { store with bookings := ⟨[cancelledBooking 1000], by decide⟩ }

def cancellation (occurredAt : Int) : ReservationOutcome where
  commandId := "cmd"
  commandType := "CancelReservation"
  status := .accepted
  correlationId := some "cmd"
  payload := JsRecord.empty.with "reservationId" (.number (.ofInt 7))
  error := none
  occurredAt := occurredAt

theorem bookingOf?_cancellation (reservationId : Option Int) (isNumber : reservationId = some 7) :
    cancelledStore.bookingOf? reservationId = some (cancelledBooking 1000) := by
  subst isNumber
  decide

end Sample

open Sample

/-- At the time at which the booking was cancelled, both leave the same. -/
theorem syncs_agree_iff_same_time :
    isReservationCommand (cancellation 1000).commandType = true ∧
      ∀ id, bookingsAfter (Worker.syncStatements engine (cancellation 1000))
          cancelledStore id =
        bookingsAfter (Ocpi.syncStatements engine (cancellation 1000))
          cancelledStore id := by
  refine ⟨by decide +kernel, ?_⟩
  apply (syncs_agree_iff engine cancelledStore (cancellation 1000)
    (by decide +kernel) (by decide)).mpr
  have byWorker := bookingOf?_cancellation (Worker.extractReservationId engine
    (cancellation 1000).payload) (by decide +kernel)
  have byOcpi := bookingOf?_cancellation (Ocpi.extractReservationIdFromPayload engine
    (cancellation 1000).payload) (by decide +kernel)
  constructor
  · intro booking isFound _
    rw [byWorker] at isFound
    cases isFound
    exact ⟨fun _ _ _ => rfl, fun empty => absurd empty (by decide)⟩
  · intro booking isFound notFound
    rw [byWorker] at isFound
    rw [byOcpi] at notFound
    exact absurd isFound notFound
  · intro booking notFound isFound
    rw [byOcpi] at isFound
    rw [byWorker] at notFound
    exact absurd isFound notFound

/-- Later than that, the worker keeps the time of the first cancellation, and the
endpoint does not. -/
theorem syncs_differ_on_second_cancellation :
    ¬ ∀ (engine : Engine) (store : Store) (outcome : ReservationOutcome),
      isReservationCommand outcome.commandType = true →
      outcome.status ∈ [.accepted, .rejected, .failed, .timeout] →
      ∀ id, bookingsAfter (Worker.syncStatements engine outcome) store id =
        bookingsAfter (Ocpi.syncStatements engine outcome) store id := by
  intro agree
  have same := agree Sample.engine cancelledStore (cancellation 2000)
    (by decide +kernel) (by decide) "booking"
  revert same
  decide +kernel

end Csms.Commands
