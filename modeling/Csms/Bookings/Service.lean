import Csms.Bookings.Store
import Csms.Commands.Terminal

/-!
# The booking service

`BookingService` reads a booking, checks its status and writes, each in a statement of
its own; it enqueues reservation commands and notes their ids and statuses in the
booking.  Its requests share the database with those on commands.
-/

namespace Csms.Bookings

open Database Js
open Commands (Booking CommandRequest EnqueueCall EnqueueAnswer CommandsRequest CommandsAnswer
  optionalTrimmed)

inductive BookingQuery where
  | commands (query : Commands.Query)
  | enqueue (query : Commands.EnqueueQuery)
  | booking (id : String)
  | overdue (now : Int)
  | chargePoint (id : String)
  | user (id : String)
  | anyUser
  deriving DecidableEq

abbrev BookingProgram (α : Type) :=
  Request Store BookingQuery BookingWrite BookingWrite.Result HttpException α

/-- A transaction; when it fails, the request fails. -/
def execute (write : BookingWrite) : BookingProgram write.Result :=
  Request.commit write .internal

/-- The ids that the database chooses, the clock each time it is read, and the call of
the commands service. -/
structure BookingCall where
  bookingId : String
  (now createdAt commandUpdatedAt : Int)
  enqueue : EnqueueCall

/-- The fields of `CreateBookingDto` that are read. -/
structure CreateBookingDto where
  userId : Option String := none
  stationId : Option String := none
  chargePointId : Option String
  connectorId : Option Int := none
  startAt : DateText
  durationMinutes : Option JsNumber := none
  customerRefSnapshot : Option String := none
  reservationId : Option JsNumber := none
  source : Option String := none
  idTag : Option String := none
  authorizationReference : Option String := none
  responseUrl : Option String := none
  partnerId : Option String := none
  correlationId : Option String := none
  dispatchCommand : Option Bool := none

/-- An absent or empty `startAt` is `none`. -/
structure UpdateBookingDto where
  status : Option BookingStatus := none
  startAt : Option DateText := none
  durationMinutes : Option JsNumber := none
  reason : Option String := none

structure BookingDispatchDto where
  correlationId : Option String := none
  responseUrl : Option String := none
  partnerId : Option String := none
  reason : Option String := none

/-- The outcome of a dispatch; its error text, which only history rows have, is left out. -/
structure ReservationDispatchResult where
  commandId : Option String
  status : String
  correlationId : Option String

def parseIsoDateTime (value : DateText) (field : String) : Except HttpException Int :=
  match dateParse value with
  | some time => .ok time
  | none => .error (.badRequest s!"{field} must be a valid ISO datetime")

def resolveDurationMinutes (value : Option JsNumber) (fallback : Int) : Int :=
  match value with
  | some (.finite minutes) => if minutes ≤ 0 then fallback else ⌊minutes⌋
  | _ => fallback

def normalizeReservationId (reservationId : JsNumber) : Except HttpException Int :=
  match reservationId.floor with
  | .finite number =>
    if number ≤ 0 ∨ 2147483647 < number then
      .error (.badRequest "reservationId must be a positive 32-bit integer")
    else .ok number.num
  | _ => .error (.badRequest "reservationId must be a positive 32-bit integer")

/-- `Math.floor(Date.now() / 1000)`. -/
def generateReservationId (now : Int) : JsNumber :=
  .ofInt (now / 1000)

def normalizeSource (value : Option String) : Except HttpException String :=
  match orText (value.map fun text => toUpperCase (trim text)) none with
  | none => .ok "LOCAL"
  | some normalized =>
    if normalized ≠ "LOCAL" ∧ normalized ≠ "OCPI" then
      .error (.badRequest "source must be either LOCAL or OCPI")
    else .ok normalized

def assertMutableStatus (status : String) : Except HttpException Unit :=
  if isTerminalStatus status then .error (.badRequest "Booking is in a terminal state")
  else .ok ()

def minutes (count : Int) : Int :=
  count * 60 * 1000

def findBooking (id : String) : BookingProgram (Option BookingRow) :=
  Request.read (.booking id) fun store => store.row? id

def findById (id : String) : BookingProgram BookingRow := do
  let found ← findBooking id
  match found with
  | some row => return row
  | none => Request.throw (.notFound "Booking not found")

def resolveUserId (inputUserId : Option String) : BookingProgram String :=
  match optionalTrimmed inputUserId with
  | some userId => do
    let known ← Request.read (.user userId) fun store => decide (userId ∈ store.users)
    if known then return userId
    else Request.throw (.badRequest "Provided userId was not found")
  | none => do
    let fallback ← Request.read .anyUser fun store => store.users.head?
    match fallback with
    | some userId => return userId
    | none => Request.throw (.badRequest "No user available to own booking")

def resolveBookingTarget (inputStationId inputChargePointId : Option String) :
    BookingProgram ChargePoint :=
  match optionalTrimmed inputChargePointId with
  | none => Request.throw (.badRequest "chargePointId is required for reservations")
  | some wanted => do
    let found ← Request.read (.chargePoint wanted) fun store =>
      store.chargePoints.find? fun chargePoint =>
        chargePoint.id = wanted ∨ chargePoint.ocppId = wanted
    match found with
    | none => Request.throw (.badRequest "Provided chargePointId was not found")
    | some chargePoint =>
      if (optionalTrimmed inputStationId).any (· ≠ chargePoint.stationId) then
        Request.throw (.badRequest "chargePointId does not belong to the provided stationId")
      else return chargePoint

/-- What the request says of a reservation command. -/
structure DispatchInput where
  connectorId : Option Int := none
  idTag : Option String := none
  authorizationReference : Option String := none
  reason : Option String := none
  responseUrl : Option String := none
  partnerId : Option String := none
  correlationId : Option String := none

/-- `input.connectorId || 1`. -/
def connectorOf (input : DispatchInput) : Int :=
  match input.connectorId with
  | some connectorId => if connectorId = 0 then 1 else connectorId
  | none => 1

def optionalString (value : Option String) : JsValue :=
  value.elim .null JsValue.string

/-- The part of the payload for the partner who wants to be called back. -/
def withOcpi (input : DispatchInput) (command requestId : String) (payload : JsRecord) : JsRecord :=
  match orText input.responseUrl none with
  | some responseUrl => payload.with "ocpi" (.object
      ((((JsRecord.empty.with "command" (.string command)).with
        "requestId" (.string requestId)).with
          "responseUrl" (.string responseUrl)).with
            "partnerId" (optionalString (orText input.partnerId none))))
  | none => payload

def numbered (reservationId : Int) : JsRecord :=
  (JsRecord.empty.with "reservationId" (.number (.ofInt reservationId))).with
    "id" (.number (.ofInt reservationId))

def commandRequest (row : BookingRow) (commandType chargePointId : String)
    (connectorId : Option Int) (payload : JsRecord) (correlationId : String) :
    CommandRequest JsValue where
  commandType := commandType
  tenantId := none
  stationId := some row.details.stationId
  chargePointId := some chargePointId
  connectorId := connectorId
  payload := .object payload
  requestedBy := some ⟨some "booking-service", none⟩
  correlationId := some correlationId
  dedupeKey := none
  idempotencyTtlSec := none

def reserveNowPayload (row : BookingRow) (input : DispatchInput) (reservationId : Int)
    (correlationId : String) : JsRecord :=
  let payload := ((numbered reservationId).with
    "connectorId" (.number (.ofInt (connectorOf input)))).with
      "expiryDateTime" (.date (some row.details.endTime))
  let payload := payload.with "idTag" (.string
    ((orText input.idTag (orText row.details.customerRefSnapshot none)).getD
      s!"booking-{row.booking.id}"))
  let payload := match orText input.authorizationReference none with
    | some reference => payload.with "parentIdTag" (.string reference)
    | none => payload
  withOcpi input "RESERVE_NOW" correlationId payload

def cancelReservationPayload (input : DispatchInput) (reservationId : Int) (correlationId : String) :
    JsRecord :=
  withOcpi input "CANCEL_RESERVATION" correlationId
    ((numbered reservationId).with "reason" (optionalString (orText input.reason none)))

def commandResult (correlationId : String) :
    Except HttpException EnqueueAnswer → ReservationDispatchResult
  | .ok (.command response) => ⟨some response.commandId, response.status, some correlationId⟩
  | .ok (.vehicleCommand response) => ⟨some response.commandId, response.status, some correlationId⟩
  | .error _ => ⟨none, "DispatchFailed", some correlationId⟩

/-- `commandsService.enqueueCommand` in its `try`. -/
def enqueueCommand (call : EnqueueCall) (input : CommandRequest JsValue) :
    BookingProgram (Except HttpException EnqueueAnswer) :=
  ((Commands.Enqueue.enqueueCommand call input).onPart Store.commands .enqueue .enqueue
    fun _ result => result).attempt

def enqueueReservationCommand (call : EnqueueCall) (bookingId : String) (input : DispatchInput)
    (suffix : String)
    (request : BookingRow → (chargePointId : String) → Int → (correlationId : String) →
      CommandRequest JsValue) : BookingProgram ReservationDispatchResult := do
  let row ← findById bookingId
  match orText row.details.chargePointId none, row.booking.reservationId with
  | some chargePointId, some reservationId =>
    if reservationId = 0 then return ⟨none, "DispatchFailed", none⟩
    else do
      let correlationId :=
        (optionalTrimmed input.correlationId).getD s!"booking:{row.booking.id}:{suffix}"
      let answer ← enqueueCommand call (request row chargePointId reservationId correlationId)
      return commandResult correlationId answer
  | _, _ => return ⟨none, "DispatchFailed", none⟩

def reserveNowRequest (input : DispatchInput) (row : BookingRow) (chargePointId : String)
    (reservationId : Int) (correlationId : String) : CommandRequest JsValue :=
  commandRequest row "ReserveNow" chargePointId (some (connectorOf input))
    (reserveNowPayload row input reservationId correlationId) correlationId

def cancelReservationRequest (input : DispatchInput) (row : BookingRow) (chargePointId : String)
    (reservationId : Int) (correlationId : String) : CommandRequest JsValue :=
  commandRequest row "CancelReservation" chargePointId none
    (cancelReservationPayload input reservationId correlationId) correlationId

def enqueueReserveNowCommand (call : EnqueueCall) (bookingId : String) (input : DispatchInput) :
    BookingProgram ReservationDispatchResult :=
  enqueueReservationCommand call bookingId input "reserve" (reserveNowRequest input)

def enqueueCancelReservationCommand (call : EnqueueCall) (bookingId : String)
    (input : DispatchInput) : BookingProgram ReservationDispatchResult :=
  enqueueReservationCommand call bookingId input "cancel" (cancelReservationRequest input)

def applyCommandState (bookingId : String) (state : ReservationDispatchResult) (now : Int) :
    BookingProgram Unit :=
  execute (.update bookingId
    { reservationCommandId := some state.commandId
      reservationCommandStatus := some state.status
      reservationCommandUpdatedAt := some now
      commandCorrelationId := orText state.correlationId none })

def recordEvent (bookingId eventType source : String) (status : Option String) :
    BookingProgram Unit :=
  execute (.recordEvents [⟨bookingId, eventType, source, orText status none⟩])

/-- The end of every request that dispatches a command. -/
def noteDispatch (call : BookingCall) (bookingId eventType source : String)
    (dispatch : ReservationDispatchResult) : BookingProgram Unit := do
  applyCommandState bookingId dispatch call.commandUpdatedAt
  recordEvent bookingId eventType source (some dispatch.status)

def create (call : BookingCall) (dto : CreateBookingDto) : BookingProgram BookingRow := do
  let startTime ← Request.ofExcept (parseIsoDateTime dto.startAt "startAt")
  let endTime := startTime + minutes (resolveDurationMinutes dto.durationMinutes 15)
  let userId ← resolveUserId dto.userId
  let target ← resolveBookingTarget dto.stationId dto.chargePointId
  let reservationId ← Request.ofExcept (normalizeReservationId
    (dto.reservationId.getD (generateReservationId call.now)))
  let source ← Request.ofExcept (normalizeSource dto.source)
  execute (.create
    { id := call.bookingId
      userId := userId
      stationId := target.stationId
      chargePointId := target.id
      reservationId := reservationId
      reservationSource := source
      startTime := startTime
      endTime := endTime
      customerRefSnapshot := dto.customerRefSnapshot
      createdAt := call.createdAt })
  recordEvent call.bookingId "BOOKING_CREATED" "api.booking.create" (some "PENDING")
  if dto.dispatchCommand ≠ some false then do
    let dispatch ← enqueueReserveNowCommand call.enqueue call.bookingId
      { connectorId := dto.connectorId
        idTag := dto.idTag
        authorizationReference := dto.authorizationReference
        responseUrl := dto.responseUrl
        partnerId := dto.partnerId
        correlationId := dto.correlationId }
    noteDispatch call call.bookingId "RESERVE_COMMAND_QUEUED" "api.booking.create" dispatch
  findById call.bookingId

/-- The statements that take a booking that is not terminal into a status. -/
def moveTo (id : String) (status : BookingStatus) (patch : BookingPatch)
    (eventType source : String) : BookingProgram Unit := do
  let row ← findById id
  let _ ← Request.ofExcept (assertMutableStatus row.booking.status)
  execute (.update id { patch with status := some status })
  recordEvent id eventType source (some status.text)

def cancel (call : BookingCall) (id : String) (reason : Option String) :
    BookingProgram BookingRow := do
  let autoCancelReason := (optionalTrimmed reason).getD "Cancelled by operator"
  moveTo id .cancelled { cancelledAt := some call.now, autoCancelReason := some autoCancelReason }
    "BOOKING_CANCELLED" "api.booking.cancel"
  let dispatch ← enqueueCancelReservationCommand call.enqueue id
    { reason := orText (some autoCancelReason) none }
  noteDispatch call id "CANCEL_COMMAND_QUEUED" "api.booking.cancel" dispatch
  findById id

def checkin (call : BookingCall) (id : String) : BookingProgram BookingRow := do
  let row ← findById id
  if row.booking.status ≠ "PENDING" then
    Request.throw (.badRequest "Booking is not in a check-in ready state")
  else do
    execute (.update id { status := some .confirmed, checkedInAt := some call.now })
    recordEvent id "BOOKING_CHECKED_IN" "api.booking.checkin" (some "CONFIRMED")
    findById id

def markNoShow (call : BookingCall) (id : String) (reason : Option String) :
    BookingProgram BookingRow := do
  moveTo id .noShow
    { noShowAt := some call.now
      autoCancelReason := some ((optionalTrimmed reason).getD "Marked as no-show by operator") }
    "BOOKING_NO_SHOW" "api.booking.no_show"
  findById id

def expire (call : BookingCall) (id : String) (reason : Option String) :
    BookingProgram BookingRow := do
  moveTo id .expired
    { expiredAt := some call.now
      autoCancelReason := some ((optionalTrimmed reason).getD "Expired by operator") }
    "BOOKING_EXPIRED" "api.booking.expire"
  findById id

/-- The start and the end that an update sets. -/
def updatedTimes (dto : UpdateBookingDto) (details : BookingDetails) :
    Except HttpException (Option Int × Option Int) :=
  match dto.startAt with
  | some startAt => do
    let startTime ← parseIsoDateTime startAt "startAt"
    let durationMinutes := resolveDurationMinutes dto.durationMinutes
      (max 1 ((details.endTime - details.startTime) / 60000))
    return (some startTime, some (startTime + minutes durationMinutes))
  | none =>
    match dto.durationMinutes with
    | some (.finite duration) =>
      if 0 < duration then .ok (none, some (details.startTime + minutes ⌊duration⌋))
      else .ok (none, none)
    | _ => .ok (none, none)

def update (call : BookingCall) (id : String) (dto : UpdateBookingDto) :
    BookingProgram BookingRow := do
  let row ← findById id
  let _ ← Request.ofExcept (assertMutableStatus row.booking.status)
  let times ← Request.ofExcept (updatedTimes dto row.details)
  let stamp (status : BookingStatus) := if dto.status = some status then some call.now else none
  execute (.update id
    { status := dto.status
      checkedInAt := stamp .confirmed
      cancelledAt := stamp .cancelled
      noShowAt := stamp .noShow
      expiredAt := stamp .expired
      startTime := times.1
      endTime := times.2
      autoCancelReason := optionalTrimmed dto.reason })
  recordEvent id "BOOKING_UPDATED" "api.booking.update" (dto.status.map BookingStatus.text)
  findById id

/-- Bookings are not deleted, so every one that was found is updated. -/
def expireOverdue (call : BookingCall) : BookingProgram Nat := do
  let ids ← Request.read (.overdue call.now) fun store => store.overdue call.now
  if ids.isEmpty then return 0
  else do
    execute (.updateMany ids
      { status := some .expired
        expiredAt := some call.now
        autoCancelReason := some "Auto-expired overdue booking" })
    execute (.recordEvents (ids.map fun id =>
      ⟨id, "BOOKING_AUTO_EXPIRED", "api.booking.expire_overdue", some "EXPIRED"⟩))
    return ids.length

def dispatchReserveCommand (call : BookingCall) (id : String) (dto : BookingDispatchDto) :
    BookingProgram BookingRow := do
  let _ ← findById id
  let dispatch ← enqueueReserveNowCommand call.enqueue id
    { correlationId := dto.correlationId, responseUrl := dto.responseUrl
      partnerId := dto.partnerId }
  noteDispatch call id "RESERVE_COMMAND_MANUAL" "api.booking.dispatch" dispatch
  findById id

def dispatchCancelCommand (call : BookingCall) (id : String) (dto : BookingDispatchDto) :
    BookingProgram BookingRow := do
  let _ ← findById id
  let dispatch ← enqueueCancelReservationCommand call.enqueue id
    { reason := dto.reason, correlationId := dto.correlationId, responseUrl := dto.responseUrl
      partnerId := dto.partnerId }
  noteDispatch call id "CANCEL_COMMAND_MANUAL" "api.booking.dispatch" dispatch
  findById id

inductive BookingRequest where
  /-- Of the worker or of the endpoint for command results. -/
  | commands (request : CommandsRequest)
  | create (call : BookingCall) (dto : CreateBookingDto)
  | cancel (call : BookingCall) (id : String) (reason : Option String)
  | checkin (call : BookingCall) (id : String)
  | markNoShow (call : BookingCall) (id : String) (reason : Option String)
  | expire (call : BookingCall) (id : String) (reason : Option String)
  | update (call : BookingCall) (id : String) (dto : UpdateBookingDto)
  | expireOverdue (call : BookingCall)
  | dispatchReserve (call : BookingCall) (id : String) (dto : BookingDispatchDto)
  | dispatchCancel (call : BookingCall) (id : String) (dto : BookingDispatchDto)

inductive BookingAnswer where
  | commands (answer : CommandsAnswer)
  | booking (row : BookingRow)
  | expired (count : Nat)

def BookingRequest.program : BookingRequest → BookingProgram BookingAnswer
  | commands request => do
    let answer ← request.program.onPart Store.commands .commands .commands fun _ result => result
    return .commands answer
  | create call dto => .booking <$> Bookings.create call dto
  | cancel call id reason => .booking <$> Bookings.cancel call id reason
  | checkin call id => .booking <$> Bookings.checkin call id
  | markNoShow call id reason => .booking <$> Bookings.markNoShow call id reason
  | expire call id reason => .booking <$> Bookings.expire call id reason
  | update call id dto => .booking <$> Bookings.update call id dto
  | expireOverdue call => .expired <$> Bookings.expireOverdue call
  | dispatchReserve call id dto => .booking <$> dispatchReserveCommand call id dto
  | dispatchCancel call id dto => .booking <$> dispatchCancelCommand call id dto

end Csms.Bookings
