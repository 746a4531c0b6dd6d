import Csms.Database.Request
import Csms.Commands.Store

/-!
# The writes of commands

What each transaction of the worker and of the endpoint for command results
writes, statement by statement, and that all of them are guarded.  The reading
statements in front of the writes take no locks: they see what a query outside of
a transaction sees, and the requests make them as such queries.
-/

namespace Csms.Commands

open Database Js

/-- The condition of `updateMany` in `claimBatch`. -/
def isClaimable (staleTime : Int) (outbox : CommandOutbox) : Bool :=
  outbox.status = "Queued" && outbox.lockedAt.all (· < staleTime)

def claimedOutbox (now : Int) (outbox : CommandOutbox) : CommandOutbox :=
  { outbox with lockedAt := some now, attempts := outbox.attempts + 1, updatedAt := now }

@[simp]
theorem id_claimedOutbox (now : Int) (outbox : CommandOutbox) :
    (claimedOutbox now outbox).id = outbox.id :=
  rfl

/-- `updateMany` of `claimBatch`: whether it found the row. -/
def claim (outboxId : String) (staleTime now : Int) : CommandTx Bool :=
  -- the row is locked before the condition is evaluated on it
  .write [.outbox outboxId] (fun _ => true) (fun store => store) fun store =>
    if (Store.outboxTable.find? outboxId store).any (isClaimable staleTime) then
      Tx.updateRow Store.outboxTable [.outbox outboxId] outboxId (claimedOutbox now)
        (id_claimedOutbox now) fun _ => .commit true
    else .commit false

def publishedOutbox (now : Int) : OutboxUpdate where
  status := "Published"
  publishedAt := some now
  updatedAt := now
  lastError := none

/-- The transaction of `publish`. -/
def markSent (outboxId commandId : String) (now : Int) : CommandTx Unit :=
  updateOutbox outboxId (publishedOutbox now) <|
  updateCommand commandId
    { status := some CommandStatus.sent.text, sentAt := some now, error := some none } <|
  createCommandEvent ⟨commandId, CommandStatus.sent.text, now⟩ <|
  .commit ()

/-- The transaction of `publishVehicleCommand`. -/
def markConfirmed (outboxId commandId providerCommandId : String) (now : Int) : CommandTx Unit :=
  updateOutbox outboxId (publishedOutbox now) <|
  updateCommand commandId
    { status := some "Confirmed", sentAt := some now, completedAt := some (some now)
      providerCommandId := some providerCommandId, resultCode := some none, error := some none } <|
  createCommandEvent ⟨commandId, CommandStatus.sent.text, now⟩ <|
  createCommandEvent ⟨commandId, "Confirmed", now⟩ <|
  .commit ()

/-- The transaction of `handlePublishFailure`. -/
def scheduleRetry (outboxId commandId message : String) (now : Int) : CommandTx Unit :=
  updateOutbox outboxId { status := "Queued", updatedAt := now, lastError := some message } <|
  createCommandEvent ⟨commandId, "RetryScheduled", now⟩ <|
  .commit ()

/-- The transaction of `moveToDeadLetter`. -/
def markDeadLettered (outboxId commandId message : String) (now : Int) : CommandTx Unit :=
  updateOutbox outboxId { status := "DeadLettered", updatedAt := now, lastError := some message } <|
  updateCommand commandId
    { status := some CommandStatus.failed.text, completedAt := some (some now)
      error := some (some message) } <|
  createCommandEvent ⟨commandId, "DeadLettered", now⟩ <|
  .commit ()

/-- What the consumer and the endpoint for command results write for a reported
status. -/
structure StatusReport where
  commandId : String
  status : CommandStatus
  update : CommandUpdate
  occurredAt : Int
  booking : Option BookingChange

namespace StatusReport

variable (report : StatusReport)

/-- `data` of the update of the command. -/
def commandUpdate : CommandUpdate :=
  { report.update with status := some report.status.text }

/-- The history row of the report. -/
def commandEvent : CommandEvent :=
  ⟨report.commandId, report.status.text, report.occurredAt⟩

/-- The transactions of `reconcileEvent` and `createCommandResult`. -/
def write : CommandTx Unit :=
  updateCommand report.commandId report.commandUpdate <|
  createCommandEvent report.commandEvent <|
  match report.booking with
  | none => .commit ()
  | some change =>
    updateBooking change.booking.id change.update <|
    createBookingEvent change.event <|
    .commit ()

end StatusReport

/-- `prisma.command.update` of `annotateCommandCallback`. -/
def annotate (commandId : String) (payload : JsValue) : CommandTx Unit :=
  updateCommand commandId { payload := some payload } <|
  .commit ()

inductive Write where
  | claim (outboxId : String) (staleTime now : Int)
  | markSent (outboxId commandId : String) (now : Int)
  | markConfirmed (outboxId commandId providerCommandId : String) (now : Int)
  | scheduleRetry (outboxId commandId message : String) (now : Int)
  | markDeadLettered (outboxId commandId message : String) (now : Int)
  | reconcileEvent (report : StatusReport)
  | recordResult (report : StatusReport)
  | annotateCallback (commandId : String) (payload : JsValue)

namespace Write

/-- What a transaction hands back. -/
def Result : Write → Type
  | claim .. => Bool
  | _ => Unit

/-- The statements of a transaction. -/
def body : (write : Write) → CommandTx write.Result
  | claim outboxId staleTime now => Commands.claim outboxId staleTime now
  | markSent outboxId commandId now => Commands.markSent outboxId commandId now
  | markConfirmed outboxId commandId providerCommandId now =>
    Commands.markConfirmed outboxId commandId providerCommandId now
  | scheduleRetry outboxId commandId message now =>
    Commands.scheduleRetry outboxId commandId message now
  | markDeadLettered outboxId commandId message now =>
    Commands.markDeadLettered outboxId commandId message now
  | reconcileEvent report => report.write
  | recordResult report => report.write
  | annotateCallback commandId payload => annotate commandId payload

end Write

section Guarded

open Store

variable {α : Type} {held : List Lock} {rest : CommandTx α}

theorem guarded_updateCommand {id : String} {update : CommandUpdate}
    (next : ∀ held, rest.Guarded protects held) :
    (updateCommand id update rest).Guarded protects held := by
  apply Tx.guarded_updateRow_own Lock.command
  · exact fun _ => rfl
  · intro lock other store table
    cases lock with
    | command wanted => exact absurd rfl (other wanted)
    | _ => rfl
  · exact fun _ => next _

theorem guarded_updateOutboxRow {id : String} {change : CommandOutbox → CommandOutbox}
    {keeps : ∀ outbox, (change outbox).id = outbox.id} (next : ∀ held, rest.Guarded protects held) :
    (Tx.updateRow outboxTable [.outbox id] id change keeps fun _ => rest).Guarded protects
      held := by
  apply Tx.guarded_updateRow_own Lock.outbox
  · exact fun _ => rfl
  · intro lock other store table
    cases lock with
    | outbox wanted => exact absurd rfl (other wanted)
    | _ => rfl
  · exact fun _ => next _

theorem guarded_updateBooking {id : String} {update : BookingUpdate}
    (next : ∀ held, rest.Guarded protects held) :
    (updateBooking id update rest).Guarded protects held := by
  apply Tx.guarded_updateRow_own Lock.booking
  · exact fun _ => rfl
  · intro lock other store table
    cases lock with
    | booking wanted => exact absurd rfl (other wanted)
    | _ => rfl
  · exact fun _ => next _

/-- No lock protects history rows. -/
theorem guarded_history {change : Store → Store}
    (unprotected : ∀ lock store, (protects lock).r (change store) store)
    (next : ∀ held, rest.Guarded protects held) :
    (Tx.write [] (fun _ => true) change fun _ => rest).Guarded protects held := by
  apply Tx.guarded_write [] (List.nil_subset _)
  · exact fun lock _ => unprotected lock
  · exact fun left right _ => ⟨rfl, fun lock member => absurd member List.not_mem_nil, rfl⟩
  · exact fun _ => next _

theorem guarded_createCommandEvent {event : CommandEvent}
    (next : ∀ held, rest.Guarded protects held) :
    (createCommandEvent event rest).Guarded protects held := by
  apply guarded_history _ next
  intro lock store
  cases lock <;> rfl

theorem guarded_createBookingEvent {event : BookingEvent}
    (next : ∀ held, rest.Guarded protects held) :
    (createBookingEvent event rest).Guarded protects held := by
  apply guarded_history _ next
  intro lock store
  cases lock <;> rfl

theorem guarded_commit (result : α) (held : List Lock) :
    (Tx.commit result : CommandTx α).Guarded protects held :=
  trivial

theorem guarded_claim (outboxId : String) (staleTime now : Int) :
    (claim outboxId staleTime now).Guarded protects [] := by
  apply Tx.guarded_write [Lock.outbox outboxId] (List.subset_append_left _ [])
  · exact fun lock _ store => (protects lock).refl store
  · intro left right agree
    have found : outboxTable.find? outboxId left = outboxTable.find? outboxId right :=
      agree (.outbox outboxId) (List.mem_singleton_self _)
    exact ⟨rfl, agree, by rw [found]⟩
  · intro view
    split
    · exact guarded_updateOutboxRow (guarded_commit true)
    · exact guarded_commit false _

theorem StatusReport.guarded_write (report : StatusReport) : report.write.Guarded protects [] := by
  apply guarded_updateCommand
  intro held
  apply guarded_createCommandEvent
  intro held
  cases report.booking with
  | none => exact guarded_commit () held
  | some change =>
    apply guarded_updateBooking
    intro held
    exact guarded_createBookingEvent (guarded_commit ())

end Guarded

theorem Write.guarded (write : Write) : write.body.Guarded Store.protects [] := by
  cases write with
  | claim outboxId staleTime now => exact guarded_claim outboxId staleTime now
  | markSent | markDeadLettered =>
    apply guarded_updateOutboxRow
    intro held
    apply guarded_updateCommand
    intro held
    exact guarded_createCommandEvent (guarded_commit ())
  | markConfirmed outboxId commandId providerCommandId now =>
    apply guarded_updateOutboxRow
    intro held
    apply guarded_updateCommand
    intro held
    apply guarded_createCommandEvent
    intro held
    exact guarded_createCommandEvent (guarded_commit ())
  | scheduleRetry outboxId commandId message now =>
    apply guarded_updateOutboxRow
    intro held
    exact guarded_createCommandEvent (guarded_commit ())
  | reconcileEvent report => exact report.guarded_write
  | recordResult report => exact report.guarded_write
  | annotateCallback commandId payload => exact guarded_updateCommand (guarded_commit ())

/-! ## Queries on commands

The reading statements of the worker and of the endpoint for command results,
each one step of a request.
-/

/-- The queries, with their arguments. -/
inductive Query where
  | outboxCandidates (staleTime retryCutoff : Int) (batchSize : Nat)
  | command (id : String)
  | commandOf (correlationId : String)
  | commandEvent (event : CommandEvent)
  | bookingOf (reservationId : Int)
  deriving DecidableEq

/-- A request of the worker or of the endpoint for command results. -/
abbrev Dispatch (α : Type) :=
  Request Store Query Write Write.Result HttpException α

/-- A transaction; when it fails, the request fails. -/
def execute (write : Write) : Dispatch write.Result :=
  Request.commit write .internal

def findCommand (id : String) : Dispatch (Option Command) :=
  Request.read (.command id) fun store => store.command? id

def findCommandOf (correlationId : String) : Dispatch (Option Command) :=
  Request.read (.commandOf correlationId) fun store => store.commandOf correlationId

def findCommandEvent (event : CommandEvent) : Dispatch Bool :=
  Request.read (.commandEvent event) fun store => store.hasCommandEvent event

def findReservationBooking (commandType : String) (reservationId : Option Int) :
    Dispatch (Option Booking) :=
  if isReservationCommand commandType then
    match reservationId with
    | some reservationId =>
      Request.read (.bookingOf reservationId) fun store => store.bookingOf reservationId
    | none => pure none
  else pure none

/-- `findMany` of `claimBatch`. -/
def Store.outboxCandidates (store : Store) (staleTime retryCutoff : Int) (batchSize : Nat) :
    List CommandOutbox :=
  ((store.commandOutbox.rows.filter fun outbox =>
      isClaimable staleTime outbox && (outbox.attempts = 0 || outbox.updatedAt < retryCutoff)
    ).insertionSort fun left right => left.createdAt ≤ right.createdAt).take batchSize

def findOutboxCandidates (staleTime retryCutoff : Int) (batchSize : Nat) :
    Dispatch (List CommandOutbox) :=
  Request.read (.outboxCandidates staleTime retryCutoff batchSize) fun store =>
    store.outboxCandidates staleTime retryCutoff batchSize

end Csms.Commands
