import Csms.Bookings.Service

/-!
# Terminal statuses of bookings

The booking service, the overdue sweep, the consumer of gateway events and the endpoint
for command results write the status of one booking.  The service looks at the status
before it writes, in another statement; the other two write what a reservation command
came to without looking, so a reply that is late takes a booking out of a terminal
status.
-/

namespace Csms.Bookings

open Database Js
open Commands (Booking)

/-- The database with the sessions of all writers. -/
abbrev BookingState :=
  ReadCommitted Store Commands.Store.Lock BookingQuery BookingWrite BookingWrite.Result
    HttpException BookingRequest BookingAnswer

/-- What can be reached from a store when no request has arrived. -/
def BookingState.Reachable (store : Store) : BookingState → Prop :=
  ReadCommitted.Reachable BookingWrite.body BookingRequest.program Conditions.none
    (ReadCommitted.initial store)

/-- Bookings in a terminal status keep it. -/
def Store.TerminalKept (before after : Store) : Prop :=
  ∀ id booking, before.booking? id = some booking → isTerminalStatus booking.status = true →
    ∃ later, after.booking? id = some later ∧ later.status = booking.status

/-- The booking is not in a terminal status, except for the one that is set. -/
def Store.IsOpenFor (store : Store) (status id : String) : Prop :=
  ∀ booking, store.booking? id = some booking → isTerminalStatus booking.status = true →
    booking.status = status

/-- What the transaction finds when it commits: the bookings whose status it sets, open
for that status. -/
def BookingWrite.FindsOpen (write : BookingWrite) (store : Store) : Prop :=
  match write with
  | commands write =>
    ∀ change, write.bookingChange = some change →
      ∀ status, change.update.status = some status → store.IsOpenFor status change.booking.id
  | update id patch =>
    ∀ status, patch.status = some status → store.IsOpenFor status.text id
  | updateMany ids patch =>
    ∀ status, patch.status = some status → ∀ id ∈ ids, store.IsOpenFor status.text id
  | _ => True

/-- What becomes of the row of a booking. -/
def BookingWrite.changedBooking (write : BookingWrite) (id : String) (booking : Booking) : Booking :=
  match write with
  | commands write => write.changedBooking id booking
  | update target patch => if id ∈ [target] then patch.apply booking else booking
  | updateMany ids patch => if id ∈ ids then patch.apply booking else booking
  | _ => booking

section

variable {before after : Store}

variable {write : BookingWrite} {result : write.Result}

/-- No transaction removes a booking, and each changes it as it says. -/
theorem BookingWrite.booking?_of_run (run : write.body.run before = some (after, result))
    {id : String} {booking : Booking} (found : before.booking? id = some booking) :
    after.booking? id = some (write.changedBooking id booking) := by
  cases write with
  | commands write =>
    rcases (Tx.run_onPart_eq_some_iff Store.commandPart).mp run with ⟨left, inPart, rfl⟩
    have wasThere : before.commands.bookings.find? id = some booking := found
    have same := (Commands.Write.bookingEffect_of_run inPart).bookings id
    change left.bookings.find? id = (before.commands.bookings.find? id).map _ at same
    rw [wasThere] at same
    exact same
  | enqueue write =>
    rcases (Tx.run_onPart_eq_some_iff Store.commandPart).mp run with ⟨left, inPart, rfl⟩
    cases write with
    | createCommand | createOutbox =>
      rcases Tx.run_insertRow_eq_some_iff.mp inPart with ⟨_, _, rest⟩
      cases rest
      exact found
    | createEvent event =>
      cases inPart
      exact found
  | create new =>
    rcases Tx.run_write_eq_some_iff.mp run with ⟨_, run⟩
    cases run
    rw [Store.booking?_withBooking, found]
    rfl
  | update target patch =>
    rcases Tx.run_write_eq_some_iff.mp run with ⟨_, run⟩
    cases run
    rw [Store.booking?_patched, found]
    rfl
  | updateMany ids patch =>
    cases run
    rw [Store.booking?_patched, found]
    rfl
  | recordEvents events =>
    cases run
    exact found

/-- In terms of the rows before: a transaction leaves the terminal ones in their status. -/
theorem BookingWrite.terminalKept_iff_changed (run : write.body.run before = some (after, result)) :
    before.TerminalKept after ↔
      ∀ id booking, before.booking? id = some booking → isTerminalStatus booking.status = true →
        (write.changedBooking id booking).status = booking.status := by
  apply forall₄_congr
  intro id booking found terminal
  rw [booking?_of_run run found]
  simp only [Option.some.injEq, exists_eq_left']

/-- Setting a status on some bookings leaves terminal ones as they are exactly when these
are open for it. -/
theorem sets_iff_open {store : Store} {ids : List String} {status : Option String}
    {change : String → Booking → Booking} (sets : ∀ id booking, (change id booking).status =
      if id ∈ ids then status.getD booking.status else booking.status) :
    (∀ id booking, store.booking? id = some booking → isTerminalStatus booking.status = true →
        (change id booking).status = booking.status) ↔
      ∀ new, status = some new → ∀ id ∈ ids, store.IsOpenFor new id := by
  constructor
  · rintro keeps new rfl id isSet booking found terminal
    have same := keeps id booking found terminal
    rw [sets, if_pos isSet] at same
    exact same.symm
  · intro isOpen id booking found terminal
    rw [sets]
    split
    · rename_i isSet
      rcases status with _ | new
      · rfl
      · exact (isOpen new rfl id isSet booking found terminal).symm
    · rfl

theorem forall_text_iff {status : Option BookingStatus} {holds : String → Prop} :
    (∀ text, status.map BookingStatus.text = some text → holds text) ↔
      ∀ new, status = some new → holds new.text := by
  rcases status with _ | status
  · simp
  · simp

/-- A transaction keeps terminal statuses exactly when it finds its bookings open. -/
theorem BookingWrite.terminalKept_iff (run : write.body.run before = some (after, result)) :
    before.TerminalKept after ↔ write.FindsOpen before := by
  rw [terminalKept_iff_changed run]
  cases write with
  | commands write =>
    rcases isChange : write.bookingChange with _ | change
    · apply iff_of_true
      · intro id booking _ _
        rw [changedBooking, Commands.Write.changedBooking, isChange]
      · intro change member
        rw [isChange] at member
        cases member
    · have sets (id : String) (booking : Booking) :
          ((commands write).changedBooking id booking).status =
            if id ∈ [change.booking.id] then change.update.status.getD booking.status
            else booking.status := by
        rw [changedBooking, Commands.Write.changedBooking, isChange]
        by_cases isChanged : change.booking.id = id
        · simp [isChanged, Commands.BookingUpdate.apply]
        · simp [isChanged, Ne.symm isChanged]
      rw [sets_iff_open sets]
      simp [FindsOpen, isChange]
  | enqueue | create | recordEvents => exact iff_of_true (fun _ _ _ _ => rfl) trivial
  | update target patch =>
    have sets (id : String) (booking : Booking) :
        ((update target patch).changedBooking id booking).status =
          if id ∈ [target] then (patch.status.map BookingStatus.text).getD booking.status
          else booking.status := by
      rw [changedBooking]
      split <;> rfl
    rw [sets_iff_open sets, forall_text_iff]
    simp [FindsOpen]
  | updateMany ids patch =>
    have sets (id : String) (booking : Booking) :
        ((updateMany ids patch).changedBooking id booking).status =
          if id ∈ ids then (patch.status.map BookingStatus.text).getD booking.status
          else booking.status := by
      rw [changedBooking]
      split <;> rfl
    rw [sets_iff_open sets, forall_text_iff]
    rfl

end

/-- Whatever the writers do and in whatever order, bookings in a terminal status stay in
it exactly when every transaction that sets the status of a booking finds it open, or in
that status, when it commits. -/
theorem bookingsKept_iff_findsOpen {store : Store} {state : BookingState}
    (reachable : state.Reachable store) :
    (∀ commit ∈ state.shared.commits, commit.before.TerminalKept commit.after) ↔
      ∀ commit ∈ state.shared.commits, commit.label.FindsOpen commit.before := by
  apply forall₂_congr
  intro commit member
  rcases ReadCommitted.Reachable.commit_run BookingWrite.guarded reachable commit member with
    ⟨result, run⟩
  exact BookingWrite.terminalKept_iff run

namespace Sample

def reservation (id : String) (reservationId createdAt : Int) : NewBooking where
  id := id
  userId := "user"
  stationId := "station"
  chargePointId := "cp"
  reservationId := reservationId
  reservationSource := "LOCAL"
  startTime := 0
  endTime := 1000
  customerRefSnapshot := none
  createdAt := createdAt

def command : Commands.Command :=
  { Commands.Sample.command with
    commandType := "ReserveNow"
    status := "Sent"
    payload := .object (numbered 7) }

def store : Store where
  commands :=
    { commands := ⟨[command], by decide⟩
      commandOutbox := Table.empty
      commandEvents := []
      bookings := ⟨[(reservation "booking" 7 0).booking], by decide⟩
      bookingEvents := [] }
  details := ⟨[(reservation "booking" 7 0).details], by decide⟩
  events := []
  chargePoints := []
  users := []

def call : BookingCall where
  bookingId := "new"
  now := 2000
  createdAt := 2000
  commandUpdatedAt := 2000
  enqueue :=
    { firmwareCommandsEnabled := false, context := none, now := 2000, commandId := "new"
      outboxId := "new" }

def rejected : Commands.DomainEvent where
  eventType := "CommandRejected"
  correlationId := some "cmd"
  occurredAt := 3000
  payload := JsRecord.empty

def after (events : List (DatabaseEvent BookingRequest)) : Option BookingState :=
  events.foldlM (ReadCommitted.next BookingWrite.body BookingRequest.program Conditions.none)
    (ReadCommitted.initial store)

def swept : List (DatabaseEvent BookingRequest) :=
  [.arrive (.expireOverdue call), .query 0, .begin 0, .statement 0, .commit 0, .begin 0,
    .statement 0, .commit 0]

def replied : List (DatabaseEvent BookingRequest) :=
  [.arrive (.commands (.domainEvent Commands.Sample.engine rejected)), .query 1, .query 1, .query 1,
    .begin 1, .statement 1, .statement 1, .statement 1, .statement 1, .commit 1]

end Sample

/-- The sweep finds the booking pending. -/
theorem bookingsKept_iff_findsOpen_swept : ∃ state : BookingState,
      (state.shared.store.booking? "booking").map Booking.status = some "EXPIRED" ∧
        ((∀ commit ∈ state.shared.commits, commit.before.TerminalKept commit.after) ↔
          ∀ commit ∈ state.shared.commits, commit.label.FindsOpen commit.before) := by
  have run : (Sample.after Sample.swept).map (fun state =>
      (state.shared.store.booking? "booking").map Booking.status) = some (some "EXPIRED") := by
    decide +kernel
  rcases Option.map_eq_some_iff.mp run with ⟨state, reached, status⟩
  exact ⟨state, status, bookingsKept_iff_findsOpen (Transition.reachable_of_foldlM reached)⟩

/-- The charge point rejects the reservation after the booking has expired: the expired
booking is cancelled. -/
theorem late_reply_cancels : ∃ state : BookingState, state.Reachable Sample.store ∧
      ∃ commit ∈ state.shared.commits,
        (commit.before.booking? "booking").map Booking.status = some "EXPIRED" ∧
          (commit.after.booking? "booking").map Booking.status = some "CANCELLED" := by
  have run : (Sample.after (Sample.swept ++ Sample.replied)).bind
      (fun state => (state.shared.commits.getLast?).map fun commit =>
        ((commit.before.booking? "booking").map Booking.status,
          (commit.after.booking? "booking").map Booking.status)) =
        some (some "EXPIRED", some "CANCELLED") := by
    decide +kernel
  rcases Option.bind_eq_some_iff.mp run with ⟨state, reached, last⟩
  rcases Option.map_eq_some_iff.mp last with ⟨commit, isLast, statuses⟩
  rcases Prod.mk.inj statuses with ⟨before, later⟩
  exact ⟨state, Transition.reachable_of_foldlM reached, commit, List.mem_of_getLast? isLast, before,
    later⟩

end Csms.Bookings
