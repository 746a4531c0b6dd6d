import Csms.Commands.Writes

/-!
# What the writes of commands do

Each transaction updates at most one command and appends rows to the history.
-/

namespace Csms.Commands

open Database

namespace Write

/-- The command that a transaction updates, with the columns it sets. -/
def commandUpdate : Write → Option (String × CommandUpdate)
  | claim .. => none
  | markSent _ commandId now =>
    some (commandId,
      { status := some CommandStatus.sent.text, sentAt := some now, error := some none })
  | markConfirmed _ commandId providerCommandId now =>
    some (commandId,
      { status := some "Confirmed", sentAt := some now, completedAt := some (some now)
        providerCommandId := some providerCommandId, resultCode := some none
        error := some none })
  | scheduleRetry .. => none
  | markDeadLettered _ commandId message now =>
    some (commandId,
      { status := some CommandStatus.failed.text, completedAt := some (some now)
        error := some (some message) })
  | reconcileEvent report => some (report.commandId, report.commandUpdate)
  | recordResult report => some (report.commandId, report.commandUpdate)
  | annotateCallback commandId payload => some (commandId, { payload := some payload })

/-- The history rows that a transaction appends. -/
def commandEvents : Write → List CommandEvent
  | claim .. => []
  | markSent _ commandId now => [⟨commandId, CommandStatus.sent.text, now⟩]
  | markConfirmed _ commandId _ now =>
    [⟨commandId, CommandStatus.sent.text, now⟩, ⟨commandId, "Confirmed", now⟩]
  | scheduleRetry _ commandId _ now => [⟨commandId, "RetryScheduled", now⟩]
  | markDeadLettered _ commandId _ now => [⟨commandId, "DeadLettered", now⟩]
  | reconcileEvent report => [report.commandEvent]
  | recordResult report => [report.commandEvent]
  | annotateCallback .. => []

/-- What becomes of the row of a command. -/
def change (write : Write) (id : String) (command : Command) : Command :=
  match write.commandUpdate with
  | some (commandId, update) => if id = commandId then update.apply command else command
  | none => command

section Change

variable {write : Write} {commandId : String} {update : CommandUpdate}

theorem change_of_ne (updates : write.commandUpdate = some (commandId, update)) {id : String}
    (other : id ≠ commandId) (command : Command) : write.change id command = command := by
  rw [change, updates]
  exact if_neg other

theorem status_change (updates : write.commandUpdate = some (commandId, update))
    {status : String} (sets : update.status = some status) (command : Command) :
    (write.change commandId command).status = status := by
  rw [change, updates]
  simp only [if_true, CommandUpdate.apply, sets, Option.getD_some]

/-- Without a status in the update, the command keeps its own. -/
theorem status_change_of_none
    (keeps : ∀ commandId update, write.commandUpdate = some (commandId, update) →
      update.status = none) (id : String) (command : Command) :
    (write.change id command).status = command.status := by
  rw [change]
  split
  · rename_i commandId update updates
    split
    · simp only [CommandUpdate.apply, keeps commandId update updates, Option.getD_none]
    · rfl
  · rfl

end Change

end Write

/-- What a transaction does to commands and their history. -/
structure Effect (write : Write) (before after : Store) : Prop where
  command? : ∀ id, after.command? id = (before.command? id).map (write.change id)
  commandEvents : after.commandEvents = before.commandEvents ++ write.commandEvents

section Statements

variable {α : Type} {store : Store} {rest : CommandTx α} {outcome : Store × α}

def Store.withCommand (store : Store) (id : String) (update : CommandUpdate) : Store :=
  Store.commandTable.update id update.apply update.id_apply store

theorem Store.command?_withCommand (store : Store) (id : String) (update : CommandUpdate)
    (wanted : String) : (store.withCommand id update).command? wanted =
      (store.command? wanted).map fun command =>
        if wanted = id then update.apply command else command := by
  have found := Store.commandTable.find?_update id update.apply update.id_apply store wanted
  refine found.trans ?_
  by_cases isWanted : wanted = id
  · subst isWanted
    simp only [if_true]
    rfl
  · simp only [isWanted, if_false, Option.map_id']
    rfl

theorem run_updateCommand_eq_some_iff {id : String} {update : CommandUpdate} :
    (updateCommand id update rest).run store = some outcome ↔
      (store.command? id).isSome = true ∧ rest.run (store.withCommand id update) = some outcome := by
  rw [updateCommand, Tx.run_updateRow_eq_some_iff, Option.isSome_iff_exists]
  constructor
  · rintro ⟨command, found, run⟩
    exact ⟨⟨command, found⟩, run⟩
  · rintro ⟨⟨command, found⟩, run⟩
    exact ⟨command, found, run⟩

theorem run_createCommandEvent (event : CommandEvent) : (createCommandEvent event rest).run store =
      rest.run { store with commandEvents := store.commandEvents ++ [event] } :=
  rfl

theorem run_createBookingEvent (event : BookingEvent) : (createBookingEvent event rest).run store =
      rest.run { store with bookingEvents := store.bookingEvents ++ [event] } :=
  rfl

end Statements

variable {report : StatusReport}

/-- A report is written when its command and its booking exist. -/
theorem StatusReport.run_write_eq_some_iff {store after : Store} :
    report.write.run store = some (after, ()) ↔ (store.command? report.commandId).isSome = true ∧
        (∀ change, report.booking = some change →
          (Store.bookingTable.find? change.booking.id store).isSome = true) ∧ after =
          { store.withCommand report.commandId report.commandUpdate with
            commandEvents := store.commandEvents ++ [report.commandEvent]
            bookings :=
              match report.booking with
              | none => store.bookings
              | some change =>
                store.bookings.updateWhere (fun booking => booking.id = change.booking.id)
                  change.update.apply change.update.id_apply
            bookingEvents :=
              match report.booking with
              | none => store.bookingEvents
              | some change => store.bookingEvents ++ [change.event] } := by
  rw [write, run_updateCommand_eq_some_iff, run_createCommandEvent]
  apply and_congr_right
  intro _
  cases booking : report.booking with
  | none =>
    simp only [Tx.run_commit, Option.some.injEq, Prod.mk.injEq, and_true, reduceCtorEq,
      IsEmpty.forall_iff, implies_true, true_and]
    exact eq_comm
  | some change =>
    simp only [updateBooking, Tx.run_updateRow_eq_some_iff, run_createBookingEvent,
      Tx.run_commit, Option.some.injEq, Prod.mk.injEq, and_true, forall_eq']
    rw [Option.isSome_iff_exists, exists_and_right]
    exact and_congr_right fun _ => eq_comm

variable {before after : Store}

theorem StatusReport.effect_of_run (run : report.write.run before = some (after, ())) :
    Effect (.reconcileEvent report) before after := by
  obtain ⟨_, _, rfl⟩ := run_write_eq_some_iff.mp run
  exact ⟨Store.command?_withCommand before report.commandId report.commandUpdate, rfl⟩

theorem effect_of_run_claim {outboxId : String} {staleTime now : Int} {found : Bool}
    (run : (claim outboxId staleTime now).run before = some (after, found)) :
    Effect (.claim outboxId staleTime now) before after := by
  rw [claim, Tx.run_write_eq_some_iff] at run
  obtain ⟨_, run⟩ := run
  have unchanged : after.command? = before.command? ∧ after.commandEvents = before.commandEvents := by
    split at run
    · rcases Tx.run_updateRow_eq_some_iff.mp run with ⟨_, _, run⟩
      cases run
      exact ⟨rfl, rfl⟩
    · cases run
      exact ⟨rfl, rfl⟩
  constructor
  · intro id
    rw [unchanged.1]
    exact Option.map_id'.symm
  · rw [unchanged.2]
    exact (List.append_nil _).symm

/-- Every transaction does what its update and its history rows say. -/
theorem Write.effect_of_run {write : Write} {result : write.Result}
    (run : write.body.run before = some (after, result)) : Effect write before after := by
  cases write with
  | claim outboxId staleTime now => exact effect_of_run_claim run
  | markSent | markDeadLettered =>
    rcases Tx.run_updateRow_eq_some_iff.mp run with ⟨_, _, run⟩
    rcases run_updateCommand_eq_some_iff.mp run with ⟨_, run⟩
    cases run
    exact ⟨Store.command?_withCommand _ _ _, rfl⟩
  | markConfirmed outboxId commandId providerCommandId now =>
    rcases Tx.run_updateRow_eq_some_iff.mp run with ⟨_, _, run⟩
    rcases run_updateCommand_eq_some_iff.mp run with ⟨_, run⟩
    cases run
    exact ⟨Store.command?_withCommand _ _ _, List.append_assoc _ _ _⟩
  | scheduleRetry outboxId commandId message now =>
    rcases Tx.run_updateRow_eq_some_iff.mp run with ⟨_, _, run⟩
    cases run
    exact ⟨fun id => Option.map_id'.symm, rfl⟩
  | reconcileEvent report => exact report.effect_of_run run
  | recordResult report =>
    have effect := report.effect_of_run run
    exact ⟨effect.command?, effect.commandEvents⟩
  | annotateCallback commandId payload =>
    rcases run_updateCommand_eq_some_iff.mp run with ⟨_, run⟩
    cases run
    exact ⟨Store.command?_withCommand _ _ _, (List.append_nil _).symm⟩

/-! ## What the writes of commands do to bookings

A report on a reservation command updates at most one booking and appends a row to its
history; no other transaction reaches bookings.
-/

/-- The booking that a transaction updates, and how. -/
def Write.bookingChange : Write → Option BookingChange
  | reconcileEvent report | recordResult report => report.booking
  | _ => none

/-- What becomes of the row of a booking. -/
def Write.changedBooking (write : Write) (id : String) (booking : Booking) : Booking :=
  match write.bookingChange with
  | some change => if change.booking.id = id then change.update.apply booking else booking
  | none => booking

/-- What a transaction does to bookings and their history. -/
structure BookingEffect (write : Write) (before after : Store) : Prop where
  bookings : ∀ id, after.bookings.find? id = (before.bookings.find? id).map (write.changedBooking id)
  bookingEvents : after.bookingEvents =
    before.bookingEvents ++ (write.bookingChange.map BookingChange.event).toList

theorem BookingEffect.of_unchanged {write : Write} (none : write.bookingChange = none)
    (bookings : after.bookings = before.bookings)
    (bookingEvents : after.bookingEvents = before.bookingEvents) :
    BookingEffect write before after where
  bookings := by
    intro id
    have same : write.changedBooking id = fun booking => booking := by
      funext booking
      rw [Write.changedBooking, none]
    rw [bookings, same]
    exact Option.map_id'.symm
  bookingEvents := by
    rw [bookingEvents, none]
    exact (List.append_nil _).symm

theorem StatusReport.bookingEffect_of_run (run : report.write.run before = some (after, ())) :
    BookingEffect (.reconcileEvent report) before after := by
  obtain ⟨_, _, rfl⟩ := run_write_eq_some_iff.mp run
  rcases isChange : report.booking with _ | change
  · exact .of_unchanged isChange rfl rfl
  · have isBookingChange : (Write.reconcileEvent report).bookingChange = some change := isChange
    constructor
    · intro id
      simp only
      rw [Table.find?_updateWhere]
      rcases found : before.bookings.find? id with _ | booking
      · rfl
      · rw [Option.map_some, Option.map_some, (Table.find?_eq_some_iff.mp found).2,
          Write.changedBooking, isBookingChange]
        by_cases isChanged : change.booking.id = id
        · simp [isChanged]
        · simp [isChanged, Ne.symm isChanged]
    · simp only [isBookingChange]
      rfl

theorem bookingEffect_of_run_claim {outboxId : String} {staleTime now : Int} {found : Bool}
    (run : (claim outboxId staleTime now).run before = some (after, found)) :
    BookingEffect (.claim outboxId staleTime now) before after := by
  rw [claim, Tx.run_write_eq_some_iff] at run
  rcases run with ⟨_, run⟩
  split at run
  · rcases Tx.run_updateRow_eq_some_iff.mp run with ⟨_, _, run⟩
    cases run
    exact .of_unchanged rfl rfl rfl
  · cases run
    exact .of_unchanged rfl rfl rfl

/-- Every transaction does to bookings what its change says. -/
theorem Write.bookingEffect_of_run {write : Write} {result : write.Result}
    (run : write.body.run before = some (after, result)) : BookingEffect write before after := by
  cases write with
  | claim outboxId staleTime now => exact bookingEffect_of_run_claim run
  | markSent | markConfirmed | markDeadLettered =>
    rcases Tx.run_updateRow_eq_some_iff.mp run with ⟨_, _, run⟩
    rcases run_updateCommand_eq_some_iff.mp run with ⟨_, run⟩
    cases run
    exact .of_unchanged rfl rfl rfl
  | scheduleRetry outboxId commandId message now =>
    rcases Tx.run_updateRow_eq_some_iff.mp run with ⟨_, _, run⟩
    cases run
    exact .of_unchanged rfl rfl rfl
  | reconcileEvent report => exact report.bookingEffect_of_run run
  | recordResult report =>
    have effect := report.bookingEffect_of_run run
    exact ⟨effect.bookings, effect.bookingEvents⟩
  | annotateCallback commandId payload =>
    rcases run_updateCommand_eq_some_iff.mp run with ⟨_, run⟩
    cases run
    exact .of_unchanged rfl rfl rfl

end Csms.Commands
