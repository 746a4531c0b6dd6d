import Csms.Commands.Consumer
import Csms.Commands.Effects

/-!
# Replayed gateway events

The consumer processes events one after another, and between them the delivery of
callbacks notes its attempts in payloads.  Whatever the order of the events, the
rank of a command's status never decreases, and an event that was processed once
is without effect from then on: its history row stays, and so does a status that
ignores it.
-/

namespace Csms.Commands

open Database Js

inductive ConsumerStep where
  | event (event : DomainEvent)
  | annotateCallback (commandId : String) (patch : List (String × JsValue))

/-- The store that a request leaves when no other runs. -/
def Store.afterAlone {α : Type} (store : Store) (request : Dispatch α) : Store :=
  (request.alone (fun write : Write => write.body.run) store).1

theorem Store.afterAlone_execute {write : Write} {store after : Store} {result : write.Result}
    (run : write.body.run store = some (after, result)) :
    store.afterAlone (execute write) = after :=
  congrArg Prod.fst (alone_commit (fun write : Write => write.body.run) run)

def Store.afterConsumer (engine : Engine) (store : Store) : ConsumerStep → Store
  | .event event => store.afterAlone (Consumer.reconcileEvent engine event)
  | .annotateCallback commandId patch =>
    store.afterAlone (Consumer.annotateCommandCallback commandId patch)

/-- A status stays, or is left for the one the worker resolves a report to. -/
inductive StatusStep (before : String) : String → Prop
  | stay : StatusStep before before
  | report (candidate next : CommandStatus) :
      resolveNextStatus before candidate = some next → StatusStep before next.text

theorem StatusStep.rankKept {before after : String} (step : StatusStep before after) :
    RankKept before after := by
  cases step with
  | stay => exact RankKept.refl before
  | report candidate next resolved => exact rankKept_of_resolveNextStatus resolved

theorem Ignores.of_statusStep {before after : String} {candidate : CommandStatus}
    (ignores : Ignores before candidate) (step : StatusStep before after) :
    Ignores after candidate := by
  cases step with
  | stay => exact ignores
  | report other next resolved => exact ignores.of_resolveNextStatus resolved

/-- Statuses move as the worker resolves them, no command appears or disappears,
and the history grows. -/
structure Store.Evolves (before after : Store) : Prop where
  command? : ∀ id, Option.Rel (fun old new => StatusStep old.status new.status)
    (before.command? id) (after.command? id)
  commandEvents : before.commandEvents ⊆ after.commandEvents

theorem Store.Evolves.refl (store : Store) : store.Evolves store where
  command? := by
    intro id
    cases store.command? id with
    | none => exact .none
    | some command => exact .some .stay
  commandEvents := List.Subset.refl _

/-- A transaction whose update resolves a report, or leaves the status alone. -/
theorem Effect.evolves {write : Write} {before after : Store} (effect : Effect write before after)
    (resolves : ∀ id command, before.command? id = some command →
      StatusStep command.status (write.change id command).status) : before.Evolves after where
  command? := by
    intro id
    rw [effect.command?]
    cases found : before.command? id with
    | none => exact .none
    | some command => exact .some (resolves id command found)
  commandEvents := by
    rw [effect.commandEvents]
    exact List.subset_append_left _ _

/-- The consumer has nothing to do about this event. -/
def Store.Handled (store : Store) (event : DomainEvent) : Prop :=
  ∀ commandId, orText event.correlationId none = some commandId →
    ∀ mappedStatus, mapEventTypeToCommandStatus event.eventType = some mappedStatus →
      ∀ command, store.command? commandId = some command →
        ⟨commandId, mappedStatus.text, event.occurredAt⟩ ∈ store.commandEvents ∨
          Ignores command.status mappedStatus

/-- Nothing that the consumer does brings an event back. -/
theorem Store.Handled.of_evolves {before after : Store} {event : DomainEvent}
    (handled : before.Handled event) (evolves : before.Evolves after) : after.Handled event := by
  intro commandId isId mappedStatus isMapped command found
  have related := evolves.command? commandId
  rw [found] at related
  generalize wasFound : before.command? commandId = old at related
  cases related with
  | some step =>
    rcases handled commandId isId mappedStatus isMapped _ wasFound with recorded | ignores
    · exact Or.inl (evolves.commandEvents recorded)
    · exact Or.inr (ignores.of_statusStep step)

section Events

variable (engine : Engine) {store : Store} {event : DomainEvent}

theorem id_of_command? {id : String} {command : Command} (found : store.command? id = some command) :
    command.id = id :=
  (Table.find?_eq_some_iff.mp found).2

theorem hasCommandEvent_iff {row : CommandEvent} :
    store.hasCommandEvent row = true ↔ row ∈ store.commandEvents := by
  rw [Store.hasCommandEvent, List.contains_iff_mem]

theorem exists_alone_findReservationBooking_bind {α : Type} (store : Store) (commandType : String)
    (reservationId : Option Int) (next : Option Booking → Dispatch α) : ∃ booking : Option Booking,
      (∀ found, booking = some found → Store.bookingTable.find? found.id store = some found) ∧
        store.afterAlone (findReservationBooking commandType reservationId >>= next) =
          store.afterAlone (next booking) := by
  unfold findReservationBooking
  split
  · cases reservationId with
    | none => exact ⟨none, by simp, rfl⟩
    | some reservationId =>
      refine ⟨store.bookingOf reservationId, ?_, rfl⟩
      intro booking found
      have member := List.mem_of_mem_filter (mem_of_newestOf found)
      exact Table.find?_eq_some_iff.mpr ⟨member, rfl⟩
  · exact ⟨none, by simp, rfl⟩

/-- What the consumer makes of an event, in cases. -/
inductive Store.Consumes (store : Store) (event : DomainEvent) : Store → Prop
  | skipped : store.Handled event → store.Consumes event store
  | applied (mappedStatus : CommandStatus) (command : Command) (booking : Option Booking)
      (after : Store) :
      orText event.correlationId none = some command.id →
      mapEventTypeToCommandStatus event.eventType = some mappedStatus →
      store.command? command.id = some command →
      ¬ (command.status = mappedStatus.text ∧ mappedStatus.isTerminalStatus = true) →
      ⟨command.id, mappedStatus.text, event.occurredAt⟩ ∉ store.commandEvents →
      resolveNextStatus command.status mappedStatus = some mappedStatus →
      (Consumer.report command event mappedStatus booking).write.run store = some (after, ()) →
      store.Consumes event after

theorem consumes_reconcileCommand {command : Command} {mappedStatus : CommandStatus}
    (isId : orText event.correlationId none = some command.id)
    (isMapped : mapEventTypeToCommandStatus event.eventType = some mappedStatus)
    (found : store.command? command.id = some command) : store.Consumes event
      (store.afterAlone (Consumer.reconcileCommand engine event mappedStatus command)) := by
  have handled_of (reason : ⟨command.id, mappedStatus.text, event.occurredAt⟩ ∈
      store.commandEvents ∨ Ignores command.status mappedStatus) : store.Handled event := by
    intro otherId isOtherId other isOther otherCommand otherFound
    obtain rfl := Option.some.inj (isId.symm.trans isOtherId)
    obtain rfl := Option.some.inj (isMapped.symm.trans isOther)
    obtain rfl := Option.some.inj (found.symm.trans otherFound)
    exact reason
  rw [Consumer.reconcileCommand]
  split
  · rename_i same
    refine .skipped (handled_of (Or.inr ⟨mappedStatus, ?_, Or.inl same.2⟩))
    rw [same.1, CommandStatus.ofText?_text]
  · rename_i differs
    rw [Store.afterAlone, findCommandEvent, alone_read_bind]
    by_cases recorded : ⟨command.id, mappedStatus.text, event.occurredAt⟩ ∈ store.commandEvents
    · rw [if_pos (hasCommandEvent_iff.mpr recorded)]
      exact .skipped (handled_of (Or.inl recorded))
    · rw [if_neg (mt hasCommandEvent_iff.mp recorded)]
      cases resolved : resolveNextStatus command.status mappedStatus with
      | none =>
        exact .skipped (handled_of (Or.inr (ignores_of_resolveNextStatus_eq_none resolved)))
      | some nextStatus =>
        obtain rfl := eq_of_resolveNextStatus resolved
        rcases exists_alone_findReservationBooking_bind store command.commandType
          (Worker.extractReservationId engine (ensureObject command.payload))
          (fun booking => do
            let _ ← execute (.reconcileEvent (Consumer.report command event nextStatus booking))
            return Consumer.reconciled command event nextStatus nextStatus)
          with ⟨booking, bookingFound, read⟩
        have written : ∃ after,
            (Consumer.report command event nextStatus booking).write.run store =
              some (after, ()) := by
          refine ⟨_, StatusReport.run_write_eq_some_iff.mpr ⟨?_, ?_, rfl⟩⟩
          · exact Option.isSome_iff_exists.mpr ⟨command, found⟩
          · intro change isChange
            rcases Option.map_eq_some_iff.mp isChange with ⟨row, isRow, rfl⟩
            exact Option.isSome_iff_exists.mpr ⟨row, bookingFound row isRow⟩
        rcases written with ⟨after, run⟩
        have consumes : store.Consumes event after :=
          .applied nextStatus command booking after isId isMapped found differs recorded resolved
            run
        have ended := read.trans (congrArg Prod.fst
          (alone_commit_bind (fun write : Write => write.body.run) run))
        change _ = after at ended
        rwa [← ended] at consumes

variable (store event) in
/-- The consumer does with each event what the cases say. -/
theorem consumes_afterConsumer :
    store.Consumes event (store.afterConsumer engine (.event event)) := by
  have handled_of (nothing : ∀ commandId, orText event.correlationId none = some commandId →
      ∀ mappedStatus, mapEventTypeToCommandStatus event.eventType = some mappedStatus →
        store.command? commandId = none) : store.Handled event := by
    intro commandId isId mappedStatus isMapped command found
    rw [nothing commandId isId mappedStatus isMapped] at found
    contradiction
  rw [Store.afterConsumer, Consumer.reconcileEvent]
  cases isId : orText event.correlationId none with
  | none => exact .skipped (handled_of (by simp [isId]))
  | some commandId =>
    cases isMapped : mapEventTypeToCommandStatus event.eventType with
    | none => exact .skipped (handled_of (by simp [isMapped]))
    | some mappedStatus =>
      dsimp only
      rw [Store.afterAlone, findCommand, alone_read_bind]
      cases found : store.command? commandId with
      | none =>
        refine .skipped (handled_of ?_)
        intro otherId isOther _ _
        obtain rfl := Option.some.inj (isId.symm.trans isOther)
        exact found
      | some command =>
        obtain rfl := id_of_command? found
        exact consumes_reconcileCommand engine isId isMapped found

theorem Store.Handled.afterConsumer_eq (handled : store.Handled event) :
    store.afterConsumer engine (.event event) = store := by
  have consumes := consumes_afterConsumer engine store event
  generalize store.afterConsumer engine (.event event) = after at consumes
  cases consumes with
  | skipped _ => rfl
  | applied mappedStatus command booking after isId isMapped found differs fresh resolved run =>
    rcases handled command.id isId mappedStatus isMapped command found with recorded | ignores
    · exact absurd recorded fresh
    · rcases ignores.turned_down with turnedDown | same
      · rw [turnedDown] at resolved
        contradiction
      · exact absurd same differs

theorem handled_afterConsumer : (store.afterConsumer engine (.event event)).Handled event := by
  have consumes := consumes_afterConsumer engine store event
  generalize store.afterConsumer engine (.event event) = after at consumes
  cases consumes with
  | skipped handled => exact handled
  | applied mappedStatus command booking after isId isMapped found differs fresh resolved run =>
    intro otherId isOtherId other isOther _ _
    obtain rfl := Option.some.inj (isId.symm.trans isOtherId)
    obtain rfl := Option.some.inj (isMapped.symm.trans isOther)
    left
    rw [(StatusReport.effect_of_run run).commandEvents]
    exact List.mem_append_right _ (List.mem_singleton_self _)

/-- An event moves statuses as the worker resolves them. -/
theorem evolves_afterConsumer_event :
    store.Evolves (store.afterConsumer engine (.event event)) := by
  have consumes := consumes_afterConsumer engine store event
  generalize store.afterConsumer engine (.event event) = after at consumes
  cases consumes with
  | skipped _ => exact Store.Evolves.refl store
  | applied mappedStatus command booking after isId isMapped found differs fresh resolved run =>
    apply (StatusReport.effect_of_run run).evolves
    intro id old wasFound
    by_cases isReported : id = command.id
    · subst isReported
      obtain rfl := Option.some.inj (found.symm.trans wasFound)
      rw [Write.status_change rfl rfl]
      exact .report mappedStatus mappedStatus resolved
    · rw [Write.change_of_ne rfl isReported]
      exact .stay

/-- The notes of a delivery move no status. -/
theorem evolves_afterConsumer_annotateCallback (commandId : String)
    (patch : List (String × JsValue)) :
    store.Evolves (store.afterConsumer engine (.annotateCallback commandId patch)) := by
  rw [Store.afterConsumer, Consumer.annotateCommandCallback, Store.afterAlone, findCommand,
    alone_read_bind]
  cases found : store.command? commandId with
  | none => exact Store.Evolves.refl store
  | some command =>
    have written : ∃ after, (Write.annotateCallback commandId
        (withOcpi (ensureObject command.payload) patch)).body.run store = some (after, ()) :=
      ⟨_, run_updateCommand_eq_some_iff.mpr ⟨Option.isSome_iff_exists.mpr ⟨command, found⟩, rfl⟩⟩
    rcases written with ⟨after, run⟩
    have evolves : store.Evolves after := by
      apply (Write.effect_of_run run).evolves
      intro id old _
      rw [Write.status_change_of_none]
      · exact .stay
      · rintro _ _ ⟨rfl⟩
        rfl
    have ended := Store.afterAlone_execute run
    rwa [← ended] at evolves

end Events

theorem evolves_afterConsumer (engine : Engine) (store : Store) (step : ConsumerStep) :
    store.Evolves (store.afterConsumer engine step) := by
  cases step with
  | event event => exact evolves_afterConsumer_event engine
  | annotateCallback commandId patch =>
    exact evolves_afterConsumer_annotateCallback engine commandId patch

/-- The rank of no command's status decreases, and no command disappears. -/
def Store.RanksKept (before after : Store) : Prop :=
  ∀ id command, before.command? id = some command →
    ∃ later, after.command? id = some later ∧ RankKept command.status later.status

theorem Store.Evolves.ranksKept {before after : Store} (evolves : before.Evolves after) :
    before.RanksKept after := by
  intro id command found
  have related := evolves.command? id
  rw [found] at related
  generalize isLater : after.command? id = new at related
  cases related with
  | some step => exact ⟨_, rfl, step.rankKept⟩

theorem Store.RanksKept.trans {first second third : Store} (left : first.RanksKept second)
    (right : second.RanksKept third) : first.RanksKept third := by
  intro id command found
  rcases left id command found with ⟨middle, middleFound, leftKept⟩
  rcases right id middle middleFound with ⟨later, laterFound, rightKept⟩
  exact ⟨later, laterFound, leftKept.trans rightKept⟩

theorem Store.Handled.final {engine : Engine} {store : Store} {event : DomainEvent}
    (handled : store.Handled event) (steps : List ConsumerStep) :
    (Transition.final (Store.afterConsumer engine) store steps).Handled event := by
  have always : ∀ reached ∈ Transition.states (Store.afterConsumer engine) store steps,
      reached.Handled event := by
    apply Transition.forall_mem_states
    · intro reached step before
      exact before.of_evolves (evolves_afterConsumer engine reached step)
    · exact handled
  exact always _ (Transition.final_mem_states _ store steps)

/-- An event of a run is handled at its end. -/
theorem handled_final {engine : Engine} {store : Store} {steps : List ConsumerStep}
    {event : DomainEvent} (processed : .event event ∈ steps) :
    (Transition.final (Store.afterConsumer engine) store steps).Handled event := by
  induction steps generalizing store with
  | nil => contradiction
  | cons step steps ih =>
    rcases List.mem_cons.mp processed with rfl | later
    · exact (handled_afterConsumer engine).final steps
    · exact ih later

/-- The rank of a command's status never decreases, and an event that was
processed can be processed again at any later time without any change. -/
theorem ranksKept_and_replay_unchanged (engine : Engine) (store : Store)
    (steps : List ConsumerStep) :
    (Transition.states (Store.afterConsumer engine) store steps).Pairwise Store.RanksKept ∧
      ∀ event, .event event ∈ steps →
        (Transition.final (Store.afterConsumer engine) store steps).afterConsumer engine
            (.event event) = Transition.final (Store.afterConsumer engine) store steps := by
  constructor
  · apply Transition.pairwise_states_of_stepsMeet
    · exact fun _ _ _ left right => left.trans right
    · induction steps generalizing store with
      | nil => trivial
      | cons step steps ih => exact ⟨(evolves_afterConsumer engine store step).ranksKept, ih _⟩
  · intro event processed
    exact (handled_final processed).afterConsumer_eq engine

end Csms.Commands
