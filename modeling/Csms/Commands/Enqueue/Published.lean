import Csms.Commands.Enqueue.Requests

/-!
# Every queued command is published

The worker finds a command only through its outbox row, which is created after
the command by a statement of its own.  A failure in between leaves a command in
status `Queued` that nobody will publish, and a request that is repeated is
answered with it; every other failure does no harm.
-/

namespace Csms.Commands

open Database Js

variable {id : Nat} {command : Command} {outbox : CommandOutbox}

section Rows

variable {store : Store} {state : EnqueueState}

section

variable (reachable : state.Reachable store)
include reachable

/-- The rows of the tables are those of the start and those of the commits. -/
theorem EnqueueState.Reachable.rows : state.shared.store.commands.rows =
        store.commands.rows ++ state.shared.commits.flatMap (fun commit => commit.label.commands) ∧
      state.shared.store.commandOutbox.rows =
        store.commandOutbox.rows ++
          state.shared.commits.flatMap (fun commit => commit.label.outboxes) := by
  apply ReadCommitted.Reachable.shared_invariant EnqueueWrite.guarded (fun shared =>
    shared.store.commands.rows =
        store.commands.rows ++ shared.commits.flatMap (fun commit => commit.label.commands) ∧
      shared.store.commandOutbox.rows =
        store.commandOutbox.rows ++
          shared.commits.flatMap (fun commit => commit.label.outboxes)) _ _ reachable
  · exact ⟨(List.append_nil _).symm, (List.append_nil _).symm⟩
  · rintro shared id write after result ⟨commands, outboxes⟩ run
    rcases EnqueueWrite.rows_of_run run with ⟨grownCommands, grownOutboxes⟩
    simp only [Shared.store_commit, Shared.commits_commit, List.flatMap_append,
      List.flatMap_singleton]
    rw [grownCommands, grownOutboxes, commands, outboxes, List.append_assoc, List.append_assoc]
    exact ⟨rfl, rfl⟩

theorem EnqueueState.Reachable.mem_commands
    (created : EnqueueWrite.createCommand command ∈ state.shared.labelsOf id) :
    command ∈ state.shared.store.commands.rows := by
  rcases Shared.mem_labelsOf.mp created with ⟨commit, member, _, isLabel⟩
  rw [reachable.rows.1]
  apply List.mem_append_right
  apply List.mem_flatMap_of_mem member
  rw [isLabel]
  exact List.mem_singleton_self command

/-- An outbox row of a commit is in the table. -/
theorem EnqueueState.Reachable.mem_outboxes
    (created : EnqueueWrite.createOutbox outbox ∈ state.shared.labelsOf id) :
    outbox ∈ state.shared.store.commandOutbox.rows := by
  rcases Shared.mem_labelsOf.mp created with ⟨commit, member, _, isLabel⟩
  rw [reachable.rows.2]
  apply List.mem_append_right
  apply List.mem_flatMap_of_mem member
  rw [isLabel]
  exact List.mem_singleton_self outbox

/-- A command is there from the start, or a session has created it. -/
theorem EnqueueState.Reachable.command_cases (member : command ∈ state.shared.store.commands.rows) :
    command ∈ store.commands.rows ∨
      ∃ id, EnqueueWrite.createCommand command ∈ state.shared.labelsOf id := by
  rw [reachable.rows.1, List.mem_append, List.mem_flatMap] at member
  rcases member with old | ⟨commit, isCommit, isCreated⟩
  · exact Or.inl old
  · refine Or.inr ⟨commit.session, Shared.mem_labelsOf.mpr ⟨commit, isCommit, rfl, ?_⟩⟩
    rcases label : commit.label with created | _ | _ <;> rw [label] at isCreated
    · rw [List.mem_singleton.mp isCreated]
    · contradiction
    · contradiction

/-- An outbox row is there from the start, or a session has created it. -/
theorem EnqueueState.Reachable.outbox_cases
    (member : outbox ∈ state.shared.store.commandOutbox.rows) : outbox ∈ store.commandOutbox.rows ∨
      ∃ id, EnqueueWrite.createOutbox outbox ∈ state.shared.labelsOf id := by
  rw [reachable.rows.2, List.mem_append, List.mem_flatMap] at member
  rcases member with old | ⟨commit, isCommit, isCreated⟩
  · exact Or.inl old
  · refine Or.inr ⟨commit.session, Shared.mem_labelsOf.mpr ⟨commit, isCommit, rfl, ?_⟩⟩
    rcases label : commit.label with _ | created | _ <;> rw [label] at isCreated
    · contradiction
    · rw [List.mem_singleton.mp isCreated]
    · contradiction

theorem EnqueueState.Reachable.nodup_created :
    (store.commands.rows.map (fun command => command.id) ++
      state.shared.commits.flatMap fun commit =>
        commit.label.commands.map fun command => command.id).Nodup := by
  have nodup := state.shared.store.commands.nodup
  rw [reachable.rows.1, List.map_append, List.map_flatMap] at nodup
  exact nodup

theorem EnqueueState.Reachable.creator_unique {first second : Nat} {left right : Command}
    (firstCreated : EnqueueWrite.createCommand left ∈ state.shared.labelsOf first)
    (secondCreated : EnqueueWrite.createCommand right ∈ state.shared.labelsOf second)
    (same : left.id = right.id) : first = second := by
  rcases Shared.mem_labelsOf.mp firstCreated with ⟨one, isOne, rfl, oneLabel⟩
  rcases Shared.mem_labelsOf.mp secondCreated with ⟨two, isTwo, rfl, twoLabel⟩
  have pairwise := (List.nodup_flatMap.mp (List.nodup_append.mp reachable.nodup_created).2.1).2
  by_contra apart
  have distinct : one ≠ two := fun isSame => apart (congrArg Commit.session isSame)
  have symmetric : Std.Symm (Function.onFun List.Disjoint
      fun commit : Commit Store EnqueueWrite =>
        commit.label.commands.map fun command => command.id) :=
    ⟨fun _ _ => List.Disjoint.symm⟩
  have disjoint := pairwise.forall isOne isTwo distinct
  apply disjoint (a := left.id)
  · simp [oneLabel, EnqueueWrite.commands]
  · simp [twoLabel, EnqueueWrite.commands, same]

theorem EnqueueState.Reachable.id_ne_of_created {command old : Command}
    (created : EnqueueWrite.createCommand command ∈ state.shared.labelsOf id)
    (isOld : old ∈ store.commands.rows) : old.id ≠ command.id := by
  rcases Shared.mem_labelsOf.mp created with ⟨commit, member, _, isLabel⟩
  apply (List.nodup_append.mp reachable.nodup_created).2.2
  · exact List.mem_map_of_mem isOld
  · apply List.mem_flatMap_of_mem member
    rw [isLabel]
    exact List.mem_singleton_self _

end

end Rows

namespace EnqueueRequest

variable {request : EnqueueRequest} {seen : Store → Prop} {labels : List EnqueueWrite}
  {last : Enqueue EnqueueAnswer}

theorem Stage.row_of_mem (stage : request.Stage seen labels last)
    (created : EnqueueWrite.createCommand command ∈ labels) : command = request.row := by
  cases stage <;> simp at created <;> exact created

theorem Stage.outbox_of_mem (stage : request.Stage seen labels last)
    (created : EnqueueWrite.createOutbox outbox ∈ labels) :
    outbox = request.outbox ∧ EnqueueWrite.createCommand request.row ∈ labels := by
  cases stage <;> simp at created <;> exact ⟨created, List.mem_cons_self⟩

theorem Stage.of_createOutbox {rest : Option Unit → Enqueue EnqueueAnswer}
    (stage : request.Stage seen labels (.transact (.createOutbox outbox) rest)) :
    outbox = request.outbox ∧ EnqueueWrite.createCommand request.row ∈ labels := by
  cases stage with
  | waiting _ apart | published _ apart => exact absurd rfl (apart outbox rest)
  | created => exact ⟨rfl, List.mem_cons_self⟩

end EnqueueRequest

section Sessions

variable {store : Store} {state : EnqueueState}

/-- No command is lost. -/
def Store.Grows (before after : Store) : Prop :=
  before.commands.rows ⊆ after.commands.rows

/-- The stage of a session; what it has seen is still there. -/
theorem EnqueueState.Reachable.stage (reachable : state.Reachable store)
    {connection : Connection Store Store.Lock EnqueueQuery EnqueueWrite (fun _ => Unit) HttpException EnqueueRequest EnqueueAnswer}
    (found : state.sessions[id]? = some connection) :
    ∃ last, connection.request.Stage (fun seen => seen.Grows state.shared.store)
        (state.shared.labelsOf id) last ∧
      ∀ current, connection.progress.abstract = some current → last = current := by
  have refl (store : Store) : store.Grows store := List.Subset.refl _
  have trans (first second third : Store) (left : first.Grows second)
      (right : second.Grows third) : first.Grows third :=
    List.Subset.trans left right
  have commits (write : EnqueueWrite) (before after : Store) (result : Unit)
      (run : write.body.run before = some (after, result)) : before.Grows after := by
    rw [Store.Grows, (EnqueueWrite.rows_of_run run).1]
    exact List.subset_append_left _ _
  rcases ReadCommitted.Reachable.executed EnqueueWrite.guarded refl trans commits reachable found
    with ⟨last, upTo, isLast⟩
  exact ⟨last, EnqueueRequest.stage_of_executed upTo, isLast⟩

end Sessions

/-- The worker can still publish the row, if not before its lock expires. -/
def IsPublishable (outbox : CommandOutbox) : Prop :=
  ∃ staleTime, isClaimable staleTime outbox = true

def Store.HasPublishable (store : Store) (commandId : String) : Prop :=
  ∃ outbox ∈ store.commandOutbox.rows, outbox.commandId = commandId ∧ IsPublishable outbox

/-- Every queued command can be published, and every outbox row is of a command. -/
structure Store.Sound (store : Store) : Prop where
  queued : ∀ command ∈ store.commands.rows, command.status = "Queued" →
    store.HasPublishable command.id
  foreignKey : ∀ outbox ∈ store.commandOutbox.rows,
    ∃ command ∈ store.commands.rows, command.id = outbox.commandId

namespace EnqueueState

variable (state : EnqueueState)

/-- A request that has not failed is about to create the outbox row of the command. -/
def AboutToPublish (commandId : String) : Prop :=
  ∃ connection ∈ state.sessions, ∃ outbox rest,
    connection.progress.abstract = some (.transact (.createOutbox outbox) rest) ∧
      outbox.commandId = commandId

def CanPublish (commandId : String) : Prop :=
  state.shared.store.HasPublishable commandId ∨ state.AboutToPublish commandId

/-- No queued command is without an outbox row, and no request is answered with one. -/
structure Published : Prop where
  queued : ∀ command ∈ state.shared.store.commands.rows, command.status = "Queued" →
    state.CanPublish command.id
  answered : ∀ connection ∈ state.sessions, ∀ response,
    connection.progress = .outside (.answer (.command response)) → response.status = "Queued" →
      state.CanPublish response.commandId

/-- The session has failed, by an exception or a crash, after it created its command
and before it created the outbox row. -/
def FailedBetween (id : Nat) : Prop :=
  (∃ connection, state.sessions[id]? = some connection ∧
    (connection.progress = .stopped ∨ ∃ error, connection.progress = .outside (.throw error))) ∧
  (∃ command, EnqueueWrite.createCommand command ∈ state.shared.labelsOf id) ∧
  ∀ outbox, EnqueueWrite.createOutbox outbox ∉ state.shared.labelsOf id

end EnqueueState

section Published

variable {store : Store} {state : EnqueueState}

theorem isPublishable_newOutbox (outboxId : String) (command : Command) :
    IsPublishable (newOutbox outboxId command) :=
  ⟨0, rfl⟩

theorem isPublishable_outbox (request : EnqueueRequest) : IsPublishable request.outbox := by
  cases request with
  | command call | vehicleCommand call => exact isPublishable_newOutbox call.outboxId _

theorem EnqueueState.Reachable.canPublish_of_created (reachable : state.Reachable store)
    (created : EnqueueWrite.createCommand command ∈ state.shared.labelsOf id)
    (notFailed : ¬ state.FailedBetween id) : state.CanPublish command.id := by
  rcases Shared.mem_labelsOf.mp created with ⟨commit, member, rfl, _⟩
  rcases ReadCommitted.Reachable.session_of_commit EnqueueWrite.guarded reachable member with
    ⟨connection, found⟩
  rcases reachable.stage found with ⟨last, stage, isLast⟩
  obtain rfl := stage.row_of_mem created
  by_cases published : ∃ outbox, EnqueueWrite.createOutbox outbox ∈
      state.shared.labelsOf commit.session
  · rcases published with ⟨outbox, isPublished⟩
    obtain ⟨rfl, _⟩ := stage.outbox_of_mem isPublished
    exact Or.inl ⟨_, reachable.mem_outboxes isPublished, connection.request.commandId_outbox,
      isPublishable_outbox connection.request⟩
  · -- it is at the next statement, or it has failed
    have absent : ∀ outbox, EnqueueWrite.createOutbox outbox ∉
        state.shared.labelsOf commit.session := fun outbox isPublished =>
      published ⟨outbox, isPublished⟩
    have running : ∃ current, connection.progress.abstract = some current := by
      by_contra stopped
      apply notFailed
      refine ⟨⟨connection, found, Or.inl ?_⟩, ⟨_, created⟩, absent⟩
      cases progress : connection.progress with
      | stopped => rfl
      | _ => exact absurd ⟨_, by rw [progress]; rfl⟩ stopped
    rcases running with ⟨current, isCurrent⟩
    obtain rfl := isLast current isCurrent
    generalize committed : state.shared.labelsOf commit.session = labels at *
    cases stage with
    | waiting => exact absurd created List.not_mem_nil
    | created rest =>
      exact Or.inr ⟨connection, List.mem_of_getElem? found, _, rest, isCurrent,
        connection.request.commandId_outbox⟩
    | failed error =>
      exfalso
      apply notFailed
      refine ⟨⟨connection, found, Or.inr ⟨error, ?_⟩⟩, ⟨_, committed ▸ created⟩,
        committed ▸ absent⟩
      cases progress : connection.progress <;> rw [progress] at isCurrent <;> cases isCurrent
      rfl
    | published | done => exact absurd (List.mem_cons_of_mem _ List.mem_cons_self) (absent _)

theorem EnqueueState.Reachable.hasPublishable (reachable : state.Reachable store)
    {commandId : String} (has : store.HasPublishable commandId) :
    state.shared.store.HasPublishable commandId := by
  rcases has with ⟨outbox, member, isCommand, publishable⟩
  refine ⟨outbox, ?_, isCommand, publishable⟩
  rw [reachable.rows.2]
  exact List.mem_append_left _ member

theorem EnqueueState.Reachable.not_canPublish_of_failedBetween (sound : store.Sound)
    (reachable : state.Reachable store)
    (created : EnqueueWrite.createCommand command ∈ state.shared.labelsOf id)
    (failed : state.FailedBetween id) : ¬ state.CanPublish command.id := by
  rcases failed with ⟨⟨connection, found, ended⟩, _, absent⟩
  rintro (⟨outbox, member, isCommand, _⟩ | ⟨other, isOther, outbox, rest, isCurrent, isCommand⟩)
  · rcases reachable.outbox_cases member with old | ⟨creator, isCreated⟩
    · rcases sound.foreignKey outbox old with ⟨before, isBefore, sameId⟩
      exact reachable.id_ne_of_created created isBefore (sameId.trans isCommand)
    · rcases Shared.mem_labelsOf.mp isCreated with ⟨commit, isCommit, rfl, _⟩
      rcases ReadCommitted.Reachable.session_of_commit EnqueueWrite.guarded reachable isCommit with
        ⟨other, otherFound⟩
      rcases reachable.stage otherFound with ⟨last, stage, _⟩
      obtain ⟨rfl, hasCreated⟩ := stage.outbox_of_mem isCreated
      rw [other.request.commandId_outbox] at isCommand
      have same := reachable.creator_unique hasCreated created isCommand
      exact absent _ (same ▸ isCreated)
  · rcases List.mem_iff_getElem?.mp isOther with ⟨creator, otherFound⟩
    rcases reachable.stage otherFound with ⟨last, stage, isLast⟩
    obtain rfl := isLast _ isCurrent
    obtain ⟨rfl, hasCreated⟩ := stage.of_createOutbox
    rw [other.request.commandId_outbox] at isCommand
    obtain rfl := reachable.creator_unique hasCreated created isCommand
    rw [found] at otherFound
    obtain rfl := Option.some.inj otherFound
    rcases ended with stopped | ⟨error, thrown⟩
    · rw [stopped] at isCurrent
      cases isCurrent
    · rw [thrown] at isCurrent
      cases isCurrent

/-- Every queued command has an outbox row that the worker can publish, and every
answer is about one that has, exactly when no request has failed between its
command and its outbox row. -/
theorem published_iff_not_failedBetween (sound : store.Sound) (reachable : state.Reachable store) :
    state.Published ↔ ∀ id, ¬ state.FailedBetween id := by
  constructor
  · intro published id failed
    rcases failed.2.1 with ⟨command, created⟩
    rcases Shared.mem_labelsOf.mp created with ⟨commit, isCommit, rfl, _⟩
    rcases ReadCommitted.Reachable.session_of_commit EnqueueWrite.guarded reachable isCommit with
      ⟨connection, found⟩
    rcases reachable.stage found with ⟨last, stage, _⟩
    obtain rfl := stage.row_of_mem created
    exact reachable.not_canPublish_of_failedBetween sound created failed
      (published.queued _ (reachable.mem_commands created) connection.request.status_row)
  · intro noneFailed
    have queued : ∀ command ∈ state.shared.store.commands.rows, command.status = "Queued" →
        state.CanPublish command.id := by
      intro command member isQueued
      rcases reachable.command_cases member with old | ⟨id, created⟩
      · exact Or.inl (reachable.hasPublishable (sound.queued command old isQueued))
      · exact reachable.canPublish_of_created created (noneFailed id)
    refine ⟨queued, ?_⟩
    intro connection member response answered isQueued
    rcases List.mem_iff_getElem?.mp member with ⟨id, found⟩
    rcases reachable.stage found with ⟨last, stage, isLast⟩
    obtain rfl := isLast (.answer (.command response)) (by rw [answered]; rfl)
    generalize committed : state.shared.labelsOf id = labels at stage
    cases request : connection.request with
    | vehicleCommand call input =>
      rw [request] at stage
      cases stage with
      | waiting _ _ replayed =>
        rcases replayed _ rfl with ⟨_, _, impossible⟩
        exact impossible.elim
      | published _ _ notAnswered => exact absurd rfl (notAnswered _)
    | command call input =>
      rw [request] at stage
      cases stage with
      | waiting _ _ replayed =>
        rcases replayed _ rfl with ⟨before, grows, earlier, isFound, same⟩
        rcases (Enqueue.mem_of_existing isFound).1 with ⟨command, isCommand, rfl⟩
        cases same
        exact queued command (grows isCommand) isQueued
      | published _ _ notAnswered => exact absurd rfl (notAnswered _)
      | done =>
        have created : EnqueueWrite.createCommand (commandRow call input) ∈
            state.shared.labelsOf id :=
          committed ▸ List.mem_cons_self
        exact reachable.canPublish_of_created created (noneFailed id)

end Published

namespace EnqueueSample

def store : Store where
  commands := Table.empty
  commandOutbox := Table.empty
  commandEvents := []
  bookings := Table.empty
  bookingEvents := []

theorem sound_store : store.Sound where
  queued := fun _ member => absurd member List.not_mem_nil
  foreignKey := fun _ member => absurd member List.not_mem_nil

def input : CommandRequest JsValue where
  commandType := "RemoteStart"
  tenantId := some "tenant"
  stationId := none
  chargePointId := some "cp"
  connectorId := none
  payload := .null
  requestedBy := none
  correlationId := some "key"
  dedupeKey := none
  idempotencyTtlSec := some (.finite 300)

def call (commandId outboxId : String) (now : Int) : EnqueueCall where
  firmwareCommandsEnabled := false
  context := none
  now := now
  commandId := commandId
  outboxId := outboxId

def first : EnqueueRequest :=
  .command (call "cmd-1" "out-1" 0) input

def second : EnqueueRequest :=
  .command (call "cmd-2" "out-2" 1000) input

def after (events : List (DatabaseEvent EnqueueRequest)) : Option EnqueueState :=
  events.foldlM (ReadCommitted.next EnqueueWrite.body EnqueueRequest.program Conditions.none)
    (ReadCommitted.initial store)

def looksUp (id : Nat) (request : EnqueueRequest) : List (DatabaseEvent EnqueueRequest) :=
  [.arrive request, .query id]

def creates (id : Nat) : List (DatabaseEvent EnqueueRequest) :=
  [.begin id, .statement id, .commit id]

def answer (connection : Connection Store Store.Lock EnqueueQuery EnqueueWrite (fun _ => Unit)
    HttpException EnqueueRequest EnqueueAnswer) : Option (String × String) :=
  match connection.progress with
  | .outside (.answer (.command response)) => some (response.commandId, response.status)
  | _ => none

def isAboutToPublish (connection : Connection Store Store.Lock EnqueueQuery EnqueueWrite
    (fun _ => Unit) HttpException EnqueueRequest EnqueueAnswer) : Bool :=
  match connection.progress.abstract with
  | some (.transact (.createOutbox _) _) => true
  | _ => false

structure Summary where
  commands : List (String × String)
  outboxes : List String
  aboutToPublish : List Bool
  answers : List (Option (String × String))
  deriving DecidableEq

def summary (state : EnqueueState) : Summary where
  commands := state.shared.store.commands.rows.map fun command => (command.id, command.status)
  outboxes := state.shared.store.commandOutbox.rows.map fun outbox => outbox.commandId
  aboutToPublish := state.sessions.map isAboutToPublish
  answers := state.sessions.map answer

theorem not_canPublish {state : EnqueueState} (outboxes : (summary state).outboxes = [])
    (sessions : ∀ isAbout ∈ (summary state).aboutToPublish, isAbout = false) (commandId : String) :
    ¬ state.CanPublish commandId := by
  rintro (⟨outbox, member, _⟩ | ⟨connection, member, outbox, rest, isCurrent, _⟩)
  · rw [List.map_eq_nil_iff.mp outboxes] at member
    exact absurd member List.not_mem_nil
  · have isAbout := sessions _ (List.mem_map_of_mem member)
    rw [isAboutToPublish, isCurrent] at isAbout
    contradiction

end EnqueueSample

open EnqueueSample

/-- A request that ends without a failure. -/
theorem published_iff_not_failedBetween_first :
    ∃ state : EnqueueState, summary state =
        ⟨[("cmd-1", "Queued")], ["cmd-1"], [false], [some ("cmd-1", "Queued")]⟩ ∧
      (state.Published ↔ ∀ id, ¬ state.FailedBetween id) := by
  have run : (after (looksUp 0 first ++
      creates 0 ++ creates 0 ++ creates 0)).map
        summary =
      some ⟨[("cmd-1", "Queued")], ["cmd-1"], [false], [some ("cmd-1", "Queued")]⟩ := by
    decide +kernel
  rcases Option.map_eq_some_iff.mp run with ⟨state, reached, same⟩
  exact ⟨state, same, published_iff_not_failedBetween sound_store
    (Transition.reachable_of_foldlM reached)⟩

/-- A request crashes after its first statement, and is repeated: the answer is the
command that nobody will publish. -/
theorem crash_loses_command : ∃ state : EnqueueState, state.Reachable store ∧
      (∃ command ∈ state.shared.store.commands.rows,
        command.status = "Queued" ∧ ¬ state.CanPublish command.id) ∧
      ∃ connection ∈ state.sessions, ∃ response,
        connection.progress = .outside (.answer (.command response)) ∧
          response.status = "Queued" ∧ ¬ state.CanPublish response.commandId := by
  have run : (after (looksUp 0 first ++
      creates 0 ++ [.stop 0] ++
        looksUp 1 second)).map summary =
      some ⟨[("cmd-1", "Queued")], [], [false, false], [none, some ("cmd-1", "Queued")]⟩ := by
    decide +kernel
  rcases Option.map_eq_some_iff.mp run with ⟨state, reached, same⟩
  have noOutbox : (summary state).outboxes = [] := by rw [same]
  have noneAbout : ∀ isAbout ∈ (summary state).aboutToPublish, isAbout = false := by
    rw [same]
    decide
  have lost := not_canPublish noOutbox noneAbout
  have queued : ("cmd-1", "Queued") ∈ (summary state).commands := by
    rw [same]
    exact List.mem_singleton_self _
  have answered : some ("cmd-1", "Queued") ∈ (summary state).answers := by
    rw [same]
    exact List.mem_cons_of_mem _ (List.mem_singleton_self _)
  rcases List.mem_map.mp queued with ⟨command, isCommand, isQueued⟩
  rcases List.mem_map.mp answered with ⟨connection, isConnection, isAnswer⟩
  refine ⟨state, Transition.reachable_of_foldlM reached,
    ⟨command, isCommand, (Prod.mk.inj isQueued).2, lost _⟩, connection, isConnection, ?_⟩
  rw [answer] at isAnswer
  split at isAnswer
  · rename_i response progress
    exact ⟨response, progress, (Prod.mk.inj (Option.some.inj isAnswer)).2, lost _⟩
  · contradiction

end Csms.Commands
