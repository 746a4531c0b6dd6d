import Csms.Commands.Enqueue.Published

/-!
# One command for concurrent requests

A request with a key looks for an earlier command and creates one when there is
none, in statements of their own, and no index of the database forbids two.  So
requests with one key that run concurrently create one command exactly when none
of them creates its command after another one has.
-/

namespace Csms.Commands

open Database Js

/-- A key, and the times between which requests with it count as one: a command that
was requested `since` answers all of them, and all are made from `opened` on. -/
structure Burst where
  tenantId : Option String
  correlationId : String
  (since opened : Int)

namespace Burst

variable (burst : Burst)

/-- The command is under the key, and recent. -/
def covers (command : Command) : Bool :=
  command.tenantId = burst.tenantId && command.correlationId = some burst.correlationId &&
    burst.since ≤ command.requestedAt

/-- A call of `enqueueCommand` with the key, within the time to live of each other. -/
def IsCall (request : EnqueueRequest) : Prop :=
  ∃ call input ttlSec, request = .command call input ∧
    resolvedTenantId call.toCommandCall input = burst.tenantId ∧
    requestKey input = some burst.correlationId ∧
    normalizeOptionalIdempotencyTtlSec input.idempotencyTtlSec = some ttlSec ∧
    burst.since ≤ call.now - ttlSec * 1000 ∧ call.now - ttlSec * 1000 ≤ burst.opened ∧
    burst.opened ≤ call.now

def commands (store : Store) : List Command :=
  store.commands.rows.filter burst.covers

/-- There is one command and one outbox row, and all calls are answered with it. -/
def OneCommand (state : EnqueueState) : Prop :=
  ∃ command, burst.commands state.shared.store = [command] ∧
    (∃ outbox, state.shared.store.commandOutbox.rows.filter
      (fun outbox => outbox.commandId = command.id) = [outbox]) ∧
    ∀ connection ∈ state.sessions, burst.covers connection.request.row = true →
      ∃ response, connection.progress = .outside (.answer (.command response)) ∧
        response.commandId = command.id

/-- A command of the burst is created only where there is none. -/
def FindsNone (write : EnqueueWrite) (store : Store) : Prop :=
  ∀ command, write = .createCommand command → burst.covers command = true →
    burst.commands store = []

def AtMostOne (store : Store) : Prop :=
  (burst.commands store).length ≤ 1

variable {burst}

theorem commands_of_run {write : EnqueueWrite} {before after : Store} {result : Unit}
    (run : write.body.run before = some (after, result)) :
    burst.commands after = burst.commands before ++ write.commands.filter burst.covers := by
  rw [commands, (EnqueueWrite.rows_of_run run).1, List.filter_append]
  rfl

theorem atMostOne_iff_findsNone {write : EnqueueWrite} {before after : Store} {result : Unit}
    (atMostOne : burst.AtMostOne before) (run : write.body.run before = some (after, result)) :
    burst.AtMostOne after ↔ burst.FindsNone write before := by
  rw [AtMostOne, commands_of_run run]
  rcases write with command | outbox | event
  · by_cases isCovered : burst.covers command = true
    · have added : (EnqueueWrite.createCommand command).commands.filter burst.covers =
          [command] := by
        simp [EnqueueWrite.commands, isCovered]
      rw [added, List.length_append, List.length_singleton, FindsNone]
      constructor
      · intro short other _ _
        exact List.length_eq_zero_iff.mp (by omega)
      · intro none
        rw [none command rfl isCovered]
        simp
    · have added : (EnqueueWrite.createCommand command).commands.filter burst.covers = [] := by
        simp [EnqueueWrite.commands, isCovered]
      rw [added, List.append_nil]
      apply iff_of_true atMostOne
      rintro other ⟨rfl⟩ covered
      exact absurd covered isCovered
  · have added : (EnqueueWrite.createOutbox outbox).commands.filter burst.covers = [] := rfl
    rw [added, List.append_nil]
    apply iff_of_true atMostOne
    intro command created
    cases created
  · have added : (EnqueueWrite.createEvent event).commands.filter burst.covers = [] := rfl
    rw [added, List.append_nil]
    apply iff_of_true atMostOne
    intro command created
    cases created

variable {store : Store} {state : EnqueueState}

/-- The commands of the burst only become more. -/
theorem commands_of_commit (reachable : state.Reachable store) : ∀ commit ∈ state.shared.commits,
      (burst.commands commit.before).length ≤ (burst.commands state.shared.store).length := by
  apply ReadCommitted.Reachable.shared_invariant EnqueueWrite.guarded (fun shared =>
    ∀ commit ∈ shared.commits,
      (burst.commands commit.before).length ≤ (burst.commands shared.store).length) _ _ reachable
  · exact fun _ member => absurd member List.not_mem_nil
  · intro shared id write after result before run commit member
    rw [Shared.store_commit, commands_of_run run, List.length_append]
    rw [Shared.commits_commit, List.mem_append, List.mem_singleton] at member
    rcases member with old | rfl
    · exact (before commit old).trans (Nat.le_add_right _ _)
    · exact Nat.le_add_right _ _

theorem atMostOne_iff (fresh : burst.commands store = []) (reachable : state.Reachable store) :
    burst.AtMostOne state.shared.store ↔
      ∀ commit ∈ state.shared.commits, burst.FindsNone commit.label commit.before := by
  have initially : burst.AtMostOne store := by
    rw [AtMostOne, fresh]
    exact Nat.zero_le 1
  have exact (write : EnqueueWrite) (before after : Store) (result : Unit)
      (atMostOne : burst.AtMostOne before) (run : write.body.run before = some (after, result)) :=
    atMostOne_iff_findsNone atMostOne run
  rw [← ReadCommitted.Reachable.good_iff EnqueueWrite.guarded exact initially reachable]
  constructor
  · intro atMostOne
    exact ⟨atMostOne, fun commit member =>
      (commands_of_commit reachable commit member).trans atMostOne⟩
  · exact fun always => always.1

theorem covers_of_existing {call : EnqueueCall} {input : CommandRequest JsValue}
    (isCall : burst.IsCall (.command call input)) {before : Store}
    {found : CommandRecord JsValue} (isFound : Enqueue.existing call input before = some found) :
    ∃ command ∈ before.commands.rows, command.toCommandRecord = found ∧
      burst.covers command = true := by
  rcases Enqueue.mem_of_existing isFound with
    ⟨⟨command, member, rfl⟩, ttlSec, correlationId, isTtl, isKey, answers⟩
  rcases isCall with ⟨_, _, ttl, ⟨rfl, rfl⟩, tenant, key, hasTtl, since, _⟩
  obtain rfl := Option.some.inj (isTtl.symm.trans hasTtl)
  obtain rfl := Option.some.inj (isKey.symm.trans key)
  simp only [answersRequest, decide_eq_true_eq] at answers
  refine ⟨command, member, rfl, ?_⟩
  simp only [covers, Bool.and_eq_true, decide_eq_true_eq]
  exact ⟨⟨answers.1.trans tenant, answers.2.1⟩, since.trans answers.2.2⟩

section

variable (reachable : state.Reachable store) {id : Nat}
    {connection : Connection Store Store.Lock EnqueueQuery EnqueueWrite (fun _ => Unit) HttpException EnqueueRequest EnqueueAnswer}
    (found : state.sessions[id]? = some connection)
include reachable found

theorem exists_answer (covered : burst.covers connection.request.row = true)
    (isCall : burst.IsCall connection.request) {answer : EnqueueAnswer}
    (answered : connection.progress = .outside (.answer answer)) :
    ∃ response, answer = .command response ∧
      ∃ command ∈ burst.commands state.shared.store, response.commandId = command.id := by
  rcases reachable.stage found with ⟨last, stage, isLast⟩
  obtain rfl := isLast (.answer answer) (by rw [answered]; rfl)
  have asCall := isCall
  rcases isCall with ⟨call, input, _, isRequest, _⟩
  rw [isRequest] at stage covered asCall
  generalize committed : state.shared.labelsOf id = labels at stage
  cases stage with
  | waiting _ _ replayed =>
    rcases replayed _ rfl with ⟨before, grows, earlier, isFound, same⟩
    rcases covers_of_existing asCall isFound with ⟨command, isCommand, rfl, isCovered⟩
    exact ⟨_, same, command, List.mem_filter.mpr ⟨grows isCommand, isCovered⟩, rfl⟩
  | published _ _ notAnswered => exact absurd rfl (notAnswered _)
  | done =>
    have created : EnqueueWrite.createCommand (commandRow call input) ∈
        state.shared.labelsOf id :=
      committed ▸ List.mem_cons_self
    exact ⟨_, rfl, commandRow call input,
      List.mem_filter.mpr ⟨reachable.mem_commands created, covered⟩, rfl⟩

/-- An answered session that has created a command has created all three rows. -/
theorem labelsOf_of_answered {answer : EnqueueAnswer}
    (answered : connection.progress = .outside (.answer answer)) {command : Command}
    (created : EnqueueWrite.createCommand command ∈ state.shared.labelsOf id) :
    state.shared.labelsOf id =
      [.createCommand connection.request.row, .createOutbox connection.request.outbox,
        .createEvent (newCommandEvent connection.request.row)] := by
  rcases reachable.stage found with ⟨last, stage, isLast⟩
  obtain rfl := isLast (.answer answer) (by rw [answered]; rfl)
  generalize state.shared.labelsOf id = labels at *
  cases stage with
  | waiting => exact absurd created List.not_mem_nil
  | published _ _ notAnswered => exact absurd rfl (notAnswered _)
  | done => rfl

end

/-- Of the elements that are kept, if the others give nothing. -/
theorem flatMap_filter_of_nil {α β : Type} {keep : α → Bool} {make : α → List β} {list : List α}
    (others : ∀ element ∈ list, keep element = false → make element = []) :
    (list.filter keep).flatMap make = list.flatMap make := by
  induction list with
  | nil => rfl
  | cons element list ih =>
    rw [List.forall_mem_cons] at others
    rw [List.flatMap_cons, ← ih others.2]
    by_cases kept : keep element = true
    · rw [List.filter_cons_of_pos kept, List.flatMap_cons]
    · rw [List.filter_cons_of_neg kept, others.1 (Bool.eq_false_of_not_eq_true kept),
        List.nil_append]

theorem outboxes_of_created (reachable : state.Reachable store) (foreignKey : ∀ outbox ∈
      store.commandOutbox.rows, ∃ command ∈ store.commands.rows, command.id = outbox.commandId)
    {id : Nat} {command : Command}
    (created : EnqueueWrite.createCommand command ∈ state.shared.labelsOf id) :
    state.shared.store.commandOutbox.rows.filter (fun outbox => outbox.commandId = command.id) =
      ((state.shared.labelsOf id).flatMap EnqueueWrite.outboxes).filter
        fun outbox => outbox.commandId = command.id := by
  have noneBefore : store.commandOutbox.rows.filter
      (fun outbox => outbox.commandId = command.id) = [] := by
    rw [List.filter_eq_nil_iff]
    intro outbox member isCommand
    rcases foreignKey outbox member with ⟨old, isOld, sameId⟩
    exact reachable.id_ne_of_created created isOld (sameId.trans (of_decide_eq_true isCommand))
  rw [reachable.rows.2, List.filter_append, noneBefore, List.nil_append, List.filter_flatMap,
    List.filter_flatMap, Shared.labelsOf, List.flatMap_map]
  symm
  apply flatMap_filter_of_nil
  -- outbox rows of the command are created by the session of the command only
  intro commit member isOther
  rw [List.filter_eq_nil_iff]
  intro outbox isCreated isCommand
  have label : commit.label = .createOutbox outbox := by
    rcases label : commit.label with _ | other | _ <;> rw [label] at isCreated
    · contradiction
    · rw [List.mem_singleton.mp isCreated]
    · contradiction
  rcases ReadCommitted.Reachable.session_of_commit EnqueueWrite.guarded reachable member with
    ⟨connection, found⟩
  rcases reachable.stage found with ⟨last, stage, _⟩
  obtain ⟨rfl, hasCreated⟩ :=
    stage.outbox_of_mem (Shared.mem_labelsOf.mpr ⟨commit, member, rfl, label⟩)
  have sameId : connection.request.row.id = command.id :=
    connection.request.commandId_outbox.symm.trans (of_decide_eq_true isCommand)
  exact of_decide_eq_false isOther (reachable.creator_unique hasCreated created sameId)

end Burst

/-- After any number of calls with one key have been answered, there is one command
and one outbox row, and all were answered with it, exactly when no call created its
command where there was one already. -/
theorem oneCommand_iff_findsNone {burst : Burst} {store : Store} {state : EnqueueState}
    (fresh : burst.commands store = []) (foreignKey : ∀ outbox ∈ store.commandOutbox.rows,
      ∃ command ∈ store.commands.rows, command.id = outbox.commandId)
    (reachable : state.Reachable store)
    (calls : ∀ connection ∈ state.sessions, burst.covers connection.request.row = true →
      burst.IsCall connection.request ∧ ∃ answer, connection.progress = .outside (.answer answer))
    (some : ∃ connection ∈ state.sessions, burst.covers connection.request.row = true) :
    burst.OneCommand state ↔
      ∀ commit ∈ state.shared.commits, burst.FindsNone commit.label commit.before := by
  rw [← Burst.atMostOne_iff fresh reachable]
  constructor
  · rintro ⟨command, one, _⟩
    rw [Burst.AtMostOne, one]
    exact le_refl 1
  · intro atMostOne
    -- some call was answered, so there is a command
    have answers : ∀ connection ∈ state.sessions, burst.covers connection.request.row = true →
        ∃ response, connection.progress = .outside (.answer (.command response)) ∧
          ∃ command ∈ burst.commands state.shared.store, response.commandId = command.id := by
      intro connection member covered
      rcases List.mem_iff_getElem?.mp member with ⟨id, found⟩
      rcases calls connection member covered with ⟨isCall, answer, answered⟩
      rcases Burst.exists_answer reachable found covered isCall answered with
        ⟨response, rfl, isAnswer⟩
      exact ⟨response, answered, isAnswer⟩
    rcases some with ⟨connection, member, covered⟩
    rcases answers connection member covered with ⟨_, _, command, isCommand, _⟩
    have one : burst.commands state.shared.store = [command] := by
      rcases List.length_eq_one_iff.mp
        (le_antisymm atMostOne (List.length_pos_of_mem isCommand)) with ⟨only, isOnly⟩
      rw [isOnly] at isCommand ⊢
      rw [List.mem_singleton.mp isCommand]
    refine ⟨command, one, ?_, ?_⟩
    · -- its creator was answered, so it has created the outbox row
      rcases List.mem_filter.mp isCommand with ⟨stored, isCovered⟩
      rcases reachable.command_cases stored with old | ⟨id, created⟩
      · have isOld : command ∈ burst.commands store := List.mem_filter.mpr ⟨old, isCovered⟩
        rw [fresh] at isOld
        exact absurd isOld List.not_mem_nil
      · rcases Shared.mem_labelsOf.mp created with ⟨commit, isCommit, rfl, _⟩
        rcases ReadCommitted.Reachable.session_of_commit EnqueueWrite.guarded reachable isCommit
          with ⟨creator, found⟩
        rcases reachable.stage found with ⟨last, stage, _⟩
        obtain rfl := stage.row_of_mem created
        rcases calls creator (List.mem_of_getElem? found) isCovered with ⟨_, answer, answered⟩
        refine ⟨creator.request.outbox, ?_⟩
        rw [Burst.outboxes_of_created reachable foreignKey created,
          Burst.labelsOf_of_answered reachable found answered created]
        simp [EnqueueWrite.outboxes, creator.request.commandId_outbox]
    · intro other isOther otherCovered
      rcases answers other isOther otherCovered with ⟨response, answered, found, isFound, same⟩
      rw [one, List.mem_singleton] at isFound
      exact ⟨response, answered, isFound ▸ same⟩

namespace EnqueueSample

def burst : Burst where
  tenantId := some "tenant"
  correlationId := "key"
  since := -300000
  opened := 0

theorem isCall_first : burst.IsCall first :=
  ⟨_, input, 300, rfl, rfl, by decide +kernel, by decide +kernel, by decide, by decide, by decide⟩

theorem isCall_second : burst.IsCall second :=
  ⟨_, input, 300, rfl, rfl, by decide +kernel, by decide +kernel, by decide, by decide, by decide⟩

def oneAfterTheOther : List (DatabaseEvent EnqueueRequest) :=
  looksUp 0 first ++ creates 0 ++ creates 0 ++ creates 0 ++ looksUp 1 second

def atOnce : List (DatabaseEvent EnqueueRequest) :=
  looksUp 0 first ++ looksUp 1 second ++ creates 0 ++ creates 0 ++ creates 0 ++ creates 1 ++
    creates 1 ++ creates 1

theorem calls_of_requests {state : EnqueueState}
    (requests : state.sessions.map (fun connection => connection.request) = [first, second])
    (answers : (summary state).answers.all Option.isSome = true) :
    ∀ connection ∈ state.sessions, burst.IsCall connection.request ∧
      ∃ answer, connection.progress = .outside (.answer answer) := by
  intro connection member
  constructor
  · have isRequest : connection.request ∈ [first, second] :=
      requests ▸ List.mem_map_of_mem member
    rcases List.mem_pair.mp isRequest with isFirst | isSecond
    · exact isFirst ▸ isCall_first
    · exact isSecond ▸ isCall_second
  · have hasAnswer := List.all_eq_true.mp answers _ (List.mem_map_of_mem member)
    rw [answer] at hasAnswer
    split at hasAnswer
    · rename_i response progress
      exact ⟨_, progress⟩
    · contradiction

end EnqueueSample

open EnqueueSample

/-- One request after the other: one command. -/
theorem oneCommand_iff_findsNone_oneAfterTheOther :
    ∃ state : EnqueueState, (summary state).commands = [("cmd-1", "Queued")] ∧
      (burst.OneCommand state ↔ ∀ commit ∈ state.shared.commits,
        burst.FindsNone commit.label commit.before) := by
  have run : (after oneAfterTheOther).map summary =
      some ⟨[("cmd-1", "Queued")], ["cmd-1"], [false, false],
        [some ("cmd-1", "Queued"), some ("cmd-1", "Queued")]⟩ := by
    decide +kernel
  have requestsOf : (after oneAfterTheOther).map
      (fun state => state.sessions.map fun connection => connection.request) =
        some [first, second] := by
    rfl
  rcases Option.map_eq_some_iff.mp run with ⟨state, reached, same⟩
  rw [reached] at requestsOf
  have requests : state.sessions.map (fun connection => connection.request) =
      [first, second] :=
    Option.some.inj requestsOf
  have calls := calls_of_requests requests (by rw [same]; decide)
  refine ⟨state, by rw [same], oneCommand_iff_findsNone (by decide +kernel)
    sound_store.foreignKey (Transition.reachable_of_foldlM reached)
    (fun connection member _ => calls connection member) ?_⟩
  have isFirst : first ∈ state.sessions.map fun connection => connection.request := by
    rw [requests]
    exact List.mem_cons_self
  rcases List.mem_map.mp isFirst with ⟨connection, member, isRequest⟩
  refine ⟨connection, member, ?_⟩
  rw [isRequest]
  decide +kernel

/-- Two requests at once, both answered: two commands. -/
theorem atOnce_creates_two : ∃ state : EnqueueState, state.Reachable store ∧
      (∀ connection ∈ state.sessions, burst.IsCall connection.request ∧
        ∃ answer, connection.progress = .outside (.answer answer)) ∧
      ¬ burst.OneCommand state := by
  have run : (after atOnce).map
      (fun state => ((summary state).answers,
        (burst.commands state.shared.store).length)) =
      some ([some ("cmd-1", "Queued"), some ("cmd-2", "Queued")], 2) := by
    decide +kernel
  have requestsOf : (after atOnce).map
      (fun state => state.sessions.map fun connection => connection.request) =
        some [first, second] := by
    rfl
  rcases Option.map_eq_some_iff.mp run with ⟨state, reached, same⟩
  rw [reached] at requestsOf
  rcases Prod.mk.inj same with ⟨answers, two⟩
  refine ⟨state, Transition.reachable_of_foldlM reached,
    calls_of_requests (Option.some.inj requestsOf) (by rw [answers]; decide), ?_⟩
  rintro ⟨command, one, _⟩
  rw [one, List.length_singleton] at two
  exact absurd two (by decide)

end Csms.Commands
