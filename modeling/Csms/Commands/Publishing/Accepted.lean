import Csms.Commands.Publishing.Exclusive

/-!
# Accepted messages and dead letters

The worker publishes a row and marks it in one transaction afterwards.  A failure
of that transaction counts as a failed publication, and a lock that has expired is
taken over while its holder may still be at work; so a row whose message was
accepted can be dead-lettered, and a published row can be queued again.  Neither
happens when no session fails in between and no lock is taken over from a running
session.
-/

namespace Csms.Commands

open Database Js

/-- A command has one row in the outbox, as the transactions that create it leave it. -/
def Store.OneRowEach (store : Store) : Prop :=
  ∀ left right first second, store.outbox? left = some first → store.outbox? right = some second →
    first.commandId = second.commandId → left = right

theorem Store.OneRowEach.of_run {store after : Store} {write : Write} {result : write.Result}
    (oneRowEach : store.OneRowEach) (run : write.body.run store = some (after, result)) :
    after.OneRowEach := by
  intro left right first second isLeft isRight sameCommand
  rw [Write.outbox?_of_run run, Option.map_eq_some_iff] at isLeft isRight
  obtain ⟨first, wasLeft, rfl⟩ := isLeft
  obtain ⟨second, wasRight, rfl⟩ := isRight
  rw [Write.commandId_outboxChange, Write.commandId_outboxChange] at sameCommand
  exact oneRowEach left right first second wasLeft wasRight sameCommand

/-- The transaction dead-letters the row, or sets the command to Failed. -/
def Write.deadLetters (write : Write) (outboxId commandId : String) : Prop :=
  ∃ rowId failedId message now, write = .markDeadLettered rowId failedId message now ∧
    (rowId = outboxId ∨ failedId = commandId)

def Store.IsPublished (store : Store) (outboxId commandId : String) : Prop :=
  ∃ row, store.outbox? outboxId = some row ∧ row.commandId = commandId ∧ row.status = "Published"

/-- The message for the row was accepted, and it is marked now or still to be marked. -/
def Settled (system : CommandsSystem) (outboxId commandId : String) : Prop :=
  (∃ id, Marks system id outboxId commandId) ∨
    system.shared.store.IsPublished outboxId commandId

theorem marking_eq_some_iff {rest : Option (Dispatch CommandsAnswer)}
    {outboxId commandId : String} : marking rest = some (outboxId, commandId) ↔
      ∃ now onward, rest = some (.transact (.markSent outboxId commandId now) onward) := by
  constructor
  · intro marks
    unfold marking at marks
    split at marks
    · obtain ⟨rfl, rfl⟩ := Prod.mk.inj (Option.some.inj marks)
      exact ⟨_, _, rfl⟩
    · contradiction
  · rintro ⟨now, onward, rfl⟩
    rfl

section Settled

variable {system target : CommandsSystem} {outboxId commandId : String}

theorem Exclusive.holds_of_marks (exclusive : Exclusive system) {id : Nat}
    (marks : Marks system id outboxId commandId) :
    ∃ outbox, outbox.id = outboxId ∧ outbox.commandId = commandId ∧
      Holds system.shared id outbox := by
  rcases marks with ⟨⟨request, arrived, rest⟩, found, isMarking⟩
  obtain ⟨now, onward, rfl⟩ := marking_eq_some_iff.mp isMarking
  rcases exclusive.holds_of_finishedRow found rfl with ⟨outbox, sameRow, finishes, holds⟩
  refine ⟨outbox, sameRow, ?_, holds⟩
  cases finishes
  rfl

theorem Exclusive.row_of_settled (exclusive : Exclusive system)
    (settled : Settled system outboxId commandId) :
    ∃ row, system.shared.store.outbox? outboxId = some row ∧ row.commandId = commandId := by
  rcases settled with ⟨id, marks⟩ | ⟨row, isRow, sameCommand, _⟩
  · obtain ⟨outbox, rfl, rfl, holds⟩ := exclusive.holds_of_marks marks
    rcases holds.1 with ⟨row, isRow, sameCommand, _⟩
    exact ⟨row, isRow, sameCommand⟩
  · exact ⟨row, isRow, sameCommand⟩

/-- A settled row is not dead-lettered. -/
theorem Exclusive.status_of_settled (exclusive : Exclusive system)
    (settled : Settled system outboxId commandId) {row : CommandOutbox}
    (isRow : system.shared.store.outbox? outboxId = some row) : row.status ≠ "DeadLettered" := by
  rcases settled with ⟨id, marks⟩ | ⟨stored, isStored, _, published⟩
  · obtain ⟨outbox, rfl, _, holds⟩ := exclusive.holds_of_marks marks
    rcases holds.1 with ⟨stored, isStored, _, queued, _⟩
    cases isRow.symm.trans isStored
    rw [queued]
    decide
  · cases isRow.symm.trans isStored
    rw [published]
    decide

section Commit

variable {id : Nat} {request : CommandsRequest} {arrived : Nat} {write : Write}
  {rest : Option write.Result → Dispatch CommandsAnswer} {after : Store} {result : write.Result}

section

variable (exclusive : Exclusive system)
    (found : system.sessions[id]? = some ⟨request, arrived, some (.transact write rest)⟩)
include exclusive found

theorem Exclusive.not_isPublished_of_finishedRow (finished : write.finishedRow = some outboxId) :
    ¬ system.shared.store.IsPublished outboxId commandId := by
  rintro ⟨row, isRow, _, published⟩
  obtain ⟨outbox, rfl, _, holds⟩ := exclusive.holds_of_finishedRow found finished
  rcases holds.1 with ⟨stored, isStored, _, queued, _⟩
  cases isRow.symm.trans isStored
  rw [published] at queued
  revert queued
  decide

/-- No transaction takes a row out of Published. -/
theorem Exclusive.isPublished_of_run
    (run : write.body.run system.shared.store = some (after, result))
    (isPublished : system.shared.store.IsPublished outboxId commandId) :
    after.IsPublished outboxId commandId := by
  have unfinished : write.finishedRow ≠ some outboxId := fun finished =>
    exclusive.not_isPublished_of_finishedRow found finished isPublished
  rcases isPublished with ⟨row, isRow, sameCommand, published⟩
  refine ⟨row, ?_, sameCommand, published⟩
  rw [Write.outbox?_of_run run, isRow, Option.map_some, Write.outboxChange_of_untouched unfinished]
  intro staleTime now _
  rw [isClaimable, published]
  rfl

end

theorem Exclusive.not_deadLetters (exclusive : Exclusive system)
    (oneRowEach : system.shared.store.OneRowEach)
    (found : system.sessions[id]? = some ⟨request, arrived, some (.transact write rest)⟩)
    (settled : Settled system outboxId commandId) : ¬ write.deadLetters outboxId commandId := by
  rintro ⟨rowId, failedId, message, now, rfl, ofRow⟩
  obtain ⟨outbox, rfl, finishes, holds⟩ := exclusive.holds_of_finishedRow found rfl
  obtain rfl : failedId = outbox.commandId := by
    cases finishes
    rfl
  rcases holds.1 with ⟨row, isRow, sameCommand, queued, _⟩
  have sameRow : outbox.id = outboxId := by
    rcases ofRow with same | same
    · exact same
    · rcases exclusive.row_of_settled settled with ⟨settledRow, isSettled, ofCommand⟩
      exact oneRowEach _ _ row settledRow isRow isSettled
        (sameCommand.trans (same.trans ofCommand.symm))
  subst sameRow
  rcases settled with ⟨marker, marks⟩ | isPublished
  · obtain ⟨other, otherRow, _, otherHolds⟩ := exclusive.holds_of_marks marks
    obtain rfl := holds.session_eq otherHolds otherRow.symm
    rcases marks with ⟨session, isSession, isMarking⟩
    cases found.symm.trans isSession
    cases isMarking
  · exact exclusive.not_isPublished_of_finishedRow found rfl isPublished

end Commit

theorem Exclusive.settled_step (exclusive : Exclusive system) (permitted : Permitted system target)
    (step : System.Step (fun label : Write => label.body.run) CommandsRequest.program
      Conditions.none system target)
    (settled : Settled system outboxId commandId) : Settled target outboxId commandId := by
  rcases settled with ⟨marker, marks⟩ | isPublished
  · rcases permitted.marks marker outboxId commandId marks with still | ⟨write', after', committed⟩
    · exact Or.inl ⟨marker, still⟩
    · right
      rcases step.shared_eq with same | ⟨id, _, _, write, _, after, result, found, run, isCommit⟩
      · exact absurd (committed.symm.trans same) (Shared.commit_ne _ _ _ _)
      · obtain ⟨rfl, rfl, rfl⟩ := Shared.commit_inj (committed.symm.trans isCommit)
        obtain ⟨row, isRow, sameCommand⟩ := exclusive.row_of_settled (Or.inl ⟨marker, marks⟩)
        rcases marks with ⟨session, isSession, isMarking⟩
        cases found.symm.trans isSession
        obtain ⟨now, onward, same⟩ := marking_eq_some_iff.mp isMarking
        cases same
        refine ⟨(publishedOutbox now).apply row, ?_, sameCommand, rfl⟩
        rw [isCommit, Shared.store_commit, Write.outbox?_of_run run, isRow, Option.map_some]
        exact congrArg some (if_pos rfl)
  · right
    rcases step.shared_eq with same | ⟨id, _, _, write, _, after, result, found, run, isCommit⟩
    · rw [same]
      exact isPublished
    · rw [isCommit, Shared.store_commit]
      exact exclusive.isPublished_of_run found run isPublished

end Settled

namespace CommandsState

variable (state : CommandsState)

/-- No running session has claimed the row last. -/
def isGivenUp (outboxId : String) : Bool :=
  (claimer state.shared outboxId).all fun worker =>
    (state.sessions[worker]?).all fun session => hasEnded session.progress.abstract

/-- The event does not make a session fail that is about to mark a row, and does not
take a lock over from a running session. -/
def permits : DatabaseEvent CommandsRequest → Bool
  | .abort id | .stop id =>
    (state.sessions[id]?).all fun session => (marking session.progress.abstract).isNone
  | .commit id =>
    match state.sessions[id]? with
    | some ⟨_, _, .inside (.claim outboxId staleTime _) _ _ _ _⟩ =>
      (state.shared.store.outbox? outboxId).all fun row =>
        !isClaimable staleTime row || row.lockedAt.isNone || state.isGivenUp outboxId
    | _ => true
  | _ => true

def nextPermitted (event : DatabaseEvent CommandsRequest) : Option CommandsState :=
  if state.permits event then
    ReadCommitted.next Write.body CommandsRequest.program Conditions.none state event
  else none

/-- What finitely many permitted events lead to. -/
def Undisturbed : CommandsState → CommandsState → Prop :=
  Transition.Reachable nextPermitted

/-- Kafka has accepted the message for the row, and the session that sent it is about to
mark the row. -/
def Accepted (outboxId commandId : String) : Prop :=
  ∃ session ∈ state.sessions, marking session.progress.abstract = some (outboxId, commandId)

end CommandsState

section Permitted

variable {source target : CommandsState} {event : DatabaseEvent CommandsRequest}

section

variable (permits : source.permits event = true)
    (step : ReadCommitted.next Write.body CommandsRequest.program Conditions.none source event = some target)
    {id : Nat}
include permits step

theorem CommandsState.marks_of_next {outboxId commandId : String}
    (marks : Marks source.abstract id outboxId commandId) :
    Marks target.abstract id outboxId commandId ∨
      ∃ write after, target.abstract.shared = source.abstract.shared.commit id write after := by
  rcases marks with ⟨session, isSession, isMarking⟩
  rw [ReadCommitted.abstract, List.getElem?_map] at isSession
  obtain ⟨connection, found, rfl⟩ := Option.map_eq_some_iff.mp isSession
  obtain ⟨now, onward, isAt⟩ := marking_eq_some_iff.mp isMarking
  have undisturbed : (some connection).all
      (fun session => (marking session.progress.abstract).isNone) = false := by
    have isSome : marking connection.progress.abstract = some (outboxId, commandId) := isMarking
    rw [Option.all_some, isSome]
    rfl
  have notAborted : event ≠ .abort id := by
    rintro rfl
    rw [CommandsState.permits, found, undisturbed] at permits
    contradiction
  have notStopped : event ≠ .stop id := by
    rintro rfl
    rw [CommandsState.permits, found, undisturbed] at permits
    contradiction
  rcases ReadCommitted.transact_kept_of_next step found isAt notAborted notStopped with
    ⟨after, stays, isStill⟩ | ⟨after, committed⟩
  · left
    exact ⟨_, ReadCommitted.abstract_getElem? stays, marking_eq_some_iff.mpr ⟨now, onward, isStill⟩⟩
  · exact Or.inr ⟨_, after, committed⟩

theorem CommandsState.claims_of_next {outboxId : String} {staleTime now : Int} {after : Store}
    (committed : target.abstract.shared = source.abstract.shared.commit id (.claim outboxId staleTime now) after)
    {row : CommandOutbox} (isRow : source.abstract.shared.store.outbox? outboxId = some row)
    (claimable : isClaimable staleTime row = true) (locked : row.lockedAt ≠ none) {worker : Nat}
    (isClaimer : claimer source.abstract.shared outboxId = some worker)
    {session : Session Store Query Write Write.Result HttpException CommandsRequest CommandsAnswer}
    (isSession : source.abstract.sessions[worker]? = some session) :
    hasEnded session.rest = true := by
  have inStore : source.shared.store.outbox? outboxId = some row := isRow
  have inHistory : claimer source.shared outboxId = some worker := isClaimer
  rw [ReadCommitted.abstract, List.getElem?_map] at isSession
  obtain ⟨connection, ofWorker, rfl⟩ := Option.map_eq_some_iff.mp isSession
  rcases ReadCommitted.shared_of_next step with
    same | ⟨other, _, _, _, _, _, _, _, rfl, found, isCommit⟩
  · exact absurd (committed.symm.trans same) (Shared.commit_ne _ _ _ _)
  · obtain ⟨rfl, rfl, _⟩ := Shared.commit_inj (committed.symm.trans isCommit)
    rw [CommandsState.permits, found] at permits
    change (source.shared.store.outbox? outboxId).all _ = true at permits
    rw [inStore, Option.all_some, claimable, CommandsState.isGivenUp, inHistory, Option.all_some,
      ofWorker, Option.all_some] at permits
    rcases lock : row.lockedAt with _ | _
    · exact absurd lock locked
    · rw [lock] at permits
      exact permits

end

theorem CommandsState.permitted_of_nextPermitted (step : source.nextPermitted event = some target) :
    Transition.Step
        (ReadCommitted.next Write.body CommandsRequest.program Conditions.none) source target ∧
      Permitted source.abstract target.abstract := by
  rw [nextPermitted] at step
  split at step
  · rename_i permits
    refine ⟨⟨event, step⟩, ?_, ?_⟩
    · exact fun id outboxId commandId marks => marks_of_next permits step marks
    · exact fun id outboxId staleTime now after committed row isRow claimable locked worker
        isClaimer session isSession =>
          claims_of_next permits step committed isRow claimable locked isClaimer isSession
  · contradiction

end Permitted

/-- What a run leaves of accepted messages and published rows. -/
structure CommandsState.SettledKept (earlier later : CommandsState) : Prop where
  row : ∀ outboxId commandId, earlier.Accepted outboxId commandId →
    ∀ outbox, later.shared.store.outbox? outboxId = some outbox → outbox.status ≠ "DeadLettered"
  command : ∀ outboxId commandId, earlier.Accepted outboxId commandId →
    ∀ commit ∈ later.shared.commits.drop earlier.shared.commits.length,
      ¬ commit.label.deadLetters outboxId commandId
  published : ∀ outboxId commandId, earlier.shared.store.IsPublished outboxId commandId →
    later.shared.store.IsPublished outboxId commandId

abbrev PermittedSteps : CommandsSystem → CommandsSystem → Prop :=
  Relation.ReflTransGen fun source target =>
    System.Step (fun label : Write => label.body.run) CommandsRequest.program Conditions.none
      source target ∧ Permitted source target

theorem exclusive_of_permittedSteps {source target : CommandsSystem} (exclusive : Exclusive source)
    (oneRowEach : source.shared.store.OneRowEach) (run : PermittedSteps source target) :
    Exclusive target ∧ target.shared.store.OneRowEach := by
  induction run with
  | refl => exact ⟨exclusive, oneRowEach⟩
  | tail _ step ih =>
    rcases ih with ⟨soFar, rows⟩
    refine ⟨soFar.step step.2 step.1, ?_⟩
    rcases step.1.shared_eq with same | ⟨_, _, _, _, _, _, _, _, happens, isCommit⟩
    · rw [same]
      exact rows
    · rw [isCommit]
      exact rows.of_run happens

section

variable {source target : CommandsSystem} {outboxId commandId : String}
    (exclusive : Exclusive source) (oneRowEach : source.shared.store.OneRowEach)
include exclusive oneRowEach

/-- A settled row stays settled, and nothing dead-letters it on the way. -/
theorem settled_of_permittedSteps (settled : Settled source outboxId commandId)
    (run : PermittedSteps source target) : Settled target outboxId commandId ∧
      ∃ more, target.shared.commits = source.shared.commits ++ more ∧
        ∀ commit ∈ more, ¬ commit.label.deadLetters outboxId commandId := by
  induction run with
  | refl =>
    refine ⟨settled, [], (List.append_nil _).symm, ?_⟩
    exact fun _ member => absurd member List.not_mem_nil
  | @tail middle _ run step ih =>
    rcases ih with ⟨soFar, more, isMore, spared⟩
    rcases exclusive_of_permittedSteps exclusive oneRowEach run with ⟨stillExclusive, rows⟩
    refine ⟨stillExclusive.settled_step step.2 step.1 soFar, ?_⟩
    rcases step.1.shared_eq with same | ⟨id, _, _, write, _, after, _, found, _, isCommit⟩
    · exact ⟨more, by rw [same, isMore], spared⟩
    · refine ⟨more ++ [⟨id, write, middle.shared.store, after⟩], ?_, ?_⟩
      · rw [isCommit, Shared.commits_commit, isMore, List.append_assoc]
      · intro commit member
        rcases List.mem_append.mp member with old | new
        · exact spared commit old
        · rw [List.mem_singleton.mp new]
          exact stillExclusive.not_deadLetters rows found soFar

theorem isPublished_of_permittedSteps
    (isPublished : source.shared.store.IsPublished outboxId commandId)
    (run : PermittedSteps source target) : target.shared.store.IsPublished outboxId commandId := by
  induction run with
  | refl => exact isPublished
  | tail run step ih =>
    have stillExclusive := (exclusive_of_permittedSteps exclusive oneRowEach run).1
    rcases step.1.shared_eq with same | ⟨_, _, _, _, _, _, _, found, happens, isCommit⟩
    · rw [same]
      exact ih
    · rw [isCommit]
      exact stillExclusive.isPublished_of_run found happens ih

end

/-- In runs that are not disturbed an accepted message is not dead-lettered, its command
is not set to Failed by a worker, and published rows stay published. -/
theorem settledKept_of_undisturbed {store : Store} (oneRowEach : store.OneRowEach)
    {earlier later : CommandsState}
    (before : CommandsState.Undisturbed (ReadCommitted.initial store) earlier)
    (onward : CommandsState.Undisturbed earlier later) : earlier.SettledKept later := by
  have steps {source target : CommandsState} (run : CommandsState.Undisturbed source target) :
      Relation.ReflTransGen (fun source target =>
        Transition.Step
            (ReadCommitted.next Write.body CommandsRequest.program Conditions.none) source target ∧
          Permitted source.abstract target.abstract) source target := by
    apply Relation.ReflTransGen.mono _ _ _ run
    rintro _ _ ⟨_, step⟩
    exact CommandsState.permitted_of_nextPermitted step
  rcases ReadCommitted.abstract_of_permitted Write.guarded Permitted
    (ReadCommitted.isolated_initial store) (steps before) with ⟨isolated, first⟩
  rcases ReadCommitted.abstract_of_permitted Write.guarded Permitted isolated (steps onward) with
    ⟨_, second⟩
  have initially : Exclusive (ReadCommitted.initial store : CommandsState).abstract := by
    intro id request arrived rest found
    simp [ReadCommitted.initial, ReadCommitted.abstract] at found
  rcases exclusive_of_permittedSteps initially oneRowEach first with ⟨exclusive, rows⟩
  rcases exclusive_of_permittedSteps exclusive rows second with ⟨stillExclusive, _⟩
  have settled {outboxId commandId : String} (accepted : earlier.Accepted outboxId commandId) :
      Settled earlier.abstract outboxId commandId := by
    rcases accepted with ⟨session, member, isMarking⟩
    rcases List.mem_iff_getElem?.mp member with ⟨id, found⟩
    exact Or.inl ⟨id, _, ReadCommitted.abstract_getElem? found, isMarking⟩
  constructor
  · intro outboxId commandId accepted outbox isRow
    have later := settled_of_permittedSteps exclusive rows (settled accepted) second
    exact stillExclusive.status_of_settled later.1 isRow
  · intro outboxId commandId accepted
    rcases settled_of_permittedSteps exclusive rows (settled accepted) second with
      ⟨_, more, isMore, spared⟩
    have drop : later.shared.commits.drop earlier.shared.commits.length = more := by
      have same : later.shared.commits = earlier.shared.commits ++ more := isMore
      rw [same, List.drop_left]
    rw [drop]
    exact spared
  · intro outboxId commandId isPublished
    exact isPublished_of_permittedSteps exclusive rows isPublished second

instance (state : CommandsState) (outboxId commandId : String) :
    Decidable (state.Accepted outboxId commandId) :=
  inferInstanceAs (Decidable (∃ session ∈ state.sessions,
    marking session.progress.abstract = some (outboxId, commandId)))

namespace PublishingSample

def store : Store :=
  { Sample.store with commandOutbox := ⟨[{ Sample.outbox with attempts := 4 }], by decide⟩ }

def tick (now : Int) (publishMessage : GatewayRequest → Option String) : Tick :=
  { Sample.tick with now, publishMessage }

def sent (id : Nat) (now : Int) (error : Option String) : List (DatabaseEvent CommandsRequest) :=
  [.arrive (.tick (tick now fun _ => error)), .query id, .begin id, .statement id, .statement id,
    .commit id, .query id]

def committed (id : Nat) : List (DatabaseEvent CommandsRequest) :=
  [.begin id, .statement id, .statement id, .statement id, .commit id]

def next : CommandsState → DatabaseEvent CommandsRequest → Option CommandsState :=
  ReadCommitted.next Write.body CommandsRequest.program Conditions.none

def statuses (state : CommandsState) : Option String × Option String :=
  ((state.shared.store.outbox? "out").map fun outbox => outbox.status,
    (state.shared.store.command? "cmd").map fun command => command.status)

def between (step : CommandsState → DatabaseEvent CommandsRequest → Option CommandsState)
    (first second : List (DatabaseEvent CommandsRequest)) : Option (CommandsState × CommandsState) := do
  let earlier ← first.foldlM step (ReadCommitted.initial store)
  let later ← second.foldlM step earlier
  return (earlier, later)

theorem reachable_of_between
    {step : CommandsState → DatabaseEvent CommandsRequest → Option CommandsState}
    {first second : List (DatabaseEvent CommandsRequest)} {earlier later : CommandsState}
    (run : between step first second = some (earlier, later)) :
    Transition.Reachable step (ReadCommitted.initial store) earlier ∧
      Transition.Reachable step earlier later := by
  rw [between] at run
  rcases Option.bind_eq_some_iff.mp run with ⟨middle, isFirst, run⟩
  rcases Option.bind_eq_some_iff.mp run with ⟨last, isSecond, same⟩
  cases same
  exact ⟨Transition.reachable_of_foldlM isFirst, Transition.reachable_of_foldlM isSecond⟩

theorem oneRowEach_store : store.OneRowEach := by
  have isOut {id : String} {row : CommandOutbox} (isRow : store.outbox? id = some row) :
      id = "out" := by
    rcases Table.find?_eq_some_iff.mp isRow with ⟨member, rfl⟩
    rw [List.mem_singleton.mp member]
    rfl
  intro left right first second isLeft isRight _
  rw [isOut isLeft, isOut isRight]

end PublishingSample

open PublishingSample

/-- The message is accepted and the transaction that marks the row succeeds. -/
theorem settledKept_of_undisturbed_marked :
    ∃ earlier later : CommandsState, earlier.Accepted "out" "cmd" ∧
      PublishingSample.statuses later = (some "Published", some "Sent") ∧
        earlier.SettledKept later := by
  have run : (between CommandsState.nextPermitted
      (sent 0 100000 none) (committed 0)).map
        (fun states => (decide (states.1.Accepted "out" "cmd"),
          PublishingSample.statuses states.2)) =
      some (true, some "Published", some "Sent") := by
    decide +kernel
  rcases Option.map_eq_some_iff.mp run with ⟨⟨earlier, later⟩, reached, outcome⟩
  rcases Prod.mk.inj outcome with ⟨accepted, statuses⟩
  rcases reachable_of_between reached with ⟨before, onward⟩
  exact ⟨earlier, later, of_decide_eq_true accepted, statuses,
    settledKept_of_undisturbed oneRowEach_store before onward⟩

/-- The transaction that marks an accepted message is rolled back, and the row is
dead-lettered; and a worker that was overtaken dead-letters a row that another has
published. -/
theorem accepted_is_deadLettered :
    (∃ earlier later : CommandsState, earlier.Reachable store ∧
      Transition.Reachable next earlier later ∧ earlier.Accepted "out" "cmd" ∧
          PublishingSample.statuses later = (some "DeadLettered", some "Failed")) ∧
    ∃ earlier later : CommandsState, earlier.Reachable store ∧
      Transition.Reachable next earlier later ∧
        PublishingSample.statuses earlier = (some "Published", some "Sent") ∧
          PublishingSample.statuses later = (some "DeadLettered", some "Failed") := by
  constructor
  · have run : (between next
        (sent 0 100000 none)
        ([.begin 0, .abort 0] ++ committed 0)).map
          (fun states => (decide (states.1.Accepted "out" "cmd"),
            PublishingSample.statuses states.2)) =
        some (true, some "DeadLettered", some "Failed") := by
      decide +kernel
    rcases Option.map_eq_some_iff.mp run with ⟨⟨earlier, later⟩, reached, outcome⟩
    rcases Prod.mk.inj outcome with ⟨accepted, statuses⟩
    rcases reachable_of_between reached with ⟨before, onward⟩
    exact ⟨earlier, later, before, onward, of_decide_eq_true accepted, statuses⟩
  · have run : (between next
        (sent 0 100000 (some "timeout") ++ sent 1 200000 none ++
          committed 1)
        (committed 0)).map
          (fun states => (PublishingSample.statuses states.1,
            PublishingSample.statuses states.2)) =
        some ((some "Published", some "Sent"), some "DeadLettered", some "Failed") := by
      decide +kernel
    rcases Option.map_eq_some_iff.mp run with ⟨⟨earlier, later⟩, reached, outcome⟩
    rcases Prod.mk.inj outcome with ⟨published, statuses⟩
    rcases reachable_of_between reached with ⟨before, onward⟩
    exact ⟨earlier, later, before, onward, published, statuses⟩

end Csms.Commands
