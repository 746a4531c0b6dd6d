import Csms.Commands.Publishing.Position

/-!
# Outbox rows and who has claimed them

What each transaction does to the outbox, row by row, and the session that has
claimed a row last, which is read off the history.
-/

namespace Csms.Commands

open Database

def Store.outbox? (store : Store) (id : String) : Option CommandOutbox :=
  Store.outboxTable.find? id store

def Write.outboxChange (write : Write) (id : String) (outbox : CommandOutbox) : CommandOutbox :=
  match write with
  | claim outboxId staleTime now =>
    if id = outboxId ∧ isClaimable staleTime outbox = true then claimedOutbox now outbox
    else outbox
  | markSent outboxId _ now | markConfirmed outboxId _ _ now =>
    if id = outboxId then (publishedOutbox now).apply outbox else outbox
  | scheduleRetry outboxId _ message now =>
    if id = outboxId then
      OutboxUpdate.apply { status := "Queued", updatedAt := now, lastError := some message } outbox
    else outbox
  | markDeadLettered outboxId _ message now =>
    if id = outboxId then
      OutboxUpdate.apply
        { status := "DeadLettered", updatedAt := now, lastError := some message } outbox
    else outbox
  | reconcileEvent _ | recordResult _ | annotateCallback _ _ => outbox

theorem Write.commandId_outboxChange (write : Write) (id : String) (outbox : CommandOutbox) :
    (write.outboxChange id outbox).commandId = outbox.commandId := by
  cases write <;> simp only [outboxChange] <;> first | rfl | (split <;> rfl)

variable {outboxId : String} {write : Write}

section Effects

variable {α : Type} {before after : Store}

theorem outbox?_updateRow {change : CommandOutbox → CommandOutbox}
    (keeps : ∀ outbox, (change outbox).id = outbox.id) (store : Store) (id : String) :
    Store.outbox? (Store.outboxTable.update outboxId change keeps store) id =
      (store.outbox? id).map fun outbox => if id = outboxId then change outbox else outbox := by
  rw [Store.outbox?, Component.find?_update]
  by_cases isRow : id = outboxId
  · rw [if_pos isRow, isRow]
    simp only [if_true]
    rfl
  · rw [if_neg isRow]
    simp only [isRow, if_false, Option.map_id']
    rfl

/-- A claim changes the row that it finds, and says whether it did. -/
theorem outbox?_of_run_claim {staleTime now : Int} {found : Bool}
    (run : (claim outboxId staleTime now).run before = some (after, found)) :
    found = (before.outbox? outboxId).any (isClaimable staleTime) ∧ ∀ id, after.outbox? id =
        (before.outbox? id).map ((Write.claim outboxId staleTime now).outboxChange id) := by
  rw [claim, Tx.run_write_eq_some_iff] at run
  obtain ⟨_, run⟩ := run
  split at run
  · rename_i claimable
    rcases Tx.run_updateRow_eq_some_iff.mp run with ⟨row, isRow, run⟩
    cases run
    have isClaimable : isClaimable staleTime row = true := by
      rw [isRow, Option.any_some] at claimable
      exact claimable
    refine ⟨claimable.symm, ?_⟩
    intro id
    rw [outbox?_updateRow]
    by_cases same : id = outboxId
    · subst same
      have isBefore : before.outbox? id = some row := isRow
      rw [isBefore, Option.map_some, Option.map_some, if_pos rfl, Write.outboxChange,
        if_pos ⟨rfl, isClaimable⟩]
    · have unchanged : (Write.claim outboxId staleTime now).outboxChange id = fun outbox => outbox := by
        funext outbox
        exact if_neg fun both => same both.1
      simp only [same, if_false, unchanged]
  · rename_i unclaimable
    cases run
    refine ⟨(Bool.eq_false_of_not_eq_true unclaimable).symm, ?_⟩
    intro id
    rcases isRow : before.outbox? id with _ | row
    · rfl
    · rw [Option.map_some, Write.outboxChange, if_neg]
      rintro ⟨rfl, isClaimable⟩
      apply unclaimable
      have isBefore : Store.outboxTable.find? id before = some row := isRow
      rw [isBefore, Option.any_some]
      exact isClaimable

/-- Every transaction changes the rows of the outbox one by one. -/
theorem Write.outbox?_of_run {result : write.Result}
    (run : write.body.run before = some (after, result)) (id : String) :
    after.outbox? id = (before.outbox? id).map (write.outboxChange id) := by
  cases write with
  | claim outboxId staleTime now => exact (outbox?_of_run_claim run).2 id
  | markSent | markConfirmed | markDeadLettered =>
    rcases Tx.run_updateRow_eq_some_iff.mp run with ⟨_, _, run⟩
    rcases run_updateCommand_eq_some_iff.mp run with ⟨_, run⟩
    cases run
    exact outbox?_updateRow (OutboxUpdate.id_apply _) _ _
  | scheduleRetry outboxId commandId message now =>
    rcases Tx.run_updateRow_eq_some_iff.mp run with ⟨_, _, run⟩
    cases run
    exact outbox?_updateRow (OutboxUpdate.id_apply _) _ _
  | reconcileEvent report | recordResult report =>
    obtain ⟨_, _, rfl⟩ := StatusReport.run_write_eq_some_iff.mp run
    exact Option.map_id'.symm
  | annotateCallback commandId payload =>
    rcases run_updateCommand_eq_some_iff.mp run with ⟨_, run⟩
    cases run
    exact Option.map_id'.symm

end Effects

def claims (outboxId : String) (commit : Commit Store Write) : Bool :=
  match commit.label with
  | .claim id staleTime _ =>
    id = outboxId && (commit.before.outbox? outboxId).any (isClaimable staleTime)
  | _ => false

/-- The session that has claimed the row last. -/
def claimer (shared : Shared Store Write) (outboxId : String) : Option Nat :=
  ((shared.commits.filter (claims outboxId)).getLast?).map Commit.session

theorem claimer_commit (shared : Shared Store Write) (session : Nat) (write : Write)
    (after : Store) (outboxId : String) : claimer (shared.commit session write after) outboxId =
      if claims outboxId ⟨session, write, shared.store, after⟩ then some session
      else claimer shared outboxId := by
  rw [claimer, Shared.commits_commit, List.filter_append]
  by_cases isClaim : claims outboxId ⟨session, write, shared.store, after⟩ = true
  · rw [if_pos isClaim, List.filter_cons_of_pos isClaim, List.filter_nil, List.getLast?_concat]
    rfl
  · rw [if_neg isClaim, List.filter_cons_of_neg isClaim, List.filter_nil, List.append_nil, claimer]

variable {outbox : CommandOutbox}

namespace Write

def finishedRow : Write → Option String
  | markSent outboxId _ _ | markConfirmed outboxId _ _ _ | scheduleRetry outboxId _ _ _
  | markDeadLettered outboxId _ _ _ => some outboxId
  | _ => none

theorem finishedRow_of_finishes (finishes : Outbox.Finishes outbox write) :
    write.finishedRow = some outbox.id := by
  cases finishes <;> rfl

theorem outboxChange_of_untouched {id : String} (unfinished : write.finishedRow ≠ some id)
    (unclaimed : ∀ staleTime now, write = .claim id staleTime now → isClaimable staleTime outbox = false) :
    write.outboxChange id outbox = outbox := by
  have other {outboxId : String} (isRow : write.finishedRow = some outboxId) : id ≠ outboxId := by
    rintro rfl
    exact unfinished isRow
  cases write with
  | claim outboxId staleTime now =>
    apply if_neg
    rintro ⟨rfl, claimable⟩
    rw [unclaimed staleTime now rfl] at claimable
    contradiction
  | markSent | markConfirmed | scheduleRetry | markDeadLettered => exact if_neg (other rfl)
  | reconcileEvent report => rfl
  | recordResult report => rfl
  | annotateCallback commandId payload => rfl

end Write

theorem claimer_commit_of_unclaimed {shared : Shared Store Write} {session : Nat} {after : Store}
    (isRow : shared.store.outbox? outboxId = some outbox)
    (unclaimed : ∀ staleTime now, write = .claim outboxId staleTime now → isClaimable staleTime outbox = false) :
    claimer (shared.commit session write after) outboxId = claimer shared outboxId := by
  rw [claimer_commit, if_neg]
  intro isClaim
  cases write with
  | claim id staleTime now =>
    simp only [claims, Bool.and_eq_true, decide_eq_true_eq, isRow, Option.any_some] at isClaim
    obtain ⟨rfl, claimable⟩ := isClaim
    rw [unclaimed staleTime now rfl] at claimable
    contradiction
  | _ => cases isClaim

end Csms.Commands
