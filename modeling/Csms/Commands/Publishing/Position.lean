import Csms.Commands.Terminal

/-!
# Where a tick of the outbox worker is

A tick selects candidates, claims them one after another and then publishes what
it has claimed, row by row.  At each point it holds the rows it has claimed and
not finished yet; this file says how what it holds changes with each step.
-/

namespace Csms.Commands.Outbox

open Database Js

/-- The transactions that finish a row. -/
inductive Finishes (outbox : CommandOutbox) : Write → Prop
  | sent (now : Int) : Finishes outbox (.markSent outbox.id outbox.commandId now)
  | confirmed (providerCommandId : String) (now : Int) :
      Finishes outbox (.markConfirmed outbox.id outbox.commandId providerCommandId now)
  | retry (message : String) (now : Int) :
      Finishes outbox (.scheduleRetry outbox.id outbox.commandId message now)
  | deadLetter (message : String) (now : Int) :
      Finishes outbox (.markDeadLettered outbox.id outbox.commandId message now)

variable (tick : Tick)

/-- The last statements of `publish` for a row. -/
inductive Ends (outbox : CommandOutbox) : Dispatch Unit → Prop
  | failure (message : String) : Ends outbox (handlePublishFailure tick outbox message)
  | success (write : Write) : Finishes outbox write → Ends outbox (orPublishFailure tick outbox write)

variable {tick}

/-- An ending is a transaction that finishes the row; when it is rolled back, the tick
ends, or the failure is handled. -/
theorem Ends.eq_transact {outbox : CommandOutbox} {request : Dispatch Unit}
    (ends : Ends tick outbox request) :
    ∃ write rest, request = .transact write rest ∧ Finishes outbox write ∧
      (∀ result, rest (some result) = pure ()) ∧
      (rest none = .throw .internal ∨ Ends tick outbox (rest none)) := by
  cases ends with
  | failure message =>
    by_cases exhausted : tick.config.maxAttempts ≤ outbox.attempts
    · have same : handlePublishFailure tick outbox message =
          moveToDeadLetter tick outbox message :=
        if_pos exhausted
      exact ⟨_, _, same, .deadLetter message _, fun _ => rfl, Or.inl rfl⟩
    · have same : handlePublishFailure tick outbox message =
          (execute (.scheduleRetry outbox.id outbox.commandId message (tick.failedAt outbox.id)) :
            Dispatch Unit) :=
        if_neg exhausted
      exact ⟨_, _, same, .retry message _, fun _ => rfl, Or.inl rfl⟩
  | success write finishes =>
    exact ⟨_, _, rfl, finishes, fun _ => rfl, Or.inr (.failure _)⟩

section

variable {command : Command} {outbox : CommandOutbox} (same : command.id = outbox.commandId)
include same

theorem ends_publishVehicleCommand :
    Ends tick outbox (publishVehicleCommand tick command outbox) := by
  rw [publishVehicleCommand]
  split
  · exact .failure _
  · split
    · exact .failure _
    · rw [same]
      exact .success _ (.confirmed _ _)

theorem ends_publishToGateway : Ends tick outbox (publishToGateway tick command outbox) := by
  rw [publishToGateway]
  split
  · exact .failure _
  · split
    · exact .failure _
    · rw [same]
      exact .success _ (.sent _)

end

/-- The publication of a row reads its command and ends. -/
theorem publish_eq_query (outbox : CommandOutbox) :
    ∃ rest, publish tick outbox = .query (.command outbox.commandId) rest ∧
      ∀ store, Ends tick outbox (rest store) := by
  refine ⟨_, rfl, ?_⟩
  intro store
  dsimp only
  rcases found : store.command? outbox.commandId with _ | command
  · exact .failure _
  · change Ends tick outbox (ite _ _ _)
    have same : command.id = outbox.commandId := (Table.find?_eq_some_iff.mp found).2
    split
    · exact ends_publishVehicleCommand same
    · exact ends_publishToGateway same

variable (tick)

/-- What is left of a tick that has still to claim the candidates. -/
def claimRest (claimed candidates : List CommandOutbox) : Dispatch CommandsAnswer := do
  let lockedItems ← claimAll tick candidates
  publishAll tick (claimed ++ lockedItems)
  return .done

/-- What is left of a tick that has still to publish the batch. -/
def publishRest (batch : List CommandOutbox) : Dispatch CommandsAnswer := do
  publishAll tick batch
  return .done

/-- A tick that has still to claim the candidates and holds some rows is at a point of
its program. -/
inductive At : List CommandOutbox → List CommandOutbox → Dispatch CommandsAnswer → Prop
  | selecting : At [] [] (CommandsRequest.tick tick).program
  | claiming (candidate : CommandOutbox) (candidates claimed : List CommandOutbox) :
      At (candidate :: candidates) claimed (claimRest tick claimed (candidate :: candidates))
  | publishing (batch : List CommandOutbox) : At [] batch (publishRest tick batch)
  | ending (outbox : CommandOutbox) (batch : List CommandOutbox) (last : Dispatch Unit) :
      Ends tick outbox last → At [] (outbox :: batch) (last >>= fun _ => publishRest tick batch)
  | failed (error : HttpException) : At [] [] (.throw error)

variable {tick}

theorem claimRest_nil (claimed : List CommandOutbox) :
    claimRest tick claimed [] = publishRest tick claimed := by
  rw [claimRest, claimAll, pure_bind, List.append_nil]
  rfl

theorem claimRest_cons (claimed : List CommandOutbox) (candidate : CommandOutbox)
    (candidates : List CommandOutbox) : ∃ rest, claimRest tick claimed (candidate :: candidates) =
        .transact (.claim candidate.id (staleTime tick) tick.now) rest ∧
      rest (some true) = claimRest tick (claimed ++ [claimedOutbox tick.now candidate]) candidates ∧
      rest (some false) = claimRest tick claimed candidates ∧ rest none = .throw .internal := by
  have onward (found : Bool) :
      (do
        let lockedItems ← claimAll tick candidates
        let lockedItems ←
          (pure (if found then claimedOutbox tick.now candidate :: lockedItems else lockedItems) :
            Dispatch (List CommandOutbox))
        publishAll tick (claimed ++ lockedItems)
        return CommandsAnswer.done) =
      claimRest tick (if found then claimed ++ [claimedOutbox tick.now candidate] else claimed)
        candidates := by
    cases found <;> simp [claimRest]
  rw [claimRest, claimAll, bind_assoc]
  refine ⟨_, rfl, ?_, ?_, rfl⟩
  · exact (bind_assoc _ _ _).trans (onward true)
  · exact (bind_assoc _ _ _).trans (onward false)

theorem publishRest_cons (outbox : CommandOutbox) (batch : List CommandOutbox) :
    ∃ rest, publishRest tick (outbox :: batch) = .query (.command outbox.commandId) rest ∧
      ∀ store, ∃ last, Ends tick outbox last ∧
        rest store = last >>= fun _ => publishRest tick batch := by
  rcases publish_eq_query outbox with ⟨rest, published, ends⟩
  have eq : publishRest tick (outbox :: batch) =
      publish tick outbox >>= fun _ => publishRest tick batch := by
    rw [publishRest, publishAll, bind_assoc]
    rfl
  rw [eq, published]
  exact ⟨_, rfl, fun store => ⟨rest store, ends store, rfl⟩⟩

theorem program_tick : (CommandsRequest.tick tick).program =
      .query (.outboxCandidates (staleTime tick) (retryCutoff tick) tick.config.batchSize)
        fun store => claimRest tick []
          (store.outboxCandidates (staleTime tick) (retryCutoff tick) tick.config.batchSize) := by
  have eq : (CommandsRequest.tick tick).program =
      findOutboxCandidates (staleTime tick) (retryCutoff tick) tick.config.batchSize >>=
        claimRest tick [] := by
    rw [CommandsRequest.program, Outbox.run, claimBatch, bind_assoc, bind_assoc]
    rfl
  rw [eq]
  rfl

theorem at_claimRest (claimed candidates : List CommandOutbox) :
    At tick candidates claimed (claimRest tick claimed candidates) := by
  cases candidates with
  | nil =>
    rw [claimRest_nil]
    exact .publishing claimed
  | cons candidate candidates => exact .claiming candidate candidates claimed

section Steps

variable {candidates held : List CommandOutbox}

/-- A query does not change what is held; the candidates are rows that it has seen. -/
theorem At.query {name : Query} {rest : Store → Dispatch CommandsAnswer}
    (position : At tick candidates held (.query name rest)) (store : Store) :
    ∃ later, At tick later held (rest store) ∧ ∀ candidate ∈ later,
      candidate ∈ store.commandOutbox.rows := by
  generalize same : Request.query name rest = current at position
  cases position with
  | selecting =>
    rw [program_tick] at same
    cases same
    refine ⟨_, at_claimRest [] _, ?_⟩
    intro candidate member
    have sorted := List.mem_of_mem_take member
    exact (List.mem_filter.mp ((List.mem_insertionSort _).mp sorted)).1
  | claiming candidate candidates =>
    rcases claimRest_cons held candidate candidates with ⟨_, eq, _⟩
    rw [eq] at same
    cases same
  | publishing =>
    cases held with
    | nil => cases same
    | cons outbox batch =>
      rcases @publishRest_cons tick outbox batch with ⟨_, eq, ends⟩
      rw [eq] at same
      cases same
      rcases ends store with ⟨last, isEnd, eqLast⟩
      rw [eqLast]
      exact ⟨[], .ending outbox batch last isEnd, fun _ member => absurd member List.not_mem_nil⟩
  | ending outbox batch last ends =>
    rcases ends.eq_transact with ⟨write, _, rfl, _⟩
    cases same
  | failed error => cases same

variable (tick candidates held)

/-- What a tick does with the result of its next transaction. -/
inductive Next : (write : Write) → (Option write.Result → Dispatch CommandsAnswer) → Prop
  | claim (candidate : CommandOutbox) (later : List CommandOutbox)
      (rest : Option Bool → Dispatch CommandsAnswer) :
      candidates = candidate :: later →
      At tick later (held ++ [claimedOutbox tick.now candidate]) (rest (some true)) →
      At tick later held (rest (some false)) → rest none = .throw .internal →
      Next (.claim candidate.id (staleTime tick) tick.now) rest
  | finish (outbox : CommandOutbox) (batch : List CommandOutbox) (write : Write)
      (rest : Option write.Result → Dispatch CommandsAnswer) :
      candidates = [] → held = outbox :: batch → Finishes outbox write →
      (∀ result, At tick [] batch (rest (some result))) →
      (rest none = .throw .internal ∨ At tick [] held (rest none)) →
      Next write rest

variable {tick candidates held}

theorem At.next {write : Write} {rest : Option write.Result → Dispatch CommandsAnswer}
    (position : At tick candidates held (.transact write rest)) :
    Next tick candidates held write rest := by
  generalize same : Request.transact write rest = current at position
  cases position with
  | selecting =>
    rw [program_tick] at same
    cases same
  | claiming candidate candidates =>
    rcases claimRest_cons held candidate candidates with ⟨_, eq, found, notFound, failed⟩
    rw [eq] at same
    cases same
    apply Next.claim candidate candidates _ rfl
    · exact (congrArg (At tick candidates _) found).mpr (at_claimRest _ candidates)
    · exact (congrArg (At tick candidates _) notFound).mpr (at_claimRest _ candidates)
    · exact failed
  | publishing =>
    cases held with
    | nil => cases same
    | cons outbox batch =>
      rcases @publishRest_cons tick outbox batch with ⟨_, eq, _⟩
      rw [eq] at same
      cases same
  | ending outbox batch last ends =>
    rcases ends.eq_transact with ⟨write, onward, rfl, finishes, done, failed⟩
    cases same
    apply Next.finish outbox batch write _ rfl rfl finishes
    · intro result
      change At tick [] batch (onward (some result) >>= fun _ => publishRest tick batch)
      rw [done, pure_bind]
      exact .publishing batch
    · rcases failed with thrown | handled
      · refine Or.inl ?_
        rw [thrown]
        rfl
      · exact Or.inr (.ending outbox batch _ handled)
  | failed error => cases same

end Steps

end Csms.Commands.Outbox
