import Csms.Commands.Publishing.Rows

/-!
# At most one session works on a row

If a locked row is claimed again only when the session that locked it has ended,
then at any time the rows that the running ticks hold are different, each is
queued and locked, and only its holder has claimed it since.
-/

namespace Csms.Commands

open Database Js

/-- The transaction does not touch the outbox. -/
def Write.LeavesOutbox (write : Write) : Prop :=
  write.finishedRow = none ∧ ∀ id staleTime now, write ≠ .claim id staleTime now

section Transacts

variable (engine : Engine)

theorem transacts_findReservationBooking (commandType : String) (reservationId : Option Int) :
    (findReservationBooking commandType reservationId).Transacts Write.LeavesOutbox := by
  unfold findReservationBooking
  split
  · split
    · exact transacts_read _ _
    · exact transacts_pure _
  · exact transacts_pure _

theorem transacts_execute {write : Write} (leaves : write.LeavesOutbox) :
    (execute write).Transacts Write.LeavesOutbox :=
  Request.transacts_commit _ leaves

theorem transacts_reconcileCommand (event : DomainEvent) (mappedStatus : CommandStatus)
    (command : Command) : (Consumer.reconcileCommand engine event mappedStatus command).Transacts
      Write.LeavesOutbox := by
  rw [Consumer.reconcileCommand]
  split
  · exact transacts_pure _
  · apply Request.Transacts.bind (transacts_read _ _)
    intro existing
    split
    · exact transacts_pure _
    · split
      · exact transacts_pure _
      · apply Request.Transacts.bind (transacts_findReservationBooking _ _)
        intro booking
        apply Request.Transacts.bind
        · exact transacts_execute ⟨rfl, nofun⟩
        · exact fun _ => transacts_pure _

theorem transacts_reconcileEvent (event : DomainEvent) :
    (Consumer.reconcileEvent engine event).Transacts Write.LeavesOutbox := by
  rw [Consumer.reconcileEvent]
  split
  · apply Request.Transacts.bind (transacts_read _ _)
    intro command
    split
    · exact transacts_pure _
    · exact transacts_reconcileCommand engine event _ _
  · exact transacts_pure _

theorem transacts_annotateCommandCallback (commandId : String) (patch : List (String × JsValue)) :
    (Consumer.annotateCommandCallback commandId patch).Transacts Write.LeavesOutbox := by
  rw [Consumer.annotateCommandCallback]
  apply Request.Transacts.bind (transacts_read _ _)
  intro existing
  split
  · exact transacts_pure _
  · exact transacts_execute ⟨rfl, nofun⟩

theorem transacts_createCommandResult (now : Int) (request : OcpiCommandResult) :
    (Ocpi.createCommandResult engine now request).Transacts Write.LeavesOutbox := by
  rw [Ocpi.createCommandResult]
  apply Request.Transacts.bind (transacts_read _ _)
  intro command
  split
  · exact transacts_pure _
  · apply Request.Transacts.ite
    · exact transacts_pure _
    · apply Request.Transacts.bind (transacts_findReservationBooking _ _)
      intro booking
      apply Request.Transacts.bind
      · exact transacts_execute ⟨rfl, nofun⟩
      · exact fun _ => transacts_pure _

end Transacts

/-- The commands with transactions that take effect at once. -/
abbrev CommandsSystem :=
  System Store Query Write Write.Result HttpException CommandsRequest CommandsAnswer

/-- The store still has the row of a candidate. -/
def Store.Knows (store : Store) (outbox : CommandOutbox) : Prop :=
  ∃ row, store.outbox? outbox.id = some row ∧ row.commandId = outbox.commandId

/-- The session has claimed the row last, and it is still queued and locked. -/
def Holds (shared : Shared Store Write) (id : Nat) (outbox : CommandOutbox) : Prop :=
  (∃ row, shared.store.outbox? outbox.id = some row ∧ row.commandId = outbox.commandId ∧
    row.status = "Queued" ∧ row.lockedAt ≠ none) ∧
  claimer shared outbox.id = some id

/-- A tick that has the rows in its hands holds them. -/
structure Working (tick : Tick) (shared : Shared Store Write) (id : Nat)
    (candidates held : List CommandOutbox) (rest : Dispatch CommandsAnswer) : Prop where
  position : Outbox.At tick candidates held rest
  known : ∀ candidate ∈ candidates, shared.store.Knows candidate
  distinct : (held.map CommandOutbox.id).Nodup
  holds : ∀ outbox ∈ held, Holds shared id outbox

/-- What is known of a running session. -/
def CommandsRequest.Sound (shared : Shared Store Write) (id : Nat)
    (rest : Dispatch CommandsAnswer) : CommandsRequest → Prop
  | tick call => ∃ candidates held, Working call shared id candidates held rest
  | _ => rest.Transacts Write.LeavesOutbox

/-- Every running tick holds what it has in its hands. -/
def Exclusive (system : CommandsSystem) : Prop :=
  ∀ (id : Nat) (request : CommandsRequest) (arrived : Nat) (rest : Dispatch CommandsAnswer),
    system.sessions[id]? = some ⟨request, arrived, some rest⟩ →
      request.Sound system.shared id rest

/-- The session has answered, failed or stopped. -/
def hasEnded : Option (Dispatch CommandsAnswer) → Bool
  | none | some (.answer _) | some (.throw _) => true
  | _ => false

theorem Outbox.At.not_hasEnded {tick : Tick} {candidates batch : List CommandOutbox}
    {outbox : CommandOutbox} {rest : Dispatch CommandsAnswer}
    (position : Outbox.At tick candidates (outbox :: batch) rest) : hasEnded (some rest) = false := by
  cases position with
  | claiming candidate candidates =>
    rcases @Outbox.claimRest_cons tick (outbox :: batch) candidate candidates with
      ⟨_, eq, _⟩
    rw [eq]
    rfl
  | publishing =>
    rcases @Outbox.publishRest_cons tick outbox batch with ⟨_, eq, _⟩
    rw [eq]
    rfl
  | ending _ _ last ends =>
    rcases ends.eq_transact with ⟨_, _, rfl, _⟩
    rfl

section Commit

variable {shared : Shared Store Write} {id session : Nat} {outbox : CommandOutbox} {write : Write}
  {after : Store} {result : write.Result}

theorem Store.Knows.of_run {store : Store} (knows : store.Knows outbox)
    (run : write.body.run store = some (after, result)) : after.Knows outbox := by
  rcases knows with ⟨row, found, sameCommand⟩
  refine ⟨write.outboxChange outbox.id row, ?_, ?_⟩
  · rw [Write.outbox?_of_run run, found]
    rfl
  · rw [Write.commandId_outboxChange, sameCommand]

/-- A row that the commit neither finishes nor claims is still held. -/
theorem Holds.commit (holds : Holds shared id outbox)
    (run : write.body.run shared.store = some (after, result))
    (unfinished : write.finishedRow ≠ some outbox.id)
    (unclaimed : ∀ row, shared.store.outbox? outbox.id = some row → ∀ staleTime now,
      write = .claim outbox.id staleTime now → isClaimable staleTime row = false) :
    Holds (shared.commit session write after) id outbox := by
  rcases holds with ⟨⟨row, found, facts⟩, isClaimer⟩
  have unchanged := Write.outboxChange_of_untouched unfinished (unclaimed row found)
  refine ⟨⟨row, ?_, facts⟩, ?_⟩
  · rw [Shared.store_commit, Write.outbox?_of_run run, found, Option.map_some, unchanged]
  · rw [claimer_commit_of_unclaimed found (unclaimed row found), isClaimer]

theorem holds_of_claim {staleTime now : Int} {found : Bool} (knows : shared.store.Knows outbox)
    (run : (claim outbox.id staleTime now).run shared.store = some (after, found))
    (isFound : found = true) :
    Holds (shared.commit session (.claim outbox.id staleTime now) after) session
      (claimedOutbox now outbox) := by
  rcases knows with ⟨row, isRow, sameCommand⟩
  rcases outbox?_of_run_claim run with ⟨foundEq, rows⟩
  rw [isFound, isRow, Option.any_some] at foundEq
  have claimable := foundEq.symm
  have changed : (Write.claim outbox.id staleTime now).outboxChange outbox.id row =
      claimedOutbox now row := if_pos ⟨rfl, claimable⟩
  have isQueued : row.status = "Queued" := by
    rw [isClaimable, Bool.and_eq_true, decide_eq_true_eq] at claimable
    exact claimable.1
  refine ⟨⟨claimedOutbox now row, ?_, sameCommand, isQueued, nofun⟩, ?_⟩
  · rw [Shared.store_commit, id_claimedOutbox, rows, isRow, Option.map_some, changed]
  · rw [claimer_commit, if_pos]
    simp only [claims, id_claimedOutbox, decide_true, Bool.true_and, isRow, Option.any_some,
      claimable]

end Commit

/-- The row and the command of the message that was accepted, if the session is about to
mark them as published. -/
def marking : Option (Dispatch CommandsAnswer) → Option (String × String)
  | some (.transact (.markSent outboxId commandId _) _) => some (outboxId, commandId)
  | _ => none

/-- The gateway's broker has accepted the message for the row, and the session is about
to mark it. -/
def Marks (system : CommandsSystem) (id : Nat) (outboxId commandId : String) : Prop :=
  ∃ session, system.sessions[id]? = some session ∧
    marking session.rest = some (outboxId, commandId)

/-- No session fails between an accepted message and the transaction that marks the row,
and no lock is taken over from a session that is still running. -/
structure Permitted (source target : CommandsSystem) : Prop where
  marks : ∀ id outboxId commandId, Marks source id outboxId commandId →
    Marks target id outboxId commandId ∨
      ∃ write after, target.shared = source.shared.commit id write after
  claims : ∀ id outboxId staleTime now after,
    target.shared = source.shared.commit id (.claim outboxId staleTime now) after →
      ∀ row, source.shared.store.outbox? outboxId = some row →
        isClaimable staleTime row = true → row.lockedAt ≠ none →
          ∀ worker, claimer source.shared outboxId = some worker →
            ∀ session, source.sessions[worker]? = some session → hasEnded session.rest = true

theorem CommandsRequest.sound_program (shared : Shared Store Write) (id : Nat)
    (request : CommandsRequest) : request.Sound shared id request.program := by
  cases request with
  | tick call =>
    exact ⟨[], [], .selecting, fun _ member => absurd member List.not_mem_nil, List.nodup_nil,
      fun _ member => absurd member List.not_mem_nil⟩
  | domainEvent engine event =>
    exact (transacts_reconcileEvent engine event).bind fun _ => transacts_pure _
  | annotateCallback commandId patch =>
    exact (transacts_annotateCommandCallback commandId patch).bind fun _ =>
      transacts_pure _
  | commandResult engine now request =>
    exact (transacts_createCommandResult engine now request).bind fun _ =>
      transacts_pure _

theorem CommandsRequest.Sound.of_throw {shared : Shared Store Write} {id : Nat} {call : Tick}
    {rest : Dispatch CommandsAnswer} {error : HttpException} (thrown : rest = .throw error) :
    (tick call).Sound shared id rest := by
  subst thrown
  exact ⟨[], [], .failed error, fun _ member => absurd member List.not_mem_nil, List.nodup_nil,
    fun _ member => absurd member List.not_mem_nil⟩

section Step

variable {system : CommandsSystem} {id : Nat} {request : CommandsRequest} {arrived : Nat}
  {write : Write} {rest : Option write.Result → Dispatch CommandsAnswer}

theorem Exclusive.holds_of_finishedRow (exclusive : Exclusive system)
    (found : system.sessions[id]? = some ⟨request, arrived, some (.transact write rest)⟩)
    {outboxId : String} (finished : write.finishedRow = some outboxId) :
    ∃ outbox, outbox.id = outboxId ∧ Outbox.Finishes outbox write ∧
      Holds system.shared id outbox := by
  have sound := exclusive id request arrived _ found
  cases request with
  | tick call =>
    rcases sound with ⟨candidates, held, position, _, _, holds⟩
    cases position.next with
    | claim => contradiction
    | finish outbox batch write rest _ isHeld finishes =>
      rw [Write.finishedRow_of_finishes finishes] at finished
      refine ⟨outbox, Option.some.inj finished, finishes, holds outbox ?_⟩
      rw [isHeld]
      exact List.mem_cons_self
  | _ =>
    cases sound with
    | transact _ _ leaves => exact absurd (leaves.1.symm.trans finished) nofun

theorem Holds.session_eq {shared : Shared Store Write} {first second : Nat}
    {left right : CommandOutbox} (holds : Holds shared first left)
    (other : Holds shared second right) (same : left.id = right.id) : first = second := by
  have claimedBy := holds.2
  rw [same, other.2] at claimedBy
  exact (Option.some.inj claimedBy).symm

variable {target : CommandsSystem}

/-- A row that a running session holds is not claimed. -/
theorem Permitted.unclaimable (permitted : Permitted system target) {after : Store}
    (committed : target.shared = system.shared.commit id write after) {holder : Nat}
    {session : Session Store Query Write Write.Result HttpException CommandsRequest CommandsAnswer}
    (stored : system.sessions[holder]? = some session) (running : hasEnded session.rest = false)
    {outbox : CommandOutbox} (holds : Holds system.shared holder outbox) {row : CommandOutbox}
    (isRow : system.shared.store.outbox? outbox.id = some row) (staleTime now : Int)
    (isClaim : write = .claim outbox.id staleTime now) : isClaimable staleTime row = false := by
  by_contra claimable
  subst isClaim
  rcases holds.1 with ⟨held, isHeld, _, _, locked⟩
  obtain rfl := Option.some.inj (isRow.symm.trans isHeld)
  have ended := permitted.claims id outbox.id staleTime now after committed row isRow
    (Bool.eq_true_of_not_eq_false claimable) locked holder holds.2 session stored
  rw [running] at ended
  contradiction

/-- The other ticks go on with what they have. -/
theorem Exclusive.sound_of_commit (exclusive : Exclusive system)
    (permitted : Permitted system target)
    (found : system.sessions[id]? = some ⟨request, arrived, some (.transact write rest)⟩)
    {after : Store} {result : write.Result}
    (run : write.body.run system.shared.store = some (after, result))
    (committed : target.shared = system.shared.commit id write after) {other : Nat}
    (isOther : other ≠ id) {otherRequest : CommandsRequest} {otherArrived : Nat}
    {otherRest : Dispatch CommandsAnswer}
    (stored : system.sessions[other]? = some ⟨otherRequest, otherArrived, some otherRest⟩) :
    otherRequest.Sound (system.shared.commit id write after) other otherRest := by
  have sound := exclusive other otherRequest otherArrived otherRest stored
  cases otherRequest with
  | tick call =>
    rcases sound with ⟨candidates, held, position, known, distinct, holds⟩
    refine ⟨candidates, held, position, ?_, distinct, ?_⟩
    · exact fun candidate member => (known candidate member).of_run run
    · intro outbox member
      have running : hasEnded (some otherRest) = false := by
        cases held with
        | nil => cases member
        | cons first batch => exact position.not_hasEnded
      apply (holds outbox member).commit run
      · intro finished
        rcases exclusive.holds_of_finishedRow found finished with ⟨own, sameRow, _, ownHolds⟩
        exact isOther ((holds outbox member).session_eq ownHolds sameRow.symm)
      · exact fun row isRow =>
          permitted.unclaimable committed stored running (holds outbox member) isRow
  | domainEvent | annotateCallback | commandResult => exact sound

theorem Working.commit {tick : Tick} {candidates held : List CommandOutbox}
    (working : Working tick system.shared id candidates held (.transact write rest))
    (permitted : Permitted system target)
    (found : system.sessions[id]? = some ⟨request, arrived, some (.transact write rest)⟩)
    {after : Store} {result : write.Result}
    (run : write.body.run system.shared.store = some (after, result))
    (committed : target.shared = system.shared.commit id write after) : ∃ candidates held,
      Working tick (system.shared.commit id write after) id candidates held
        (rest (some result)) := by
  rcases working with ⟨position, known, distinct, holds⟩
  have stillKnown : ∀ candidate ∈ candidates, after.Knows candidate :=
    fun candidate member => (known candidate member).of_run run
  have unclaimable {outbox : CommandOutbox} (member : outbox ∈ held) {row : CommandOutbox}
      (isRow : system.shared.store.outbox? outbox.id = some row) :
      ∀ staleTime now, write = .claim outbox.id staleTime now → isClaimable staleTime row = false :=
    permitted.unclaimable committed found rfl (holds outbox member) isRow
  have next := position.next
  clear position found
  cases next with
  | claim candidate later rest isNext onFound onMissing _ =>
    subst isNext
    have knowsLater : ∀ other ∈ later, after.Knows other :=
      fun other member => stillKnown other (List.mem_cons_of_mem _ member)
    have stillHolds : ∀ outbox ∈ held,
        Holds (system.shared.commit id (.claim candidate.id (Outbox.staleTime tick) tick.now) after)
          id outbox :=
      fun outbox member =>
        (holds outbox member).commit run nofun fun row isRow => unclaimable member isRow
    rcases foundEq : result with _ | _
    · exact ⟨later, held, onMissing, knowsLater, distinct, stillHolds⟩
    · have claimed : Holds (system.shared.commit id
            (.claim candidate.id (Outbox.staleTime tick) tick.now) after) id
            (claimedOutbox tick.now candidate) :=
        holds_of_claim (known candidate List.mem_cons_self) run foundEq
      refine ⟨later, held ++ [claimedOutbox tick.now candidate], onFound, knowsLater, ?_, ?_⟩
      · rw [List.map_append, List.map_singleton, List.nodup_append]
        refine ⟨distinct, List.nodup_singleton _, ?_⟩
        intro rowId isHeld claimedId isClaimed sameRow
        obtain ⟨outbox, member, rfl⟩ := List.mem_map.mp isHeld
        rw [List.mem_singleton, id_claimedOutbox] at isClaimed
        subst isClaimed
        rcases (holds outbox member).1 with ⟨row, isRow, _⟩
        have free := unclaimable member isRow _ _ (congrArg
          (fun rowId => Write.claim rowId (Outbox.staleTime tick) tick.now) sameRow.symm)
        have wasFree := (outbox?_of_run_claim run).1
        rw [foundEq, ← sameRow, isRow, Option.any_some, free] at wasFree
        contradiction
      · intro outbox member
        rcases List.mem_append.mp member with old | new
        · exact stillHolds outbox old
        · rw [List.mem_singleton.mp new]
          exact claimed
  | finish outbox batch write rest noCandidates isHeld finishes onward _ =>
    subst noCandidates isHeld
    rw [List.map_cons, List.nodup_cons] at distinct
    refine ⟨[], batch, onward result, fun _ member => absurd member List.not_mem_nil,
      distinct.2, ?_⟩
    intro other member
    have inBatch := List.mem_cons_of_mem outbox member
    apply (holds other inBatch).commit run
    · rw [Write.finishedRow_of_finishes finishes]
      intro sameRow
      exact distinct.1 (List.mem_map.mpr ⟨other, member, (Option.some.inj sameRow).symm⟩)
    · exact fun row isRow => unclaimable inBatch isRow

/-- One session moves on soundly, and the others stay sound. -/
theorem exclusive_moveOn {shared : Shared Store Write} {moved : Option (Dispatch CommandsAnswer)}
    (others : ∀ (other : Nat) (request : CommandsRequest) (arrived : Nat)
      (rest : Dispatch CommandsAnswer), other ≠ id →
        system.sessions[other]? = some ⟨request, arrived, some rest⟩ →
          request.Sound shared other rest) (own : ∀ (request : CommandsRequest) (arrived : Nat)
      (before : Option (Dispatch CommandsAnswer)) (rest : Dispatch CommandsAnswer),
        moved = some rest → system.sessions[id]? = some ⟨request, arrived, before⟩ →
          request.Sound shared id rest) :
    Exclusive { shared, sessions := system.moveOn id moved } := by
  intro other request arrived rest found
  rcases System.getElem?_moveOn found with ⟨isOther, stays⟩ | ⟨rfl, isMoved, before, stored⟩
  · exact others other request arrived rest (Ne.symm isOther) stays
  · exact own request arrived before rest isMoved.symm stored

theorem Exclusive.step (exclusive : Exclusive system) (permitted : Permitted system target)
    (step : System.Step (fun label : Write => label.body.run) CommandsRequest.program Conditions.none system target) :
    Exclusive target := by
  cases step with
  | arrive added allowed =>
    intro other request arrived rest found
    rcases Transition.getElem?_append_singleton_eq_some_iff.mp found with old | ⟨_, new⟩
    · exact exclusive other request arrived rest old
    · cases new
      exact CommandsRequest.sound_program _ _ _
  | query id request arrived name rest found allowed =>
    apply exclusive_moveOn fun other request arrived rest _ => exclusive other request arrived rest
    intro request' arrived' before moved isMoved stored
    cases isMoved
    cases found.symm.trans stored
    have sound := exclusive id request arrived _ found
    cases request with
    | tick call =>
      rcases sound with ⟨candidates, held, position, known, distinct, holds⟩
      rcases position.query system.shared.store with ⟨later, onward, seen⟩
      refine ⟨later, held, onward, ?_, distinct, holds⟩
      intro candidate member
      exact ⟨candidate, Table.find?_eq_some_iff.mpr ⟨seen candidate member, rfl⟩, rfl⟩
    | _ =>
      cases sound with
      | query _ _ transacts => exact transacts system.shared.store
  | commit id request arrived write rest after result found allowed run =>
    apply exclusive_moveOn
    · intro other request' arrived' rest' isOther stored
      exact exclusive.sound_of_commit permitted found run rfl isOther stored
    · intro request' arrived' before moved isMoved stored
      cases isMoved
      cases found.symm.trans stored
      have sound := exclusive id request arrived _ found
      cases request with
      | tick call =>
        rcases sound with ⟨candidates, held, working⟩
        exact working.commit permitted found run rfl
      | _ =>
        cases sound with
        | transact _ _ _ transacts => exact transacts (some result)
  | abort id request arrived write rest found =>
    apply exclusive_moveOn fun other request arrived rest _ => exclusive other request arrived rest
    intro request' arrived' before moved isMoved stored
    cases isMoved
    cases found.symm.trans stored
    have sound := exclusive id request arrived _ found
    cases request with
    | tick call =>
      rcases sound with ⟨candidates, held, position, known, distinct, holds⟩
      cases position.next with
      | claim candidate later rest isNext _ _ thrown => exact .of_throw thrown
      | finish outbox batch write rest _ _ _ _ failed =>
        rcases failed with thrown | again
        · exact .of_throw thrown
        · exact ⟨[], held, again, fun _ member => absurd member List.not_mem_nil, distinct,
            holds⟩
    | _ =>
      cases sound with
      | transact _ _ _ transacts => exact transacts none
  | stop id =>
    apply exclusive_moveOn fun other request arrived rest _ => exclusive other request arrived rest
    intro request' arrived' before moved isMoved
    cases isMoved

end Step

end Csms.Commands
