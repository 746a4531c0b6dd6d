import Csms.Billing.Credits
import Csms.Billing.Kinds

/-!
# What a duplicate stands for

A delivery whose event is recorded is answered as a duplicate, and the record is
written before the event is processed.  So a duplicate stands for a processed
event only as long as no delivery leaves a record behind that it has not brought
to `PROCESSED` or `IGNORED`.
-/

namespace Csms.Billing.Webhooks

open Database

def Did (session : Nat) (commits : List (Commit Store Write)) (write : Write) : Prop :=
  ∃ commit ∈ commits, commit.session = session ∧ commit.label = write

/-- The session has recorded the event and done what its status asks for: nothing, or
applying the status to a payment intent; and it has marked the record so. -/
def CompletedBy (session : Nat) (provider : PaymentProvider) (eventId : String)
    (status : Option PaymentIntentFinalStatus) (commits : List (Commit Store Write)) : Prop :=
  ∃ recordId eventType,
    Did session commits (.createWebhookEvent recordId provider eventId eventType) ∧
      match status with
      | none => Did session commits (.markEventStatus recordId .ignored none none)
      | some status => ∃ existing input now,
          input.provider = some provider ∧ input.status = status ∧
            Did session commits (.applyFinalStatus existing input now) ∧
              Did session commits (.markEventStatus recordId .processed (some existing.id) none)

/-- Some delivery has fully processed the event. -/
def Completed (provider : PaymentProvider) (eventId : String)
    (commits : List (Commit Store Write)) : Prop :=
  ∃ session status, CompletedBy session provider eventId status commits

/-- A record says that its event needs no further processing. -/
def IsFinished (record : PaymentWebhookEvent) : Bool :=
  record.status = .ignored || record.status = .processed

/-- When a delivery looks for its event, no earlier delivery has left a record of it
unfinished. -/
def recordsFinished : Conditions Store Query Write BillingRequest where
  onArrive _ _ := true
  onQuery _ name shared :=
    match name with
    | .webhookEvent provider eventId =>
      (Store.webhookEvent shared.store provider eventId).all IsFinished
    | _ => true
  onCommit _ _ _ := true

section Histories

variable {session : Nat} {commits more : List (Commit Store Write)} {provider : PaymentProvider}
  {eventId : String} {status : Option PaymentIntentFinalStatus}

theorem Did.mono {write : Write} (included : commits ⊆ more) (did : Did session commits write) :
    Did session more write := by
  rcases did with ⟨commit, member, bySession, isWrite⟩
  exact ⟨commit, included member, bySession, isWrite⟩

theorem did_commit (shared : Shared Store Write) (session : Nat) (write : Write) (after : Store) :
    Did session (shared.commit session write after).commits write :=
  ⟨_, shared.mem_commits_commit session write after, rfl, rfl⟩

theorem CompletedBy.mono (included : commits ⊆ more)
    (completed : CompletedBy session provider eventId status commits) :
    CompletedBy session provider eventId status more := by
  rcases completed with ⟨recordId, eventType, created, done⟩
  refine ⟨recordId, eventType, created.mono included, ?_⟩
  cases status with
  | none => exact done.mono included
  | some status =>
    rcases done with ⟨existing, input, now, ofProvider, isStatus, applied, marked⟩
    exact ⟨existing, input, now, ofProvider, isStatus, applied.mono included,
      marked.mono included⟩

theorem Completed.mono (included : commits ⊆ more) (completed : Completed provider eventId commits) :
    Completed provider eventId more := by
  rcases completed with ⟨session, status, bySession⟩
  exact ⟨session, status, bySession.mono included⟩

end Histories

/-- Finished records are of events that were fully processed. -/
def RecordsCompleted (shared : Shared Store Write) : Prop :=
  ∀ record ∈ shared.store.webhookEvents.rows, IsFinished record = true →
    Completed record.provider record.eventId shared.commits

/-- Commits and the identity of records last. -/
structure Lasts (earlier later : Shared Store Write) : Prop where
  commits : earlier.commits ⊆ later.commits
  records : ∀ id record, Store.webhookEventTable.find? id earlier.store = some record →
    ∃ now, Store.webhookEventTable.find? id later.store = some now ∧
      now.provider = record.provider ∧ now.eventId = record.eventId

theorem lasts_refl (shared : Shared Store Write) : Lasts shared shared :=
  ⟨List.Subset.refl _, fun _ record found => ⟨record, found, rfl, rfl⟩⟩

theorem Lasts.trans {first second third : Shared Store Write} (left : Lasts first second)
    (right : Lasts second third) : Lasts first third := by
  refine ⟨List.Subset.trans left.commits right.commits, ?_⟩
  intro id record found
  obtain ⟨middle, middleFound, sameProvider, sameEvent⟩ := left.records id record found
  obtain ⟨last, lastFound, lastProvider, lastEvent⟩ := right.records id middle middleFound
  exact ⟨last, lastFound, lastProvider.trans sameProvider, lastEvent.trans sameEvent⟩

def Recorded (session : Nat) (recordId : String) (provider : PaymentProvider)
    (eventId : String) (shared : Shared Store Write) : Prop :=
  (∃ eventType, Did session shared.commits
    (.createWebhookEvent recordId provider eventId eventType)) ∧
    ∃ record, Store.webhookEventTable.find? recordId shared.store = some record ∧
      record.provider = provider ∧ record.eventId = eventId

theorem Recorded.lasts {session : Nat} {recordId : String} {provider : PaymentProvider}
    {eventId : String} {earlier later : Shared Store Write} (lasts : Lasts earlier later)
    (recorded : Recorded session recordId provider eventId earlier) :
    Recorded session recordId provider eventId later := by
  rcases recorded with ⟨⟨eventType, created⟩, record, found, isProvider, isEvent⟩
  obtain ⟨now, nowFound, sameProvider, sameEvent⟩ := lasts.records recordId record found
  exact ⟨⟨eventType, created.mono lasts.commits⟩, now, nowFound, sameProvider.trans isProvider,
    sameEvent.trans isEvent⟩

section Commits

variable {shared : Shared Store Write} (session : Nat) {write : Write} {after : Store}

theorem mem_webhookEvents_insert {row record : PaymentWebhookEvent} {store : Store}
    (free : Store.webhookEventTable.find? row.id store = none) :
    record ∈ (Store.webhookEventTable.insert row store).webhookEvents.rows ↔
      record ∈ store.webhookEvents.rows ∨ record = row := by
  have rows := Component.rows_insert free
  change (Store.webhookEventTable.insert row store).webhookEvents.rows = _ at rows
  rw [rows, List.mem_append, List.mem_singleton]
  rfl

theorem mem_webhookEvents_update {id : String} {change : PaymentWebhookEvent → PaymentWebhookEvent}
    (keeps : ∀ event, (change event).id = event.id) {record : PaymentWebhookEvent} {store : Store} :
    record ∈ (Store.webhookEventTable.update id change keeps store).webhookEvents.rows ↔
      ∃ old ∈ store.webhookEvents.rows,
        (old.id = id ∧ record = change old) ∨ (old.id ≠ id ∧ record = old) := by
  have changed : record ∈ (Store.webhookEventTable.table
      (Store.webhookEventTable.update id change keeps store)).rows ↔ _ := Component.mem_update
  exact changed

theorem Effect.webhookEvents_eq {store : Store} (effect : Effect write store after)
    (other : write.kind ≠ .webhookEvent) : after.webhookEvents = store.webhookEvents := by
  cases effect with
  | createWebhookEvent => exact absurd rfl other
  | markEventStatus => exact absurd rfl other
  | _ => rfl

theorem commit_of_other (effect : Effect write shared.store after)
    (other : write.kind ≠ .webhookEvent) (completed : RecordsCompleted shared) :
    Lasts shared (shared.commit session write after) ∧
      RecordsCompleted (shared.commit session write after) := by
  have same := Effect.webhookEvents_eq effect other
  have included := shared.subset_commits_commit session write after
  constructor
  · refine ⟨included, ?_⟩
    intro id record found
    refine ⟨record, ?_, rfl, rfl⟩
    change after.webhookEvents.find? id = some record
    rw [same]
    exact found
  · intro record member isFinished
    rw [Shared.store_commit, same] at member
    exact (completed record member isFinished).mono included

theorem commit_of_create {id : String} {provider : PaymentProvider} {eventId eventType : String}
    (isCreate : write = .createWebhookEvent id provider eventId eventType)
    (effect : Effect write shared.store after) (completed : RecordsCompleted shared) :
    Lasts shared (shared.commit session write after) ∧
      RecordsCompleted (shared.commit session write after) ∧
        Recorded session id provider eventId (shared.commit session write after) := by
  have included := shared.subset_commits_commit session write after
  have did := did_commit shared session write after
  subst isCreate
  generalize store_eq : shared.store = store at effect
  cases effect with
  | createWebhookEvent id provider eventId eventType store free _ =>
    subst store_eq
    refine ⟨⟨included, ?_⟩, ?_, ⟨eventType, did⟩, ?_⟩
    · intro other record found
      refine ⟨record, ?_, rfl, rfl⟩
      rw [Shared.store_commit, Component.find?_insert, found, Option.some_or]
    · intro record member isFinished
      rcases (mem_webhookEvents_insert free).mp member with old | rfl
      · exact (completed record old isFinished).mono included
      · contradiction
    · refine ⟨⟨id, provider, eventId, eventType, none, .received, none⟩, ?_, rfl, rfl⟩
      rw [Shared.store_commit, Component.find?_insert, free, Option.none_or, if_pos rfl]

/-- A record may be marked as finished by the session that has recorded and processed
its event. -/
theorem commit_of_mark {id : String} {status : WebhookEventStatus}
    {paymentIntentId errorMessage : Option String} {provider : PaymentProvider} {eventId : String}
    (isMark : write = .markEventStatus id status paymentIntentId errorMessage)
    (effect : Effect write shared.store after) (completed : RecordsCompleted shared)
    (recorded : Recorded session id provider eventId shared)
    (done : status = .ignored ∨ status = .processed →
      Completed provider eventId (shared.commit session write after).commits) :
    Lasts shared (shared.commit session write after) ∧
      RecordsCompleted (shared.commit session write after) := by
  have included := shared.subset_commits_commit session write after
  subst isMark
  generalize store_eq : shared.store = store at effect
  cases effect with
  | markEventStatus id status paymentIntentId errorMessage event store found =>
    subst store_eq
    refine ⟨⟨included, ?_⟩, ?_⟩
    · intro other record otherFound
      rw [Shared.store_commit, Component.find?_update]
      by_cases isMarked : other = id
      · subst isMarked
        rw [if_pos rfl, otherFound]
        exact ⟨_, rfl, rfl, rfl⟩
      · rw [if_neg isMarked]
        exact ⟨record, otherFound, rfl, rfl⟩
    · intro record member isFinished
      rcases (mem_webhookEvents_update _).mp member with ⟨old, oldMem, ⟨isMarked, rfl⟩ | ⟨-, rfl⟩⟩
      · obtain ⟨-, row, rowFound, rfl, rfl⟩ := recorded
        have isRow : old = row := Option.some.inj
          ((Table.find?_eq_some_iff.mpr ⟨oldMem, isMarked⟩).symm.trans rowFound)
        subst isRow
        apply done
        rwa [IsFinished, eventStatusChange, Bool.or_eq_true, decide_eq_true_eq,
          decide_eq_true_eq] at isFinished
      · exact (completed _ oldMem isFinished).mono included

end Commits

/-- What an answer to a delivery of an event stands for: a duplicate is of an event that
was fully processed, and otherwise this session has processed it, unless there was no
payment intent for it. -/
structure Stands (id : Nat) (provider : PaymentProvider) (event : NormalizedWebhookEvent)
    (duplicate : Bool) (status : WebhookEventStatus) (commits : List (Commit Store Write)) :
    Prop where
  ofDuplicate : duplicate = true → Completed provider event.eventId commits
  ofProcessed : duplicate = false → status ≠ .failed →
    CompletedBy id provider event.eventId event.status commits

def OutcomeStands (id : Nat) (provider : PaymentProvider) (event : NormalizedWebhookEvent)
    (outcome : Except CommerceException BillingAnswer) (shared : Shared Store Write) : Prop :=
  ∀ duplicate ids intentId status message,
    outcome = .ok (.webhook duplicate ids intentId status message) →
      Stands id provider event duplicate status shared.commits

theorem outcomeStands_error {id : Nat} {provider : PaymentProvider} {event : NormalizedWebhookEvent}
    (error : CommerceException) (shared : Shared Store Write) :
    OutcomeStands id provider event (.error error) shared :=
  fun _ _ _ _ _ isOk => nomatch isOk

/-- A request that keeps commits and the identity of records, and completes what it marks
as finished. -/
abbrev Completes {α : Type} (request : BillingRequest) (id : Nat)
    (post : Except CommerceException α → Shared Store Write → Prop) (program : Commerce α)
    (shared : Shared Store Write) : Prop :=
  program.Meets (fun write => write.body.run) recordsFinished RecordsCompleted Lasts request id
    post shared

section Programs

variable {request : BillingRequest} {id : Nat} {shared : Shared Store Write}

theorem completes_of_transacts {α : Type} {program : Commerce α}
    (transacts : program.Transacts fun write => write.kind ≠ .webhookEvent) :
    Completes request id (fun _ _ => True) program shared := by
  apply transacts.meets
  intro shared write after result completed other _ succeeds
  exact commit_of_other id (Write.effect_of_run succeeds) other completed

/-- The session has applied the status to the intent that it got back. -/
def Applied (id : Nat) (input : ApplyFinalStatusInput)
    (outcome : Except CommerceException PaymentIntent) (shared : Shared Store Write) : Prop :=
  ∀ updated, outcome = .ok updated → ∃ existing now, existing.id = updated.id ∧
    Did id shared.commits (.applyFinalStatus existing input now)

theorem completes_applyFinalStatus (call : Call) (input : ApplyFinalStatusInput)
    (completed : RecordsCompleted shared) :
    Completes request id (Applied id input) (applyFinalStatus call input) shared := by
  have nothing (error : CommerceException) (later : Shared Store Write) :
      Applied id input (.error error) later := fun _ isOk => nomatch isOk
  refine Request.Meets.bind lasts_refl
    (completes_of_transacts (transacts_resolveIntent _ _ _ _)) completed ?_
    fun error later _ => nothing error later
  intro found later _ _
  refine meets_ofExcept_bind ?_ fun error _ further _ _ => nothing error further
  intro existing _
  refine meets_ofExcept_bind ?_ fun error _ further _ _ => nothing error further
  intro _ _
  refine (meets_commit (Write.applyFinalStatus existing input call.now) _).mpr ?_
  intro before _ beforeCompleted
  refine ⟨fun further _ _ => nothing _ further, ?_⟩
  intro _ after updated succeeds
  have kept := commit_of_other id (Write.effect_of_run succeeds) nofun beforeCompleted
  refine ⟨kept.1, kept.2, ?_⟩
  rintro further lasts _ _ ⟨rfl⟩
  exact ⟨existing, call.now, (id_of_run_applyFinalStatusTx succeeds).symm,
    (did_commit before id _ after).mono lasts.commits⟩

variable {provider : PaymentProvider} {event : NormalizedWebhookEvent} {recordId : String}

theorem completes_recorded {α : Type} {program : Commerce α}
    {post : Except CommerceException α → Shared Store Write → Prop}
    (completes : Completes request id post program shared)
    (recorded : Recorded id recordId provider event.eventId shared) : Completes request id
      (fun outcome later => post outcome later ∧
        Recorded id recordId provider event.eventId later) program shared :=
  Request.Meets.frame (Recorded id recordId provider event.eventId)
    (fun _ _ => Recorded.lasts) completes recorded

/-- The last step of processing an event that was recorded. -/
theorem completes_mark {status : WebhookEventStatus} (paymentIntentId errorMessage : Option String)
    (intentId message : Option String)
    (recorded : Recorded id recordId provider event.eventId shared)
    (finishes : status ≠ .failed → ∀ later after, Lasts shared later →
      CompletedBy id provider event.eventId event.status
        (later.commit id (.markEventStatus recordId status paymentIntentId errorMessage)
          after).commits) : Completes request id (OutcomeStands id provider event)
      (do
        let _ ← (execute (.markEventStatus recordId status paymentIntentId errorMessage) :
          Commerce Unit)
        return .webhook false (event.eventId, event.eventType) intentId status message)
      shared := by
  refine (Request.meets_commit_bind
    (Write.markEventStatus recordId status paymentIntentId errorMessage) _ _).mpr ?_
  intro later lasts completed
  refine ⟨fun further _ _ => outcomeStands_error _ further, ?_⟩
  intro _ after result succeeds
  have kept := commit_of_mark id rfl (Write.effect_of_run succeeds) completed
    (recorded.lasts lasts) fun isFinished =>
      ⟨id, event.status, finishes (by rintro rfl; simp at isFinished) later after lasts⟩
  refine ⟨kept.1, kept.2, (meets_pure _).mpr ?_⟩
  rintro further lastsOn _ duplicate ids _ _ _ ⟨rfl⟩
  constructor
  · exact nofun
  · intro _ notFailed
    exact (finishes notFailed later after lasts).mono lastsOn.commits

theorem completes_processEvent (call : Call)
    (recorded : Recorded id recordId provider event.eventId shared)
    (completed : RecordsCompleted shared) : Completes request id (OutcomeStands id provider event)
      (processEvent call provider event recordId) shared := by
  rw [processEvent]
  rcases isStatus : event.status with _ | status
  · apply completes_mark none none none _ recorded
    intro _ later after lasts
    rcases (recorded.lasts lasts).1 with ⟨eventType, created⟩
    rw [isStatus]
    exact ⟨recordId, eventType, created.mono (later.subset_commits_commit _ _ _),
      did_commit later id _ after⟩
  · refine Request.Meets.bind lasts_refl
      (completes_recorded (completes_of_transacts (transacts_resolveIntent _ _ _ _)) recorded)
      completed ?_
      fun error later _ => outcomeStands_error error later
    rintro (_ | intent) later laterCompleted ⟨-, stillRecorded⟩
    · exact completes_mark none _ none _ stillRecorded fun notFailed => absurd rfl notFailed
    · refine Request.Meets.bind lasts_refl
        (completes_recorded (completes_applyFinalStatus call _ laterCompleted) stillRecorded)
        laterCompleted ?_
        fun error further _ => outcomeStands_error error further
      rintro reconciled further furtherCompleted ⟨applied, recordedOn⟩
      obtain ⟨existing, now, isReconciled, did⟩ := applied reconciled rfl
      apply completes_mark _ none _ none recordedOn
      intro _ last after lasts
      have included := last.subset_commits_commit id
        (.markEventStatus recordId .processed (some reconciled.id) none) after
      rcases (recordedOn.lasts lasts).1 with ⟨eventType, created⟩
      rw [isStatus]
      refine ⟨recordId, eventType, created.mono included, existing, _, now, rfl, rfl,
        (did.mono lasts.commits).mono included, ?_⟩
      rw [isReconciled]
      exact did_commit last id _ after

theorem completes_handleWebhook (runtime : Runtime) (call : Call) (delivery : Delivery) :
    Completes request id (OutcomeStands id delivery.provider (delivery.event runtime))
      (handleWebhook runtime call delivery) shared := by
  refine meets_ofExcept_bind ?_ fun error _ later _ _ => outcomeStands_error error later
  intro _ _
  refine (meets_read_bind _ _ _).mpr ?_
  intro read _ completed isAllowed
  rcases found : Store.webhookEvent read.store delivery.provider (delivery.event runtime).eventId
    with _ | record
  · refine (Request.meets_commit_bind (Write.createWebhookEvent call.webhookEventId
      delivery.provider (delivery.event runtime).eventId (delivery.event runtime).eventType)
      _ _).mpr ?_
    intro later _ laterCompleted
    refine ⟨fun further _ _ => outcomeStands_error _ further, ?_⟩
    intro _ after created succeeds
    obtain ⟨lasts, stillCompleted, recorded⟩ :=
      commit_of_create id rfl (Write.effect_of_run succeeds) laterCompleted
    have isRecord : created.id = call.webhookEventId := id_of_run_createWebhookEvent succeeds
    refine ⟨lasts, stillCompleted, ?_⟩
    exact completes_processEvent call (isRecord ▸ recorded) stillCompleted
  · refine (meets_pure _).mpr ?_
    rintro later lasts _ duplicate ids _ _ _ ⟨rfl⟩
    refine ⟨fun _ => ?_, nofun⟩
    have isFinished : IsFinished record = true := by
      simpa [recordsFinished, found] using isAllowed
    obtain ⟨isProvider, isEvent⟩ : record.provider = delivery.provider ∧
        record.eventId = (delivery.event runtime).eventId := by
      simpa using List.find?_some found
    have wasCompleted := completed record (List.mem_of_find?_eq_some found) isFinished
    rw [isProvider, isEvent] at wasCompleted
    exact wasCompleted.mono lasts.commits

end Programs

theorem completes_program (runtime : Runtime) (request : BillingRequest) (id : Nat)
    (shared : Shared Store Write) : Completes request id
      (fun outcome later => ∀ call delivery, request = .handleWebhook call delivery →
        OutcomeStands id delivery.provider (delivery.event runtime) outcome later)
      (request.program runtime) shared := by
  by_cases isDelivery : ∃ call delivery, request = .handleWebhook call delivery
  · rcases isDelivery with ⟨call, delivery, rfl⟩
    apply (completes_handleWebhook runtime call delivery).imp
    rintro outcome later stands _ _ ⟨rfl⟩
    exact stands
  · have others : (request.program runtime).Transacts fun write => write.kind ≠ .webhookEvent := by
      apply (request.transacts_program runtime).imp
      intro write isKind isEvent
      rw [isEvent] at isKind
      cases request with
      | handleWebhook call delivery => exact isDelivery ⟨call, delivery, rfl⟩
      | _ => simp [BillingRequest.kinds] at isKind
    apply (completes_of_transacts others).imp
    intro outcome later _ call delivery isRequest
    exact absurd ⟨call, delivery, isRequest⟩ isDelivery

/-- In every run in which no delivery meets an unfinished record of its event, a delivery
that is answered as a duplicate is of an event that was fully processed, and one that is
answered otherwise has had its effect, unless there was no payment intent for it. -/
theorem answers_stand (runtime : Runtime) {store : Store} (nothing : store.webhookEvents.rows = [])
    {state : BillingState} (reachable : state.Reachable runtime recordsFinished store) :
    ∀ id call delivery arrived duplicate ids intentId status message, state.sessions[id]? =
          some ⟨.handleWebhook call delivery, arrived,
            .outside (.answer (.webhook duplicate ids intentId status message))⟩ →
        Stands id delivery.provider (delivery.event runtime) duplicate status
          state.shared.commits := by
  have meets := ReadCommitted.Reachable.meets Write.guarded RecordsCompleted Lasts
    (fun request id _ outcome shared => ∀ call delivery, request = .handleWebhook call delivery →
      OutcomeStands id delivery.provider (delivery.event runtime) outcome shared)
    lasts_refl (fun _ _ _ => Lasts.trans)
    (fun record member => absurd (nothing ▸ member) List.not_mem_nil)
    (fun request id shared _ _ => completes_program runtime request id shared) reachable
  intro id call delivery arrived duplicate ids intentId status message answered
  exact meets.2 id _ arrived _ answered call delivery rfl duplicate ids intentId status message rfl

namespace Sample

open Js Billing.Sample

def succeeded : Delivery where
  provider := .stripe
  isValidSignature := true
  payload :=
    .object fun key =>
      match key with
      | "id" => .string "evt_1"
      | "type" => .string "payment_intent.succeeded"
      | "data" =>
        .object fun _ => .object fun key => if key = "id" then .string "pi_1" else .undefined
      | _ => .undefined
  rawBody := ""

def redelivered : List (DatabaseEvent BillingRequest) :=
  pendingTopUp 0 ++
    [.arrive (.handleWebhook (call "b") succeeded), .query 1, .begin 1, .statement 1, .commit 1,
      .query 1, .query 1, .begin 1, .statement 1, .statement 1, .statement 1, .statement 1,
      .commit 1, .begin 1, .statement 1, .commit 1,
      .arrive (.handleWebhook (call "c") succeeded), .query 2]

def tooEarly : List (DatabaseEvent BillingRequest) :=
  [.arrive (.handleWebhook (call "b") succeeded), .query 0, .begin 0, .statement 0, .commit 0,
    .query 0, .begin 0, .statement 0, .commit 0] ++
    pendingTopUp 1 ++ [.arrive (.handleWebhook (call "c") succeeded), .query 2]

def answers (state : BillingState) : List (Option (Bool × WebhookEventStatus)) :=
  state.sessions.map fun session =>
    match session.progress with
    | .outside (.answer (.webhook duplicate _ _ status _)) => some (duplicate, status)
    | _ => none

def isPreliminary : Write → Bool
  | .applyFinalStatus .. | .markEventStatus _ .ignored .. => false
  | _ => true

end Sample

theorem answers_stand_redelivered : ∃ state : BillingState,
      Sample.answers state = [none, some (false, .processed), some (true, .processed)] ∧
        ∀ id call delivery arrived duplicate ids intentId status message, state.sessions[id]? =
              some ⟨.handleWebhook call delivery, arrived,
                .outside (.answer (.webhook duplicate ids intentId status message))⟩ →
            Stands id delivery.provider (delivery.event Billing.Sample.runtime) duplicate status
              state.shared.commits := by
  have run : (Billing.Sample.afterUnder recordsFinished Sample.redelivered).map Sample.answers =
      some [none, some (false, .processed), some (true, .processed)] := by
    decide +kernel
  rcases Option.map_eq_some_iff.mp run with ⟨state, reached, answers⟩
  exact ⟨state, answers, answers_stand Billing.Sample.runtime rfl
    (Transition.reachable_of_foldlM reached)⟩

/-- A notification that came before its payment intent is a duplicate when it comes again,
and the payment is never credited. -/
theorem tooEarly_swallows_redelivery : ∃ state : BillingState,
      state.Reachable Billing.Sample.runtime Conditions.none Billing.Sample.store ∧
        Sample.answers state = [some (false, .failed), none, some (true, .failed)] ∧
          state.shared.store.wallets.rows.map Wallet.balance = [0] ∧
            ¬ Completed .stripe "evt_1" state.shared.commits := by
  have run : (Billing.Sample.after Sample.tooEarly).map
      (fun state => (Sample.answers state, state.shared.store.wallets.rows.map Wallet.balance,
        state.shared.commits.all fun commit => Sample.isPreliminary commit.label)) =
        some ([some (false, .failed), none, some (true, .failed)], [0], true) := by
    decide +kernel
  rcases Option.map_eq_some_iff.mp run with ⟨state, reached, outcome⟩
  simp only [Prod.mk.injEq, List.all_eq_true] at outcome
  obtain ⟨answers, balances, preliminary⟩ := outcome
  refine ⟨state, Transition.reachable_of_foldlM reached, answers, balances, ?_⟩
  rintro ⟨session, status, recordId, eventType, -, done⟩
  have isDone {write : Write} (did : Did session state.shared.commits write) :
      Sample.isPreliminary write = true := by
    rcases did with ⟨commit, member, -, rfl⟩
    exact preliminary commit member
  cases status with
  | none => exact absurd (isDone done) Bool.false_ne_true
  | some status =>
    rcases done with ⟨existing, input, now, -, -, applied, -⟩
    exact absurd (isDone applied) Bool.false_ne_true

end Csms.Billing.Webhooks
