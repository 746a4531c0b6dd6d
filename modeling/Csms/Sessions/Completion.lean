import Csms.Sessions.Runs

/-!
# The completion of a session

A session is finished by messages of the gateway, which leave it completed, and by the consumer of
the billing, which leaves it stopped and passes over sessions that are stopped.  As long as the
other messages come for sessions that are not finished, what a session was finished with stays.
-/

namespace Csms.Sessions

open Js Service Transition

/-- `SessionCompletedPayload`, as far as it is read; an empty `endTime` counts as none. -/
structure SessionCompletedPayload where
  sessionId : String
  endTime : Option DateText
  energyDelivered : ℚ
  amount : Option ℚ

def SessionCompletedPayload.complete (data : SessionCompletedPayload) (endTime : Int)
    (session : Session) : Session :=
  { session with
    status := "STOPPED"
    endTime := some endTime
    meterStop := data.energyDelivered
    totalEnergy := data.energyDelivered
    amount := data.amount.getD 0 }

@[simp]
theorem SessionCompletedPayload.id_complete (data : SessionCompletedPayload) (endTime : Int)
    (session : Session) : (data.complete endTime session).id = session.id :=
  rfl

def handleSessionCompleted (handling : Handling) (topic : String)
    (data : SessionCompletedPayload) : SessionHandler Unit := do
  match (extractTenantFromTopic topic).filter (· ≠ "") with
  | none => return
  | some tenantId =>
    let store ← get
    match store.sessions.find? data.sessionId with
    | none => return
    | some existingSession =>
      if tenantId ∉ store.tenantsOf existingSession.stationId then return
      else if existingSession.status = "STOPPED" then return
      else
        match data.endTime.elim (some handling.now) dateParse with
        -- the database rejects the date, and the error is logged
        | none => return
        | some endTime =>
          modify fun store => { store with
            sessions := store.sessions.updateWhere (fun row => row.id = data.sessionId)
              (data.complete endTime) (data.id_complete endTime) }

/-- A message, to the handler of the sessions or to the billing. -/
inductive CompletionEvent
  | session (delivery : Delivery)
  | billing (handling : Handling) (topic : String) (data : SessionCompletedPayload)

def CompletionEvent.next (engine : SessionEngine) (store : Store) : CompletionEvent → Store
  | session delivery => delivery.next engine store
  | billing handling topic data => after (handleSessionCompleted handling topic data) store

def Session.isFinished (session : Session) : Bool :=
  session.status = "COMPLETED" || session.status = "STOPPED"

/-- What a session was finished with is still there. -/
def FinishedStay (before after : Store) : Prop :=
  ∀ session ∈ before.sessions.rows, session.isFinished = true →
    ∃ later, after.sessions.find? session.id = some later ∧ later.isFinished = true ∧
      later.totalEnergy = session.totalEnergy ∧ later.meterStop = session.meterStop ∧
      later.amount = session.amount

/-- A message for the transaction of a session finds it not finished, and one of the billing not
completed. -/
def FindsOpen (engine : SessionEngine) (store : Store) : CompletionEvent → Prop
  | .session delivery =>
    match delivery.op engine store with
    | .change tenantId txId _ =>
      ∀ session ∈ store.changeable tenantId txId, session.isFinished = false
    | _ => True
  | .billing _ _ data =>
    ∀ session ∈ store.sessions.find? data.sessionId, session.status ≠ "COMPLETED"

section Events

variable {engine : SessionEngine} {store : Store}

theorem finishedStay_refl (store : Store) : FinishedStay store store :=
  fun session member isFinished =>
    ⟨session, Table.find?_eq_some_iff.mpr ⟨member, rfl⟩, isFinished, rfl, rfl, rfl⟩

theorem FinishedStay.trans {first second third : Store} (left : FinishedStay first second)
    (right : FinishedStay second third) : FinishedStay first third := by
  intro session member isFinished
  obtain ⟨later, found, isStill, sameEnergy, sameStop, sameAmount⟩ := left session member isFinished
  obtain ⟨isLater, isId⟩ := Table.find?_eq_some_iff.mp found
  obtain ⟨last, isLast, isLastly, energy, stop, amount⟩ := right later isLater isStill
  rw [isId] at isLast
  exact ⟨last, isLast, isLastly, energy.trans sameEnergy, stop.trans sameStop,
    amount.trans sameAmount⟩

theorem finishedStay_of_find? {after : Store}
    (same : ∀ session ∈ store.sessions.rows, session.isFinished = true →
      after.sessions.find? session.id = some session) : FinishedStay store after :=
  fun session member isFinished =>
    ⟨session, same session member isFinished, isFinished, rfl, rfl, rfl⟩

theorem finishedStay_apply {newId : String} {op : SessionOp}
    (isOpen : ∀ tenantId txId change, op = .change tenantId txId change →
      ∀ session ∈ store.changeable tenantId txId, session.isFinished = false) :
    FinishedStay store (op.apply newId store) := by
  cases op with
  | ignore => exact finishedStay_refl store
  | start tenantId new =>
    rw [SessionOp.apply]
    rcases store.startable tenantId new with _ | chargePoint
    · exact finishedStay_refl store
    · rw [Option.elim_some]
      by_cases accepted : store.accepts newId { new with stationId := chargePoint.stationId } = true
      · refine finishedStay_of_find? fun session member _ => ?_
        rw [Store.find?_create store accepted, Table.find?_eq_some_iff.mpr ⟨member, rfl⟩,
          Option.some_or]
      · rw [Store.create, if_neg accepted]
        exact finishedStay_refl store
  | change tenantId txId change =>
    rw [SessionOp.apply]
    rcases found : store.changeable tenantId txId with _ | changed
    · exact finishedStay_refl store
    · refine finishedStay_of_find? fun session member isFinished => ?_
      rw [Option.elim_some, Store.find?_changeSession,
        Table.find?_eq_some_iff.mpr ⟨member, rfl⟩, Option.map_some, Store.changed, if_neg]
      intro sameId
      obtain rfl := store.sessions.eq_of_key_eq member
        (store.mem_of_sessionOf (changeable_eq_some found)) sameId
      rw [isOpen tenantId txId change rfl session found] at isFinished
      contradiction

theorem finishedStay_handleSessionCompleted {handling : Handling} {topic : String}
    {data : SessionCompletedPayload}
    (isOpen : ∀ session ∈ store.sessions.find? data.sessionId, session.status ≠ "COMPLETED") :
    FinishedStay store (after (handleSessionCompleted handling topic data) store) := by
  rw [handleSessionCompleted]
  split
  · exact finishedStay_refl store
  · rw [after_get_bind]
    split
    · exact finishedStay_refl store
    rename_i existing found
    split
    · exact finishedStay_refl store
    split
    · exact finishedStay_refl store
    rename_i notStopped
    split
    · exact finishedStay_refl store
    · refine finishedStay_of_find? fun session member isFinished => ?_
      change (store.sessions.updateWhere (fun row => row.id = data.sessionId) (data.complete _)
        (data.id_complete _)).find? session.id = _
      rw [Table.find?_updateWhere, Table.find?_eq_some_iff.mpr ⟨member, rfl⟩, Option.map_some,
        if_neg]
      intro sameId
      have isIt := (Table.find?_eq_some_iff.mp found).2
      obtain rfl := store.sessions.eq_of_key_eq member (Table.find?_eq_some_iff.mp found).1
        ((of_decide_eq_true sameId).trans isIt.symm)
      simp [Session.isFinished, isOpen session found, notStopped] at isFinished

theorem FindsOpen.finishedStay {event : CompletionEvent} (finds : FindsOpen engine store event) :
    FinishedStay store (event.next engine store) := by
  cases event with
  | session delivery =>
    rw [CompletionEvent.next, Delivery.next_eq]
    refine finishedStay_apply fun tenantId txId change isOp => ?_
    rw [FindsOpen, isOp] at finds
    exact finds
  | billing handling topic data => exact finishedStay_handleSessionCompleted finds

end Events

/-- In a run in which all messages find their sessions open, what a session was finished with is
there in all later states. -/
theorem finishedStay_of_findsOpen {engine : SessionEngine} {store : Store}
    {events : List CompletionEvent}
    (finds : StepsMeet (CompletionEvent.next engine) (FindsOpen engine) store events) :
    (states (CompletionEvent.next engine) store events).Pairwise FinishedStay := by
  have steps : StepsMeet (CompletionEvent.next engine)
      (fun store event => FinishedStay store (event.next engine store)) store events :=
    finds.imp fun _ _ isOpen => isOpen.finishedStay
  have trans (first second third : Store) (left : FinishedStay first second)
      (right : FinishedStay second third) : FinishedStay first third := left.trans right
  exact pairwise_states_of_stepsMeet trans steps

namespace Sample

def openedStore : Store :=
  { store with tenantsOf := fun _ => ["tenant"] }

def billed (amount : Option ℚ) : CompletionEvent :=
  .billing ⟨"", 100⟩ "v1/tenant/site/session/first/completed" ⟨"first", none, 5000, amount⟩

def stopped (payload : JsRecord) : CompletionEvent :=
  .session ⟨.ocpp (message "CP-A" "StopTransaction"
    (payload.with "transactionId" (.string "1001"))), ⟨"", 200⟩⟩

def stopLast : List CompletionEvent :=
  [billed (some 12), stopped JsRecord.empty]

def billLast : List CompletionEvent :=
  [stopped (JsRecord.empty.with "meterStop" (.number (.finite 9000))), billed none]

def visited (events : List CompletionEvent) : List Store :=
  states (CompletionEvent.next engine) openedStore events

def totals (store : Store) : Option (String × ℚ × ℚ × ℚ) :=
  (store.sessions.find? "first").map fun session =>
    (session.status, session.totalEnergy, session.meterStop, session.amount)

theorem not_finishedStay {before after : Store} {status status' : String}
    {values values' : ℚ × ℚ × ℚ} (isBefore : totals before = some (status, values))
    (isFinished : status = "COMPLETED" ∨ status = "STOPPED")
    (isAfter : totals after = some (status', values')) (differs : values' ≠ values) :
    ¬ FinishedStay before after := by
  intro stay
  obtain ⟨session, found, isSession⟩ := Option.map_eq_some_iff.mp isBefore
  obtain ⟨member, isId⟩ := Table.find?_eq_some_iff.mp found
  cases isSession
  obtain ⟨later, isLater, _, energy, stop, amount⟩ :=
    stay session member (by simpa [Session.isFinished] using isFinished)
  rw [isId] at isLater
  rw [totals, isLater, Option.map_some, energy, stop, amount] at isAfter
  cases isAfter
  exact differs rfl

theorem not_pairwise_visited {first second : CompletionEvent}
    {initial : Option (String × ℚ × ℚ × ℚ)} {status status' : String} {values values' : ℚ × ℚ × ℚ}
    (isVisited : (visited [first, second]).map totals =
      [initial, some (status, values), some (status', values')])
    (isFinished : status = "COMPLETED" ∨ status = "STOPPED") (differs : values' ≠ values) :
    ¬ (visited [first, second]).Pairwise FinishedStay := by
  simp only [visited, states_cons, states_nil, List.map_cons, List.map_nil, List.cons.injEq,
    and_true] at isVisited
  simp only [visited, states_cons, states_nil, List.pairwise_cons, List.mem_singleton, forall_eq]
  exact fun pairwise =>
    not_finishedStay isVisited.2.1 isFinished isVisited.2.2 differs pairwise.2.1

end Sample

open Sample

/-- A session that is completed for the billing once, and then again. -/
theorem finishedStay_of_findsOpen_billed :
    (states (CompletionEvent.next engine) openedStore
      [billed (some 12), billed none]).Pairwise FinishedStay := by
  refine finishedStay_of_findsOpen ⟨?_, ?_, trivial⟩
  · change ∀ session ∈ _, _
    decide +kernel
  · change ∀ session ∈ _, _
    decide +kernel

/-- A stop without a reading after the billing takes the energy back, and the billing after a stop
overwrites the reading and takes the amount as zero. -/
theorem finished_is_overwritten : ((visited Sample.stopLast).map totals =
        [some ("ACTIVE", 5000, 6000, 0), some ("STOPPED", 5000, 5000, 12),
          some ("COMPLETED", 0, 0, 12)] ∧
      ¬ (visited Sample.stopLast).Pairwise FinishedStay) ∧
    (visited Sample.billLast).map totals =
        [some ("ACTIVE", 5000, 6000, 0), some ("COMPLETED", 8000, 9000, 0),
          some ("STOPPED", 5000, 5000, 0)] ∧
      ¬ (visited Sample.billLast).Pairwise FinishedStay := by
  have stopLast : (visited Sample.stopLast).map totals =
      [some ("ACTIVE", 5000, 6000, 0), some ("STOPPED", 5000, 5000, 12),
        some ("COMPLETED", 0, 0, 12)] := by decide +kernel
  have billLast : (visited Sample.billLast).map totals =
      [some ("ACTIVE", 5000, 6000, 0), some ("COMPLETED", 8000, 9000, 0),
        some ("STOPPED", 5000, 5000, 0)] := by decide +kernel
  exact ⟨⟨stopLast, not_pairwise_visited stopLast (Or.inr rfl) (by decide)⟩,
    billLast, not_pairwise_visited billLast (Or.inl rfl) (by decide)⟩

end Csms.Sessions
