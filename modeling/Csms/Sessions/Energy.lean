import Csms.Sessions.Runs

/-!
# The energy of a session

A reading sets the stored energy to what was delivered since the start, so while
readings do not decrease, neither does the energy.  An end without a reading falls
back on the start of the session, or on zero, and keeps the energy only when that
is what it would have set.
-/

namespace Csms.Sessions

open Js Transition

namespace SessionChange

/-- The reading that a message carries. -/
def reading : SessionChange → Option ℚ
  | telemetry meterWh => some meterWh
  | stop meterStop _ => meterStop
  | finish meterWh _ => meterWh
  | deliver energyDelivered _ => some energyDelivered

/-- Whether it is a change of the gateway, whose energy is computed from readings. -/
def isMetered : SessionChange → Bool
  | deliver _ _ => false
  | _ => true

theorem totalEnergy_apply_of_reading {change : SessionChange} (metered : change.isMetered = true)
    {meterWh : ℚ} (carries : change.reading = some meterWh) (session : Session) :
    (change.apply session).totalEnergy = max 0 (meterWh - session.meterStart) := by
  cases change with
  | telemetry | stop | finish =>
    cases carries
    rfl
  | deliver energyDelivered endTime => cases metered

end SessionChange

/-- A change that is made for no tenant, and is metered. -/
def SessionOp.IsMetered : SessionOp → Prop
  | change tenantId _ step => tenantId = none ∧ step.isMetered = true
  | _ => True

section Metered

theorem isMetered_elim {α : Type} {found : Option α} {op : α → SessionOp}
    (metered : ∀ value, (op value).IsMetered) : (found.elim SessionOp.ignore op).IsMetered := by
  rcases found with _ | value
  · trivial
  · exact metered value

theorem isMetered_ite {condition : Prop} [Decidable condition] {left right : SessionOp}
    (onTrue : left.IsMetered) (onFalse : right.IsMetered) :
    (if condition then left else right).IsMetered := by
  split
  · exact onTrue
  · exact onFalse

variable (engine : SessionEngine) (handling : Handling)

theorem isMetered_startOp (ocppId : String) (payload : JsRecord) :
    (startOp engine handling ocppId payload).IsMetered :=
  trivial

theorem isMetered_stopOp (payload : JsRecord) : (stopOp engine handling payload).IsMetered :=
  isMetered_elim fun _ => ⟨rfl, rfl⟩

theorem isMetered_transactionEventOp (ocppId : String) (payload : JsRecord) :
    (transactionEventOp engine handling ocppId payload).IsMetered := by
  apply isMetered_elim
  intro txId
  apply isMetered_ite (isMetered_startOp engine handling _ _)
  apply isMetered_ite
  · apply isMetered_elim
    exact fun _ => ⟨rfl, rfl⟩
  · exact isMetered_ite ⟨rfl, rfl⟩ trivial

theorem isMetered_ocppOp (message : JsValue) : (ocppOp engine handling message).IsMetered := by
  apply isMetered_elim
  intro chargePointId
  apply isMetered_ite (isMetered_startOp engine handling _ _)
  apply isMetered_ite (isMetered_stopOp engine handling _)
  apply isMetered_ite (isMetered_transactionEventOp engine handling _ _)
  apply isMetered_ite (isMetered_startOp engine handling _ _)
  exact isMetered_ite (isMetered_stopOp engine handling _) trivial

end Metered

def SessionOp.changeOf (txId : String) : SessionOp → Option SessionChange
  | change _ otherId step => if otherId = txId then some step else none
  | _ => none

variable {session : Session}

/-- Other messages leave the session of a transaction alone. -/
theorem SessionOp.sessionOf_apply {op : SessionOp} (metered : op.IsMetered) {store : Store}
    {txId newId : String} (found : store.sessionOf txId = some session) :
    (op.apply newId store).sessionOf txId =
      some ((op.changeOf txId).elim session fun change => change.apply session) := by
  cases op with
  | ignore => exact found
  | start tenantId new =>
    rw [apply]
    rcases store.startable tenantId new with _ | chargePoint
    · exact found
    · rw [Option.elim_some]
      by_cases accepted : store.accepts newId { new with stationId := chargePoint.stationId } = true
      · rw [Store.sessionOf_create store accepted, found]
        rfl
      · rw [Store.create, if_neg accepted]
        exact found
  | change tenantId otherId step =>
    rcases metered with ⟨rfl, _⟩
    rw [apply, changeable_none, changeOf]
    by_cases isTx : otherId = txId
    · subst isTx
      rw [found, if_pos rfl, Option.elim_some, Store.sessionOf_changeSession, found,
        Option.map_some, Store.changed, if_pos rfl]
      rfl
    · rw [if_neg isTx]
      rcases stored : store.sessionOf otherId with _ | other
      · exact found
      · have different : session.id ≠ other.id := by
          intro sameId
          have same := store.sessions.eq_of_key_eq (store.mem_of_sessionOf found)
            (store.mem_of_sessionOf stored) sameId
          have isOther : other.ocppTxId = some otherId := by
            simpa using List.find?_some stored
          have isOwn : session.ocppTxId = some txId := by
            simpa using List.find?_some found
          rw [same, isOther] at isOwn
          exact isTx (Option.some.inj isOwn)
        rw [Option.elim_some, Store.sessionOf_changeSession, found, Option.map_some, Store.changed,
          if_neg different]
        rfl

theorem SessionOp.totalEnergy_of_absent {op : SessionOp} {store : Store} {txId newId : String}
    (absent : store.sessionOf txId = none)
    (found : (op.apply newId store).sessionOf txId = some session) : session.totalEnergy = 0 := by
  cases op with
  | ignore =>
    rw [apply, absent] at found
    cases found
  | start tenantId new =>
    rw [apply] at found
    rcases startable : store.startable tenantId new with _ | chargePoint
    · rw [startable, Option.elim_none, absent] at found
      cases found
    · rw [startable, Option.elim_some] at found
      by_cases accepted : store.accepts newId { new with stationId := chargePoint.stationId } = true
      · rw [Store.sessionOf_create store accepted, absent, Option.none_or] at found
        split at found
        · cases found
          rfl
        · cases found
      · rw [Store.create, if_neg accepted, absent] at found
        cases found
  | change tenantId otherId step =>
    rw [apply] at found
    rcases changeable : store.changeable tenantId otherId with _ | other
    · rw [changeable, Option.elim_none, absent] at found
      cases found
    · rw [changeable, Option.elim_some, Store.sessionOf_changeSession, absent] at found
      cases found

abbrev GatewayMessage :=
  JsValue × Handling

section Runs

variable (engine : SessionEngine) (txId : String)

def nextMessage (store : Store) (message : GatewayMessage) : Store :=
  (Delivery.mk (.ocpp message.1) message.2).next engine store

def messageChange (message : GatewayMessage) : Option SessionChange :=
  (ocppOp engine message.2 message.1).changeOf txId

/-- The readings for a transaction, in the order in which they are handled. -/
def readings (messages : List GatewayMessage) : List ℚ :=
  messages.filterMap fun message => (messageChange engine txId message).bind SessionChange.reading

/-- The energy of the session does not decrease, and an end without a reading keeps it. -/
def EnergyKept (store : Store) (message : GatewayMessage) : Prop :=
  ∀ session ∈ store.sessionOf txId, ∃ later,
    (nextMessage engine store message).sessionOf txId = some later ∧
      session.totalEnergy ≤ later.totalEnergy ∧
      ∀ change ∈ messageChange engine txId message, change.reading = none →
        later.totalEnergy = session.totalEnergy

/-- The energy that an end without a reading sets. -/
def SessionChange.fallback (meterStart : ℚ) : SessionChange → ℚ
  | stop _ _ => max 0 (-meterStart)
  | _ => 0

/-- An end without a reading finds the energy that it sets. -/
def EndsMeasured (store : Store) (message : GatewayMessage) : Prop :=
  ∀ session ∈ store.sessionOf txId, ∀ change ∈ messageChange engine txId message,
    change.reading = none → session.totalEnergy = change.fallback session.meterStart

variable {engine txId} {store : Store} {message : GatewayMessage}

theorem totalEnergy_apply_of_unread {change : SessionChange} (unread : change.reading = none)
    (session : Session) :
    (change.apply session).totalEnergy = change.fallback session.meterStart := by
  cases change with
  | telemetry | deliver => cases unread
  | stop | finish =>
    cases unread
    simp [SessionChange.apply, SessionChange.update, SessionUpdate.apply, SessionChange.fallback]

theorem isMetered_messageChange {change : SessionChange}
    (isChange : messageChange engine txId message = some change) : change.isMetered = true := by
  have metered := isMetered_ocppOp engine message.2 message.1
  rw [messageChange] at isChange
  generalize ocppOp engine message.2 message.1 = op at metered isChange
  cases op with
  | ignore | start => cases isChange
  | change tenantId otherId step =>
    rw [SessionOp.changeOf] at isChange
    split at isChange
    · cases isChange
      exact metered.2
    · cases isChange

theorem sessionOf_nextMessage (found : store.sessionOf txId = some session) :
    (nextMessage engine store message).sessionOf txId =
      some ((messageChange engine txId message).elim session fun change => change.apply session) := by
  rw [nextMessage, Delivery.next_eq]
  exact SessionOp.sessionOf_apply (isMetered_ocppOp engine message.2 message.1) found

/-- A step that keeps the energy does not end the session on something else. -/
theorem EnergyKept.endsMeasured (kept : EnergyKept engine txId store message) :
    EndsMeasured engine txId store message := by
  intro session found change isChange unread
  rcases kept session found with ⟨later, isLater, _, keeps⟩
  have same := keeps change isChange unread
  rw [sessionOf_nextMessage found, Option.mem_def.mp isChange, Option.elim_some] at isLater
  obtain rfl := Option.some.inj isLater
  rw [totalEnergy_apply_of_unread unread] at same
  exact same.symm

/-- What later readings give is at least what is stored. -/
def Rises (store : Store) (txId : String) (later : List ℚ) : Prop :=
  ∀ session ∈ store.sessionOf txId, ∀ reading ∈ later,
    session.totalEnergy ≤ max 0 (reading - session.meterStart)

theorem rises_apply {change : SessionChange} {later : List ℚ} (metered : change.isMetered = true)
    (measured : change.reading = none → session.totalEnergy = change.fallback session.meterStart)
    (sorted : (change.reading.toList ++ later).Pairwise (· ≤ ·))
    (rises : ∀ reading ∈ change.reading.toList ++ later, session.totalEnergy ≤ max 0 (reading - session.meterStart)) :
    session.totalEnergy ≤ (change.apply session).totalEnergy ∧
      (change.reading = none → (change.apply session).totalEnergy = session.totalEnergy) ∧
      ∀ reading ∈ later,
        (change.apply session).totalEnergy ≤ max 0 (reading - session.meterStart) := by
  rcases carries : change.reading with _ | meterWh
  · have same : (change.apply session).totalEnergy = session.totalEnergy := by
      rw [totalEnergy_apply_of_unread carries, measured carries]
    rw [carries] at rises
    rw [same]
    exact ⟨le_rfl, fun _ => rfl, rises⟩
  · rw [carries] at rises sorted
    have set := SessionChange.totalEnergy_apply_of_reading metered carries session
    rw [set]
    refine ⟨rises meterWh List.mem_cons_self, nofun, ?_⟩
    intro reading member
    have notLess := List.rel_of_pairwise_cons sorted member
    exact max_le_max_left 0 (sub_le_sub_right notLess _)

theorem EndsMeasured.energyKept (measured : EndsMeasured engine txId store message)
    {later : List ℚ} (sorted : (readings engine txId [message] ++ later).Pairwise (· ≤ ·))
    (rises : Rises store txId (readings engine txId [message] ++ later)) :
    EnergyKept engine txId store message ∧ Rises (nextMessage engine store message) txId later := by
  have isReading : readings engine txId [message] =
      ((messageChange engine txId message).bind SessionChange.reading).toList := by
    rw [readings]
    rcases carries : (messageChange engine txId message).bind SessionChange.reading with _ | meterWh
    · simp [carries]
    · simp [carries]
  rw [isReading] at sorted rises
  rcases isChange : messageChange engine txId message with _ | change
  · rw [isChange] at rises
    constructor
    · intro session found
      refine ⟨session, ?_, le_rfl, ?_⟩
      · rw [sessionOf_nextMessage found, isChange]
        rfl
      · intro change member
        rw [isChange] at member
        cases member
    · intro session' found'
      rcases found : store.sessionOf txId with _ | session
      · rw [nextMessage, Delivery.next_eq] at found'
        rw [SessionOp.totalEnergy_of_absent found found']
        exact fun _ _ => le_max_left _ _
      · rw [sessionOf_nextMessage found, isChange] at found'
        cases found'
        exact rises session found
  · rw [isChange, Option.bind_some] at sorted rises
    have metered := isMetered_messageChange isChange
    constructor
    · intro session found
      have unread := measured session found change isChange
      rcases rises_apply metered unread sorted (rises session found) with ⟨notLess, keeps, _⟩
      refine ⟨change.apply session, ?_, notLess, ?_⟩
      · rw [sessionOf_nextMessage found, isChange]
        rfl
      · intro other member
        rw [isChange] at member
        cases member
        exact keeps
    · intro session' found'
      rcases found : store.sessionOf txId with _ | session
      · rw [nextMessage, Delivery.next_eq] at found'
        rw [SessionOp.totalEnergy_of_absent found found']
        exact fun _ _ => le_max_left _ _
      · rw [sessionOf_nextMessage found, isChange] at found'
        cases found'
        have unread := measured session found change isChange
        exact (rises_apply metered unread sorted (rises session found)).2.2

/-- In a run with nondecreasing readings the energy of a session never decreases, and is
kept by ends without a reading, exactly when each such end finds the energy it sets. -/
theorem energyKept_iff_endsMeasured {messages : List GatewayMessage}
    (sorted : (readings engine txId messages).Pairwise (· ≤ ·))
    (rises : Rises store txId (readings engine txId messages)) :
    StepsMeet (nextMessage engine) (EnergyKept engine txId) store messages ↔
      StepsMeet (nextMessage engine) (EndsMeasured engine txId) store messages := by
  constructor
  · exact StepsMeet.imp fun _ _ kept => kept.endsMeasured
  · intro measured
    induction messages generalizing store with
    | nil => trivial
    | cons message messages ih =>
      have split : readings engine txId (message :: messages) =
          readings engine txId [message] ++ readings engine txId messages := by
        rw [readings, readings, readings, ← List.filterMap_append]
        rfl
      rw [split] at sorted rises
      rcases measured.1.energyKept sorted rises with ⟨kept, stillRises⟩
      exact ⟨kept, ih (List.pairwise_append.mp sorted).2.1 stillRises measured.2⟩

end Runs

instance (store : Store) (txId : String) (later : List ℚ) : Decidable (Rises store txId later) :=
  inferInstanceAs (Decidable (∀ session ∈ store.sessionOf txId, ∀ reading ∈ later, _ ≤ _))

instance (engine : SessionEngine) (txId : String) (store : Store) (message : GatewayMessage) :
    Decidable (EndsMeasured engine txId store message) :=
  inferInstanceAs (Decidable (∀ session ∈ store.sessionOf txId,
    ∀ change ∈ messageChange engine txId message, _ = _ → _ = _))

namespace Sample

def gatewayEvent (newId eventType : String) (meterValue : JsValue) : GatewayMessage :=
  (transactionEvent eventType 10 meterValue, ⟨newId, 100⟩)

end Sample

open Sample

/-- A transaction with a reading in every event. -/
theorem energyKept_iff_endsMeasured_read :
    StepsMeet (nextMessage engine) (EnergyKept engine "2001") store
      [gatewayEvent "new" "Started" (.number (.finite 1000)),
        gatewayEvent "" "Updated" (.number (.finite 4000)),
        gatewayEvent "" "Ended" (.number (.finite 9000))] := by
  apply (energyKept_iff_endsMeasured _ _).mpr
  · exact ⟨by decide +kernel, by decide +kernel, by decide +kernel, trivial⟩
  · decide +kernel
  · decide +kernel

/-- An end without a reading takes the energy back: that of a transaction event sets the
start of the session, and a `StopTransaction` zero. -/
theorem energy_is_lost : ((final (nextMessage engine) store
          [gatewayEvent "new" "Started" (.number (.finite 1000)),
            gatewayEvent "" "Updated" (.number (.finite 4000))]).sessionOf "2001").map
        Session.totalEnergy = some 3000 ∧ ((final (nextMessage engine) store
          [gatewayEvent "new" "Started" (.number (.finite 1000)),
            gatewayEvent "" "Updated" (.number (.finite 4000)),
            gatewayEvent "" "Ended" .undefined]).sessionOf "2001").map
        Session.totalEnergy = some 0 ∧ ((final (nextMessage engine) store
          [gatewayEvent "new" "Started" (.number (.finite 1000)),
            gatewayEvent "" "Updated" (.number (.finite 4000)),
            (message "CP-A" "StopTransaction"
              (JsRecord.empty.with "transactionId" (.string "2001")), ⟨"", 100⟩)]).sessionOf
            "2001").map Session.totalEnergy = some 0 := by
  decide +kernel

end Csms.Sessions
