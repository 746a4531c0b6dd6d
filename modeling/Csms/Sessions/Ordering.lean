import Csms.Sessions.Runs

/-!
# The order of the events of a transaction

The events of a charging transaction can be handled in another order than they
were sent in, and more than once.  Only the first start creates the session, what
was handled before it is lost, and of what is handled after it the last event
counts: no handler looks at the status of the session.
-/

namespace Csms.Sessions

open Js

namespace SessionChange

/-- The time and the status that an ending sets. -/
def ending : SessionChange → Option (Int × String)
  | telemetry _ => none
  | stop _ endTime | finish _ endTime => some (endTime, "COMPLETED")
  | deliver _ endTime => some (endTime, "STOPPED")

def energy (meterStart : ℚ) : SessionChange → ℚ
  | telemetry meterWh => max 0 (meterWh - meterStart)
  | stop meterStop _ => max 0 (meterStop.getD 0 - meterStart)
  | finish meterWh _ => max 0 (meterWh.getD meterStart - meterStart)
  | deliver energyDelivered _ => energyDelivered

variable (change : SessionChange) (session : Session)

theorem totalEnergy_apply :
    (change.apply session).totalEnergy = change.energy session.meterStart := by
  cases change <;> rfl

theorem endTime_apply :
    (change.apply session).endTime = (change.ending.map Prod.fst).or session.endTime := by
  cases change <;> rfl

theorem status_apply :
    (change.apply session).status = (change.ending.map Prod.snd).getD session.status := by
  cases change <;> rfl

end SessionChange

def Session.applyAll (session : Session) (changes : List SessionChange) : Session :=
  changes.foldl (fun session change => change.apply session) session

def lastEnding (changes : List SessionChange) : Option (Int × String) :=
  (changes.filterMap SessionChange.ending).getLast?

theorem exists_getLast?_of_lastEnding {changes : List SessionChange} {ending : Int × String}
    (isLast : lastEnding changes = some ending) : ∃ change, changes.getLast? = some change := by
  rcases changes with _ | ⟨first, rest⟩
  · cases isLast
  · exact ⟨_, List.getLast?_cons⟩

namespace Session

variable (session : Session) (changes : List SessionChange)

theorem applyAll_concat (change : SessionChange) :
    session.applyAll (changes ++ [change]) = change.apply (session.applyAll changes) := by
  rw [applyAll, List.foldl_append]
  rfl

theorem kept_applyAll : (session.applyAll changes).startTime = session.startTime ∧
      (session.applyAll changes).meterStart = session.meterStart ∧
      (session.applyAll changes).amount = session.amount := by
  induction changes using List.reverseRecOn with
  | nil => exact ⟨rfl, rfl, rfl⟩
  | append_singleton changes change ih =>
    rw [applyAll_concat]
    exact ih

theorem totalEnergy_applyAll : (session.applyAll changes).totalEnergy =
      changes.getLast?.elim session.totalEnergy (SessionChange.energy session.meterStart) := by
  induction changes using List.reverseRecOn with
  | nil => rfl
  | append_singleton changes change ih =>
    rw [applyAll_concat, SessionChange.totalEnergy_apply, (session.kept_applyAll changes).2.1,
      List.getLast?_concat]
    rfl

theorem ending_applyAll :
    (session.applyAll changes).endTime = ((lastEnding changes).map Prod.fst).or session.endTime ∧
      (session.applyAll changes).status =
        ((lastEnding changes).map Prod.snd).getD session.status := by
  induction changes using List.reverseRecOn with
  | nil => exact ⟨rfl, rfl⟩
  | append_singleton changes change ih =>
    rw [applyAll_concat, SessionChange.endTime_apply, SessionChange.status_apply, ih.1, ih.2,
      lastEnding, lastEnding, List.filterMap_append]
    rcases isEnding : change.ending with _ | ⟨endTime, status⟩
    · simp [isEnding]
    · simp [isEnding]

end Session

section Messages

variable (engine : SessionEngine) (store : Store) (chargePoint : ChargePoint)

/-- The operation is about a transaction of the charge point. -/
def SessionOp.About (txId : String) : SessionOp → Prop
  | ignore => True
  | start _ new => new.ocppTxId = some txId ∧ new.ocppId = chargePoint.ocppId
  | change _ otherId _ => otherId = txId

/-- The session that the operation starts, when there is none of the transaction. -/
def SessionOp.start? : SessionOp → Option SessionData
  | start tenantId new =>
    (store.startable tenantId new).bind fun known =>
      if new.connectorId.den = 1 then some { new with stationId := known.stationId } else none
  | _ => none

/-- The change that the operation makes to a session of the charge point. -/
def SessionOp.change? : SessionOp → Option SessionChange
  | change tenantId _ step =>
    if tenantId.all (· ∈ store.tenantsOf chargePoint.stationId) then some step else none
  | _ => none

def Delivery.start? (delivery : Delivery) : Option SessionData :=
  (delivery.op engine store).start? store

def Delivery.change? (delivery : Delivery) : Option SessionChange :=
  (delivery.op engine store).change? store chargePoint

variable {engine store chargePoint} {txId newId : String} {op : SessionOp}

/-- Without a session, only a start does something. -/
theorem SessionOp.apply_of_absent (about : op.About chargePoint txId)
    (absent : store.sessionOf txId = none) (free : store.sessions.find? newId = none) :
    (op.start? store = none ∧ op.apply newId store = store) ∨
      ∃ data, op.start? store = some data ∧ data.ocppTxId = some txId ∧
        data.ocppId = chargePoint.ocppId ∧ store.accepts newId data = true ∧
          op.apply newId store = store.create newId data := by
  cases op with
  | ignore => exact Or.inl ⟨rfl, rfl⟩
  | change tenantId otherId change =>
    obtain rfl : otherId = txId := about
    refine Or.inl ⟨rfl, ?_⟩
    rw [apply, Store.changeable, absent]
    rfl
  | start tenantId new =>
    rcases about with ⟨isTx, isOwn⟩
    rw [start?, apply]
    rcases store.startable tenantId new with _ | known
    · exact Or.inl ⟨rfl, rfl⟩
    · simp only [Option.bind_some, Option.elim_some]
      by_cases isInteger : new.connectorId.den = 1
      · rw [if_pos isInteger]
        refine Or.inr ⟨_, rfl, isTx, isOwn, ?_, rfl⟩
        rw [Store.accepts, free]
        change (decide (new.connectorId.den = 1) && (new.ocppTxId.bind store.sessionOf).isNone &&
          true) = true
        rw [isInteger, isTx, Option.bind_some, absent]
        rfl
      · rw [if_neg isInteger]
        refine Or.inl ⟨rfl, ?_⟩
        apply if_neg
        rw [Store.accepts]
        simp [isInteger]

theorem SessionOp.sessionOf_apply_of_present (about : op.About chargePoint txId) {session : Session}
    (known : store.chargePoint? chargePoint.ocppId = some chargePoint)
    (present : store.sessionOf txId = some session) (isOwn : session.ocppId = chargePoint.ocppId) :
    (op.apply newId store).sessionOf txId =
        some ((op.change? store chargePoint).elim session fun change => change.apply session) ∧
      (op.apply newId store).chargePoints = store.chargePoints ∧
      (op.apply newId store).tenantsOf = store.tenantsOf := by
  cases op with
  | ignore => exact ⟨present, rfl, rfl⟩
  | start tenantId new =>
    have taken : (new.ocppTxId.bind store.sessionOf).isSome = true := by
      rw [about.1, Option.bind_some, present]
      rfl
    rw [apply_start_of_taken taken]
    exact ⟨present, rfl, rfl⟩
  | change tenantId otherId change =>
    obtain rfl : otherId = txId := about
    have tenants : sessionTenantIds store session = store.tenantsOf chargePoint.stationId := by
      rw [sessionTenantIds, isOwn, known]
      rfl
    rw [apply, change?, Store.changeable, present, Option.filter_some, tenants]
    split
    · rw [Option.elim_some, Store.sessionOf_changeSession, present, Option.map_some, Store.changed,
        if_pos rfl]
      exact ⟨rfl, rfl, rfl⟩
    · exact ⟨present, rfl, rfl⟩

/-- The energy that a change sets for the session that the first start creates. -/
def energyOf (engine : SessionEngine) (store : Store) (deliveries : List Delivery)
    (change : SessionChange) : Option ℚ :=
  (deliveries.findSome? (Delivery.start? engine store)).map fun data => change.energy data.meterStart

def changesAfterStart (engine : SessionEngine) (store : Store) (chargePoint : ChargePoint)
    (deliveries : List Delivery) : List SessionChange :=
  (deliveries.dropWhile fun delivery => (delivery.start? engine store).isNone).filterMap
    (Delivery.change? engine store chargePoint)

theorem Delivery.change?_of_start? {delivery : Delivery} {data : SessionData}
    (starts : delivery.start? engine store = some data) :
    delivery.change? engine store chargePoint = none := by
  rw [start?] at starts
  rw [change?]
  generalize delivery.op engine store = op at starts ⊢
  cases op with
  | ignore => rfl
  | start tenantId new => rfl
  | change tenantId otherId change => cases starts

section Runs

variable {deliveries : List Delivery}

/-- With a session, the changes are made one after another. -/
theorem sessionOf_nextAll_of_present {later : Store}
    (samePoints : later.chargePoints = store.chargePoints)
    (sameTenants : later.tenantsOf = store.tenantsOf)
    (known : store.chargePoint? chargePoint.ocppId = some chargePoint)
    (about : ∀ delivery ∈ deliveries, (delivery.op engine store).About chargePoint txId)
    {session : Session} (present : later.sessionOf txId = some session)
    (isOwn : session.ocppId = chargePoint.ocppId) :
    (Delivery.nextAll engine later deliveries).sessionOf txId =
      some (session.applyAll (deliveries.filterMap (Delivery.change? engine store chargePoint))) := by
  induction deliveries generalizing later session with
  | nil => exact present
  | cons delivery deliveries ih =>
    have sameOp : delivery.op engine later = delivery.op engine store :=
      delivery.op_congr samePoints sameTenants
    have laterKnown : later.chargePoint? chargePoint.ocppId = some chargePoint := by
      rw [Store.chargePoint?, samePoints]
      exact known
    have sameChange : (delivery.op engine later).change? later chargePoint =
        delivery.change? engine store chargePoint := by
      rw [Delivery.change?, sameOp]
      unfold SessionOp.change?
      rw [sameTenants]
    have stepAbout : (delivery.op engine later).About chargePoint txId := by
      rw [sameOp]
      exact about delivery List.mem_cons_self
    have step : ((delivery.op engine later).apply delivery.handling.newId later).sessionOf txId =
        _ ∧ _ ∧ _ :=
      SessionOp.sessionOf_apply_of_present stepAbout laterKnown present isOwn
    rcases step with ⟨changed, points, tenants⟩
    rw [← Delivery.next_eq] at changed points tenants
    rw [sameChange] at changed
    have rest {onward : Session} (found : (delivery.next engine later).sessionOf txId = some onward)
        (stillOwn : onward.ocppId = chargePoint.ocppId) :=
      ih (points.trans samePoints) (tenants.trans sameTenants)
        (fun other member => about other (List.mem_cons_of_mem _ member)) found stillOwn
    rcases isChange : delivery.change? engine store chargePoint with _ | change
    · rw [isChange] at changed
      rw [List.filterMap_cons_none isChange]
      exact rest changed isOwn
    · rw [isChange] at changed
      rw [List.filterMap_cons_some isChange]
      exact rest changed isOwn

/-- The session of a transaction after its messages: that of the first start with the
changes since. -/
theorem sessionOf_nextAll (known : store.chargePoint? chargePoint.ocppId = some chargePoint)
    (about : ∀ delivery ∈ deliveries, (delivery.op engine store).About chargePoint txId)
    (absent : store.sessionOf txId = none)
    (free : ∀ delivery ∈ deliveries, store.sessions.find? delivery.handling.newId = none) :
    ∃ id, (Delivery.nextAll engine store deliveries).sessionOf txId =
      (deliveries.findSome? (Delivery.start? engine store)).map fun data =>
        (data.session id).applyAll (changesAfterStart engine store chargePoint deliveries) := by
  induction deliveries with
  | nil => exact ⟨"", absent⟩
  | cons delivery deliveries ih =>
    have stepFree := free delivery List.mem_cons_self
    have restAbout : ∀ other ∈ deliveries, (other.op engine store).About chargePoint txId :=
      fun other member => about other (List.mem_cons_of_mem _ member)
    rcases SessionOp.apply_of_absent (about delivery List.mem_cons_self) absent stepFree with
      ⟨noStart, unchanged⟩ | ⟨data, starts, isTx, isOwn, accepted, created⟩
    · rcases ih restAbout fun other member => free other (List.mem_cons_of_mem _ member) with
        ⟨id, found⟩
      have skipped : delivery.start? engine store = none := noStart
      refine ⟨id, ?_⟩
      rw [List.findSome?_cons, skipped, changesAfterStart, List.dropWhile_cons_of_pos]
      · have same : delivery.next engine store = store := by
          rw [Delivery.next_eq, unchanged]
        change (Delivery.nextAll engine (delivery.next engine store) deliveries).sessionOf txId = _
        rw [same]
        exact found
      · rw [skipped]
        rfl
    · have started : delivery.start? engine store = some data := starts
      refine ⟨delivery.handling.newId, ?_⟩
      rw [List.findSome?_cons, started, changesAfterStart, List.dropWhile_cons_of_neg,
        List.filterMap_cons_none (Delivery.change?_of_start? started)]
      · have next : delivery.next engine store = store.create delivery.handling.newId data := by
          rw [Delivery.next_eq, created]
        have present : (store.create delivery.handling.newId data).sessionOf txId =
            some (data.session delivery.handling.newId) := by
          rw [Store.sessionOf_create store accepted, absent, if_pos isTx]
          rfl
        change (Delivery.nextAll engine (delivery.next engine store) deliveries).sessionOf txId = _
        rw [next]
        exact sessionOf_nextAll_of_present store.chargePoints_create store.tenantsOf_create known
          restAbout present isOwn
      · rw [started]
        exact Bool.false_ne_true

end Runs

end Messages

/-- The events of a charging transaction, each as it is handled when all arrive once and
in order, in a store without a session of it. -/
structure ChargingTransaction (engine : SessionEngine) (store : Store) where
  txId : String
  chargePoint : ChargePoint
  started : Delivery
  updated : List Delivery
  ended : Delivery
  known : store.chargePoint? chargePoint.ocppId = some chargePoint
  absent : store.sessionOf txId = none
  /-- All are about the transaction, whenever they are handled. -/
  about : ∀ event ∈ started :: updated ++ [ended], ∀ handling,
    (event.message.op engine handling store).About chargePoint txId
  /-- The first starts the session, and no other does. -/
  starts : ∀ handling, (Delivery.mk started.message handling).start? engine store ≠ none
  continues : ∀ event ∈ updated ++ [ended], ∀ handling,
    (Delivery.mk event.message handling).start? engine store = none
  /-- The last ends it, and no other does. -/
  ends : ∀ handling, ∃ change,
    (Delivery.mk ended.message handling).change? engine store chargePoint = some change ∧
      change.ending ≠ none

namespace ChargingTransaction

variable {engine : SessionEngine} {store : Store} (transaction : ChargingTransaction engine store)

/-- The events in order, each once. -/
def events : List Delivery :=
  transaction.started :: transaction.updated ++ [transaction.ended]

/-- The deliveries are of the events, in any order, and each event is delivered. -/
structure Redelivers (deliveries : List Delivery) : Prop where
  events : ∀ delivery ∈ deliveries, ∃ event ∈ transaction.events, delivery.message = event.message
  all : ∀ event ∈ transaction.events, ∃ delivery ∈ deliveries, delivery.message = event.message

def changes (deliveries : List Delivery) : List SessionChange :=
  changesAfterStart engine store transaction.chargePoint deliveries

/-- The first start has the start time of the transaction, the last ending since then is
that of the transaction, and the last change since then sets the energy of that ending. -/
structure Settles (deliveries : List Delivery) : Prop where
  started : (deliveries.findSome? (Delivery.start? engine store)).map (fun data => data.startTime) =
    (transaction.started.start? engine store).map fun data => data.startTime
  ended : lastEnding (transaction.changes deliveries) =
    (transaction.ended.change? engine store transaction.chargePoint).bind SessionChange.ending
  energy : (transaction.changes deliveries).getLast?.bind (energyOf engine store deliveries) =
    (transaction.ended.change? engine store transaction.chargePoint).bind
      (energyOf engine store [transaction.started])

end ChargingTransaction

/-- The columns that are billed. -/
structure BilledFields where
  status : String
  startTime : Int
  endTime : Option Int
  (totalEnergy amount : ℚ)
  deriving DecidableEq

def Session.billedFields (session : Session) : BilledFields :=
  ⟨session.status, session.startTime, session.endTime, session.totalEnergy, session.amount⟩

theorem billedFields_applyAll (data : SessionData) (id : String) (changes : List SessionChange) :
    ((data.session id).applyAll changes).billedFields =
      ⟨((lastEnding changes).map Prod.snd).getD data.status, data.startTime,
        (lastEnding changes).map Prod.fst,
        changes.getLast?.elim 0 (SessionChange.energy data.meterStart), 0⟩ := by
  rcases (data.session id).kept_applyAll changes with ⟨startTime, _, amount⟩
  rcases (data.session id).ending_applyAll changes with ⟨endTime, status⟩
  rw [Session.billedFields, startTime, amount, endTime, status,
    (data.session id).totalEnergy_applyAll]
  simp [SessionData.session]

namespace ChargingTransaction

variable {engine : SessionEngine} {store : Store} {transaction : ChargingTransaction engine store}
  {deliveries : List Delivery}

section

variable (redelivers : transaction.Redelivers deliveries)
include redelivers

theorem about_of_redelivers :
    ∀ delivery ∈ deliveries, (delivery.op engine store).About transaction.chargePoint
      transaction.txId := by
  intro delivery member
  rcases redelivers.events delivery member with ⟨event, isEvent, same⟩
  rw [Delivery.op, same]
  exact transaction.about event isEvent delivery.handling

theorem exists_start : ∃ data, deliveries.findSome? (Delivery.start? engine store) = some data := by
  rcases redelivers.all transaction.started List.mem_cons_self with ⟨delivery, member, same⟩
  apply Option.ne_none_iff_exists'.mp
  intro noStart
  apply transaction.starts delivery.handling
  rw [← same]
  exact List.findSome?_eq_none_iff.mp noStart delivery member

/-- What the deliveries leave of the session. -/
theorem billedFields_nextAll
    (free : ∀ delivery ∈ deliveries, store.sessions.find? delivery.handling.newId = none)
    {data : SessionData} (starts : deliveries.findSome? (Delivery.start? engine store) = some data) :
    ((Delivery.nextAll engine store deliveries).sessionOf transaction.txId).map
        Session.billedFields =
      some ⟨((lastEnding (transaction.changes deliveries)).map Prod.snd).getD data.status,
        data.startTime, (lastEnding (transaction.changes deliveries)).map Prod.fst,
        (transaction.changes deliveries).getLast?.elim 0 (SessionChange.energy data.meterStart),
        0⟩ := by
  rcases sessionOf_nextAll transaction.known (about_of_redelivers redelivers) transaction.absent free
    with ⟨id, found⟩
  rw [found, starts, Option.map_some, Option.map_some, billedFields_applyAll]
  rfl

end

variable (transaction)

theorem redelivers_events : transaction.Redelivers transaction.events where
  events event member := ⟨event, member, rfl⟩
  all event member := ⟨event, member, rfl⟩

theorem findSome?_events {data : SessionData}
    (starts : transaction.started.start? engine store = some data) :
    transaction.events.findSome? (Delivery.start? engine store) = some data := by
  rw [events, List.cons_append, List.findSome?_cons, starts]

/-- In order, the last change is the end. -/
theorem changes_events {change : SessionChange}
    (ends : transaction.ended.change? engine store transaction.chargePoint = some change) :
    ∃ earlier, transaction.changes transaction.events = earlier ++ [change] := by
  rcases Option.ne_none_iff_exists'.mp (transaction.starts transaction.started.handling) with
    ⟨data, starts⟩
  have started : transaction.started.start? engine store = some data := starts
  refine ⟨transaction.updated.filterMap (Delivery.change? engine store transaction.chargePoint), ?_⟩
  rw [changes, changesAfterStart, events, List.cons_append, List.dropWhile_cons_of_neg,
    List.filterMap_cons_none (Delivery.change?_of_start? started), List.filterMap_append,
    List.filterMap_cons_some ends, List.filterMap_nil]
  rw [started]
  exact Bool.false_ne_true

/-- Deliveries in any order and number leave the billed columns that the events leave in
order exactly when they settle the transaction. -/
theorem billedFields_eq_iff_settles (redelivers : transaction.Redelivers deliveries)
    (free : ∀ delivery ∈ deliveries, store.sessions.find? delivery.handling.newId = none)
    (freeInOrder : ∀ event ∈ transaction.events, store.sessions.find? event.handling.newId = none) :
    ((Delivery.nextAll engine store deliveries).sessionOf transaction.txId).map
          Session.billedFields =
        ((Delivery.nextAll engine store transaction.events).sessionOf transaction.txId).map
          Session.billedFields ↔ transaction.Settles deliveries := by
  rcases exists_start redelivers with ⟨data, starts⟩
  rcases Option.ne_none_iff_exists'.mp (transaction.starts transaction.started.handling) with
    ⟨first, startsFirst⟩
  have started : transaction.started.start? engine store = some first := startsFirst
  rcases transaction.ends transaction.ended.handling with ⟨last, endsLast, isEnding⟩
  have ended : transaction.ended.change? engine store transaction.chargePoint = some last := endsLast
  rcases Option.ne_none_iff_exists'.mp isEnding with ⟨⟨endTime, status⟩, ending⟩
  rcases transaction.changes_events ended with ⟨earlier, inOrder⟩
  have lastInOrder : lastEnding (transaction.changes transaction.events) = some (endTime, status) := by
    rw [inOrder, lastEnding, List.filterMap_append, List.filterMap_cons_some ending,
      List.filterMap_nil, List.getLast?_concat]
  rw [billedFields_nextAll redelivers free starts,
    billedFields_nextAll transaction.redelivers_events freeInOrder
      (transaction.findSome?_events started), lastInOrder, inOrder, List.getLast?_concat]
  simp only [Option.some.injEq, BilledFields.mk.injEq, Option.map_some, Option.getD_some,
    Option.elim_some, and_true]
  constructor
  · rintro ⟨sameStatus, sameStart, sameEnd, sameEnergy⟩
    rcases isLast : lastEnding (transaction.changes deliveries) with _ | ⟨laterEnd, laterStatus⟩
    · rw [isLast] at sameEnd
      cases sameEnd
    · rw [isLast] at sameStatus sameEnd
      obtain rfl : laterStatus = status := sameStatus
      obtain rfl : laterEnd = endTime := Option.some.inj sameEnd
      rcases exists_getLast?_of_lastEnding isLast with ⟨change, isChange⟩
      rw [isChange] at sameEnergy
      refine ⟨?_, ?_, ?_⟩
      · rw [starts, started, Option.map_some, Option.map_some, sameStart]
      · rw [isLast, ended, Option.bind_some, ending]
      · rw [isChange, ended, Option.bind_some, Option.bind_some, energyOf, energyOf, starts,
          List.findSome?_singleton, started, Option.map_some, Option.map_some]
        exact congrArg some sameEnergy
  · rintro ⟨sameStart, sameEnding, sameEnergy⟩
    rw [starts, started, Option.map_some, Option.map_some, Option.some.injEq] at sameStart
    rw [ended, Option.bind_some, ending] at sameEnding
    rcases exists_getLast?_of_lastEnding sameEnding with ⟨change, isChange⟩
    rw [isChange, ended, Option.bind_some, Option.bind_some, energyOf, energyOf, starts,
      List.findSome?_singleton, started, Option.map_some, Option.map_some,
      Option.some.injEq] at sameEnergy
    rw [sameEnding, isChange]
    exact ⟨rfl, sameStart, rfl, sameEnergy⟩

end ChargingTransaction

namespace Sample

def reported (status : ChargerTransactionStatus) : ChargerTransactionPayload where
  chargerId := "CP-A"
  transactionId := "2001"
  userId := none
  rfidTag := none
  startTime := some 10
  endTime := some (some 20)
  energyDelivered := 7
  status := status

def tenantStore : Store :=
  { store with tenantsOf := fun _ => ["tenant"] }

def topic : String :=
  "v1/tenant/site/station/charger/CP-A/transaction/updated"

theorem tenantId_topic : extractTenantFromTopic topic = some "tenant" := by
  decide +kernel

theorem op_started (handling : Handling) :
    (SessionMessage.chargerTransactionStarted topic (reported .started)).op engine handling
        tenantStore = .start (some "tenant")
        { ocppId := "CP-A", ocppTxId := some "2001", connectorId := 1, idTag := none
          startTime := 10, meterStart := 0 } := by
  rw [SessionMessage.op, tenantId_topic]
  rfl

theorem op_completed (handling : Handling) :
    (SessionMessage.chargerTransactionUpdated topic (reported .completed)).op engine handling
        tenantStore = .change (some "tenant") "2001" (.deliver 7 20) := by
  rw [SessionMessage.op, tenantId_topic]
  rfl

def transaction : ChargingTransaction engine tenantStore where
  txId := "2001"
  chargePoint := ⟨"CP-A", "station"⟩
  started := ⟨.chargerTransactionStarted topic (reported .started), ⟨"new", 10⟩⟩
  updated := []
  ended := ⟨.chargerTransactionUpdated topic (reported .completed), ⟨"", 20⟩⟩
  known := by decide +kernel
  absent := by decide +kernel
  about := by
    intro event member handling
    rcases List.mem_pair.mp member with rfl | rfl
    · rw [op_started]
      exact ⟨rfl, rfl⟩
    · rw [op_completed]
      rfl
  starts := by
    intro handling
    rw [Delivery.start?, Delivery.op, op_started]
    exact Option.isSome_iff_ne_none.mp rfl
  continues := by
    intro event member handling
    obtain rfl := List.mem_singleton.mp member
    rw [Delivery.start?, Delivery.op, op_completed]
    rfl
  ends := by
    intro handling
    rw [Delivery.change?, Delivery.op, op_completed]
    refine ⟨.deliver 7 20, ?_, nofun⟩
    rw [SessionOp.change?, if_pos (by decide)]

end Sample

open Sample

/-- The end is handled twice. -/
theorem billedFields_eq_iff_settles_endedTwice : ((Delivery.nextAll engine tenantStore
          (transaction.events ++ [transaction.ended])).sessionOf "2001").map
        Session.billedFields =
      ((Delivery.nextAll engine tenantStore transaction.events).sessionOf
          "2001").map Session.billedFields := by
  apply (ChargingTransaction.billedFields_eq_iff_settles transaction _ _ _).mpr
  · constructor
    · decide +kernel
    · decide +kernel
    · decide +kernel
  · constructor
    · intro delivery member
      rcases List.mem_append.mp member with isEvent | isEnd
      · exact ⟨delivery, isEvent, rfl⟩
      · obtain rfl := List.mem_singleton.mp isEnd
        exact ⟨_, List.mem_append_right _ (List.mem_singleton_self _), rfl⟩
    · exact fun event isEvent => ⟨event, List.mem_append_left _ isEvent, rfl⟩
  · decide +kernel
  · decide +kernel

/-- A reading that is late changes a completed session, and a session whose end overtakes
its start stays active. -/
theorem order_matters : ((Delivery.nextAll engine store
          [event "new" "Started" 10 (.number (.finite 1000)),
            event "" "Updated" 20 (.number (.finite 4000)),
            event "" "Ended" 30 (.number (.finite 9000))]).sessionOf "2001").map
        Session.billedFields = some ⟨"COMPLETED", 10, some 30, 8000, 0⟩ ∧
      ((Delivery.nextAll engine store
          [event "new" "Started" 10 (.number (.finite 1000)),
            event "" "Ended" 30 (.number (.finite 9000)),
            event "" "Updated" 20 (.number (.finite 4000))]).sessionOf "2001").map
        Session.billedFields = some ⟨"COMPLETED", 10, some 30, 3000, 0⟩ ∧
      ((Delivery.nextAll engine store
          [event "" "Ended" 30 (.number (.finite 9000)),
            event "new" "Started" 10 (.number (.finite 1000)),
            event "" "Updated" 20 (.number (.finite 4000))]).sessionOf "2001").map
        Session.billedFields = some ⟨"ACTIVE", 10, none, 3000, 0⟩ := by
  decide +kernel

end Csms.Sessions
