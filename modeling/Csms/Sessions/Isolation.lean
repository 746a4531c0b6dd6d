import Csms.Sessions.Runs
import Mathlib.Data.Fintype.EquivFin

/-!
# Messages and the sessions of other charge points

Sessions are looked up by transaction id alone, although a charge point chooses
the ids of its transactions itself.  So a message of one charge point can change
the session of another, and a session that it starts keeps others from starting
one under the same id.  These are the only two ways in which it reaches them.
-/

namespace Csms.Sessions

open Js Service

/-- The session is not one of the charge point. -/
def ofOther (sender : String) (session : Session) : Bool :=
  session.ocppId ≠ sender

theorem ofOther_iff {sender : String} {session : Session} :
    ofOther sender session = true ↔ session.ocppId ≠ sender :=
  decide_eq_true_iff

variable {newId : String} {data : SessionData}

namespace Store

variable (store : Store)

/-- The sessions of all charge points but one. -/
def others (sender : String) : List Session :=
  store.sessions.rows.filter (ofOther sender)

/-- The sessions of a charge point. -/
def sessionsOf (ocppId : String) : List Session :=
  store.sessions.rows.filter fun session => session.ocppId = ocppId

theorem sessionsOf_eq_filter_others {sender ocppId : String} (isOther : ocppId ≠ sender) :
    store.sessionsOf ocppId = (store.others sender).filter fun session => session.ocppId = ocppId := by
  rw [others, List.filter_filter]
  apply List.filter_congr
  intro session _
  by_cases isOf : session.ocppId = ocppId
  · simp [ofOther, isOf, isOther]
  · simp [isOf]

section Change

variable (session : Session) (change : SessionChange)

theorem changed_of_other {session : Session} (member : session ∈ store.sessions.rows)
    {row : Session} (inRows : row ∈ store.sessions.rows) (isOther : row.ocppId ≠ session.ocppId) :
    changed session change row = row := by
  apply if_neg
  intro sameId
  rw [store.sessions.eq_of_key_eq inRows member sameId] at isOther
  contradiction

end Change

/-- A change that leaves the sessions of the charge point as they are. -/
theorem apply_eq_of_sessionsOf_eq {session : Session} (member : session ∈ store.sessions.rows)
    {change : SessionChange}
    (same : (store.changeSession session change).sessionsOf session.ocppId =
      store.sessionsOf session.ocppId) : change.apply session = session := by
  have kept : (fun row : Session => decide (row.ocppId = session.ocppId)) ∘
      changed session change = fun row => decide (row.ocppId = session.ocppId) := by
    funext row
    simp [ocppId_changed]
  rw [sessionsOf, rows_changeSession, List.filter_map, kept] at same
  have fixed := List.map_inj_left.mp (same.trans (List.map_id _).symm) session
    (List.mem_filter.mpr ⟨member, decide_eq_true rfl⟩)
  rw [changed, if_pos rfl] at fixed
  exact fixed

theorem sessionsOf_create (accepted : store.accepts newId data = true) (ocppId : String) :
    (store.create newId data).sessionsOf ocppId =
      store.sessionsOf ocppId ++ if data.ocppId = ocppId then [data.session newId] else [] := by
  rw [sessionsOf, rows_create store accepted, List.filter_append, sessionsOf]
  by_cases isOf : data.ocppId = ocppId <;> simp [SessionData.session, isOf]

end Store

/-- The stores differ in the sessions of one charge point only, and those are under the
same ids, unless there is no other charge point.  One id is never used again. -/
structure Alike (sender used : String) (left right : Store) : Prop where
  chargePoints : left.chargePoints = right.chargePoints
  tenantsOf : left.tenantsOf = right.tenantsOf
  others : left.others sender = right.others sender
  found : ∀ txId, (left.sessionOf txId).filter (ofOther sender) =
    (right.sessionOf txId).filter (ofOther sender)
  taken : (∃ chargePoint ∈ left.chargePoints.rows, chargePoint.ocppId ≠ sender) →
    (∀ txId, (left.sessionOf txId).isSome = (right.sessionOf txId).isSome) ∧
      ∀ id ≠ used, (left.sessions.find? id).isSome = (right.sessions.find? id).isSome

namespace Alike

variable {sender used : String} {first second third : Store}

theorem refl (store : Store) : Alike sender used store store :=
  ⟨rfl, rfl, rfl, fun _ => rfl, fun _ => ⟨fun _ => rfl, fun _ _ => rfl⟩⟩

theorem symm (alike : Alike sender used first second) : Alike sender used second first where
  chargePoints := alike.chargePoints.symm
  tenantsOf := alike.tenantsOf.symm
  others := alike.others.symm
  found txId := (alike.found txId).symm
  taken other := by
    rw [← alike.chargePoints] at other
    exact ⟨fun txId => ((alike.taken other).1 txId).symm,
      fun id unused => ((alike.taken other).2 id unused).symm⟩

theorem trans (left : Alike sender used first second) (right : Alike sender used second third) :
    Alike sender used first third where
  chargePoints := left.chargePoints.trans right.chargePoints
  tenantsOf := left.tenantsOf.trans right.tenantsOf
  others := left.others.trans right.others
  found txId := (left.found txId).trans (right.found txId)
  taken other := by
    have otherRight := other
    rw [left.chargePoints] at otherRight
    exact ⟨fun txId => ((left.taken other).1 txId).trans ((right.taken otherRight).1 txId),
      fun id unused => ((left.taken other).2 id unused).trans ((right.taken otherRight).2 id unused)⟩

end Alike

section Steps

variable {sender used : String}

theorem ofOther_changed (session : Session) (change : SessionChange) :
    ofOther sender ∘ Store.changed session change = ofOther sender := by
  funext row
  simp [ofOther, Store.ocppId_changed]

theorem alike_changeSession {store : Store} {session : Session}
    (member : session ∈ store.sessions.rows) (isOwn : session.ocppId = sender)
    (change : SessionChange) : Alike sender used (store.changeSession session change) store where
  chargePoints := rfl
  tenantsOf := rfl
  others := by
    rw [Store.others, Store.rows_changeSession, List.filter_map, ofOther_changed]
    apply Eq.trans _ (List.map_id _)
    apply List.map_congr_left
    intro row inOthers
    rcases List.mem_filter.mp inOthers with ⟨inRows, isOther⟩
    exact store.changed_of_other change member inRows (isOwn ▸ ofOther_iff.mp isOther)
  found txId := by
    rw [Store.sessionOf_changeSession]
    rcases found : store.sessionOf txId with _ | row
    · rfl
    · by_cases isOther : row.ocppId = sender
      · have dropped : ofOther sender row = false := by simp [ofOther, isOther]
        rw [Option.filter_map, ofOther_changed, Option.filter_some, dropped]
        rfl
      · rw [Option.map_some, store.changed_of_other change member (store.mem_of_sessionOf found)
          (isOwn ▸ isOther)]
  taken _ := by
    constructor
    · intro txId
      rw [Store.sessionOf_changeSession, Option.isSome_map]
    · intro id _
      rw [Store.find?_changeSession, Option.isSome_map]

variable {left right : Store}

/-- The same change in both stores. -/
theorem Alike.changeSession (alike : Alike sender used left right) (session : Session)
    (change : SessionChange) :
    Alike sender used (left.changeSession session change) (right.changeSession session change) where
  chargePoints := alike.chargePoints
  tenantsOf := alike.tenantsOf
  others := by
    rw [Store.others, Store.others, Store.rows_changeSession, Store.rows_changeSession,
      List.filter_map, List.filter_map, ofOther_changed]
    exact congrArg _ alike.others
  found txId := by
    rw [Store.sessionOf_changeSession, Store.sessionOf_changeSession, Option.filter_map,
      Option.filter_map, ofOther_changed, alike.found]
  taken other := by
    constructor
    · intro txId
      rw [Store.sessionOf_changeSession, Store.sessionOf_changeSession, Option.isSome_map,
        Option.isSome_map, (alike.taken other).1]
    · intro id unused
      rw [Store.find?_changeSession, Store.find?_changeSession, Option.isSome_map,
        Option.isSome_map, (alike.taken other).2 id unused]

/-- A new session of the sender, which takes an id from others only where there are none. -/
theorem alike_create {store : Store} (isOwn : data.ocppId = sender)
    (unseen : (∃ chargePoint ∈ store.chargePoints.rows, chargePoint.ocppId ≠ sender) → store.accepts newId data = true → newId = used ∧ data.ocppTxId = none) :
    Alike sender used (store.create newId data) store := by
  by_cases accepted : store.accepts newId data = true
  · have isOwnRow : ofOther sender (data.session newId) = false := by
      simp [ofOther, SessionData.session, isOwn]
    refine ⟨store.chargePoints_create, store.tenantsOf_create, ?_, ?_, ?_⟩
    · rw [Store.others, Store.rows_create store accepted, List.filter_append,
        List.filter_cons_of_neg (Bool.not_eq_true _ ▸ isOwnRow), List.filter_nil, List.append_nil,
        Store.others]
    · intro txId
      rw [Store.sessionOf_create store accepted]
      rcases store.sessionOf txId with _ | session
      · split <;> simp [isOwnRow]
      · rfl
    · intro other
      rw [Store.chargePoints_create] at other
      rcases unseen other accepted with ⟨rfl, noTx⟩
      constructor
      · intro txId
        rw [Store.sessionOf_create store accepted, noTx]
        simp
      · intro id unused
        rw [Store.find?_create store accepted, if_neg (Ne.symm unused), Option.or_none]
  · rw [Store.create, if_neg accepted]
    exact .refl store

/-- The same new session in both stores, when there are other charge points. -/
theorem Alike.create (alike : Alike sender used left right)
    (other : ∃ chargePoint ∈ left.chargePoints.rows, chargePoint.ocppId ≠ sender)
    (isNew : newId ≠ used) (data : SessionData) :
    Alike sender used (left.create newId data) (right.create newId data) := by
  rcases alike.taken other with ⟨sameTx, sameId⟩
  have sameAnswer : left.accepts newId data = right.accepts newId data := by
    rw [Store.accepts, Store.accepts]
    congr 1
    · congr 1
      rw [← Option.not_isSome, ← Option.not_isSome]
      rcases data.ocppTxId with _ | txId
      · rfl
      · exact congrArg _ (sameTx txId)
    · rw [← Option.not_isSome, ← Option.not_isSome, sameId newId isNew]
  by_cases accepted : left.accepts newId data = true
  · have acceptedRight := sameAnswer ▸ accepted
    refine ⟨?_, ?_, ?_, ?_, ?_⟩
    · rw [Store.chargePoints_create, Store.chargePoints_create, alike.chargePoints]
    · rw [Store.tenantsOf_create, Store.tenantsOf_create, alike.tenantsOf]
    · rw [Store.others, Store.others, Store.rows_create left accepted,
        Store.rows_create right acceptedRight, List.filter_append, List.filter_append]
      exact congrArg (· ++ _) alike.others
    · intro txId
      have sameOther := alike.found txId
      have sameFree := sameTx txId
      rw [Store.sessionOf_create left accepted, Store.sessionOf_create right acceptedRight]
      revert sameOther sameFree
      rcases left.sessionOf txId with _ | first <;> rcases right.sessionOf txId with _ | second
      · exact fun _ _ => rfl
      · rintro - ⟨⟩
      · rintro - ⟨⟩
      · exact fun sameOther _ => sameOther
    · intro _
      constructor
      · intro txId
        rw [Store.sessionOf_create left accepted, Store.sessionOf_create right acceptedRight,
          Option.isSome_or, Option.isSome_or, sameTx]
      · intro id unused
        rw [Store.find?_create left accepted, Store.find?_create right acceptedRight,
          Option.isSome_or, Option.isSome_or, sameId id unused]
  · have refusedRight := sameAnswer ▸ accepted
    rw [Store.create, Store.create, if_neg accepted, if_neg refusedRight]
    exact alike

theorem Alike.sessionTenantIds_eq (alike : Alike sender used left right) (session : Session) :
    sessionTenantIds left session = sessionTenantIds right session := by
  rw [sessionTenantIds, sessionTenantIds, Store.chargePoint?, Store.chargePoint?,
    alike.chargePoints, alike.tenantsOf]

theorem Alike.startable_eq (alike : Alike sender used left right) (tenantId : Option String)
    (new : NewSession) : left.startable tenantId new = right.startable tenantId new := by
  rw [Store.startable, Store.startable, Store.chargePoint?, Store.chargePoint?,
    alike.chargePoints, alike.tenantsOf]

/-- A request that changes no session of others. -/
theorem alike_apply_change_of_own {store : Store} {tenantId : Option String} {txId newId : String}
    {step : SessionChange} (isOwn : ∀ session, store.sessionOf txId = some session →
      session.ocppId = sender) :
    Alike sender used ((SessionOp.change tenantId txId step).apply newId store) store := by
  rw [SessionOp.apply]
  rcases found : store.changeable tenantId txId with _ | session
  · exact .refl store
  · have stored := changeable_eq_some found
    exact alike_changeSession (store.mem_of_sessionOf stored) (isOwn session stored) step

/-- Later requests do not tell the stores apart. -/
theorem Alike.apply (alike : Alike sender used left right) (isNew : newId ≠ used) (op : SessionOp) :
    Alike sender used (op.apply newId left) (op.apply newId right) := by
  cases op with
  | ignore => exact alike
  | start tenantId new =>
    rw [SessionOp.apply, SessionOp.apply, alike.startable_eq]
    rcases startable : right.startable tenantId new with _ | chargePoint
    · exact alike
    · by_cases other : ∃ chargePoint ∈ left.chargePoints.rows, chargePoint.ocppId ≠ sender
      · exact alike.create other isNew _
      · have isKnown := (Option.filter_eq_some_iff.mp startable).1
        rcases Table.find?_eq_some_iff.mp isKnown with ⟨member, sameId⟩
        rw [← alike.chargePoints] at member
        have isOwn : new.ocppId = sender := by
          by_contra isOther
          exact other ⟨chargePoint, member, sameId ▸ isOther⟩
        have noOther : ¬ ∃ chargePoint ∈ right.chargePoints.rows, chargePoint.ocppId ≠ sender :=
          alike.chargePoints ▸ other
        exact ((alike_create isOwn fun some => absurd some other).trans alike).trans
          (alike_create isOwn fun some => absurd some noOther).symm
  | change tenantId txId step =>
    have same := alike.found txId
    by_cases isOwn : ∀ session, left.sessionOf txId = some session → session.ocppId = sender
    · have noneLeft : (left.sessionOf txId).filter (ofOther sender) = none := by
        apply Option.filter_eq_none_iff.mpr
        intro session found isOther
        exact ofOther_iff.mp isOther (isOwn session found)
      have isOwnRight : ∀ session, right.sessionOf txId = some session →
          session.ocppId = sender := by
        intro session found
        by_contra isOther
        rw [noneLeft, found, Option.filter_some, if_pos (ofOther_iff.mpr isOther)] at same
        contradiction
      exact ((alike_apply_change_of_own isOwn).trans alike).trans
        (alike_apply_change_of_own isOwnRight).symm
    · push Not at isOwn
      rcases isOwn with ⟨session, found, isOther⟩
      have kept : ofOther sender session = true := ofOther_iff.mpr isOther
      rw [found, Option.filter_some, if_pos kept] at same
      have foundRight := (Option.filter_eq_some_iff.mp same.symm).1
      rw [SessionOp.apply, SessionOp.apply, Store.changeable, Store.changeable, found, foundRight,
        Option.filter_some, Option.filter_some, alike.sessionTenantIds_eq]
      split
      · exact alike.changeSession session step
      · exact alike

/-- Requests that come later, one after another. -/
def SessionOp.applyAll (store : Store) (requests : List (String × SessionOp)) : Store :=
  Transition.final (fun store request => request.2.apply request.1 store) store requests

theorem Alike.applyAll (alike : Alike sender used left right) {requests : List (String × SessionOp)}
    (areNew : ∀ request ∈ requests, request.1 ≠ used) :
    Alike sender used (SessionOp.applyAll left requests) (SessionOp.applyAll right requests) := by
  induction requests generalizing left right with
  | nil => exact alike
  | cons request requests ih =>
    apply ih (alike.apply (areNew request List.mem_cons_self) request.2)
    exact fun other member => areNew other (List.mem_cons_of_mem _ member)

end Steps

section Delivery

variable (engine : SessionEngine) (delivery : Delivery) (store : Store)

/-- To all charge points but the sender it is as if the message had never been sent,
whatever is requested later.  The id of a session that the message creates is not that
of another. -/
def Delivery.Isolated (sender : String) : Prop :=
  ∀ ocppId ≠ sender, ∀ later : List (String × SessionOp),
    (∀ request ∈ later, request.1 ≠ delivery.handling.newId) →
      (SessionOp.applyAll (delivery.next engine store) later).sessionsOf ocppId =
        (SessionOp.applyAll store later).sessionsOf ocppId

/-- A session that is changed is the sender's own or keeps its values, and a session is
created under a transaction id only when there is no other charge point. -/
def SessionOp.Spares (sender newId : String) : SessionOp → Prop
  | ignore => True
  | start tenantId new =>
    ∀ chargePoint ∈ store.startable tenantId new,
      store.accepts newId { new with stationId := chargePoint.stationId } = true →
        new.ocppTxId = none ∨ ∀ other ∈ store.chargePoints.rows, other.ocppId = sender
  | change tenantId txId step =>
    ∀ session ∈ store.changeable tenantId txId,
      session.ocppId = sender ∨ step.apply session = session

instance (sender newId : String) (op : SessionOp) : Decidable (op.Spares store sender newId) :=
  match op with
  | .ignore => .isTrue trivial
  | .start tenantId new =>
    inferInstanceAs (Decidable (∀ chargePoint ∈ store.startable tenantId new, _ → _))
  | .change tenantId txId _ =>
    inferInstanceAs (Decidable (∀ session ∈ store.changeable tenantId txId, _ ∨ _))

variable {engine delivery store}

def SessionOp.StartsOf (ocppId : String) : SessionOp → Prop
  | start _ new => new.ocppId = ocppId
  | _ => True

section Starts

variable {handling : Handling} {ocppId : String}

theorem startsOf_elim {α : Type} {found : Option α} {op : α → SessionOp}
    (starts : ∀ value, (op value).StartsOf ocppId) :
    (found.elim SessionOp.ignore op).StartsOf ocppId := by
  rcases found with _ | value
  · trivial
  · exact starts value

theorem startsOf_ite {condition : Prop} [Decidable condition] {left right : SessionOp}
    (onTrue : left.StartsOf ocppId) (onFalse : right.StartsOf ocppId) :
    (if condition then left else right).StartsOf ocppId := by
  split
  · exact onTrue
  · exact onFalse

theorem startsOf_startOp (payload : JsRecord) :
    (startOp engine handling ocppId payload).StartsOf ocppId :=
  rfl

theorem startsOf_stopOp (payload : JsRecord) : (stopOp engine handling payload).StartsOf ocppId :=
  startsOf_elim fun _ => trivial

theorem startsOf_transactionEventOp (payload : JsRecord) :
    (transactionEventOp engine handling ocppId payload).StartsOf ocppId := by
  apply startsOf_elim
  intro txId
  apply startsOf_ite (startsOf_startOp _)
  apply startsOf_ite
  · apply startsOf_elim
    exact fun _ => trivial
  · exact startsOf_ite trivial trivial

theorem startsOf_mqttStartOp (tenantId : String) (data : ChargerTransactionPayload) :
    (mqttStartOp tenantId data).StartsOf data.chargerId :=
  startsOf_elim fun _ => rfl

theorem startsOf_mqttStopOp (tenantId : String) (data : ChargerTransactionPayload) :
    (mqttStopOp handling tenantId data).StartsOf ocppId :=
  startsOf_elim fun _ => trivial

theorem SessionMessage.startsOf_sender {message : SessionMessage} {sender : String}
    (sent : message.sender engine = some sender) :
    (message.op engine handling store).StartsOf sender := by
  cases message with
  | ocpp message =>
    have isSender : (normalizeSessionEvent engine message).chargePointId = some sender := sent
    rw [op, ocppOp, isSender]
    apply startsOf_ite (startsOf_startOp _)
    apply startsOf_ite (startsOf_stopOp _)
    apply startsOf_ite (startsOf_transactionEventOp _)
    apply startsOf_ite (startsOf_startOp _)
    exact startsOf_ite (startsOf_stopOp _) trivial
  | chargerTransactionStarted topic data =>
    obtain rfl := Option.some.inj sent
    exact startsOf_elim fun tenantId => startsOf_mqttStartOp tenantId data
  | chargerTransactionUpdated topic data =>
    exact startsOf_elim fun tenantId => startsOf_ite (startsOf_mqttStopOp tenantId data) trivial
  | legacyEvseTransaction topic data =>
    obtain rfl := Option.some.inj sent
    apply startsOf_elim
    intro tenantId
    apply startsOf_elim
    intro _
    apply startsOf_ite (startsOf_mqttStartOp tenantId data)
    exact startsOf_ite (startsOf_mqttStopOp tenantId data) trivial

end Starts

/-- A message that spares the others leaves a store that looks alike to them. -/
theorem SessionOp.alike_of_spares {sender newId : String} {op : SessionOp}
    (starts : op.StartsOf sender) (spares : op.Spares store sender newId) :
    Alike sender newId (op.apply newId store) store := by
  cases op with
  | ignore => exact .refl store
  | start tenantId new =>
    rw [apply]
    rcases startable : store.startable tenantId new with _ | chargePoint
    · exact .refl store
    · have isOwn : new.ocppId = sender := starts
      apply alike_create isOwn
      rintro ⟨other, member, isOther⟩ accepted
      rcases spares chargePoint startable accepted with noTx | alone
      · exact ⟨rfl, noTx⟩
      · exact absurd (alone other member) isOther
  | change tenantId txId step =>
    rw [apply]
    rcases found : store.changeable tenantId txId with _ | session
    · exact .refl store
    · have member := store.mem_of_sessionOf (changeable_eq_some found)
      rcases spares session found with isOwn | unchanged
      · exact alike_changeSession member isOwn step
      · rw [Option.elim_some, store.changeSession_of_unchanged member unchanged]
        exact .refl store

theorem Store.exists_free_id (store : Store) (used : String) :
    ∃ id, id ≠ used ∧ store.sessions.find? id = none := by
  rcases Infinite.exists_notMem_finset (used :: store.sessions.rows.map Session.id).toFinset with
    ⟨id, isFree⟩
  rw [List.mem_toFinset, List.mem_cons, not_or] at isFree
  exact ⟨id, isFree.1, Table.find?_eq_none_iff.mpr isFree.2⟩

/-- The session that another charge point would start under a transaction id. -/
def NewSession.rival (ocppId txId : String) : NewSession where
  ocppId := ocppId
  ocppTxId := some txId
  connectorId := 0
  idTag := none
  startTime := 0
  meterStart := 0

theorem apply_rival {chargePoint : ChargePoint} (known : chargePoint ∈ store.chargePoints.rows)
    (txId newId : String) :
    (SessionOp.start none (.rival chargePoint.ocppId txId)).apply newId store = store.create newId
        { NewSession.rival chargePoint.ocppId txId with stationId := chargePoint.stationId } := by
  have found : store.chargePoint? chargePoint.ocppId = some chargePoint :=
    Table.find?_eq_some_iff.mpr ⟨known, rfl⟩
  rw [SessionOp.apply, startable_none]
  change (store.chargePoint? chargePoint.ocppId).elim _ _ = _
  rw [found]
  rfl

/-- A charge point that finds its transaction id taken starts no session. -/
theorem noTx_or_alone_of_isolated {sender newId : String} (isOwn : data.ocppId = sender)
    (accepted : store.accepts newId data = true)
    (isolated : ∀ ocppId ≠ sender, ∀ request : String × SessionOp, request.1 ≠ newId → (request.2.apply request.1 (store.create newId data)).sessionsOf ocppId = (request.2.apply request.1 store).sessionsOf ocppId) :
    data.ocppTxId = none ∨ ∀ other ∈ store.chargePoints.rows, other.ocppId = sender := by
  by_contra bad
  push Not at bad
  rcases bad with ⟨hasTx, other, known, isOther⟩
  rcases Option.ne_none_iff_exists'.mp hasTx with ⟨txId, isTx⟩
  rcases store.exists_free_id newId with ⟨id, isNew, free⟩
  have noSession : store.sessionOf txId = none := by
    rw [Store.accepts, isTx] at accepted
    simp only [Bool.and_eq_true] at accepted
    exact Option.isNone_iff_eq_none.mp accepted.1.2
  have rivalAccepted : store.accepts id
      { NewSession.rival other.ocppId txId with stationId := other.stationId } = true := by
    rw [Store.accepts, free]
    change (_ && (store.sessionOf txId).isNone && _) = true
    rw [noSession]
    rfl
  have same := isolated other.ocppId isOther
    ⟨id, .start none (.rival other.ocppId txId)⟩ isNew
  have knownLater : other ∈ (store.create newId data).chargePoints.rows := by
    rw [Store.chargePoints_create]
    exact known
  rw [apply_rival known, apply_rival knownLater, Store.create_of_taken,
    Store.sessionsOf_create store accepted, Store.sessionsOf_create store rivalAccepted,
    if_neg (isOwn ▸ Ne.symm isOther), List.append_nil] at same
  · exact absurd (List.self_eq_append_right.mp same) (by simp [NewSession.rival])
  · change ((store.create newId data).sessionOf txId).isSome = true
    rw [Store.sessionOf_create store accepted, noSession, isTx]
    simp

/-- A message is isolated from the other charge points exactly when it spares them. -/
theorem isolated_iff_spares {sender : String} (sent : delivery.message.sender engine = some sender) :
    delivery.Isolated engine store sender ↔
      (delivery.op engine store).Spares store sender delivery.handling.newId := by
  have starts : (delivery.op engine store).StartsOf sender := SessionMessage.startsOf_sender sent
  rw [Delivery.Isolated, Delivery.next_eq]
  generalize delivery.op engine store = op at starts ⊢
  constructor
  · intro isolated
    cases op with
    | ignore => trivial
    | start tenantId new =>
      intro chargePoint startable accepted
      have isOwn : new.ocppId = sender := starts
      apply noTx_or_alone_of_isolated isOwn accepted
      intro ocppId isOther request isNew
      have same := isolated ocppId isOther [request] (by simpa using isNew)
      rw [SessionOp.apply, startable] at same
      exact same
    | change tenantId txId step =>
      intro session found
      by_contra bad
      push Not at bad
      have member := store.mem_of_sessionOf (changeable_eq_some found)
      have same := isolated session.ocppId bad.1 [] (fun _ member => absurd member List.not_mem_nil)
      rw [SessionOp.apply, found] at same
      exact bad.2 (store.apply_eq_of_sessionsOf_eq member same)
  · intro spares ocppId isOther later areNew
    have alike := (SessionOp.alike_of_spares starts spares).applyAll areNew
    rw [Store.sessionsOf_eq_filter_others _ isOther, Store.sessionsOf_eq_filter_others _ isOther,
      alike.others]

end Delivery

/-- A charge point stops its own transaction. -/
theorem isolated_iff_spares_ownStop :
    (Sample.delivery "third" "CP-A" "StopTransaction" "1001").Isolated Sample.engine Sample.store
      "CP-A" := by
  apply (isolated_iff_spares (by decide +kernel)).mpr
  decide +kernel

/-- A charge point stops the transaction of another, and the id of a transaction that it
starts cannot be used by another any more. -/
theorem message_reaches_others :
    ((Sample.delivery "third" "CP-A" "StopTransaction" "1002").next Sample.engine
        Sample.store).sessionsOf "CP-B" ≠ Sample.store.sessionsOf "CP-B" ∧
      (Delivery.nextAll Sample.engine Sample.store
          [Sample.delivery "third" "CP-A" "StartTransaction" "1003",
            Sample.delivery "fourth" "CP-B" "StartTransaction" "1003"]).sessionsOf "CP-B" ≠
        (Delivery.nextAll Sample.engine Sample.store
          [Sample.delivery "fourth" "CP-B" "StartTransaction" "1003"]).sessionsOf "CP-B" := by
  decide +kernel

end Csms.Sessions
