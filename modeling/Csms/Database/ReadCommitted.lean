import Csms.Database.Request
import Csms.Database.Tx

/-!
# Read committed isolation

Sessions execute their transactions statement by statement.  A statement sees
what was committed when it starts, with the writes of its own transaction; a
write waits until no other transaction holds the rows it locks and keeps them
until the end; writes become visible at the commit, and a rollback, which can
happen at any time, leaves nothing.

For guarded transactions this is the system in which each transaction takes
effect at once when it commits: the refinement is `Reachable.abstract`.
-/

namespace Csms.Database

variable {σ κ τ ε ι ρ ℓ : Type} {β : τ → Type}

/-- Where a session is. -/
inductive Progress (σ ℓ κ τ : Type) (β : τ → Type) (ε ρ : Type) where
  | outside (rest : Request σ κ τ β ε ρ)
  /-- In a transaction: its statements to come, what it has written and what it
  has locked. -/
  | inside (label : τ) (rest : Option (β label) → Request σ κ τ β ε ρ)
      (statements : Tx σ ℓ (β label)) (own : σ → σ) (held : List ℓ)
  | stopped

namespace Progress

/-- The locks a session holds. -/
def held : Progress σ ℓ κ τ β ε ρ → List ℓ
  | outside _ => []
  | inside _ _ _ _ held => held
  | stopped => []

/-- A transaction that has not committed is still to be executed. -/
def abstract : Progress σ ℓ κ τ β ε ρ → Option (Request σ κ τ β ε ρ)
  | outside rest => some rest
  | inside label rest _ _ _ => some (.transact label rest)
  | stopped => none

end Progress

/-- A session and its connection to the database. -/
structure Connection (σ ℓ κ τ : Type) (β : τ → Type) (ε ι ρ : Type) where
  request : ι
  arrived : Nat
  progress : Progress σ ℓ κ τ β ε ρ

def Connection.abstract (connection : Connection σ ℓ κ τ β ε ι ρ) : Session σ κ τ β ε ι ρ :=
  ⟨connection.request, connection.arrived, connection.progress.abstract⟩

/-- The database with its sessions. -/
structure ReadCommitted (σ ℓ κ τ : Type) (β : τ → Type) (ε ι ρ : Type) where
  shared : Shared σ τ
  sessions : List (Connection σ ℓ κ τ β ε ι ρ)

/-- What can happen next. -/
inductive DatabaseEvent (ι : Type) where
  | arrive (request : ι)
  | query (id : Nat)
  | begin (id : Nat)
  | statement (id : Nat)
  | commit (id : Nat)
  | abort (id : Nat)
  | stop (id : Nat)

def DatabaseEvent.arriving : DatabaseEvent ι → Option ι
  | arrive request => some request
  | _ => none

namespace ReadCommitted

/-- No request has arrived. -/
def initial (store : σ) : ReadCommitted σ ℓ κ τ β ε ι ρ :=
  ⟨Shared.initial store, []⟩

def abstract (state : ReadCommitted σ ℓ κ τ β ε ι ρ) : System σ κ τ β ε ι ρ :=
  ⟨state.shared, state.sessions.map Connection.abstract⟩

def moveOn (state : ReadCommitted σ ℓ κ τ β ε ι ρ) (id : Nat)
    (progress : Progress σ ℓ κ τ β ε ρ) : List (Connection σ ℓ κ τ β ε ι ρ) :=
  state.sessions.modify id fun session => { session with progress }

/-- No other session holds one of the locks. -/
def isFree [DecidableEq ℓ] (state : ReadCommitted σ ℓ κ τ β ε ι ρ) (id : Nat)
    (rows : List ℓ) : Bool :=
  state.sessions.zipIdx.all fun session =>
    session.2 = id || rows.all (· ∉ session.1.progress.held)

variable [DecidableEq ℓ] (body : (label : τ) → Tx σ ℓ (β label))
  (program : ι → Request σ κ τ β ε ρ) (conditions : Conditions σ κ τ ι)

/-- The next statement of a transaction. -/
def executeStatement (state : ReadCommitted σ ℓ κ τ β ε ι ρ) (id : Nat) {label : τ}
    (rest : Option (β label) → Request σ κ τ β ε ρ) (own : σ → σ) (held : List ℓ) :
    Tx σ ℓ (β label) → Option (ReadCommitted σ ℓ κ τ β ε ι ρ)
  | .read more =>
    some { state with
      sessions := state.moveOn id (.inside label rest (more (own state.shared.store)) own held) }
  | .write rows allowed change more =>
    if state.isFree id rows && allowed (own state.shared.store) then
      some { state with
        sessions := state.moveOn id
          (.inside label rest (more (change (own state.shared.store))) (change ∘ own)
            (rows ++ held)) }
    else none
  | _ => none

/-- The state after an event; `none` when it cannot happen. -/
def next (state : ReadCommitted σ ℓ κ τ β ε ι ρ) :
    DatabaseEvent ι → Option (ReadCommitted σ ℓ κ τ β ε ι ρ)
  | .arrive request =>
    if conditions.onArrive request state.shared then
      some { state with
        sessions := state.sessions ++
          [⟨request, state.shared.commits.length, .outside (program request)⟩] }
    else none
  | .query id =>
    match state.sessions[id]? with
    | some ⟨request, _, .outside (.query name rest)⟩ =>
      if conditions.onQuery request name state.shared then
        some { state with
          sessions := state.moveOn id (.outside (rest state.shared.store)) }
      else none
    | _ => none
  | .begin id =>
    match state.sessions[id]? with
    | some ⟨_, _, .outside (.transact label rest)⟩ =>
      some { state with
        sessions := state.moveOn id (.inside label rest (body label) (fun store => store) []) }
    | _ => none
  | .statement id =>
    match state.sessions[id]? with
    | some ⟨_, _, .inside _ rest statements own held⟩ =>
      state.executeStatement id rest own held statements
    | _ => none
  | .commit id =>
    match state.sessions[id]? with
    | some ⟨request, _, .inside label rest (.commit result) own _⟩ =>
      if conditions.onCommit request label state.shared then
        some
          { shared := state.shared.commit id label (own state.shared.store)
            sessions := state.moveOn id (.outside (rest (some result))) }
      else none
    | _ => none
  | .abort id =>
    match state.sessions[id]? with
    | some ⟨_, _, .inside _ rest _ _ _⟩ =>
      some { state with sessions := state.moveOn id (.outside (rest none)) }
    | _ => none
  | .stop id => some { state with sessions := state.moveOn id .stopped }

/-- What finitely many events lead to. -/
def Reachable : ReadCommitted σ ℓ κ τ β ε ι ρ → ReadCommitted σ ℓ κ τ β ε ι ρ → Prop :=
  Transition.Reachable (next body program conditions)

/-! ## What an event does -/

/-- The event as a relation, one constructor a kind of step. -/
inductive Happens (state : ReadCommitted σ ℓ κ τ β ε ι ρ) : ReadCommitted σ ℓ κ τ β ε ι ρ → Prop
  | arrive (request : ι) :
      conditions.onArrive request state.shared = true →
      Happens state { state with
        sessions := state.sessions ++
          [⟨request, state.shared.commits.length, .outside (program request)⟩] }
  | query (id : Nat) (request : ι) (arrived : Nat) (name : κ) (rest : σ → Request σ κ τ β ε ρ) :
      state.sessions[id]? = some ⟨request, arrived, .outside (.query name rest)⟩ →
      conditions.onQuery request name state.shared = true →
      Happens state { state with
        sessions := state.moveOn id (.outside (rest state.shared.store)) }
  | begin (id : Nat) (request : ι) (arrived : Nat) (label : τ)
      (rest : Option (β label) → Request σ κ τ β ε ρ) :
      state.sessions[id]? = some ⟨request, arrived, .outside (.transact label rest)⟩ →
      Happens state { state with
        sessions := state.moveOn id (.inside label rest (body label) (fun store => store) []) }
  | read (id : Nat) (request : ι) (arrived : Nat) (label : τ)
      (rest : Option (β label) → Request σ κ τ β ε ρ) (more : σ → Tx σ ℓ (β label))
      (own : σ → σ) (held : List ℓ) :
      state.sessions[id]? = some ⟨request, arrived, .inside label rest (.read more) own held⟩ →
      Happens state { state with
        sessions := state.moveOn id
          (.inside label rest (more (own state.shared.store)) own held) }
  | write (id : Nat) (request : ι) (arrived : Nat) (label : τ)
      (rest : Option (β label) → Request σ κ τ β ε ρ) (rows : List ℓ) (allowed : σ → Bool)
      (change : σ → σ) (more : σ → Tx σ ℓ (β label)) (own : σ → σ) (held : List ℓ) :
      state.sessions[id]? =
        some ⟨request, arrived, .inside label rest (.write rows allowed change more) own held⟩ →
      state.isFree id rows = true → allowed (own state.shared.store) = true →
      Happens state { state with
        sessions := state.moveOn id
          (.inside label rest (more (change (own state.shared.store))) (change ∘ own)
            (rows ++ held)) }
  | commit (id : Nat) (request : ι) (arrived : Nat) (label : τ)
      (rest : Option (β label) → Request σ κ τ β ε ρ) (result : β label) (own : σ → σ)
      (held : List ℓ) :
      state.sessions[id]? = some ⟨request, arrived, .inside label rest (.commit result) own held⟩ →
      conditions.onCommit request label state.shared = true →
      Happens state
        { shared := state.shared.commit id label (own state.shared.store)
          sessions := state.moveOn id (.outside (rest (some result))) }
  | abort (id : Nat) (request : ι) (arrived : Nat) (label : τ)
      (rest : Option (β label) → Request σ κ τ β ε ρ) (statements : Tx σ ℓ (β label))
      (own : σ → σ) (held : List ℓ) :
      state.sessions[id]? = some ⟨request, arrived, .inside label rest statements own held⟩ →
      Happens state { state with sessions := state.moveOn id (.outside (rest none)) }
  | stop (id : Nat) :
      Happens state { state with sessions := state.moveOn id .stopped }

variable {body program conditions}

variable (body conditions) in
/-- Where an event moves a session on to, and what is committed then. -/
inductive Moves (state : ReadCommitted σ ℓ κ τ β ε ι ρ) (id : Nat) :
    DatabaseEvent ι → Progress σ ℓ κ τ β ε ρ → Shared σ τ → Prop
  | query {request : ι} {arrived : Nat} {name : κ} {rest : σ → Request σ κ τ β ε ρ} :
      state.sessions[id]? = some ⟨request, arrived, .outside (.query name rest)⟩ →
      conditions.onQuery request name state.shared = true →
      Moves state id (.query id) (.outside (rest state.shared.store)) state.shared
  | begin {request : ι} {arrived : Nat} {label : τ}
      {rest : Option (β label) → Request σ κ τ β ε ρ} :
      state.sessions[id]? = some ⟨request, arrived, .outside (.transact label rest)⟩ →
      Moves state id (.begin id) (.inside label rest (body label) (fun store => store) [])
        state.shared
  | read {request : ι} {arrived : Nat} {label : τ}
      {rest : Option (β label) → Request σ κ τ β ε ρ} {more : σ → Tx σ ℓ (β label)}
      {own : σ → σ} {held : List ℓ} :
      state.sessions[id]? = some ⟨request, arrived, .inside label rest (.read more) own held⟩ →
      Moves state id (.statement id) (.inside label rest (more (own state.shared.store)) own held)
        state.shared
  | write {request : ι} {arrived : Nat} {label : τ}
      {rest : Option (β label) → Request σ κ τ β ε ρ} {rows : List ℓ} {allowed : σ → Bool}
      {change : σ → σ} {more : σ → Tx σ ℓ (β label)} {own : σ → σ} {held : List ℓ} :
      state.sessions[id]? =
        some ⟨request, arrived, .inside label rest (.write rows allowed change more) own held⟩ →
      state.isFree id rows = true → allowed (own state.shared.store) = true →
      Moves state id (.statement id)
        (.inside label rest (more (change (own state.shared.store))) (change ∘ own) (rows ++ held))
        state.shared
  | commit {request : ι} {arrived : Nat} {label : τ}
      {rest : Option (β label) → Request σ κ τ β ε ρ} {result : β label} {own : σ → σ}
      {held : List ℓ} :
      state.sessions[id]? = some ⟨request, arrived, .inside label rest (.commit result) own held⟩ →
      conditions.onCommit request label state.shared = true →
      Moves state id (.commit id) (.outside (rest (some result)))
        (state.shared.commit id label (own state.shared.store))
  | abort {request : ι} {arrived : Nat} {label : τ}
      {rest : Option (β label) → Request σ κ τ β ε ρ} {statements : Tx σ ℓ (β label)}
      {own : σ → σ} {held : List ℓ} :
      state.sessions[id]? = some ⟨request, arrived, .inside label rest statements own held⟩ →
      Moves state id (.abort id) (.outside (rest none)) state.shared
  | stop : Moves state id (.stop id) .stopped state.shared

section

variable {state target : ReadCommitted σ ℓ κ τ β ε ι ρ} {event : DatabaseEvent ι}
    (step : next body program conditions state event = some target)
include step

/-- An event adds the session of a request, or moves a session on. -/
theorem moves_of_next :
    (∃ request, event = .arrive request ∧ conditions.onArrive request state.shared = true ∧
        target = { state with
          sessions := state.sessions ++
            [⟨request, state.shared.commits.length, .outside (program request)⟩] }) ∨
      ∃ id progress shared, target = ⟨shared, state.moveOn id progress⟩ ∧
        Moves body conditions state id event progress shared := by
  cases event with
  | arrive request =>
    rw [next] at step
    split at step
    · rename_i allowed
      exact Or.inl ⟨request, rfl, allowed, (Option.some.inj step).symm⟩
    · contradiction
  | query id =>
    rw [next] at step
    split at step
    · rename_i found
      split at step
      · rename_i allowed
        exact Or.inr ⟨id, _, _, (Option.some.inj step).symm, .query found allowed⟩
      · contradiction
    · contradiction
  | begin id =>
    rw [next] at step
    split at step
    · rename_i found
      exact Or.inr ⟨id, _, _, (Option.some.inj step).symm, .begin found⟩
    · contradiction
  | statement id =>
    rw [next] at step
    split at step
    · rename_i statements own held found
      cases statements with
      | commit result => contradiction
      | rollback => contradiction
      | read more => exact Or.inr ⟨id, _, _, (Option.some.inj step).symm, .read found⟩
      | write rows allowed change more =>
        rw [executeStatement] at step
        split at step
        · rename_i enabled
          rw [Bool.and_eq_true] at enabled
          exact Or.inr ⟨id, _, _, (Option.some.inj step).symm,
            .write found enabled.1 enabled.2⟩
        · contradiction
    · contradiction
  | commit id =>
    rw [next] at step
    split at step
    · rename_i found
      split at step
      · rename_i allowed
        exact Or.inr ⟨id, _, _, (Option.some.inj step).symm, .commit found allowed⟩
      · contradiction
    · contradiction
  | abort id =>
    rw [next] at step
    split at step
    · rename_i found
      exact Or.inr ⟨id, _, _, (Option.some.inj step).symm, .abort found⟩
    · contradiction
  | stop id => exact Or.inr ⟨id, _, _, (Option.some.inj step).symm, .stop⟩

theorem happens_of_next : Happens body program conditions state target := by
  rcases moves_of_next step with ⟨request, _, allowed, rfl⟩ | ⟨id, progress, shared, rfl, moves⟩
  · exact .arrive request allowed
  · cases moves with
    | query found allowed => exact .query id _ _ _ _ found allowed
    | begin found => exact .begin id _ _ _ _ found
    | read found => exact .read id _ _ _ _ _ _ _ found
    | write found isFree allowed => exact .write id _ _ _ _ _ _ _ _ _ _ found isFree allowed
    | commit found allowed => exact .commit id _ _ _ _ _ _ _ found allowed
    | abort found => exact .abort id _ _ _ _ _ _ _ found
    | stop => exact .stop id

/-- Only a commit changes what is committed. -/
theorem shared_of_next : target.shared = state.shared ∨
      ∃ id request arrived label rest result own held, event = .commit id ∧
        state.sessions[id]? = some ⟨request, arrived, .inside label rest (.commit result) own held⟩ ∧
        target.shared = state.shared.commit id label (own state.shared.store) := by
  rcases moves_of_next step with ⟨request, _, _, rfl⟩ | ⟨id, progress, shared, rfl, moves⟩
  · exact Or.inl rfl
  · cases moves with
    | commit found => exact Or.inr ⟨id, _, _, _, _, _, _, _, rfl, found, rfl⟩
    | _ => exact Or.inl rfl

/-! ## Sessions and requests -/

end

omit [DecidableEq ℓ] in
theorem requests_moveOn (state : ReadCommitted σ ℓ κ τ β ε ι ρ) (id : Nat)
    (progress : Progress σ ℓ κ τ β ε ρ) : (state.moveOn id progress).map Connection.request =
      state.sessions.map Connection.request := by
  apply List.ext_getElem?
  intro other
  rw [moveOn, List.getElem?_map, List.getElem?_modify, List.getElem?_map]
  rcases state.sessions[other]? with _ | session
  · rfl
  · by_cases same : id = other <;> simp [same]

/-- The sessions are those of the requests that have arrived. -/
theorem requests_of_next {state target : ReadCommitted σ ℓ κ τ β ε ι ρ} {event : DatabaseEvent ι}
    (step : next body program conditions state event = some target) :
    target.sessions.map Connection.request =
      state.sessions.map Connection.request ++ event.arriving.toList := by
  rcases moves_of_next step with ⟨request, rfl, _, rfl⟩ | ⟨id, progress, shared, rfl, moves⟩
  · exact List.map_append
  · rw [requests_moveOn]
    cases moves <;> exact (List.append_nil _).symm

/-- After a run there is a session for each request that arrived, in their order. -/
theorem requests_of_foldlM {source target : ReadCommitted σ ℓ κ τ β ε ι ρ}
    {events : List (DatabaseEvent ι)}
    (run : events.foldlM (next body program conditions) source = some target) :
    target.sessions.map Connection.request =
      source.sessions.map Connection.request ++ events.filterMap DatabaseEvent.arriving := by
  induction events generalizing source with
  | nil =>
    obtain rfl := Option.some.inj run
    exact (List.append_nil _).symm
  | cons event events ih =>
    rw [List.foldlM_cons, Option.bind_eq_bind, Option.bind_eq_some_iff] at run
    rcases run with ⟨middle, step, rest⟩
    rw [ih rest, requests_of_next step, List.append_assoc]
    cases event <;> rfl

/-! ## The refinement -/

section Abstract

variable {state : ReadCommitted σ ℓ κ τ β ε ι ρ} {id : Nat} {progress : Progress σ ℓ κ τ β ε ρ}

omit [DecidableEq ℓ] in
theorem getElem?_moveOn {other : Nat} {session : Connection σ ℓ κ τ β ε ι ρ}
    (found : (state.moveOn id progress)[other]? = some session) :
    other ≠ id ∧ state.sessions[other]? = some session ∨
      other = id ∧ session.progress = progress := by
  rw [moveOn, List.getElem?_modify] at found
  by_cases same : id = other
  · subst same
    rcases stored : state.sessions[id]? with _ | before
    · simp [stored] at found
    · simp only [stored, if_true, Option.map_eq_map, Option.map_some, Option.some.injEq] at found
      exact Or.inr ⟨rfl, found ▸ rfl⟩
  · refine Or.inl ⟨Ne.symm same, ?_⟩
    simpa [same] using found

omit [DecidableEq ℓ] in
theorem abstract_moveOn (shared : Shared σ τ) :
    abstract { shared, sessions := state.moveOn id progress } =
      { shared, sessions := state.abstract.moveOn id progress.abstract } := by
  rw [abstract]
  congr 1
  apply List.ext_getElem?
  intro other
  simp only [moveOn, System.moveOn, abstract, List.getElem?_map, List.getElem?_modify,
    Option.map_eq_map, Option.map_map]
  congr 1
  funext session
  by_cases same : id = other <;> simp [same, Connection.abstract]

omit [DecidableEq ℓ] in
/-- A statement inside of a transaction is not seen from outside. -/
theorem abstract_moveOn_of_eq {before : Connection σ ℓ κ τ β ε ι ρ}
    (found : state.sessions[id]? = some before)
    (same : progress.abstract = before.progress.abstract) :
    abstract { state with sessions := state.moveOn id progress } = state.abstract := by
  rw [abstract, abstract]
  congr 1
  apply List.ext_getElem?
  intro other
  rw [List.getElem?_map, List.getElem?_map, moveOn, List.getElem?_modify]
  by_cases isId : id = other
  · subst isId
    simp [found, Connection.abstract, same]
  · simp [isId]

omit [DecidableEq ℓ] in
theorem abstract_getElem? {session : Connection σ ℓ κ τ β ε ι ρ}
    (found : state.sessions[id]? = some session) :
    state.abstract.sessions[id]? = some session.abstract := by
  rw [abstract, List.getElem?_map, found]
  rfl

omit [DecidableEq ℓ] in
/-- A session that stays where it is, or moves on to the same request. -/
theorem exists_abstract_moveOn {other : Nat} {before : Connection σ ℓ κ τ β ε ι ρ}
    {rest : Option (Request σ κ τ β ε ρ)} (found : state.sessions[id]? = some before)
    (isAt : before.progress.abstract = rest) (same : other = id → progress.abstract = rest) :
    ∃ after, (state.moveOn other progress)[id]? = some after ∧ after.progress.abstract = rest := by
  rw [moveOn, List.getElem?_modify, found]
  by_cases isOther : other = id
  · exact ⟨_, rfl, by simp [isOther, same isOther]⟩
  · exact ⟨before, by simp [isOther], isAt⟩

theorem transact_kept_of_next {state target : ReadCommitted σ ℓ κ τ β ε ι ρ}
    {event : DatabaseEvent ι} (step : next body program conditions state event = some target)
    {connection : Connection σ ℓ κ τ β ε ι ρ} (found : state.sessions[id]? = some connection)
    {label : τ} {rest : Option (β label) → Request σ κ τ β ε ρ}
    (isAt : connection.progress.abstract = some (.transact label rest))
    (notAborted : event ≠ .abort id) (notStopped : event ≠ .stop id) :
    (∃ after, target.sessions[id]? = some after ∧
        after.progress.abstract = some (.transact label rest)) ∨
      ∃ after, target.shared = state.shared.commit id label after := by
  rcases moves_of_next step with ⟨request, rfl, _, rfl⟩ | ⟨other, progress, shared, rfl, moves⟩
  · exact Or.inl ⟨connection,
      Transition.getElem?_append_singleton_eq_some_iff.mpr (Or.inl found), isAt⟩
  · by_cases same : other = id
    · subst same
      cases moves with
      | query stored =>
        obtain rfl := Option.some.inj (found.symm.trans stored)
        cases isAt
      | begin stored | read stored | write stored =>
        obtain rfl := Option.some.inj (found.symm.trans stored)
        exact Or.inl (exists_abstract_moveOn found isAt fun _ => isAt)
      | commit stored =>
        obtain rfl := Option.some.inj (found.symm.trans stored)
        cases isAt
        exact Or.inr ⟨_, rfl⟩
      | abort => exact absurd rfl notAborted
      | stop => exact absurd rfl notStopped
    · exact Or.inl (exists_abstract_moveOn found isAt fun isSame => absurd isSame same)

theorem not_held_of_isFree {rows : List ℓ} (free : state.isFree id rows = true) {other : Nat}
    {session : Connection σ ℓ κ τ β ε ι ρ} (found : state.sessions[other]? = some session)
    (isOther : other ≠ id) {lock : ℓ} (wanted : lock ∈ rows) : lock ∉ session.progress.held := by
  rw [isFree, List.all_eq_true] at free
  have checked := free (session, other) (List.mk_mem_zipIdx_iff_getElem?.mpr found)
  simp only [isOther, decide_false, Bool.false_or, List.all_eq_true, decide_eq_true_eq] at checked
  exact checked lock wanted

end Abstract

/-- Transactions in progress are in the middle of their bodies, and no two hold
the same lock. -/
structure Isolated (protects : ℓ → Setoid σ) (body : (label : τ) → Tx σ ℓ (β label))
    (state : ReadCommitted σ ℓ κ τ β ε ι ρ) : Prop where
  follows : ∀ (id : Nat) (request : ι) (arrived : Nat) (label : τ)
    (rest : Option (β label) → Request σ κ τ β ε ρ) (statements : Tx σ ℓ (β label))
    (own : σ → σ) (held : List ℓ),
    state.sessions[id]? = some ⟨request, arrived, .inside label rest statements own held⟩ →
      Follows protects (body label) statements own held state.shared.store
  exclusive : ∀ (first second : Nat) (firstSession secondSession : Connection σ ℓ κ τ β ε ι ρ),
    state.sessions[first]? = some firstSession → state.sessions[second]? = some secondSession →
      first ≠ second → ∀ lock ∈ firstSession.progress.held,
        lock ∉ secondSession.progress.held

section Refinement

variable {protects : ℓ → Setoid σ} {state : ReadCommitted σ ℓ κ τ β ε ι ρ}

omit [DecidableEq ℓ] in
theorem Isolated.moveOn (isolated : Isolated protects body state) {id : Nat}
    {progress : Progress σ ℓ κ τ β ε ρ} {shared : Shared σ τ}
    (unchanged : ∀ other session, other ≠ id → state.sessions[other]? = some session →
      Agree protects session.progress.held shared.store state.shared.store)
    (follows : ∀ label rest statements own held, progress = .inside label rest statements own held →
        Follows protects (body label) statements own held shared.store)
    (apart : ∀ other session, other ≠ id → state.sessions[other]? = some session →
      ∀ lock ∈ progress.held, lock ∉ session.progress.held) :
    Isolated protects body { shared, sessions := state.moveOn id progress } where
  follows := by
    intro other request arrived label rest statements own held found
    rcases getElem?_moveOn found with ⟨isOther, stays⟩ | ⟨_, isMoved⟩
    · exact (isolated.follows other request arrived label rest statements own held stays).interfere
        (unchanged other _ isOther stays)
    · exact follows label rest statements own held isMoved.symm
  exclusive := by
    intro first second firstSession secondSession firstFound secondFound distinct lock isHeld
    rcases getElem?_moveOn firstFound with ⟨firstOther, firstStays⟩ | ⟨rfl, firstMoved⟩
    · rcases getElem?_moveOn secondFound with ⟨_, secondStays⟩ | ⟨_, secondMoved⟩
      · exact isolated.exclusive first second _ _ firstStays secondStays distinct lock isHeld
      · rw [secondMoved]
        exact fun alsoHeld => apart first firstSession firstOther firstStays lock alsoHeld isHeld
    · rcases getElem?_moveOn secondFound with ⟨secondOther, secondStays⟩ | ⟨rfl, _⟩
      · rw [firstMoved] at isHeld
        exact apart second secondSession secondOther secondStays lock isHeld
      · exact absurd rfl distinct

omit [DecidableEq ℓ] in
/-- A session that gives up its locks leaves the others isolated. -/
theorem Isolated.moveOn_outside (isolated : Isolated protects body state) (id : Nat)
    (progress : Progress σ ℓ κ τ β ε ρ) (isOutside : ∀ label rest statements own held,
      progress ≠ .inside label rest statements own held) :
    Isolated protects body { state with sessions := state.moveOn id progress } := by
  apply isolated.moveOn
  · exact fun _ session _ _ => Agree.refl session.progress.held _
  · exact fun label rest statements own held equal => absurd equal (isOutside _ _ _ _ _)
  · intro _ _ _ _ lock isHeld
    cases progress with
    | outside | stopped => simp [Progress.held] at isHeld
    | inside label rest statements own held => exact absurd rfl (isOutside _ _ _ _ _)

omit [DecidableEq ℓ] in
/-- A session executes a statement and holds at least the locks it held. -/
theorem Isolated.moveOn_inside (isolated : Isolated protects body state) {id : Nat} {label : τ}
    {rest : Option (β label) → Request σ κ τ β ε ρ} {statements : Tx σ ℓ (β label)}
    {own : σ → σ} {held : List ℓ}
    (follows : Follows protects (body label) statements own held state.shared.store)
    (apart : ∀ other session, other ≠ id → state.sessions[other]? = some session →
      ∀ lock ∈ held, lock ∉ session.progress.held) : Isolated protects body
      { state with sessions := state.moveOn id (.inside label rest statements own held) } := by
  apply isolated.moveOn
  · exact fun _ session _ _ => Agree.refl session.progress.held _
  · intro _ _ _ _ _ equal
    cases equal
    exact follows
  · exact apart

omit [DecidableEq ℓ] in
theorem Isolated.arrive (isolated : Isolated protects body state) (request : ι) (arrived : Nat)
    (rest : Request σ κ τ β ε ρ) : Isolated protects body
      { state with sessions := state.sessions ++ [⟨request, arrived, .outside rest⟩] } where
  follows := by
    intro id _ _ label more statements own held found
    rcases Transition.getElem?_append_singleton_eq_some_iff.mp found with old | ⟨_, new⟩
    · exact isolated.follows id _ _ label more statements own held old
    · cases new
  exclusive := by
    intro first second firstSession secondSession firstFound secondFound distinct lock isHeld
    rcases Transition.getElem?_append_singleton_eq_some_iff.mp firstFound with firstOld | ⟨_, rfl⟩
    · rcases Transition.getElem?_append_singleton_eq_some_iff.mp secondFound with secondOld | ⟨_, rfl⟩
      · exact isolated.exclusive first second _ _ firstOld secondOld distinct lock isHeld
      · simp [Progress.held]
    · simp [Progress.held] at isHeld

/-- Every event is one of the system whose transactions take effect at once, or
is not seen there. -/
theorem Happens.refines (guarded : ∀ label, (body label).Guarded protects [])
    (isolated : Isolated protects body state) {target : ReadCommitted σ ℓ κ τ β ε ι ρ}
    (step : Happens body program conditions state target) : Isolated protects body target ∧
      (target.abstract = state.abstract ∨
        System.Step (fun label => (body label).run) program conditions state.abstract
          target.abstract) := by
  cases step with
  | arrive request allowed =>
    refine ⟨isolated.arrive request _ _, Or.inr ?_⟩
    have step : System.Step (fun label => (body label).run) program conditions state.abstract _ :=
      .arrive state.abstract request allowed
    simpa [abstract, Connection.abstract, Progress.abstract] using step
  | query id request arrived name rest found allowed =>
    refine ⟨isolated.moveOn_outside id _ (by simp), Or.inr ?_⟩
    rw [abstract_moveOn]
    exact .query state.abstract id request arrived name rest (abstract_getElem? found) allowed
  | begin id request arrived label rest found =>
    refine ⟨isolated.moveOn_inside (follows_begin (guarded label) _) (by simp), Or.inl ?_⟩
    exact abstract_moveOn_of_eq found rfl
  | read id request arrived label rest more own held found =>
    have follows := isolated.follows id request arrived label rest _ own held found
    refine ⟨isolated.moveOn_inside follows.read ?_, Or.inl ?_⟩
    · intro other session isOther otherFound
      exact isolated.exclusive id other _ session found otherFound isOther.symm
    · exact abstract_moveOn_of_eq found rfl
  | write id request arrived label rest rows allowed change more own held found free isAllowed =>
    have follows := isolated.follows id request arrived label rest _ own held found
    refine ⟨isolated.moveOn_inside (follows.write isAllowed) ?_, Or.inl ?_⟩
    · intro other session isOther otherFound lock isHeld
      rcases List.mem_append.mp isHeld with wanted | before
      · exact not_held_of_isFree free otherFound isOther wanted
      · exact isolated.exclusive id other _ session found otherFound isOther.symm lock before
    · exact abstract_moveOn_of_eq found rfl
  | commit id request arrived label rest result own held found allowed =>
    have follows := isolated.follows id request arrived label rest _ own held found
    constructor
    · apply isolated.moveOn
      · intro other session isOther otherFound lock isHeld
        have notOwn : lock ∉ held := fun alsoHeld =>
          isolated.exclusive id other _ session found otherFound isOther.symm lock alsoHeld
            isHeld
        exact follows.own_outside lock notOwn _
      · intro _ _ _ _ _ equal
        contradiction
      · intro _ _ _ _ lock isHeld
        simp [Progress.held] at isHeld
    · right
      rw [abstract_moveOn]
      exact .commit state.abstract id request arrived label rest _ result
        (abstract_getElem? found) allowed follows.commit
  | abort id request arrived label rest statements own held found =>
    refine ⟨isolated.moveOn_outside id _ (by simp), Or.inr ?_⟩
    rw [abstract_moveOn]
    exact .abort state.abstract id request arrived label rest (abstract_getElem? found)
  | stop id =>
    refine ⟨isolated.moveOn_outside id _ (by simp), Or.inr ?_⟩
    rw [abstract_moveOn]
    exact .stop state.abstract id

omit [DecidableEq ℓ] in
theorem isolated_initial (store : σ) :
    Isolated protects body (initial store : ReadCommitted σ ℓ κ τ β ε ι ρ) where
  follows := fun _ _ _ _ _ _ _ _ found => by simp [initial] at found
  exclusive := fun _ _ _ _ found => by simp [initial] at found

section

variable (guarded : ∀ label, (body label).Guarded protects [])
include guarded

/-- A run whose steps are all `permitted` is one in which transactions take effect at
once, and whose steps are permitted. -/
theorem abstract_of_permitted (permitted : System σ κ τ β ε ι ρ → System σ κ τ β ε ι ρ → Prop)
    {source target : ReadCommitted σ ℓ κ τ β ε ι ρ} (isolated : Isolated protects body source)
    (run : Relation.ReflTransGen (fun source target => Transition.Step (next body program conditions) source target ∧ permitted source.abstract target.abstract) source target) :
    Isolated protects body target ∧
      Relation.ReflTransGen (fun source target =>
        System.Step (fun label => (body label).run) program conditions source target ∧
          permitted source target) source.abstract target.abstract := by
  induction run with
  | refl => exact ⟨isolated, Relation.ReflTransGen.refl⟩
  | tail _ step ih =>
    rcases ih with ⟨stillIsolated, reached⟩
    rcases step with ⟨⟨event, taken⟩, isPermitted⟩
    rcases (happens_of_next taken).refines guarded stillIsolated with ⟨further, same | next⟩
    · exact ⟨further, same ▸ reached⟩
    · exact ⟨further, reached.tail ⟨next, isPermitted⟩⟩

theorem Reachable.abstract {store : σ}
    (reachable : Reachable body program conditions (initial store) state) :
    System.Reachable (fun label => (body label).run) program conditions (System.initial store)
      state.abstract := by
  have run := Relation.ReflTransGen.mono (fun _ _ step => And.intro step trivial) _ _ reachable
  have isAbstract := (abstract_of_permitted guarded (fun _ _ => True) (isolated_initial store) run).2
  exact Relation.ReflTransGen.mono (fun _ _ step => step.1) _ _ isAbstract

theorem Reachable.shared_invariant {store : σ} (invariant : Shared σ τ → Prop)
    (initially : invariant (Shared.initial store))
    (commits : ∀ shared id label after result, invariant shared → (body label).run shared.store = some (after, result) → invariant (shared.commit id label after))
    {state : ReadCommitted σ ℓ κ τ β ε ι ρ}
    (reachable : Reachable body program conditions (initial store) state) :
    invariant state.shared :=
  System.Reachable.shared_invariant invariant initially commits (reachable.abstract guarded)

theorem Reachable.commit_run {store : σ} {state : ReadCommitted σ ℓ κ τ β ε ι ρ}
    (reachable : Reachable body program conditions (initial store) state) :
    ∀ commit ∈ state.shared.commits,
      ∃ result, (body commit.label).run commit.before = some (commit.after, result) := by
  apply reachable.shared_invariant guarded fun shared =>
    ∀ commit ∈ shared.commits,
      ∃ result, (body commit.label).run commit.before = some (commit.after, result)
  · intro commit member
    simp [Shared.initial] at member
  · intro shared id label after result before succeeds commit member
    rw [Shared.commits_commit, List.mem_append, List.mem_singleton] at member
    rcases member with old | rfl
    · exact before commit old
    · exact ⟨result, succeeds⟩

/-- If every request that is expected to arrive under an id meets its postcondition
from where it arrives, the invariant holds in every run of such requests, and so
does the postcondition of every ended request. -/
theorem Reachable.meets_of_expected (expected : Nat → ι → Prop) (invariant : Shared σ τ → Prop)
    (rely : Shared σ τ → Shared σ τ → Prop) (post : ι → Nat → Nat → Except ε ρ → Shared σ τ → Prop)
    (refl : ∀ shared, rely shared shared)
    (trans : ∀ first second third, rely first second → rely second third → rely first third)
    {store : σ} (initially : invariant (Shared.initial store))
    (arrives : ∀ request id shared, expected id request → invariant shared → conditions.onArrive request shared = true → (program request).Meets (fun label => (body label).run) conditions invariant rely request id (post request id shared.commits.length) shared)
    {state : ReadCommitted σ ℓ κ τ β ε ι ρ}
    (reachable : Reachable body program conditions (initial store) state)
    (known : ∀ (id : Nat) (session : Connection σ ℓ κ τ β ε ι ρ), state.sessions[id]? = some session → expected id session.request) :
    invariant state.shared ∧
      (∀ (id : Nat) (request : ι) (arrived : Nat) (value : ρ),
        state.sessions[id]? = some ⟨request, arrived, .outside (.answer value)⟩ →
          post request id arrived (.ok value) state.shared) ∧
      ∀ (id : Nat) (request : ι) (arrived : Nat) (error : ε),
        state.sessions[id]? = some ⟨request, arrived, .outside (.throw error)⟩ →
          post request id arrived (.error error) state.shared := by
  have knownAbstract (id : Nat) (request : ι) (arrived : Nat)
      (rest : Option (Request σ κ τ β ε ρ))
      (found : state.abstract.sessions[id]? = some ⟨request, arrived, rest⟩) :
      expected id request := by
    rw [ReadCommitted.abstract, List.getElem?_map, Option.map_eq_some_iff] at found
    rcases found with ⟨session, isSession, isRequest⟩
    have same : session.request = request := congrArg Session.request isRequest
    exact same ▸ known id session isSession
  rcases (reachable.abstract guarded).meets_of_expected expected refl trans initially arrives
    knownAbstract with ⟨holds, meets⟩
  refine ⟨holds, ?_, ?_⟩
  · intro id request arrived value found
    have ended := meets id request arrived _ (abstract_getElem? found)
    exact meets_pure value |>.mp ended state.shared (refl _) holds
  · intro id request arrived error found
    have ended := meets id request arrived _ (abstract_getElem? found)
    exact meets_throw error |>.mp ended state.shared (refl _) holds

/-- The rule for all requests and their answers. -/
theorem Reachable.meets (invariant : Shared σ τ → Prop) (rely : Shared σ τ → Shared σ τ → Prop)
    (post : ι → Nat → Nat → Except ε ρ → Shared σ τ → Prop) (refl : ∀ shared, rely shared shared)
    (trans : ∀ first second third, rely first second → rely second third → rely first third)
    {store : σ} (initially : invariant (Shared.initial store))
    (arrives : ∀ request id shared, invariant shared → conditions.onArrive request shared = true → (program request).Meets (fun label => (body label).run) conditions invariant rely request id (post request id shared.commits.length) shared)
    {state : ReadCommitted σ ℓ κ τ β ε ι ρ}
    (reachable : Reachable body program conditions (initial store) state) :
    invariant state.shared ∧
      ∀ (id : Nat) (request : ι) (arrived : Nat) (value : ρ),
        state.sessions[id]? = some ⟨request, arrived, .outside (.answer value)⟩ →
          post request id arrived (.ok value) state.shared := by
  have meets := reachable.meets_of_expected guarded (fun _ _ => True) invariant rely post refl trans
    initially (fun request id shared _ => arrives request id shared) fun _ _ _ => trivial
  exact ⟨meets.1, meets.2.1⟩

/-- A property of stores and of commits that each transaction keeps exactly under a
condition, given what is known of all commits, holds of a whole run exactly when
each commit met the condition. -/
theorem Reachable.kept_iff (good : σ → Prop) (kept : σ → σ → Prop) (known condition : τ → σ → Prop)
    (exact : ∀ label store after result, good store → known label store → (body label).run store = some (after, result) → (good after ∧ kept store after ↔ condition label store))
    {store : σ} (initially : good store) {state : ReadCommitted σ ℓ κ τ β ε ι ρ}
    (reachable : Reachable body program conditions (initial store) state)
    (areKnown : ∀ commit ∈ state.shared.commits, known commit.label commit.before) :
    (good state.shared.store ∧
        ∀ commit ∈ state.shared.commits, good commit.before ∧ kept commit.before commit.after) ↔
      ∀ commit ∈ state.shared.commits, condition commit.label commit.before := by
  revert areKnown
  apply reachable.shared_invariant guarded fun shared =>
    (∀ commit ∈ shared.commits, known commit.label commit.before) →
      ((good shared.store ∧
          ∀ commit ∈ shared.commits, good commit.before ∧ kept commit.before commit.after) ↔
        ∀ commit ∈ shared.commits, condition commit.label commit.before)
  · simp [Shared.initial, initially]
  · intro shared id label after result before succeeds
    simp only [Shared.store_commit, Shared.commits_commit, List.forall_mem_append,
      List.forall_mem_singleton]
    rintro ⟨knownEarlier, knownHere⟩
    constructor
    · rintro ⟨goodAfter, earlier, goodBefore, keptHere⟩
      exact ⟨(before knownEarlier).mp ⟨goodBefore, earlier⟩,
        (exact label _ after result goodBefore knownHere succeeds).mp ⟨goodAfter, keptHere⟩⟩
    · rintro ⟨earlier, here⟩
      rcases (before knownEarlier).mpr earlier with ⟨goodBefore, keptEarlier⟩
      rcases (exact label _ after result goodBefore knownHere succeeds).mpr here with
        ⟨goodAfter, keptHere⟩
      exact ⟨goodAfter, keptEarlier, goodBefore, keptHere⟩

/-- A property of the store that each transaction keeps exactly under a condition
holds of all stores of a run exactly when each commit met the condition. -/
theorem Reachable.good_iff {good : σ → Prop} {condition : τ → σ → Prop}
    (exact : ∀ label store after result, good store → (body label).run store = some (after, result) → (good after ↔ condition label store))
    {store : σ} (initially : good store) {state : ReadCommitted σ ℓ κ τ β ε ι ρ}
    (reachable : Reachable body program conditions (initial store) state) :
    (good state.shared.store ∧ ∀ commit ∈ state.shared.commits, good commit.before) ↔
      ∀ commit ∈ state.shared.commits, condition commit.label commit.before := by
  have keptIff := reachable.kept_iff guarded good (fun _ _ => True) (fun _ _ => True) condition
    (fun label store after result isGood _ succeeds =>
      (and_iff_left trivial).trans (exact label store after result isGood succeeds))
    initially fun _ _ => trivial
  simpa only [and_true] using keptIff

end

end Refinement

end ReadCommitted

end Csms.Database
