import Csms.Transition.Run

/-!
# Requests against a shared database

A request of a service runs queries and transactions until it answers or throws.
Requests of many sessions interleave: between two steps of one, others run.
This file has the requests as a monad, the system in which each transaction
takes effect at once when it commits, and the rule that proves requests against
what the others may do meanwhile: an invariant of the shared state, a relation
that every commit stays in, and a postcondition that what other sessions do
cannot break.
-/

namespace Csms.Database

variable {σ κ τ ε ι α γ ρ : Type} {β : τ → Type}

/-! ## Requests -/

/-- What a request has still to do. -/
inductive Request (σ κ τ : Type) (β : τ → Type) (ε α : Type) where
  | answer (value : α)
  | throw (error : ε)
  /-- A query outside of transactions, under the name it has in the code. -/
  | query (name : κ) (rest : σ → Request σ κ τ β ε α)
  /-- A transaction: what follows gets its result, or `none` when it is rolled
  back. -/
  | transact (label : τ) (rest : Option (β label) → Request σ κ τ β ε α)

namespace Request

/-- Go on with the answer. -/
def bind (request : Request σ κ τ β ε α) (next : α → Request σ κ τ β ε γ) : Request σ κ τ β ε γ :=
  match request with
  | answer value => next value
  | throw error => throw error
  | query name rest => query name fun store => (rest store).bind next
  | transact label rest => transact label fun result => (rest result).bind next

instance : Monad (Request σ κ τ β ε) where
  pure := answer
  bind := bind

theorem bind_answer (request : Request σ κ τ β ε α) : request.bind answer = request := by
  induction request with
  | answer value => rfl
  | throw error => rfl
  | query name rest ih => exact congrArg (query name) (funext ih)
  | transact label rest ih => exact congrArg (transact label) (funext ih)

theorem bind_bind {δ : Type} (request : Request σ κ τ β ε α) (next : α → Request σ κ τ β ε γ)
    (last : γ → Request σ κ τ β ε δ) :
    (request.bind next).bind last = request.bind fun value => (next value).bind last := by
  induction request with
  | answer value => rfl
  | throw error => rfl
  | query name rest ih => exact congrArg (query name) (funext ih)
  | transact label rest ih => exact congrArg (transact label) (funext ih)

instance : LawfulMonad (Request σ κ τ β ε) :=
  LawfulMonad.mk' _ bind_answer (fun _ _ => rfl) bind_bind

/-- The answer of a query. -/
def read (name : κ) (find : σ → α) : Request σ κ τ β ε α :=
  query name fun store => answer (find store)

/-- The result of a transaction that throws when it is rolled back. -/
def commit (label : τ) (failure : ε) : Request σ κ τ β ε (β label) :=
  transact label fun result =>
    match result with
    | some value => answer value
    | none => throw failure

/-- A check of values that are at hand. -/
def ofExcept : Except ε α → Request σ κ τ β ε α
  | .ok value => answer value
  | .error error => throw error

end Request

/-- All transactions of the request, whatever it reads, are `allowed`. -/
inductive Request.Transacts (allowed : τ → Prop) : Request σ κ τ β ε α → Prop
  | answer (value : α) : Transacts allowed (.answer value)
  | throw (error : ε) : Transacts allowed (.throw error)
  | query (name : κ) (rest : σ → Request σ κ τ β ε α) :
      (∀ store, Transacts allowed (rest store)) → Transacts allowed (.query name rest)
  | transact (label : τ) (rest : Option (β label) → Request σ κ τ β ε α) :
      allowed label → (∀ result, Transacts allowed (rest result)) →
      Transacts allowed (.transact label rest)

variable {next : α → Request σ κ τ β ε γ}

section Transacts

variable {allowed : τ → Prop}

theorem transacts_of_forall (all : ∀ label, allowed label) (request : Request σ κ τ β ε α) :
    request.Transacts allowed := by
  induction request with
  | answer value => exact .answer value
  | throw error => exact .throw error
  | query name rest ih => exact .query name rest ih
  | transact label rest ih => exact .transact label rest (all label) ih

theorem transacts_pure (value : α) : (pure value : Request σ κ τ β ε α).Transacts allowed :=
  .answer value

theorem Request.Transacts.bind {first : Request σ κ τ β ε α} (transacts : first.Transacts allowed)
    (onward : ∀ value, (next value).Transacts allowed) : (first >>= next).Transacts allowed := by
  induction transacts with
  | answer value => exact onward value
  | throw error => exact .throw error
  | query name rest _ ih => exact .query name _ ih
  | transact label rest isAllowed _ ih => exact .transact label _ isAllowed ih

theorem Request.Transacts.imp {weaker : τ → Prop} (implies : ∀ label, allowed label → weaker label)
    {request : Request σ κ τ β ε α} (transacts : request.Transacts allowed) :
    request.Transacts weaker := by
  induction transacts with
  | answer value => exact .answer value
  | throw error => exact .throw error
  | query name rest _ ih => exact .query name rest ih
  | transact label rest isAllowed _ ih => exact .transact label rest (implies label isAllowed) ih

theorem Request.Transacts.ite {condition : Prop} [Decidable condition]
    {left right : Request σ κ τ β ε α} (onTrue : left.Transacts allowed)
    (onFalse : right.Transacts allowed) : (if condition then left else right).Transacts allowed := by
  split
  · exact onTrue
  · exact onFalse

theorem transacts_read (name : κ) (find : σ → α) :
    (Request.read name find : Request σ κ τ β ε α).Transacts allowed :=
  .query name _ fun store => .answer (find store)

theorem transacts_ofExcept (found : Except ε α) :
    (Request.ofExcept found : Request σ κ τ β ε α).Transacts allowed := by
  cases found with
  | ok value => exact .answer value
  | error error => exact .throw error

theorem transacts_ofExcept_bind {found : Except ε α}
    (onward : ∀ value, found = .ok value → (next value).Transacts allowed) :
    (Request.ofExcept found >>= next).Transacts allowed := by
  cases found with
  | ok value => exact onward value rfl
  | error error => exact .throw error

theorem Request.transacts_commit {label : τ} (failure : ε) (isAllowed : allowed label) :
    (Request.commit label failure : Request σ κ τ β ε (β label)).Transacts allowed := by
  apply Transacts.transact label _ isAllowed
  rintro (_ | value)
  · exact .throw failure
  · exact .answer value

end Transacts

/-! ## Requests without interference -/

section Alone

variable (effect : (label : τ) → σ → Option (σ × β label))

/-- What a request does when no other runs: the store it leaves and how it ends. -/
def Request.alone : Request σ κ τ β ε α → σ → σ × Except ε α
  | .answer value, store => (store, .ok value)
  | .throw error, store => (store, .error error)
  | .query _ rest, store => (rest store).alone store
  | .transact label rest, store =>
    match effect label store with
    | some (after, result) => (rest (some result)).alone after
    | none => (rest none).alone store

theorem alone_read_bind (name : κ) (find : σ → α) (next : α → Request σ κ τ β ε γ) (store : σ) :
    (Request.read name find >>= next).alone effect store = (next (find store)).alone effect store :=
  rfl

theorem alone_commit {label : τ} {failure : ε} {store after : σ} {result : β label}
    (succeeds : effect label store = some (after, result)) :
    (Request.commit label failure : Request σ κ τ β ε (β label)).alone effect store =
      (after, .ok result) := by
  rw [Request.commit, Request.alone, succeeds]
  rfl

theorem alone_commit_bind {label : τ} {failure : ε} {next : β label → Request σ κ τ β ε γ}
    {store after : σ} {result : β label} (succeeds : effect label store = some (after, result)) :
    (Request.commit label failure >>= next).alone effect store =
      (next result).alone effect after := by
  change (Request.transact label _).alone effect store = _
  rw [Request.alone, succeeds]
  rfl

end Alone

/-! ## The shared state -/

/-- A commit that has happened: who made it, and the store before and after. -/
structure Commit (σ τ : Type) where
  session : Nat
  label : τ
  (before after : σ)

/-- The committed store and how it came about. -/
structure Shared (σ τ : Type) where
  store : σ
  commits : List (Commit σ τ)

namespace Shared

/-- Before anything was committed. -/
def initial (store : σ) : Shared σ τ :=
  ⟨store, []⟩

def commit (shared : Shared σ τ) (session : Nat) (label : τ) (after : σ) : Shared σ τ :=
  ⟨after, shared.commits ++ [⟨session, label, shared.store, after⟩]⟩

@[simp]
theorem store_commit (shared : Shared σ τ) (session : Nat) (label : τ) (after : σ) :
    (shared.commit session label after).store = after :=
  rfl

section

variable (shared : Shared σ τ) (session : Nat) (label : τ) (after : σ)
include session after

@[simp]
theorem commits_commit : (shared.commit session label after).commits =
      shared.commits ++ [⟨session, label, shared.store, after⟩] :=
  rfl

theorem mem_commits_commit :
    ⟨session, label, shared.store, after⟩ ∈ (shared.commit session label after).commits :=
  List.mem_append_right _ (List.mem_singleton_self _)

theorem commit_ne : shared.commit session label after ≠ shared := by
  intro same
  have longer := congrArg (fun shared => shared.commits.length) same
  simp at longer

end

theorem commit_inj {shared : Shared σ τ} {session session' : Nat} {label label' : τ}
    {after after' : σ}
    (same : shared.commit session label after = shared.commit session' label' after') :
    session = session' ∧ label = label' ∧ after = after' := by
  have last := List.append_cancel_left (congrArg Shared.commits same)
  cases last
  exact ⟨rfl, rfl, rfl⟩

theorem subset_commits_commit (shared : Shared σ τ) (session : Nat) (label : τ) (after : σ) :
    shared.commits ⊆ (shared.commit session label after).commits :=
  List.subset_append_left _ _

end Shared

/-- Conditions on the steps of a run: on a request that arrives, on a query and
on a commit, in the shared state they find. -/
structure Conditions (σ κ τ ι : Type) where
  onArrive : ι → Shared σ τ → Bool
  onQuery : ι → κ → Shared σ τ → Bool
  onCommit : ι → τ → Shared σ τ → Bool

def Conditions.none : Conditions σ κ τ ι where
  onArrive _ _ := true
  onQuery _ _ _ := true
  onCommit _ _ _ := true

/-! ## Transactions at once -/

/-- A request that has arrived: how many commits there were, and what is left of
it, unless an exception or a crash has ended it. -/
structure Session (σ κ τ : Type) (β : τ → Type) (ε ι ρ : Type) where
  request : ι
  arrived : Nat
  rest : Option (Request σ κ τ β ε ρ)

structure System (σ κ τ : Type) (β : τ → Type) (ε ι ρ : Type) where
  shared : Shared σ τ
  sessions : List (Session σ κ τ β ε ι ρ)

variable {system : System σ κ τ β ε ι ρ}

namespace System

/-- No request has arrived. -/
def initial (store : σ) : System σ κ τ β ε ι ρ :=
  ⟨Shared.initial store, []⟩

/-- The system after a session has moved on. -/
def moveOn (system : System σ κ τ β ε ι ρ) (id : Nat)
    (rest : Option (Request σ κ τ β ε ρ)) : List (Session σ κ τ β ε ι ρ) :=
  system.sessions.modify id fun session => { session with rest }

variable (effect : (label : τ) → σ → Option (σ × β label)) (program : ι → Request σ κ τ β ε ρ)
  (conditions : Conditions σ κ τ ι)

/-- One step of one session, or a request that arrives. -/
inductive Step : System σ κ τ β ε ι ρ → System σ κ τ β ε ι ρ → Prop
  | arrive (system : System σ κ τ β ε ι ρ) (request : ι) :
      conditions.onArrive request system.shared = true →
      Step system
        { system with
          sessions := system.sessions ++
            [⟨request, system.shared.commits.length, some (program request)⟩] }
  | query (system : System σ κ τ β ε ι ρ) (id : Nat) (request : ι) (arrived : Nat) (name : κ)
      (rest : σ → Request σ κ τ β ε ρ) :
      system.sessions[id]? = some ⟨request, arrived, some (.query name rest)⟩ →
      conditions.onQuery request name system.shared = true →
      Step system
        { system with sessions := system.moveOn id (some (rest system.shared.store)) }
  | commit (system : System σ κ τ β ε ι ρ) (id : Nat) (request : ι) (arrived : Nat) (label : τ)
      (rest : Option (β label) → Request σ κ τ β ε ρ) (after : σ) (result : β label) :
      system.sessions[id]? = some ⟨request, arrived, some (.transact label rest)⟩ →
      conditions.onCommit request label system.shared = true →
      effect label system.shared.store = some (after, result) →
      Step system
        { shared := system.shared.commit id label after
          sessions := system.moveOn id (some (rest (some result))) }
  | abort (system : System σ κ τ β ε ι ρ) (id : Nat) (request : ι) (arrived : Nat) (label : τ)
      (rest : Option (β label) → Request σ κ τ β ε ρ) :
      system.sessions[id]? = some ⟨request, arrived, some (.transact label rest)⟩ →
      Step system { system with sessions := system.moveOn id (some (rest none)) }
  | stop (system : System σ κ τ β ε ι ρ) (id : Nat) :
      Step system { system with sessions := system.moveOn id none }

/-- What finitely many steps lead to. -/
def Reachable : System σ κ τ β ε ι ρ → System σ κ τ β ε ι ρ → Prop :=
  Relation.ReflTransGen (Step effect program conditions)

variable {effect program conditions}

theorem getElem?_moveOn_self {id : Nat} {request : ι} {arrived : Nat}
    {before : Option (Request σ κ τ β ε ρ)}
    (found : system.sessions[id]? = some ⟨request, arrived, before⟩)
    (rest : Option (Request σ κ τ β ε ρ)) :
    (system.moveOn id rest)[id]? = some ⟨request, arrived, rest⟩ := by
  simp [moveOn, found]

end System

/-! ## Requests against interference -/

section Meets

variable (effect : (label : τ) → σ → Option (σ × β label)) (conditions : Conditions σ κ τ ι)
  (invariant : Shared σ τ → Prop) (rely : Shared σ τ → Shared σ τ → Prop)

/-- Whatever other sessions do between its steps, the request keeps the invariant
and the relation with each commit, and ends with the postcondition. -/
def Request.Meets (request : ι) (id : Nat) (post : Except ε α → Shared σ τ → Prop) :
    Request σ κ τ β ε α → Shared σ τ → Prop
  | .answer value, shared =>
    ∀ later, rely shared later → invariant later → post (.ok value) later
  | .throw error, shared =>
    ∀ later, rely shared later → invariant later → post (.error error) later
  | .query name rest, shared =>
    ∀ later, rely shared later → invariant later →
      conditions.onQuery request name later = true →
        (rest later.store).Meets request id post later
  | .transact label rest, shared =>
    ∀ later, rely shared later → invariant later →
      (rest none).Meets request id post later ∧
        (conditions.onCommit request label later = true →
          ∀ (after : σ) (result : β label), effect label later.store = some (after, result) →
            rely later (later.commit id label after) ∧
              invariant (later.commit id label after) ∧
              (rest (some result)).Meets request id post (later.commit id label after))

variable {effect conditions invariant rely} {request : ι} {id : Nat}

variable {rest : Request σ κ τ β ε α}

/-- What others do meanwhile does not matter. -/
theorem Request.Meets.later
    (trans : ∀ first second third, rely first second → rely second third → rely first third)
    {post : Except ε α → Shared σ τ → Prop} {shared further : Shared σ τ}
    (meets : rest.Meets effect conditions invariant rely request id post shared)
    (step : rely shared further) :
    rest.Meets effect conditions invariant rely request id post further := by
  cases rest with
  | answer | throw | query | transact => exact fun later onward => meets later (trans _ _ _ step onward)

/-- What two postconditions and a fact that others and the request itself cannot break
imply together. -/
theorem Request.Meets.combine (fact : Shared σ τ → Prop)
    {first second both : Except ε α → Shared σ τ → Prop}
    (stable : ∀ shared later, rely shared later → fact shared → fact later)
    (implies : ∀ outcome later, first outcome later → second outcome later → fact later →
      both outcome later) {shared : Shared σ τ}
    (meetsFirst : rest.Meets effect conditions invariant rely request id first shared)
    (meetsSecond : rest.Meets effect conditions invariant rely request id second shared)
    (holds : fact shared) : rest.Meets effect conditions invariant rely request id both shared := by
  induction rest generalizing shared with
  | answer | throw =>
    exact fun later step inv => implies _ later (meetsFirst later step inv)
      (meetsSecond later step inv) (stable shared later step holds)
  | query name rest ih =>
    intro later step inv allowed
    exact ih later.store (meetsFirst later step inv allowed) (meetsSecond later step inv allowed)
      (stable shared later step holds)
  | transact label rest ih =>
    intro later step inv
    have factLater := stable shared later step holds
    rcases meetsFirst later step inv with ⟨rolledBack, committed⟩
    rcases meetsSecond later step inv with ⟨rolledBack', committed'⟩
    refine ⟨ih none rolledBack rolledBack' factLater, ?_⟩
    intro allowed after result happens
    rcases committed allowed after result happens with ⟨kept, stillHolds, meetsRest⟩
    exact ⟨kept, stillHolds, ih (some result) meetsRest (committed' allowed after result happens).2.2
      (stable later _ kept factLater)⟩

section Combine

variable {post weaker : Except ε α → Shared σ τ → Prop} {shared : Shared σ τ}
  (meets : rest.Meets effect conditions invariant rely request id post shared)
include meets

theorem Request.Meets.imp (implies : ∀ outcome later, post outcome later → weaker outcome later) :
    rest.Meets effect conditions invariant rely request id weaker shared :=
  combine (fun _ => True) (fun _ _ _ => (·)) (fun outcome later holds _ _ =>
    implies outcome later holds) meets meets trivial

theorem Request.Meets.and
    (meetsToo : rest.Meets effect conditions invariant rely request id weaker shared) :
    rest.Meets effect conditions invariant rely request id
      (fun outcome later => post outcome later ∧ weaker outcome later) shared :=
  combine (fun _ => True) (fun _ _ _ => (·)) (fun _ _ first second _ => ⟨first, second⟩) meets
    meetsToo trivial

end Combine

theorem Request.Meets.frame (fact : Shared σ τ → Prop)
    (stable : ∀ first second, rely first second → fact first → fact second)
    {post : Except ε α → Shared σ τ → Prop} {shared : Shared σ τ}
    (meets : rest.Meets effect conditions invariant rely request id post shared)
    (holds : fact shared) : rest.Meets effect conditions invariant rely request id
      (fun outcome later => post outcome later ∧ fact later) shared :=
  combine fact stable (fun _ _ done _ still => ⟨done, still⟩) meets meets holds

theorem Request.Meets.bind {post : Except ε γ → Shared σ τ → Prop}
    {middle : Except ε α → Shared σ τ → Prop} {first : Request σ κ τ β ε α} {shared : Shared σ τ}
    (refl : ∀ shared, rely shared shared)
    (meets : first.Meets effect conditions invariant rely request id middle shared)
    (holds : invariant shared)
    (onward : ∀ value later, invariant later → middle (.ok value) later → (next value).Meets effect conditions invariant rely request id post later)
    (failed : ∀ error later, middle (.error error) later → post (.error error) later) :
    (first.bind next).Meets effect conditions invariant rely request id post shared := by
  induction first generalizing shared with
  | answer value => exact onward value shared holds (meets shared (refl shared) holds)
  | throw error =>
    intro later step laterHolds
    exact failed error later (meets later step laterHolds)
  | query name rest ih =>
    intro later step laterHolds allowed
    exact ih later.store (meets later step laterHolds allowed) laterHolds
  | transact label rest ih =>
    intro later step laterHolds
    rcases meets later step laterHolds with ⟨rolledBack, committed⟩
    refine ⟨ih none rolledBack laterHolds, ?_⟩
    intro allowed after result happens
    rcases committed allowed after result happens with ⟨kept, inv, meetsRest⟩
    exact ⟨kept, inv, ih (some result) meetsRest inv⟩

theorem Request.Transacts.meets_of_fact {allowed : τ → Prop} (fact : Shared σ τ → Prop)
    (stable : ∀ shared later, rely shared later → fact shared → fact later)
    (keeps : ∀ (shared : Shared σ τ) (label : τ) (after : σ) (result : β label), fact shared → invariant shared → allowed label → conditions.onCommit request label shared = true → effect label shared.store = some (after, result) → rely shared (shared.commit id label after) ∧ invariant (shared.commit id label after))
    (transacts : rest.Transacts allowed) {shared : Shared σ τ} (known : fact shared) :
    rest.Meets effect conditions invariant rely request id (fun _ _ => True) shared := by
  induction transacts generalizing shared with
  | answer | throw => exact fun _ _ _ => trivial
  | query name rest _ ih =>
    intro later step _ _
    exact ih later.store (stable shared later step known)
  | transact label rest isAllowed _ ih =>
    intro later step holds
    have knownLater := stable shared later step known
    refine ⟨ih none knownLater, ?_⟩
    intro permitted after result happens
    rcases keeps later label after result knownLater holds isAllowed permitted happens with
      ⟨kept, inv⟩
    exact ⟨kept, inv, ih (some result) (stable later _ kept knownLater)⟩

theorem Request.Transacts.meets {allowed : τ → Prop}
    (keeps : ∀ (shared : Shared σ τ) (label : τ) (after : σ) (result : β label), invariant shared → allowed label → conditions.onCommit request label shared = true → effect label shared.store = some (after, result) → rely shared (shared.commit id label after) ∧ invariant (shared.commit id label after))
    (transacts : rest.Transacts allowed) (shared : Shared σ τ) :
    rest.Meets effect conditions invariant rely request id (fun _ _ => True) shared :=
  transacts.meets_of_fact (fun _ => True) (fun _ _ _ => (·))
    (fun shared label after result _ => keeps shared label after result) trivial

section Rules

variable {post : Except ε γ → Shared σ τ → Prop} {shared : Shared σ τ}

theorem meets_pure (value : γ) :
    (pure value : Request σ κ τ β ε γ).Meets effect conditions invariant rely request id post
        shared ↔ ∀ later, rely shared later → invariant later → post (.ok value) later :=
  Iff.rfl

theorem meets_throw (error : ε) :
    (Request.throw error : Request σ κ τ β ε γ).Meets effect conditions invariant rely request id
        post shared ↔ ∀ later, rely shared later → invariant later → post (.error error) later :=
  Iff.rfl

theorem meets_read (name : κ) (find : σ → γ) :
    (Request.read name find : Request σ κ τ β ε γ).Meets effect conditions invariant rely request
        id post shared ↔ ∀ later, rely shared later → invariant later →
        conditions.onQuery request name later = true →
          ∀ further, rely later further → invariant further →
            post (.ok (find later.store)) further :=
  Iff.rfl

theorem meets_read_bind (name : κ) (find : σ → α) (next : α → Request σ κ τ β ε γ) :
    (Request.read name find >>= next).Meets effect conditions invariant rely request id post
        shared ↔ ∀ later, rely shared later → invariant later →
        conditions.onQuery request name later = true →
          (next (find later.store)).Meets effect conditions invariant rely request id post later :=
  Iff.rfl

theorem meets_transact {label : τ} {rest : Option (β label) → Request σ κ τ β ε γ} :
    (Request.transact label rest).Meets effect conditions invariant rely request id post shared ↔
      ∀ later, rely shared later → invariant later →
        (rest none).Meets effect conditions invariant rely request id post later ∧
          (conditions.onCommit request label later = true →
            ∀ (after : σ) (result : β label), effect label later.store = some (after, result) →
              rely later (later.commit id label after) ∧ invariant (later.commit id label after) ∧
                (rest (some result)).Meets effect conditions invariant rely request id post
                  (later.commit id label after)) :=
  Iff.rfl

theorem meets_commit (label : τ) (failure : ε) {post : Except ε (β label) → Shared σ τ → Prop} :
    (Request.commit label failure : Request σ κ τ β ε (β label)).Meets effect conditions invariant
        rely request id post shared ↔ ∀ later, rely shared later → invariant later →
        (∀ further, rely later further → invariant further → post (.error failure) further) ∧
          (conditions.onCommit request label later = true →
            ∀ (after : σ) (result : β label), effect label later.store = some (after, result) →
              rely later (later.commit id label after) ∧ invariant (later.commit id label after) ∧
                ∀ further, rely (later.commit id label after) further → invariant further →
                  post (.ok result) further) :=
  Iff.rfl

theorem Request.meets_commit_bind (label : τ) (failure : ε) (next : β label → Request σ κ τ β ε γ) :
    (Request.commit label failure >>= next).Meets effect conditions invariant rely request id post
        shared ↔ ∀ later, rely shared later → invariant later →
        (∀ further, rely later further → invariant further → post (.error failure) further) ∧
          (conditions.onCommit request label later = true →
            ∀ (after : σ) (result : β label), effect label later.store = some (after, result) →
              rely later (later.commit id label after) ∧ invariant (later.commit id label after) ∧
                (next result).Meets effect conditions invariant rely request id post
                  (later.commit id label after)) :=
  Iff.rfl

theorem meets_ofExcept_bind {found : Except ε α}
    (accepted : ∀ value, found = .ok value → (next value).Meets effect conditions invariant rely request id post shared)
    (rejected : ∀ error, found = .error error → ∀ later, rely shared later → invariant later → post (.error error) later) :
    (Request.ofExcept found >>= next).Meets effect conditions invariant rely request id post
      shared := by
  cases found with
  | ok value => exact accepted value rfl
  | error error => exact rejected error rfl

theorem meets_ite {condition : Prop} [Decidable condition] {left right : Request σ κ τ β ε γ}
    (onTrue : condition → left.Meets effect conditions invariant rely request id post shared)
    (onFalse : ¬ condition → right.Meets effect conditions invariant rely request id post shared) :
    (if condition then left else right).Meets effect conditions invariant rely request id post
      shared := by
  split
  · exact onTrue ‹_›
  · exact onFalse ‹_›

end Rules

end Meets

/-! ## What holds in every run -/

section Runs

variable {effect : (label : τ) → σ → Option (σ × β label)} {program : ι → Request σ κ τ β ε ρ}
  {conditions : Conditions σ κ τ ι} {invariant : Shared σ τ → Prop}
  {rely : Shared σ τ → Shared σ τ → Prop}
  {post : ι → Nat → Nat → Except ε ρ → Shared σ τ → Prop}

/-- Every session is at a request that will meet its postcondition. -/
def System.AllMeet (effect : (label : τ) → σ → Option (σ × β label))
    (conditions : Conditions σ κ τ ι) (invariant : Shared σ τ → Prop)
    (rely : Shared σ τ → Shared σ τ → Prop) (post : ι → Nat → Nat → Except ε ρ → Shared σ τ → Prop)
    (system : System σ κ τ β ε ι ρ) : Prop :=
  ∀ (id : Nat) (request : ι) (arrived : Nat) (rest : Request σ κ τ β ε ρ),
    system.sessions[id]? = some ⟨request, arrived, some rest⟩ →
      rest.Meets effect conditions invariant rely request id (post request id arrived)
        system.shared

theorem System.getElem?_moveOn {id other : Nat} {moved : Option (Request σ κ τ β ε ρ)} {request : ι}
    {arrived : Nat} {rest : Option (Request σ κ τ β ε ρ)}
    (found : (system.moveOn id moved)[other]? = some ⟨request, arrived, rest⟩) :
    id ≠ other ∧ system.sessions[other]? = some ⟨request, arrived, rest⟩ ∨
      id = other ∧ rest = moved ∧
        ∃ before, system.sessions[other]? = some ⟨request, arrived, before⟩ := by
  rw [System.moveOn, List.getElem?_modify] at found
  by_cases same : id = other
  · subst same
    rcases stored : system.sessions[id]? with _ | ⟨request', arrived', before⟩
    · simp [stored] at found
    · simp only [stored, if_true, Option.map_eq_map, Option.map_some, Option.some.injEq,
        Session.mk.injEq] at found
      obtain ⟨rfl, rfl, rfl⟩ := found
      exact Or.inr ⟨rfl, rfl, before, rfl⟩
  · refine Or.inl ⟨same, ?_⟩
    simpa [same] using found

/-- One session moves on in the rely relation, the others are where they were. -/
theorem System.AllMeet.moveOn
    (trans : ∀ first second third, rely first second → rely second third → rely first third)
    (meets : system.AllMeet effect conditions invariant rely post) {shared : Shared σ τ}
    (step : rely system.shared shared) {id : Nat} {moved : Option (Request σ κ τ β ε ρ)}
    (onward : ∀ request arrived rest before, moved = some rest → system.sessions[id]? = some ⟨request, arrived, before⟩ → rest.Meets effect conditions invariant rely request id (post request id arrived) shared) :
    System.AllMeet effect conditions invariant rely post
      { shared, sessions := system.moveOn id moved } := by
  intro other request arrived rest found
  rcases System.getElem?_moveOn found with ⟨_, stays⟩ | ⟨rfl, isMoved, before, stored⟩
  · exact (meets other request arrived rest stays).later trans step
  · exact onward request arrived rest before isMoved.symm stored

section

variable {system target : System σ κ τ β ε ι ρ}
    (step : System.Step effect program conditions system target)
include step

theorem System.Step.request_kept {id : Nat} {request : ι} {arrived : Nat}
    {rest : Option (Request σ κ τ β ε ρ)}
    (found : system.sessions[id]? = some ⟨request, arrived, rest⟩) :
    ∃ rest', target.sessions[id]? = some ⟨request, arrived, rest'⟩ := by
  have moved (other : Nat) (onward : Option (Request σ κ τ β ε ρ)) :
      ∃ rest', (system.moveOn other onward)[id]? = some ⟨request, arrived, rest'⟩ := by
    rw [System.moveOn, List.getElem?_modify, found]
    by_cases isOther : other = id <;> simp [isOther]
  cases step with
  | arrive added allowed =>
    exact ⟨rest, Transition.getElem?_append_singleton_eq_some_iff.mpr (Or.inl found)⟩
  | query other | commit other | abort other | stop other => exact moved other _

/-- Only a commit changes what is committed. -/
theorem System.Step.shared_eq : target.shared = system.shared ∨
      ∃ id request arrived label rest after result,
        system.sessions[id]? = some ⟨request, arrived, some (.transact label rest)⟩ ∧
          effect label system.shared.store = some (after, result) ∧
          target.shared = system.shared.commit id label after := by
  cases step with
  | arrive | query | abort | stop => exact Or.inl rfl
  | commit id request arrived label rest after result found allowed happens =>
    exact Or.inr ⟨id, request, arrived, label, rest, after, result, found, happens, rfl⟩

end

/-- If every request that is expected to arrive under an id meets its postcondition
from where it arrives, the invariant holds in every run of such requests, and so
does the postcondition of every ended request. -/
theorem System.Reachable.meets_of_expected (expected : Nat → ι → Prop)
    (refl : ∀ shared, rely shared shared)
    (trans : ∀ first second third, rely first second → rely second third → rely first third)
    {store : σ} (initially : invariant (Shared.initial store))
    (arrives : ∀ request id shared, expected id request → invariant shared → conditions.onArrive request shared = true → (program request).Meets effect conditions invariant rely request id (post request id shared.commits.length) shared)
    (reachable : System.Reachable effect program conditions (System.initial store) system)
    (known : ∀ id request arrived rest, system.sessions[id]? = some ⟨request, arrived, rest⟩ → expected id request) :
    invariant system.shared ∧ system.AllMeet effect conditions invariant rely post := by
  induction reachable with
  | refl =>
    refine ⟨initially, ?_⟩
    intro id request arrived rest found
    simp [System.initial] at found
  | tail _ step ih =>
    have earlier := ih fun id request arrived rest found =>
      have ⟨_, stays⟩ := step.request_kept found
      known id request arrived _ stays
    rcases earlier with ⟨holds, meets⟩
    cases step with
    | arrive request allowed =>
      refine ⟨holds, ?_⟩
      intro id other arrived rest found
      rcases Transition.getElem?_append_singleton_eq_some_iff.mp found with old | ⟨_, new⟩
      · exact meets id other arrived rest old
      · obtain ⟨rfl, rfl, rfl⟩ := new
        exact arrives request id _ (known id request _ _ found) holds allowed
    | query id request arrived name rest found allowed =>
      refine ⟨holds, meets.moveOn trans (refl _) ?_⟩
      rintro other otherArrived moved before ⟨rfl⟩ stored
      rw [found] at stored
      obtain ⟨rfl, rfl, rfl⟩ := stored
      exact meets id request arrived _ found _ (refl _) holds allowed
    | commit id request arrived label rest after result found allowed happens =>
      rcases (meets id request arrived _ found _ (refl _) holds).2 allowed after result happens
        with ⟨kept, stillHolds, meetsRest⟩
      refine ⟨stillHolds, meets.moveOn trans kept ?_⟩
      rintro other otherArrived moved before ⟨rfl⟩ stored
      rw [found] at stored
      obtain ⟨rfl, rfl, rfl⟩ := stored
      exact meetsRest
    | abort id request arrived label rest found =>
      refine ⟨holds, meets.moveOn trans (refl _) ?_⟩
      rintro other otherArrived moved before ⟨rfl⟩ stored
      rw [found] at stored
      obtain ⟨rfl, rfl, rfl⟩ := stored
      exact (meets id request arrived _ found _ (refl _) holds).1
    | stop id =>
      refine ⟨holds, meets.moveOn trans (refl _) ?_⟩
      intro request arrived rest before isMoved
      contradiction

/-- What every transaction preserves, whoever commits it, holds in every run. -/
theorem System.Reachable.shared_invariant {store : σ} (invariant : Shared σ τ → Prop)
    (initially : invariant (Shared.initial store))
    (commits : ∀ shared id label after result, invariant shared → effect label shared.store = some (after, result) → invariant (shared.commit id label after))
    (reachable : System.Reachable effect program conditions (System.initial store) system) :
    invariant system.shared := by
  induction reachable with
  | refl => exact initially
  | tail _ step ih =>
    cases step with
    | arrive | query | abort | stop => exact ih
    | commit id request arrived label rest after result found allowed happens =>
      exact commits _ id label after result ih happens

end Runs

-- requests are taken apart by the rules above only
attribute [irreducible] Request.Meets

end Csms.Database
