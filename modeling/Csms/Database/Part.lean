import Csms.Database.Sequential
import Csms.Database.Tx

/-!
# Parts of a store

The store of a service can be part of a larger one that other services use as well.
Transactions and requests on the part are then transactions and requests on the
whole: they leave the rest of it alone, and are as guarded as they were.
-/

namespace Csms.Database

variable {σ π κ κ' τ τ' ℓ ℓ' ε α : Type} {β : τ → Type} {β' : τ' → Type}

/-- A part of a store, which can be read and replaced. -/
structure Part (σ π : Type) where
  get : σ → π
  put : σ → π → σ
  get_put : ∀ store part, get (put store part) = part
  put_get : ∀ store, put store (get store) = store
  put_put : ∀ store first second, put (put store first) second = put store second

variable (part : Part σ π)

/-- The transaction on the whole store. -/
def Tx.onPart : Tx π ℓ α → Tx σ ℓ α
  | .commit result => .commit result
  | .rollback => .rollback
  | .read rest => .read fun store => (rest (part.get store)).onPart
  | .write rows allowed change rest =>
    .write rows (fun store => allowed (part.get store))
      (fun store => part.put store (change (part.get store)))
      fun store => (rest (part.get store)).onPart

theorem Tx.run_onPart (tx : Tx π ℓ α) (store : σ) : (tx.onPart part).run store =
      (tx.run (part.get store)).map fun outcome => (part.put store outcome.1, outcome.2) := by
  induction tx generalizing store with
  | commit result => simp [onPart, part.put_get]
  | rollback => rfl
  | read rest ih => exact ih (part.get store) store
  | write rows allowed change rest ih =>
    rw [onPart, run_write, run_write]
    split
    · rw [part.get_put, ih, part.get_put]
      simp only [part.put_put]
    · rfl

theorem Tx.run_onPart_eq_some_iff {tx : Tx π ℓ α} {store after : σ} {result : α} :
    (tx.onPart part).run store = some (after, result) ↔
      ∃ left, tx.run (part.get store) = some (left, result) ∧ after = part.put store left := by
  rw [run_onPart, Option.map_eq_some_iff]
  constructor
  · rintro ⟨⟨left, _⟩, run, same⟩
    cases same
    exact ⟨left, run, rfl⟩
  · rintro ⟨left, run, rfl⟩
    exact ⟨(left, result), run, rfl⟩

/-- The locks of the whole store protect what they protect of the part, and other things
that a change of the part leaves alone. -/
structure Part.Shields (protects : ℓ → Setoid π) (shields : ℓ → Setoid σ) : Prop where
  inner : ∀ lock left right, (shields lock).r left right →
    (protects lock).r (part.get left) (part.get right)
  outside : ∀ lock store new, (protects lock).r new (part.get store) →
    (shields lock).r (part.put store new) store
  inside : ∀ lock left right newLeft newRight, (shields lock).r left right →
    (protects lock).r newLeft newRight →
      (shields lock).r (part.put left newLeft) (part.put right newRight)

variable {part}

theorem Tx.Guarded.onPart {protects : ℓ → Setoid π} {shields : ℓ → Setoid σ}
    (covers : part.Shields protects shields) {tx : Tx π ℓ α} {held : List ℓ}
    (guarded : tx.Guarded protects held) : (tx.onPart part).Guarded shields held := by
  have inner {locks : List ℓ} {left right : σ} (agree : Agree shields locks left right) :
      Agree protects locks (part.get left) (part.get right) :=
    fun lock isHeld => covers.inner lock left right (agree lock isHeld)
  induction tx generalizing held with
  | commit result => trivial
  | rollback => trivial
  | read rest ih =>
    constructor
    · intro left right agree
      exact congrArg (Tx.onPart part) (guarded.1 _ _ (inner agree))
    · exact fun view => ih (part.get view) (guarded.2 (part.get view))
  | write rows allowed change rest ih =>
    rcases guarded with ⟨outside, inside, guardedRest⟩
    refine ⟨?_, ?_, fun view => ih (part.get view) (guardedRest (part.get view))⟩
    · intro lock free store
      exact covers.outside lock store _ (outside lock free (part.get store))
    · intro left right agree
      rcases inside _ _ (inner agree) with ⟨sameAllowed, changed, sameRest⟩
      refine ⟨sameAllowed, ?_, congrArg (Tx.onPart part) sameRest⟩
      intro lock isHeld
      exact covers.inside lock left right _ _ (agree lock isHeld) (changed lock isHeld)

/-! ## Several parts

Each part can bring its own locks, which then need names in the whole store. -/

/-- The transaction with its locks under other names. -/
def Tx.relock (lockOf : ℓ → ℓ') : Tx σ ℓ α → Tx σ ℓ' α
  | .commit result => .commit result
  | .rollback => .rollback
  | .read rest => .read fun store => (rest store).relock lockOf
  | .write rows allowed change rest =>
    .write (rows.map lockOf) allowed change fun store => (rest store).relock lockOf

@[simp]
theorem Tx.run_relock (lockOf : ℓ → ℓ') (tx : Tx σ ℓ α) (store : σ) :
    (tx.relock lockOf).run store = tx.run store := by
  induction tx generalizing store with
  | commit result => rfl
  | rollback => rfl
  | read rest ih => exact ih store store
  | write rows allowed change rest ih =>
    rw [relock, run_write, run_write, ih]

variable (part)

/-- The locks of the whole store are those of the part, under their names, and others that
the part has nothing to do with. -/
structure Part.Shares (lockOf : ℓ → ℓ') (protects : ℓ → Setoid π) (shields : ℓ' → Setoid σ) :
    Prop where
  own : ∀ lock, shields (lockOf lock) = (protects lock).comap part.get
  others : ∀ lock, (∀ inner, lockOf inner ≠ lock) →
    ∀ store new, (shields lock).r (part.put store new) store

variable {part}

theorem Tx.Guarded.onPart_relock {lockOf : ℓ → ℓ'} {protects : ℓ → Setoid π}
    {shields : ℓ' → Setoid σ} (shares : part.Shares lockOf protects shields) {tx : Tx π ℓ α}
    {held : List ℓ} (guarded : tx.Guarded protects held) :
    ((tx.onPart part).relock lockOf).Guarded shields (held.map lockOf) := by
  have own {lock : ℓ} {left right : σ} :
      (shields (lockOf lock)).r left right ↔ (protects lock).r (part.get left) (part.get right) := by
    rw [shares.own]
    rfl
  have inner {locks : List ℓ} {left right : σ} (agree : Agree shields (locks.map lockOf) left right) :
      Agree protects locks (part.get left) (part.get right) :=
    fun lock isHeld => own.mp (agree _ (List.mem_map_of_mem isHeld))
  induction tx generalizing held with
  | commit result => trivial
  | rollback => trivial
  | read rest ih =>
    constructor
    · intro left right agree
      exact congrArg (fun rest => Tx.relock lockOf (Tx.onPart part rest))
        (guarded.1 _ _ (inner agree))
    · exact fun view => ih (part.get view) (guarded.2 (part.get view))
  | write rows allowed change rest ih =>
    rcases guarded with ⟨outside, inside, guardedRest⟩
    rw [Tx.onPart, relock, Tx.Guarded, ← List.map_append]
    refine ⟨?_, ?_, fun view => ih (part.get view) (guardedRest (part.get view))⟩
    · intro lock free store
      by_cases isOwn : ∃ wanted, lockOf wanted = lock
      · obtain ⟨wanted, rfl⟩ := isOwn
        rw [own, part.get_put]
        exact outside wanted (fun isHeld => free (List.mem_map_of_mem isHeld)) (part.get store)
      · exact shares.others lock (fun wanted same => isOwn ⟨wanted, same⟩) store _
    · intro left right agree
      rcases inside _ _ (inner agree) with ⟨sameAllowed, changed, sameRest⟩
      refine ⟨sameAllowed, ?_, congrArg (fun rest => relock lockOf (Tx.onPart part rest)) sameRest⟩
      intro lock isHeld
      obtain ⟨wanted, isWanted, rfl⟩ := List.mem_map.mp isHeld
      rw [own, part.get_put, part.get_put]
      exact changed wanted isWanted

/-- The request on the whole store: names and labels go forward, results come back. -/
def Request.onPart (get : σ → π) (name : κ → κ') (label : τ → τ')
    (result : ∀ write, β' (label write) → β write) : Request π κ τ β ε α → Request σ κ' τ' β' ε α
  | .answer value => .answer value
  | .throw error => .throw error
  | .query wanted rest =>
    .query (name wanted) fun store => (rest (get store)).onPart get name label result
  | .transact write rest =>
    .transact (label write) fun outcome =>
      (rest (outcome.map (result write))).onPart get name label result

theorem Request.Transacts.onPart {allowed : τ' → Prop} {get : σ → π} {name : κ → κ'}
    {label : τ → τ'} {result : ∀ write, β' (label write) → β write} {request : Request π κ τ β ε α}
    (transacts : request.Transacts fun write => allowed (label write)) :
    (request.onPart get name label result).Transacts allowed := by
  induction transacts with
  | answer value => exact .answer value
  | throw error => exact .throw error
  | query wanted rest _ ih => exact .query _ _ fun store => ih (get store)
  | transact write rest isAllowed _ ih => exact .transact _ _ isAllowed fun outcome => ih _

section OnPart

variable {γ : Type} (get : σ → π) (name : κ → κ') (label : τ → τ')
  (result : ∀ write, β' (label write) → β write)

theorem onPart_bind (first : Request π κ τ β ε α) (next : α → Request π κ τ β ε γ) :
    (first >>= next).onPart get name label result =
      first.onPart get name label result >>= fun value =>
        (next value).onPart get name label result := by
  induction first with
  | answer value => rfl
  | throw error => rfl
  | query wanted rest ih => exact congrArg (Request.query _) (funext fun store => ih (get store))
  | transact write rest ih => exact congrArg (Request.transact _) (funext fun outcome => ih _)

theorem onPart_read (wanted : κ) (find : π → α) :
    (Request.read wanted find : Request π κ τ β ε α).onPart get name label result =
      Request.read (name wanted) fun store => find (get store) :=
  rfl

theorem onPart_ofExcept (found : Except ε α) :
    (Request.ofExcept found : Request π κ τ β ε α).onPart get name label result =
      Request.ofExcept found := by
  cases found <;> rfl

theorem onPart_commit (write : τ) (failure : ε) :
    (Request.commit write failure : Request π κ τ β ε (β write)).onPart get name label result =
      Request.commit (label write) failure >>= fun value => pure (result write value) := by
  apply congrArg (Request.transact _)
  funext outcome
  cases outcome <;> rfl

end OnPart

theorem commitsMeet_onPart {effect : (write : τ) → π → Option (π × β write)}
    {onWhole : (write : τ') → σ → Option (σ × β' write)} {condition : τ → π → Prop}
    {allowed : τ' → σ → Prop} {get : σ → π} {name : κ → κ'} {label : τ → τ'}
    {result : ∀ write, β' (label write) → β write}
    (does : ∀ write store, (onWhole (label write) store).map
      (fun outcome => (get outcome.1, result write outcome.2)) = effect write (get store))
    (same : ∀ write store, allowed (label write) store ↔ condition write (get store))
    (request : Request π κ τ β ε α) (limit : Option Nat) (store : σ) :
    (request.onPart get name label result).CommitsMeet onWhole allowed limit store ↔
      request.CommitsMeet effect condition limit (get store) := by
  induction request generalizing limit store with
  | answer value => exact Iff.rfl
  | throw error => exact Iff.rfl
  | query wanted rest ih => exact ih (get store) limit store
  | transact write rest ih =>
    rw [Request.onPart, Request.CommitsMeet, Request.CommitsMeet]
    rcases nextLimit limit with _ | remaining
    · exact Iff.rfl
    · have here := does write store
      rcases happens : onWhole (label write) store with _ | ⟨after, outcome⟩
      · rw [happens, Option.map_none] at here
        rw [← here]
        exact ih none limit store
      · rw [happens, Option.map_some] at here
        rw [← here]
        exact and_congr (same write store) (ih (some (result write outcome)) remaining after)

/-- Go on with the exception as a value. -/
def Request.attempt : Request σ κ τ β ε α → Request σ κ τ β ε (Except ε α)
  | .answer value => .answer (.ok value)
  | .throw error => .answer (.error error)
  | .query name rest => .query name fun store => (rest store).attempt
  | .transact label rest => .transact label fun outcome => (rest outcome).attempt

end Csms.Database
