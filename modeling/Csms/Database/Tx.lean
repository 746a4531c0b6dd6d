import Mathlib.Data.Setoid.Basic
import Mathlib.Order.CompletePartialOrder

/-!
# Database transactions

A transaction is a sequence of statements that ends in a commit or a rollback.
A reading statement sees the committed store with the transaction's own writes,
and so does the statement after a write; a write names the rows it locks until
the end of the transaction.  A transaction is *guarded* when everything it reads
is protected by locks it holds, and it changes nothing else.
-/

namespace Csms.Database

variable {σ ℓ α : Type}

/-- The statements a transaction has still to execute. -/
inductive Tx (σ ℓ α : Type) where
  | commit (result : α)
  | rollback
  /-- A reading statement. -/
  | read (rest : σ → Tx σ ℓ α)
  /-- A writing statement: the rows it locks, whether the constraints of the
  database allow it, the change, and what follows in view of the changed store. -/
  | write (rows : List ℓ) (allowed : σ → Bool) (change : σ → σ) (rest : σ → Tx σ ℓ α)

namespace Tx

/-- Execute the transaction without anything happening in between: the store it
commits and its result. -/
def run : Tx σ ℓ α → σ → Option (σ × α)
  | commit result, store => some (store, result)
  | rollback, _ => none
  | read rest, store => (rest store).run store
  | write _ allowed change rest, store =>
    if allowed store then (rest (change store)).run (change store) else none

@[simp]
theorem run_commit (result : α) (store : σ) :
    (commit result : Tx σ ℓ α).run store = some (store, result) :=
  rfl

@[simp]
theorem run_read (rest : σ → Tx σ ℓ α) (store : σ) :
    (read rest).run store = (rest store).run store :=
  rfl

theorem run_write (rows : List ℓ) (allowed : σ → Bool) (change : σ → σ)
    (rest : σ → Tx σ ℓ α) (store : σ) : (write rows allowed change rest).run store =
      if allowed store then (rest (change store)).run (change store) else none :=
  rfl

theorem run_write_eq_some_iff {rows : List ℓ} {allowed : σ → Bool} {change : σ → σ}
    {rest : σ → Tx σ ℓ α} {store : σ} {outcome : σ × α} :
    (write rows allowed change rest).run store = some outcome ↔
      allowed store = true ∧ (rest (change store)).run (change store) = some outcome := by
  rw [run_write]
  by_cases isAllowed : allowed store = true <;> simp [isAllowed]

end Tx

section Locks

variable (protects : ℓ → Setoid σ)

/-- Two stores look the same to the holder of the locks. -/
def Agree (held : List ℓ) (left right : σ) : Prop :=
  ∀ lock ∈ held, (protects lock).r left right

variable {protects}

theorem Agree.refl (held : List ℓ) (store : σ) : Agree protects held store store :=
  fun lock _ => (protects lock).refl store

theorem Agree.trans {held : List ℓ} {first second third : σ}
    (left : Agree protects held first second) (right : Agree protects held second third) :
    Agree protects held first third :=
  fun lock isHeld => (protects lock).trans (left lock isHeld) (right lock isHeld)

theorem Agree.mono {fewer more : List ℓ} (included : fewer ⊆ more) {left right : σ}
    (agree : Agree protects more left right) : Agree protects fewer left right :=
  fun lock isHeld => agree lock (included isHeld)

variable (protects)

/-- With the locks `held`, the transaction reads only what its locks protect and
changes nothing that other locks protect. -/
def Tx.Guarded : Tx σ ℓ α → List ℓ → Prop
  | .commit _, _ => True
  | .rollback, _ => True
  | .read rest, held =>
    (∀ left right, Agree protects held left right → rest left = rest right) ∧
      ∀ view, (rest view).Guarded held
  | .write rows allowed change rest, held =>
    (∀ lock, lock ∉ rows ++ held → ∀ store, (protects lock).r (change store) store) ∧
      (∀ left right, Agree protects (rows ++ held) left right →
        allowed left = allowed right ∧
          Agree protects (rows ++ held) (change left) (change right) ∧
          rest left = rest right) ∧
      ∀ view, (rest view).Guarded (rows ++ held)

/-- A transaction that is to execute `rest`, has written `own` and holds `held`
is in the middle of `whole` on every store that agrees with the committed one on
its locks. -/
structure Follows (whole rest : Tx σ ℓ α) (own : σ → σ) (held : List ℓ) (store : σ) : Prop where
  run_eq : ∀ other, Agree protects held other store → whole.run other = rest.run (own other)
  own_outside : ∀ lock, lock ∉ held → ∀ other, (protects lock).r (own other) other
  own_agree : ∀ left right, Agree protects held left right →
    Agree protects held (own left) (own right)
  guarded : rest.Guarded protects held

variable {protects}

theorem follows_begin {whole : Tx σ ℓ α} (guarded : whole.Guarded protects []) (store : σ) :
    Follows protects whole whole id [] store where
  run_eq := fun _ _ => rfl
  own_outside := fun lock _ other => (protects lock).refl other
  own_agree := fun _ _ agree => agree
  guarded := guarded

section Steps

variable {whole : Tx σ ℓ α} {own : σ → σ} {held : List ℓ} {store : σ}

theorem Follows.read {rest : σ → Tx σ ℓ α}
    (follows : Follows protects whole (.read rest) own held store) :
    Follows protects whole (rest (own store)) own held store where
  run_eq := by
    intro other agree
    rw [follows.run_eq other agree, Tx.run_read,
      follows.guarded.1 _ _ (follows.own_agree other store agree)]
  own_outside := follows.own_outside
  own_agree := follows.own_agree
  guarded := follows.guarded.2 (own store)

theorem Follows.write {rows : List ℓ} {allowed : σ → Bool} {change : σ → σ} {rest : σ → Tx σ ℓ α}
    (follows : Follows protects whole (.write rows allowed change rest) own held store)
    (isAllowed : allowed (own store) = true) :
    Follows protects whole (rest (change (own store))) (change ∘ own) (rows ++ held) store := by
  rcases follows.guarded with ⟨outside, inside, guardedRest⟩
  -- the earlier writes of the transaction did not touch the newly locked rows
  have ownAgree : ∀ left right, Agree protects (rows ++ held) left right →
      Agree protects (rows ++ held) (own left) (own right) := by
    intro left right agree lock isHeld
    by_cases before : lock ∈ held
    · exact follows.own_agree left right (agree.mono (List.subset_append_right rows held)) lock
        before
    · exact (protects lock).trans (follows.own_outside lock before left)
        ((protects lock).trans (agree lock isHeld)
          ((protects lock).symm (follows.own_outside lock before right)))
  refine ⟨?_, ?_, ?_, guardedRest _⟩
  · intro other agree
    have views := ownAgree other store agree
    rcases inside _ _ views with ⟨allowedEq, changedAgree, _⟩
    rw [follows.run_eq other (agree.mono (List.subset_append_right rows held)), Tx.run_write,
      if_pos (allowedEq.trans isAllowed), (inside _ _ changedAgree).2.2]
    rfl
  · intro lock notHeld other
    have notBefore : lock ∉ held := fun isHeld => notHeld (List.mem_append_right rows isHeld)
    exact (protects lock).trans (outside lock notHeld (own other))
      (follows.own_outside lock notBefore other)
  · intro left right agree
    exact (inside _ _ (ownAgree left right agree)).2.1

theorem Follows.interfere {rest : Tx σ ℓ α} (follows : Follows protects whole rest own held store)
    {later : σ} (unchanged : Agree protects held later store) :
    Follows protects whole rest own held later where
  run_eq := fun other agree => follows.run_eq other (agree.trans unchanged)
  own_outside := follows.own_outside
  own_agree := follows.own_agree
  guarded := follows.guarded

theorem Follows.commit {result : α}
    (follows : Follows protects whole (.commit result) own held store) :
    whole.run store = some (own store, result) :=
  follows.run_eq store (Agree.refl held store)

end Steps

end Locks

end Csms.Database
