import Csms.Database.ReadCommitted

/-!
# Transactions that nothing disturbs

A unique value that a transaction is about to write can be taken while the transaction runs; it
can then only be rolled back.  This does not happen in a run in which a transaction begins in a
store that is safe for it, and no commit disturbs a transaction that is under way.
-/

namespace Csms.Database

variable {σ κ τ ε ι ρ ℓ : Type} {β : τ → Type}

/-- The transaction that a session is in. -/
def Progress.label? : Progress σ ℓ κ τ β ε ρ → Option τ
  | outside _ => none
  | inside label _ _ _ _ => some label
  | stopped => none

namespace ReadCommitted

/-- A transaction begins in a store that is safe for it only, and a commit is compatible with the
transactions that are under way. -/
def permits (safe : τ → σ → Bool) (compatible : τ → τ → Bool)
    (state : ReadCommitted σ ℓ κ τ β ε ι ρ) : DatabaseEvent ι → Bool
  | .begin id =>
    match state.sessions[id]? with
    | some ⟨_, _, .outside (.transact label _)⟩ => safe label state.shared.store
    | _ => true
  | .commit id =>
    match state.sessions[id]? with
    | some ⟨_, _, .inside label _ _ _ _⟩ =>
      state.sessions.all fun other => other.progress.label?.all (compatible label)
    | _ => true
  | _ => true

variable [DecidableEq ℓ] (body : (label : τ) → Tx σ ℓ (β label))
  (program : ι → Request σ κ τ β ε ρ) (conditions : Conditions σ κ τ ι)
  (safe : τ → σ → Bool) (compatible : τ → τ → Bool)

/-- The state after an event; `none` when it cannot happen or disturbs a transaction. -/
def nextUndisturbed (state : ReadCommitted σ ℓ κ τ β ε ι ρ) (event : DatabaseEvent ι) :
    Option (ReadCommitted σ ℓ κ τ β ε ι ρ) :=
  if state.permits safe compatible event then next body program conditions state event else none

/-- What finitely many events lead to that disturb no transaction. -/
def ReachableUndisturbed : ReadCommitted σ ℓ κ τ β ε ι ρ → ReadCommitted σ ℓ κ τ β ε ι ρ → Prop :=
  Transition.Reachable (nextUndisturbed body program conditions safe compatible)

variable {body program conditions safe compatible}

theorem nextUndisturbed_eq_some_iff {state target : ReadCommitted σ ℓ κ τ β ε ι ρ}
    {event : DatabaseEvent ι} :
    nextUndisturbed body program conditions safe compatible state event = some target ↔
      state.permits safe compatible event = true ∧
        next body program conditions state event = some target := by
  rw [nextUndisturbed]
  split <;> simp_all

theorem ReachableUndisturbed.reachable {source target : ReadCommitted σ ℓ κ τ β ε ι ρ}
    (undisturbed : ReachableUndisturbed body program conditions safe compatible source target) :
    Reachable body program conditions source target := by
  refine Relation.ReflTransGen.mono ?_ _ _ undisturbed
  rintro before after ⟨event, step⟩
  exact ⟨event, (nextUndisturbed_eq_some_iff.mp step).2⟩

variable {connection : Connection σ ℓ κ τ β ε ι ρ}

section Inside

variable {state target : ReadCommitted σ ℓ κ τ β ε ι ρ} {id : Nat} {label : τ}

omit [DecidableEq ℓ] in
/-- Of the sessions after a step of one session, the others are where they were. -/
theorem label?_of_moveOn {other : Nat} {progress : Progress σ ℓ κ τ β ε ρ}
    (found : (state.moveOn id progress)[other]? = some connection)
    (isInside : connection.progress.label? = some label) :
    (∃ before, state.sessions[other]? = some before ∧ before.progress.label? = some label) ∨
      other = id ∧ progress.label? = some label := by
  rcases getElem?_moveOn found with ⟨_, stays⟩ | ⟨isId, isProgress⟩
  · exact Or.inl ⟨connection, stays, isInside⟩
  · exact Or.inr ⟨isId, isProgress ▸ isInside⟩

/-- A session that is in a transaction was in it before, or has begun it. -/
theorem label?_of_next {event : DatabaseEvent ι}
    (step : next body program conditions state event = some target)
    (found : target.sessions[id]? = some connection)
    (isInside : connection.progress.label? = some label) :
    (∃ before, state.sessions[id]? = some before ∧ before.progress.label? = some label) ∨
      event = .begin id ∧ ∃ request arrived rest,
        state.sessions[id]? = some ⟨request, arrived, .outside (.transact label rest)⟩ := by
  rcases moves_of_next step with ⟨request, rfl, _, rfl⟩ | ⟨moved, progress, shared, rfl, moves⟩
  · rcases Transition.getElem?_append_singleton_eq_some_iff.mp found with old | ⟨_, rfl⟩
    · exact Or.inl ⟨connection, old, isInside⟩
    · contradiction
  · rcases label?_of_moveOn found isInside with stays | ⟨rfl, isLabel⟩
    · exact Or.inl stays
    · cases moves with
      | begin stored =>
        cases isLabel
        exact Or.inr ⟨rfl, _, _, _, stored⟩
      | read stored | write stored => exact Or.inl ⟨_, stored, isLabel⟩
      | _ => contradiction

end Inside

theorem ReachableUndisturbed.isSafe {protects : ℓ → Setoid σ}
    (guarded : ∀ label, (body label).Guarded protects [])
    (keeps : ∀ label other store after result, (body label).run store = some (after, result) → compatible label other = true → safe other store = true → safe other after = true)
    {store : σ} {state : ReadCommitted σ ℓ κ τ β ε ι ρ}
    (undisturbed : ReachableUndisturbed body program conditions safe compatible (initial store) state)
    {id : Nat} (found : state.sessions[id]? = some connection) {label : τ}
    (isInside : connection.progress.label? = some label) :
    safe label state.shared.store = true := by
  induction undisturbed generalizing id connection label with
  | refl => simp [initial] at found
  | @tail middle target earlier step ih =>
    obtain ⟨event, taken⟩ := step
    obtain ⟨permitted, isNext⟩ := nextUndisturbed_eq_some_iff.mp taken
    rcases shared_of_next isNext with
      sameShared |
        ⟨moved, request, arrived, committed, rest, result, own, held, rfl, stored, shared⟩
    · rw [sameShared]
      rcases label?_of_next isNext found isInside with
        ⟨before, wasThere, wasInside⟩ | ⟨rfl, request, arrived, rest, stored⟩
      · exact ih wasThere wasInside
      · rw [permits, stored] at permitted
        exact permitted
    · -- the commit is the whole of its transaction, and compatible with the others
      rcases label?_of_next isNext found isInside with ⟨before, wasThere, wasInside⟩ | ⟨begun, _⟩
      · have reached : Reachable body program conditions (initial store) target :=
          ReachableUndisturbed.reachable (Relation.ReflTransGen.tail earlier ⟨_, taken⟩)
        obtain ⟨result, run⟩ := Reachable.commit_run guarded reached
          ⟨moved, committed, middle.shared.store, own middle.shared.store⟩
          (shared ▸ Shared.mem_commits_commit _ _ _ _)
        rw [permits, stored, List.all_eq_true] at permitted
        have isCompatible := permitted before (List.mem_of_getElem? wasThere)
        rw [wasInside, Option.all_some] at isCompatible
        rw [shared]
        exact keeps committed label _ _ result run isCompatible (ih wasThere wasInside)
      · contradiction

end ReadCommitted

end Csms.Database
