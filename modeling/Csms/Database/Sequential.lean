import Csms.Database.Request

/-!
# Requests one after another

A request that runs alone may break off after some of its commits.  Runs of such requests
keep what each of their commits keeps, or what each whole request keeps.
-/

namespace Csms.Transition

universe u v

theorem forall_mem_states_of_stepsMeet {σ : Type u} {ε : Type v} {next : σ → ε → σ}
    {invariant : σ → Prop} {condition : σ → ε → Prop}
    (keeps : ∀ state event, condition state event → invariant state → invariant (next state event))
    {state : σ} (initial : invariant state) {events : List ε}
    (met : StepsMeet next condition state events) :
    ∀ reached ∈ states next state events, invariant reached := by
  induction events generalizing state with
  | nil => simpa using initial
  | cons event events ih =>
    intro reached member
    rcases List.mem_cons.mp member with rfl | later
    · exact initial
    · exact ih (keeps state event met.1 initial) met.2 reached later

end Csms.Transition

namespace Csms.Database

variable {σ κ τ ε ι α γ ρ : Type} {β : τ → Type}

/-- One more commit of as many as there may be. -/
def nextLimit : Option Nat → Option (Option Nat)
  | none => some none
  | some 0 => none
  | some (limit + 1) => some (some limit)

section Leaves

variable (effect : (label : τ) → σ → Option (σ × β label))

/-- The store that a request leaves that runs alone: to its end, or until it breaks off
after `limit` commits. -/
def Request.leaves : Request σ κ τ β ε α → Option Nat → σ → σ
  | .answer _, _, store => store
  | .throw _, _, store => store
  | .query _ rest, limit, store => (rest store).leaves limit store
  | .transact label rest, limit, store =>
    match nextLimit limit with
    | none => store
    | some remaining =>
      match effect label store with
      | some (after, result) => (rest (some result)).leaves remaining after
      | none => (rest none).leaves limit store

def Request.CommitsMeet (condition : τ → σ → Prop) : Request σ κ τ β ε α → Option Nat → σ → Prop
  | .answer _, _, _ => True
  | .throw _, _, _ => True
  | .query _ rest, limit, store => (rest store).CommitsMeet condition limit store
  | .transact label rest, limit, store =>
    match nextLimit limit with
    | none => True
    | some remaining =>
      match effect label store with
      | some (after, result) =>
        condition label store ∧ (rest (some result)).CommitsMeet condition remaining after
      | none => (rest none).CommitsMeet condition limit store

instance Request.decidableCommitsMeet {condition : τ → σ → Prop}
    [∀ label store, Decidable (condition label store)] :
    ∀ (request : Request σ κ τ β ε α) (limit : Option Nat) (store : σ),
      Decidable (request.CommitsMeet effect condition limit store)
  | .answer _, _, _ => isTrue trivial
  | .throw _, _, _ => isTrue trivial
  | .query _ rest, limit, store => decidableCommitsMeet (rest store) limit store
  | .transact label rest, limit, store =>
    match isNext : nextLimit limit with
    | none => isTrue (by rw [CommitsMeet, isNext]; trivial)
    | some remaining =>
      match happens : effect label store with
      | some (after, result) =>
        have : Decidable ((rest (some result)).CommitsMeet effect condition remaining after) :=
          decidableCommitsMeet (rest (some result)) remaining after
        decidable_of_iff (condition label store ∧
          (rest (some result)).CommitsMeet effect condition remaining after)
          (by rw [CommitsMeet, isNext, happens])
      | none =>
        have : Decidable ((rest none).CommitsMeet effect condition limit store) :=
          decidableCommitsMeet (rest none) limit store
        decidable_of_iff ((rest none).CommitsMeet effect condition limit store)
          (by rw [CommitsMeet, isNext, happens])

variable {effect}

variable {limit : Option Nat}

/-- What every allowed commit keeps that meets the condition, a request keeps however far
it comes. -/
theorem Request.Transacts.leaves {allowed : τ → Prop} {condition : τ → σ → Prop}
    {invariant : σ → Prop}
    (keeps : ∀ label store after result, allowed label → condition label store → invariant store → effect label store = some (after, result) → invariant after)
    {request : Request σ κ τ β ε α} (transacts : request.Transacts allowed) {store : σ}
    (met : request.CommitsMeet effect condition limit store) (holds : invariant store) :
    invariant (request.leaves effect limit store) := by
  induction transacts generalizing limit store with
  | answer value => exact holds
  | throw error => exact holds
  | query name rest _ ih => exact ih store met holds
  | transact label rest isAllowed _ ih =>
    rw [CommitsMeet] at met
    rw [Request.leaves]
    rcases isNext : nextLimit limit with _ | remaining
    · exact holds
    · rw [isNext] at met
      rcases happens : effect label store with _ | ⟨after, result⟩
      · rw [happens] at met
        exact ih none met holds
      · rw [happens] at met
        exact ih (some result) met.2
          (keeps label store after result isAllowed met.1 holds happens)

theorem Request.Transacts.commitsMeet {allowed : τ → Prop} {condition : τ → σ → Prop}
    (meets : ∀ label store, allowed label → condition label store)
    {request : Request σ κ τ β ε α} (transacts : request.Transacts allowed)
    (limit : Option Nat) (store : σ) : request.CommitsMeet effect condition limit store := by
  induction transacts generalizing limit store with
  | answer value => trivial
  | throw error => trivial
  | query name rest _ ih => exact ih store limit store
  | transact label rest isAllowed _ ih =>
    rw [CommitsMeet]
    rcases nextLimit limit with _ | remaining
    · trivial
    · rcases effect label store with _ | ⟨after, result⟩
      · exact ih none limit store
      · exact ⟨meets label store isAllowed, ih (some result) remaining after⟩

theorem Request.CommitsMeet.bind {condition : τ → σ → Prop} {first : Request σ κ τ β ε α}
    {next : α → Request σ κ τ β ε γ} {store : σ}
    (met : first.CommitsMeet effect condition limit store)
    (onward : ∀ value limit store, (next value).CommitsMeet effect condition limit store) :
    (first >>= next).CommitsMeet effect condition limit store := by
  change (first.bind next).CommitsMeet effect condition limit store
  induction first generalizing limit store with
  | answer value => exact onward value limit store
  | throw error => trivial
  | query name rest ih => exact ih store met
  | transact label rest ih =>
    rw [CommitsMeet] at met
    rw [Request.bind, CommitsMeet]
    rcases isNext : nextLimit limit with _ | remaining
    · trivial
    · rw [isNext] at met
      rcases happens : effect label store with _ | ⟨after, result⟩
      · rw [happens] at met
        exact ih none met
      · rw [happens] at met
        exact ⟨met.1, ih (some result) met.2⟩

@[simp]
theorem leaves_pure (value : α) (limit : Option Nat) (store : σ) :
    (pure value : Request σ κ τ β ε α).leaves effect limit store = store :=
  rfl

@[simp]
theorem leaves_read_bind (name : κ) (find : σ → α) (next : α → Request σ κ τ β ε γ)
    (limit : Option Nat) (store : σ) : (Request.read name find >>= next).leaves effect limit store =
      (next (find store)).leaves effect limit store :=
  rfl

@[simp]
theorem leaves_ofExcept_bind (found : Except ε α) (next : α → Request σ κ τ β ε γ)
    (limit : Option Nat) (store : σ) : (Request.ofExcept found >>= next).leaves effect limit store =
      match found with
      | .ok value => (next value).leaves effect limit store
      | .error _ => store := by
  cases found <;> rfl

theorem Request.leaves_commit_bind {label : τ} {failure : ε} {next : β label → Request σ κ τ β ε γ}
    {limit remaining : Option Nat} (isNext : nextLimit limit = some remaining) {store after : σ}
    {result : β label} (succeeds : effect label store = some (after, result)) :
    (Request.commit label failure >>= next).leaves effect limit store =
      (next result).leaves effect remaining after := by
  change (Request.transact label _).leaves effect limit store = _
  rw [leaves, isNext, succeeds]
  rfl

theorem leaves_commit_bind_of_none {label : τ} {failure : ε}
    {next : β label → Request σ κ τ β ε γ} (isLast : nextLimit limit = none) (store : σ) :
    (Request.commit label failure >>= next).leaves effect limit store = store := by
  change (Request.transact label _).leaves effect limit store = _
  rw [Request.leaves, isLast]

@[simp]
theorem commitsMeet_read_bind {condition : τ → σ → Prop} (name : κ) (find : σ → α)
    (next : α → Request σ κ τ β ε γ) (limit : Option Nat) (store : σ) :
    (Request.read name find >>= next).CommitsMeet effect condition limit store ↔
      (next (find store)).CommitsMeet effect condition limit store :=
  Iff.rfl

@[simp]
theorem commitsMeet_ofExcept_bind {condition : τ → σ → Prop} (found : Except ε α)
    (next : α → Request σ κ τ β ε γ) (limit : Option Nat) (store : σ) :
    (Request.ofExcept found >>= next).CommitsMeet effect condition limit store ↔
      ∀ value, found = .ok value → (next value).CommitsMeet effect condition limit store := by
  cases found with
  | error exception => exact iff_of_true trivial nofun
  | ok value =>
    constructor
    · rintro met _ ⟨⟩
      exact met
    · exact fun met => met value rfl

theorem commitsMeet_commit {condition : τ → σ → Prop} {label : τ} (failure : ε)
    (limit : Option Nat) {store : σ} (met : condition label store) :
    (Request.commit label failure : Request σ κ τ β ε (β label)).CommitsMeet effect condition limit
      store := by
  change (Request.transact label _).CommitsMeet effect condition limit store
  rw [Request.CommitsMeet]
  split
  · trivial
  · split
    · exact ⟨met, trivial⟩
    · trivial

theorem Request.commitsMeet_commit_bind {condition : τ → σ → Prop} {label : τ} {failure : ε}
    {next : β label → Request σ κ τ β ε γ} {limit remaining : Option Nat}
    (isNext : nextLimit limit = some remaining) {store after : σ} {result : β label}
    (succeeds : effect label store = some (after, result)) :
    (Request.commit label failure >>= next).CommitsMeet effect condition limit store ↔
      condition label store ∧ (next result).CommitsMeet effect condition remaining after := by
  change (Request.transact label _).CommitsMeet effect condition limit store ↔ _
  rw [CommitsMeet, isNext, succeeds]
  rfl

end Leaves

end Csms.Database
