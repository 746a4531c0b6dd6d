import Csms.Database.Executed
import Mathlib.Data.List.Perm.Subperm

/-!
# What an answer stands for

A request attains a goal when, however others interleave, its answer is one for which the goal
holds, and goes on to hold.  The goal can be attained by the end of a request, or by a part of
it whose value the rest hands on.
-/

namespace Csms.Database

variable {σ κ τ ε ι α γ ρ ℓ : Type} {β : τ → Type}

/-- What every commit that is permitted stays in, and any sequence of them. -/
structure Guarantee (effect : (label : τ) → σ → Option (σ × β label))
    (conditions : Conditions σ κ τ ι) (rely : Shared σ τ → Shared σ τ → Prop) : Prop where
  refl : ∀ shared, rely shared shared
  trans : ∀ first second third, rely first second → rely second third → rely first third
  commit : ∀ (request : ι) (id : Nat) (shared : Shared σ τ) (label : τ) (after : σ)
    (result : β label), conditions.onCommit request label shared = true →
      effect label shared.store = some (after, result) →
        rely shared (shared.commit id label after)

section Programs

variable (effect : (label : τ) → σ → Option (σ × β label)) (conditions : Conditions σ κ τ ι)
  (rely : Shared σ τ → Shared σ τ → Prop)

/-- Whatever the program answers, the goal holds of it by then. -/
def Request.Attains (request : ι) (id : Nat) (program : Request σ κ τ β ε α)
    (goal : α → Shared σ τ → Prop) : Prop :=
  ∀ shared, program.Meets effect conditions (fun _ => True) rely request id
    (fun outcome later => ∀ value, outcome = .ok value → goal value later) shared

variable {effect conditions rely} {request : ι} {id : Nat} {goal : α → Shared σ τ → Prop}

namespace Guarantee

variable (guarantee : Guarantee effect conditions rely)

include guarantee

theorem answers (program : Request σ κ τ β ε α) : program.Attains effect conditions rely request id
      fun value _ => program.Answers (fun _ => True) value :=
  fun shared => meets_answers
    (fun shared label after result _ allowed happens =>
      ⟨guarantee.commit request id shared label after result allowed happens, trivial⟩)
    program shared

theorem attains_of_answers {program : Request σ κ τ β ε α}
    (holds : ∀ value, program.Answers (fun _ => True) value → ∀ later, goal value later) :
    program.Attains effect conditions rely request id goal := by
  intro shared
  refine (guarantee.answers program shared).imp ?_
  intro outcome later answers value isAnswer
  exact holds value (answers value isAnswer) later

theorem attains_throw {error : ε} :
    (Request.throw error : Request σ κ τ β ε α).Attains effect conditions rely request id goal :=
  guarantee.attains_of_answers fun _ answers => absurd answers not_answers_throw

theorem attains_bind {first : Request σ κ τ β ε γ} {next : γ → Request σ κ τ β ε α}
    (onward : ∀ value, first.Answers (fun _ => True) value →
      (next value).Attains effect conditions rely request id goal) :
    (first >>= next).Attains effect conditions rely request id goal := by
  intro shared
  refine (guarantee.answers first shared).bind guarantee.refl trivial ?_ ?_
  · intro value later _ answers
    exact onward value (answers value rfl) later
  · intro error later _ value isAnswer
    cases isAnswer

theorem attains_of_first {first : Request σ κ τ β ε γ} {next : γ → Request σ κ τ β ε α}
    {goalFirst : γ → Shared σ τ → Prop}
    (attains : first.Attains effect conditions rely request id goalFirst)
    (stable : ∀ value earlier later, rely earlier later → goalFirst value earlier →
      goalFirst value later) (same : ∀ value answer, first.Answers (fun _ => True) value →
      (next value).Answers (fun _ => True) answer →
        ∀ later, goalFirst value later → goal answer later) :
    (first >>= next).Attains effect conditions rely request id goal := by
  intro shared
  refine ((attains shared).and (guarantee.answers first shared)).bind guarantee.refl trivial ?_ ?_
  · rintro value later _ ⟨attained, answersFirst⟩
    refine ((guarantee.answers (next value) later).frame (goalFirst value) (stable value)
      (attained value rfl)).imp ?_
    rintro outcome last ⟨answers, stillAttained⟩ answer isAnswer
    exact same value answer (answersFirst value rfl) (answers answer isAnswer) last stillAttained
  · intro error later _ value isAnswer
    cases isAnswer

theorem attains_commit {label : τ} {failure : ε} {goal : β label → Shared σ τ → Prop}
    (stable : ∀ value earlier later, rely earlier later → goal value earlier → goal value later)
    (attained : ∀ (shared : Shared σ τ) (after : σ) (result : β label),
      conditions.onCommit request label shared = true →
        effect label shared.store = some (after, result) →
          goal result (shared.commit id label after)) :
    (Request.commit label failure : Request σ κ τ β ε (β label)).Attains effect conditions rely
      request id goal := by
  intro shared
  refine (meets_commit label failure).mpr fun later _ _ => ⟨?_, ?_⟩
  · intro further _ _ value isAnswer
    cases isAnswer
  · intro allowed after result happens
    refine ⟨guarantee.commit request id later label after result allowed happens, trivial, ?_⟩
    intro further step _ value isAnswer
    cases isAnswer
    exact stable result _ further step (attained later after result allowed happens)

/-- A transaction, and what the rest attains from where it has been committed. -/
theorem meets_commit_bind {label : τ} {failure : ε} {next : β label → Request σ κ τ β ε α}
    {shared : Shared σ τ}
    (onward : ∀ (later : Shared σ τ) (after : σ) (result : β label), rely shared later →
      conditions.onCommit request label later = true →
        effect label later.store = some (after, result) →
          (next result).Meets effect conditions (fun _ => True) rely request id
            (fun outcome last => ∀ value, outcome = .ok value → goal value last)
            (later.commit id label after)) :
    (Request.commit label failure >>= next).Meets effect conditions (fun _ => True) rely request id
      (fun outcome later => ∀ value, outcome = .ok value → goal value later) shared := by
  refine (Request.meets_commit_bind label failure next).mpr fun later step _ => ⟨?_, ?_⟩
  · intro further _ _ value isAnswer
    cases isAnswer
  · intro allowed after result happens
    exact ⟨guarantee.commit request id later label after result allowed happens, trivial,
      onward later after result step allowed happens⟩

end Guarantee

end Programs

/-- In a run, the goal holds of every answer. -/
theorem ReadCommitted.Reachable.attains [DecidableEq ℓ] {protects : ℓ → Setoid σ}
    {body : (label : τ) → Tx σ ℓ (β label)} (guarded : ∀ label, (body label).Guarded protects [])
    {program : ι → Request σ κ τ β ε ρ} {conditions : Conditions σ κ τ ι}
    {rely : Shared σ τ → Shared σ τ → Prop}
    (guarantee : Guarantee (fun label => (body label).run) conditions rely)
    {goal : ι → Nat → ρ → Shared σ τ → Prop}
    (each : ∀ request id, (program request).Attains (fun label => (body label).run) conditions
      rely request id (goal request id))
    {store : σ} {state : ReadCommitted σ ℓ κ τ β ε ι ρ}
    (reachable : ReadCommitted.Reachable body program conditions (initial store) state)
    {request : ι} {id arrived : Nat} {value : ρ}
    (found : state.sessions[id]? = some ⟨request, arrived, .outside (.answer value)⟩) :
    goal request id value state.shared := by
  have meets := (reachable.meets guarded (fun _ => True) rely
    (fun request id _ outcome later => ∀ value, outcome = .ok value → goal request id value later)
    guarantee.refl guarantee.trans trivial
    (fun request id shared _ _ => each request id shared)).2
  exact meets id request arrived value found value rfl

/-! ## What can be spent once

Something that is there or not there in the store: a commit issues it when it was not there
before and is there after, and spends it when it was there and is not any more.  Whatever
the transactions are, it is spent at most as often as it is issued, once more if it was
there to begin with.
-/

section Counts

variable (live : σ → Bool)

def Commit.issues (commit : Commit σ τ) : Bool :=
  !live commit.before && live commit.after

def Commit.spends (commit : Commit σ τ) : Bool :=
  live commit.before && !live commit.after

theorem toNat_balance (before after : Bool) :
    (before && !after).toNat + after.toNat = (!before && after).toNat + before.toNat := by
  cases before <;> cases after <;> rfl

theorem countP_commits_commit (shared : Shared σ τ) (counts : Commit σ τ → Bool) (session : Nat)
    (label : τ) (after : σ) : (shared.commit session label after).commits.countP counts =
      shared.commits.countP counts + (counts ⟨session, label, shared.store, after⟩).toNat := by
  rw [Shared.commits_commit, List.countP_append, List.countP_singleton]
  cases counts ⟨session, label, shared.store, after⟩ <;> rfl

/-- What was spent and what is there was issued or was there. -/
theorem ReadCommitted.Reachable.countP_spends [DecidableEq ℓ] {protects : ℓ → Setoid σ}
    {body : (label : τ) → Tx σ ℓ (β label)} {program : ι → Request σ κ τ β ε ρ}
    {conditions : Conditions σ κ τ ι} (guarded : ∀ label, (body label).Guarded protects [])
    {store : σ} {state : ReadCommitted σ ℓ κ τ β ε ι ρ}
    (reachable : ReadCommitted.Reachable body program conditions (initial store) state) :
    state.shared.commits.countP (Commit.spends live) + (live state.shared.store).toNat =
      state.shared.commits.countP (Commit.issues live) + (live store).toNat := by
  apply reachable.shared_invariant guarded fun shared =>
    shared.commits.countP (Commit.spends live) + (live shared.store).toNat =
      shared.commits.countP (Commit.issues live) + (live store).toNat
  · rfl
  · intro shared id label after result before _
    have balance := toNat_balance (live shared.store) (live after)
    simp only [countP_commits_commit, Shared.store_commit, Commit.spends, Commit.issues]
      at before ⊢
    omega

end Counts

/-- Sessions that each have a commit of their own are as many as these commits at most. -/
theorem length_le_countP_commits {commits : List (Commit σ τ)} {counts : Commit σ τ → Bool}
    {ids : List Nat} (distinct : ids.Nodup)
    (own : ∀ id ∈ ids, ∃ commit ∈ commits, commit.session = id ∧ counts commit = true) :
    ids.length ≤ commits.countP counts := by
  have included : ids ⊆ (commits.filter counts).map Commit.session := by
    intro id member
    rcases own id member with ⟨commit, isCommit, rfl, isCounted⟩
    exact List.mem_map_of_mem (List.mem_filter.mpr ⟨isCommit, isCounted⟩)
  have shorter := (distinct.subperm included).length_le
  rwa [List.length_map, ← List.countP_eq_length_filter] at shorter

end Csms.Database
