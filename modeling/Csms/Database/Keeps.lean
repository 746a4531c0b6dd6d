import Csms.Database.Duty

/-!
# Requests that keep an invariant

A request keeps an invariant when each of its commits does, whatever other sessions do in
between.  Then the invariant holds in every run of such requests.  And each commit of a
run met the condition on commits.
-/

namespace Csms.Database

variable {σ κ τ ε ι α γ ρ ℓ : Type} {β : τ → Type}

section Programs

variable (effect : (label : τ) → σ → Option (σ × β label)) (conditions : Conditions σ κ τ ι)
  (invariant : Shared σ τ → Prop) (rely : Shared σ τ → Shared σ τ → Prop)

/-- From wherever the invariant holds, the request keeps it. -/
def Request.Keeps (request : ι) (id : Nat) (program : Request σ κ τ β ε α) : Prop :=
  ∀ shared, invariant shared →
    program.Meets effect conditions invariant rely request id (fun _ _ => True) shared

variable {effect conditions invariant rely} {request : ι} {id : Nat}

theorem Request.keeps_pure (value : α) :
    (pure value : Request σ κ τ β ε α).Keeps effect conditions invariant rely request id :=
  fun _ _ => (meets_pure value).mpr fun _ _ _ => trivial

theorem keeps_throw (error : ε) :
    (Request.throw error : Request σ κ τ β ε α).Keeps effect conditions invariant rely request id :=
  fun _ _ => (meets_throw error).mpr fun _ _ _ => trivial

theorem Request.Keeps.bind (refl : ∀ shared, rely shared shared) {first : Request σ κ τ β ε α}
    {next : α → Request σ κ τ β ε γ}
    (keeps : first.Keeps effect conditions invariant rely request id)
    (onward : ∀ value, (next value).Keeps effect conditions invariant rely request id) :
    (first >>= next).Keeps effect conditions invariant rely request id :=
  fun shared holds => Request.Meets.bind refl (keeps shared holds) holds
    (fun value later laterHolds _ => onward value later laterHolds) fun _ _ _ => trivial

theorem Request.Keeps.ite {condition : Prop} [Decidable condition]
    {left right : Request σ κ τ β ε α}
    (onTrue : left.Keeps effect conditions invariant rely request id)
    (onFalse : right.Keeps effect conditions invariant rely request id) :
    (if condition then left else right).Keeps effect conditions invariant rely request id := by
  split
  · exact onTrue
  · exact onFalse

theorem Request.Transacts.keeps {allowed : τ → Prop}
    (each : ∀ (shared : Shared σ τ) (label : τ) (after : σ) (result : β label), invariant shared →
      allowed label → conditions.onCommit request label shared = true →
        effect label shared.store = some (after, result) →
          rely shared (shared.commit id label after) ∧ invariant (shared.commit id label after))
    {program : Request σ κ τ β ε α} (transacts : program.Transacts allowed) :
    program.Keeps effect conditions invariant rely request id :=
  fun shared _ => transacts.meets each shared

theorem keeps_ofExcept_bind {found : Except ε α} {next : α → Request σ κ τ β ε γ}
    (onward : ∀ value, found = .ok value →
      (next value).Keeps effect conditions invariant rely request id) :
    (Request.ofExcept found >>= next).Keeps effect conditions invariant rely request id := by
  cases found with
  | ok value => exact onward value rfl
  | error error => exact keeps_throw error

theorem keeps_transact {label : τ} {rest : Option (β label) → Request σ κ τ β ε α}
    (each : ∀ (shared : Shared σ τ) (after : σ) (result : β label), invariant shared →
      conditions.onCommit request label shared = true →
        effect label shared.store = some (after, result) →
          rely shared (shared.commit id label after) ∧ invariant (shared.commit id label after))
    (onward : ∀ result, (rest result).Keeps effect conditions invariant rely request id) :
    (Request.transact label rest).Keeps effect conditions invariant rely request id := by
  intro shared _
  apply meets_transact.mpr
  intro later _ laterHolds
  refine ⟨onward none later laterHolds, ?_⟩
  intro permitted after result happens
  rcases each later after result laterHolds permitted happens with ⟨kept, inv⟩
  exact ⟨kept, inv, onward (some result) _ inv⟩

end Programs

section Runs

variable {effect : (label : τ) → σ → Option (σ × β label)} {program : ι → Request σ κ τ β ε ρ}
  {conditions : Conditions σ κ τ ι}

/-- The invariant that all requests keep holds in every run. -/
theorem ReadCommitted.Reachable.keeps [DecidableEq ℓ] {protects : ℓ → Setoid σ}
    {body : (label : τ) → Tx σ ℓ (β label)} (guarded : ∀ label, (body label).Guarded protects [])
    {invariant : Shared σ τ → Prop} {rely : Shared σ τ → Shared σ τ → Prop}
    (refl : ∀ shared, rely shared shared)
    (trans : ∀ first second third, rely first second → rely second third → rely first third)
    (each : ∀ request id, (program request).Keeps (fun label => (body label).run) conditions
      invariant rely request id)
    {store : σ} (initially : invariant (Shared.initial store))
    {state : ReadCommitted σ ℓ κ τ β ε ι ρ}
    (reachable : ReadCommitted.Reachable body program conditions (initial store) state) :
    invariant state.shared :=
  (reachable.meets guarded invariant rely (fun _ _ _ _ _ => True) refl trans initially
    fun request id shared holds _ => each request id shared holds).1

section Commits

variable [DecidableEq ℓ] {protects : ℓ → Setoid σ} {body : (label : τ) → Tx σ ℓ (β label)}
  {store : σ} {state : ReadCommitted σ ℓ κ τ β ε ι ρ}

/-- All commits of a run have what those have that a request may make and that meet the
condition. -/
theorem ReadCommitted.Reachable.forall_commits
    (guarded : ∀ label, (body label).Guarded protects []) {allowed : τ → Prop}
    (transacts : ∀ request, (program request).Transacts allowed) (property : τ → σ → σ → Prop)
    (each : ∀ request shared label after result, allowed label →
      conditions.onCommit request label shared = true →
        (body label).run shared.store = some (after, result) → property label shared.store after)
    (reachable : ReadCommitted.Reachable body program conditions (initial store) state) :
    ∀ commit ∈ state.shared.commits, property commit.label commit.before commit.after := by
  let held (shared : Shared σ τ) : Prop :=
    ∀ commit ∈ shared.commits, property commit.label commit.before commit.after
  have initially : held (Shared.initial store) := fun commit member => by
    simp [Shared.initial] at member
  have keeps (request : ι) (id : Nat) :
      (program request).Keeps (fun label => (body label).run) conditions held (fun _ _ => True)
        request id := by
    refine (transacts request).keeps ?_
    intro shared label after result holds isAllowed permitted run
    refine ⟨trivial, ?_⟩
    simp only [held, Shared.commits_commit, List.forall_mem_append, List.forall_mem_singleton]
    exact ⟨holds, each request shared label after result isAllowed permitted run⟩
  exact reachable.keeps guarded (fun _ => trivial) (fun _ _ _ _ _ => trivial) keeps initially

theorem ReadCommitted.Reachable.related
    (guarded : ∀ label, (body label).Guarded protects []) {relation : σ → σ → Prop}
    (refl : ∀ store, relation store store)
    (trans : ∀ first second third, relation first second → relation second third →
      relation first third)
    (reachable : ReadCommitted.Reachable body program conditions (initial store) state)
    (each : ∀ commit ∈ state.shared.commits, relation commit.before commit.after) :
    relation store state.shared.store ∧
      ∀ commit ∈ state.shared.commits, relation commit.after state.shared.store := by
  revert each
  apply reachable.shared_invariant guarded fun shared =>
    (∀ commit ∈ shared.commits, relation commit.before commit.after) →
      relation store shared.store ∧ ∀ commit ∈ shared.commits, relation commit.after shared.store
  · intro _
    exact ⟨refl store, fun commit member => by simp [Shared.initial] at member⟩
  · intro shared id label after result before run
    simp only [Shared.commits_commit, Shared.store_commit, List.forall_mem_append,
      List.forall_mem_singleton]
    rintro ⟨earlier, here⟩
    rcases before earlier with ⟨sinceStart, sinceEach⟩
    refine ⟨trans _ _ _ sinceStart here, ?_, refl after⟩
    exact fun commit member => trans _ _ _ (sinceEach commit member) here

end Commits

theorem Shared.filterMap_commit {δ : Type} (pick : τ → Option δ) (shared : Shared σ τ)
    (session : Nat) (label : τ) (after : σ) :
    (shared.commit session label after).commits.filterMap (fun commit => pick commit.label) =
      shared.commits.filterMap (fun commit => pick commit.label) ++ (pick label).toList := by
  rw [Shared.commits_commit, List.filterMap_append, List.filterMap_cons, List.filterMap_nil]
  cases pick label <;> rfl

/-- Each commit was allowed by the condition when it was made. -/
def Shared.Permitted (conditions : Conditions σ κ τ ι) (shared : Shared σ τ) : Prop :=
  ∀ earlier commit later, shared.commits = earlier ++ commit :: later →
    ∃ request, conditions.onCommit request commit.label ⟨commit.before, earlier⟩ = true

theorem System.Reachable.permitted {store : σ} {system : System σ κ τ β ε ι ρ}
    (reachable : System.Reachable effect program conditions (System.initial store) system) :
    system.shared.Permitted conditions := by
  induction reachable with
  | refl =>
    intro earlier commit later isCommit
    simp [System.initial, Shared.initial] at isCommit
  | tail _ step ih =>
    cases step with
    | arrive | query | abort | stop => exact ih
    | commit id request arrived label rest after result found allowed happens =>
      intro earlier commit later isCommit
      rw [Shared.commits_commit] at isCommit
      rcases append_singleton_eq_append_cons isCommit with ⟨rfl, rfl⟩ | ⟨rest, _, isOld⟩
      · have isEarlier := List.append_inj_left' isCommit rfl
        exact ⟨request, isEarlier ▸ allowed⟩
      · exact ih earlier commit rest isOld

end Runs

end Csms.Database
