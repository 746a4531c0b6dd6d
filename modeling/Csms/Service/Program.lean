/-!
# Request handlers

A handler reads and writes a store and either answers or is rejected.  What it
wrote before a rejection stays written, unless the writes were part of a
transaction.  This file has the state a handler leaves behind, the transaction
of a handler, and the rules that show which part of the store a handler cannot
touch: a *view* of the store is kept by a handler when it is the same before
and after, whatever the outcome.
-/

namespace Csms.Service

universe u v w

section

variable {ε σ α β : Type u}

/-- The store a handler leaves behind, answered or rejected. -/
def after (handler : EStateM ε σ α) (store : σ) : σ :=
  match handler store with
  | .ok _ later => later
  | .error _ later => later

theorem after_bind (handler : EStateM ε σ α) (rest : α → EStateM ε σ β) (store : σ) :
    after (handler >>= rest) store =
      match handler store with
      | .ok value later => after (rest value) later
      | .error _ later => later := by
  simp only [after, bind, EStateM.bind]
  cases handler store <;> rfl

theorem bind_of_ok {handler : EStateM ε σ α} {store later : σ} {value : α}
    (answers : handler store = .ok value later) (rest : α → EStateM ε σ β) :
    (handler >>= rest) store = rest value later := by
  simp only [bind, EStateM.bind, answers]

theorem bind_of_error {handler : EStateM ε σ α} {store later : σ} {error : ε}
    (rejected : handler store = .error error later) (rest : α → EStateM ε σ β) :
    (handler >>= rest) store = .error error later := by
  simp only [bind, EStateM.bind, rejected]

theorem bind_apply (handler : EStateM ε σ α) (rest : α → EStateM ε σ β) (store : σ) :
    (handler >>= rest) store =
      match handler store with
      | .ok value later => rest value later
      | .error error later => .error error later :=
  rfl

theorem throw_apply (error : ε) (store : σ) :
    (throw error : EStateM ε σ α) store = .error error store :=
  rfl

theorem pure_apply (value : α) (store : σ) :
    (pure value : EStateM ε σ α) store = .ok value store :=
  rfl

theorem modify_apply (change : σ → σ) (store : σ) :
    (modify change : EStateM ε σ PUnit) store = .ok ⟨⟩ (change store) :=
  rfl

/-- All writes of the handler, or none when it is rejected. -/
def transaction (handler : EStateM ε σ α) : EStateM ε σ α := fun store =>
  match handler store with
  | .ok value later => .ok value later
  | .error error _ => .error error store

theorem eq_of_transaction_eq_error {handler : EStateM ε σ α} {store later : σ} {error : ε}
    (rejected : transaction handler store = .error error later) : later = store := by
  rw [transaction] at rejected
  split at rejected
  · contradiction
  · cases rejected
    rfl

/-- Answer with what a read of the store or of the request finds, or reject. -/
def orThrow (found : Except ε α) : EStateM ε σ α := fun store =>
  match found with
  | .ok value => .ok value store
  | .error error => .error error store

@[simp]
theorem orThrow_ok (value : α) (store : σ) :
    (orThrow (.ok value) : EStateM ε σ α) store = .ok value store :=
  rfl

@[simp]
theorem orThrow_error (error : ε) (store : σ) :
    (orThrow (.error error) : EStateM ε σ α) store = .error error store :=
  rfl

theorem exists_of_bind_eq_ok {found : Except ε α} {rest : α → Except ε β} {value : β}
    (accepted : (found >>= rest) = .ok value) :
    ∃ first, found = .ok first ∧ rest first = .ok value := by
  cases found with
  | error error => contradiction
  | ok first => exact ⟨first, rfl, accepted⟩

/-- A handler that first looks something up, and is rejected when it is not
there. -/
theorem after_lookup (find : σ → Except ε α) (rest : σ → α → EStateM ε σ β) (store : σ) :
    after (do let current ← get; let found ← orThrow (find current); rest current found) store =
      match find store with
      | .ok found => after (rest store found) store
      | .error _ => store := by
  rw [after_bind]
  change after (orThrow (find store) >>= rest store) store = _
  rw [after_bind]
  cases find store <;> rfl

def Answers (handler : EStateM ε σ α) (store : σ) : Prop :=
  ∃ value later, handler store = .ok value later

theorem answers_bind_iff {handler : EStateM ε σ α} {rest : α → EStateM ε σ β} {store : σ} :
    Answers (handler >>= rest) store ↔
      ∃ value later, handler store = .ok value later ∧ Answers (rest value) later := by
  cases outcome : handler store with
  | ok value later =>
    unfold Answers
    rw [bind_of_ok outcome]
    constructor
    · exact fun answers => ⟨value, later, rfl, answers⟩
    · rintro ⟨_, _, ⟨⟩, answers⟩
      exact answers
  | error error later => simp [Answers, bind_of_error outcome]

end

section

variable {ε σ α β : Type u} {γ : Type v}

def Keeps (view : σ → γ) (handler : EStateM ε σ α) : Prop :=
  ∀ store, view (after handler store) = view store

variable {view : σ → γ}

theorem Keeps.pure (value : α) : Keeps view (pure value : EStateM ε σ α) := fun _ => rfl

theorem Keeps.get : Keeps view (get : EStateM ε σ σ) := fun _ => rfl

theorem Keeps.orThrow (found : Except ε α) : Keeps view (orThrow found : EStateM ε σ α) := by
  intro store
  cases found <;> rfl

theorem Keeps.modify {change : σ → σ} (keeps : ∀ store, view (change store) = view store) :
    Keeps view (modify change : EStateM ε σ PUnit) := keeps

theorem Keeps.eq_of_ok {handler : EStateM ε σ α} (keeps : Keeps view handler) {store later : σ}
    {value : α} (answers : handler store = .ok value later) : view later = view store := by
  have kept := keeps store
  rw [after, answers] at kept
  exact kept

theorem Keeps.eq_of_error {handler : EStateM ε σ α} (keeps : Keeps view handler)
    {store later : σ} {error : ε} (rejected : handler store = .error error later) :
    view later = view store := by
  have kept := keeps store
  rw [after, rejected] at kept
  exact kept

theorem Keeps.view_after_bind {rest : α → EStateM ε σ β} (later : ∀ value, Keeps view (rest value))
    (handler : EStateM ε σ α) (store : σ) :
    view (after (handler >>= rest) store) = view (after handler store) := by
  rw [after_bind, after]
  cases handler store with
  | ok value middle => exact later value middle
  | error error middle => rfl

theorem Keeps.bind {handler : EStateM ε σ α} {rest : α → EStateM ε σ β}
    (first : Keeps view handler) (later : ∀ value, Keeps view (rest value)) :
    Keeps view (handler >>= rest) := by
  intro store
  rw [Keeps.view_after_bind later]
  exact first store

theorem Keeps.ite {condition : Prop} [Decidable condition] {first second : EStateM ε σ α}
    (keepsFirst : Keeps view first) (keepsSecond : Keeps view second) :
    Keeps view (if condition then first else second) := by
  split
  · exact keepsFirst
  · exact keepsSecond

theorem Keeps.transaction {handler : EStateM ε σ α} (keeps : Keeps view handler) :
    Keeps view (transaction handler) := by
  intro store
  have kept := keeps store
  rw [after] at kept ⊢
  rw [Service.transaction]
  cases outcome : handler store with
  | ok value later =>
    rw [outcome] at kept
    exact kept
  | error error later => rfl

end

/-! ## Checks one after another

Checks that reject or answer: one followed by another answers exactly when both do, and a check
made for every entry of a list passes exactly when it passes for each.
-/

theorem bind_eq_ok_iff {ε : Type u} {α β : Type v} {found : Except ε α} {rest : α → Except ε β}
    {value : β} :
    (found >>= rest) = .ok value ↔ ∃ first, found = .ok first ∧ rest first = .ok value := by
  cases found with
  | error | ok => simp [bind, Except.bind]

theorem forM_eq_ok_iff {ε : Type u} {α : Type v} {entries : List α} {check : α → Except ε PUnit} :
    entries.forM check = .ok ⟨⟩ ↔ ∀ entry ∈ entries, check entry = .ok ⟨⟩ := by
  induction entries with
  | nil => simp [pure, Except.pure]
  | cons entry entries ih =>
    rw [List.forM, bind_eq_ok_iff, List.forall_mem_cons]
    constructor
    · rintro ⟨_, first, rest⟩
      exact ⟨first, ih.mp rest⟩
    · rintro ⟨first, rest⟩
      exact ⟨_, first, ih.mpr rest⟩

end Csms.Service
