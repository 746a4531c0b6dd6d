import Csms.Database.Tx
import Csms.Table.Keyed

/-!
# Statements on rows

A store has tables with unique keys.  The two writing statements of a database
client are the update of the row under a key, which fails when there is none,
and the insertion of a row, which fails when its key or another unique value is
taken.  What they do is stated as an equation for `run`, and what a table must
satisfy for them to be guarded once for each.
-/

namespace Csms.Database

variable {σ ρ κ ℓ α : Type} {key : ρ → κ}

/-- One table of a store. -/
structure Component (σ : Type) {ρ κ : Type} (key : ρ → κ) where
  table : σ → Table ρ key
  put : σ → Table ρ key → σ
  table_put : ∀ store table', table (put store table') = table'

variable [DecidableEq κ] (component : Component σ key)

namespace Component

/-- The row under a key. -/
def find? (id : κ) (store : σ) : Option ρ :=
  (component.table store).find? id

def update (id : κ) (change : ρ → ρ) (keeps : ∀ row, key (change row) = key row) (store : σ) : σ :=
  component.put store ((component.table store).updateWhere (fun row => key row = id) change keeps)

/-- The store with one more row, unless its key is taken. -/
def insert (row : ρ) (store : σ) : σ :=
  component.put store ((component.table store).insert row)

variable {component}

theorem find?_update (id : κ) (change : ρ → ρ) (keeps : ∀ row, key (change row) = key row)
    (store : σ) (wanted : κ) : component.find? wanted (component.update id change keeps store) =
      if wanted = id then (component.find? id store).map change
      else component.find? wanted store := by
  rw [find?, update, component.table_put, Table.find?_updateWhere]
  by_cases isWanted : wanted = id
  · rw [if_pos isWanted, isWanted, find?]
    rcases found : (component.table store).find? id with _ | row
    · rfl
    · have sameKey := (Table.find?_eq_some_iff.mp found).2
      simp [sameKey]
  · rw [if_neg isWanted, find?]
    rcases found : (component.table store).find? wanted with _ | row
    · rfl
    · have sameKey := (Table.find?_eq_some_iff.mp found).2
      simp [sameKey, isWanted]

theorem find?_insert (row : ρ) (store : σ) (wanted : κ) :
    component.find? wanted (component.insert row store) =
      (component.find? wanted store).or (if key row = wanted then some row else none) := by
  rw [find?, insert, component.table_put, Table.find?_insert]
  rfl

theorem find?_update_of_ne {id wanted : κ} {change : ρ → ρ}
    {keeps : ∀ row, key (change row) = key row} {store : σ} (other : wanted ≠ id) :
    component.find? wanted (component.update id change keeps store) =
      component.find? wanted store := by
  rw [find?_update, if_neg other]

theorem find?_insert_of_ne {row : ρ} {store : σ} {wanted : κ} (other : key row ≠ wanted) :
    component.find? wanted (component.insert row store) = component.find? wanted store := by
  rw [find?_insert, if_neg other, Option.or_none]

theorem find?_update_congr {id : κ} {change : ρ → ρ} {keeps : ∀ row, key (change row) = key row}
    {left right : σ} (found : component.find? id left = component.find? id right) :
    component.find? id (component.update id change keeps left) =
      component.find? id (component.update id change keeps right) := by
  rw [find?_update, find?_update, if_pos rfl, if_pos rfl, found]

theorem find?_insert_congr {row : ρ} {left right : σ} {wanted : κ}
    (found : component.find? wanted left = component.find? wanted right) :
    component.find? wanted (component.insert row left) =
      component.find? wanted (component.insert row right) := by
  rw [find?_insert, find?_insert, found]

theorem mem_update {id : κ} {change : ρ → ρ} {keeps : ∀ row, key (change row) = key row}
    {store : σ} {row : ρ} : row ∈ (component.table (component.update id change keeps store)).rows ↔
      ∃ old ∈ (component.table store).rows,
        (key old = id ∧ row = change old) ∨ (key old ≠ id ∧ row = old) := by
  rw [update, component.table_put, Table.mem_updateWhere]
  simp only [decide_eq_true_eq, decide_eq_false_iff_not, ne_eq]

theorem rows_insert {row : ρ} {store : σ} (free : component.find? (key row) store = none) :
    (component.table (component.insert row store)).rows =
      (component.table store).rows ++ [row] := by
  rw [insert, component.table_put, Table.rows_insert_of_free free]

theorem filter_insert (row : ρ) (store : σ) (condition : ρ → Bool) :
    (component.table (component.insert row store)).rows.filter condition =
      (component.table store).rows.filter condition ++
        if (component.find? (key row) store).isNone && condition row then [row] else [] := by
  rcases taken : component.find? (key row) store with _ | other
  · rw [rows_insert taken, List.filter_append]
    rcases holds : condition row <;> simp [holds]
  · rw [insert, component.table_put, Table.insert_of_taken taken]
    simp

theorem any_insert (row : ρ) (store : σ) (condition : ρ → Bool) :
    (component.table (component.insert row store)).rows.any condition =
      ((component.table store).rows.any condition ||
        ((component.find? (key row) store).isNone && condition row)) := by
  rcases taken : component.find? (key row) store with _ | other
  · rw [rows_insert taken, List.any_append]
    simp
  · rw [insert, component.table_put, Table.insert_of_taken taken]
    simp

theorem any_insert_of_false {row : ρ} {condition : ρ → Bool} (isNot : condition row = false)
    (store : σ) : (component.table (component.insert row store)).rows.any condition =
      (component.table store).rows.any condition := by
  rw [any_insert, isNot, Bool.and_false, Bool.or_false]

theorem any_insert_congr {row : ρ} {condition : ρ → Bool} {left right : σ}
    (found : component.find? (key row) left = component.find? (key row) right)
    (same : (component.table left).rows.any condition = (component.table right).rows.any condition) :
    (component.table (component.insert row left)).rows.any condition =
      (component.table (component.insert row right)).rows.any condition := by
  rw [any_insert, any_insert, found, same]

section Update

variable {id : κ} {change : ρ → ρ} (keeps : ∀ row, key (change row) = key row)
  {condition : ρ → Bool} (kept : ∀ row, condition (change row) = condition row) (store : σ)
include kept

/-- A selection by what the change keeps. -/
theorem filter_update :
    (component.table (component.update id change keeps store)).rows.filter condition =
      ((component.table store).rows.filter condition).map fun row =>
        if key row = id then change row else row := by
  have same : (fun row => condition (if key row = id then change row else row)) = condition := by
    funext row
    by_cases isRow : key row = id <;> simp [isRow, kept]
  rw [update, component.table_put, Table.rows_updateWhere]
  simp only [decide_eq_true_eq, List.filter_map]
  exact congrArg (fun selected => List.map _ (List.filter selected _)) same

theorem any_update : (component.table (component.update id change keeps store)).rows.any condition =
      (component.table store).rows.any condition := by
  have same : (fun row => condition (if key row = id then change row else row)) = condition := by
    funext row
    by_cases isRow : key row = id <;> simp [isRow, kept]
  rw [update, component.table_put, Table.rows_updateWhere]
  simp only [decide_eq_true_eq, List.any_map]
  exact congrArg _ same

end Update

end Component

namespace Tx

def updateRow (locks : List ℓ) (id : κ) (change : ρ → ρ)
    (keeps : ∀ row, key (change row) = key row) (rest : ρ → Tx σ ℓ α) : Tx σ ℓ α :=
  write locks (fun store => (component.find? id store).isSome)
    (component.update id change keeps) fun store =>
      match component.find? id store with
      | some row => rest row
      | none => rollback

/-- Insert a row whose other unique values are `free`. -/
def insertRow (locks : List ℓ) (row : ρ) (free : σ → Bool) (rest : Tx σ ℓ α) : Tx σ ℓ α :=
  write locks (fun store => (component.find? (key row) store).isNone && free store)
    (component.insert row) fun _ => rest

variable {component}

variable {rest : ρ → Tx σ ℓ α}

theorem run_updateRow_eq_some_iff {locks : List ℓ} {id : κ} {change : ρ → ρ}
    {keeps : ∀ row, key (change row) = key row} {store : σ} {outcome : σ × α} :
    (updateRow component locks id change keeps rest).run store = some outcome ↔
      ∃ row, component.find? id store = some row ∧
        (rest (change row)).run (component.update id change keeps store) = some outcome := by
  rw [updateRow, run_write_eq_some_iff, Component.find?_update, if_pos rfl]
  rcases found : component.find? id store with _ | row <;> simp

theorem run_insertRow_eq_some_iff {locks : List ℓ} {row : ρ} {free : σ → Bool}
    {rest : Tx σ ℓ α} {store : σ} {outcome : σ × α} :
    (insertRow component locks row free rest).run store = some outcome ↔
      component.find? (key row) store = none ∧ free store = true ∧
        rest.run (component.insert row store) = some outcome := by
  rw [insertRow, run_write_eq_some_iff, Bool.and_eq_true, Option.isNone_iff_eq_none, and_assoc]

section Guarded

variable {protects : ℓ → Setoid σ} {locks held : List ℓ} (affected : List ℓ)

/-- A write is guarded when it leaves alone what all but some locks protect, and
on stores that agree on those, which are held, it does the same. -/
theorem guarded_write {allowed : σ → Bool} {change : σ → σ} {rest : σ → Tx σ ℓ α}
    (isHeld : affected ⊆ locks ++ held)
    (outside : ∀ lock, lock ∉ affected → ∀ store, (protects lock).r (change store) store)
    (inside : ∀ left right, Agree protects affected left right →
      allowed left = allowed right ∧ Agree protects affected (change left) (change right) ∧
        rest left = rest right) (next : ∀ view, (rest view).Guarded protects (locks ++ held)) :
    (write locks allowed change rest).Guarded protects held := by
  refine ⟨fun lock free => outside lock fun isAffected => free (isHeld isAffected), ?_, next⟩
  intro left right agree
  rcases inside left right (agree.mono isHeld) with ⟨allowedEq, changed, restEq⟩
  refine ⟨allowedEq, ?_, restEq⟩
  intro lock lockHeld
  by_cases isAffected : lock ∈ affected
  · exact changed lock isAffected
  · exact (protects lock).trans (outside lock isAffected left)
      ((protects lock).trans (agree lock lockHeld)
        ((protects lock).symm (outside lock isAffected right)))

theorem guarded_updateRow {id : κ} {change : ρ → ρ} {keeps : ∀ row, key (change row) = key row}
    (isHeld : affected ⊆ locks ++ held)
    (outside : ∀ lock, lock ∉ affected → ∀ store, (protects lock).r (component.update id change keeps store) store)
    (inside : ∀ left right, Agree protects affected left right → component.find? id left = component.find? id right ∧ Agree protects affected (component.update id change keeps left) (component.update id change keeps right))
    (next : ∀ row, key row = id → (rest row).Guarded protects (locks ++ held)) :
    (updateRow component locks id change keeps rest).Guarded protects held := by
  apply guarded_write affected isHeld outside
  · intro left right agree
    rcases inside left right agree with ⟨findEq, changed⟩
    rw [findEq]
    exact ⟨rfl, changed, rfl⟩
  · intro view
    rcases found : component.find? id view with _ | row
    · trivial
    · exact next row (Table.find?_eq_some_iff.mp found).2

theorem guarded_insertRow {row : ρ} {free : σ → Bool} {rest : Tx σ ℓ α}
    (isHeld : affected ⊆ locks ++ held) (outside : ∀ lock, lock ∉ affected → ∀ store,
      (protects lock).r (component.insert row store) store)
    (inside : ∀ left right, Agree protects affected left right →
      component.find? (key row) left = component.find? (key row) right ∧ free left = free right ∧
          Agree protects affected (component.insert row left) (component.insert row right))
    (next : rest.Guarded protects (locks ++ held)) :
    (insertRow component locks row free rest).Guarded protects held := by
  apply guarded_write affected isHeld outside
  · intro left right agree
    rcases inside left right agree with ⟨findEq, freeEq, changed⟩
    rw [findEq, freeEq]
    exact ⟨rfl, changed, rfl⟩
  · intro _
    exact next

section Own

/-! A lock that protects exactly the row under its key, where no other lock protects anything
of the table. -/

variable {lockOf : κ → ℓ} (own : ∀ id, protects (lockOf id) = Setoid.ker (component.find? id))
include own

theorem agree_own_iff {id : κ} {left right : σ} :
    Agree protects [lockOf id] left right ↔ component.find? id left = component.find? id right := by
  constructor
  · intro agree
    have same := agree (lockOf id) (List.mem_singleton_self _)
    rw [own] at same
    exact same
  · intro found lock isOwn
    obtain rfl := List.mem_singleton.mp isOwn
    rw [own]
    exact found

variable (apart : ∀ lock, (∀ id, lock ≠ lockOf id) → ∀ store table,
  (protects lock).r (component.put store table) store)
include apart

theorem protects_put_own {id : κ} {lock : ℓ} (other : lock ∉ [lockOf id]) {store : σ}
    {table : Table ρ key} (others : ∀ wanted, wanted ≠ id →
      component.find? wanted (component.put store table) = component.find? wanted store) :
    (protects lock).r (component.put store table) store := by
  by_cases isOwn : ∃ wanted, lock = lockOf wanted
  · obtain ⟨wanted, rfl⟩ := isOwn
    rw [own]
    apply others wanted
    rintro rfl
    exact other (List.mem_singleton_self _)
  · exact apart lock (fun wanted same => isOwn ⟨wanted, same⟩) store table

variable (lockOf)

theorem guarded_updateRow_own {id : κ} {change : ρ → ρ} {keeps : ∀ row, key (change row) = key row}
    (next : ∀ row, (rest row).Guarded protects (lockOf id :: held)) :
    (updateRow component [lockOf id] id change keeps rest).Guarded protects held := by
  apply guarded_updateRow [lockOf id] (List.subset_append_left _ held)
  · intro lock other store
    exact protects_put_own own apart other fun wanted => Component.find?_update_of_ne
  · intro left right agree
    have found := (agree_own_iff own).mp agree
    exact ⟨found, (agree_own_iff own).mpr (Component.find?_update_congr found)⟩
  · exact fun row _ => next row

theorem guarded_insertRow_own {row : ρ} {rest : Tx σ ℓ α}
    (next : rest.Guarded protects (lockOf (key row) :: held)) :
    (insertRow component [lockOf (key row)] row (fun _ => true) rest).Guarded protects held := by
  apply guarded_insertRow [lockOf (key row)] (List.subset_append_left _ held)
  · intro lock other store
    exact protects_put_own own apart other fun wanted isOther =>
      Component.find?_insert_of_ne isOther.symm
  · intro left right agree
    have found := (agree_own_iff own).mp agree
    exact ⟨found, rfl, (agree_own_iff own).mpr (Component.find?_insert_congr found)⟩
  · exact next

end Own

end Guarded

end Tx

end Csms.Database
