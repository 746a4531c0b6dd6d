import Csms.Table.Keyed
import Mathlib.Algebra.BigOperators.Group.List.Basic
import Mathlib.Algebra.Group.Pi.Lemmas
import Mathlib.Tactic.Abel

/-!
# Totals of a ledger

Rows of a ledger belong to accounts and have values.  The totals of all accounts
are one function, to which a new row adds its value at its account, and a
changed row the difference.  A table whose rows are the accounts themselves is
the special case in which each total has at most one summand.
-/

namespace Csms.Ledger

universe u v w

variable {ρ : Type u} {κ : Type v} {M : Type w} [DecidableEq κ]

section Monoid

variable [AddCommMonoid M] (account : ρ → κ) (value : ρ → M)

/-- The sum of the values of an account's rows. -/
def total (rows : List ρ) (of : κ) : M :=
  ((rows.filter fun row => account row = of).map value).sum

@[simp]
theorem total_nil : total account value [] = 0 :=
  rfl

theorem total_cons (row : ρ) (rows : List ρ) : total account value (row :: rows) =
      Pi.single (account row) (value row) + total account value rows := by
  funext of
  by_cases isAccount : account row = of
  · subst isAccount
    simp [total]
  · simp [total, isAccount]

theorem total_append (rows more : List ρ) : total account value (rows ++ more) =
      total account value rows + total account value more := by
  induction rows with
  | nil => simp
  | cons row rows ih => rw [List.cons_append, total_cons, total_cons, ih, add_assoc]

theorem total_append_singleton (rows : List ρ) (row : ρ) : total account value (rows ++ [row]) =
      total account value rows + Pi.single (account row) (value row) := by
  rw [total_append, total_cons, total_nil, add_zero]

theorem total_map {change : ρ → ρ} {rows : List ρ}
    (keepsAccount : ∀ row ∈ rows, account (change row) = account row)
    (keepsValue : ∀ row ∈ rows, value (change row) = value row) :
    total account value (rows.map change) = total account value rows := by
  induction rows with
  | nil => rfl
  | cons row rows ih =>
    have here := keepsAccount row List.mem_cons_self
    have hereValue := keepsValue row List.mem_cons_self
    rw [List.map_cons, total_cons, total_cons, here, hereValue,
      ih (fun other later => keepsAccount other (List.mem_cons_of_mem _ later))
        fun other later => keepsValue other (List.mem_cons_of_mem _ later)]

end Monoid

section Table

variable [AddCommGroup M] {key : ρ → κ} {ι : Type*} [DecidableEq ι] {id : ρ → ι}

theorem total_key_eq (table : Table ρ key) (value : ρ → M) {row : ρ} (member : row ∈ table.rows) :
    total key value table.rows (key row) = value row := by
  rw [total, table.filter_key_eq member, List.map_singleton, List.sum_singleton]

theorem total_update (table : Table ρ id) (account : ρ → κ) (value : ρ → M) {row : ρ}
    {change : ρ → ρ} (keeps : ∀ row, id (change row) = id row)
    (member : row ∈ table.rows) (sameAccount : account (change row) = account row) :
    total account value (table.updateWhere (fun other => id other = id row) change keeps).rows =
      total account value table.rows +
        Pi.single (account row) (value (change row) - value row) := by
  obtain ⟨before, after, split⟩ := List.append_of_mem member
  have nodup := table.nodup
  rw [split, List.map_append, List.map_cons, List.nodup_append] at nodup
  obtain ⟨-, afterNodup, apart⟩ := nodup
  have sameBefore : before.map (fun other => if id other = id row then change other else other) =
      before := by
    conv_rhs => rw [← List.map_id before]
    apply List.map_congr_left
    intro other otherMem
    have differ : id other ≠ id row :=
      apart (id other) (List.mem_map_of_mem otherMem) (id row) List.mem_cons_self
    simp [differ]
  have sameAfter : after.map (fun other => if id other = id row then change other else other) =
      after := by
    conv_rhs => rw [← List.map_id after]
    apply List.map_congr_left
    intro other otherMem
    have differ : id other ≠ id row := fun equal =>
      (List.nodup_cons.mp afterNodup).1 (equal ▸ List.mem_map_of_mem otherMem)
    simp [differ]
  have difference : (Pi.single (account row) (value (change row)) : κ → M) =
      Pi.single (account row) (value row) +
        Pi.single (account row) (value (change row) - value row) := by
    rw [← Pi.single_add, add_sub_cancel]
  rw [Table.rows_updateWhere]
  simp only [decide_eq_true_eq]
  rw [split, List.map_append, List.map_cons, sameBefore, sameAfter, if_pos rfl, total_append,
    total_append, total_cons, total_cons, sameAccount, difference]
  abel

end Table

end Csms.Ledger
