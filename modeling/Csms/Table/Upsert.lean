import Csms.Table.Keyed
import Mathlib.Algebra.BigOperators.Group.List.Basic
import Mathlib.Algebra.GroupWithZero.Nat

/-!
# Upserts and selections of a table

An upsert adds a row unless there is one under its key, which it changes instead.  A
selection of the rows of a table is changed by an update of rows that it has, and by no other.
-/

namespace Csms.Table

universe u v

variable {ρ : Type u} {κ : Type v} {key : ρ → κ} [DecidableEq κ]

/-- Change the row under the key of `row`, or add the row where there is none. -/
def upsert (table : Table ρ key) (row : ρ) (change : ρ → ρ)
    (keeps : ∀ row, key (change row) = key row) : Table ρ key :=
  match table.find? (key row) with
  | some _ => table.updateWhere (fun other => key other = key row) change keeps
  | none => table.insert row

theorem find?_upsert (table : Table ρ key) (row : ρ) (change : ρ → ρ)
    (keeps : ∀ row, key (change row) = key row) (wanted : κ) :
    (table.upsert row change keeps).find? wanted =
      if wanted = key row then some (((table.find? wanted).map change).getD row)
      else table.find? wanted := by
  rw [upsert]
  rcases found : table.find? (key row) with _ | old
  · rw [find?_insert]
    by_cases isKey : wanted = key row
    · rw [if_pos isKey, isKey, found, if_pos rfl]
      rfl
    · rw [if_neg isKey, if_neg (Ne.symm isKey), Option.or_none]
  · rw [find?_updateWhere]
    by_cases isKey : wanted = key row
    · rw [if_pos isKey, isKey, found, Option.map_some, Option.map_some, Option.getD_some,
        if_pos (decide_eq_true (find?_eq_some_iff.mp found).2)]
    · rw [if_neg isKey]
      rcases other : table.find? wanted with _ | otherRow
      · rfl
      · have sameKey := (find?_eq_some_iff.mp other).2
        rw [Option.map_some, sameKey, if_neg (by simpa using isKey)]

theorem key_eq_or_mem_of_mem_upsert {table : Table ρ key} {row other : ρ} {change : ρ → ρ}
    {keeps : ∀ row, key (change row) = key row}
    (member : other ∈ (table.upsert row change keeps).rows) :
    key other = key row ∨ other ∈ table.rows := by
  unfold upsert at member
  split at member
  · obtain ⟨old, oldMem, ⟨isKey, rfl⟩ | ⟨_, rfl⟩⟩ := mem_updateWhere.mp member
    · exact Or.inl ((keeps old).trans (of_decide_eq_true isKey))
    · exact Or.inr oldMem
  · rcases mem_insert member with old | rfl
    · exact Or.inr old
    · exact Or.inl rfl

theorem rows_of_insertAll? {table grown : Table ρ key} {rows : List ρ}
    (added : table.insertAll? rows = some grown) : grown.rows = table.rows ++ rows := by
  induction rows generalizing table with
  | nil =>
    obtain rfl := Option.some.inj added
    exact (List.append_nil _).symm
  | cons row rows ih =>
    obtain ⟨next, inserted, later⟩ := Option.bind_eq_some_iff.mp added
    rw [ih later, (insert?_eq_some_iff.mp inserted).2, List.append_assoc]
    rfl

theorem find?_of_insert? {table grown : Table ρ key} {row : ρ}
    (inserted : table.insert? row = some grown) (wanted : κ) :
    grown.find? wanted = if wanted = key row then some row else table.find? wanted := by
  obtain ⟨isFree, rowsEq⟩ := insert?_eq_some_iff.mp inserted
  rw [find?, rowsEq, List.find?_append, List.find?_singleton]
  by_cases isKey : wanted = key row
  · have absent := find?_eq_none_iff.mpr isFree
    rw [find?] at absent
    rw [if_pos isKey, isKey, absent, Option.none_or, if_pos (decide_eq_true rfl)]
  · rw [if_neg isKey, if_neg (by simpa using Ne.symm isKey), Option.or_none]
    rfl

theorem find?_of_insertAll? {table grown : Table ρ key} {rows : List ρ}
    (added : table.insertAll? rows = some grown) (wanted : κ) :
    grown.find? wanted = (table.find? wanted).or (rows.find? fun row => key row = wanted) := by
  rw [find?, rows_of_insertAll? added, List.find?_append]
  rfl

theorem find?_deleteWhere (table : Table ρ key) (condition : ρ → Bool) (wanted : κ) :
    (table.deleteWhere condition).find? wanted =
      (table.find? wanted).filter fun row => !condition row := by
  ext row
  rw [find?_eq_some_iff, rows_deleteWhere, List.mem_filter, Option.filter_eq_some_iff,
    find?_eq_some_iff]
  tauto

section Selections

omit [DecidableEq κ]

variable (table : Table ρ key) {selects condition : ρ → Bool} {change : ρ → ρ}
  (keeps : ∀ row, key (change row) = key row)

theorem filter_updateWhere (stays : ∀ row, selects (change row) = selects row) :
    (table.updateWhere condition change keeps).rows.filter selects =
      (table.rows.filter selects).map fun row => if condition row then change row else row := by
  have same : selects ∘ (fun row => if condition row then change row else row) = selects := by
    funext row
    by_cases holds : condition row <;> simp [holds, stays]
  rw [rows_updateWhere, List.filter_map, same]

theorem filter_updateWhere_of_not (stays : ∀ row, selects (change row) = selects row)
    (outside : ∀ row ∈ table.rows, condition row = true → selects row = false) :
    (table.updateWhere condition change keeps).rows.filter selects = table.rows.filter selects := by
  rw [filter_updateWhere table keeps stays]
  conv_rhs => rw [← List.map_id (table.rows.filter selects)]
  apply List.map_congr_left
  intro row member
  obtain ⟨isRow, isSelected⟩ := List.mem_filter.mp member
  rw [if_neg, id_eq]
  intro holds
  rw [outside row isRow holds] at isSelected
  contradiction

end Selections

/-! ## Sums over a table

What an upsert and a change of the one row under a key do to a sum over all rows.
-/

theorem sum_updateWhere_key (table : Table ρ key) {old : ρ} {wanted : κ}
    (found : table.find? wanted = some old) (change : ρ → ρ)
    (keeps : ∀ row, key (change row) = key row) (weight : ρ → Nat) (more : Nat)
    (grows : weight (change old) = weight old + more) :
    ((table.updateWhere (fun row => key row = wanted) change keeps).rows.map weight).sum =
      (table.rows.map weight).sum + more := by
  obtain ⟨member, isKey⟩ := find?_eq_some_iff.mp found
  obtain ⟨before, after, isSplit⟩ := List.append_of_mem member
  have distinct := table.nodup
  rw [isSplit, List.map_append, List.map_cons, List.nodup_append, List.nodup_cons] at distinct
  obtain ⟨_, ⟨notAfter, _⟩, apart⟩ := distinct
  have unchanged (rows : List ρ) (others : ∀ row ∈ rows, key row ≠ wanted) :
      (rows.map fun row => if decide (key row = wanted) = true then change row else row) = rows := by
    refine (List.map_congr_left fun row isRow => ?_).trans (List.map_id rows)
    rw [if_neg (by simpa using others row isRow)]
    rfl
  have othersBefore : ∀ row ∈ before, key row ≠ wanted := fun row isRow same =>
    apart (key row) (List.mem_map_of_mem isRow) (key old) List.mem_cons_self (same.trans isKey.symm)
  have othersAfter : ∀ row ∈ after, key row ≠ wanted := fun row isRow same =>
    notAfter (isKey.trans same.symm ▸ List.mem_map_of_mem isRow)
  rw [rows_updateWhere, isSplit, List.map_append, List.map_cons, unchanged before othersBefore,
    unchanged after othersAfter, if_pos (decide_eq_true isKey), List.map_append, List.map_cons,
    List.map_append, List.map_cons, List.sum_append, List.sum_append, List.sum_cons, List.sum_cons,
    grows]
  omega

theorem sum_upsert (table : Table ρ key) (row : ρ) (change : ρ → ρ)
    (keeps : ∀ row, key (change row) = key row) (weight : ρ → Nat)
    (grows : ∀ old, key old = key row → weight (change old) = weight old + weight row) :
    ((table.upsert row change keeps).rows.map weight).sum =
      (table.rows.map weight).sum + weight row := by
  rw [upsert]
  rcases found : table.find? (key row) with _ | old
  · rw [rows_insert_of_free found, List.map_append, List.sum_append, List.map_singleton,
      List.sum_singleton]
  · exact table.sum_updateWhere_key found change keeps weight _
      (grows old (find?_eq_some_iff.mp found).2)

end Csms.Table
