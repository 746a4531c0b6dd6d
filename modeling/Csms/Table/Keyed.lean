import Mathlib.Data.List.Nodup

/-!
# Tables with a unique key

A table is a list of rows whose keys are pairwise different, so a state with two
rows under one key cannot be built.  Its operations are those of a database
client: look a row up by key, insert unless the key is taken, update the rows
that satisfy a condition without touching keys, delete the rows that satisfy one.
-/

namespace Csms

universe u v w

/-- Rows under pairwise different keys, in the order they were inserted. -/
structure Table (ρ : Type u) {κ : Type v} (key : ρ → κ) where
  rows : List ρ
  nodup : (rows.map key).Nodup

namespace Table

variable {ρ : Type u} {κ : Type v} {key : ρ → κ}

@[ext]
theorem ext {left right : Table ρ key} (rowsEq : left.rows = right.rows) : left = right := by
  cases left
  cases right
  simp_all

/-- The table without rows. -/
def empty : Table ρ key where
  rows := []
  nodup := List.nodup_nil

@[simp]
theorem rows_empty : (empty : Table ρ key).rows = [] :=
  rfl

theorem eq_of_key_eq (table : Table ρ key) {first second : ρ}
    (firstMem : first ∈ table.rows) (secondMem : second ∈ table.rows)
    (keyEq : key first = key second) : first = second :=
  List.inj_on_of_nodup_map table.nodup firstMem secondMem keyEq

variable {row : ρ}

theorem filter_key_eq [DecidableEq κ] (table : Table ρ key) (member : row ∈ table.rows) :
    table.rows.filter (fun other => key other = key row) = [row] := by
  obtain ⟨before, after, split⟩ := List.append_of_mem member
  have nodup := table.nodup
  rw [split, List.map_append, List.map_cons, List.nodup_append] at nodup
  obtain ⟨-, afterNodup, apart⟩ := nodup
  have noneBefore : before.filter (fun other => key other = key row) = [] := by
    rw [List.filter_eq_nil_iff]
    intro other otherMem equal
    exact apart (key other) (List.mem_map_of_mem otherMem) (key row) List.mem_cons_self
      (of_decide_eq_true equal)
  have noneAfter : after.filter (fun other => key other = key row) = [] := by
    rw [List.filter_eq_nil_iff]
    intro other otherMem equal
    have absent := (List.nodup_cons.mp afterNodup).1
    exact absent ((of_decide_eq_true equal) ▸ List.mem_map_of_mem otherMem)
  rw [split, List.filter_append, noneBefore, List.filter_cons_of_pos (by simp), noneAfter]
  rfl

/-- Of what is made of the rows that satisfy a condition, a row's own key selects
what was made of that row. -/
theorem filter_made_key_eq [DecidableEq κ] {β : Type w} (table : Table ρ key)
    (member : row ∈ table.rows) (condition : ρ → Bool) (make : ρ → β) (keyOf : β → κ)
    (keyMade : ∀ other, keyOf (make other) = key other) :
    ((table.rows.filter condition).map make).filter (fun made => keyOf made = key row) =
      if condition row then [make row] else [] := by
  have sameFilter : (fun made => decide (keyOf made = key row)) ∘ make =
      fun other => decide (key other = key row) := by
    funext other
    simp [keyMade]
  rw [List.filter_map, sameFilter, List.filter_comm, table.filter_key_eq member]
  cases holds : condition row <;> simp [holds]

/-- Change the rows that satisfy `condition`; the change keeps keys. -/
def updateWhere (table : Table ρ key) (condition : ρ → Bool) (change : ρ → ρ)
    (keeps : ∀ row, key (change row) = key row) : Table ρ key where
  rows := table.rows.map fun row => if condition row then change row else row
  nodup := by
    have keysEq : key ∘ (fun row => if condition row then change row else row) = key := by
      funext row
      by_cases holds : condition row <;> simp [holds, keeps]
    rw [List.map_map, keysEq]
    exact table.nodup

@[simp]
theorem rows_updateWhere (table : Table ρ key) (condition : ρ → Bool) (change : ρ → ρ)
    (keeps : ∀ row, key (change row) = key row) : (table.updateWhere condition change keeps).rows =
      table.rows.map fun row => if condition row then change row else row :=
  rfl

variable {table : Table ρ key}

theorem mem_updateWhere {condition : ρ → Bool} {change : ρ → ρ}
    {keeps : ∀ row, key (change row) = key row} :
    row ∈ (table.updateWhere condition change keeps).rows ↔
      ∃ old ∈ table.rows, (condition old = true ∧ row = change old) ∨
        (condition old = false ∧ row = old) := by
  simp only [rows_updateWhere, List.mem_map]
  constructor
  · rintro ⟨old, member, rfl⟩
    refine ⟨old, member, ?_⟩
    cases holds : condition old <;> simp
  · rintro ⟨old, member, ⟨holds, rfl⟩ | ⟨fails, rfl⟩⟩
    · exact ⟨old, member, by simp [holds]⟩
    · exact ⟨_, member, by simp [fails]⟩

/-- A projection that the change does not touch is the same row by row. -/
theorem map_updateWhere {β : Type w} (table : Table ρ key) (condition : ρ → Bool)
    (change : ρ → ρ) (keeps : ∀ row, key (change row) = key row) (project : ρ → β)
    (untouched : ∀ row, project (change row) = project row) :
    (table.updateWhere condition change keeps).rows.map project = table.rows.map project := by
  rw [rows_updateWhere, List.map_map]
  apply List.map_congr_left
  intro row _
  by_cases holds : condition row <;> simp [holds, untouched]

/-- Drop the rows that satisfy `condition`. -/
def deleteWhere (table : Table ρ key) (condition : ρ → Bool) : Table ρ key where
  rows := table.rows.filter fun row => !condition row
  nodup := List.Sublist.nodup (List.Sublist.map key List.filter_sublist) table.nodup

@[simp]
theorem rows_deleteWhere (table : Table ρ key) (condition : ρ → Bool) :
    (table.deleteWhere condition).rows = table.rows.filter fun row => !condition row :=
  rfl

variable [DecidableEq κ]

def find? (table : Table ρ key) (wanted : κ) : Option ρ :=
  table.rows.find? fun row => key row = wanted

theorem find?_eq_some_iff {wanted : κ} :
    table.find? wanted = some row ↔ row ∈ table.rows ∧ key row = wanted := by
  constructor
  · intro found
    exact ⟨List.mem_of_find?_eq_some found, by simpa using List.find?_some found⟩
  · rintro ⟨member, rfl⟩
    cases found : table.find? (key row) with
    | none =>
      have absent := List.find?_eq_none.mp found row member
      simp at absent
    | some other =>
      have otherMem := List.mem_of_find?_eq_some found
      have otherKey : key other = key row := by simpa using List.find?_some found
      rw [table.eq_of_key_eq otherMem member otherKey]

/-- Add a row, unless its key is taken. -/
def insert? (table : Table ρ key) (row : ρ) : Option (Table ρ key) :=
  if fresh : key row ∈ table.rows.map key then
    none
  else
    some {
      rows := table.rows ++ [row]
      nodup := by
        rw [List.map_append, List.nodup_append]
        refine ⟨table.nodup, by simp, ?_⟩
        intro first firstMem second secondMem equal
        simp only [List.map_cons, List.map_nil, List.mem_singleton] at secondMem
        exact fresh (secondMem ▸ equal ▸ firstMem) }

theorem insert?_eq_some_iff {table grown : Table ρ key} : table.insert? row = some grown ↔
      key row ∉ table.rows.map key ∧ grown.rows = table.rows ++ [row] := by
  unfold insert?
  by_cases taken : key row ∈ table.rows.map key
  · simp [taken]
  · simp only [taken, not_false_eq_true, true_and, dite_false, Option.some.injEq]
    constructor
    · rintro rfl
      rfl
    · intro rowsEq
      exact Table.ext rowsEq.symm

/-- Add a row; nothing happens when its key is taken. -/
def insert (table : Table ρ key) (row : ρ) : Table ρ key :=
  (table.insert? row).getD table

theorem find?_eq_none_iff {wanted : κ} :
    table.find? wanted = none ↔ wanted ∉ table.rows.map key := by
  rw [find?, List.find?_eq_none]
  simp only [decide_eq_true_eq, List.mem_map, not_exists, not_and]

theorem rows_insert_of_free (free : table.find? (key row) = none) :
    (table.insert row).rows = table.rows ++ [row] := by
  rw [insert, insert?, dif_neg (find?_eq_none_iff.mp free)]
  rfl

theorem insert_of_taken {row other : ρ} (taken : table.find? (key row) = some other) :
    table.insert row = table := by
  have isTaken : key row ∈ table.rows.map key := by
    obtain ⟨member, sameKey⟩ := find?_eq_some_iff.mp taken
    exact sameKey ▸ List.mem_map_of_mem member
  rw [insert, insert?, dif_pos isTaken]
  rfl

theorem mem_insert {row other : ρ} (member : other ∈ (table.insert row).rows) :
    other ∈ table.rows ∨ other = row := by
  rcases taken : table.find? (key row) with _ | old
  · rw [rows_insert_of_free taken, List.mem_append, List.mem_singleton] at member
    exact member
  · rw [insert_of_taken taken] at member
    exact Or.inl member

theorem find?_insert (table : Table ρ key) (row : ρ) (wanted : κ) :
    (table.insert row).find? wanted =
      (table.find? wanted).or (if key row = wanted then some row else none) := by
  rcases taken : table.find? (key row) with _ | other
  · rw [find?, rows_insert_of_free taken, List.find?_append]
    by_cases isWanted : key row = wanted <;> simp [find?, isWanted]
  · rw [insert_of_taken taken]
    by_cases isWanted : key row = wanted
    · simp [← isWanted, taken]
    · simp [isWanted]

theorem find?_updateWhere (table : Table ρ key) (condition : ρ → Bool) (change : ρ → ρ)
    (keeps : ∀ row, key (change row) = key row) (wanted : κ) :
    (table.updateWhere condition change keeps).find? wanted =
      (table.find? wanted).map fun row => if condition row then change row else row := by
  have sameKey : (fun row => decide (key row = wanted)) ∘
      (fun row => if condition row then change row else row) =
        fun row => decide (key row = wanted) := by
    funext row
    by_cases holds : condition row <;> simp [holds, keeps]
  rw [find?, rows_updateWhere, List.find?_map, sameKey]
  rfl

/-- Add several rows, unless the key of one is taken. -/
def insertAll? (table : Table ρ key) : List ρ → Option (Table ρ key)
  | [] => some table
  | row :: rows => (table.insert? row).bind fun grown => grown.insertAll? rows

/-- Rows with pairwise different keys that are not taken can be added. -/
theorem exists_insertAll? {rows : List ρ} (distinct : (rows.map key).Nodup)
    (free : ∀ row ∈ rows, key row ∉ table.rows.map key) :
    ∃ grown, table.insertAll? rows = some grown ∧ grown.rows = table.rows ++ rows := by
  induction rows generalizing table with
  | nil => exact ⟨table, rfl, by simp⟩
  | cons row rows ih =>
    rw [List.map_cons, List.nodup_cons] at distinct
    cases inserted : table.insert? row with
    | none =>
      have isFree := free row List.mem_cons_self
      simp [insert?, isFree] at inserted
    | some next =>
      obtain ⟨_, nextRows⟩ := insert?_eq_some_iff.mp inserted
      have stillFree : ∀ other ∈ rows, key other ∉ next.rows.map key := by
        intro other member
        rw [nextRows, List.map_append, List.mem_append, not_or]
        constructor
        · exact free other (List.mem_cons_of_mem _ member)
        · rw [List.map_singleton, List.mem_singleton]
          intro equal
          exact distinct.1 (equal ▸ List.mem_map_of_mem member)
      obtain ⟨grown, added, grownRows⟩ := ih distinct.2 stillFree
      refine ⟨grown, ?_, ?_⟩
      · rw [insertAll?, inserted]
        exact added
      · rw [grownRows, nextRows, List.append_assoc]
        rfl

end Table

section Registers

variable {ι : Type u} {κ : Type v} {ν : Type w} [DecidableEq κ] (key : ι → κ) (value : ι → ν)

/-- Write the value of every entry to the register of its key, in order. -/
def writeAll (registers : κ → ν) (entries : List ι) : κ → ν :=
  entries.foldl (fun written entry => Function.update written (key entry) (value entry)) registers

theorem writeAll_cons (registers : κ → ν) (entry : ι) (entries : List ι) :
    writeAll key value registers (entry :: entries) =
      writeAll key value (Function.update registers (key entry) (value entry)) entries :=
  rfl

/-- A register that no entry is for keeps its value. -/
theorem writeAll_of_not_mem {entries : List ι} {register : κ}
    (absent : register ∉ entries.map key) (registers : κ → ν) :
    writeAll key value registers entries register = registers register := by
  induction entries generalizing registers with
  | nil => rfl
  | cons entry entries ih =>
    rw [List.map_cons, List.mem_cons, not_or] at absent
    rw [writeAll_cons, ih absent.2, Function.update_of_ne absent.1]

/-- Where the keys differ, each register ends up with the value of its entry. -/
theorem writeAll_of_mem {entries : List ι} (distinct : (entries.map key).Nodup) {entry : ι}
    (member : entry ∈ entries) (registers : κ → ν) :
    writeAll key value registers entries (key entry) = value entry := by
  induction entries generalizing registers with
  | nil => simp at member
  | cons first entries ih =>
    rw [List.map_cons, List.nodup_cons] at distinct
    rw [writeAll_cons]
    rcases List.mem_cons.mp member with rfl | later
    · rw [writeAll_of_not_mem key value distinct.1, Function.update_self]
    · exact ih distinct.2 later _

end Registers

end Csms
