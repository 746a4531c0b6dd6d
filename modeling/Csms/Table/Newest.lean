import Mathlib.Data.List.MinMax
import Mathlib.Data.List.Sort

/-!
# The newest entries of a log

Entries of a log carry a time, and several can be newest.  A value that is
cached outside the log is right when some newest entry carries it; this file
says when appending an entry keeps it right, with and without the cached value
being replaced by the new entry's.
-/

namespace Csms

universe u v

variable {ρ : Type u} {τ : Type v} [LinearOrder τ] {time : ρ → τ} {property : ρ → Prop}

/-- No entry of the log is newer. -/
structure IsNewest (time : ρ → τ) (entries : List ρ) (entry : ρ) : Prop where
  mem : entry ∈ entries
  newest : ∀ other ∈ entries, time other ≤ time entry

/-- A newest entry, the first of them. -/
def newestOf (time : ρ → τ) (entries : List ρ) : Option ρ :=
  entries.argmax time

/-- An oldest entry, the first of them. -/
def oldestOf (time : ρ → τ) (entries : List ρ) : Option ρ :=
  entries.argmin time

variable {entries : List ρ}

@[simp]
theorem newestOf_eq_none_iff : newestOf time entries = none ↔ entries = [] :=
  List.argmax_eq_none

variable {entry : ρ}

theorem mem_of_newestOf (found : newestOf time entries = some entry) : entry ∈ entries :=
  List.argmax_mem (Option.mem_def.mpr found)

theorem mem_of_oldestOf (found : oldestOf time entries = some entry) : entry ∈ entries :=
  List.argmin_mem (Option.mem_def.mpr found)

def NewestHas (time : ρ → τ) (property : ρ → Prop) (entries : List ρ) : Prop :=
  entries ≠ [] → ∃ entry, IsNewest time entries entry ∧ property entry

instance [DecidablePred property] (entries : List ρ) :
    Decidable (NewestHas time property entries) :=
  decidable_of_iff
    (entries ≠ [] → ∃ entry ∈ entries,
      (∀ other ∈ entries, time other ≤ time entry) ∧ property entry)
    (forall_congr' fun _ => exists_congr fun _ =>
      ⟨fun ⟨member, isMax, holds⟩ => ⟨⟨member, isMax⟩, holds⟩,
        fun ⟨isNewest, holds⟩ => ⟨isNewest.mem, isNewest.newest, holds⟩⟩)

/-- The first entry of a log sorted from new to old is a newest one. -/
theorem isNewest_of_head?_insertionSort
    (first : (entries.insertionSort fun left right => time right ≤ time left).head? = some entry) :
    IsNewest time entries entry := by
  have total : Std.Total fun left right : ρ => time right ≤ time left :=
    ⟨fun left right => le_total (time right) (time left)⟩
  have trans : IsTrans ρ fun left right : ρ => time right ≤ time left :=
    ⟨fun _ _ _ leftMiddle middleRight => middleRight.trans leftMiddle⟩
  have sorted := List.pairwise_insertionSort
    (fun left right : ρ => time right ≤ time left) entries
  have perm := List.perm_insertionSort (fun left right : ρ => time right ≤ time left) entries
  cases ordered : entries.insertionSort fun left right : ρ => time right ≤ time left with
  | nil =>
    rw [ordered] at first
    contradiction
  | cons head rest =>
    rw [ordered] at first sorted perm
    cases first
    constructor
    · exact perm.mem_iff.mp List.mem_cons_self
    · intro other otherMem
      rcases List.mem_cons.mp (perm.mem_iff.mpr otherMem) with rfl | inRest
      · exact le_rfl
      · exact List.rel_of_pairwise_cons sorted inRest

theorem exists_isNewest_append_iff :
    (∃ newest, IsNewest time (entries ++ [entry]) newest ∧ property newest) ↔
      (property entry ∧ ∀ other ∈ entries, time other ≤ time entry) ∨
        ∃ newest, IsNewest time entries newest ∧ time entry ≤ time newest ∧ property newest := by
  constructor
  · rintro ⟨newest, ⟨member, isMax⟩, holds⟩
    rcases List.mem_append.mp member with old | new
    · refine Or.inr ⟨newest, ⟨old, ?_⟩, isMax entry (by simp), holds⟩
      intro other otherMem
      exact isMax other (List.mem_append_left _ otherMem)
    · cases List.mem_singleton.mp new
      refine Or.inl ⟨holds, ?_⟩
      intro other otherMem
      exact isMax other (List.mem_append_left _ otherMem)
  · rintro (⟨holds, isMax⟩ | ⟨newest, ⟨member, isMax⟩, entryLe, holds⟩)
    · refine ⟨entry, ⟨by simp, ?_⟩, holds⟩
      intro other otherMem
      rcases List.mem_append.mp otherMem with old | new
      · exact isMax other old
      · cases List.mem_singleton.mp new
        exact le_rfl
    · refine ⟨newest, ⟨List.mem_append_left _ member, ?_⟩, holds⟩
      intro other otherMem
      rcases List.mem_append.mp otherMem with old | new
      · exact isMax other old
      · cases List.mem_singleton.mp new
        exact entryLe

theorem newestHas_append_iff_of_replaced (property : ρ → Prop) (replaced : property entry) :
    NewestHas time property (entries ++ [entry]) ↔ (∀ other ∈ entries, time other ≤ time entry) ∨
        ∃ newest, IsNewest time entries newest ∧ time entry ≤ time newest ∧ property newest := by
  have nonempty : entries ++ [entry] ≠ [] := by simp
  rw [NewestHas, forall_prop_of_true nonempty, exists_isNewest_append_iff]
  simp only [replaced, true_and]

/-- The cached value is kept: it stays right when the entry is not newer than
all others, or has the property as well. -/
theorem newestHas_append_iff_of_kept (before : NewestHas time property entries) :
    NewestHas time property (entries ++ [entry]) ↔
      (∃ other ∈ entries, time entry ≤ time other) ∨ property entry := by
  have nonempty : entries ++ [entry] ≠ [] := by simp
  rw [NewestHas, forall_prop_of_true nonempty, exists_isNewest_append_iff]
  constructor
  · rintro (⟨holds, -⟩ | ⟨newest, isNewest, entryLe, -⟩)
    · exact Or.inr holds
    · exact Or.inl ⟨newest, isNewest.mem, entryLe⟩
  · intro kept
    by_cases newer : ∃ other ∈ entries, time entry ≤ time other
    · obtain ⟨other, otherMem, entryLe⟩ := newer
      obtain ⟨newest, isNewest, holds⟩ := before (List.ne_nil_of_mem otherMem)
      exact Or.inr ⟨newest, isNewest, entryLe.trans (isNewest.newest other otherMem), holds⟩
    · have holds := kept.resolve_left newer
      refine Or.inl ⟨holds, ?_⟩
      intro other otherMem
      exact le_of_not_ge fun entryLe => newer ⟨other, otherMem, entryLe⟩

end Csms
