import Mathlib.Data.List.Basic

/-!
# One marked row a class

Rows of a table fall into classes, and some of them are marked.  This file is
about lists of rows with at most one marked row in each class, rows with one key
counting as one row: which row can be added, and what updates keep the law.
-/

namespace Csms

universe u v w

variable {ρ : Type u} {κ : Type v} {γ : Type w}

def MarkedOnce (key : ρ → κ) (marked : ρ → Bool) (classOf : ρ → γ) (rows : List ρ) : Prop :=
  ∀ first ∈ rows, ∀ second ∈ rows, marked first = true → marked second = true →
    classOf first = classOf second → key first = key second

instance [DecidableEq κ] [DecidableEq γ] (key : ρ → κ) (marked : ρ → Bool) (classOf : ρ → γ)
    (rows : List ρ) : Decidable (MarkedOnce key marked classOf rows) :=
  inferInstanceAs (Decidable (∀ first ∈ rows, ∀ second ∈ rows, marked first = true →
    marked second = true → classOf first = classOf second → key first = key second))

variable {key : ρ → κ} {marked : ρ → Bool} {classOf : ρ → γ} {rows : List ρ}

theorem MarkedOnce.subset {fewer : List ρ} (once : MarkedOnce key marked classOf rows)
    (included : fewer ⊆ rows) : MarkedOnce key marked classOf fewer := by
  intro first firstMem second secondMem
  exact once first (included firstMem) second (included secondMem)

theorem markedOnce_append_singleton_iff (once : MarkedOnce key marked classOf rows) (row : ρ) :
    MarkedOnce key marked classOf (rows ++ [row]) ↔
      (marked row = true → ∀ other ∈ rows, marked other = true →
        classOf other = classOf row → key other = key row) := by
  constructor
  · intro grown isMarked other member otherMarked sameClass
    exact grown other (List.mem_append_left _ member) row
      (List.mem_append_right _ (List.mem_singleton_self row)) otherMarked isMarked sameClass
  · intro alone first firstMem second secondMem firstMarked secondMarked sameClass
    rcases List.mem_append.mp firstMem with firstOld | firstNew
    · rcases List.mem_append.mp secondMem with secondOld | secondNew
      · exact once first firstOld second secondOld firstMarked secondMarked sameClass
      · obtain rfl := List.mem_singleton.mp secondNew
        exact alone secondMarked first firstOld firstMarked sameClass
    · obtain rfl := List.mem_singleton.mp firstNew
      rcases List.mem_append.mp secondMem with secondOld | secondNew
      · exact (alone firstMarked second secondOld secondMarked sameClass.symm).symm
      · obtain rfl := List.mem_singleton.mp secondNew
        rfl

section Update

variable {change : ρ → ρ} (keepsKey : ∀ row, key (change row) = key row)
  (keepsClass : ∀ row, classOf (change row) = classOf row)
include keepsKey keepsClass

theorem MarkedOnce.map_of_unmarks (once : MarkedOnce key marked classOf rows)
    (unmarks : ∀ row ∈ rows, marked (change row) = true → marked row = true) :
    MarkedOnce key marked classOf (rows.map change) := by
  intro first firstMem second secondMem firstMarked secondMarked sameClass
  obtain ⟨firstOld, firstOldMem, rfl⟩ := List.mem_map.mp firstMem
  obtain ⟨secondOld, secondOldMem, rfl⟩ := List.mem_map.mp secondMem
  rw [keepsKey, keepsKey]
  rw [keepsClass, keepsClass] at sameClass
  exact once firstOld firstOldMem secondOld secondOldMem
    (unmarks firstOld firstOldMem firstMarked) (unmarks secondOld secondOldMem secondMarked)
    sameClass

/-- An update that may mark the rows under one key and leaves no other row of
their class marked keeps the law, whether or not it held within that class. -/
theorem markedOnce_map_of_promotes (target : κ) (targetClass : γ)
    (inClass : ∀ row ∈ rows, key row = target → classOf row = targetClass)
    (others : ∀ row ∈ rows, marked (change row) = true → key row ≠ target →
      marked row = true ∧ classOf row ≠ targetClass)
    (once : ∀ first ∈ rows, ∀ second ∈ rows, key first ≠ target → key second ≠ target →
      marked first = true → marked second = true → classOf first = classOf second →
        key first = key second) : MarkedOnce key marked classOf (rows.map change) := by
  intro first firstMem second secondMem firstMarked secondMarked sameClass
  obtain ⟨firstOld, firstOldMem, rfl⟩ := List.mem_map.mp firstMem
  obtain ⟨secondOld, secondOldMem, rfl⟩ := List.mem_map.mp secondMem
  rw [keepsKey, keepsKey]
  rw [keepsClass, keepsClass] at sameClass
  by_cases firstTarget : key firstOld = target
  · by_cases secondTarget : key secondOld = target
    · exact firstTarget.trans secondTarget.symm
    · obtain ⟨_, elsewhere⟩ := others secondOld secondOldMem secondMarked secondTarget
      exact absurd (sameClass.symm.trans (inClass firstOld firstOldMem firstTarget)) elsewhere
  · obtain ⟨firstWas, firstElsewhere⟩ := others firstOld firstOldMem firstMarked firstTarget
    by_cases secondTarget : key secondOld = target
    · exact absurd (sameClass.trans (inClass secondOld secondOldMem secondTarget)) firstElsewhere
    · obtain ⟨secondWas, _⟩ := others secondOld secondOldMem secondMarked secondTarget
      exact once firstOld firstOldMem secondOld secondOldMem firstTarget secondTarget firstWas
        secondWas sameClass

end Update

/-- A look-up without an order: it finds some row if there is one. -/
structure FindFirst (ρ : Type u) where
  find : (ρ → Bool) → List ρ → Option ρ
  of_find : ∀ {condition rows row}, find condition rows = some row →
    row ∈ rows ∧ condition row = true
  of_mem : ∀ {condition rows row}, row ∈ rows → condition row = true →
    (find condition rows).isSome = true

namespace FindFirst

/-- The first row in the order of the list. -/
def front : FindFirst ρ where
  find condition rows := rows.find? condition
  of_find found := ⟨List.mem_of_find?_eq_some found, List.find?_some found⟩
  of_mem member holds := List.find?_isSome.mpr ⟨_, member, holds⟩

/-- The last row in the order of the list. -/
def back : FindFirst ρ where
  find condition rows := rows.reverse.find? condition
  of_find found :=
    ⟨List.mem_reverse.mp (List.mem_of_find?_eq_some found), List.find?_some found⟩
  of_mem member holds := List.find?_isSome.mpr ⟨_, List.mem_reverse.mpr member, holds⟩

variable {condition : ρ → Bool} {row : ρ}

theorem find_eq_some_of_unique (lookUp : FindFirst ρ) (member : row ∈ rows)
    (holds : condition row = true) (unique : ∀ other ∈ rows, condition other = true → other = row) :
    lookUp.find condition rows = some row := by
  obtain ⟨found, isFound⟩ := Option.isSome_iff_exists.mp (lookUp.of_mem member holds)
  obtain ⟨isRow, isHeld⟩ := lookUp.of_find isFound
  rw [isFound, unique found isRow isHeld]

/-- All look-ups find the same where at most one row meets the condition. -/
theorem find_eq_find_of_unique (first second : FindFirst ρ)
    (unique : ∀ row ∈ rows, ∀ other ∈ rows, condition row = true → condition other = true →
      row = other) : first.find condition rows = second.find condition rows := by
  rcases isFirst : first.find condition rows with _ | row
  · rcases isSecond : second.find condition rows with _ | row
    · rfl
    · obtain ⟨member, holds⟩ := second.of_find isSecond
      have isSome := first.of_mem member holds
      simp [isFirst] at isSome
  · obtain ⟨member, holds⟩ := first.of_find isFirst
    exact (second.find_eq_some_of_unique member holds fun other isOther otherHolds =>
      unique other isOther row member otherHolds holds).symm

end FindFirst

end Csms
