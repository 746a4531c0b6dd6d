import Csms.Geography.Zones
import Csms.Transition.Run
import Mathlib.Data.List.Perm.Subperm

/-!
# The tree of zones

Whatever the operations do, the zones form a tree whose roots are continents.  That the types
fit along its edges and that active zones hang under active ones is kept by an operation exactly
when it meets a condition that the code does not check.
-/

namespace Csms.Geography

open Transition Relation

section Store

variable (zones : Zones)

def IsParent (child parent : ZoneId) : Prop :=
  parentOf zones child = some parent

structure IsTree : Prop where
  parents_exist : ∀ child parent, IsParent zones child parent →
    ∃ zone ∈ zones.rows, zone.id = parent
  acyclic : Acyclic (IsParent zones)
  roots : ∀ zone ∈ zones.rows, zone.parentId = none → zone.type = .continent

structure WellFormed : Prop extends IsTree zones where
  types : ∀ child ∈ zones.rows, ∀ parent ∈ zones.rows, child.parentId = some parent.id →
    child.type ∈ allowedChildrenByType parent.type
  ancestors_active : ∀ zone ∈ zones.rows, zone.isActive = true → ∀ ancestor ∈ zones.rows,
    TransGen (IsParent zones) zone.id ancestor.id → ancestor.isActive = true

end Store

/-- A child that its parent allows. -/
structure Fits (parent child : Zone) : Prop where
  type : child.type ∈ allowedChildrenByType parent.type
  active : child.isActive = true → parent.isActive = true

instance (parent child : Zone) : Decidable (Fits parent child) :=
  decidable_of_iff (child.type ∈ allowedChildrenByType parent.type ∧
    (child.isActive = true → parent.isActive = true))
    ⟨fun both => ⟨both.1, both.2⟩, fun fits => ⟨fits.type, fits.active⟩⟩

variable {zones after : Zones}

theorem isParent_of_mem {child : Zone} (member : child ∈ zones.rows) {parent : ZoneId} :
    IsParent zones child.id parent ↔ child.parentId = some parent := by
  have found : zones.find? child.id = some child := Table.find?_eq_some_iff.mpr ⟨member, rfl⟩
  rw [IsParent, parentOf, found]
  rfl

theorem exists_of_isParent {child parent : ZoneId} (isParent : IsParent zones child parent) :
    ∃ row ∈ zones.rows, row.id = child ∧ row.parentId = some parent := by
  obtain ⟨row, found, parentEq⟩ := Option.bind_eq_some_iff.mp isParent
  obtain ⟨member, rfl⟩ := Table.find?_eq_some_iff.mp found
  exact ⟨row, member, rfl, parentEq⟩

/-- Activity passes up the tree when it passes from child to parent. -/
theorem ancestor_active
    (fits : ∀ child ∈ zones.rows, ∀ parent ∈ zones.rows, child.parentId = some parent.id →
      child.isActive = true → parent.isActive = true)
    {child : Zone} (member : child ∈ zones.rows) (active : child.isActive = true)
    {ancestor : ZoneId} (path : TransGen (IsParent zones) child.id ancestor) :
    ∀ row ∈ zones.rows, row.id = ancestor → row.isActive = true := by
  induction path with
  | single isParent =>
    rintro row rowMem rfl
    exact fits child member row rowMem ((isParent_of_mem member).mp isParent) active
  | tail _ isParent ih =>
    rintro row rowMem rfl
    obtain ⟨middle, middleMem, rfl, parentEq⟩ := exists_of_isParent isParent
    exact fits middle middleMem row rowMem parentEq (ih middle middleMem rfl)

theorem wellFormed_iff : WellFormed zones ↔ IsTree zones ∧
    ∀ child ∈ zones.rows, ∀ parent ∈ zones.rows, child.parentId = some parent.id →
      Fits parent child := by
  constructor
  · intro wellFormed
    refine ⟨wellFormed.toIsTree, ?_⟩
    intro child childMem parent parentMem parentEq
    refine ⟨wellFormed.types child childMem parent parentMem parentEq, ?_⟩
    intro active
    exact wellFormed.ancestors_active child childMem active parent parentMem
      (.single ((isParent_of_mem childMem).mpr parentEq))
  · rintro ⟨tree, fits⟩
    refine ⟨tree, ?_, ?_⟩
    · intro child childMem parent parentMem parentEq
      exact (fits child childMem parent parentMem parentEq).type
    · intro zone member active ancestor ancestorMem path
      exact ancestor_active
        (fun child childMem parent parentMem parentEq =>
          (fits child childMem parent parentMem parentEq).active)
        member active path ancestor ancestorMem rfl

def ZoneType.depth : ZoneType → Nat
  | continent => 0
  | subRegion => 1
  | country => 2
  | adm1 => 3
  | adm2 => 4
  | adm3 => 5
  | city => 6
  | postalZone => 7

theorem depth_lt_of_allowed {child parent : ZoneType}
    (allowed : child ∈ allowedChildrenByType parent) : parent.depth < child.depth := by
  revert allowed
  cases parent <;> cases child <;> decide

/-- A root is a continent, and any other zone is there under its parent and fits. -/
def IsPlaced (zones : Zones) (zone : Zone) : Prop :=
  match zone.parentId with
  | none => zone.type = .continent
  | some parentId => ∃ parent ∈ zones.rows, parent.id = parentId ∧ Fits parent zone

instance (zones : Zones) (zone : Zone) : Decidable (IsPlaced zones zone) :=
  match parentEq : zone.parentId with
  | none => decidable_of_iff (zone.type = .continent) (by rw [IsPlaced, parentEq])
  | some parentId =>
    decidable_of_iff (∃ parent ∈ zones.rows, parent.id = parentId ∧ Fits parent zone)
      (by rw [IsPlaced, parentEq])

/-- Where all types fit no zone is above itself, as types go up with every edge. -/
theorem wellFormed_of_isPlaced (placed : ∀ zone ∈ zones.rows, IsPlaced zones zone) :
    WellFormed zones := by
  have isPlaced {child : Zone} (member : child ∈ zones.rows) {parentId : ZoneId}
      (parentEq : child.parentId = some parentId) :
      ∃ parent ∈ zones.rows, parent.id = parentId ∧ Fits parent child := by
    have here := placed child member
    rwa [IsPlaced, parentEq] at here
  rw [wellFormed_iff]
  refine ⟨⟨?_, ?_, ?_⟩, ?_⟩
  · intro child parent isParent
    obtain ⟨row, member, rfl, parentEq⟩ := exists_of_isParent isParent
    obtain ⟨above, aboveMem, sameId, _⟩ := isPlaced member parentEq
    exact ⟨above, aboveMem, sameId⟩
  · refine acyclic_of_rank (fun id => (zones.find? id).elim 0 fun zone => zone.type.depth) ?_
    intro child parent isParent
    obtain ⟨row, member, rfl, parentEq⟩ := exists_of_isParent isParent
    obtain ⟨above, aboveMem, rfl, fits⟩ := isPlaced member parentEq
    have foundRow : zones.find? row.id = some row := Table.find?_eq_some_iff.mpr ⟨member, rfl⟩
    have foundAbove : zones.find? above.id = some above :=
      Table.find?_eq_some_iff.mpr ⟨aboveMem, rfl⟩
    simp only [foundRow, foundAbove, Option.elim_some]
    exact depth_lt_of_allowed fits.type
  · intro zone member isRoot
    have here := placed zone member
    rwa [IsPlaced, isRoot] at here
  · intro child childMem parent parentMem parentEq
    obtain ⟨above, aboveMem, sameId, fits⟩ := isPlaced childMem parentEq
    rwa [zones.eq_of_key_eq parentMem aboveMem sameId.symm]

/-- A walk that ends elsewhere has not left the zone below it. -/
theorem not_reaches_of_meetsZone {zoneId : ZoneId} {fuel : Nat} {start : ZoneId}
    (walk : meetsZone zones zoneId fuel (some start) = some false) :
    ¬ReflTransGen (IsParent zones) start zoneId := by
  induction fuel generalizing start with
  | zero => cases walk
  | succ fuel ih =>
    rw [meetsZone] at walk
    split at walk
    · cases walk
    · rename_i differs
      intro path
      rcases path.cases_head with same | ⟨next, isParent, rest⟩
      · exact differs same
      · rw [IsParent] at isParent
        rw [isParent] at walk
        exact ih walk rest

/-- A walk that has not ended yet has come through that many zones. -/
theorem exists_path_of_meetsZone {zoneId : ZoneId} {fuel : Nat} {start : ZoneId}
    (walk : meetsZone zones zoneId fuel (some start) = none) :
    ∃ path : List ZoneId, path.length = fuel ∧ (∀ id ∈ path, id ∈ zones.rows.map Zone.id) ∧
      ∃ last, (path ++ [last]).IsChain (IsParent zones) ∧ (path ++ [last]).head? = some start := by
  induction fuel generalizing start with
  | zero => exact ⟨[], rfl, by simp, start, by simp, rfl⟩
  | succ fuel ih =>
    rw [meetsZone] at walk
    split at walk
    · cases walk
    · cases isParent : parentOf zones start with
      | none =>
        rw [isParent] at walk
        cases fuel <;> cases walk
      | some next =>
        rw [isParent] at walk
        obtain ⟨path, length, known, last, chain, head⟩ := ih walk
        obtain ⟨row, member, rfl, _⟩ := exists_of_isParent isParent
        refine ⟨row.id :: path, by simp [length], ?_, last, ?_, rfl⟩
        · intro id idMem
          rcases List.mem_cons.mp idMem with rfl | later
          · exact List.mem_map_of_mem member
          · exact known id later
        · rw [List.cons_append, List.isChain_cons]
          refine ⟨?_, chain⟩
          intro second isHead
          rw [head] at isHead
          cases isHead
          exact isParent

/-- In a tree the walk comes to an end within as many zones as there are. -/
theorem meetsZone_answers (tree : IsTree zones) (zoneId start : ZoneId) :
    meetsZone zones zoneId (zones.rows.length + 1) (some start) ≠ none := by
  intro walk
  obtain ⟨path, length, known, last, chain, _⟩ := exists_path_of_meetsZone walk
  have distinct : path.Nodup := (tree.acyclic.nodup chain).sublist (List.sublist_append_left _ _)
  have short : path.length ≤ (zones.rows.map Zone.id).length :=
    (distinct.subperm known).length_le
  rw [length, List.length_map] at short
  omega

theorem assertNoCircularParent_answers (tree : IsTree zones) (zoneId start : ZoneId) :
    assertNoCircularParent zones zoneId start ≠ .error .neverAnswers := by
  have answers := meetsZone_answers tree zoneId start
  unfold assertNoCircularParent
  split <;> simp_all

def Places (zone : Zone) (zones after : Zones) : Prop :=
  ∀ wanted, after.find? wanted = if wanted = zone.id then some zone else zones.find? wanted

section Placed

variable {zone : Zone} (places : Places zone zones after)
include places

theorem Places.mem_iff {row : Zone} :
    row ∈ after.rows ↔ row = zone ∨ row.id ≠ zone.id ∧ row ∈ zones.rows := by
  have found : row ∈ after.rows ↔ after.find? row.id = some row := by
    simp [Table.find?_eq_some_iff]
  rw [found, places row.id]
  by_cases same : row.id = zone.id
  · simp only [same, if_true, Option.some.injEq, ne_eq, not_true_eq_false, false_and, or_false]
    exact eq_comm
  · have differs : row ≠ zone := fun rowEq => same (congrArg Zone.id rowEq)
    simp [same, differs, Table.find?_eq_some_iff]

theorem Places.isParent_iff {child parent : ZoneId} : IsParent after child parent ↔
      child = zone.id ∧ zone.parentId = some parent ∨
        child ≠ zone.id ∧ IsParent zones child parent := by
  rw [IsParent, parentOf, places child]
  by_cases same : child = zone.id <;> simp [same, IsParent, parentOf]

theorem Places.isTree (tree : IsTree zones) (root : zone.parentId = none → zone.type = .continent)
    (parent_exists : ∀ parent, zone.parentId = some parent → ∃ row ∈ zones.rows, row.id = parent)
    (apart : ∀ parent, zone.parentId = some parent →
      ¬ReflTransGen (IsParent zones) parent zone.id) : IsTree after := by
  have still {parent : ZoneId} (old : ∃ row ∈ zones.rows, row.id = parent) :
      ∃ row ∈ after.rows, row.id = parent := by
    obtain ⟨row, member, rfl⟩ := old
    by_cases same : row.id = zone.id
    · exact ⟨zone, places.mem_iff.mpr (Or.inl rfl), same.symm⟩
    · exact ⟨row, places.mem_iff.mpr (Or.inr ⟨same, member⟩), rfl⟩
  refine ⟨?_, ?_, ?_⟩
  · intro child parent isParent
    rcases places.isParent_iff.mp isParent with ⟨_, parentEq⟩ | ⟨_, old⟩
    · exact still (parent_exists parent parentEq)
    · exact still (tree.parents_exist child parent old)
  · cases parentEq : zone.parentId with
    | none =>
      refine tree.acyclic.mono ?_
      intro child parent isParent
      rcases places.isParent_iff.mp isParent with ⟨_, given⟩ | ⟨_, old⟩
      · simp [parentEq] at given
      · exact old
    | some target =>
      refine tree.acyclic.redirect ?_ (apart target parentEq)
      intro child parent isParent
      rcases places.isParent_iff.mp isParent with ⟨same, given⟩ | old
      · rw [parentEq] at given
        exact Or.inl ⟨same, (Option.some.inj given).symm⟩
      · exact Or.inr old
  · intro row member isRoot
    rcases places.mem_iff.mp member with rfl | ⟨_, old⟩
    · exact root isRoot
    · exact tree.roots row old isRoot

/-- The zone put in place fits under its parent, and its children under it. -/
def FitsInto (zones : Zones) (zone : Zone) : Prop :=
  (∀ parent ∈ zones.rows, zone.parentId = some parent.id → Fits parent zone) ∧
    ∀ child ∈ zones.rows, child.parentId = some zone.id → Fits zone child

theorem Places.wellFormed_iff (wellFormed : WellFormed zones) (tree : IsTree after) :
    WellFormed after ↔ FitsInto zones zone := by
  have isPlaced : zone ∈ after.rows := places.mem_iff.mpr (Or.inl rfl)
  have oldFits := (Geography.wellFormed_iff.mp wellFormed).2
  have notOwn {row : Zone} (member : row ∈ zones.rows) (parentEq : row.parentId = some zone.id) :
      row.id ≠ zone.id := by
    intro same
    rw [← same] at parentEq
    exact wellFormed.acyclic row.id (.single ((isParent_of_mem member).mpr parentEq))
  have notItsOwn {row : Zone} (parentEq : zone.parentId = some row.id) : row.id ≠ zone.id := by
    intro same
    rw [same] at parentEq
    exact tree.acyclic zone.id (.single ((isParent_of_mem isPlaced).mpr parentEq))
  rw [Geography.wellFormed_iff]
  constructor
  · rintro ⟨_, fits⟩
    refine ⟨?_, ?_⟩
    · intro parent member parentEq
      exact fits zone isPlaced parent
        (places.mem_iff.mpr (Or.inr ⟨notItsOwn parentEq, member⟩)) parentEq
    · intro child member parentEq
      exact fits child (places.mem_iff.mpr (Or.inr ⟨notOwn member parentEq, member⟩)) zone
        isPlaced parentEq
  · rintro ⟨up, down⟩
    refine ⟨tree, ?_⟩
    intro child childMem parent parentMem parentEq
    rcases places.mem_iff.mp childMem with rfl | ⟨_, oldChild⟩
    · rcases places.mem_iff.mp parentMem with rfl | ⟨_, oldParent⟩
      · exact absurd rfl (notItsOwn parentEq)
      · exact up parent oldParent parentEq
    · rcases places.mem_iff.mp parentMem with rfl | ⟨_, oldParent⟩
      · exact down child oldChild parentEq
      · exact oldFits child oldChild parent oldParent parentEq

end Placed

end Csms.Geography
