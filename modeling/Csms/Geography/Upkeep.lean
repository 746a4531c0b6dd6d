import Csms.Geography.Tree
import Csms.Service.Program

/-!
# Upkeep of the zone tree

An update that changes a zone's type does not look at its children, and neither a new parent nor
activation looks at whether the zone above is active.  The operations keep the tree well formed
exactly when these are in order.
-/

namespace Csms.Geography

open Service
open Transition Relation

variable {zones after : Zones} {id : ZoneId}

theorem assertValidHierarchy_none_iff {type : ZoneType} :
    assertValidHierarchy type none = .ok () ↔ type = .continent := by
  unfold assertValidHierarchy
  by_cases isContinent : type = .continent <;> simp [isContinent]

theorem assertValidHierarchy_some_iff {type parentType : ZoneType} :
    assertValidHierarchy type (some parentType) = .ok () ↔
      type ∈ allowedChildrenByType parentType := by
  unfold assertValidHierarchy
  by_cases isAllowed : type ∈ allowedChildrenByType parentType <;> simp [isAllowed]

variable {parentId : Option ZoneId}

theorem findParent_none_iff : findParent zones parentId = .ok none ↔ parentId = none := by
  unfold findParent
  split
  · simp
  · split <;> simp

theorem findParent_some_iff {parent : Zone} : findParent zones parentId = .ok (some parent) ↔
      parent ∈ zones.rows ∧ parentId = some parent.id := by
  unfold findParent
  split
  · simp
  · rename_i wanted
    split
    · rename_i missing
      rw [Table.find?_eq_none_iff] at missing
      simp only [reduceCtorEq, Option.some.injEq, false_iff, not_and]
      rintro member rfl
      exact missing (List.mem_map_of_mem member)
    · rename_i found
      simp only [Except.ok.injEq, Option.some.injEq]
      constructor
      · rintro rfl
        obtain ⟨member, rfl⟩ := Table.find?_eq_some_iff.mp found
        exact ⟨member, rfl⟩
      · rintro ⟨member, rfl⟩
        rw [Table.find?_eq_some_iff.mpr ⟨member, rfl⟩] at found
        exact (Option.some.inj found).symm

/-- The checks of a creation. -/
structure CreatePasses (zones : Zones) (id : ZoneId) (dto : CreateGeographicZoneDto)
    (parent : Option Zone) : Prop where
  parent_found : findParent zones dto.nextParentId = .ok parent
  hierarchy : assertValidHierarchy dto.type (parent.map Zone.type) = .ok ()
  codeFree : isCodeFree zones dto.code id = true
  idFree : zones.find? id = none

theorem createZone_eq_ok_iff {dto : CreateGeographicZoneDto} : createZone zones id dto = .ok after ↔
      ∃ parent, CreatePasses zones id dto parent ∧ after = zones.insert (dto.zone id) := by
  unfold createZone buildCreateZoneData
  simp only [bind_eq_ok_iff, pure, Except.pure, Except.ok.injEq]
  constructor
  · rintro ⟨zone, ⟨parent, parentFound, _, valid, rfl⟩, written⟩
    split at written
    · rename_i free
      rw [Bool.and_eq_true, Option.isNone_iff_eq_none] at free
      exact ⟨parent, ⟨parentFound, valid, free.1, free.2⟩, (Except.ok.inj written).symm⟩
    · cases written
  · rintro ⟨parent, passes, rfl⟩
    refine ⟨dto.zone id, ⟨parent, passes.parent_found, (), passes.hierarchy, rfl⟩, ?_⟩
    have free : isCodeFree zones (dto.zone id).code id = true := passes.codeFree
    simp [free, passes.idFree]

/-- The checks of an update. -/
structure UpdatePasses (zones : Zones) (id : ZoneId) (dto : UpdateGeographicZoneDto) (zone : Zone)
    (parent : Option Zone) : Prop where
  found : zones.find? id = some zone
  notOwn : dto.nextParentId zone ≠ some id
  parent_found : findParent zones (dto.nextParentId zone) = .ok parent
  hierarchy : assertValidHierarchy (dto.nextType zone) (parent.map Zone.type) = .ok ()
  notCircular : ∀ parentId, dto.nextParentId zone = some parentId →
    assertNoCircularParent zones id parentId = .ok ()
  codeFree : ∀ code, dto.code = some code → isCodeFree zones code id = true

variable {zone : Zone}

theorem getZoneById_eq_ok_iff : getZoneById zones id = .ok zone ↔ zones.find? id = some zone := by
  unfold getZoneById
  cases zones.find? id <;> simp

variable {dto : UpdateGeographicZoneDto}

theorem buildUpdateZoneData_eq_ok_iff {data : ZoneUpdate} :
    buildUpdateZoneData zones id dto = .ok data ↔
      ∃ zone, zones.find? id = some zone ∧ dto.nextParentId zone ≠ some id ∧
        (∃ parent, findParent zones (dto.nextParentId zone) = .ok parent ∧
          assertValidHierarchy (dto.nextType zone) (parent.map Zone.type) = .ok ()) ∧
        (∀ parentId, dto.nextParentId zone = some parentId →
          assertNoCircularParent zones id parentId = .ok ()) ∧ data = dto.data := by
  unfold buildUpdateZoneData
  simp only [bind_eq_ok_iff, getZoneById_eq_ok_iff]
  refine exists_congr fun zone => and_congr_right fun _ => ?_
  by_cases own : dto.nextParentId zone = some id
  · simp [own]
  · simp only [own, if_false, bind_eq_ok_iff, pure, Except.pure]
    constructor
    · rintro ⟨parent, parentFound, _, valid, written⟩
      cases nextParent : dto.nextParentId zone with
      | none =>
        rw [nextParent] at written
        refine ⟨nextParent ▸ own, ⟨parent, nextParent ▸ parentFound, valid⟩, by simp, ?_⟩
        exact (Except.ok.inj written).symm
      | some parentId =>
        rw [nextParent] at written
        obtain ⟨_, walked, written⟩ := bind_eq_ok_iff.mp written
        refine ⟨nextParent ▸ own, ⟨parent, nextParent ▸ parentFound, valid⟩, ?_,
          (Except.ok.inj written).symm⟩
        intro _ same
        cases same
        exact walked
    · rintro ⟨_, ⟨parent, parentFound, valid⟩, notCircular, rfl⟩
      refine ⟨parent, parentFound, (), valid, ?_⟩
      cases nextParent : dto.nextParentId zone with
      | none => rfl
      | some parentId => exact bind_eq_ok_iff.mpr ⟨(), notCircular parentId nextParent, rfl⟩

theorem updateZone_eq_ok_iff : updateZone zones id dto = .ok after ↔
      ∃ zone parent, UpdatePasses zones id dto zone parent ∧
        after = setZone zones id dto.data.apply fun _ => rfl := by
  unfold updateZone
  simp only [bind_eq_ok_iff, getZoneById_eq_ok_iff, buildUpdateZoneData_eq_ok_iff]
  constructor
  · rintro ⟨_, _, data, ⟨zone, found, notOwn, ⟨parent, parentFound, valid⟩, notCircular, rfl⟩,
      written⟩
    split at written
    · rename_i free
      have codeFree : ∀ code, dto.code = some code → isCodeFree zones code id = true :=
        (Option.all_eq_true _ _).mp free
      exact ⟨zone, parent, ⟨found, notOwn, parentFound, valid, notCircular, codeFree⟩,
        (Except.ok.inj written).symm⟩
    · cases written
  · rintro ⟨zone, parent, passes, rfl⟩
    have free : dto.data.code.all (fun code => isCodeFree zones code id) = true :=
      (Option.all_eq_true _ _).mpr passes.codeFree
    refine ⟨zone, passes.found, dto.data, ⟨zone, passes.found, passes.notOwn,
      ⟨parent, passes.parent_found, passes.hierarchy⟩, passes.notCircular, rfl⟩, ?_⟩
    rw [if_pos free]

theorem setZoneStatus_eq_ok_iff {isActive : Bool} : setZoneStatus zones id isActive = .ok after ↔
      ∃ zone, zones.find? id = some zone ∧
        (isActive = false → ∀ child ∈ zones.rows, child.parentId = some id →
          child.isActive = false) ∧
        after = setZone zones id (Zone.withStatus isActive) fun _ => rfl := by
  unfold setZoneStatus
  simp only [bind_eq_ok_iff, getZoneById_eq_ok_iff]
  refine exists_congr fun zone => and_congr_right fun found => ?_
  obtain ⟨_, rfl⟩ := Table.find?_eq_some_iff.mp found
  have noneActive : (!isActive && zones.rows.any fun child =>
      child.parentId = some zone.id && child.isActive) = false ↔
        (isActive = false → ∀ child ∈ zones.rows, child.parentId = some zone.id →
          child.isActive = false) := by
    cases isActive <;> simp
  rw [← noneActive]
  cases (!isActive && zones.rows.any fun child =>
    child.parentId = some zone.id && child.isActive) <;> simp [eq_comm]

theorem places_insert (free : zones.find? zone.id = none) :
    Places zone zones (zones.insert zone) := by
  intro wanted
  rw [Table.find?_insert]
  by_cases same : wanted = zone.id
  · subst same
    simp [free]
  · simp [same, Ne.symm same]

theorem places_setZone (found : zones.find? id = some zone) (change : Zone → Zone)
    (keeps : ∀ zone, (change zone).id = zone.id) :
    Places (change zone) zones (setZone zones id change keeps) := by
  obtain ⟨_, rfl⟩ := Table.find?_eq_some_iff.mp found
  intro wanted
  rw [setZone, Table.find?_updateWhere, keeps]
  by_cases same : wanted = zone.id
  · subst same
    simp [found]
  · rw [if_neg same]
    cases other : zones.find? wanted with
    | none => rfl
    | some row =>
      have rowId : row.id ≠ zone.id := (Table.find?_eq_some_iff.mp other).2 ▸ same
      simp [rowId]

theorem parentId_apply (dto : UpdateGeographicZoneDto) (zone : Zone) :
    (dto.data.apply zone).parentId = dto.nextParentId zone := by
  unfold UpdateGeographicZoneDto.nextParentId
  cases given : dto.parentId <;> simp [UpdateGeographicZoneDto.data, ZoneUpdate.apply, given]

variable {parent : Option Zone}

/-- What `assertValidHierarchy` lets through is a root that is a continent or a zone of a type
that its parent allows. -/
theorem placed_of_checks {type : ZoneType} (parentFound : findParent zones parentId = .ok parent)
    (valid : assertValidHierarchy type (parent.map Zone.type) = .ok ()) :
    (parentId = none → type = .continent) ∧
      (∀ parent, parentId = some parent → ∃ row ∈ zones.rows, row.id = parent) ∧
      ∀ row ∈ zones.rows, parentId = some row.id →
        parent = some row ∧ type ∈ allowedChildrenByType row.type := by
  cases parent with
  | none =>
    obtain rfl := findParent_none_iff.mp parentFound
    exact ⟨fun _ => assertValidHierarchy_none_iff.mp valid, by simp, by simp⟩
  | some parent =>
    obtain ⟨member, rfl⟩ := findParent_some_iff.mp parentFound
    refine ⟨by simp, ?_, ?_⟩
    · intro wanted same
      exact ⟨parent, member, Option.some.inj same⟩
    · intro row rowMem same
      obtain rfl := zones.eq_of_key_eq member rowMem (Option.some.inj same)
      exact ⟨rfl, assertValidHierarchy_some_iff.mp valid⟩

/-- No zone becomes active under an inactive one, and no child is left under a type that does
not allow its own. -/
def ZoneOperation.keepsTree (zones : Zones) : ZoneOperation → Prop
  | createZone id dto =>
    ∀ parent, CreatePasses zones id dto (some parent) → parent.isActive = true
  | updateZone id dto =>
    ∀ zone parent, UpdatePasses zones id dto zone parent →
      (∀ child ∈ zones.rows, child.parentId = some id →
        child.type ∈ allowedChildrenByType (dto.nextType zone)) ∧
      (zone.isActive = true → ∀ row, parent = some row → row.isActive = true)
  | setZoneStatus id isActive =>
    isActive = true → ∀ zone, zones.find? id = some zone →
      ∀ parent ∈ zones.rows, zone.parentId = some parent.id → parent.isActive = true

theorem isTree_createZone (tree : IsTree zones) {dto : CreateGeographicZoneDto}
    (passes : CreatePasses zones id dto parent) : IsTree (zones.insert (dto.zone id)) := by
  obtain ⟨root, parentExists, _⟩ := placed_of_checks passes.parent_found passes.hierarchy
  refine (places_insert passes.idFree).isTree tree root parentExists ?_
  intro target parentEq path
  -- Whatever is reached from the parent is there already, and the id of the new zone is not.
  have isKnown : ∃ row ∈ zones.rows, row.id = id := by
    rcases path.cases_tail with rfl | ⟨child, _, isParent⟩
    · exact parentExists id parentEq
    · exact tree.parents_exist child id isParent
  obtain ⟨row, member, sameId⟩ := isKnown
  exact Table.find?_eq_none_iff.mp passes.idFree (sameId ▸ List.mem_map_of_mem member)

theorem wellFormed_createZone_iff (wellFormed : WellFormed zones) {dto : CreateGeographicZoneDto}
    (passes : CreatePasses zones id dto parent) : WellFormed (zones.insert (dto.zone id)) ↔
      ∀ parent, CreatePasses zones id dto (some parent) → parent.isActive = true := by
  have tree := isTree_createZone wellFormed.toIsTree passes
  obtain ⟨_, _, up⟩ := placed_of_checks passes.parent_found passes.hierarchy
  rw [(places_insert passes.idFree).wellFormed_iff wellFormed tree]
  constructor
  · rintro ⟨fits, _⟩ row passesRow
    obtain ⟨member, parentEq⟩ := findParent_some_iff.mp passesRow.parent_found
    exact (fits row member parentEq).active rfl
  · intro active
    refine ⟨?_, ?_⟩
    · intro row member parentEq
      obtain ⟨rfl, type⟩ := up row member parentEq
      exact ⟨type, fun _ => active row passes⟩
    · intro child member parentEq
      obtain ⟨row, rowMem, sameId⟩ :=
        wellFormed.parents_exist child.id id ((isParent_of_mem member).mpr parentEq)
      have absent := Table.find?_eq_none_iff.mp passes.idFree
      exact absurd (sameId ▸ List.mem_map_of_mem rowMem) absent

theorem isTree_updateZone (tree : IsTree zones) (passes : UpdatePasses zones id dto zone parent) :
    IsTree (setZone zones id dto.data.apply fun _ => rfl) := by
  obtain ⟨root, parentExists, _⟩ := placed_of_checks passes.parent_found passes.hierarchy
  rw [← parentId_apply] at root parentExists
  refine (places_setZone passes.found dto.data.apply fun _ => rfl).isTree tree root
    parentExists ?_
  intro target parentEq
  rw [parentId_apply] at parentEq
  have sameId : zone.id = id := (Table.find?_eq_some_iff.mp passes.found).2
  have walk := passes.notCircular target parentEq
  unfold assertNoCircularParent at walk
  split at walk
  · rename_i noMeeting
    rw [show (dto.data.apply zone).id = id from sameId]
    exact not_reaches_of_meetsZone noMeeting
  · cases walk
  · cases walk

theorem wellFormed_updateZone_iff (wellFormed : WellFormed zones)
    (passes : UpdatePasses zones id dto zone parent) :
    WellFormed (setZone zones id dto.data.apply fun _ => rfl) ↔
      (∀ child ∈ zones.rows, child.parentId = some id →
        child.type ∈ allowedChildrenByType (dto.nextType zone)) ∧
      (zone.isActive = true → ∀ row, parent = some row → row.isActive = true) := by
  have tree := isTree_updateZone wellFormed.toIsTree passes
  obtain ⟨_, _, up⟩ := placed_of_checks passes.parent_found passes.hierarchy
  obtain ⟨member, rfl⟩ := Table.find?_eq_some_iff.mp passes.found
  rw [(places_setZone passes.found dto.data.apply fun _ => rfl).wellFormed_iff wellFormed tree]
  unfold FitsInto
  rw [parentId_apply]
  constructor
  · rintro ⟨fitsUp, fitsDown⟩
    refine ⟨fun child childMem parentEq => (fitsDown child childMem parentEq).type, ?_⟩
    rintro active row rfl
    obtain ⟨rowMem, parentEq⟩ := findParent_some_iff.mp passes.parent_found
    exact (fitsUp row rowMem parentEq).active active
  · rintro ⟨types, active⟩
    refine ⟨?_, ?_⟩
    · intro row rowMem parentEq
      obtain ⟨rfl, type⟩ := up row rowMem parentEq
      exact ⟨type, fun isActive => active isActive row rfl⟩
    · intro child childMem parentEq
      refine ⟨types child childMem parentEq, ?_⟩
      intro childActive
      exact ((Geography.wellFormed_iff.mp wellFormed).2 child childMem zone member
        parentEq).active childActive

theorem isTree_setZoneStatus (tree : IsTree zones) (found : zones.find? id = some zone)
    (isActive : Bool) : IsTree (setZone zones id (Zone.withStatus isActive) fun _ => rfl) := by
  obtain ⟨member, rfl⟩ := Table.find?_eq_some_iff.mp found
  refine (places_setZone found (Zone.withStatus isActive) fun _ => rfl).isTree tree (tree.roots zone member) ?_ ?_
  · intro parent parentEq
    exact tree.parents_exist zone.id parent ((isParent_of_mem member).mpr parentEq)
  · intro parent parentEq path
    exact tree.acyclic zone.id (.head' ((isParent_of_mem member).mpr parentEq) path)

theorem wellFormed_setZoneStatus_iff (wellFormed : WellFormed zones)
    (found : zones.find? id = some zone) {isActive : Bool}
    (noneActive : isActive = false → ∀ child ∈ zones.rows, child.parentId = some id → child.isActive = false) :
    WellFormed (setZone zones id (Zone.withStatus isActive) fun _ => rfl) ↔
      (isActive = true → ∀ parent ∈ zones.rows, zone.parentId = some parent.id →
        parent.isActive = true) := by
  have tree := isTree_setZoneStatus wellFormed.toIsTree found isActive
  have fits := (Geography.wellFormed_iff.mp wellFormed).2
  obtain ⟨member, rfl⟩ := Table.find?_eq_some_iff.mp found
  rw [(places_setZone found (Zone.withStatus isActive) fun _ => rfl).wellFormed_iff wellFormed tree]
  constructor
  · rintro ⟨fitsUp, _⟩ active parent parentMem parentEq
    exact (fitsUp parent parentMem parentEq).active active
  · intro parentActive
    refine ⟨?_, ?_⟩
    · intro parent parentMem parentEq
      exact ⟨(fits zone member parent parentMem parentEq).type,
        fun active => parentActive active parent parentMem parentEq⟩
    · intro child childMem parentEq
      refine ⟨(fits child childMem zone member parentEq).type, ?_⟩
      intro childActive
      cases isActive with
      | true => rfl
      | false =>
        have idle := noneActive rfl child childMem parentEq
        simp [childActive] at idle

variable {operation : ZoneOperation}

theorem ZoneOperation.next_of_ok (done : operation.run zones = .ok after) :
    operation.next zones = after := by
  rw [ZoneOperation.next, done]

theorem ZoneOperation.next_of_error {refused : GeographyException}
    (failed : operation.run zones = .error refused) : operation.next zones = zones := by
  rw [ZoneOperation.next, failed]

theorem ZoneOperation.isTree_next (tree : IsTree zones) (operation : ZoneOperation) :
    IsTree (operation.next zones) := by
  cases ran : operation.run zones with
  | error refused => rwa [next_of_error ran]
  | ok after =>
    rw [next_of_ok ran]
    cases operation with
    | createZone id dto =>
      obtain ⟨parent, passes, rfl⟩ := createZone_eq_ok_iff.mp ran
      exact isTree_createZone tree passes
    | updateZone id dto =>
      obtain ⟨zone, parent, passes, rfl⟩ := updateZone_eq_ok_iff.mp ran
      exact isTree_updateZone tree passes
    | setZoneStatus id isActive =>
      obtain ⟨zone, found, _, rfl⟩ := setZoneStatus_eq_ok_iff.mp ran
      exact isTree_setZoneStatus tree found isActive

theorem ZoneOperation.keepsTree_of_error {refused : GeographyException}
    (failed : operation.run zones = .error refused) : operation.keepsTree zones := by
  have notDone (after : Zones) : operation.run zones ≠ .ok after := by
    simp [failed]
  cases operation with
  | createZone id dto =>
    intro parent passes
    exact absurd (createZone_eq_ok_iff.mpr ⟨some parent, passes, rfl⟩) (notDone _)
  | updateZone id dto =>
    intro zone parent passes
    exact absurd (updateZone_eq_ok_iff.mpr ⟨zone, parent, passes, rfl⟩) (notDone _)
  | setZoneStatus id isActive =>
    rintro rfl zone found
    exact absurd (setZoneStatus_eq_ok_iff.mpr ⟨zone, found, by simp, rfl⟩) (notDone _)

theorem ZoneOperation.wellFormed_next_iff (wellFormed : WellFormed zones)
    (operation : ZoneOperation) :
    WellFormed (operation.next zones) ↔ operation.keepsTree zones := by
  cases ran : operation.run zones with
  | error refused =>
    rw [next_of_error ran]
    exact iff_of_true wellFormed (keepsTree_of_error ran)
  | ok after =>
    rw [next_of_ok ran]
    cases operation with
    | createZone id dto =>
      obtain ⟨parent, passes, rfl⟩ := createZone_eq_ok_iff.mp ran
      exact wellFormed_createZone_iff wellFormed passes
    | updateZone id dto =>
      obtain ⟨zone, parent, passes, rfl⟩ := updateZone_eq_ok_iff.mp ran
      rw [wellFormed_updateZone_iff wellFormed passes]
      constructor
      · intro kept zone' parent' passes'
        obtain rfl : zone = zone' := Option.some.inj (passes.found.symm.trans passes'.found)
        obtain rfl : parent = parent' :=
          Except.ok.inj (passes.parent_found.symm.trans passes'.parent_found)
        exact kept
      · intro kept
        exact kept zone parent passes
    | setZoneStatus id isActive =>
      obtain ⟨zone, found, noneActive, rfl⟩ := setZoneStatus_eq_ok_iff.mp ran
      rw [wellFormed_setZoneStatus_iff wellFormed found noneActive]
      constructor
      · intro kept active zone' found'
        obtain rfl : zone = zone' := Option.some.inj (found.symm.trans found')
        exact kept active
      · intro kept active
        exact kept active zone found

/-- Every run keeps the tree, and it keeps the tree well formed exactly when each of its steps
does without what the code does not check. -/
theorem wellFormed_states_iff (wellFormed : WellFormed zones) (operations : List ZoneOperation) :
    (∀ reached ∈ states ZoneOperation.next zones operations, IsTree reached) ∧
      ((∀ reached ∈ states ZoneOperation.next zones operations, WellFormed reached) ↔
        StepsMeet ZoneOperation.next ZoneOperation.keepsTree zones operations) := by
  constructor
  · have preserved : ∀ zones operation, IsTree zones → IsTree (ZoneOperation.next zones operation) :=
      fun zones operation tree => operation.isTree_next tree
    exact forall_mem_states preserved wellFormed.toIsTree operations
  · rw [forall_mem_states_iff fun zones operation wellFormed =>
      ZoneOperation.wellFormed_next_iff wellFormed operation]
    exact and_iff_right wellFormed

/-- Whatever operations were made, the walk to the parents comes to an end. -/
theorem assertNoCircularParent_ends (tree : IsTree zones) (operations : List ZoneOperation) :
    ∀ reached ∈ states ZoneOperation.next zones operations,
      ∀ zoneId start, assertNoCircularParent reached zoneId start ≠ .error .neverAnswers := by
  have preserved : ∀ zones operation, IsTree zones → IsTree (ZoneOperation.next zones operation) :=
    fun zones operation tree => operation.isTree_next tree
  intro reached member
  exact assertNoCircularParent_answers (forall_mem_states preserved tree operations reached member)

namespace Sample

def zoneId (text : String) (given : text ≠ "" := by decide) : ZoneId :=
  ⟨text, given⟩

def zoneUnder (text : String) (given : text ≠ "") (type : ZoneType) (parentId : Option ZoneId)
    (isActive : Bool) : Zone where
  id := ⟨text, given⟩
  code := text
  name := text
  type := type
  parentId := parentId
  isActive := isActive
  currency := none
  timezone := none
  postalCodeRegex := none

def continent : Zones where
  rows :=
    [zoneUnder "africa" (by decide) .continent none true,
      zoneUnder "kenya" (by decide) .country (some (zoneId "africa")) false,
      zoneUnder "coast" (by decide) .adm1 (some (zoneId "kenya")) false]
  nodup := by decide

theorem wellFormed_continent : WellFormed continent := by
  apply wellFormed_of_isPlaced
  decide

def retypesCountry : ZoneOperation :=
  .updateZone (zoneId "kenya")
    { code := none
      name := none
      type := some .subRegion
      parentId := none
      currency := none
      timezone := none
      postalCodeRegex := none }

def activatesProvince : ZoneOperation :=
  .setZoneStatus (zoneId "coast") true

end Sample

open Sample in
theorem assertNoCircularParent_ends_retyped :
    assertNoCircularParent (retypesCountry.next continent) (zoneId "africa") (zoneId "coast") ≠
      .error .neverAnswers :=
  assertNoCircularParent_ends wellFormed_continent.toIsTree [retypesCountry] _
    (List.mem_cons_of_mem _ List.mem_cons_self) _ _

open Sample in
/-- A province in a country that becomes a region, and an active province in an inactive
country. -/
theorem retyped_not_wellFormed :
    WellFormed continent ∧ ¬WellFormed (retypesCountry.next continent) ∧
      ¬WellFormed (activatesProvince.next continent) := by
  refine ⟨wellFormed_continent, ?_, ?_⟩
  · intro wellFormed
    have types := wellFormed.types
    revert types
    decide
  · intro wellFormed
    have fits := (wellFormed_iff.mp wellFormed).2
    revert fits
    decide

open Sample in
theorem wellFormed_activated : StepsMeet ZoneOperation.next ZoneOperation.keepsTree continent
        [.setZoneStatus (zoneId "kenya") true, activatesProvince] ∧
      ∀ reached ∈ states ZoneOperation.next continent
        [.setZoneStatus (zoneId "kenya") true, activatesProvince], WellFormed reached := by
  have kept : StepsMeet ZoneOperation.next ZoneOperation.keepsTree continent
      [.setZoneStatus (zoneId "kenya") true, activatesProvince] := by
    refine ⟨?_, ?_, trivial⟩
    · intro _ zone found
      revert zone
      decide
    · intro _ zone found
      revert zone
      decide
  exact ⟨kept, (wellFormed_states_iff wellFormed_continent _).2.mpr kept⟩

end Csms.Geography
