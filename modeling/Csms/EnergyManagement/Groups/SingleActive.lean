import Csms.EnergyManagement.Groups.Effects
import Csms.Table.MarkedOnce
import Csms.Transition.Run

/-!
# The group in charge of a station

Of the groups of a station at most one is active, and an active group is in
ACTIVE mode.  Activating and disabling groups keeps this law and updating one
never touches it; creating a group keeps it exactly when the created row is not
active, is activated by the same request, or is in ACTIVE mode in a station
without an active group.
-/

namespace Csms.EnergyManagement

open Js Service Transition

/-- At most one active group for each tenant and station, and only in ACTIVE
mode. -/
structure SingleActive (activations : List Activation) : Prop where
  once : MarkedOnce (·.id) (·.isActive) (fun entry => (entry.tenantId, entry.stationId))
    activations
  inActiveMode : ∀ entry ∈ activations, entry.isActive = true → entry.controlMode = .active

instance (activations : List Activation) : Decidable (SingleActive activations) :=
  decidable_of_iff
    (MarkedOnce (·.id) (·.isActive) (fun entry => (entry.tenantId, entry.stationId))
        activations ∧
      ∀ entry ∈ activations, entry.isActive = true → entry.controlMode = .active)
    ⟨fun law => ⟨law.1, law.2⟩, fun law => ⟨law.once, law.inActiveMode⟩⟩

theorem Activation.id_activated (target entry : Activation) :
    (activated target entry).id = entry.id := by
  unfold activated
  split
  · rfl
  · split <;> rfl

theorem Activation.station_activated (target entry : Activation) :
    ((activated target entry).tenantId, (activated target entry).stationId) =
      (entry.tenantId, entry.stationId) := by
  unfold activated
  split
  · rfl
  · split <;> rfl

theorem Activation.isActive_activated {target entry : Activation}
    (isActive : (activated target entry).isActive = true) (other : entry.id ≠ target.id) :
    activated target entry = entry ∧
      (entry.tenantId, entry.stationId) ≠ (target.tenantId, target.stationId) := by
  unfold activated at isActive ⊢
  rw [if_neg other] at isActive ⊢
  by_cases retired : entry.tenantId = target.tenantId ∧ entry.stationId = target.stationId ∧
      entry.isActive = true
  · rw [if_pos retired] at isActive
    contradiction
  · rw [if_neg retired] at isActive ⊢
    refine ⟨rfl, ?_⟩
    intro sameStation
    obtain ⟨sameTenant, sameStation⟩ := Prod.mk.inj sameStation
    exact retired ⟨sameTenant, sameStation, isActive⟩

variable {activations : List Activation}

/-- Activating a group establishes the law in its station and keeps it in the
others. -/
theorem singleActive_map_activated {target : Activation}
    (isTarget : ∀ entry ∈ activations, entry.id = target.id → (entry.tenantId, entry.stationId) = (target.tenantId, target.stationId))
    (others : ∀ entry ∈ activations, entry.id ≠ target.id → entry.isActive = true → entry.controlMode = .active)
    (once : ∀ first ∈ activations, ∀ second ∈ activations, first.id ≠ target.id → second.id ≠ target.id → first.isActive = true → second.isActive = true → (first.tenantId, first.stationId) = (second.tenantId, second.stationId) → first.id = second.id) :
    SingleActive (activations.map (Activation.activated target)) where
  once := by
    refine markedOnce_map_of_promotes (Activation.id_activated target)
      (Activation.station_activated target) target.id (target.tenantId, target.stationId)
      isTarget ?_ once
    intro entry _ isActive other
    obtain ⟨same, elsewhere⟩ := Activation.isActive_activated isActive other
    rw [same] at isActive
    exact ⟨isActive, elsewhere⟩
  inActiveMode := by
    intro entry member isActive
    obtain ⟨old, oldMember, rfl⟩ := List.mem_map.mp member
    by_cases target_or_not : old.id = target.id
    · simp [Activation.activated, target_or_not]
    · obtain ⟨same, _⟩ := Activation.isActive_activated isActive target_or_not
      rw [same] at isActive ⊢
      exact others old oldMember target_or_not isActive

theorem SingleActive.map_activated {target : Activation} (law : SingleActive activations)
    (isTarget : ∀ entry ∈ activations, entry.id = target.id → (entry.tenantId, entry.stationId) = (target.tenantId, target.stationId)) :
    SingleActive (activations.map (Activation.activated target)) := by
  apply singleActive_map_activated isTarget
  · intro entry member _ isActive
    exact law.inActiveMode entry member isActive
  · intro first firstMem second secondMem _ _ firstActive secondActive sameStation
    exact law.once first firstMem second secondMem firstActive secondActive sameStation

/-- A group that is created and activated at once takes over its station. -/
theorem SingleActive.map_activated_append {created : Activation} (law : SingleActive activations)
    (fresh : ∀ entry ∈ activations, entry.id ≠ created.id) :
    SingleActive ((activations ++ [created]).map (Activation.activated created)) := by
  have isOld (entry : Activation) (member : entry ∈ activations ++ [created])
      (other : entry.id ≠ created.id) : entry ∈ activations := by
    rcases List.mem_append.mp member with old | new
    · exact old
    · exact absurd (congrArg Activation.id (List.mem_singleton.mp new)) other
  apply singleActive_map_activated
  · intro entry member sameId
    rcases List.mem_append.mp member with old | new
    · exact absurd sameId (fresh entry old)
    · rw [List.mem_singleton.mp new]
  · intro entry member other isActive
    exact law.inActiveMode entry (isOld entry member other) isActive
  · intro first firstMem second secondMem firstOther secondOther firstActive secondActive
      sameStation
    exact law.once first (isOld first firstMem firstOther) second
      (isOld second secondMem secondOther) firstActive secondActive sameStation

theorem SingleActive.map_disabled (law : SingleActive activations) (id : String) :
    SingleActive (activations.map (Activation.disabled id)) := by
  have activeBefore (entry : Activation)
      (isActive : (Activation.disabled id entry).isActive = true) :
      Activation.disabled id entry = entry := by
    unfold Activation.disabled at isActive ⊢
    split at isActive
    · contradiction
    · rw [if_neg ‹_›]
  constructor
  · apply law.once.map_of_unmarks
    · intro entry
      unfold Activation.disabled
      split <;> rfl
    · intro entry
      unfold Activation.disabled
      split <;> rfl
    · intro entry _ isActive
      rwa [activeBefore entry isActive] at isActive
  · intro entry member isActive
    obtain ⟨old, oldMember, rfl⟩ := List.mem_map.mp member
    have same := activeBefore old isActive
    rw [same] at isActive ⊢
    exact law.inActiveMode old oldMember isActive

/-- A created group keeps the law exactly when it is not active, or is in ACTIVE
mode and the first active group of its station. -/
theorem singleActive_append_iff {created : Activation} (law : SingleActive activations)
    (fresh : ∀ entry ∈ activations, entry.id ≠ created.id) :
    SingleActive (activations ++ [created]) ↔
      (created.isActive = true → created.controlMode = .active ∧
        ∀ entry ∈ activations, entry.isActive = true →
          (entry.tenantId, entry.stationId) ≠ (created.tenantId, created.stationId)) := by
  have onceIff := markedOnce_append_singleton_iff law.once created
  constructor
  · intro grown isActive
    refine ⟨grown.inActiveMode created (by simp) isActive, ?_⟩
    intro entry member entryActive sameStation
    exact fresh entry member (onceIff.mp grown.once isActive entry member entryActive sameStation)
  · intro allowed
    constructor
    · apply onceIff.mpr
      intro isActive entry member entryActive sameStation
      exact absurd sameStation ((allowed isActive).2 entry member entryActive)
    · intro entry member isActive
      rcases List.mem_append.mp member with old | new
      · exact law.inActiveMode entry old isActive
      · obtain rfl := List.mem_singleton.mp new
        exact (allowed isActive).1

/-- A created row is not active, or its creation gets as far as activating it, or
it is in ACTIVE mode in a station without an active group. -/
def CreatesWithinLaw (store : Store) : GroupRequest → Prop
  | .createGroup context _ createdId input =>
    ∀ created grown, newGroup context store createdId input = .ok created →
      store.addGroup? created = some grown → created.isActive = true →
        (isTrue (input "activateNow") = true ∧
          MembershipsAccepted context grown created.stationId input) ∨
        (created.controlMode = .active ∧ ∀ group ∈ store.groups.rows, group.isActive = true →
          (group.tenantId, group.stationId) ≠ (created.tenantId, created.stationId))
  | _ => True

/-- Activating, disabling and deleting a group that can be loaded keeps the law. -/
theorem singleActive_of_map {store later : Store} (context : ServiceContext) (id : String)
    (law : SingleActive store.activations)
    (rejected : ∀ error, loadGroupOrThrow context store id = .error error → later = store)
    (loads : ∀ loaded, loadGroupOrThrow context store id = .ok loaded → later.activations =
          store.activations.map (Activation.activated loaded.group.activation) ∨
        later.activations = store.activations.map (Activation.disabled loaded.group.id)) :
    SingleActive later.activations := by
  cases found : loadGroupOrThrow context store id with
  | error error =>
    rw [rejected error found]
    exact law
  | ok loaded =>
    rcases loads loaded found with activates | disables
    · rw [activates]
      apply law.map_activated
      intro entry member sameId
      obtain ⟨_, group, _, groupFound, _, rfl⟩ := loadGroupOrThrow_eq_ok_iff.mp found
      obtain ⟨row, rowMem, rfl⟩ := List.mem_map.mp member
      obtain ⟨groupMem, _⟩ := Table.find?_eq_some_iff.mp groupFound
      have same : row = group := store.groups.eq_of_key_eq rowMem groupMem sameId
      rw [same]
      rfl
    · rw [disables]
      exact law.map_disabled loaded.group.id

theorem forall_mem_activations {store : Store} {property : Activation → Prop} :
    (∀ entry ∈ store.activations, property entry) ↔
      ∀ group ∈ store.groups.rows, property group.activation := by
  exact List.forall_mem_map

theorem singleActive_createGroup_iff (context : ServiceContext) (clock : GroupClock)
    (createdId : String) (input : JsRecord) {store : Store} (law : SingleActive store.activations) :
    SingleActive (after (createGroup context clock createdId input) store).activations ↔
      CreatesWithinLaw store (.createGroup context clock createdId input) := by
  cases isNew : newGroup context store createdId input with
  | error error =>
    rw [activations_after_createGroup_of_error isNew clock]
    simp [CreatesWithinLaw, isNew, law]
  | ok created =>
    cases added : store.addGroup? created with
    | none =>
      rw [after_createGroup isNew clock, added]
      refine iff_of_true law ?_
      intro row grown rowEq grownEq
      rw [isNew] at rowEq
      cases rowEq
      rw [added] at grownEq
      contradiction
    | some grown =>
      obtain ⟨_, _, fresh, _⟩ := activations_addGroup added
      have conditionIff : CreatesWithinLaw store (.createGroup context clock createdId input) ↔
          (created.isActive = true → (isTrue (input "activateNow") = true ∧
            MembershipsAccepted context grown created.stationId input) ∨
          (created.controlMode = .active ∧ ∀ group ∈ store.groups.rows,
            group.isActive = true → (group.tenantId, group.stationId) ≠
              (created.tenantId, created.stationId))) := by
        constructor
        · intro allowed
          exact allowed created grown isNew added
        · intro allowed row next rowEq nextEq
          rw [isNew] at rowEq
          cases rowEq
          rw [added] at nextEq
          cases nextEq
          exact allowed
      rw [conditionIff]
      by_cases activated : isTrue (input "activateNow") = true ∧
          MembershipsAccepted context grown created.stationId input
      · rw [activations_after_createGroup_of_activated isNew added activated.1 activated.2]
        exact iff_of_true (law.map_activated_append fresh) fun _ => Or.inl activated
      · rw [activations_after_createGroup_of_not_activated isNew added activated,
          singleActive_append_iff law fresh, forall_mem_activations]
        simp only [activated, false_or]
        rfl

/-- One request keeps the law exactly when it is no creation outside it. -/
theorem singleActive_next (store : Store) (request : GroupRequest)
    (law : SingleActive store.activations) :
    SingleActive (request.next store).activations ↔ CreatesWithinLaw store request := by
  cases request with
  | createGroup context clock createdId input =>
    exact singleActive_createGroup_iff context clock createdId input law
  | updateGroup context clock id input =>
    have kept : (GroupRequest.next store (.updateGroup context clock id input)).activations =
        store.activations := keepsActivations_updateGroup context clock id input store
    rw [kept]
    exact iff_of_true law trivial
  | deleteGroup context id =>
    refine iff_of_true (singleActive_of_map context id law ?_ ?_) trivial
    · intro error rejected
      change after (deleteGroup context id) store = store
      rw [deleteGroup, after_lookup, rejected]
    · intro loaded found
      exact Or.inr (activations_after_deleteGroup context found)
  | activateGroup context clock id reason =>
    refine iff_of_true (singleActive_of_map context id law ?_ ?_) trivial
    · intro error rejected
      change after (activateGroup context clock id reason) store = store
      rw [activateGroup, after_lookup, rejected]
    · intro loaded found
      exact Or.inl (activations_after_activateGroup context clock found reason)
  | disableGroup context clock id reason =>
    refine iff_of_true (singleActive_of_map context id law ?_ ?_) trivial
    · intro error rejected
      change after (disableGroup context clock id reason) store = store
      rw [disableGroup, after_lookup, rejected]
    · intro loaded found
      exact Or.inr (activations_after_disableGroup context clock found reason)

/-- In every run of requests: the law holds in every state reached exactly when it
holds at the start and every creation of the run stays within it. -/
theorem singleActive_run_iff (store : Store) (requests : List GroupRequest) :
    (∀ reached ∈ states GroupRequest.next store requests, SingleActive reached.activations) ↔
      SingleActive store.activations ∧
        StepsMeet GroupRequest.next CreatesWithinLaw store requests :=
  forall_mem_states_iff singleActive_next store requests

/-- The small site before any group is created. -/
def groupless : Store :=
  { siteStore with groups := Table.empty, memberships := Table.empty }

def createActive (name : String) (controlMode : JsValue) : GroupRequest :=
  .createGroup siteContext ⟨.still 0, .still 0⟩ name
    ((((JsRecord.empty.with "stationId" (.string "station-1")).with "name" (.string name)).with
      "isActive" (.boolean true)).with "controlMode" controlMode)

/-- Two groups created active in ACTIVE mode are both in charge of the station,
and one created active without a control mode only observes. -/
theorem createdActive_not_singleActive : (¬ ∀ reached ∈ states GroupRequest.next groupless
        [createActive "first" (.string "ACTIVE"), createActive "second" (.string "ACTIVE")],
          SingleActive reached.activations) ∧
      ¬ ∀ reached ∈ states GroupRequest.next groupless [createActive "first" .undefined],
          SingleActive reached.activations := by
  constructor
  · decide +kernel
  · decide +kernel

end Csms.EnergyManagement
