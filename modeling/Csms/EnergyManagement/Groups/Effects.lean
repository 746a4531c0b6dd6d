import Csms.EnergyManagement.Groups.Handlers

/-!
# What managing groups does to their activations

The activations of the stored groups are a view of the store that most handlers
leave alone: recalculations, configuration changes and new memberships do.  What
activating, disabling and creating a group do to it is an update of the list of
activations.
-/

namespace Csms.EnergyManagement

open Js Service

def Activation.activated (target entry : Activation) : Activation :=
  if entry.id = target.id then
    { entry with isActive := true, controlMode := .active }
  else if entry.tenantId = target.tenantId ∧ entry.stationId = target.stationId ∧
      entry.isActive then
    { entry with isActive := false, controlMode := .observeOnly }
  else
    entry

def Activation.disabled (id : String) (entry : Activation) : Activation :=
  if entry.id = id then { entry with isActive := false, controlMode := .disabled } else entry

def Store.activations (store : Store) : List Activation :=
  store.groups.rows.map (·.activation)

theorem activations_retireOthers_putInCharge (group : EnergyLoadGroup) (store : Store) :
    (putInCharge group.id (retireOthers group store)).activations =
      store.activations.map (Activation.activated group.activation) := by
  simp only [Store.activations, putInCharge, retireOthers, Table.rows_updateWhere, List.map_map]
  apply List.map_congr_left
  intro row _
  by_cases isTarget : row.id = group.id
  · simp [isTarget, Activation.activated, EnergyLoadGroup.activation, EnergyLoadGroup.inCharge]
  · by_cases retired : row.tenantId = group.tenantId ∧ row.stationId = group.stationId ∧
        row.isActive = true
    · simp [isTarget, retired, Activation.activated, EnergyLoadGroup.activation,
        EnergyLoadGroup.retired]
    · have kept : ¬ (row.tenantId = group.tenantId ∧ row.stationId = group.stationId ∧
          row.id ≠ group.id ∧ row.isActive = true) :=
        fun matched => retired ⟨matched.1, matched.2.1, matched.2.2.2⟩
      simp only [Function.comp_apply, decide_eq_true_eq, if_neg kept, if_neg isTarget,
        Activation.activated, EnergyLoadGroup.activation, if_neg retired]

theorem activations_shutDownGroup (id : String) (store : Store) :
    (shutDownGroup id store).activations = store.activations.map (Activation.disabled id) := by
  simp only [Store.activations, shutDownGroup, Table.rows_updateWhere, List.map_map]
  apply List.map_congr_left
  intro row _
  by_cases isTarget : row.id = id
  · simp [isTarget, Activation.disabled, EnergyLoadGroup.activation, EnergyLoadGroup.shutDown]
  · simp [isTarget, Activation.disabled, EnergyLoadGroup.activation]

theorem activations_addGroup {store grown : Store} {created : EnergyLoadGroup}
    (added : store.addGroup? created = some grown) :
    grown.activations = store.activations ++ [created.activation] ∧
      created.activation ∈ grown.activations ∧
        (∀ entry ∈ store.activations, entry.id ≠ created.id) ∧
          grown.chargePoints = store.chargePoints := by
  unfold Store.addGroup? at added
  split at added
  · contradiction
  · obtain ⟨groups, inserted, rfl⟩ := Option.map_eq_some_iff.mp added
    obtain ⟨fresh, rowsEq⟩ := Table.insert?_eq_some_iff.mp inserted
    have grownEq : Store.activations { store with groups } =
        store.activations ++ [created.activation] := by
      simp [Store.activations, rowsEq]
    refine ⟨grownEq, ?_, ?_, rfl⟩
    · rw [grownEq]
      exact List.mem_append_right _ (List.mem_singleton_self _)
    · intro entry member
      obtain ⟨row, rowMem, rfl⟩ := List.mem_map.mp member
      intro sameId
      exact fresh (sameId ▸ List.mem_map_of_mem rowMem)

/-- A stored group of the request's tenant can be loaded. -/
theorem exists_loaded {context : ServiceContext} {store : Store} {entry : Activation}
    (member : entry ∈ store.activations) (tenant : resolveTenantId context = .ok entry.tenantId) :
    ∃ loaded, loadGroupOrThrow context store entry.id = .ok loaded ∧
      loaded.group.activation = entry := by
  obtain ⟨row, rowMem, rfl⟩ := List.mem_map.mp member
  refine ⟨groupBundle store row, ?_, rfl⟩
  exact loadGroupOrThrow_eq_ok_iff.mpr
    ⟨_, row, tenant, Table.find?_eq_some_iff.mpr ⟨rowMem, rfl⟩, rfl, rfl⟩

theorem keepsActivations_recalculateGroup (context : ServiceContext) (clock : RecalculateClock)
    (id : String) (input : RecalculateInput) :
    Keeps Store.activations (recalculateGroup context clock id input) := by
  intro store
  exact map_groups_of_configuration_eq
    (keeps_recalculateGroup context clock id input store) (·.activation) fun _ => rfl

theorem keeps_getGroup {ν : Type} (view : Store → ν) (context : ServiceContext) (id : String) :
    Keeps view (getGroup context id) :=
  Keeps.bind Keeps.get fun _ => Keeps.orThrow _

theorem keepsActivations_deleteMemberships (groupId : String) :
    Keeps Store.activations (modify (deleteMemberships groupId) : Handler Unit) :=
  Keeps.modify fun _ => rfl

theorem keepsActivations_createMemberships (groupId : String)
    (memberships : List NormalizedMembership) :
    Keeps Store.activations (createMemberships groupId memberships) := by
  intro store
  rw [createMemberships, after, bind_of_ok (rfl : (get : Handler Store) store = .ok store store)]
  cases store.memberships.insertAll? (memberships.map fun membership =>
    newMembership groupId (store.chargePoints.find? membership.chargePointId) membership)
  · rfl
  · rfl

section

variable (context : ServiceContext) (clock : RecalculateClock) (id : String)
include clock id

theorem keepsActivations_storeMemberships (memberships : List NormalizedMembership) :
    Keeps Store.activations (storeMemberships context clock id memberships) := by
  apply Keeps.bind
  · apply Keeps.transaction
    apply Keeps.bind (keepsActivations_deleteMemberships id)
    intro _
    exact keepsActivations_createMemberships id memberships
  · intro _
    apply Keeps.bind (keepsActivations_recalculateGroup context clock id _)
    intro _
    exact keeps_getGroup _ context id

theorem keepsActivations_replaceMemberships (memberships : List JsValue) :
    Keeps Store.activations (replaceMemberships context clock id memberships) := by
  apply Keeps.bind Keeps.get
  intro store
  apply Keeps.bind (Keeps.orThrow _)
  intro loaded
  apply Keeps.bind (Keeps.orThrow _)
  intro normalized
  apply Keeps.ite
  · apply Keeps.bind (keepsActivations_deleteMemberships loaded.group.id)
    intro _
    exact keeps_getGroup _ context loaded.group.id
  · apply Keeps.bind (Keeps.orThrow _)
    intro _
    exact keepsActivations_storeMemberships context clock loaded.group.id normalized

theorem keepsActivations_createGroupMemberships (input : JsRecord) :
    Keeps Store.activations (createGroupMemberships context clock id input) := by
  apply Keeps.bind (Keeps.orThrow _)
  intro memberships
  apply Keeps.ite
  · exact Keeps.pure _
  · apply Keeps.bind (keepsActivations_replaceMemberships context clock id _)
    intro _
    exact Keeps.pure _

end

theorem keepsActivations_changeGroup (group : EnergyLoadGroup) (change : GroupChange) :
    Keeps Store.activations (changeGroup group change) := by
  intro store
  rw [changeGroup, after_bind]
  change (after (if store.nameTaken (change.apply group) then _ else _) store).activations = _
  split
  · rfl
  · exact store.groups.map_updateWhere _ _ change.id_apply (·.activation) change.keeps

theorem keepsActivations_updateGroupMemberships (context : ServiceContext)
    (clock : RecalculateClock) (id : String) (input : JsRecord) :
    Keeps Store.activations (updateGroupMemberships context clock id input) := by
  unfold updateGroupMemberships
  split
  · exact Keeps.pure _
  · apply Keeps.bind (Keeps.orThrow _)
    intro items
    apply Keeps.bind (Keeps.orThrow _)
    intro memberships
    apply Keeps.bind (keepsActivations_replaceMemberships context clock _ _)
    intro _
    exact Keeps.pure _

theorem keepsActivations_updateGroup (context : ServiceContext) (clock : GroupClock)
    (id : String) (input : JsRecord) :
    Keeps Store.activations (updateGroup context clock id input) := by
  apply Keeps.bind Keeps.get
  intro store
  apply Keeps.bind (Keeps.orThrow _)
  intro loaded
  apply Keeps.bind (Keeps.orThrow _)
  intro change
  apply Keeps.bind (keepsActivations_changeGroup loaded.group change)
  intro _
  apply Keeps.bind (keepsActivations_updateGroupMemberships context clock.memberships _ input)
  · intro _
    apply Keeps.ite
    · apply Keeps.bind (keepsActivations_recalculateGroup context clock.last _ _)
      intro _
      exact keeps_getGroup _ context loaded.group.id
    · exact keeps_getGroup _ context loaded.group.id

section

variable (context : ServiceContext) (clock : RecalculateClock) {store : Store} {id : String}
    {loaded : GroupBundle} (found : loadGroupOrThrow context store id = .ok loaded)
    (reason : Option String)
include clock found reason

theorem activations_after_activateGroup :
    (after (activateGroup context clock id reason) store).activations =
      store.activations.map (Activation.activated loaded.group.activation) := by
  have carriedOut : (transaction do
      modify (retireOthers loaded.group)
      modify (putInCharge loaded.group.id) : Handler Unit) store =
        .ok ⟨⟩ (putInCharge loaded.group.id (retireOthers loaded.group store)) := rfl
  unfold activateGroup
  rw [after_lookup, found]
  dsimp only
  rw [after_bind, carriedOut, ← activations_retireOthers_putInCharge]
  have kept : Keeps Store.activations (do
      let _ ← recalculateGroup context clock loaded.group.id
        ⟨false, some "activation", orText reason (some "Group activated")⟩
      getGroup context loaded.group.id) :=
    Keeps.bind (keepsActivations_recalculateGroup context clock _ _)
      fun _ => keeps_getGroup _ context _
  exact kept _

theorem activations_after_disableGroup :
    (after (disableGroup context clock id reason) store).activations =
      store.activations.map (Activation.disabled loaded.group.id) := by
  unfold disableGroup
  rw [after_lookup, found]
  dsimp only
  rw [after_bind, ← activations_shutDownGroup]
  have kept : Keeps Store.activations (do
      let _ ← recalculateGroup context clock loaded.group.id
        ⟨false, some "disable", orText reason (some "Group disabled")⟩
      getGroup context loaded.group.id) :=
    Keeps.bind (keepsActivations_recalculateGroup context clock _ _)
      fun _ => keeps_getGroup _ context _
  exact kept _

end

theorem activations_after_deleteGroup (context : ServiceContext) {store : Store} {id : String}
    {loaded : GroupBundle} (found : loadGroupOrThrow context store id = .ok loaded) :
    (after (deleteGroup context id) store).activations =
      store.activations.map (Activation.disabled loaded.group.id) := by
  unfold deleteGroup
  rw [after_lookup, found]
  dsimp only
  rw [after_bind, ← activations_shutDownGroup]
  exact keeps_getGroup _ context _ _

/-- The memberships of the body are well formed, name every charge point once,
and name charge points of the station only. -/
def MembershipsAccepted (context : ServiceContext) (store : Store) (stationId : String)
    (input : JsRecord) : Prop :=
  ∃ memberships, normalizeMembershipInputs context.engine.toEngine
      (arrayItems (input "memberships")) = .ok memberships ∧
    assertChargePoints store stationId memberships = .ok ⟨⟩

/-- Once the old memberships are deleted, the new ones can be created. -/
theorem exists_createMemberships {memberships : List NormalizedMembership}
    (distinct : (memberships.map (·.chargePointId)).Nodup) (groupId : String) (store : Store) :
    ∃ grown, grown.rows = (deleteMemberships groupId store).memberships.rows ++
        memberships.map (fun membership => newMembership groupId
          (store.chargePoints.find? membership.chargePointId) membership) ∧
      createMemberships groupId memberships (deleteMemberships groupId store) =
        .ok ⟨⟩ { deleteMemberships groupId store with memberships := grown } := by
  let row (membership : NormalizedMembership) := newMembership groupId
    (store.chargePoints.find? membership.chargePointId) membership
  have rowKey (membership : NormalizedMembership) :
      (row membership).key = (groupId, membership.chargePointId) := rfl
  have keysDistinct : ((memberships.map row).map EnergyLoadGroupMembership.key).Nodup := by
    have keysEq : (memberships.map row).map EnergyLoadGroupMembership.key =
        (memberships.map (·.chargePointId)).map (Prod.mk groupId) := by
      rw [List.map_map, List.map_map]
      rfl
    rw [keysEq]
    exact distinct.map (Prod.mk_right_injective groupId)
  have free : ∀ created ∈ memberships.map row,
      created.key ∉ (deleteMemberships groupId store).memberships.rows.map
        EnergyLoadGroupMembership.key := by
    intro created member taken
    obtain ⟨membership, _, rfl⟩ := List.mem_map.mp member
    obtain ⟨old, oldMem, sameKey⟩ := List.mem_map.mp taken
    have otherGroup : old.groupId ≠ groupId := by
      simpa [deleteMemberships, Table.deleteWhere] using (List.mem_filter.mp oldMem).2
    rw [rowKey] at sameKey
    exact otherGroup (congrArg Prod.fst sameKey)
  obtain ⟨grown, inserted, grownRows⟩ := Table.exists_insertAll? keysDistinct free
  refine ⟨grown, grownRows, ?_⟩
  unfold createMemberships
  rw [bind_of_ok (rfl : (get : Handler Store) (deleteMemberships groupId store) =
    .ok _ (deleteMemberships groupId store))]
  have stored : (deleteMemberships groupId store).memberships.insertAll?
      (memberships.map fun membership => newMembership groupId
        ((deleteMemberships groupId store).chargePoints.find? membership.chargePointId)
        membership) = some grown := inserted
  rw [stored]
  rfl

section Created

variable {context : ServiceContext} {store : Store} {created : Activation}
  (member : created ∈ store.activations)
  (tenant : resolveTenantId context = .ok created.tenantId)
include member tenant

theorem answers_getGroup : Answers (getGroup context created.id) store := by
  obtain ⟨loaded, found, _⟩ := exists_loaded member tenant
  refine ⟨loaded, store, ?_⟩
  unfold getGroup
  rw [bind_of_ok (rfl : (get : Handler Store) store = .ok store store), found]
  rfl

theorem answers_storeMemberships (clock : RecalculateClock)
    {memberships : List NormalizedMembership}
    (distinct : (memberships.map (·.chargePointId)).Nodup) :
    Answers (storeMemberships context clock created.id memberships) store := by
  obtain ⟨grown, _, createdRows⟩ := exists_createMemberships distinct created.id store
  have stored : (transaction do
      modify (deleteMemberships created.id)
      createMemberships created.id memberships : Handler Unit) store =
        .ok () { deleteMemberships created.id store with memberships := grown } := by
    rw [transaction, bind_of_ok (rfl : (modify (deleteMemberships created.id) :
      Handler Unit) store = .ok () (deleteMemberships created.id store)), createdRows]
  apply answers_bind_iff.mpr
  refine ⟨_, _, stored, ?_⟩
  let replaced : Store := { deleteMemberships created.id store with memberships := grown }
  have stays : created ∈ replaced.activations := member
  obtain ⟨loaded, found, _⟩ := exists_loaded stays tenant
  obtain ⟨commands, carriedOut⟩ := recalculateGroup_eq context clock
    ⟨false, some "membership-update", some "Memberships updated"⟩ found
  apply answers_bind_iff.mpr
  refine ⟨_, _, carriedOut, answers_getGroup ?_ tenant⟩
  rw [(keepsActivations_recalculateGroup context clock created.id _).eq_of_ok carriedOut]
  exact member

/-- Replacing the memberships of a stored group succeeds exactly when the charge
points belong to its station. -/
theorem answers_replaceMemberships_iff (clock : RecalculateClock) {memberships : List JsValue}
    {normalized : List NormalizedMembership}
    (accepted : normalizeMembershipInputs context.engine.toEngine memberships = .ok normalized)
    (nonempty : normalized ≠ []) :
    Answers (replaceMemberships context clock created.id memberships) store ↔
      assertChargePoints store created.stationId normalized = .ok () := by
  obtain ⟨loaded, found, loadedEq⟩ := exists_loaded member tenant
  have idEq : loaded.group.id = created.id := congrArg Activation.id loadedEq
  have stationEq : loaded.group.stationId = created.stationId :=
    congrArg Activation.stationId loadedEq
  have checksFirst : Answers (replaceMemberships context clock created.id memberships) store ↔
      Answers (do
        orThrow (assertChargePoints store created.stationId normalized)
        storeMemberships context clock created.id normalized) store := by
    unfold replaceMemberships Answers
    rw [bind_of_ok (rfl : (get : Handler Store) store = .ok store store), found,
      bind_of_ok (orThrow_ok loaded store), accepted, bind_of_ok (orThrow_ok normalized store),
      if_neg nonempty, idEq, stationEq]
  rw [checksFirst, answers_bind_iff]
  cases checked : assertChargePoints store created.stationId normalized with
  | error error => simp
  | ok _ =>
    simp only [iff_true]
    exact ⟨(), store, rfl, answers_storeMemberships member tenant clock
      (normalizeMembershipInputs_distinct accepted)⟩

theorem answers_createGroupMemberships_iff (clock : RecalculateClock) (input : JsRecord) :
    Answers (createGroupMemberships context clock created.id input) store ↔
      MembershipsAccepted context store created.stationId input := by
  unfold createGroupMemberships MembershipsAccepted
  rw [answers_bind_iff]
  cases accepted : normalizeMembershipInputs context.engine.toEngine
      (arrayItems (input "memberships")) with
  | error error => simp
  | ok memberships =>
    have again := normalizeMembershipInputs_toInput accepted
    have stored : Answers (if memberships = [] then pure () else do
        let _ ← replaceMemberships context clock created.id (memberships.map (·.toInput))
        : Handler Unit) store ↔ assertChargePoints store created.stationId memberships = .ok () := by
      by_cases empty : memberships = []
      · rw [if_pos empty, empty]
        exact iff_of_true ⟨(), store, rfl⟩ rfl
      · rw [if_neg empty, answers_bind_iff,
          ← answers_replaceMemberships_iff member tenant clock again empty]
        constructor
        · rintro ⟨answer, later, answered, _⟩
          exact ⟨answer, later, answered⟩
        · rintro ⟨answer, later, answered⟩
          exact ⟨answer, later, answered, (), later, rfl⟩
    constructor
    · rintro ⟨_, _, ⟨⟩, answered⟩
      exact ⟨memberships, rfl, stored.mp answered⟩
    · rintro ⟨_, ⟨⟩, checked⟩
      exact ⟨memberships, store, rfl, stored.mpr checked⟩

end Created

theorem newGroup_eq_ok {context : ServiceContext} {store : Store} {createdId : String}
    {input : JsRecord} {created : EnergyLoadGroup}
    (isNew : newGroup context store createdId input = .ok created) :
    resolveTenantId context = .ok created.tenantId ∧ created.id = createdId := by
  obtain ⟨tenantId, tenant, isNew⟩ := exists_of_bind_eq_ok isNew
  split at isNew
  · contradiction
  · contradiction
  · obtain ⟨_, _, isNew⟩ := exists_of_bind_eq_ok isNew
    cases isNew
    exact ⟨tenant, rfl⟩

theorem activations_after_createGroup_of_error {context : ServiceContext} {store : Store}
    {createdId : String} {input : JsRecord} {error : HttpException}
    (rejected : newGroup context store createdId input = .error error) (clock : GroupClock) :
    after (createGroup context clock createdId input) store = store := by
  unfold createGroup
  rw [after_lookup, rejected]

theorem after_createGroup {context : ServiceContext} {store : Store} {createdId : String}
    {input : JsRecord} {created : EnergyLoadGroup}
    (isNew : newGroup context store createdId input = .ok created) (clock : GroupClock) :
    after (createGroup context clock createdId input) store =
      match store.addGroup? created with
      | none => store
      | some grown => after (do
          createGroupMemberships context clock.memberships created.id input
          activateCreated context clock.last created.id input
          getGroup context created.id) grown := by
  have insertEq : insertGroup created store =
      (store.addGroup? created).elim (.error .internal store) (.ok ()) := by
    unfold insertGroup
    rw [bind_of_ok (rfl : (get : Handler Store) store = .ok store store)]
    cases store.addGroup? created <;> rfl
  unfold createGroup
  rw [after_lookup, isNew]
  dsimp only
  rw [after_bind, insertEq]
  cases store.addGroup? created <;> rfl

section Creation

variable {context : ServiceContext} {store grown : Store} {createdId : String}
  {input : JsRecord} {created : EnergyLoadGroup}
  (isNew : newGroup context store createdId input = .ok created)
  (added : store.addGroup? created = some grown)
include isNew added

theorem activations_after_createGroup_of_activated (activates : isTrue (input "activateNow") = true)
    (accepted : MembershipsAccepted context grown created.stationId input) (clock : GroupClock) :
    (after (createGroup context clock createdId input) store).activations =
      (store.activations ++ [created.activation]).map
        (Activation.activated created.activation) := by
  have tenant := (newGroup_eq_ok isNew).1
  obtain ⟨grownEq, member, _, _⟩ := activations_addGroup added
  obtain ⟨⟨⟩, middle, stored⟩ :=
    (answers_createGroupMemberships_iff member tenant clock.memberships input).mpr accepted
  have middleEq :=
    (keepsActivations_createGroupMemberships context clock.memberships _ input).eq_of_ok stored
  obtain ⟨loaded, found, loadedEq⟩ := exists_loaded (middleEq ▸ member) tenant
  have storedRow : createGroupMemberships context clock.memberships created.id input grown =
      .ok () middle := stored
  rw [after_createGroup isNew, added]
  dsimp only
  rw [after_bind, storedRow]
  rw [Keeps.view_after_bind (fun _ => keeps_getGroup Store.activations context created.id)]
  have activated : (after (activateCreated context clock.last created.id input)
      middle).activations = middle.activations.map (Activation.activated created.activation) := by
    rw [← loadedEq, ← activations_after_activateGroup context clock.last found
      (orText (readOptionalString (input "activationReason")) (some "Manual activation")),
      activateCreated, if_pos activates]
    exact Keeps.view_after_bind (fun _ => Keeps.pure _) _ _
  rw [activated, middleEq, grownEq]

/-- A creation that leaves the row as it was created. -/
theorem activations_after_createGroup_of_not_activated
    (left : ¬ (isTrue (input "activateNow") = true ∧
      MembershipsAccepted context grown created.stationId input)) (clock : GroupClock) :
    (after (createGroup context clock createdId input) store).activations =
      store.activations ++ [created.activation] := by
  have tenant := (newGroup_eq_ok isNew).1
  obtain ⟨grownEq, member, _, _⟩ := activations_addGroup added
  have keeps := keepsActivations_createGroupMemberships context clock.memberships created.id input
  rw [after_createGroup isNew, added, ← grownEq]
  dsimp only
  rw [after_bind]
  cases outcome : createGroupMemberships context clock.memberships created.id input grown with
  | error error middle => exact keeps.eq_of_error outcome
  | ok value middle =>
    have accepted : MembershipsAccepted context grown created.stationId input :=
      (answers_createGroupMemberships_iff member tenant clock.memberships input).mp
        ⟨value, middle, outcome⟩
    have notAsked : ¬ isTrue (input "activateNow") = true :=
      fun activates => left ⟨activates, accepted⟩
    rw [Keeps.view_after_bind (fun _ => keeps_getGroup Store.activations context created.id),
      activateCreated, if_neg notAsked]
    exact keeps.eq_of_ok outcome

end Creation

end Csms.EnergyManagement
