import Csms.EnergyManagement.Groups.SingleActive

/-!
# The memberships of load groups

Memberships come with three requests: they are replaced, or sent along when a group is created or
updated.  This file says which of them a recalculation afterwards counts as active, and
what a request that is refused leaves behind: `replaceMemberships` checks before it writes, the
other two write the group first.
-/

namespace Csms.EnergyManagement

open Commands Js Service

/-! ## What recalculations leave of the memberships -/

/-- The columns of a membership that a request sets. -/
structure MembershipSettings where
  (groupId chargePointId : String)
  priority : Int
  (enabled smartChargingEnabled : Bool)
  maxAmps : Option Int
  deriving DecidableEq

def EnergyLoadGroupMembership.settings (membership : EnergyLoadGroupMembership) :
    MembershipSettings where
  groupId := membership.groupId
  chargePointId := membership.chargePointId
  priority := membership.priority
  enabled := membership.enabled
  smartChargingEnabled := membership.smartChargingEnabled
  maxAmps := membership.maxAmps

def Store.settings (store : Store) : List MembershipSettings :=
  store.memberships.rows.map (·.settings)

section

variable (context : ServiceContext) (clock : RecalculateClock)

theorem settings_foldl_sendCommand (group : EnergyLoadGroup) (bundle : ResolvedBundle)
    (plan : EnergyAllocationPlan) (allocations : List EnergyAllocationMemberPlan) (store : Store) :
    (allocations.foldl (sendCommand context clock group bundle plan) store).settings =
      store.settings := by
  induction allocations generalizing store with
  | nil => rfl
  | cons allocation allocations ih =>
    have marked (response : CommandResponse) (before : Store) :
        (markCommanded group plan clock.applyNow allocation response before).settings =
          before.settings :=
      before.memberships.map_updateWhere _ _ (fun row => row.key_commanded _ _ _ _) (·.settings)
        fun _ => rfl
    rw [List.foldl_cons, ih, sendCommand]
    split
    · split
      · exact marked _ _
      · exact marked _ _
    · exact marked _ _

theorem keepsSettings_recalculateGroup (id : String) (input : RecalculateInput) :
    Keeps Store.settings (recalculateGroup context clock id input) := by
  intro store
  unfold after
  cases found : loadGroupOrThrow context store id with
  | error error => rw [recalculateGroup_error context clock input found]
  | ok loaded =>
    obtain ⟨commands, recalculated⟩ := recalculateGroup_eq context clock input found
    rw [recalculated]
    exact settings_foldl_sendCommand _ _ _ _ _ _ _

theorem keepsSettings_activateCreated (id : String) (input : JsRecord) :
    Keeps Store.settings (activateCreated context clock id input) := by
  apply Keeps.ite
  · refine Keeps.bind ?_ fun _ => Keeps.pure _
    apply Keeps.bind Keeps.get
    intro store
    apply Keeps.bind (Keeps.orThrow _)
    intro loaded
    apply Keeps.bind
    · apply Keeps.transaction
      exact Keeps.bind (Keeps.modify fun _ => rfl) fun _ => Keeps.modify fun _ => rfl
    · intro _
      apply Keeps.bind (keepsSettings_recalculateGroup context clock _ _)
      intro _
      exact keeps_getGroup _ context _
  · exact Keeps.pure _

/-! ## What replacing memberships stores -/

end

def Store.settingsOf (store : Store) (groupId : String) : List MembershipSettings :=
  store.settings.filter (·.groupId = groupId)

/-- The settings of an accepted membership: none of them is smart-charging capable. -/
def NormalizedMembership.stored (groupId : String) (membership : NormalizedMembership) :
    MembershipSettings where
  groupId := groupId
  chargePointId := membership.chargePointId
  priority := membership.priority
  enabled := membership.enabled
  smartChargingEnabled := false
  maxAmps := membership.maxAmps

theorem settings_newMembership (groupId : String) (chargePoint : Option ChargePoint)
    (membership : NormalizedMembership) :
    (newMembership groupId chargePoint membership).settings = membership.stored groupId := by
  cases chargePoint <;>
    simp [newMembership, EnergyLoadGroupMembership.settings, NormalizedMembership.stored,
      resolveChargePointCapability]

section

variable {α β : Type} {store later : Store}

theorem exists_of_bind_answered {handler : Handler α} {rest : α → Handler β} {value : β}
    (answered : (handler >>= rest) store = .ok value later) :
    ∃ first middle, handler store = .ok first middle ∧ rest first middle = .ok value later := by
  cases outcome : handler store with
  | ok first middle => exact ⟨first, middle, rfl, bind_of_ok outcome rest ▸ answered⟩
  | error error middle =>
    rw [bind_of_error outcome] at answered
    contradiction

theorem of_orThrow_answered {found : Except HttpException α} {value : α}
    (answered : (orThrow found : Handler α) store = .ok value later) :
    found = .ok value ∧ later = store := by
  cases found with
  | error error => contradiction
  | ok found =>
    cases answered
    exact ⟨rfl, rfl⟩

end

theorem id_of_loaded {context : ServiceContext} {store : Store} {id : String}
    {loaded : GroupBundle} (found : loadGroupOrThrow context store id = .ok loaded) :
    loaded.group.id = id := by
  obtain ⟨_, group, _, isGroup, _, rfl⟩ := loadGroupOrThrow_eq_ok_iff.mp found
  exact (Table.find?_eq_some_iff.mp isGroup).2

theorem groupId_of_mem_deleteMemberships {groupId : String} {store : Store}
    {row : EnergyLoadGroupMembership}
    (isRow : row ∈ (deleteMemberships groupId store).memberships.rows) : row.groupId ≠ groupId := by
  have isOther := (List.mem_filter.mp isRow).2
  rwa [Bool.not_eq_true', decide_eq_false_iff_not] at isOther

variable {answer : GroupBundle}

theorem settingsOf_storeMemberships {context : ServiceContext} {clock : RecalculateClock}
    {id : String} {memberships : List NormalizedMembership} {store later : Store}
    (distinct : (memberships.map (·.chargePointId)).Nodup)
    (answered : storeMemberships context clock id memberships store = .ok answer later) :
    later.settingsOf id = memberships.map (·.stored id) := by
  obtain ⟨grown, grownRows, created⟩ := exists_createMemberships distinct id store
  obtain ⟨_, middle, stored, rest⟩ := exists_of_bind_answered answered
  have kept : Keeps Store.settings (do
      let _ ← recalculateGroup context clock id
        ⟨false, some "membership-update", some "Memberships updated"⟩
      getGroup context id) :=
    Keeps.bind (keepsSettings_recalculateGroup context clock _ _)
      fun _ => keeps_getGroup _ context _
  have isMiddle : middle = { deleteMemberships id store with memberships := grown } := by
    rw [transaction, bind_of_ok (rfl : (modify (deleteMemberships id) :
      Handler Unit) store = .ok () (deleteMemberships id store)), created] at stored
    exact (EStateM.Result.ok.inj stored).2.symm
  rw [Store.settingsOf, kept.eq_of_ok rest, isMiddle]
  change (grown.rows.map (·.settings)).filter _ = _
  have ofOthers : (((deleteMemberships id store).memberships.rows.map (·.settings)).filter
      (·.groupId = id)) = [] := by
    rw [List.filter_eq_nil_iff]
    intro settings member isGroup
    obtain ⟨row, isRow, rfl⟩ := List.mem_map.mp member
    exact groupId_of_mem_deleteMemberships isRow (of_decide_eq_true isGroup)
  rw [grownRows, List.map_append, List.filter_append, ofOthers, List.nil_append, List.map_map,
    List.filter_eq_self.mpr]
  · exact List.map_congr_left fun membership _ => settings_newMembership _ _ membership
  · intro settings member
    obtain ⟨membership, _, rfl⟩ := List.mem_map.mp member
    exact decide_eq_true rfl

theorem settingsOf_replaceMemberships {context : ServiceContext} {clock : RecalculateClock}
    {id : String} {items : List JsValue} {accepted : List NormalizedMembership}
    {store later : Store}
    (isAccepted : normalizeMembershipInputs context.engine.toEngine items = .ok accepted)
    (answered : replaceMemberships context clock id items store = .ok answer later) :
    later.settingsOf id = accepted.map (·.stored id) := by
  obtain ⟨_, _, ⟨⟩, answered⟩ := exists_of_bind_answered answered
  obtain ⟨loaded, _, isLoaded, answered⟩ := exists_of_bind_answered answered
  obtain ⟨found, rfl⟩ := of_orThrow_answered isLoaded
  obtain ⟨normalized, _, wasNormalized, answered⟩ := exists_of_bind_answered answered
  obtain ⟨isNormalized, rfl⟩ := of_orThrow_answered wasNormalized
  obtain rfl : accepted = normalized := Except.ok.inj (isAccepted.symm.trans isNormalized)
  rw [id_of_loaded found] at answered
  split at answered
  · rename_i isEmpty
    obtain ⟨_, _, ⟨⟩, answered⟩ := exists_of_bind_answered answered
    rw [Store.settingsOf, (keeps_getGroup Store.settings context id).eq_of_ok answered, isEmpty]
    refine List.filter_eq_nil_iff.mpr fun settings member isGroup => ?_
    obtain ⟨row, isRow, rfl⟩ := List.mem_map.mp member
    exact groupId_of_mem_deleteMemberships isRow (of_decide_eq_true isGroup)
  · obtain ⟨_, _, wasChecked, stored⟩ := exists_of_bind_answered answered
    obtain ⟨_, rfl⟩ := of_orThrow_answered wasChecked
    exact settingsOf_storeMemberships (normalizeMembershipInputs_distinct isAccepted) stored

/-- A request that replaces the memberships of a group. -/
inductive MembershipRequest where
  | replaceMemberships (clock : RecalculateClock) (id : String) (memberships : List JsValue)
  | createGroup (clock : GroupClock) (createdId : String) (input : JsRecord)
  | updateGroup (clock : GroupClock) (id : String) (input : JsRecord)

namespace MembershipRequest

def handler (context : ServiceContext) : MembershipRequest → Handler GroupBundle
  | .replaceMemberships clock id memberships =>
    EnergyManagement.replaceMemberships context clock id memberships
  | .createGroup clock createdId input =>
    EnergyManagement.createGroup context clock createdId input
  | .updateGroup clock id input => EnergyManagement.updateGroup context clock id input

def groupId : MembershipRequest → String
  | .replaceMemberships _ id _ => id
  | .createGroup _ createdId _ => createdId
  | .updateGroup _ id _ => id

/-- The memberships of the request; `none` when it replaces none. -/
def items : MembershipRequest → Option (List JsValue)
  | .replaceMemberships _ _ memberships => some memberships
  | .createGroup _ _ input =>
    if arrayItems (input "memberships") = [] then none
    else some (arrayItems (input "memberships"))
  | .updateGroup _ _ input =>
    match input "memberships" with
    | .undefined => none
    | value => iterate value

end MembershipRequest

variable {engine : Engine}

theorem accepted_ne_nil {items : List JsValue} {accepted : List NormalizedMembership}
    (isAccepted : normalizeMembershipInputs engine items = .ok accepted) (isGiven : items ≠ []) :
    accepted ≠ [] := by
  rintro rfl
  cases items with
  | nil => exact isGiven rfl
  | cons item items =>
    obtain ⟨_, _, _, -, -, -, -, ⟨⟩⟩ := exists_of_normalizeMembershipLoop_cons isAccepted

/-- Memberships that are sent along are read, whatever they are. -/
theorem updateGroupMemberships_of_given {context : ServiceContext} {clock : RecalculateClock}
    {id : String} {input : JsRecord} (isGiven : input "memberships" ≠ .undefined) :
    updateGroupMemberships context clock id input = (do
      let items ← orThrow ((iterate (input "memberships")).elim (.error .internal) .ok)
      let memberships ← orThrow (normalizeMembershipInputs context.engine.toEngine items)
      let _ ← replaceMemberships context clock id (memberships.map (·.toInput))) := by
  unfold updateGroupMemberships
  split
  · contradiction
  · rfl

theorem keepsSettings_recalculateNow (context : ServiceContext) (clock : RecalculateClock)
    (id : String) (input : JsRecord) :
    Keeps Store.settings (do
      if isTrue (input "recalculateNow") then
        let _ ← recalculateGroup context clock id
          ⟨false, some "config-update", some "Group configuration updated"⟩
      getGroup context id) := by
  apply Keeps.ite
  · exact Keeps.bind (keepsSettings_recalculateGroup context clock _ _)
      fun _ => keeps_getGroup _ context _
  · exact keeps_getGroup _ context _

theorem settingsOf_memberships {context : ServiceContext} {clock : RecalculateClock} {id : String}
    {accepted : List NormalizedMembership} {items : List JsValue} {store later : Store}
    (isAccepted : normalizeMembershipInputs context.engine.toEngine items = .ok accepted)
    (answered : replaceMemberships context clock id (accepted.map (·.toInput)) store = .ok answer later) :
    later.settingsOf id = accepted.map (·.stored id) :=
  settingsOf_replaceMemberships (normalizeMembershipInputs_toInput isAccepted) answered

theorem MembershipRequest.settingsOf_groupId {context : ServiceContext}
    {request : MembershipRequest} {items : List JsValue} {accepted : List NormalizedMembership}
    {store later : Store} (isItems : request.items = some items)
    (isAccepted : normalizeMembershipInputs context.engine.toEngine items = .ok accepted)
    (answered : request.handler context store = .ok answer later) :
    later.settingsOf request.groupId = accepted.map (·.stored request.groupId) := by
  cases request with
  | replaceMemberships clock id memberships =>
    obtain rfl : memberships = items := Option.some.inj isItems
    exact settingsOf_replaceMemberships isAccepted answered
  | createGroup clock createdId input =>
    obtain ⟨_, _, ⟨⟩, create⟩ := exists_of_bind_answered answered
    obtain ⟨created, _, wasNew, insert⟩ := exists_of_bind_answered create
    obtain ⟨isNew, rfl⟩ := of_orThrow_answered wasNew
    obtain ⟨_, grown, _, store⟩ := exists_of_bind_answered insert
    obtain ⟨_, middle, stored, activate⟩ := exists_of_bind_answered store
    have kept : Keeps Store.settings (do
        activateCreated context clock.last created.id input
        getGroup context created.id) :=
      Keeps.bind (keepsSettings_activateCreated context clock.last created.id input)
        fun _ => keeps_getGroup _ context _
    rw [Store.settingsOf, kept.eq_of_ok activate]
    rw [MembershipRequest.items] at isItems
    split at isItems
    · contradiction
    · rename_i isGiven
      obtain rfl := Option.some.inj isItems
      obtain ⟨memberships, _, wasNormalized, replace⟩ := exists_of_bind_answered stored
      obtain ⟨isNormalized, rfl⟩ := of_orThrow_answered wasNormalized
      obtain rfl : accepted = memberships := Except.ok.inj (isAccepted.symm.trans isNormalized)
      rw [if_neg (accepted_ne_nil isAccepted isGiven)] at replace
      obtain ⟨_, _, replaced, ⟨⟩⟩ := exists_of_bind_answered replace
      rw [(newGroup_eq_ok isNew).2] at replaced
      exact settingsOf_memberships isAccepted replaced
  | updateGroup clock id input =>
    obtain ⟨_, _, ⟨⟩, load⟩ := exists_of_bind_answered answered
    obtain ⟨loaded, _, wasLoaded, read⟩ := exists_of_bind_answered load
    obtain ⟨isLoaded, rfl⟩ := of_orThrow_answered wasLoaded
    obtain ⟨change, _, _, update⟩ := exists_of_bind_answered read
    obtain ⟨_, changed, _, store⟩ := exists_of_bind_answered update
    obtain ⟨_, middle, stored, recalculate⟩ := exists_of_bind_answered store
    rw [Store.settingsOf,
      (keepsSettings_recalculateNow context clock.last loaded.group.id input).eq_of_ok
        recalculate]
    rw [MembershipRequest.items] at isItems
    split at isItems
    · contradiction
    · rename_i isGiven
      rw [updateGroupMemberships_of_given isGiven] at stored
      obtain ⟨iterated, _, wasIterated, normalize⟩ := exists_of_bind_answered stored
      obtain ⟨isIterated, rfl⟩ := of_orThrow_answered wasIterated
      rw [isItems] at isIterated
      obtain rfl : items = iterated := Except.ok.inj isIterated
      obtain ⟨memberships, _, wasNormalized, replace⟩ := exists_of_bind_answered normalize
      obtain ⟨isNormalized, rfl⟩ := of_orThrow_answered wasNormalized
      obtain rfl : accepted = memberships := Except.ok.inj (isAccepted.symm.trans isNormalized)
      obtain ⟨_, _, replaced, ⟨⟩⟩ := exists_of_bind_answered replace
      rw [id_of_loaded isLoaded] at replaced
      exact settingsOf_memberships isAccepted replaced

/-! ## The members counted as active -/

/-- The members that the plan of a recalculation counts as active. -/
def activeMembers (context : ServiceContext) (clock : RecalculateClock) (store : Store)
    (loaded : GroupBundle) : List EnergyAllocationMemberInput :=
  (planInput context.engine.toEngine clock.planNow loaded.group
    (loadBundle clock.bundleNow store loaded)).memberships.filter isActiveMember

/-- The membership is enabled, and its charge point capable and available. -/
def takesPart (store : Store) (membership : NormalizedMembership) : Bool :=
  membership.enabled && (store.chargePoints.find? membership.chargePointId).any fun chargePoint =>
    chargePoint.smartChargingEnabled && resolveChargePointAvailability (some chargePoint)

/-- The value of a field that is neither absent nor empty. -/
def IsSupplied : JsValue → Prop
  | .undefined | .null | .string "" => False
  | _ => True

def KeptNumber (engine : Engine) (given : JsValue) (stored : Option Int) : Prop :=
  IsSupplied given → ∃ amount, stored = some amount ∧ engine.toNumber given = .ofInt amount

def SuppliesCount (engine : Engine) (given : JsValue) : Prop :=
  IsSupplied given → ∃ count : Nat, engine.toNumber given = .ofInt count

/-- A recalculation counts the accepted memberships that can take part, with their priority and
cap, and both were stored as they were supplied. -/
structure MembershipsInForce (context : ServiceContext) (clock : RecalculateClock)
    (items : List JsValue) (accepted : List NormalizedMembership) (store : Store)
    (loaded : GroupBundle) : Prop where
  active : (activeMembers context clock store loaded).map
      (fun member => (member.chargePointId, member.priority, member.maxAmps)) =
    (accepted.filter (takesPart store)).map fun membership =>
      (membership.chargePointId, membership.priority, membership.maxAmps.map JsNumber.ofInt)
  kept : ∀ item ∈ items, ∀ record, readRecord item = some record →
    ∀ chargePointId, readString (record "chargePointId") = some chargePointId →
      ∃ row ∈ store.settingsOf loaded.group.id, row.chargePointId = chargePointId ∧
        KeptNumber context.engine.toEngine (record "priority") (some row.priority) ∧
          KeptNumber context.engine.toEngine (record "maxAmps") row.maxAmps

theorem readNonNegativeInt_of_count {given : JsValue} {count : Nat} (supplied : IsSupplied given)
    (isCount : engine.toNumber given = .ofInt count) :
    readNonNegativeInt engine given = some count := by
  unfold readNonNegativeInt readNumber
  split
  · exact absurd supplied id
  · exact absurd supplied id
  · exact absurd supplied id
  · rw [isCount]
    simp [JsNumber.ofInt]

/-- A supplied number comes back from reading it exactly when it is a count. -/
theorem keptNumber_iff {given : JsValue} {stored : Option Int}
    (isRead : ∀ count, readNonNegativeInt engine given = some count → stored = some count)
    (nonneg : ∀ amount, stored = some amount → 0 ≤ amount) :
    KeptNumber engine given stored ↔ SuppliesCount engine given := by
  refine forall_congr' fun supplied => ⟨?_, ?_⟩
  · rintro ⟨amount, isStored, isAmount⟩
    exact ⟨amount.toNat, by rw [Int.toNat_of_nonneg (nonneg amount isStored), isAmount]⟩
  · rintro ⟨count, isCount⟩
    exact ⟨count, isRead _ (readNonNegativeInt_of_count supplied isCount), isCount⟩

/-- An accepted item is one of the normalised memberships. -/
theorem exists_of_mem_items {items : List JsValue} {seen : List String}
    {accepted : List NormalizedMembership}
    (isAccepted : normalizeMembershipLoop engine items seen = .ok accepted) {item : JsValue}
    (isItem : item ∈ items) : ∃ record chargePointId, readRecord item = some record ∧
      readString (record "chargePointId") = some chargePointId ∧
        normalizeMembership engine chargePointId record ∈ accepted := by
  induction items generalizing seen accepted with
  | nil => exact absurd isItem List.not_mem_nil
  | cons first items ih =>
    obtain ⟨record, chargePointId, others, isRecord, isId, -, rest, rfl⟩ :=
      exists_of_normalizeMembershipLoop_cons isAccepted
    rcases List.mem_cons.mp isItem with rfl | isOther
    · exact ⟨record, chargePointId, isRecord, isId, List.mem_cons_self⟩
    · obtain ⟨record, chargePointId, isRecord, isId, member⟩ := ih rest isOther
      exact ⟨record, chargePointId, isRecord, isId, List.mem_cons_of_mem _ member⟩

section

variable {context : ServiceContext} {store : Store} {id : String} {loaded : GroupBundle}
  {accepted : List NormalizedMembership}

theorem settings_memberships (found : loadGroupOrThrow context store id = .ok loaded) :
    loaded.memberships.map (·.settings) = store.settingsOf loaded.group.id := by
  rw [loadGroupOrThrow_eq_groupBundle found, Store.settingsOf, Store.settings, List.filter_map]
  rfl

theorem activeMembers_eq_nil (found : loadGroupOrThrow context store id = .ok loaded)
    (isStored : store.settingsOf loaded.group.id = accepted.map (·.stored loaded.group.id))
    (clock : RecalculateClock) : activeMembers context clock store loaded = [] := by
  refine List.filter_eq_nil_iff.mpr fun member isMember => ?_
  obtain ⟨row, isRow, rfl⟩ := List.mem_map.mp isMember
  have isSettings : row.settings ∈ loaded.memberships.map (·.settings) := List.mem_map_of_mem isRow
  rw [settings_memberships found, isStored] at isSettings
  obtain ⟨membership, _, same⟩ := List.mem_map.mp isSettings
  have incapable : row.smartChargingEnabled = false :=
    (congrArg MembershipSettings.smartChargingEnabled same).symm
  simp [isActiveMember, memberInput, resolveChargePointCapability, incapable]

/-- Replacing keeps the supplied numbers exactly when they are counts. -/
theorem kept_iff {items : List JsValue}
    (isAccepted : normalizeMembershipInputs engine items = .ok accepted)
    (isStored : store.settingsOf id = accepted.map (·.stored id)) :
    (∀ item ∈ items, ∀ record, readRecord item = some record →
      ∀ chargePointId, readString (record "chargePointId") = some chargePointId →
        ∃ row ∈ store.settingsOf id, row.chargePointId = chargePointId ∧
          KeptNumber engine (record "priority") (some row.priority) ∧
            KeptNumber engine (record "maxAmps") row.maxAmps) ↔
      ∀ item ∈ items, ∀ record, readRecord item = some record →
        SuppliesCount engine (record "priority") ∧ SuppliesCount engine (record "maxAmps") := by
  have distinct := normalizeMembershipInputs_distinct isAccepted
  refine forall₂_congr fun item isItem => ?_
  obtain ⟨record, chargePointId, isRecord, isId, member⟩ := exists_of_mem_items isAccepted isItem
  have isPriority : KeptNumber engine (record "priority")
        (some (normalizeMembership engine chargePointId record).priority) ↔
      SuppliesCount engine (record "priority") := by
    refine keptNumber_iff (fun count isRead => ?_) fun amount isAmount => ?_
    · rw [normalizeMembership, isRead, Option.getD_some]
    · rw [← Option.some.inj isAmount, normalizeMembership]
      cases isRead : readNonNegativeInt engine (record "priority") with
      | none => exact le_rfl
      | some priority => exact readNonNegativeInt_nonneg engine isRead
  have isCap : KeptNumber engine (record "maxAmps")
        (normalizeMembership engine chargePointId record).maxAmps ↔
      SuppliesCount engine (record "maxAmps") :=
    keptNumber_iff (fun _ isRead => isRead) fun _ => readNonNegativeInt_nonneg engine
  rw [isStored]
  constructor
  · intro kept other isOther
    obtain rfl : record = other := Option.some.inj (isRecord.symm.trans isOther)
    obtain ⟨row, isRow, isSame, keptPriority, keptCap⟩ := kept record isRecord chargePointId isId
    obtain ⟨membership, isMember, rfl⟩ := List.mem_map.mp isRow
    obtain rfl : membership = normalizeMembership engine chargePointId record :=
      List.inj_on_of_nodup_map distinct isMember member isSame
    exact ⟨isPriority.mp keptPriority, isCap.mp keptCap⟩
  · intro counts other isOther otherId isOtherId
    obtain rfl : record = other := Option.some.inj (isRecord.symm.trans isOther)
    obtain rfl : chargePointId = otherId := Option.some.inj (isId.symm.trans isOtherId)
    obtain ⟨countPriority, countCap⟩ := counts record isRecord
    exact ⟨_, List.mem_map_of_mem member, rfl, isPriority.mpr countPriority, isCap.mpr countCap⟩

end

/-- After any request that replaces memberships, and whatever becomes of the charge points, the
next recalculation counts them as asked exactly when none of them can take part and every
supplied number is a count. -/
theorem membershipsInForce_iff {context : ServiceContext} (request : MembershipRequest)
    {items : List JsValue} {accepted : List NormalizedMembership} {store later : Store}
    {answer loaded : GroupBundle} (isItems : request.items = some items)
    (isAccepted : normalizeMembershipInputs context.engine.toEngine items = .ok accepted)
    (answered : request.handler context store = .ok answer later)
    (chargePoints : Table ChargePoint ChargePoint.id)
    (found : loadGroupOrThrow context { later with chargePoints } request.groupId = .ok loaded)
    (clock : RecalculateClock) :
    MembershipsInForce context clock items accepted { later with chargePoints } loaded ↔
      (∀ membership ∈ accepted, takesPart { later with chargePoints } membership = false) ∧
        ∀ item ∈ items, ∀ record, readRecord item = some record →
          SuppliesCount context.engine.toEngine (record "priority") ∧
            SuppliesCount context.engine.toEngine (record "maxAmps") := by
  have isStored : Store.settingsOf { later with chargePoints } loaded.group.id =
      accepted.map (·.stored loaded.group.id) := by
    have stored := MembershipRequest.settingsOf_groupId isItems isAccepted answered
    rw [id_of_loaded found]
    exact stored
  have noneActive := activeMembers_eq_nil found isStored clock
  rw [← kept_iff isAccepted isStored]
  constructor
  · rintro ⟨active, kept⟩
    rw [noneActive, List.map_nil, eq_comm, List.map_eq_nil_iff, List.filter_eq_nil_iff] at active
    exact ⟨fun membership member => Bool.eq_false_of_not_eq_true (active membership member), kept⟩
  · rintro ⟨noneTakesPart, kept⟩
    refine ⟨?_, kept⟩
    rw [noneActive, List.filter_eq_nil_iff.mpr fun membership member => ?_]
    · rfl
    · rw [noneTakesPart membership member]
      exact Bool.false_ne_true

namespace Sample

def items (enabled : Bool) : List JsValue :=
  [.object ((JsRecord.empty.with "chargePointId" (.string "cp-1")).with "enabled"
    (.boolean enabled))]

def accepted (enabled : Bool) : List NormalizedMembership :=
  [⟨"cp-1", 0, enabled, none⟩]

def request (enabled : Bool) : MembershipRequest :=
  .replaceMemberships (.still 0) "group-1" (items enabled)

def recharged (later : Store) : Store :=
  { later with chargePoints := siteStore.chargePoints }

theorem normalize_items (enabled : Bool) :
    normalizeMembershipInputs siteContext.engine.toEngine (items enabled) =
      .ok (accepted enabled) := by
  cases enabled <;> decide +kernel

theorem exists_answered (enabled : Bool) :
    ∃ answer later loaded, (request enabled).handler siteContext siteStore = .ok answer later ∧
      loadGroupOrThrow siteContext (recharged later) "group-1" = .ok loaded := by
  have member : siteGroup.activation ∈ siteStore.activations := List.mem_singleton_self _
  have tenant : resolveTenantId siteContext = .ok siteGroup.activation.tenantId := by decide +kernel
  obtain ⟨answer, later, answered⟩ := (answers_replaceMemberships_iff member tenant (.still 0)
    (normalize_items enabled) (List.cons_ne_nil _ _)).mpr (by cases enabled <;> decide +kernel)
  have kept := (keepsActivations_replaceMemberships siteContext (.still 0) "group-1"
    (items enabled)).eq_of_ok answered
  have stays : siteGroup.activation ∈ (recharged later).activations := kept ▸ member
  obtain ⟨loaded, found, _⟩ := exists_loaded stays tenant
  exact ⟨answer, later, loaded, answered, found⟩

end Sample

open Sample

/-- A member that is enabled, capable and available is not active. -/
theorem items_not_inForce : ∃ answer later loaded,
      (request true).handler siteContext siteStore = .ok answer later ∧
        loadGroupOrThrow siteContext (recharged later) "group-1" = .ok loaded ∧
          ¬MembershipsInForce siteContext (.still 0) (items true) (accepted true)
            (recharged later) loaded := by
  obtain ⟨answer, later, loaded, answered, found⟩ := exists_answered true
  refine ⟨answer, later, loaded, answered, found, fun law => ?_⟩
  have stored : Store.settingsOf (recharged later) loaded.group.id =
      (accepted true).map (·.stored loaded.group.id) := by
    have stored := settingsOf_replaceMemberships (normalize_items true) answered
    rw [id_of_loaded found]
    exact stored
  have active := law.active
  rw [activeMembers_eq_nil found stored] at active
  have takes : (accepted true).filter (takesPart (recharged later)) =
      (accepted true).filter (takesPart siteStore) := rfl
  rw [takes] at active
  exact absurd active (by decide +kernel)

/-- A member that is not enabled is not active, as it should. -/
theorem items_inForce : ∃ answer later loaded,
      (request false).handler siteContext siteStore = .ok answer later ∧
        MembershipsInForce siteContext (.still 0) (items false) (accepted false)
          (recharged later) loaded := by
  obtain ⟨answer, later, loaded, answered, found⟩ := exists_answered false
  refine ⟨answer, later, loaded, answered, (membershipsInForce_iff (request false) rfl
    (normalize_items false) answered siteStore.chargePoints found (.still 0)).mpr ⟨?_, ?_⟩⟩
  · rintro membership (_ | ⟨_, ⟨⟩⟩)
    rfl
  · rintro item (_ | ⟨_, ⟨⟩⟩) record ⟨⟩
    exact ⟨False.elim, False.elim⟩

/-! ## What refused requests leave behind -/

/-- If the request is refused, the groups and the memberships are as they were. -/
def Undone (handler : Handler GroupBundle) (store : Store) : Prop :=
  ∀ error later, handler store = .error error later →
    later.groups = store.groups ∧ later.memberships = store.memberships

theorem undone_of_answers {handler : Handler GroupBundle} {store : Store}
    (answers : Answers handler store) : Undone handler store := by
  obtain ⟨answer, later, answered⟩ := answers
  intro error other refused
  rw [answered] at refused
  contradiction

theorem undone_of_refused {handler : Handler GroupBundle} {store : Store} {error : HttpException}
    (refused : handler store = .error error store) : Undone handler store := by
  intro other later again
  rw [refused] at again
  cases again
  exact ⟨rfl, rfl⟩

theorem assertChargePoints_congr {store other : Store}
    (same : store.chargePoints = other.chargePoints) :
    assertChargePoints store = assertChargePoints other := by
  funext stationId memberships
  induction memberships with
  | nil => rfl
  | cons membership memberships ih => rw [assertChargePoints, assertChargePoints, same, ih]

/-- The group can be loaded. -/
def IsStored (context : ServiceContext) (id : String) (store : Store) : Prop :=
  ∃ entry ∈ store.activations, entry.id = id ∧ resolveTenantId context = .ok entry.tenantId

/-- On a stored group the handler answers, and the group stays stored. -/
def Goes {α : Type} (context : ServiceContext) (id : String) (handler : Handler α) : Prop :=
  ∀ store, IsStored context id store →
    ∃ value later, handler store = .ok value later ∧ IsStored context id later

section Going

variable {context : ServiceContext} {id : String} {α β : Type}

theorem Goes.bind {handler : Handler α} {rest : α → Handler β} (first : Goes context id handler)
    (later : ∀ value, Goes context id (rest value)) : Goes context id (handler >>= rest) := by
  intro store isStored
  obtain ⟨value, middle, answered, staysStored⟩ := first store isStored
  rw [bind_of_ok answered]
  exact later value middle staysStored

theorem Goes.pure (value : α) : Goes context id (Pure.pure value : Handler α) :=
  fun store isStored => ⟨value, store, rfl, isStored⟩

theorem Goes.ite {condition : Prop} [Decidable condition] {first second : Handler α}
    (goesFirst : Goes context id first) (goesSecond : Goes context id second) :
    Goes context id (if condition then first else second) := by
  split
  · exact goesFirst
  · exact goesSecond

theorem Goes.lookup {rest : Store → GroupBundle → Handler α}
    (later : ∀ store loaded, loadGroupOrThrow context store id = .ok loaded →
      Goes context id (rest store loaded)) :
    Goes context id (do
      let store ← get
      let loaded ← orThrow (loadGroupOrThrow context store id)
      rest store loaded) := by
  rintro store ⟨entry, isEntry, rfl, tenant⟩
  obtain ⟨loaded, found, _⟩ := exists_loaded isEntry tenant
  rw [bind_of_ok (rfl : (get : Handler Store) store = .ok store store), found,
    bind_of_ok (orThrow_ok loaded store)]
  exact later store loaded found store ⟨entry, isEntry, rfl, tenant⟩

theorem goes_getGroup : Goes context id (getGroup context id) := by
  rintro store ⟨entry, isEntry, rfl, tenant⟩
  obtain ⟨loaded, found, _⟩ := exists_loaded isEntry tenant
  refine ⟨loaded, store, ?_, entry, isEntry, rfl, tenant⟩
  rw [getGroup, bind_of_ok (rfl : (get : Handler Store) store = .ok store store), found]
  rfl

theorem goes_recalculateGroup (clock : RecalculateClock) (input : RecalculateInput) :
    Goes context id (recalculateGroup context clock id input) := by
  rintro store ⟨entry, isEntry, rfl, tenant⟩
  obtain ⟨loaded, found, _⟩ := exists_loaded isEntry tenant
  obtain ⟨commands, carriedOut⟩ := recalculateGroup_eq context clock input found
  refine ⟨_, _, carriedOut, entry, ?_, rfl, tenant⟩
  exact (keepsActivations_recalculateGroup context clock _ input).eq_of_ok carriedOut ▸ isEntry

theorem goes_recalculateNow (clock : RecalculateClock) (input : JsRecord) :
    Goes context id (do
      if isTrue (input "recalculateNow") then
        let _ ← recalculateGroup context clock id
          ⟨false, some "config-update", some "Group configuration updated"⟩
      getGroup context id) :=
  Goes.ite (Goes.bind (goes_recalculateGroup clock _) fun _ => goes_getGroup) goes_getGroup

theorem goes_activateCreated (clock : RecalculateClock) (input : JsRecord) :
    Goes context id (activateCreated context clock id input) := by
  refine Goes.ite (Goes.bind (Goes.lookup fun _ loaded found => ?_) fun _ => Goes.pure _)
    (Goes.pure _)
  rw [id_of_loaded found]
  refine Goes.bind ?_ fun _ => Goes.bind (goes_recalculateGroup clock _) fun _ => goes_getGroup
  rintro store ⟨entry, isEntry, isId, tenant⟩
  refine ⟨_, putInCharge id (retireOthers loaded.group store), rfl,
    Activation.activated loaded.group.activation entry, ?_, ?_, ?_⟩
  · rw [← id_of_loaded found, activations_retireOthers_putInCharge]
    exact List.mem_map_of_mem isEntry
  · exact (Activation.id_activated _ entry).trans isId
  · exact tenant.trans (congrArg (Except.ok ·.1) (Activation.station_activated _ entry).symm)

end Going

section Creation

variable {context : ServiceContext} {store : Store} {createdId : String} {input : JsRecord}
  {created : EnergyLoadGroup} (isNew : newGroup context store createdId input = .ok created)
  (clock : GroupClock)
include isNew

theorem createGroup_eq :
    createGroup context clock createdId input store = (do
      insertGroup created
      createGroupMemberships context clock.memberships created.id input
      activateCreated context clock.last created.id input
      getGroup context created.id) store := by
  unfold createGroup
  rw [bind_of_ok (rfl : (get : Handler Store) store = .ok store store), isNew,
    bind_of_ok (orThrow_ok created store)]

theorem createGroup_of_added {grown : Store} (added : store.addGroup? created = some grown) :
    createGroup context clock createdId input store = (do
      createGroupMemberships context clock.memberships created.id input
      activateCreated context clock.last created.id input
      getGroup context created.id) grown := by
  have inserted : insertGroup created store = .ok () grown := by
    rw [insertGroup, bind_of_ok (rfl : (get : Handler Store) store = .ok store store), added]
    rfl
  rw [createGroup_eq isNew clock, bind_of_ok inserted]

theorem createGroup_of_not_added (refused : store.addGroup? created = none) :
    createGroup context clock createdId input store = .error .internal store := by
  have rejected : insertGroup created store = .error .internal store := by
    rw [insertGroup, bind_of_ok (rfl : (get : Handler Store) store = .ok store store), refused]
    rfl
  rw [createGroup_eq isNew clock, bind_of_error rejected]

end Creation

/-- Once the group is inserted, its memberships are accepted. -/
def CreatedWhole (context : ServiceContext) (store : Store) (createdId : String)
    (input : JsRecord) : Prop :=
  ∀ created grown, newGroup context store createdId input = .ok created →
    store.addGroup? created = some grown →
      MembershipsAccepted context grown created.stationId input

/-- A creation that is refused leaves nothing behind exactly when its memberships are not what it
is refused for. -/
theorem undone_createGroup_iff {context : ServiceContext} {store : Store} {createdId : String}
    {input : JsRecord} {clock : GroupClock} :
    Undone (createGroup context clock createdId input) store ↔
      CreatedWhole context store createdId input := by
  unfold CreatedWhole
  cases isNew : newGroup context store createdId input with
  | error error =>
    have refused : createGroup context clock createdId input store = .error error store := by
      unfold createGroup
      rw [bind_of_ok (rfl : (get : Handler Store) store = .ok store store), isNew]
      rfl
    exact iff_of_true (undone_of_refused refused) fun _ _ isOther => by contradiction
  | ok created =>
    cases added : store.addGroup? created with
    | none =>
      refine iff_of_true (undone_of_refused (createGroup_of_not_added isNew clock added)) ?_
      rintro _ _ ⟨⟩ isOther
      rw [added] at isOther
      contradiction
    | some grown =>
      have tenant := (newGroup_eq_ok isNew).1
      obtain ⟨grownEq, member, _, _⟩ := activations_addGroup added
      have isAccepted : Answers (createGroupMemberships context clock.memberships created.id
          input) grown ↔ MembershipsAccepted context grown created.stationId input :=
        answers_createGroupMemberships_iff member tenant clock.memberships input
      have kept :=
        keepsActivations_createGroupMemberships context clock.memberships created.id input
      constructor
      · rintro undone _ _ ⟨⟩ isGrown
        obtain rfl : grown = _ := Option.some.inj (added.symm.trans isGrown)
        rw [← isAccepted]
        by_contra refused
        cases outcome : createGroupMemberships context clock.memberships created.id input
            grown with
        | ok value later => exact refused ⟨value, later, outcome⟩
        | error error later =>
          obtain ⟨sameGroups, _⟩ := undone error later
            ((createGroup_of_added isNew clock added).trans (bind_of_error outcome _))
          have same : later.activations = store.activations := by
            rw [Store.activations, sameGroups, Store.activations]
          rw [kept.eq_of_error outcome, grownEq] at same
          exact absurd (congrArg List.length same) (by simp)
      · intro accepted
        obtain ⟨value, later, outcome⟩ := isAccepted.mpr (accepted created grown rfl added)
        obtain ⟨answer, last, answered, _⟩ :=
          (goes_activateCreated clock.last input).bind (fun _ => goes_getGroup) later
            ⟨created.activation, kept.eq_of_ok outcome ▸ member, rfl, tenant⟩
        exact undone_of_answers
          ⟨answer, last, (createGroup_of_added isNew clock added).trans
            ((bind_of_ok outcome _).trans answered)⟩

/-- The memberships of an update are none, or well formed and of the station. -/
def UpdateAccepted (context : ServiceContext) (store : Store) (stationId : String)
    (input : JsRecord) : Prop :=
  input "memberships" = .undefined ∨
    ∃ items memberships, iterate (input "memberships") = some items ∧
      normalizeMembershipInputs context.engine.toEngine items = .ok memberships ∧
        assertChargePoints store stationId memberships = .ok ⟨⟩

section Update

variable {context : ServiceContext} {store : Store} {entry : Activation}
  (member : entry ∈ store.activations) (tenant : resolveTenantId context = .ok entry.tenantId)
include member tenant

section

variable (clock : RecalculateClock) {items : List JsValue} {accepted : List NormalizedMembership}

theorem answers_replaceMemberships
    (isAccepted : normalizeMembershipInputs context.engine.toEngine items = .ok accepted)
    (checked : assertChargePoints store entry.stationId accepted = .ok ⟨⟩) :
    Answers (replaceMemberships context clock entry.id items) store := by
  by_cases isEmpty : accepted = []
  · obtain ⟨loaded, found, loadedEq⟩ := exists_loaded member tenant
    obtain ⟨answer, later, answered, _⟩ := goes_getGroup
      (deleteMemberships entry.id store) ⟨entry, member, rfl, tenant⟩
    refine ⟨answer, later, ?_⟩
    rw [replaceMemberships, bind_of_ok (rfl : (get : Handler Store) store = .ok store store), found,
      bind_of_ok (orThrow_ok loaded store), isAccepted, bind_of_ok (orThrow_ok accepted store),
      if_pos isEmpty, id_of_loaded found]
    exact answered
  · exact (answers_replaceMemberships_iff member tenant clock isAccepted isEmpty).mpr checked

theorem replaceMemberships_of_refused {error : HttpException}
    (isAccepted : normalizeMembershipInputs context.engine.toEngine items = .ok accepted)
    (refused : assertChargePoints store entry.stationId accepted = .error error) :
    replaceMemberships context clock entry.id items store = .error error store := by
  obtain ⟨loaded, found, rfl⟩ := exists_loaded member tenant
  have isGiven : accepted ≠ [] := by
    rintro rfl
    contradiction
  unfold replaceMemberships
  rw [bind_of_ok (rfl : (get : Handler Store) store = .ok store store), found,
    bind_of_ok (orThrow_ok loaded store), isAccepted, bind_of_ok (orThrow_ok accepted store),
    if_neg isGiven]
  change (orThrow (assertChargePoints store loaded.group.activation.stationId accepted) >>= _) _ = _
  rw [refused]
  rfl

end

theorem updateGroupMemberships_cases (clock : RecalculateClock) (input : JsRecord) :
    (UpdateAccepted context store entry.stationId input ∧
        Answers (updateGroupMemberships context clock entry.id input) store) ∨
      ¬UpdateAccepted context store entry.stationId input ∧ ∃ error,
          updateGroupMemberships context clock entry.id input store = .error error store := by
  by_cases isGiven : input "memberships" = .undefined
  · refine Or.inl ⟨Or.inl isGiven, ⟨⟩, store, ?_⟩
    rw [updateGroupMemberships, isGiven]
    rfl
  · rw [updateGroupMemberships_of_given isGiven, UpdateAccepted, or_iff_right isGiven]
    cases isIterated : iterate (input "memberships") with
    | none =>
      refine Or.inr ⟨?_, .internal, rfl⟩
      rintro ⟨_, _, ⟨⟩, _⟩
    | some items =>
      cases isAccepted : normalizeMembershipInputs context.engine.toEngine items with
      | error error =>
        refine Or.inr ⟨?_, error, ?_⟩
        · rintro ⟨_, _, ⟨⟩, isOther, _⟩
          rw [isAccepted] at isOther
          contradiction
        · change (orThrow (normalizeMembershipInputs _ items) >>= _) store = _
          rw [isAccepted]
          rfl
      | ok accepted =>
        have again := normalizeMembershipInputs_toInput isAccepted
        have normalized : (orThrow (normalizeMembershipInputs context.engine.toEngine items) :
            Handler (List NormalizedMembership)) store = .ok accepted store := by
          rw [isAccepted]
          rfl
        cases checked : assertChargePoints store entry.stationId accepted with
        | ok _ =>
          refine Or.inl ⟨⟨items, accepted, rfl, isAccepted, checked⟩, ?_⟩
          obtain ⟨answer, later, answered⟩ :=
            answers_replaceMemberships member tenant clock again checked
          exact ⟨⟨⟩, later, (bind_of_ok normalized _).trans (bind_of_ok answered _)⟩
        | error error =>
          refine Or.inr ⟨?_, error, (bind_of_ok normalized _).trans (bind_of_error
            (replaceMemberships_of_refused member tenant clock again checked) _)⟩
          rintro ⟨_, _, ⟨⟩, isOther, wasChecked⟩
          obtain rfl := Except.ok.inj (isAccepted.symm.trans isOther)
          rw [checked] at wasChecked
          contradiction

end Update

theorem updateWhere_id_eq_iff {groups : Table EnergyLoadGroup EnergyLoadGroup.id}
    {group : EnergyLoadGroup} (change : GroupChange) (isRow : group ∈ groups.rows) :
    groups.updateWhere (·.id = group.id) change.apply change.id_apply = groups ↔
      change.apply group = group := by
  constructor
  · intro same
    have changed : change.apply group ∈
        (groups.updateWhere (·.id = group.id) change.apply change.id_apply).rows :=
      Table.mem_updateWhere.mpr ⟨group, isRow, Or.inl ⟨decide_eq_true rfl, rfl⟩⟩
    rw [same] at changed
    exact groups.eq_of_key_eq changed isRow (change.id_apply group)
  · intro same
    refine Table.ext ((List.map_congr_left fun row isOther => ?_).trans (List.map_id _))
    by_cases isGroup : row.id = group.id
    · rw [groups.eq_of_key_eq isOther isRow isGroup, if_pos (decide_eq_true rfl), same, id]
    · rw [if_neg (by simpa using isGroup), id]

/-- Once the group is updated, its memberships are accepted, or nothing in it changed. -/
def UpdatedWhole (context : ServiceContext) (store : Store) (id : String) (input : JsRecord) :
    Prop :=
  ∀ loaded, loadGroupOrThrow context store id = .ok loaded →
    ∀ change, groupChanges context.engine.toEngine input = .ok change →
      store.nameTaken (change.apply loaded.group) = false →
        UpdateAccepted context store loaded.group.stationId input ∨
          change.apply loaded.group = loaded.group

/-- An update that is refused leaves nothing behind exactly when it is not refused for its
memberships, or changes no other column. -/
theorem undone_updateGroup_iff {context : ServiceContext} {store : Store} {id : String}
    {input : JsRecord} {clock : GroupClock} :
    Undone (updateGroup context clock id input) store ↔ UpdatedWhole context store id input := by
  unfold updateGroup Undone UpdatedWhole
  rw [bind_of_ok (rfl : (get : Handler Store) store = .ok store store)]
  cases found : loadGroupOrThrow context store id with
  | error error =>
    refine iff_of_true (undone_of_refused rfl) ?_
    rintro _ ⟨⟩
  | ok loaded =>
    cases isChange : groupChanges context.engine.toEngine input with
    | error error =>
      refine iff_of_true (undone_of_refused rfl) ?_
      rintro _ _ _ ⟨⟩
    | ok change =>
      obtain ⟨_, group, tenant, isGroup, rfl, rfl⟩ := loadGroupOrThrow_eq_ok_iff.mp found
      have isRow := (Table.find?_eq_some_iff.mp isGroup).1
      let changed : Store := { store with
        groups := store.groups.updateWhere (·.id = group.id) change.apply change.id_apply }
      simp only [Except.ok.injEq, forall_eq']
      change _ ↔ (store.nameTaken (change.apply group) = false →
        UpdateAccepted context store group.stationId input ∨ change.apply group = group)
      cases taken : store.nameTaken (change.apply group) with
      | true =>
        have refused : changeGroup group change store = .error .internal store := by
          rw [changeGroup, bind_of_ok (rfl : (get : Handler Store) store = .ok store store),
            taken]
          rfl
        exact iff_of_true (undone_of_refused (bind_of_error refused _)) fun isFree => by
          contradiction
      | false =>
        have done : changeGroup group change store = .ok ⟨⟩ changed := by
          rw [changeGroup, bind_of_ok (rfl : (get : Handler Store) store = .ok store store),
            taken]
          rfl
        have kept : changed.activations = store.activations :=
          (keepsActivations_changeGroup group change).eq_of_ok done
        have member : group.activation ∈ changed.activations :=
          kept.symm ▸ List.mem_map_of_mem isRow
        have sameChecks : UpdateAccepted context changed group.stationId input ↔
            UpdateAccepted context store group.stationId input := by
          have checks : assertChargePoints changed = assertChargePoints store :=
            assertChargePoints_congr rfl
          rw [UpdateAccepted, checks]
          rfl
        refine Iff.trans ?_ ⟨fun law _ => law, fun law => law rfl⟩
        rw [← sameChecks]
        rcases updateGroupMemberships_cases member tenant clock.memberships input with
          ⟨accepted, answer, later, answered⟩ | ⟨refused, error, isRefused⟩
        · refine iff_of_true ?_ (Or.inl accepted)
          have stays := (keepsActivations_updateGroupMemberships context clock.memberships
            group.id input).eq_of_ok answered
          obtain ⟨last, final, finished, _⟩ := goes_recalculateNow clock.last input later
            ⟨group.activation, stays ▸ member, rfl, tenant⟩
          exact undone_of_answers
            ⟨last, final, (bind_of_ok done _).trans ((bind_of_ok answered _).trans finished)⟩
        · refine Iff.trans ?_ ((updateWhere_id_eq_iff change isRow).trans
            (or_iff_right refused).symm)
          constructor
          · intro undone
            exact (undone error changed
              ((bind_of_ok done _).trans (bind_of_error isRefused _))).1
          · intro same other final again
            obtain ⟨rfl, rfl⟩ := EStateM.Result.error.inj
              (again.symm.trans ((bind_of_ok done _).trans (bind_of_error isRefused _)))
            exact ⟨same, rfl⟩

/-- A new group of `station-1` with a charge point that does not exist. -/
def unknownMember : JsRecord :=
  ((JsRecord.empty.with "stationId" (.string "station-1")).with "name" (.string "second")).with
    "memberships" (.array [.object (JsRecord.empty.with "chargePointId" (.string "cp-9"))])

end Csms.EnergyManagement
