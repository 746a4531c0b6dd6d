import Csms.Ocpi.Objects

/-!
# Partial updates of locations

A push of an EVSE or of a connector is merged into the stored location: the first part
that goes by the name in the path is replaced or patched, and where none does the body
becomes a new last part.  Nothing makes the body go by the name it is pushed under.
-/

namespace Csms.Ocpi

open Js Commands

def nameOf (field : String) (item : JsValue) : Option String :=
  extractString (ensureObject item) field

def namesOf (field : String) (items : List JsValue) : List String :=
  items.filterMap (nameOf field)

section Parts

variable (field wanted : String) (isPatch : Bool) (incoming : JsRecord)

/-- What the part with the name becomes. -/
def changed (item : JsValue) : JsValue :=
  .object (if isPatch then (ensureObject item).spread incoming else incoming)

def putNamed (items : List JsValue) : List JsValue :=
  putItem items (indexOf items field wanted) isPatch incoming

/-- The body goes by the name, or is a patch that leaves the name of its part alone. -/
def NamesTarget (items : List JsValue) : Prop :=
  extractString incoming field = some wanted ∨
    isPatch = true ∧ incoming field = .undefined ∧ indexOf items field wanted ≠ none

end Parts

section Parts

variable {field wanted : String} {isPatch : Bool} {incoming : JsRecord} {items : List JsValue}
  {index : Nat}

theorem spread_spread (record other : JsRecord) :
    (record.spread other).spread other = record.spread other := by
  funext name
  simp only [JsRecord.spread]
  cases other name <;> rfl

theorem spread_self (record : JsRecord) : record.spread record = record := by
  funext name
  simp only [JsRecord.spread]
  cases record name <;> rfl

theorem changed_changed (item : JsValue) :
    changed isPatch incoming (changed isPatch incoming item) = changed isPatch incoming item := by
  cases isPatch <;> simp [changed, ensureObject, spread_spread]

theorem changed_incoming : changed isPatch incoming (.object incoming) = .object incoming := by
  cases isPatch <;> simp [changed, ensureObject, spread_self]

theorem nameOf_changed {item : JsValue} (named : nameOf field item = some wanted) :
    nameOf field (changed isPatch incoming item) = some wanted ↔
      extractString incoming field = some wanted ∨
        isPatch = true ∧ incoming field = .undefined := by
  cases isPatch with
  | false => simp [nameOf, changed, ensureObject]
  | true =>
    simp only [nameOf, changed, ensureObject, if_true, true_and] at named ⊢
    unfold extractString JsRecord.spread at *
    cases incoming field <;> simp [named]

theorem indexOf_eq_some_iff : indexOf items field wanted = some index ↔
    ∃ item, items[index]? = some item ∧ nameOf field item = some wanted ∧
      ∀ earlier < index, ∀ item, items[earlier]? = some item → nameOf field item ≠ some wanted := by
  rw [indexOf, List.findIdx?_eq_some_iff_getElem]
  simp only [decide_eq_true_eq, List.getElem?_eq_some_iff]
  constructor
  · rintro ⟨inside, named, first⟩
    refine ⟨_, ⟨inside, rfl⟩, named, ?_⟩
    rintro earlier isEarlier _ ⟨within, rfl⟩
    exact first earlier isEarlier
  · rintro ⟨_, ⟨inside, rfl⟩, named, first⟩
    exact ⟨inside, named, fun earlier isEarlier =>
      first earlier isEarlier _ ⟨by omega, rfl⟩⟩

theorem indexOf_eq_none_iff : indexOf items field wanted = none ↔ wanted ∉ namesOf field items := by
  simp [indexOf, namesOf, nameOf, List.findIdx?_eq_none_iff]

theorem modify_eq_self_iff {change : JsValue → JsValue} : items.modify index change = items ↔
    ∀ item, items[index]? = some item → change item = item := by
  constructor
  · intro same item present
    have changedItem := congrArg (·[index]?) same
    simpa [present] using changedItem
  · intro same
    refine List.ext_getElem? fun slot => ?_
    by_cases isIndex : index = slot
    · subst isIndex
      rw [List.getElem?_modify_eq]
      rcases present : items[index]? with _ | item
      · rfl
      · exact congrArg some (same item present)
    · exact List.getElem?_modify_ne _ _ isIndex

theorem map_nameOf_modify {change : JsValue → JsValue}
    (same : ∀ item, items[index]? = some item → nameOf field (change item) = nameOf field item) :
    (items.modify index change).map (nameOf field) = items.map (nameOf field) := by
  refine List.ext_getElem? fun slot => ?_
  rw [List.getElem?_map, List.getElem?_map]
  by_cases isIndex : index = slot
  · subst isIndex
    rw [List.getElem?_modify_eq]
    rcases present : items[index]? with _ | item
    · rfl
    · exact congrArg some (same item present)
  · rw [List.getElem?_modify_ne _ _ isIndex]

section

variable {other : List JsValue} (same : items.map (nameOf field) = other.map (nameOf field))
include same

theorem namesOf_eq_of_map : namesOf field items = namesOf field other := by
  simpa [namesOf, List.filterMap_map] using congrArg (List.filterMap id) same

theorem indexOf_eq_of_map : indexOf items field wanted = indexOf other field wanted := by
  have found := congrArg (List.findIdx? fun name => decide (name = some wanted)) same
  rw [List.findIdx?_map, List.findIdx?_map] at found
  exact found

end

theorem putNamed_of_none (absent : indexOf items field wanted = none) :
    putNamed field wanted isPatch incoming items = items ++ [.object incoming] := by
  simp only [putNamed, putItem, absent]

theorem putNamed_of_some (found : indexOf items field wanted = some index) :
    putNamed field wanted isPatch incoming items =
      items.modify index (changed isPatch incoming) := by
  simp only [putNamed, putItem, found]
  rfl

/-- A part of another name stays where it is. -/
theorem getElem?_putNamed {item : JsValue} (present : items[index]? = some item)
    (other : nameOf field item ≠ some wanted) :
    (putNamed field wanted isPatch incoming items)[index]? = some item := by
  rcases found : indexOf items field wanted with _ | target
  · rw [putNamed_of_none found,
      List.getElem?_append_left (List.getElem?_eq_some_iff.mp present).1]
    exact present
  · obtain ⟨_, isTarget, named, -⟩ := indexOf_eq_some_iff.mp found
    have apart : target ≠ index := by
      rintro rfl
      rw [present] at isTarget
      cases isTarget
      exact other named
    rw [putNamed_of_some found, List.getElem?_modify_ne _ _ apart]
    exact present

theorem namesTarget_iff_of_some {item : JsValue} (found : indexOf items field wanted = some index)
    (named : nameOf field item = some wanted) : NamesTarget field wanted isPatch incoming items ↔
      nameOf field (changed isPatch incoming item) = some wanted := by
  rw [nameOf_changed named]
  simp [NamesTarget, found]

theorem namesTarget_iff_of_none (absent : indexOf items field wanted = none) :
    NamesTarget field wanted isPatch incoming items ↔
      extractString incoming field = some wanted := by
  simp [NamesTarget, absent]

theorem nodup_namesOf_putNamed (names : NamesTarget field wanted isPatch incoming items)
    (unique : (namesOf field items).Nodup) :
    (namesOf field (putNamed field wanted isPatch incoming items)).Nodup := by
  rcases found : indexOf items field wanted with _ | index
  · have named : nameOf field (.object incoming) = some wanted :=
      (namesTarget_iff_of_none found).mp names
    have fresh := indexOf_eq_none_iff.mp found
    rw [putNamed_of_none found, namesOf, List.filterMap_append]
    simp only [List.filterMap_cons, named, List.filterMap_nil]
    exact List.nodup_append.mpr ⟨unique, List.nodup_singleton _, by
      rintro name isOld _ isNew rfl
      exact fresh (List.mem_singleton.mp isNew ▸ isOld)⟩
  · obtain ⟨item, isTarget, named, -⟩ := indexOf_eq_some_iff.mp found
    rw [putNamed_of_some found, namesOf_eq_of_map (map_nameOf_modify _)]
    · exact unique
    · intro target present
      rw [isTarget] at present
      cases present
      rw [named]
      exact (namesTarget_iff_of_some found named).mp names

theorem putNamed_putNamed_iff :
    putNamed field wanted isPatch incoming (putNamed field wanted isPatch incoming items) =
        putNamed field wanted isPatch incoming items ↔
      NamesTarget field wanted isPatch incoming items := by
  rcases found : indexOf items field wanted with _ | index
  · rw [putNamed_of_none found, namesTarget_iff_of_none found]
    constructor
    · intro again
      by_contra unnamed
      have absent : indexOf (items ++ [.object incoming]) field wanted = none := by
        rw [indexOf_eq_none_iff] at found ⊢
        simp only [namesOf, List.filterMap_append, List.mem_append, not_or] at found ⊢
        exact ⟨found, by simpa [nameOf, ensureObject] using unnamed⟩
      rw [putNamed_of_none absent] at again
      simp at again
    · intro named
      have isLast : indexOf (items ++ [.object incoming]) field wanted = some items.length := by
        rw [indexOf_eq_some_iff]
        refine ⟨.object incoming, by simp, named, ?_⟩
        intro earlier isEarlier item present isNamed
        rw [List.getElem?_append_left isEarlier] at present
        exact indexOf_eq_none_iff.mp found
          (List.mem_filterMap.mpr ⟨item, List.mem_of_getElem? present, isNamed⟩)
      rw [putNamed_of_some isLast, modify_eq_self_iff]
      intro item present
      rw [List.getElem?_concat_length] at present
      cases present
      exact changed_incoming
  · obtain ⟨item, isTarget, named, first⟩ := indexOf_eq_some_iff.mp found
    rw [putNamed_of_some found, namesTarget_iff_of_some found named]
    constructor
    · intro again
      rcases second : indexOf (items.modify index (changed isPatch incoming)) field wanted
        with _ | later
      · rw [putNamed_of_none second] at again
        simp at again
      · rw [putNamed_of_some second, modify_eq_self_iff] at again
        -- whichever part is found now was not changed by the repetition
        obtain ⟨other, isOther, otherNamed, -⟩ := indexOf_eq_some_iff.mp second
        rw [nameOf_changed named, ← nameOf_changed otherNamed, again other isOther]
        exact otherNamed
    · intro stays
      have second : indexOf (items.modify index (changed isPatch incoming)) field wanted =
          some index := by
        rw [indexOf_eq_some_iff]
        refine ⟨changed isPatch incoming item, by simp [isTarget], stays, ?_⟩
        intro earlier isEarlier other present
        rw [List.getElem?_modify_ne _ _ (by omega)] at present
        exact first earlier isEarlier other present
      rw [putNamed_of_some second, modify_eq_self_iff]
      intro other present
      rw [List.getElem?_modify_eq, isTarget] at present
      cases present
      exact changed_changed item

end Parts

def evsesOf (location : JsRecord) : List JsValue :=
  arrayItems (location "evses")

def connectorsOf (evse : JsValue) : List JsValue :=
  arrayItems (ensureObject evse "connectors")

/-- The uid of the EVSE that an update is of. -/
def LocationUpsert.uid (payload : LocationUpsert) : Option String :=
  orText payload.evseUid
    (if payload.objectType = some .evse then extractString payload.data "uid" else none)

/-- What a merge is to guarantee. -/
structure MergeLaws (existing : JsRecord) (payload : LocationUpsert) (isPatch : Bool) : Prop where
  idempotent : mergeLocation (mergeLocation existing payload isPatch) payload isPatch =
    mergeLocation existing payload isPatch
  otherEvses : ∀ (index : Nat) evse, (evsesOf existing)[index]? = some evse →
    (∀ uid, nameOf "uid" evse = some uid → payload.uid ≠ some uid) →
    (evsesOf (mergeLocation existing payload isPatch))[index]? = some evse
  otherConnectors : payload.objectType = some .connector →
    ∀ (index : Nat) evse, (evsesOf existing)[index]? = some evse →
    ∀ (slot : Nat) connector, (connectorsOf evse)[slot]? = some connector →
    (∀ id, nameOf "id" connector = some id → payload.connectorId ≠ some id) →
    ∃ merged, (evsesOf (mergeLocation existing payload isPatch))[index]? = some merged ∧
      (connectorsOf merged)[slot]? = some connector
  uniqueUids : (namesOf "uid" (evsesOf existing)).Nodup →
    (namesOf "uid" (evsesOf (mergeLocation existing payload isPatch))).Nodup
  uniqueIds : (∀ evse ∈ evsesOf existing, (namesOf "id" (connectorsOf evse)).Nodup) →
    ∀ evse ∈ evsesOf (mergeLocation existing payload isPatch),
      (namesOf "id" (connectorsOf evse)).Nodup

/-- The body goes by the name of the part it is pushed as; an EVSE does not bring two
connectors of one id into a location without such. -/
def FitsPath (existing : JsRecord) (payload : LocationUpsert) (isPatch : Bool) : Prop :=
  ∀ uid, payload.uid = some uid →
    match payload.objectType with
    | some .evse => NamesTarget "uid" uid isPatch payload.data (evsesOf existing) ∧
        ((∀ evse ∈ evsesOf existing, (namesOf "id" (connectorsOf evse)).Nodup) →
          (namesOf "id" (arrayItems (payload.data "connectors"))).Nodup)
    | some .connector =>
      ∀ connectorId, orText payload.connectorId none = some connectorId →
      ∀ index, indexOf (evsesOf existing) "uid" uid = some index →
      ∀ evse, (evsesOf existing)[index]? = some evse →
        NamesTarget "id" connectorId isPatch payload.data (connectorsOf evse)
    | _ => True

section Merge

variable {existing : JsRecord} {payload : LocationUpsert} {isPatch : Bool}

theorem mergeLaws_of_eq (same : mergeLocation existing payload isPatch = existing) :
    MergeLaws existing payload isPatch := by
  refine ⟨by rw [same, same], ?_, ?_, ?_, ?_⟩ <;> rw [same]
  · exact fun _ _ present _ => present
  · exact fun _ _ evse present _ _ isConnector _ => ⟨evse, present, isConnector⟩
  · exact id
  · exact id

theorem evsesOf_with (location : JsRecord) (evses : List JsValue) :
    evsesOf (location.with "evses" (.array evses)) = evses :=
  rfl

theorem with_evses_eq_iff (location : JsRecord) (evses others : List JsValue) :
    (location.with "evses" (.array evses)).with "evses" (.array others) =
        location.with "evses" (.array evses) ↔ others = evses := by
  constructor
  · intro same
    exact congrArg evsesOf same
  · rintro rfl
    funext name
    simp only [JsRecord.with]
    split <;> rfl

/-! ### EVSEs -/

theorem mergeLocation_evse {uid : String} (isPatch : Bool) (location : JsRecord)
    (isEvse : payload.objectType = some .evse) (isUid : payload.uid = some uid) :
    mergeLocation location payload isPatch = location.with "evses"
      (.array (putNamed "uid" uid isPatch payload.data (evsesOf location))) := by
  rw [LocationUpsert.uid, if_pos isEvse] at isUid
  simp only [mergeLocation, isEvse, Option.getD_some, isUid]
  rfl

/-- The part that an update leaves is the old one changed, or the body. -/
theorem exists_changed_mem_putNamed (field wanted : String) (isPatch : Bool) (incoming : JsRecord)
    (items : List JsValue) : ∃ item, (item = .object incoming ∨ item ∈ items) ∧
      changed isPatch incoming item ∈ putNamed field wanted isPatch incoming items ∧
      ∀ other ∈ putNamed field wanted isPatch incoming items,
        other = changed isPatch incoming item ∨ other ∈ items := by
  rcases found : indexOf items field wanted with _ | index
  · refine ⟨.object incoming, .inl rfl, ?_⟩
    rw [putNamed_of_none found, changed_incoming]
    simp [or_comm]
  · obtain ⟨item, isTarget, -, -⟩ := indexOf_eq_some_iff.mp found
    refine ⟨item, .inr (List.mem_of_getElem? isTarget), ?_⟩
    rw [putNamed_of_some found]
    constructor
    · exact List.mem_of_getElem? (i := index) (by simp [isTarget])
    · intro other isMember
      obtain ⟨slot, present⟩ := List.mem_iff_getElem?.mp isMember
      by_cases isIndex : index = slot
      · subst isIndex
        rw [List.getElem?_modify_eq, isTarget] at present
        cases present
        exact .inl rfl
      · rw [List.getElem?_modify_ne _ _ isIndex] at present
        exact .inr (List.mem_of_getElem? present)

/-- A part has the connectors of the body, where the body has any. -/
theorem connectorsOf_changed (isPatch : Bool) (incoming : JsRecord) (item : JsValue) :
    connectorsOf (changed isPatch incoming item) = arrayItems (incoming "connectors") ∨
      arrayItems (incoming "connectors") = [] ∧
        connectorsOf (changed isPatch incoming item) = connectorsOf item := by
  cases isPatch with
  | false => exact .inl rfl
  | true =>
    simp only [connectorsOf, changed, ensureObject, if_true, JsRecord.spread]
    cases incoming "connectors" <;> simp [arrayItems]

theorem mergeLaws_evse_iff {uid : String} (isEvse : payload.objectType = some .evse)
    (isUid : payload.uid = some uid) :
    MergeLaws existing payload isPatch ↔ FitsPath existing payload isPatch := by
  have merged := fun location => mergeLocation_evse isPatch location isEvse isUid
  have evses := congrArg evsesOf (merged existing)
  rw [evsesOf_with] at evses
  simp only [FitsPath, isUid, isEvse, Option.some.injEq, forall_eq']
  obtain ⟨item, origin, isMember, others⟩ :=
    exists_changed_mem_putNamed "uid" uid isPatch payload.data (evsesOf existing)
  constructor
  · intro laws
    constructor
    · have again := laws.idempotent
      rw [merged (mergeLocation existing payload isPatch), evses, merged existing,
        with_evses_eq_iff, putNamed_putNamed_iff] at again
      exact again
    · intro unique
      have after := laws.uniqueIds unique (changed isPatch payload.data item)
      rw [evses] at after
      rcases connectorsOf_changed isPatch payload.data item with same | ⟨none, -⟩
      · exact same ▸ after isMember
      · rw [none]
        exact List.nodup_nil
  · rintro ⟨names, own⟩
    refine ⟨?_, ?_, ?_, ?_, ?_⟩
    · rw [merged (mergeLocation existing payload isPatch), evses, merged existing,
        with_evses_eq_iff, putNamed_putNamed_iff]
      exact names
    · intro index evse present other
      rw [evses]
      exact getElem?_putNamed present fun named => other uid named isUid
    · rw [isEvse]
      intro isConnector
      cases isConnector
    · rw [evses]
      exact nodup_namesOf_putNamed names
    · rw [evses]
      intro unique evse isEvse
      rcases others evse isEvse with rfl | isOld
      · rcases connectorsOf_changed isPatch payload.data item with same | ⟨-, same⟩
        · rw [same]
          exact own unique
        · rw [same]
          rcases origin with rfl | isOld
          · exact own unique
          · exact unique item isOld
      · exact unique evse isOld

/-! ### Connectors -/

theorem orText_none_eq_some {left : Option String} {text : String}
    (chosen : orText left none = some text) : left = some text := by
  rcases left with _ | left
  · exact chosen
  · rw [orText] at chosen
    split at chosen
    · cases chosen
    · exact chosen

def withConnector (connectorId : String) (isPatch : Bool) (incoming : JsRecord) (evse : JsValue) :
    JsValue :=
  .object ((ensureObject evse).with "connectors"
    (.array (putNamed "id" connectorId isPatch incoming (connectorsOf evse))))

theorem withConnector_withConnector_iff {connectorId : String} {incoming : JsRecord}
    {evse : JsValue} :
    withConnector connectorId isPatch incoming (withConnector connectorId isPatch incoming evse) =
        withConnector connectorId isPatch incoming evse ↔
      NamesTarget "id" connectorId isPatch incoming (connectorsOf evse) := by
  rw [← putNamed_putNamed_iff]
  constructor
  · intro same
    exact congrArg connectorsOf same
  · intro same
    refine congrArg JsValue.object (funext fun name => ?_)
    change JsRecord.with (JsRecord.with _ _ _) _
      (.array (putNamed _ _ _ _ (putNamed _ _ _ _ _))) _ = _
    rw [same]
    simp only [JsRecord.with]
    split <;> rfl

theorem uid_of_connector (isConnector : payload.objectType = some .connector) :
    payload.uid = orText payload.evseUid none := by
  simp [LocationUpsert.uid, isConnector]

theorem mergeLaws_connector_iff {uid connectorId : String} {index : Nat} {evse : JsValue}
    (isConnector : payload.objectType = some .connector) (isUid : payload.uid = some uid)
    (isId : orText payload.connectorId none = some connectorId)
    (found : indexOf (evsesOf existing) "uid" uid = some index)
    (isTarget : (evsesOf existing)[index]? = some evse) : MergeLaws existing payload isPatch ↔
      NamesTarget "id" connectorId isPatch payload.data (connectorsOf evse) := by
  have merged : ∀ location, indexOf (evsesOf location) "uid" uid = some index →
      mergeLocation location payload isPatch = location.with "evses" (.array
        ((evsesOf location).modify index (withConnector connectorId isPatch payload.data))) := by
    intro location atIndex
    rw [evsesOf] at atIndex
    simp only [mergeLocation, isConnector, Option.getD_some, ← uid_of_connector isConnector, isUid,
      isId, atIndex]
    rfl
  have evses := congrArg evsesOf (merged existing found)
  rw [evsesOf_with] at evses
  have uids : ((evsesOf existing).modify index (withConnector connectorId isPatch payload.data)).map
      (nameOf "uid") = (evsesOf existing).map (nameOf "uid") :=
    map_nameOf_modify fun _ _ => rfl
  have again : mergeLocation (mergeLocation existing payload isPatch) payload isPatch =
      mergeLocation existing payload isPatch ↔
        NamesTarget "id" connectorId isPatch payload.data (connectorsOf evse) := by
    rw [merged (mergeLocation existing payload isPatch)
        (by rw [evses, indexOf_eq_of_map uids, found]), evses, merged existing found,
      with_evses_eq_iff, modify_eq_self_iff, ← withConnector_withConnector_iff]
    simp [isTarget]
  rw [← again]
  refine ⟨MergeLaws.idempotent, fun idempotent => ⟨idempotent, ?_, ?_, ?_, ?_⟩⟩
  · intro slot other present isOther
    have apart : index ≠ slot := by
      rintro rfl
      obtain ⟨_, isNamed, named, -⟩ := indexOf_eq_some_iff.mp found
      rw [present] at isNamed
      cases isNamed
      exact isOther uid named isUid
    rw [evses, List.getElem?_modify_ne _ _ apart]
    exact present
  · intro _ slot other present place connector isThere isOther
    rw [evses]
    by_cases isIndex : index = slot
    · subst isIndex
      rw [isTarget] at present
      cases present
      refine ⟨_, by rw [List.getElem?_modify_eq, isTarget]; rfl, ?_⟩
      refine getElem?_putNamed isThere fun named => isOther connectorId named ?_
      exact orText_none_eq_some isId
    · exact ⟨other, by rw [List.getElem?_modify_ne _ _ isIndex, present], isThere⟩
  · rw [evses, namesOf_eq_of_map uids]
    exact id
  · intro unique other isMember
    rw [evses] at isMember
    obtain ⟨slot, present⟩ := List.mem_iff_getElem?.mp isMember
    by_cases isIndex : index = slot
    · subst isIndex
      rw [List.getElem?_modify_eq, isTarget] at present
      cases present
      exact nodup_namesOf_putNamed (again.mp idempotent)
        (unique evse (List.mem_of_getElem? isTarget))
    · rw [List.getElem?_modify_ne _ _ isIndex] at present
      exact unique other (List.mem_of_getElem? present)

/-! ### The exact condition -/

end Merge

/-! ### A patch without the uid -/

/-- The status of a new EVSE, whose uid is in the path alone. -/
def statusPatch : LocationUpsert where
  countryCode := "NL"
  partyId := "CPO"
  id := "LOC1"
  version := none
  data := JsRecord.empty.with "status" (.string "AVAILABLE")
  lastUpdated := none
  objectType := some .evse
  evseUid := some "E1"
  connectorId := none

end Csms.Ocpi
