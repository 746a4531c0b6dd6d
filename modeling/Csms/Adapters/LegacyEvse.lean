import Csms.Js.Text
import Mathlib.Data.Finset.Card
import Mathlib.Data.Rat.Init

/-!
# Messages of legacy EVSE devices

The adapter keeps for each device the timestamps that it has seen, at most a thousand of them.  A
message is marked before it is published, and its timestamp stands for all of it.
-/

namespace Csms.Adapters

open Js

structure LegacyEvseStatusPayload where
  connectorStatus : Option String
  (connectorPower voltage current : Option ℚ)
  vendorStatus : Option String
  deriving DecidableEq

/-- Dates are milliseconds. -/
structure LegacyEvseTransactionPayload where
  transactionId : String
  (userId rfidTag : Option String)
  (startTime endTime : Option Int)
  energyDelivered : Option ℚ
  status : Option String
  deriving DecidableEq

/-- The `type` of a payload with its `data`. -/
inductive RawVendorData where
  | status (data : LegacyEvseStatusPayload)
  | transaction (data : LegacyEvseTransactionPayload)
  | unhandled (type : String)
  deriving DecidableEq

structure RawVendorPayload where
  deviceId : String
  ts : Option String
  data : RawVendorData
  deriving DecidableEq

structure MqttDeviceRegistry where
  (tenantId vendorDeviceId siteId : String)
  (isLegacyEvse isActive : Bool)

inductive ConnectorStatus where
  | available
  | occupied
  | unavailable
  | faulted

inductive TransactionStatus where
  | started
  | completed
  | stopped
  | error

inductive LegacyEvseEvent where
  | status (tenantId siteId : String) (timestamp : Int) (chargerId : String)
    (connectorStatus : ConnectorStatus) (connectorPower voltage current : ℚ) (vendorStatus : String)
  | transaction (tenantId siteId : String) (timestamp : Int) (chargerId transactionId : String)
    (userId rfidTag : Option String) (startTime : Int) (endTime : Option Int)
    (energyDelivered : ℚ) (status : TransactionStatus)

/-- The text includes one of the words, in capital letters. -/
def mentions (text : Option String) (words : List String) : Bool :=
  words.any fun word => word.toList <:+: (toUpperCase (text.getD "")).toList

def normalizeConnectorStatus (status : Option String) : ConnectorStatus :=
  if mentions status ["AVAILABLE", "FREE", "IDLE"] then .available
  else if mentions status ["CHARGING", "OCCUPIED", "BUSY"] then .occupied
  else if mentions status ["FAULT", "ERROR", "DOWN"] then .faulted
  else .unavailable

def normalizeTransactionStatus (status : Option String) : TransactionStatus :=
  if mentions status ["START", "BEGIN"] then .started
  else if mentions status ["COMPLETE", "FINISH", "SUCCESS"] then .completed
  else if mentions status ["STOP", "CANCEL"] then .stopped
  else .error

/-- A payload that arrives, and whether the call that publishes it would throw. -/
structure Delivery where
  payload : RawVendorPayload
  now : Int
  publishThrows : Bool

/-- `processedMessages`; a device that is absent has seen nothing. -/
abbrev ProcessedMessages : Type :=
  String → List String

def lookupDeviceRegistry (registry : List MqttDeviceRegistry) (vendorDeviceId : String) :
    Option MqttDeviceRegistry :=
  registry.find? fun row =>
    row.vendorDeviceId = vendorDeviceId && row.isLegacyEvse && row.isActive

/-- The cache with the message, alone when there are more than a thousand. -/
def ProcessedMessages.add (processed : ProcessedMessages) (deviceId messageId : String) :
    ProcessedMessages :=
  let deviceCache := processed deviceId ++ [messageId]
  Function.update processed deviceId
    (if 1000 < deviceCache.length then [messageId] else deviceCache)

def deduplicateEvent (processed : ProcessedMessages) (deviceId messageId : String) :
    Bool × ProcessedMessages :=
  if messageId = "" then (false, processed)
  else if messageId ∈ processed deviceId then (true, processed)
  else (false, processed.add deviceId messageId)

/-- The event of a payload, if its type is handled. -/
def eventOf (device : MqttDeviceRegistry) (now : Int) : RawVendorData → Option LegacyEvseEvent
  | .status data =>
    some (.status device.tenantId device.siteId now device.vendorDeviceId
      (normalizeConnectorStatus data.connectorStatus) (data.connectorPower.getD 0)
      (data.voltage.getD 0) (data.current.getD 0) (data.vendorStatus.getD ""))
  | .transaction data =>
    some (.transaction device.tenantId device.siteId now device.vendorDeviceId data.transactionId
      data.userId data.rfidTag (data.startTime.getD now) data.endTime
      (data.energyDelivered.getD 0) (normalizeTransactionStatus data.status))
  | .unhandled _ => none

/-- What is remembered after a payload, and the event that is published. -/
def processIncomingPayload (registry : List MqttDeviceRegistry) (processed : ProcessedMessages)
    (delivery : Delivery) : ProcessedMessages × Option LegacyEvseEvent :=
  match lookupDeviceRegistry registry delivery.payload.deviceId, orText delivery.payload.ts none with
  | some device, some messageId =>
    let (isDuplicate, processed) := deduplicateEvent processed device.vendorDeviceId messageId
    if isDuplicate || delivery.publishThrows then (processed, none)
    else (processed, eventOf device delivery.now delivery.payload.data)
  | _, _ => (processed, none)

/-- What is remembered after deliveries. -/
def processedAfter (registry : List MqttDeviceRegistry) (deliveries : List Delivery) :
    ProcessedMessages :=
  deliveries.foldl (fun processed delivery => (processIncomingPayload registry processed delivery).1)
    fun _ => []

/-- Every device has at most a thousand messages, each of them once. -/
def ProcessedMessages.IsBounded (processed : ProcessedMessages) : Prop :=
  ∀ deviceId, (processed deviceId).length ≤ 1000 ∧ (processed deviceId).Nodup

theorem isBounded_deduplicateEvent {processed : ProcessedMessages} (bounded : processed.IsBounded)
    (deviceId messageId : String) : (deduplicateEvent processed deviceId messageId).2.IsBounded := by
  unfold deduplicateEvent
  split
  · exact bounded
  · split
    · exact bounded
    · rename_i isNew
      intro other
      dsimp only [ProcessedMessages.add]
      by_cases own : other = deviceId
      · rw [own, Function.update_self]
        split
        · exact ⟨Nat.le_of_ble_eq_true rfl, List.nodup_singleton _⟩
        · exact ⟨not_lt.mp ‹_›, (bounded deviceId).2.append (List.nodup_singleton _)
            (List.disjoint_singleton.mpr isNew)⟩
      · rw [Function.update_of_ne own]
        exact bounded other

def Delivery.ts (delivery : Delivery) : String :=
  delivery.payload.ts.getD ""

def timestamps (deviceId : String) (deliveries : List Delivery) : List String :=
  (deliveries.filter fun delivery => delivery.payload.deviceId = deviceId).map Delivery.ts

/-- A status or a transaction with a timestamp, from a device that is registered. -/
structure Delivery.IsValid (registry : List MqttDeviceRegistry) (delivery : Delivery) : Prop where
  registered : ∃ device, lookupDeviceRegistry registry delivery.payload.deviceId = some device
  stamped : ∃ ts, delivery.payload.ts = some ts ∧ ts ≠ ""
  handled : ∀ type, delivery.payload.data ≠ .unhandled type

/-- The message has come before, and the call that publishes it has not thrown. -/
def CameBefore (earlier : List Delivery) (message : RawVendorPayload) : Prop :=
  ∃ delivery ∈ earlier, delivery.publishThrows = false ∧ delivery.payload = message

/-- Of the copies of each message, the first whose publish call does not throw is published, and
no other. -/
def PublishesOnce (registry : List MqttDeviceRegistry) (deliveries : List Delivery) : Prop :=
  ∀ earlier delivery later, deliveries = earlier ++ delivery :: later →
    ((processIncomingPayload registry (processedAfter registry earlier) delivery).2.isSome = true ↔
      delivery.publishThrows = false ∧ ¬ CameBefore earlier delivery.payload)

/-- The timestamp of each message is remembered exactly when the message has come before, unless
the call that publishes it throws. -/
def RemembersMessages (registry : List MqttDeviceRegistry) (deliveries : List Delivery) : Prop :=
  ∀ earlier delivery later, deliveries = earlier ++ delivery :: later →
    delivery.publishThrows = false →
      (delivery.ts ∈ processedAfter registry earlier delivery.payload.deviceId ↔
        CameBefore earlier delivery.payload)

/-- No publish call throws, no two messages of a device share a timestamp, and no device sends more
than a thousand of them. -/
structure IsPlain (deliveries : List Delivery) : Prop where
  published : ∀ delivery ∈ deliveries, delivery.publishThrows = false
  distinct : ∀ first ∈ deliveries, ∀ second ∈ deliveries,
    first.payload.deviceId = second.payload.deviceId → first.payload.ts = second.payload.ts →
      first.payload = second.payload
  few : ∀ deviceId, (timestamps deviceId deliveries).toFinset.card ≤ 1000

section Publishing

variable {registry : List MqttDeviceRegistry} {deliveries : List Delivery} {delivery : Delivery}

theorem processIncomingPayload_of_isValid (valid : delivery.IsValid registry)
    (processed : ProcessedMessages) :
    (processIncomingPayload registry processed delivery).1 =
        (if delivery.ts ∈ processed delivery.payload.deviceId then processed
          else processed.add delivery.payload.deviceId delivery.ts) ∧
      ((processIncomingPayload registry processed delivery).2.isSome = true ↔
        delivery.publishThrows = false ∧ delivery.ts ∉ processed delivery.payload.deviceId) := by
  obtain ⟨device, isDevice⟩ := valid.registered
  obtain ⟨ts, isTs, notEmpty⟩ := valid.stamped
  have sameDevice : device.vendorDeviceId = delivery.payload.deviceId := by
    have found := List.find?_some isDevice
    simp only [Bool.and_eq_true, decide_eq_true_eq] at found
    exact found.1.1
  have hasEvent : (eventOf device delivery.now delivery.payload.data).isSome = true := by
    have handled := valid.handled
    unfold eventOf
    split
    · rfl
    · rfl
    · exact absurd ‹_› (handled _)
  have isStamp : delivery.ts = ts := by rw [Delivery.ts, isTs, Option.getD_some]
  rw [processIncomingPayload, isDevice, isTs, orText, if_neg notEmpty, isStamp, ← sameDevice]
  simp only [deduplicateEvent, if_neg notEmpty]
  by_cases seen : ts ∈ processed device.vendorDeviceId
  · simp [seen]
  · cases throws : delivery.publishThrows <;> simp [seen, hasEvent]

theorem publishesOnce_iff_remembersMessages
    (valid : ∀ delivery ∈ deliveries, delivery.IsValid registry) :
    PublishesOnce registry deliveries ↔ RemembersMessages registry deliveries := by
  refine forall_congr' fun earlier => forall_congr' fun delivery => forall_congr' fun later =>
    forall_congr' fun isSplit => ?_
  have isValid := valid delivery (isSplit ▸ List.mem_append_right _ List.mem_cons_self)
  rw [(processIncomingPayload_of_isValid isValid _).2]
  tauto

theorem timestamps_concat (deviceId : String) (earlier : List Delivery) (last : Delivery) :
    timestamps deviceId (earlier ++ [last]) = timestamps deviceId earlier ++
      if last.payload.deviceId = deviceId then [last.ts] else [] := by
  by_cases own : last.payload.deviceId = deviceId <;> simp [timestamps, List.filter_append, own]

theorem add_self_of_few {processed : ProcessedMessages} {deviceId ts : String} {seen : List String}
    (nodup : (processed deviceId).Nodup) (lists : ∀ text, text ∈ processed deviceId ↔ text ∈ seen)
    (isNew : ts ∉ processed deviceId) (few : (seen ++ [ts]).toFinset.card ≤ 1000) :
    processed.add deviceId ts deviceId = processed deviceId ++ [ts] := by
  have distinct : (processed deviceId ++ [ts]).Nodup := nodup.append (List.nodup_singleton ts)
    (List.disjoint_singleton.mpr isNew)
  have subset : (processed deviceId ++ [ts]).toFinset ⊆ (seen ++ [ts]).toFinset := by
    intro text
    simp only [List.mem_toFinset, List.mem_append, lists]
    exact id
  rw [ProcessedMessages.add, Function.update_self, if_neg]
  rw [not_lt, ← List.toFinset_card_of_nodup distinct]
  exact (Finset.card_le_card subset).trans few

/-- A device with few timestamps has them all remembered. -/
theorem mem_processedAfter_iff {deviceId : String}
    (valid : ∀ delivery ∈ deliveries, delivery.IsValid registry)
    (few : (timestamps deviceId deliveries).toFinset.card ≤ 1000) :
    (processedAfter registry deliveries deviceId).Nodup ∧ ∀ ts,
      ts ∈ processedAfter registry deliveries deviceId ↔ ts ∈ timestamps deviceId deliveries := by
  induction deliveries using List.reverseRecOn with
  | nil => exact ⟨List.nodup_nil, fun _ => Iff.rfl⟩
  | append_singleton earlier last ih =>
    have isValid := valid last (List.mem_append_right _ List.mem_cons_self)
    have fewer : (timestamps deviceId earlier).toFinset.card ≤ 1000 := by
      refine (Finset.card_le_card ?_).trans few
      rw [timestamps_concat, List.toFinset_append]
      exact Finset.subset_union_left
    obtain ⟨nodup, lists⟩ :=
      ih (fun delivery member => valid delivery (List.mem_append_left _ member)) fewer
    have after : processedAfter registry (earlier ++ [last]) =
        (processIncomingPayload registry (processedAfter registry earlier) last).1 := by
      rw [processedAfter, List.foldl_append]
      rfl
    rw [after, (processIncomingPayload_of_isValid isValid _).1]
    rw [timestamps_concat] at few ⊢
    by_cases own : last.payload.deviceId = deviceId
    · rw [if_pos own] at few
      rw [own, if_pos rfl]
      split
      · rename_i known
        refine ⟨nodup, fun ts => ?_⟩
        rw [List.mem_append, List.mem_singleton, lists]
        exact ⟨Or.inl, fun isOne => isOne.elim id fun same => same ▸ (lists _).mp known⟩
      · rename_i isNew
        rw [add_self_of_few nodup lists isNew few]
        refine ⟨nodup.append (List.nodup_singleton _) (List.disjoint_singleton.mpr isNew), fun ts => ?_⟩
        rw [List.mem_append, List.mem_append, lists]
    · have kept : (if last.ts ∈ processedAfter registry earlier last.payload.deviceId
          then processedAfter registry earlier else (processedAfter registry earlier).add
            last.payload.deviceId last.ts) deviceId = processedAfter registry earlier deviceId := by
        split
        · rfl
        · exact Function.update_of_ne (Ne.symm own) _ _
      rw [kept, if_neg own, List.append_nil]
      exact ⟨nodup, lists⟩

theorem remembersMessages_of_isPlain
    (valid : ∀ delivery ∈ deliveries, delivery.IsValid registry) (plain : IsPlain deliveries) :
    RemembersMessages registry deliveries := by
  rintro earlier delivery later rfl -
  have validEarlier (first : Delivery) (member : first ∈ earlier) : first.IsValid registry :=
    valid first (List.mem_append_left _ member)
  have few : (timestamps delivery.payload.deviceId earlier).toFinset.card ≤ 1000 := by
    refine (Finset.card_le_card ?_).trans (plain.few delivery.payload.deviceId)
    rw [timestamps, timestamps, List.filter_append, List.map_append, List.toFinset_append]
    exact Finset.subset_union_left
  rw [(mem_processedAfter_iff validEarlier few).2, timestamps, List.mem_map]
  simp only [List.mem_filter, decide_eq_true_eq]
  constructor
  · rintro ⟨first, ⟨member, sameDevice⟩, sameTs⟩
    refine ⟨first, member, plain.published first (List.mem_append_left _ member), ?_⟩
    refine plain.distinct first (List.mem_append_left _ member) delivery
      (List.mem_append_right _ List.mem_cons_self) sameDevice ?_
    obtain ⟨ts, isTs, _⟩ := (validEarlier first member).stamped
    obtain ⟨ts', isTs', _⟩ :=
      (valid delivery (List.mem_append_right _ List.mem_cons_self)).stamped
    rw [Delivery.ts, Delivery.ts, isTs, isTs'] at sameTs
    rw [isTs, isTs']
    exact congrArg some sameTs
  · rintro ⟨first, member, _, same⟩
    exact ⟨first, ⟨member, congrArg RawVendorPayload.deviceId same⟩, by rw [Delivery.ts, same]; rfl⟩

/-- Messages are published once exactly when their timestamps are remembered like the messages
themselves; and so they are as long as no publish call throws, no two messages of a device share a
timestamp, and no device sends more than a thousand. -/
theorem publishesOnce_iff (valid : ∀ delivery ∈ deliveries, delivery.IsValid registry) :
    (PublishesOnce registry deliveries ↔ RemembersMessages registry deliveries) ∧
      (IsPlain deliveries → PublishesOnce registry deliveries) :=
  ⟨publishesOnce_iff_remembersMessages valid, fun plain =>
    (publishesOnce_iff_remembersMessages valid).mpr (remembersMessages_of_isPlain valid plain)⟩

end Publishing

namespace Sample

def registry : List MqttDeviceRegistry :=
  [⟨"acme", "evse", "depot", true, true⟩]

def statusAt (ts : String) (throws : Bool) : Delivery :=
  ⟨⟨"evse", some ts, .status ⟨some "idle", none, none, none, none⟩⟩, 0, throws⟩

def transactionAt (ts : String) : Delivery :=
  ⟨⟨"evse", some ts, .transaction ⟨"tx", none, none, none, none, none, some "start"⟩⟩, 0, false⟩

end Sample

open Sample

theorem publishesOnce_iff_statusAt :
    PublishesOnce registry [statusAt "noon" false, statusAt "noon" false] := by
  have valid : (statusAt "noon" false).IsValid registry :=
    ⟨⟨_, rfl⟩, ⟨_, rfl, by decide⟩, fun _ same => RawVendorData.noConfusion same⟩
  have same : ∀ delivery ∈ [statusAt "noon" false, statusAt "noon" false],
      delivery = statusAt "noon" false := by
    simp
  refine (publishesOnce_iff fun delivery member => same delivery member ▸ valid).2 ⟨?_, ?_, ?_⟩
  · exact fun delivery member => same delivery member ▸ rfl
  · exact fun first isFirst second isSecond _ _ => by rw [same _ isFirst, same _ isSecond]
  · intro deviceId
    exact (List.toFinset_card_le _).trans ((List.length_map _).le.trans
      ((List.length_filter_le _ _).trans (by decide)))

/-- A transaction is taken for a copy of the status with its timestamp, and a status whose publish
call has thrown is not published when it comes again. -/
theorem messages_are_not_published :
    ¬ PublishesOnce registry [statusAt "noon" false, transactionAt "noon"] ∧
      ¬ PublishesOnce registry [statusAt "noon" true, statusAt "noon" false] := by
  constructor
  · intro once
    have published := (once [statusAt "noon" false] (transactionAt "noon") [] rfl).mpr
    refine absurd (published ⟨rfl, ?_⟩) (by decide)
    rintro ⟨first, member, _, same⟩
    cases List.mem_singleton.mp member
    exact absurd same (by decide)
  · intro once
    have published := (once [statusAt "noon" true] (statusAt "noon" false) [] rfl).mpr
    refine absurd (published ⟨rfl, ?_⟩) (by decide)
    rintro ⟨first, member, notThrown, _⟩
    cases List.mem_singleton.mp member
    exact absurd notThrown (by decide)

end Csms.Adapters
