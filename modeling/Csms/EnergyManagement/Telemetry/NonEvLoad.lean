import Csms.EnergyManagement.Telemetry.Ingest

/-!
# The non-EV load of a plan

A plan takes the non-EV load from the group's row, where the API ingest caches
the load of the sample that arrived last, whatever its time; MQTT samples never
reach that cache.  The cache is right when one of the newest stored snapshots
reports it.  This file says for each event when it keeps the cache right, and
from that when a whole run does.
-/

namespace Csms.EnergyManagement

open Js Service Transition

/-- The non-EV load the planner reads from the group's row. -/
def plannerLoad (group : EnergyLoadGroup) : PhaseTriple Int :=
  group.lastNonEvLoadAmps.map fun column => max 0 (column.getD 0)

/-- The non-EV load a snapshot reports, read in the same way. -/
def reportedLoad (snapshot : EnergyTelemetrySnapshot) : PhaseTriple Int :=
  snapshot.nonEvLoadAmps.map (max 0)

def PlansWithNewestLoad (store : Store) : Prop :=
  ∀ group ∈ store.groups.rows,
    NewestHas EnergyTelemetrySnapshot.sampledAt (reportedLoad · = plannerLoad group)
      (groupSnapshots store group.id)

instance (store : Store) : Decidable (PlansWithNewestLoad store) :=
  inferInstanceAs (Decidable (∀ group ∈ store.groups.rows,
    NewestHas EnergyTelemetrySnapshot.sampledAt (reportedLoad · = plannerLoad group)
      (groupSnapshots store group.id)))

def apiSample? (store : Store) (group : EnergyLoadGroup) :
    TelemetryEvent → Option EnergyTelemetrySnapshot
  | .sample context sampleNow id input =>
    match loadGroupOrThrow context store id with
    | .ok loaded =>
      if group.id = loaded.group.id then
        some (ingestedSnapshot context.engine.toEngine sampleNow loaded.group input)
      else
        none
    | .error _ => none
  | _ => none

def mqttSample? (store : Store) (group : EnergyLoadGroup) :
    TelemetryEvent → Option EnergyTelemetrySnapshot
  | .meterReading clock topic data =>
    match meterReadingTarget store topic data with
    | some (tenantId, station, amps) =>
      if isMetered tenantId station.id group then
        some (meterSnapshot clock data station amps group)
      else
        none
    | none => none
  | .pvOutput clock topic data =>
    match pvOutputTarget store topic data with
    | some (tenantId, station, amps) =>
      if isMetered tenantId station.id group then
        some (pvSnapshot clock data station amps group)
      else
        none
    | none => none
  | _ => none

/-- The event keeps the cached load of every group right: an API sample is not
older than the snapshots stored before it, or a newest one of them reports the
same load; an MQTT sample is not newer than all of them, or reports the load the
group's row has. -/
def KeepsNewestLoad (store : Store) (event : TelemetryEvent) : Prop :=
  ∀ group ∈ store.groups.rows,
    (∀ snapshot, apiSample? store group event = some snapshot →
      (∀ other ∈ groupSnapshots store group.id, other.sampledAt ≤ snapshot.sampledAt) ∨
        ∃ newest, IsNewest EnergyTelemetrySnapshot.sampledAt (groupSnapshots store group.id)
          newest ∧ snapshot.sampledAt ≤ newest.sampledAt ∧
            reportedLoad newest = reportedLoad snapshot) ∧
    ∀ snapshot, mqttSample? store group event = some snapshot →
      (∃ other ∈ groupSnapshots store group.id, snapshot.sampledAt ≤ other.sampledAt) ∨
        reportedLoad snapshot = plannerLoad group

def loadAfter (store : Store) (event : TelemetryEvent) (group : EnergyLoadGroup) :
    PhaseTriple Int :=
  ((apiSample? store group event).map reportedLoad).getD (plannerLoad group)

/-- An API sample replaces the cached loads of its group, and nothing else
touches a cached load. -/
theorem loads_next (store : Store) (event : TelemetryEvent) :
    (event.next store).groups.rows.map (fun group => (group.id, plannerLoad group)) =
      store.groups.rows.map fun group => (group.id, loadAfter store event group) := by
  cases event with
  | sample context sampleNow id input =>
    cases found : loadGroupOrThrow context store id with
    | error error =>
      simp only [TelemetryEvent.next, after_storeTelemetry_error context sampleNow input found,
        loadAfter, apiSample?, found, Option.map_none, Option.getD_none]
    | ok loaded =>
      simp only [TelemetryEvent.next, after_storeTelemetry context sampleNow input found,
        storeSample, Table.rows_updateWhere, List.map_map]
      apply List.map_congr_left
      intro group _
      by_cases isGroup : group.id = loaded.group.id
      · simp [loadAfter, apiSample?, found, isGroup, EnergyLoadGroup.sampled, plannerLoad,
          reportedLoad, PhaseTriple.map]
      · simp [loadAfter, apiSample?, found, isGroup]
  | meterReading clock topic data =>
    simp only [TelemetryEvent.next, after_handleMeterReading, loadAfter, apiSample?,
      Option.map_none, Option.getD_none]
    cases meterReadingTarget store topic data with
    | none => rfl
    | some target =>
      exact store.groups.map_updateWhere _ _ (fun group => group.id_heard _) _ fun _ => rfl
  | pvOutput clock topic data =>
    simp only [TelemetryEvent.next, after_handlePvOutput, loadAfter, apiSample?,
      Option.map_none, Option.getD_none]
    cases pvOutputTarget store topic data <;> rfl
  | recalculation context clock id input =>
    exact map_groups_of_configuration_eq
      (keeps_recalculateGroup context clock id input store) _ fun _ => rfl

theorem groupSnapshots_next (store : Store) (event : TelemetryEvent) {group : EnergyLoadGroup}
    (member : group ∈ store.groups.rows) :
    groupSnapshots (event.next store) group.id = groupSnapshots store group.id ++
      ((apiSample? store group event).or (mqttSample? store group event)).toList := by
  cases event with
  | sample context sampleNow id input =>
    cases found : loadGroupOrThrow context store id with
    | error error =>
      simp [TelemetryEvent.next, after_storeTelemetry_error context sampleNow input found,
        apiSample?, mqttSample?, found]
    | ok loaded =>
      have groupIdEq : (ingestedSnapshot context.engine.toEngine sampleNow loaded.group
          input).groupId = loaded.group.id := rfl
      by_cases isGroup : group.id = loaded.group.id
      · simp [TelemetryEvent.next, after_storeTelemetry context sampleNow input found,
          apiSample?, found, isGroup, groupSnapshots, storeSample, groupIdEq]
      · simp [TelemetryEvent.next, after_storeTelemetry context sampleNow input found,
          apiSample?, mqttSample?, found, isGroup, groupSnapshots, storeSample, groupIdEq,
          Ne.symm isGroup]
  | meterReading clock topic data =>
    simp only [TelemetryEvent.next, after_handleMeterReading, apiSample?, mqttSample?,
      Option.none_or]
    cases meterReadingTarget store topic data with
    | none => simp
    | some target =>
      obtain ⟨tenantId, station, amps⟩ := target
      have made := store.groups.filter_made_key_eq member (isMetered tenantId station.id)
        (meterSnapshot clock data station amps) EnergyTelemetrySnapshot.groupId
        fun _ => rfl
      simp only [groupSnapshots, storeMeterReading, List.filter_append, made]
      cases isMetered tenantId station.id group <;> rfl
  | pvOutput clock topic data =>
    simp only [TelemetryEvent.next, after_handlePvOutput, apiSample?, mqttSample?,
      Option.none_or]
    cases pvOutputTarget store topic data with
    | none => simp
    | some target =>
      obtain ⟨tenantId, station, amps⟩ := target
      have made := store.groups.filter_made_key_eq member (isMetered tenantId station.id)
        (pvSnapshot clock data station amps) EnergyTelemetrySnapshot.groupId
        fun _ => rfl
      simp only [groupSnapshots, storePvOutput, List.filter_append, made]
      cases isMetered tenantId station.id group <;> rfl
  | recalculation context clock id input =>
    have snapshotsEq := congrArg Store.telemetrySnapshots
      (keeps_recalculateGroup context clock id input store)
    have unchanged : groupSnapshots
        (TelemetryEvent.next store (.recalculation context clock id input)) group.id =
          groupSnapshots store group.id :=
      congrArg (List.filter _) snapshotsEq
    simp [unchanged, apiSample?, mqttSample?]

theorem apiSample?_eq_none_of_mqttSample? {store : Store} {group : EnergyLoadGroup}
    {event : TelemetryEvent} {snapshot : EnergyTelemetrySnapshot}
    (overMqtt : mqttSample? store group event = some snapshot) :
    apiSample? store group event = none := by
  cases event with
  | sample => contradiction
  | meterReading => rfl
  | pvOutput => rfl
  | recalculation => rfl

theorem plansWithNewestLoad_next_iff (store : Store) (event : TelemetryEvent) :
    PlansWithNewestLoad (event.next store) ↔ ∀ group ∈ store.groups.rows,
        NewestHas EnergyTelemetrySnapshot.sampledAt (reportedLoad · = loadAfter store event group)
          (groupSnapshots store group.id ++
            ((apiSample? store group event).or (mqttSample? store group event)).toList) := by
  have overPairs (later : Store) : PlansWithNewestLoad later ↔
      ∀ pair ∈ later.groups.rows.map (fun group => (group.id, plannerLoad group)),
        NewestHas EnergyTelemetrySnapshot.sampledAt (reportedLoad · = pair.2)
          (groupSnapshots later pair.1) := by
    simp [PlansWithNewestLoad]
  rw [overPairs, loads_next, List.forall_mem_map]
  constructor
  · intro right group member
    rw [← groupSnapshots_next store event member]
    exact right group member
  · intro right group member
    rw [groupSnapshots_next store event member]
    exact right group member

/-- From a store whose cached loads are right, an event leads to one exactly
when it keeps them right. -/
theorem plansWithNewestLoad_next (store : Store) (event : TelemetryEvent)
    (before : PlansWithNewestLoad store) :
    PlansWithNewestLoad (event.next store) ↔ KeepsNewestLoad store event := by
  rw [plansWithNewestLoad_next_iff]
  refine forall₂_congr fun group member => ?_
  have right := before group member
  cases overApi : apiSample? store group event with
  | some snapshot =>
    have overMqtt : mqttSample? store group event = none := by
      cases overMqtt : mqttSample? store group event with
      | none => rfl
      | some other => rw [apiSample?_eq_none_of_mqttSample? overMqtt] at overApi; contradiction
    simp only [loadAfter, overApi, overMqtt, Option.map_some, Option.getD_some, Option.some_or,
      Option.toList_some]
    rw [newestHas_append_iff_of_replaced (reportedLoad · = reportedLoad snapshot) rfl]
    simp
  | none =>
    cases overMqtt : mqttSample? store group event with
    | some snapshot =>
      simp only [loadAfter, overApi, Option.map_none, Option.getD_none, Option.none_or,
        Option.toList_some]
      rw [newestHas_append_iff_of_kept right]
      simp
    | none =>
      simp only [loadAfter, overApi, Option.map_none, Option.getD_none, Option.none_or,
        Option.toList_none, List.append_nil, reduceCtorEq, false_implies, implies_true,
        and_true, iff_true]
      exact right

/-- An API sample of the time and the load, the same on each phase. -/
def loadSample (sampledAt amps : Int) : TelemetryEvent :=
  .sample siteContext 0 "group-1"
    ((((JsRecord.empty.with "sampledAt" (.date (some sampledAt))).with
      "nonEvLoadPhase1" (.number (.ofInt amps))).with
      "nonEvLoadPhase2" (.number (.ofInt amps))).with
      "nonEvLoadPhase3" (.number (.ofInt amps)))

/-- A meter reading for the site of the small example. -/
def siteReading (sampledAt : Int) : TelemetryEvent :=
  .meterReading ⟨fun _ => sampledAt, fun _ => sampledAt⟩ "v1/org-1/x/x/site/site-1/meter/m-1/power"
    ⟨"site-1", "m-1", .ofInt 0⟩

end Csms.EnergyManagement
