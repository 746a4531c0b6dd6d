import Csms.EnergyManagement.Recalculate
import Csms.Transition.Run

/-!
# Telemetry

Samples reach a group over the API (`ingestTelemetry`) and over MQTT (meter
readings and PV output).  The API path stores a snapshot and the group's last
loads, the MQTT paths only snapshots.  Requests interleave between the two
halves of an ingest, the storing and the recalculation, so runs have the halves
as events of their own.
-/

namespace Csms.EnergyManagement

open Js Service

/-- The headroom `ingestTelemetry` stores with a sample. -/
def sampleHeadroom (siteLimit nonEvLoad buffer : PhaseTriple Int) : PhaseTriple Int where
  phase1 := max 0 (siteLimit.phase1 - nonEvLoad.phase1 - buffer.phase1)
  phase2 := max 0 (siteLimit.phase2 - nonEvLoad.phase2 - buffer.phase2)
  phase3 := max 0 (siteLimit.phase3 - nonEvLoad.phase3 - buffer.phase3)

/-- The snapshot of a sample that arrives over the API. -/
def ingestedSnapshot (engine : Engine) (sampleNow : Int) (group : EnergyLoadGroup)
    (input : JsRecord) : EnergyTelemetrySnapshot :=
  let nonEvLoad := toPhaseTripleFromRecord engine input "nonEvLoad"
  let headroom := sampleHeadroom (toPhaseTriple engine group .siteLimit) nonEvLoad
    (toPhaseTriple engine group .dynamicBuffer)
  { groupId := group.id
    stationId := group.stationId
    sampledAt := (parseDate engine (input "sampledAt")).getD sampleNow
    meterSource := (readString (input "meterSource")).or group.meterSource
    meterPlacement := group.meterPlacement
    siteLoadAmps := toPhaseTripleFromRecord engine input "siteLoad"
    nonEvLoadAmps := nonEvLoad
    availableAmps := headroom
    headroomAmps := headroom
    freshnessSec := (readNonNegativeInt engine (input "freshnessSec")).getD 0
    reasonCode := some "TELEMETRY_INGEST" }

/-- The columns of a group that an API sample sets. -/
def EnergyLoadGroup.sampled (group : EnergyLoadGroup) (snapshot : EnergyTelemetrySnapshot) :
    EnergyLoadGroup :=
  { group with
    latestTelemetryAt := some snapshot.sampledAt
    lastMeterFreshnessSec := some snapshot.freshnessSec
    lastSiteLoadAmps := snapshot.siteLoadAmps.map some
    lastNonEvLoadAmps := snapshot.nonEvLoadAmps.map some
    lastHeadroomAmps := snapshot.headroomAmps.map some }

theorem EnergyLoadGroup.id_sampled (group : EnergyLoadGroup)
    (snapshot : EnergyTelemetrySnapshot) : (group.sampled snapshot).id = group.id :=
  rfl

/-- The writes of `ingestTelemetry` before its recalculation. -/
def storeSample (groupId : String) (snapshot : EnergyTelemetrySnapshot) (store : Store) : Store :=
  { store with
    telemetrySnapshots := store.telemetrySnapshots ++ [snapshot]
    groups := store.groups.updateWhere (·.id = groupId) (·.sampled snapshot)
      fun group => group.id_sampled snapshot }

/-- The first half of `ingestTelemetry`. -/
def storeTelemetry (context : ServiceContext) (sampleNow : Int) (id : String)
    (input : JsRecord) : Handler EnergyLoadGroup := do
  let store ← get
  let loaded ← orThrow (loadGroupOrThrow context store id)
  modify (storeSample loaded.group.id
    (ingestedSnapshot context.engine.toEngine sampleNow loaded.group input))
  pure loaded.group

def ingestTelemetry (context : ServiceContext) (sampleNow : Int) (clock : RecalculateClock)
    (id : String) (input : JsRecord) : Handler Recalculation := do
  let group ← storeTelemetry context sampleNow id input
  recalculateGroup context clock group.id ⟨false, some "telemetry", some "Telemetry ingested"⟩

structure MeterReadingPayload where
  (siteId meterId : String)
  current : JsNumber

structure PvOutputPayload where
  (siteId pvSystemId : String)
  powerOutput : JsNumber

/-- The clock readings of an MQTT event, for each group of its own. -/
structure MqttClock where
  (sampledAt latestTelemetryAt : String → Int)

def extractTenantFromTopic (topic : String) : Option String :=
  match (topic.toList.splitOn '/').map String.ofList with
  | "v1" :: tenantId :: _ => some tenantId
  | _ => none

def stationOfSite (store : Store) (siteId : String) : Option Station :=
  oldestOf Station.createdAt (store.stations.rows.filter (·.siteId = some siteId))

/-- The groups an MQTT event is for. -/
def isMetered (tenantId stationId : String) (group : EnergyLoadGroup) : Bool :=
  group.tenantId = tenantId ∧ group.stationId = stationId ∧ group.isActive

def zeroPhases : PhaseTriple Int :=
  ⟨0, 0, 0⟩

def meterSnapshot (clock : MqttClock) (data : MeterReadingPayload) (station : Station)
    (amps : Int) (group : EnergyLoadGroup) : EnergyTelemetrySnapshot where
  groupId := group.id
  stationId := station.id
  sampledAt := clock.sampledAt group.id
  meterSource := some data.meterId
  meterPlacement := .main
  siteLoadAmps := ⟨amps, amps, amps⟩
  nonEvLoadAmps := zeroPhases
  availableAmps := zeroPhases
  headroomAmps := zeroPhases
  freshnessSec := 0
  reasonCode := none

def pvSnapshot (clock : MqttClock) (data : PvOutputPayload) (station : Station) (amps : Int)
    (group : EnergyLoadGroup) : EnergyTelemetrySnapshot where
  groupId := group.id
  stationId := station.id
  sampledAt := clock.sampledAt group.id
  meterSource := some ("pv-" ++ data.pvSystemId)
  meterPlacement := .derived
  siteLoadAmps := zeroPhases
  nonEvLoadAmps := zeroPhases
  availableAmps := ⟨amps, amps, amps⟩
  headroomAmps := zeroPhases
  freshnessSec := 0
  reasonCode := none

def EnergyLoadGroup.heard (group : EnergyLoadGroup) (at_ : Int) : EnergyLoadGroup :=
  { group with latestTelemetryAt := some at_ }

theorem EnergyLoadGroup.id_heard (group : EnergyLoadGroup) (at_ : Int) :
    (group.heard at_).id = group.id :=
  rfl

/-- The writes of a meter reading: a snapshot for each metered group, and when
the group was heard of. -/
def storeMeterReading (clock : MqttClock) (tenantId : String) (station : Station)
    (snapshot : EnergyLoadGroup → EnergyTelemetrySnapshot) (store : Store) : Store :=
  { store with
    telemetrySnapshots := store.telemetrySnapshots ++
      (store.groups.rows.filter (isMetered tenantId station.id)).map snapshot
    groups := store.groups.updateWhere (isMetered tenantId station.id)
      (fun group => group.heard (clock.latestTelemetryAt group.id))
      fun group => group.id_heard _ }

/-- The writes of a PV output: a snapshot for each metered group. -/
def storePvOutput (tenantId : String) (station : Station)
    (snapshot : EnergyLoadGroup → EnergyTelemetrySnapshot) (store : Store) : Store :=
  { store with
    telemetrySnapshots := store.telemetrySnapshots ++
      (store.groups.rows.filter (isMetered tenantId station.id)).map snapshot }

/-- The tenant, the station and the amps of a meter reading.  Nothing is stored
of a reading whose topic names no tenant or whose site no station, nor of one
whose amps are no number: the transaction fails then, which is only logged. -/
def meterReadingTarget (store : Store) (topic : String) (data : MeterReadingPayload) :
    Option (String × Station × Int) := do
  let tenantId ← orText (extractTenantFromTopic topic) none
  let station ← stationOfSite store data.siteId
  let amps ← (data.current.scale (1 / 3)).round.toColumn
  pure (tenantId, station, amps)

def handleMeterReading (clock : MqttClock) (topic : String) (data : MeterReadingPayload) :
    Handler Unit := do
  let store ← get
  match meterReadingTarget store topic data with
  | some (tenantId, station, amps) =>
    modify (storeMeterReading clock tenantId station (meterSnapshot clock data station amps))
  | none => pure ()

/-- The amps of the available solar power, three phases of 230 V. -/
def solarAmps (data : PvOutputPayload) (profile : EnergyDerProfile) : Option Int :=
  (((JsNumber.min data.powerOutput (.finite (profile.maxSolarContributionKw.getD 0))).scale
    1000).scale (1 / 690)).round.toColumn

/-- The same for a PV output, which needs a DER profile with solar power. -/
def pvOutputTarget (store : Store) (topic : String) (data : PvOutputPayload) :
    Option (String × Station × Int) := do
  let tenantId ← orText (extractTenantFromTopic topic) none
  let station ← stationOfSite store data.siteId
  let profile ← store.derProfiles.find? (tenantId, station.id)
  let amps ← if profile.solarEnabled then solarAmps data profile else none
  pure (tenantId, station, amps)

def handlePvOutput (clock : MqttClock) (topic : String) (data : PvOutputPayload) :
    Handler Unit := do
  let store ← get
  match pvOutputTarget store topic data with
  | some (tenantId, station, amps) =>
    modify (storePvOutput tenantId station (pvSnapshot clock data station amps))
  | none => pure ()

inductive TelemetryEvent where
  /-- The first half of an API ingest. -/
  | sample (context : ServiceContext) (sampleNow : Int) (id : String) (input : JsRecord)
  | meterReading (clock : MqttClock) (topic : String) (data : MeterReadingPayload)
  | pvOutput (clock : MqttClock) (topic : String) (data : PvOutputPayload)
  /-- A recalculation, after an ingest or for any other reason. -/
  | recalculation (context : ServiceContext) (clock : RecalculateClock) (id : String)
      (input : RecalculateInput)

def TelemetryEvent.next (store : Store) : TelemetryEvent → Store
  | sample context sampleNow id input => after (storeTelemetry context sampleNow id input) store
  | meterReading clock topic data => after (handleMeterReading clock topic data) store
  | pvOutput clock topic data => after (handlePvOutput clock topic data) store
  | recalculation context clock id input => after (recalculateGroup context clock id input) store

theorem after_storeTelemetry_error (context : ServiceContext) (sampleNow : Int) {id : String}
    (input : JsRecord) {store : Store} {error : HttpException}
    (missing : loadGroupOrThrow context store id = .error error) :
    after (storeTelemetry context sampleNow id input) store = store := by
  unfold after storeTelemetry
  rw [bind_of_ok (rfl : (get : Handler Store) store = .ok store store), missing]
  rfl

theorem after_storeTelemetry (context : ServiceContext) (sampleNow : Int) {id : String}
    (input : JsRecord) {store : Store} {loaded : GroupBundle}
    (found : loadGroupOrThrow context store id = .ok loaded) :
    after (storeTelemetry context sampleNow id input) store = storeSample loaded.group.id
        (ingestedSnapshot context.engine.toEngine sampleNow loaded.group input) store := by
  unfold after storeTelemetry
  rw [bind_of_ok (rfl : (get : Handler Store) store = .ok store store), found]
  rfl

theorem after_handleMeterReading (clock : MqttClock) (topic : String)
    (data : MeterReadingPayload) (store : Store) :
    after (handleMeterReading clock topic data) store =
      match meterReadingTarget store topic data with
      | some (tenantId, station, amps) =>
        storeMeterReading clock tenantId station (meterSnapshot clock data station amps) store
      | none => store := by
  unfold after handleMeterReading
  rw [bind_of_ok (rfl : (get : Handler Store) store = .ok store store)]
  cases meterReadingTarget store topic data <;> rfl

theorem after_handlePvOutput (clock : MqttClock) (topic : String) (data : PvOutputPayload)
    (store : Store) : after (handlePvOutput clock topic data) store =
      match pvOutputTarget store topic data with
      | some (tenantId, station, amps) =>
        storePvOutput tenantId station (pvSnapshot clock data station amps) store
      | none => store := by
  unfold after handlePvOutput
  rw [bind_of_ok (rfl : (get : Handler Store) store = .ok store store)]
  cases pvOutputTarget store topic data <;> rfl

def groupSnapshots (store : Store) (groupId : String) : List EnergyTelemetrySnapshot :=
  store.telemetrySnapshots.filter (·.groupId = groupId)

/-- The snapshot a recalculation uses, the first of the sorted ones. -/
def newestSnapshot (store : Store) (groupId : String) : Option EnergyTelemetrySnapshot :=
  (sortSnapshots (groupSnapshots store groupId)).head?

end Csms.EnergyManagement
