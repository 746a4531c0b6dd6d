import Csms.Telemetry.Ingest
import Csms.Database.Duty

/-!
# The latest status of a vehicle

The row is overwritten by every status that is ingested, whenever the status was sampled.
So it shows what was ingested last, and its time goes back when that is the older one.
-/

/-!
## Telemetry under concurrency

Webhooks, status requests and polls against one database, statement by statement.
-/

namespace Csms.Telemetry

open Database Js

/-! ## Pulling the status of a vehicle -/

/-- A source that Smartcar can be asked with: the vehicle as it calls it. -/
def usableSource (source : Option TelemetrySource) : Option (TelemetrySource × String) := do
  let source ← source
  let providerVehicleId ← orText source.providerVehicleId none
  let _ ← orText source.credentialRef none
  return (source, providerVehicleId)

/-- A provider's report that has come with a status. -/
def pulledIngest (vehicleId source : String) (status : UnifiedTelemetryData)
    (hasFaultList : Bool) : Ingest where
  vehicleId := vehicleId
  provider := status.provider
  source := source
  faults := status.faults
  hasFaultList := hasFaultList

def getSmartcarVehicleStatus (runtime : Runtime) (call : TelemetryCall)
    (userId vehicleId : String) (providerId : Option String) :
    TelemetryRequest TelemetryAnswer := do
  let vehicle ← findAccessibleVehicle call vehicleId userId
  Request.ofExcept (assertGate (runtime.gates vehicle.organizationId).reads
    "Telemetry reads are disabled for this tenant")
  let source ← resolveSmartcarSource vehicle.id providerId
  match usableSource source with
  | none =>
    Request.throw (.notFound "Enabled SMARTCAR telemetry source with credentialRef is required")
  | some (source, _) => do
    Request.ofExcept call.issueToken
    execute (.touchSource source.id call.now)
    let snapshot ← Request.ofExcept call.fetchStatus
    let status := buildSmartcarUnifiedTelemetry call.now vehicle.id snapshot
    persistTelemetrySnapshot call.now vehicle.id status
    return .status status

/-- The synthetic adapters: the providers that have one, and `MOCK` for the others. -/
def adapterOf : TelemetryProvider → TelemetryProvider
  | .smartcar => .smartcar
  | .enode => .enode
  | _ => .mock

/-- Fetch the status from the adapter of a provider, and ingest it. -/
def pullFromAdapter (call : TelemetryCall) (vehicleId : String) (provider : TelemetryProvider)
    (providerVehicleId : Option String) (lastKnown : Option UnifiedTelemetryData)
    (source : String) : TelemetryRequest UnifiedTelemetryData := do
  let fetched := syntheticStatus (adapterOf provider) call.now call.wave vehicleId
    providerVehicleId lastKnown
  persistTelemetrySnapshot call.now vehicleId fetched
  syncFaultLifecycle call (pulledIngest vehicleId source fetched true)
  return fetched

def getVehicleStatus (runtime : Runtime) (call : TelemetryCall) (userId vehicleId : String)
    (queryProvider queryProviderId : Option String) : TelemetryRequest TelemetryAnswer := do
  let vehicle ← findAccessibleVehicle call vehicleId userId
  Request.ofExcept (assertGate (runtime.gates vehicle.organizationId).reads
    "Telemetry reads are disabled for this tenant")
  let latest ← findLatest vehicle.id
  let lastKnown := latest.map (toUnifiedTelemetryFromLatest call.now vehicle.id)
  match lastKnown.filter fun status => !status.sources.battery.any (·.isStale) with
  | some status => return .status status
  | none => do
    let provider :=
      match orText queryProvider none with
      | some text => providerFrom (.string text)
      | none => vehicle.telemetryProvider
    let source ←
      if provider = .smartcar then resolveSmartcarSource vehicle.id queryProviderId
      else pure none
    match usableSource source with
    | some _ => getSmartcarVehicleStatus runtime call userId vehicleId queryProviderId
    | none => do
      let fetched ← pullFromAdapter call vehicle.id provider queryProviderId lastKnown
        "provider-sync"
      return .status fetched

/-! ## Polling the fleet -/

inductive PollMode where
  | active
  | idle
  deriving DecidableEq

def polledVehicles (mode : PollMode) (store : Store) : List Vehicle :=
  ((store.vehicles.rows.filter fun vehicle =>
    (vehicle.telemetryProvider = .smartcar || vehicle.telemetryProvider = .enode) &&
      vehicle.vehicleStatus = "ACTIVE").mergeSort fun left right =>
        right.updatedAt ≤ left.updatedAt).take (if mode = .active then 100 else 200)

def pollSmartcar (call : TelemetryCall) (vehicle : Vehicle)
    (lastKnown : Option UnifiedTelemetryData) : TelemetryRequest Unit :=
  let fromAdapter : TelemetryRequest Unit := do
    let providerVehicleId ← resolveProviderVehicleId vehicle.id .smartcar
    let _ ← pullFromAdapter call vehicle.id .smartcar providerVehicleId lastKnown "poll"
    pure ()
  do
    let source ← resolveSmartcarSource vehicle.id none
    match usableSource source, call.issueToken with
    | some (source, _), .ok () =>
      Request.transact (.touchSource source.id call.now) fun result =>
        match result, call.fetchStatus with
        | some (), .ok snapshot => do
          let status := buildSmartcarUnifiedTelemetry call.now vehicle.id snapshot
          persistTelemetrySnapshot call.now vehicle.id status
          syncFaultLifecycle call (pulledIngest vehicle.id "poll" status false)
        | _, _ => fromAdapter
    | _, _ => fromAdapter

def pollVehicle (runtime : Runtime) (call : TelemetryCall) (mode : PollMode) (vehicle : Vehicle) :
    TelemetryRequest Unit :=
  if (runtime.gates vehicle.organizationId).reads then do
    let latest ← findLatest vehicle.id
    let lastKnown := latest.map (toUnifiedTelemetryFromLatest call.now vehicle.id)
    if mode = .idle ∧ lastKnown.bind (·.charging.status) = some .charging then pure ()
    else if vehicle.telemetryProvider = .smartcar then pollSmartcar call vehicle lastKnown
    else do
      let providerVehicleId ← resolveProviderVehicleId vehicle.id vehicle.telemetryProvider
      let _ ← pullFromAdapter call vehicle.id vehicle.telemetryProvider providerVehicleId lastKnown
        "poll"
      pure ()
  else pure ()

/-- One vehicle after the other; the first failure ends the poll. -/
def pollVehicles (runtime : Runtime) (calls : String → TelemetryCall) (mode : PollMode) :
    List Vehicle → TelemetryRequest Unit
  | [] => pure ()
  | vehicle :: rest => do
    pollVehicle runtime (calls vehicle.id) mode vehicle
    pollVehicles runtime calls mode rest

def pollFleetTelemetry (runtime : Runtime) (calls : String → TelemetryCall) (mode : PollMode) :
    TelemetryRequest TelemetryAnswer := do
  let vehicles ← Request.read .vehicles (polledVehicles mode)
  pollVehicles runtime calls mode vehicles
  return .polled

/-! ## Sessions -/

inductive TelemetryAction where
  | providerWebhook (call : TelemetryCall) (provider : String) (payload : JsRecord)
  | smartcarWebhook (call : TelemetryCall) (payload : JsRecord)
  | vehicleStatus (call : TelemetryCall) (userId vehicleId : String)
      (provider providerId : Option String)
  | smartcarVehicleStatus (call : TelemetryCall) (userId vehicleId : String)
      (providerId : Option String)
  /-- A poll, with what it gets at each vehicle. -/
  | poll (calls : String → TelemetryCall) (mode : PollMode)

def TelemetryAction.program (runtime : Runtime) : TelemetryAction → TelemetryRequest TelemetryAnswer
  | .providerWebhook call provider payload =>
    ingestProviderWebhook runtime call (providerFrom (.string provider))
      (readWebhookBody runtime.engine payload)
  | .smartcarWebhook call payload => ingestSmartcarWebhook runtime payload call
  | .vehicleStatus call userId vehicleId provider providerId =>
    getVehicleStatus runtime call userId vehicleId provider providerId
  | .smartcarVehicleStatus call userId vehicleId providerId =>
    getSmartcarVehicleStatus runtime call userId vehicleId providerId
  | .poll calls mode => pollFleetTelemetry runtime calls mode

/-- The database with the sessions of telemetry requests. -/
abbrev TelemetryState :=
  ReadCommitted Store Unit TelemetryQuery TelemetryWrite (fun _ => Unit) TelemetryException
    TelemetryAction TelemetryAnswer

/-- What can be reached from a store when no request has arrived. -/
def TelemetryState.Reachable (runtime : Runtime)
    (conditions : Conditions Store TelemetryQuery TelemetryWrite TelemetryAction) (store : Store) :
    TelemetryState → Prop :=
  ReadCommitted.Reachable TelemetryWrite.body (TelemetryAction.program runtime) conditions
    (ReadCommitted.initial store)

/-- The statement overwrites the latest status of a vehicle. -/
def TelemetryWrite.upserts (vehicleId : String) : TelemetryWrite → Bool
  | .upsertLatest row => row.vehicleId = vehicleId
  | _ => false

/-- What the last of the commits that overwrote the latest status of a vehicle wrote. -/
def lastUpsert (vehicleId : String) (commits : List (Commit Store TelemetryWrite)) :
    Option TelemetryRow :=
  match commits.reverse.find? fun commit => commit.label.upserts vehicleId with
  | some ⟨_, .upsertLatest row, _, _⟩ => some row
  | _ => none

/-- The time of the latest status of a vehicle is earlier than it was. -/
def GoesBack (vehicleId : String) (before after : Store) : Prop :=
  ∃ old new, Store.latestTable.find? vehicleId before = some old ∧
    Store.latestTable.find? vehicleId after = some new ∧ new.sampledAt < old.sampledAt

/-- A sample that is older than the latest status of its vehicle. -/
def TelemetryWrite.IsOlder (vehicleId : String) (write : TelemetryWrite) (before : Store) : Prop :=
  ∃ row old, write = .upsertLatest row ∧ row.vehicleId = vehicleId ∧
    Store.latestTable.find? vehicleId before = some old ∧ row.sampledAt < old.sampledAt

section Statements

variable {vehicleId : String} {write : TelemetryWrite} {store : Store}

theorem find?_latest_of_not_upserts (isOther : write.upserts vehicleId = false) :
    Store.latestTable.find? vehicleId (write.change store) =
      Store.latestTable.find? vehicleId store := by
  rw [TelemetryWrite.find?_latest_change]
  cases write with
  | upsertLatest row => exact if_neg (Ne.symm (of_decide_eq_false isOther))
  | _ => rfl

theorem find?_latest_of_upserts {row : TelemetryRow} (ofVehicle : row.vehicleId = vehicleId) :
    Store.latestTable.find? vehicleId ((TelemetryWrite.upsertLatest row).change store) =
      some row := by
  rw [TelemetryWrite.find?_latest_change]
  exact if_pos ofVehicle.symm

/-- A statement sets the time back exactly when it is an upsert of an older sample. -/
theorem goesBack_change_iff :
    GoesBack vehicleId store (write.change store) ↔ write.IsOlder vehicleId store := by
  constructor
  · rintro ⟨old, new, isOld, isNew, earlier⟩
    by_cases isUpsert : write.upserts vehicleId = true
    · cases write with
      | upsertLatest row =>
        have ofVehicle : row.vehicleId = vehicleId := of_decide_eq_true isUpsert
        rw [find?_latest_of_upserts ofVehicle] at isNew
        cases isNew
        exact ⟨_, old, rfl, ofVehicle, isOld, earlier⟩
      | _ => contradiction
    · rw [find?_latest_of_not_upserts (Bool.eq_false_of_not_eq_true isUpsert), isOld] at isNew
      cases isNew
      exact absurd earlier (lt_irrefl _)
  · rintro ⟨row, old, rfl, ofVehicle, isOld, earlier⟩
    exact ⟨old, row, isOld, find?_latest_of_upserts ofVehicle, earlier⟩

end Statements

section Runs

variable {runtime : Runtime}
  {conditions : Conditions Store TelemetryQuery TelemetryWrite TelemetryAction} {store : Store}
  {state : TelemetryState}

theorem TelemetryState.Reachable.commit_change
    (reachable : state.Reachable runtime conditions store) {commit : Commit Store TelemetryWrite}
    (member : commit ∈ state.shared.commits) :
    commit.label.allowed commit.before = true ∧ commit.after = commit.label.change commit.before := by
  rcases ReadCommitted.Reachable.commit_run TelemetryWrite.guarded reachable commit member with
    ⟨result, run⟩
  exact TelemetryWrite.run_body_eq_some_iff.mp run

/-- The row of a vehicle is the one that was written last. -/
theorem find?_latest_eq (reachable : state.Reachable runtime conditions store)
    (vehicleId : String) : Store.latestTable.find? vehicleId state.shared.store =
      (lastUpsert vehicleId state.shared.commits).or (Store.latestTable.find? vehicleId store) := by
  have shows := (ReadCommitted.Reachable.abstract TelemetryWrite.guarded reachable).showsLast
    (Store.latestTable.find? vehicleId)
  have unchanged (commit : Commit Store TelemetryWrite) (member : commit ∈ state.shared.commits)
      (isOther : commit.label.upserts vehicleId = false) :
      Store.latestTable.find? vehicleId commit.after =
        Store.latestTable.find? vehicleId commit.before := by
    rw [(reachable.commit_change member).2]
    exact find?_latest_of_not_upserts isOther
  rcases isLast : state.shared.commits.reverse.find? fun commit =>
    commit.label.upserts vehicleId with _ | ⟨session, label, before, after⟩
  · rw [lastUpsert, isLast]
    refine shows.1 fun commit member => unchanged commit member ?_
    simpa using List.find?_eq_none.mp isLast commit (List.mem_reverse.mpr member)
  · rcases find?_reverse_eq_some_iff.mp isLast with ⟨isUpsert, earlier, later, isCommits, others⟩
    have sinceLast : Store.latestTable.find? vehicleId state.shared.store =
        Store.latestTable.find? vehicleId after := by
      refine shows.2 earlier _ later isCommits fun commit member => unchanged commit ?_ ?_
      · rw [isCommits]
        exact List.mem_append_right _ (List.mem_cons_of_mem _ member)
      · exact others commit member
    have isIn : ⟨session, label, before, after⟩ ∈ state.shared.commits := by
      rw [isCommits]
      exact List.mem_append_right _ List.mem_cons_self
    have isAfter : after = label.change before := (reachable.commit_change isIn).2
    rw [lastUpsert, isLast, sinceLast, isAfter]
    cases label with
    | upsertLatest row => exact find?_latest_of_upserts (of_decide_eq_true isUpsert)
    | _ => exact absurd isUpsert Bool.false_ne_true

/-- The row of a vehicle is the sample that was ingested last, and its time goes back
exactly when a sample is ingested that is older than the row. -/
theorem latest_is_last_upsert (reachable : state.Reachable runtime conditions store)
    (vehicleId : String) : Store.latestTable.find? vehicleId state.shared.store =
        (lastUpsert vehicleId state.shared.commits).or (Store.latestTable.find? vehicleId store) ∧
      ∀ commit ∈ state.shared.commits, GoesBack vehicleId commit.before commit.after ↔
          commit.label.IsOlder vehicleId commit.before := by
  refine ⟨find?_latest_eq reachable vehicleId, ?_⟩
  intro commit member
  rw [(reachable.commit_change member).2]
  exact goesBack_change_iff

end Runs

/-! ## A delayed webhook -/

namespace Sample

def engine : Engine where
  localeCompare _ _ := 0
  parseDateText text := if text = "earlier" then some 1000 else if text = "later" then some 2000
    else none
  coerceNumber _ := .nan

def runtime : Runtime where
  engine := engine
  keys _ := []
  gates _ := ⟨true, true⟩
  buildVerifyChallengeResponse := .ok

def vehicle (id : String) : Vehicle where
  id := id
  userId := "ada"
  organizationId := none
  telemetryProvider := .smartcar
  vehicleStatus := "ACTIVE"
  updatedAt := 0

def store : Store where
  vehicles := ⟨[vehicle "car", vehicle "van"], by decide⟩
  users := Table.empty
  memberships := []
  sources := Table.empty
  snapshots := []
  latest := Table.empty
  faults := Table.empty
  commands := Table.empty

def call (name : String) : TelemetryCall where
  context := none
  now := 5000
  newId index := s!"{name}{index}"
  signatureIsValid := true
  issueToken := .ok ()
  fetchStatus := .error .internal
  wave := 0

def sampled (time : String) : TelemetryAction :=
  .providerWebhook (call "") "ENODE"
    ((JsRecord.empty.with "vehicleId" (.string "car")).with "lastSyncedAt" (.string time))

def afterFrom (store : Store)
    (conditions : Conditions Store TelemetryQuery TelemetryWrite TelemetryAction)
    (events : List (DatabaseEvent TelemetryAction)) : Option TelemetryState :=
  events.foldlM (ReadCommitted.next TelemetryWrite.body (TelemetryAction.program runtime)
    conditions) (ReadCommitted.initial store)

def writes (id : Nat) : List (DatabaseEvent TelemetryAction) :=
  [.begin id, .statement id, .commit id]

def ingests (id : Nat) (action : TelemetryAction) : List (DatabaseEvent TelemetryAction) :=
  [.arrive action, .query id, .query id] ++ writes id ++ writes id ++ writes id

def sampledAts (state : TelemetryState) : List Int :=
  state.shared.store.latest.rows.map TelemetryRow.sampledAt

end Sample

open Sample

/-- One sample after the other. -/
theorem latest_is_last_upsert_in_order :
    ∃ state : TelemetryState, sampledAts state = [2000] ∧
      (Store.latestTable.find? "car" state.shared.store = (lastUpsert "car" state.shared.commits).or
            (Store.latestTable.find? "car" store) ∧ ∀ commit ∈ state.shared.commits,
          GoesBack "car" commit.before commit.after ↔ commit.label.IsOlder "car" commit.before) := by
  have run : (afterFrom store Conditions.none
      (ingests 0 (sampled "earlier") ++
        ingests 1 (sampled "later"))).map sampledAts = some [2000] := by
    decide +kernel
  rcases Option.map_eq_some_iff.mp run with ⟨state, reached, times⟩
  exact ⟨state, times, latest_is_last_upsert (Transition.reachable_of_foldlM reached) "car"⟩

/-- An older sample that arrives later overwrites the newer one. -/
theorem older_sample_overwrites :
    ∃ state : TelemetryState, state.Reachable runtime Conditions.none store ∧
      ∃ commit ∈ state.shared.commits, GoesBack "car" commit.before commit.after := by
  have run : (afterFrom store Conditions.none
      (ingests 0 (sampled "later") ++
        ingests 1 (sampled "earlier"))).map
        (fun state => state.shared.commits.map fun commit =>
          ((Store.latestTable.find? "car" commit.before).map TelemetryRow.sampledAt,
            (Store.latestTable.find? "car" commit.after).map TelemetryRow.sampledAt)) =
      some [(none, none), (none, some 2000), (some 2000, some 2000), (some 2000, some 2000),
        (some 2000, some 1000), (some 1000, some 1000)] := by
    decide +kernel
  rcases Option.map_eq_some_iff.mp run with ⟨state, reached, times⟩
  have goesBack : (some 2000, some 1000) ∈ state.shared.commits.map fun commit =>
      ((Store.latestTable.find? "car" commit.before).map TelemetryRow.sampledAt,
        (Store.latestTable.find? "car" commit.after).map TelemetryRow.sampledAt) := by
    rw [times]
    decide
  rcases List.mem_map.mp goesBack with ⟨commit, member, isBack⟩
  rcases Option.map_eq_some_iff.mp (Prod.mk.inj isBack).1 with ⟨old, isOld, oldTime⟩
  rcases Option.map_eq_some_iff.mp (Prod.mk.inj isBack).2 with ⟨new, isNew, newTime⟩
  refine ⟨state, Transition.reachable_of_foldlM reached, commit, member, old, new, isOld, isNew, ?_⟩
  rw [oldTime, newTime]
  decide

/-! ## Serving the latest status -/

/-- The latest status that `getVehicleStatus` answers with when it asks no provider. -/
def cachedStatus (now : Int) (vehicleId : String) (latest : Option TelemetryRow) :
    Option UnifiedTelemetryData :=
  (latest.map (toUnifiedTelemetryFromLatest now vehicleId)).filter fun status =>
    !status.sources.battery.any (·.isStale)

/-- Only what is not cached is refreshed. -/
theorem getVehicleStatus_eq (runtime : Runtime) (call : TelemetryCall) (userId vehicleId : String)
    (queryProvider queryProviderId : Option String) :
    ∃ refresh : Vehicle → Option UnifiedTelemetryData → TelemetryRequest TelemetryAnswer,
      getVehicleStatus runtime call userId vehicleId queryProvider queryProviderId = (do
        let vehicle ← findAccessibleVehicle call vehicleId userId
        Request.ofExcept (assertGate (runtime.gates vehicle.organizationId).reads
          "Telemetry reads are disabled for this tenant")
        let latest ← findLatest vehicle.id
        match cachedStatus call.now vehicle.id latest with
        | some status => return .status status
        | none =>
          refresh vehicle (latest.map (toUnifiedTelemetryFromLatest call.now vehicle.id))) :=
  ⟨fun vehicle lastKnown => do
    let provider :=
      match orText queryProvider none with
      | some text => providerFrom (.string text)
      | none => vehicle.telemetryProvider
    let source ←
      if provider = .smartcar then resolveSmartcarSource vehicle.id queryProviderId
      else pure none
    match usableSource source with
    | some _ => getSmartcarVehicleStatus runtime call userId vehicleId queryProviderId
    | none => do
      let fetched ← pullFromAdapter call vehicle.id provider queryProviderId lastKnown
        "provider-sync"
      return .status fetched, rfl⟩

def isStaleAt (now : Int) (lastSyncedAt : Option Int) : Bool :=
  lastSyncedAt.all fun synced => telemetryStaleMs < now - synced

def TelemetrySources.lineages (sources : TelemetrySources) : List (Option TelemetrySourceLineage) :=
  let signals := sources.signals
  [sources.battery, sources.gps, sources.odometer, sources.faults, sources.charging,
    signals.batterySoc, signals.batterySoh, signals.hvCurrent, signals.hvVoltage, signals.gpsSpeed,
    signals.gpsHeading]

/-- All lineages that there are say that they are stale, or that they are not. -/
def TelemetrySources.Report (isStale : Bool) (sources : TelemetrySources) : Prop :=
  ∀ lineage ∈ sources.lineages, ∀ source ∈ lineage, source.isStale = isStale

theorem isStale_buildLineage_now (now : Int) (provider : TelemetryProvider)
    (providerId : Option String) :
    (buildLineage now provider providerId (some (toISOString now))).isStale = false := by
  simp [buildLineage, computeFreshnessMs, telemetryStaleMs]

theorem report_or_iff {stored fallback : Option TelemetrySourceLineage} {isStale : Bool}
    (agrees : ∀ source ∈ fallback, source.isStale = isStale) :
    (∀ source ∈ stored.or fallback, source.isStale = isStale) ↔
      ∀ source ∈ stored, source.isStale = isStale := by
  cases stored with
  | none => exact iff_of_true agrees nofun
  | some source => rfl

/-- The lineages of a status are those of its row, and others that are not stale. -/
theorem report_toUnifiedTelemetryFromLatest_iff (now : Int) (vehicleId : String)
    (latest : TelemetryRow) :
    (toUnifiedTelemetryFromLatest now vehicleId latest).sources.Report false ↔
      latest.sources.Report false := by
  have fresh := isStale_buildLineage_now now latest.provider
    (some ((orText latest.providerVehicleId none).getD vehicleId))
  have onFallback : ∀ source ∈ some (buildLineage now latest.provider
      (some ((orText latest.providerVehicleId none).getD vehicleId)) (some (toISOString now))),
      source.isStale = false := by
    rintro _ ⟨⟩
    exact fresh
  have onGps : ∀ source ∈ latest.gps.map fun _ => buildLineage now latest.provider
      (some ((orText latest.providerVehicleId none).getD vehicleId)) (some (toISOString now)),
      source.isStale = false := by
    intro source isSource
    rcases Option.map_eq_some_iff.mp isSource with ⟨_, _, rfl⟩
    exact fresh
  simp only [TelemetrySources.Report, TelemetrySources.lineages, toUnifiedTelemetryFromLatest,
    List.forall_mem_cons, report_or_iff onFallback, report_or_iff onGps]

/-- The latest status is served only while it is fresh, and says of all its signals whether they
are stale now. -/
def IsServedFresh (now : Int) (vehicleId : String) (latest : TelemetryRow) : Prop :=
  ∀ status ∈ cachedStatus now vehicleId (some latest),
    isStaleAt now latest.lastSyncedAt = false ∧
      status.sources.Report (isStaleAt now latest.lastSyncedAt)

/-- The row was written as stale, or else as fresh in all its lineages and not more than a minute
ago. -/
theorem isServedFresh_iff (now : Int) (vehicleId : String) (latest : TelemetryRow) :
    IsServedFresh now vehicleId latest ↔ latest.sources.battery.any (·.isStale) = true ∨
        isStaleAt now latest.lastSyncedAt = false ∧ latest.sources.Report false := by
  let status := toUnifiedTelemetryFromLatest now vehicleId latest
  have flagged : status.sources.battery.any (·.isStale) = latest.sources.battery.any (·.isStale) := by
    rcases isStored : latest.sources.battery with _ | source
    · simp [status, toUnifiedTelemetryFromLatest, isStored, isStale_buildLineage_now]
    · simp [status, toUnifiedTelemetryFromLatest, isStored]
  have served : cachedStatus now vehicleId (some latest) =
      if latest.sources.battery.any (·.isStale) = true then none else some status := by
    rw [cachedStatus, Option.map_some, Option.filter_some, flagged]
    cases latest.sources.battery.any (·.isStale) <;> rfl
  have asStored : status.sources.Report false ↔ latest.sources.Report false :=
    report_toUnifiedTelemetryFromLatest_iff now vehicleId latest
  rw [IsServedFresh, served, ← asStored]
  by_cases isFlagged : latest.sources.battery.any (·.isStale) = true
  · rw [if_pos isFlagged]
    exact iff_of_true (fun _ isServed => absurd isServed (Option.not_mem_none _)) (.inl isFlagged)
  · rw [if_neg isFlagged, or_iff_right isFlagged]
    simp only [Option.mem_some_iff, forall_eq']
    exact and_congr_right fun fresh => by rw [fresh]

/-- A status that was fresh when it was written, an hour ago. -/
theorem not_isServedFresh_later : ¬ IsServedFresh 3600000 "car"
      (rowOf "car" (emptyTelemetry 0 "car" .enode "car") 0) := by
  intro isFresh
  exact absurd (isFresh _ rfl).1 (by decide)

/-! ## Signals that a webhook omits -/

inductive SignalValue where
  | number (value : Option ℚ)
  | flag (value : Option Bool)
  | status (value : Option ChargingStatus)
  | faults (value : List FaultAlert)
  deriving DecidableEq

/-- Where a signal is in a webhook and in a row, and what the row has if the signal is not known. -/
structure Signal where
  given : WebhookBody → JsValue
  stored : TelemetryRow → SignalValue
  unknown : SignalValue
  ofGps : Bool

namespace Signal

/-- A number that is no part of a position. -/
def number (given : WebhookBody → JsValue) (name : String) (stored : TelemetryRow → Option ℚ) :
    Signal :=
  ⟨fun body => asRecord (given body) name, fun row => .number (stored row), .number none, false⟩

def gps (name : String) (stored : TelemetryGps → Option ℚ) : Signal :=
  ⟨fun body => asRecord body.gps name, fun row => .number (row.gps.bind stored), .number none, true⟩

def all : List Signal :=
  [number (·.battery) "soh" (·.battery.soh), number (·.battery) "soc" (·.battery.soc),
    number (·.battery) "temperatureC" (·.battery.temperatureC),
    number (·.battery) "voltageV" (·.battery.voltageV),
    number (·.battery) "currentA" (·.battery.currentA),
    number (·.battery) "estimatedRangeKm" (·.battery.estimatedRangeKm),
    gps "latitude" (·.latitude), gps "longitude" (·.longitude), gps "headingDeg" (·.headingDeg),
    gps "speedKph" (·.speedKph), gps "altitudeM" (·.altitudeM),
    number (·.odometer) "totalKm" (·.odometer.totalKm),
    number (·.odometer) "tripKm" (·.odometer.tripKm),
    number (·.charging) "powerKw" (·.charging.powerKw),
    number (·.charging) "chargeLimitPercent" (·.charging.chargeLimitPercent),
    ⟨fun body => asRecord body.charging "status", fun row => .status row.charging.status,
      .status none, false⟩,
    ⟨fun body => asRecord body.charging "isPluggedIn", fun row => .flag row.charging.isPluggedIn,
      .flag none, false⟩,
    ⟨WebhookBody.faults, fun row => .faults row.faults, .faults [], false⟩]

variable (signal : Signal) (body : WebhookBody)

def IsOmitted : Prop :=
  signal.given body = .undefined ∨ signal.given body = .null

/-- A signal that a webhook omits is unknown after that, unless it is of a position that the webhook
omits as a whole. -/
theorem stored_of_isOmitted {signal : Signal} {body : WebhookBody} (member : signal ∈ all)
    (isOmitted : signal.IsOmitted body) (runtime : Runtime) (now sampled : Int)
    (provider : TelemetryProvider) (vehicleId : String) (current : TelemetryRow) :
    signal.stored (rowOf vehicleId
        (webhookStatus runtime now provider vehicleId (some current) body) sampled) =
      if signal.ofGps = true ∧ hasKeys runtime.keys body.gps = false then signal.stored current
      else signal.unknown := by
  have noNumber {value : JsValue} (omitted : value = .undefined ∨ value = .null) :
      numberOrNull value = none := by
    rcases omitted with rfl | rfl <;> rfl
  have ofGps {read : TelemetryGps → Option ℚ} {name : String}
      (reads : hasKeys runtime.keys body.gps = true →
        (normalizeGps runtime.keys body.gps).map read =
          some (numberOrNull (asRecord body.gps name)))
      (omitted : (gps name read).IsOmitted body) :
      SignalValue.number (((normalizeGps runtime.keys body.gps).or current.gps).bind read) =
        if true = true ∧ hasKeys runtime.keys body.gps = false then
          .number (current.gps.bind read)
        else .number none := by
    rcases isGiven : hasKeys runtime.keys body.gps with _ | _
    · rw [if_pos ⟨rfl, rfl⟩, normalizeGps, isGiven]
      rfl
    · rcases Option.map_eq_some_iff.mp (reads isGiven) with ⟨position, isPosition, isRead⟩
      rw [if_neg (by simp), isPosition, Option.some_or, Option.bind_some, isRead]
      exact congrArg SignalValue.number (noNumber omitted)
  simp only [all, List.mem_cons, List.not_mem_nil, or_false] at member
  rcases member with rfl | rfl | rfl | rfl | rfl | rfl | rfl | rfl | rfl | rfl | rfl | rfl | rfl |
    rfl | rfl | rfl | rfl | rfl
  iterate 6 exact congrArg SignalValue.number (noNumber isOmitted)
  iterate 5 exact ofGps (fun isGiven => by rw [normalizeGps, if_pos isGiven]; rfl) isOmitted
  iterate 4 exact congrArg SignalValue.number (noNumber isOmitted)
  · have noStatus : textOrNull (asRecord body.charging "status") = none := by
      rcases isOmitted with omitted | omitted <;> exact congrArg textOrNull omitted
    exact congrArg (fun text => SignalValue.status (text.bind chargingStatusOf)) noStatus
  · have noFlag : boolOrNull (asRecord body.charging "isPluggedIn") = none := by
      rcases isOmitted with omitted | omitted <;> exact congrArg boolOrNull omitted
    exact congrArg SignalValue.flag noFlag
  · have noFaults : normalizeFaults runtime.engine now vehicleId body.faults = [] := by
      rcases isOmitted with omitted | omitted <;> exact congrArg (normalizeFaults _ _ _) omitted
    exact congrArg SignalValue.faults noFaults

/-- The signal is unknown anyway, or it is of a position that the webhook omits as a whole. -/
def IsHarmless (runtime : Runtime) (before : TelemetryRow) : Prop :=
  signal.ofGps = true ∧ hasKeys runtime.keys body.gps = false ∨ signal.stored before = signal.unknown

end Signal

def KeepsOmitted (body : WebhookBody) (before after : TelemetryRow) : Prop :=
  ∀ signal ∈ Signal.all, signal.IsOmitted body → signal.stored after = signal.stored before

/-- Ingesting a webhook over the row of the vehicle keeps what it omits exactly if all that it omits
is harmless. -/
theorem keepsOmitted_iff (runtime : Runtime) (now sampled : Int) (provider : TelemetryProvider)
    (body : WebhookBody) {vehicleId : String} {store : Store} {before after : TelemetryRow}
    (stored : Store.latestTable.find? vehicleId store = some before)
    (ingested : Store.latestTable.find? vehicleId ((TelemetryWrite.upsertLatest (rowOf vehicleId
        (webhookStatus runtime now provider vehicleId (Store.latestTable.find? vehicleId store) body)
        sampled)).change store) = some after) : KeepsOmitted body before after ↔
      ∀ signal ∈ Signal.all, signal.IsOmitted body → signal.IsHarmless body runtime before := by
  rw [stored] at ingested
  obtain rfl := Option.some.inj (ingested.symm.trans (find?_latest_of_upserts rfl))
  refine forall₃_congr fun signal member isOmitted => ?_
  rw [Signal.stored_of_isOmitted member isOmitted, Signal.IsHarmless]
  split
  · rename_i isKept
    exact iff_of_true rfl (.inl isKept)
  · rename_i isLost
    exact ⟨fun same => .inr same.symm, fun harmless => (harmless.resolve_left isLost).symm⟩

namespace Sample

def charged : TelemetryRow :=
  rowOf "car" { emptyTelemetry 0 "car" .enode "car" with
    battery := { TelemetryBattery.unknown with soc := some 80 } } 0

def chargedStore : Store :=
  { store with latest := ⟨[charged], by decide⟩ }

def bare : WebhookBody :=
  readWebhookBody engine (JsRecord.empty.with "vehicleId" (.string "car"))

end Sample

theorem keepsOmitted_iff_charged : ∃ after, KeepsOmitted bare charged after ↔
      ∀ signal ∈ Signal.all, signal.IsOmitted bare →
        signal.IsHarmless bare runtime charged :=
  have stored : Store.latestTable.find? "car" chargedStore = some charged := rfl
  ⟨_, keepsOmitted_iff runtime 5000 5000 .enode bare stored
    (find?_latest_of_upserts rfl)⟩

/-- The state of charge is lost. -/
theorem not_keepsOmitted_bare : ¬ KeepsOmitted bare charged
      (rowOf "car" (webhookStatus runtime 5000 .enode "car" (some charged)
        bare) 5000) := by
  intro keeps
  have soc := keeps (Signal.number (·.battery) "soc" (·.battery.soc)) (by simp [Signal.all])
    (.inl rfl)
  exact absurd soc (by decide)

end Csms.Telemetry
