import Csms.Database.Keeps
import Csms.Telemetry.Latest

/-!
# Faults

A report is compared with the unresolved faults of its vehicle as they were read, of
whatever provider.  A vehicle gets two unresolved faults of one code when two are created
in between, and a report resolves what it does not mention, also when it has no fault
list.
-/

namespace Csms.Telemetry

open Database Js

/-! ## One unresolved fault of a code -/

/-- The statement creates no fault of a code of which there is an unresolved one. -/
def TelemetryWrite.isFirst : TelemetryWrite → Store → Bool
  | .createFault _ row, store =>
    !row.isUnresolved ||
      (store.unresolvedFaults row.vehicleId).all fun other => other.code ≠ row.code
  | _, _ => true

variable {ingest : Ingest} {row : VehicleFault} {write : TelemetryWrite}

section Statements

variable {store : Store}

theorem atMostOne_update (once : store.AtMostOneUnresolved) (id : String)
    (update : VehicleFault → VehicleFault) (keepsId : ∀ row, (update row).id = row.id)
    (keepsKind : ∀ row, (update row).kind = row.kind)
    (unmarks : ∀ row, (update row).isUnresolved = true → row.isUnresolved = true) :
    (Store.faultTable.update id update keepsId store).AtMostOneUnresolved := by
  change MarkedOnce _ _ _ (store.faults.rows.map fun row =>
    if decide (row.id = id) = true then update row else row)
  apply MarkedOnce.map_of_unmarks
  · intro row
    split
    · exact keepsId row
    · rfl
  · intro row
    split
    · exact keepsKind row
    · rfl
  · exact once
  · intro row _
    split
    · exact unmarks row
    · exact fun unresolved => unresolved

theorem mem_unresolvedFaults {vehicleId : String} {fault : VehicleFault} :
    fault ∈ store.unresolvedFaults vehicleId ↔
      fault ∈ store.faults.rows ∧ fault.vehicleId = vehicleId ∧ fault.isUnresolved = true := by
  simp [Store.unresolvedFaults]

theorem isFirst_createFault_iff : (TelemetryWrite.createFault ingest row).isFirst store = true ↔
      (row.isUnresolved = true → ∀ other ∈ store.faults.rows, other.isUnresolved = true →
        other.kind ≠ row.kind) := by
  rw [TelemetryWrite.isFirst, Bool.or_eq_true, Bool.not_eq_true', List.all_eq_true]
  constructor
  · rintro (isResolved | others) unresolved other member otherUnresolved sameKind
    · rw [unresolved] at isResolved
      contradiction
    · rcases Prod.mk.inj sameKind with ⟨sameVehicle, sameCode⟩
      have differs := others other (mem_unresolvedFaults.mpr ⟨member, sameVehicle, otherUnresolved⟩)
      exact of_decide_eq_true differs sameCode
  · intro others
    by_cases unresolved : row.isUnresolved = true
    · right
      intro other member
      rcases mem_unresolvedFaults.mp member with ⟨stored, sameVehicle, otherUnresolved⟩
      apply decide_eq_true
      intro sameCode
      exact others unresolved other stored otherUnresolved (Prod.ext sameVehicle sameCode)
    · exact Or.inl (Bool.eq_false_of_not_eq_true unresolved)

theorem atMostOne_createFault_iff (once : store.AtMostOneUnresolved)
    (free : Store.faultTable.find? row.id store = none) :
    ((TelemetryWrite.createFault ingest row).change store).AtMostOneUnresolved ↔
      (TelemetryWrite.createFault ingest row).isFirst store = true := by
  have rows : ((TelemetryWrite.createFault ingest row).change store).faults.rows =
      store.faults.rows ++ [row] := Component.rows_insert free
  rw [Store.AtMostOneUnresolved, rows, markedOnce_append_singleton_iff once,
    isFirst_createFault_iff]
  have idFree := Table.find?_eq_none_iff.mp free
  constructor
  · intro same unresolved other member otherUnresolved sameKind
    have sameId := same unresolved other member otherUnresolved sameKind
    exact idFree (sameId ▸ List.mem_map_of_mem member)
  · intro others unresolved other member otherUnresolved sameKind
    exact absurd sameKind (others unresolved other member otherUnresolved)

theorem isUnresolved_resolved (now : Int) (row : VehicleFault) :
    (TelemetryWrite.resolved now row).isUnresolved = false :=
  rfl

theorem TelemetryWrite.faults_upserted (row : TelemetryRow) :
    (TelemetryWrite.upserted row store).faults = store.faults := by
  rw [upserted]
  split <;> rfl

/-- Of each code, one unresolved fault stays the only one, unless another is created. -/
theorem TelemetryWrite.atMostOne_change_iff (once : store.AtMostOneUnresolved)
    (isAllowed : write.allowed store = true) :
    (write.change store).AtMostOneUnresolved ↔ write.isFirst store = true := by
  cases write with
  | createFault ingest row =>
    exact atMostOne_createFault_iff once (Option.isNone_iff_eq_none.mp isAllowed)
  | updateFault ingest id fault lastSeenAt =>
    exact iff_of_true (atMostOne_update once id (reported fault lastSeenAt) _
      (fun _ => rfl) fun _ unresolved => unresolved) rfl
  | resolveFault ingest id now =>
    refine iff_of_true (atMostOne_update once id (resolved now) _ (fun _ => rfl) ?_) rfl
    intro row unresolved
    rw [isUnresolved_resolved] at unresolved
    contradiction
  | upsertLatest row =>
    refine iff_of_true ?_ rfl
    change MarkedOnce _ _ _ (upserted row store).faults.rows
    rw [faults_upserted]
    exact once
  | _ => exact iff_of_true once rfl

end Statements

section Runs

variable {runtime : Runtime}
  {conditions : Conditions Store TelemetryQuery TelemetryWrite TelemetryAction} {store : Store}
  {state : TelemetryState}

/-- In every run, there is never more than one unresolved fault of a code exactly when
each fault is created while there is none of its code. -/
theorem atMostOne_iff_isFirst (initially : store.AtMostOneUnresolved)
    (reachable : state.Reachable runtime conditions store) :
    (state.shared.store.AtMostOneUnresolved ∧
        ∀ commit ∈ state.shared.commits, commit.before.AtMostOneUnresolved) ↔
      ∀ commit ∈ state.shared.commits, commit.label.isFirst commit.before = true := by
  have each (write : TelemetryWrite) (before after : Store) (result : Unit)
      (once : before.AtMostOneUnresolved) (run : write.body.run before = some (after, result)) :
      after.AtMostOneUnresolved ↔ write.isFirst before = true := by
    rcases TelemetryWrite.run_body_eq_some_iff.mp run with ⟨isAllowed, rfl⟩
    exact TelemetryWrite.atMostOne_change_iff once isAllowed
  exact ReadCommitted.Reachable.good_iff TelemetryWrite.guarded each initially reachable

end Runs

/-! ## Who reported a fault -/

def TelemetryWrite.reports (provider : TelemetryProvider) (faultId : String) : TelemetryWrite → Bool
  | .updateFault ingest id .. => ingest.provider = provider && id = faultId
  | _ => false

def reportedBy (provider : TelemetryProvider) (faultId : String)
    (shared : Shared Store TelemetryWrite) : Bool :=
  shared.store.faults.rows.any (fun row => row.id = faultId && row.provider = some provider) ||
    shared.commits.any fun commit => commit.label.reports provider faultId

/-- A report resolves a fault only if its provider has reported it before, and only if
the report has a fault list. -/
def TelemetryWrite.MayResolve (write : TelemetryWrite) (shared : Shared Store TelemetryWrite) :
    Prop :=
  match write with
  | .resolveFault ingest id _ =>
    ingest.hasFaultList = true ∧ reportedBy ingest.provider id shared = true
  | _ => True

/-- All resolutions of the history were of faults that might be resolved. -/
def ResolvesOwn (shared : Shared Store TelemetryWrite) : Prop :=
  ∀ earlier commit later, shared.commits = earlier ++ commit :: later →
    commit.label.MayResolve ⟨commit.before, earlier⟩

/-- What was reported stays reported. -/
def Remembers (first second : Shared Store TelemetryWrite) : Prop :=
  ∀ provider faultId, reportedBy provider faultId first = true →
    reportedBy provider faultId second = true

theorem remembers_refl (shared : Shared Store TelemetryWrite) : Remembers shared shared :=
  fun _ _ reported => reported

theorem Remembers.trans {first second third : Shared Store TelemetryWrite}
    (left : Remembers first second) (right : Remembers second third) : Remembers first third :=
  fun provider faultId reported => right provider faultId (left provider faultId reported)

section Commits

variable {store : Store}

theorem exists_mem_update {id : String} {update : VehicleFault → VehicleFault}
    (keepsId : ∀ row, (update row).id = row.id)
    (keepsProvider : ∀ row, (update row).provider = row.provider) (member : row ∈ store.faults.rows) :
    ∃ other ∈ (Store.faultTable.update id update keepsId store).faults.rows,
      other.id = row.id ∧ other.provider = row.provider := by
  have isIn (new : VehicleFault)
      (changed : (row.id = id ∧ new = update row) ∨ (row.id ≠ id ∧ new = row)) :
      new ∈ (Store.faultTable.table (Store.faultTable.update id update keepsId store)).rows :=
    Component.mem_update.mpr ⟨row, member, changed⟩
  by_cases isIt : row.id = id
  · exact ⟨update row, isIn _ (Or.inl ⟨isIt, rfl⟩), keepsId row, keepsProvider row⟩
  · exact ⟨row, isIn _ (Or.inr ⟨isIt, rfl⟩), rfl, rfl⟩

/-- A fault stays a fault of its provider. -/
theorem TelemetryWrite.exists_mem_change (isAllowed : write.allowed store = true)
    (member : row ∈ store.faults.rows) : ∃ other ∈ (write.change store).faults.rows,
      other.id = row.id ∧ other.provider = row.provider := by
  cases write with
  | createFault ingest new =>
    refine ⟨row, ?_, rfl, rfl⟩
    have free : Store.faultTable.find? new.id store = none :=
      Option.isNone_iff_eq_none.mp isAllowed
    have rows : ((TelemetryWrite.createFault ingest new).change store).faults.rows =
        store.faults.rows ++ [new] := Component.rows_insert free
    rw [rows]
    exact List.mem_append_left _ member
  | updateFault ingest id fault lastSeenAt =>
    exact exists_mem_update (id_reported fault lastSeenAt) (fun _ => rfl) member
  | resolveFault ingest id now => exact exists_mem_update (id_resolved now) (fun _ => rfl) member
  | upsertLatest latest =>
    change ∃ other ∈ (upserted latest store).faults.rows, _
    rw [faults_upserted]
    exact ⟨row, member, rfl, rfl⟩
  | _ => exact ⟨row, member, rfl, rfl⟩

/-- A statement that may be executed keeps what is known of all resolutions. -/
theorem ResolvesOwn.commit {shared : Shared Store TelemetryWrite} (own : ResolvesOwn shared)
    (may : write.MayResolve shared) {after : Store} {result : Unit}
    (run : write.body.run shared.store = some (after, result)) (id : Nat) :
    Remembers shared (shared.commit id write after) ∧ ResolvesOwn (shared.commit id write after) := by
  rcases TelemetryWrite.run_body_eq_some_iff.mp run with ⟨isAllowed, rfl⟩
  constructor
  · intro provider faultId reported
    rw [reportedBy, Bool.or_eq_true, List.any_eq_true, List.any_eq_true] at reported ⊢
    rcases reported with ⟨row, member, isRow⟩ | ⟨commit, member, isReport⟩
    · left
      rcases TelemetryWrite.exists_mem_change isAllowed member with
        ⟨other, otherMem, sameId, sameProvider⟩
      exact ⟨other, otherMem, by rw [sameId, sameProvider]; exact isRow⟩
    · exact Or.inr ⟨commit, List.mem_append_left _ member, isReport⟩
  · intro earlier commit later isCommit
    rw [Shared.commits_commit] at isCommit
    rcases append_singleton_eq_append_cons isCommit with ⟨rfl, rfl⟩ | ⟨rest, _, isOld⟩
    · have isEarlier := List.append_inj_left' isCommit rfl
      rw [← isEarlier]
      exact may
    · exact own earlier commit rest isOld

end Commits

/-! ## Careful runs -/

/-- A report compares itself with the unresolved faults only when it mentions them all, or
has a fault list and those that are missing in it were reported by its provider; and no
fault is created of whose code there is an unresolved one. -/
def careful : Conditions Store TelemetryQuery TelemetryWrite TelemetryAction where
  onArrive _ _ := true
  onQuery _ name shared :=
    match name with
    | .unresolvedFaults ingest =>
      (shared.store.unresolvedFaults ingest.vehicleId).all fun fault =>
        !ingest.isMissing fault.code ||
          ingest.hasFaultList && reportedBy ingest.provider fault.id shared
    | _ => true
  onCommit _ write shared := write.isFirst shared.store

abbrev TelemetryRequest.ResolvesOwn {α : Type} (request : TelemetryAction) (id : Nat)
    (program : TelemetryRequest α) : Prop :=
  program.Keeps (fun write => write.body.run) careful Telemetry.ResolvesOwn Remembers request id

/-- The statement resolves no fault. -/
def TelemetryWrite.isHarmless : TelemetryWrite → Bool
  | .resolveFault .. => false
  | _ => true

section Programs

variable {request : TelemetryAction} {id : Nat}

theorem TelemetryWrite.mayResolve_of_isHarmless (harmless : write.isHarmless = true)
    (shared : Shared Store TelemetryWrite) : write.MayResolve shared := by
  cases write with
  | resolveFault ingest id now => contradiction
  | _ => trivial

theorem harmless_keeps (shared : Shared Store TelemetryWrite) (write : TelemetryWrite)
    (after : Store) (result : Unit) (own : ResolvesOwn shared) (harmless : write.isHarmless = true)
    (run : write.body.run shared.store = some (after, result)) :
    Remembers shared (shared.commit id write after) ∧ ResolvesOwn (shared.commit id write after) :=
  own.commit (TelemetryWrite.mayResolve_of_isHarmless harmless shared) run id

theorem resolvesOwn_of_transacts {α : Type} {program : TelemetryRequest α}
    (transacts : program.Transacts fun write => write.isHarmless = true) :
    program.ResolvesOwn request id :=
  transacts.keeps fun shared write after result own harmless _ run =>
    harmless_keeps shared write after result own harmless run

theorem resolvesOwn_bind {α γ : Type} {first : TelemetryRequest α}
    {next : α → TelemetryRequest γ} (keeps : first.ResolvesOwn request id)
    (onward : ∀ value, (next value).ResolvesOwn request id) :
    (first >>= next).ResolvesOwn request id :=
  keeps.bind remembers_refl onward

theorem harmless_execute (harmless : write.isHarmless = true) :
    (execute write).Transacts fun write => write.isHarmless = true :=
  Request.transacts_commit _ harmless

theorem harmless_persistTelemetrySnapshot (now : Int) (vehicleId : String)
    (status : UnifiedTelemetryData) : (persistTelemetrySnapshot now vehicleId status).Transacts
      fun write => write.isHarmless = true :=
  (transacts_ofExcept _).bind fun _ => (harmless_execute rfl).bind fun _ =>
    (harmless_execute rfl).bind fun _ => harmless_execute rfl

theorem harmless_reportFaults (call : TelemetryCall) (ingest : Ingest)
    (existing : List VehicleFault) (faults : List (FaultAlert × Nat)) :
    (reportFaults call ingest existing faults).Transacts
      fun write => write.isHarmless = true := by
  induction faults with
  | nil => exact transacts_pure ()
  | cons entry rest ih =>
    refine (transacts_ofExcept _).bind fun seenAt => ?_
    cases existing.find? fun row => row.code = entry.1.code with
    | none | some => exact (harmless_execute rfl).bind fun _ => ih

/-- The report may resolve each of these that it does not mention. -/
def MayResolveMissing (ingest : Ingest) (existing : List VehicleFault)
    (shared : Shared Store TelemetryWrite) : Prop :=
  ∀ row ∈ existing, ingest.isMissing row.code = true →
    ingest.hasFaultList = true ∧ reportedBy ingest.provider row.id shared = true

theorem MayResolveMissing.later {existing : List VehicleFault}
    {first second : Shared Store TelemetryWrite} (may : MayResolveMissing ingest existing first)
    (remembers : Remembers first second) : MayResolveMissing ingest existing second :=
  fun row member missing => (may row member missing).imp_right (remembers _ _)

theorem meets_resolveFaults (now : Int) (ingest : Ingest) (existing : List VehicleFault)
    (shared : Shared Store TelemetryWrite) (may : MayResolveMissing ingest existing shared) :
    (resolveFaults now ingest existing).Meets (fun write => write.body.run) careful ResolvesOwn
      Remembers request id (fun _ _ => True) shared := by
  induction existing generalizing shared with
  | nil => exact (meets_pure ()).mpr fun _ _ _ => trivial
  | cons row rest ih =>
    have mayRest : MayResolveMissing ingest rest shared :=
      fun other member => may other (List.mem_cons_of_mem _ member)
    apply meets_ite
    · intro missing
      refine (Request.meets_commit_bind _ _ _).mpr ?_
      intro later remembers own
      refine ⟨fun _ _ _ => trivial, ?_⟩
      intro _ after result run
      have mayHere : (TelemetryWrite.resolveFault ingest row.id now).MayResolve later :=
        may.later remembers row List.mem_cons_self missing
      rcases own.commit mayHere run id with ⟨further, stillOwn⟩
      exact ⟨further, stillOwn, ih _ (mayRest.later (remembers.trans further))⟩
    · intro _
      exact ih shared mayRest

/-- A report that compares itself carefully resolves only what it may. -/
theorem resolvesOwn_syncFaultLifecycle (call : TelemetryCall) (ingest : Ingest) :
    (syncFaultLifecycle call ingest).ResolvesOwn request id := by
  intro shared _
  refine (meets_read_bind _ _ _).mpr ?_
  intro later _ own isCareful
  have may : MayResolveMissing ingest (later.store.unresolvedFaults ingest.vehicleId) later := by
    intro row member missing
    have allowed := List.all_eq_true.mp isCareful row member
    rw [missing, Bool.not_true, Bool.false_or, Bool.and_eq_true] at allowed
    exact allowed
  have reported := Request.Meets.frame
    (MayResolveMissing ingest (later.store.unresolvedFaults ingest.vehicleId))
    (fun _ _ remembers mayFirst => mayFirst.later remembers)
    (@resolvesOwn_of_transacts request id _ _
      (harmless_reportFaults call ingest (later.store.unresolvedFaults ingest.vehicleId)
        ingest.faults.zipIdx) later own) may
  exact Request.Meets.bind remembers_refl reported own
    (fun _ further _ mayFurther => meets_resolveFaults call.now ingest _ further mayFurther.2)
    fun _ _ _ => trivial

/-! ## All requests -/

section Steps

variable {α γ : Type}

theorem resolvesOwn_pure (value : α) : (pure value : TelemetryRequest α).ResolvesOwn request id :=
  Request.keeps_pure value

theorem resolvesOwn_throw (error : TelemetryException) :
    TelemetryRequest.ResolvesOwn request id (Request.throw error : TelemetryRequest α) :=
  keeps_throw error

theorem resolvesOwn_read_bind {name : TelemetryQuery} {find : Store → α}
    {next : α → TelemetryRequest γ} (onward : ∀ value, (next value).ResolvesOwn request id) :
    TelemetryRequest.ResolvesOwn request id (Request.read name find >>= next) :=
  resolvesOwn_bind (resolvesOwn_of_transacts (transacts_read name find)) onward

theorem resolvesOwn_ofExcept_bind {found : Except TelemetryException α}
    {next : α → TelemetryRequest γ} (onward : ∀ value, (next value).ResolvesOwn request id) :
    TelemetryRequest.ResolvesOwn request id (Request.ofExcept found >>= next) :=
  resolvesOwn_bind (resolvesOwn_of_transacts (transacts_ofExcept found)) onward

theorem resolvesOwn_execute_bind (harmless : write.isHarmless = true)
    {next : Unit → TelemetryRequest γ} (onward : ∀ value, (next value).ResolvesOwn request id) :
    TelemetryRequest.ResolvesOwn request id (execute write >>= next) :=
  resolvesOwn_bind (resolvesOwn_of_transacts (harmless_execute harmless)) onward

end Steps

theorem resolvesOwn_persistTelemetrySnapshot (now : Int) (vehicleId : String)
    (status : UnifiedTelemetryData) :
    (persistTelemetrySnapshot now vehicleId status).ResolvesOwn request id :=
  resolvesOwn_of_transacts (harmless_persistTelemetrySnapshot now vehicleId status)

theorem resolvesOwn_resolveVehicleForWebhook (vehicleId providerVehicleId : Option String)
    (provider : TelemetryProvider) :
    (resolveVehicleForWebhook vehicleId providerVehicleId provider).ResolvesOwn request id := by
  unfold resolveVehicleForWebhook
  split
  · exact resolvesOwn_of_transacts (transacts_read _ _)
  · split
    · exact resolvesOwn_pure none
    · refine resolvesOwn_read_bind fun source => ?_
      cases source with
      | some source => exact resolvesOwn_of_transacts (transacts_read _ _)
      | none => exact resolvesOwn_pure none

theorem resolvesOwn_findAccessibleVehicle (call : TelemetryCall) (vehicleId userId : String) :
    (findAccessibleVehicle call vehicleId userId).ResolvesOwn request id := by
  refine resolvesOwn_read_bind fun found => ?_
  cases found with
  | none => exact resolvesOwn_throw _
  | some vehicle =>
    dsimp only
    split
    · refine resolvesOwn_bind ?_ fun _ => resolvesOwn_pure vehicle
      refine resolvesOwn_read_bind fun user => Request.Keeps.ite (resolvesOwn_pure ()) ?_
      exact resolvesOwn_read_bind fun membership =>
        resolvesOwn_of_transacts (transacts_ofExcept _)
    · exact Request.Keeps.ite (resolvesOwn_throw _) (resolvesOwn_pure vehicle)

theorem resolvesOwn_ingestProviderWebhook (runtime : Runtime) (call : TelemetryCall)
    (provider : TelemetryProvider) (body : WebhookBody) :
    (ingestProviderWebhook runtime call provider body).ResolvesOwn request id := by
  refine resolvesOwn_bind (resolvesOwn_resolveVehicleForWebhook _ _ _) fun found => ?_
  cases found with
  | none => exact resolvesOwn_throw _
  | some vehicle =>
    refine resolvesOwn_ofExcept_bind fun _ => resolvesOwn_read_bind fun current => ?_
    refine resolvesOwn_bind (resolvesOwn_persistTelemetrySnapshot _ _ _) fun _ => ?_
    exact resolvesOwn_bind (resolvesOwn_syncFaultLifecycle _ _) fun _ => resolvesOwn_pure _

theorem resolvesOwn_ingestSmartcarWebhook (runtime : Runtime) (payload : JsRecord)
    (call : TelemetryCall) :
    (ingestSmartcarWebhook runtime payload call).ResolvesOwn request id := by
  refine Request.Keeps.ite (Request.Keeps.ite ?_ ?_) (resolvesOwn_throw _)
  · split
    · exact resolvesOwn_throw _
    · exact resolvesOwn_ofExcept_bind fun text => resolvesOwn_pure _
  · unfold ingestSmartcarEvent
    split
    · exact resolvesOwn_throw _
    · refine resolvesOwn_bind (resolvesOwn_resolveVehicleForWebhook _ _ _) fun found => ?_
      cases found with
      | none => exact resolvesOwn_throw _
      | some vehicle =>
        refine resolvesOwn_ofExcept_bind fun _ => resolvesOwn_ofExcept_bind fun lastSyncedAt => ?_
        refine resolvesOwn_bind (resolvesOwn_ingestProviderWebhook _ _ _ _) fun _ => ?_
        split
        · unfold applySmartcarCommandWebhookStatus
          split
          · exact resolvesOwn_pure _
          · exact resolvesOwn_execute_bind rfl fun _ => resolvesOwn_pure _
        · exact resolvesOwn_pure _

theorem resolvesOwn_getSmartcarVehicleStatus (runtime : Runtime) (call : TelemetryCall)
    (userId vehicleId : String) (providerId : Option String) :
    (getSmartcarVehicleStatus runtime call userId vehicleId providerId).ResolvesOwn request id := by
  refine resolvesOwn_bind (resolvesOwn_findAccessibleVehicle _ _ _) fun vehicle => ?_
  refine resolvesOwn_ofExcept_bind fun _ => resolvesOwn_read_bind fun source => ?_
  split
  · exact resolvesOwn_throw _
  · refine resolvesOwn_ofExcept_bind fun _ => resolvesOwn_execute_bind rfl fun _ => ?_
    refine resolvesOwn_ofExcept_bind fun snapshot => ?_
    exact resolvesOwn_bind (resolvesOwn_persistTelemetrySnapshot _ _ _) fun _ => resolvesOwn_pure _

theorem resolvesOwn_pullFromAdapter (call : TelemetryCall) (vehicleId : String)
    (provider : TelemetryProvider) (providerVehicleId : Option String)
    (lastKnown : Option UnifiedTelemetryData) (source : String) :
    (pullFromAdapter call vehicleId provider providerVehicleId lastKnown source).ResolvesOwn request
      id :=
  resolvesOwn_bind (resolvesOwn_persistTelemetrySnapshot _ _ _) fun _ =>
    resolvesOwn_bind (resolvesOwn_syncFaultLifecycle _ _) fun _ => resolvesOwn_pure _

theorem resolvesOwn_getVehicleStatus (runtime : Runtime) (call : TelemetryCall)
    (userId vehicleId : String) (queryProvider queryProviderId : Option String) :
    (getVehicleStatus runtime call userId vehicleId queryProvider queryProviderId).ResolvesOwn
      request id := by
  refine resolvesOwn_bind (resolvesOwn_findAccessibleVehicle _ _ _) fun vehicle => ?_
  refine resolvesOwn_ofExcept_bind fun _ => resolvesOwn_read_bind fun latest => ?_
  dsimp only
  split
  · exact resolvesOwn_pure _
  · refine Request.Keeps.ite (resolvesOwn_read_bind fun source => ?_)
      (resolvesOwn_bind (resolvesOwn_pure none) fun source => ?_)
    all_goals
      split
      · exact resolvesOwn_getSmartcarVehicleStatus _ _ _ _ _
      · exact resolvesOwn_bind (resolvesOwn_pullFromAdapter _ _ _ _ _ _) fun _ => resolvesOwn_pure _

theorem resolvesOwn_pollSmartcar (call : TelemetryCall) (vehicle : Vehicle)
    (lastKnown : Option UnifiedTelemetryData) :
    (pollSmartcar call vehicle lastKnown).ResolvesOwn request id := by
  have fromAdapter : TelemetryRequest.ResolvesOwn request id (do
      let providerVehicleId ← resolveProviderVehicleId vehicle.id .smartcar
      let _ ← pullFromAdapter call vehicle.id .smartcar providerVehicleId lastKnown "poll"
      pure ()) := by
    refine resolvesOwn_bind (resolvesOwn_read_bind fun _ => resolvesOwn_pure _) fun _ => ?_
    exact resolvesOwn_bind (resolvesOwn_pullFromAdapter _ _ _ _ _ _) fun _ => resolvesOwn_pure ()
  refine resolvesOwn_read_bind fun source => ?_
  split
  · refine keeps_transact
      (fun shared after result own _ run => harmless_keeps shared _ after result own rfl run) ?_
    intro result
    split
    · refine resolvesOwn_bind (resolvesOwn_persistTelemetrySnapshot _ _ _) fun _ => ?_
      exact resolvesOwn_syncFaultLifecycle _ _
    · exact fromAdapter
  · exact fromAdapter

theorem resolvesOwn_pollVehicle (runtime : Runtime) (call : TelemetryCall) (mode : PollMode)
    (vehicle : Vehicle) : (pollVehicle runtime call mode vehicle).ResolvesOwn request id := by
  refine Request.Keeps.ite ?_ (resolvesOwn_pure ())
  refine resolvesOwn_read_bind fun latest => Request.Keeps.ite (resolvesOwn_pure ()) ?_
  refine Request.Keeps.ite (resolvesOwn_pollSmartcar _ _ _) ?_
  refine resolvesOwn_bind (resolvesOwn_read_bind fun _ => resolvesOwn_pure _) fun _ => ?_
  exact resolvesOwn_bind (resolvesOwn_pullFromAdapter _ _ _ _ _ _) fun _ => resolvesOwn_pure ()

theorem resolvesOwn_pollVehicles (runtime : Runtime) (calls : String → TelemetryCall)
    (mode : PollMode) (vehicles : List Vehicle) :
    (pollVehicles runtime calls mode vehicles).ResolvesOwn request id := by
  induction vehicles with
  | nil => exact resolvesOwn_pure ()
  | cons vehicle rest ih =>
    exact resolvesOwn_bind (resolvesOwn_pollVehicle _ _ _ _) fun _ => ih

theorem TelemetryAction.resolvesOwn (runtime : Runtime) (action : TelemetryAction) :
    (action.program runtime).ResolvesOwn request id := by
  cases action with
  | providerWebhook call provider payload => exact resolvesOwn_ingestProviderWebhook _ _ _ _
  | smartcarWebhook call payload => exact resolvesOwn_ingestSmartcarWebhook _ _ _
  | vehicleStatus call userId vehicleId provider providerId =>
    exact resolvesOwn_getVehicleStatus _ _ _ _ _ _
  | smartcarVehicleStatus call userId vehicleId providerId =>
    exact resolvesOwn_getSmartcarVehicleStatus _ _ _ _ _
  | poll calls mode =>
    refine resolvesOwn_read_bind fun vehicles => ?_
    exact resolvesOwn_bind (resolvesOwn_pollVehicles _ _ _ _) fun _ => resolvesOwn_pure _

end Programs

/-- In every careful run a vehicle has at most one unresolved fault of each code, and
reports resolve only faults that their provider has reported, and only if they have a
fault list. -/
theorem faults_sound {runtime : Runtime} {store : Store} {state : TelemetryState}
    (initially : store.AtMostOneUnresolved) (reachable : state.Reachable runtime careful store) :
    state.shared.store.AtMostOneUnresolved ∧
      (∀ commit ∈ state.shared.commits, commit.before.AtMostOneUnresolved) ∧
      ResolvesOwn state.shared := by
  have permitted := (ReadCommitted.Reachable.abstract TelemetryWrite.guarded reachable).permitted
  have first (commit : Commit Store TelemetryWrite) (member : commit ∈ state.shared.commits) :
      commit.label.isFirst commit.before = true := by
    rcases List.append_of_mem member with ⟨earlier, later, isCommit⟩
    rcases permitted earlier commit later isCommit with ⟨request, isFirst⟩
    exact isFirst
  have atMostOne := (atMostOne_iff_isFirst initially reachable).mpr first
  have own : ResolvesOwn state.shared := by
    refine ReadCommitted.Reachable.keeps TelemetryWrite.guarded remembers_refl
      (fun _ _ _ => Remembers.trans) (fun action _ => TelemetryAction.resolvesOwn runtime action) ?_ reachable
    intro earlier commit later isCommit
    simp [Shared.initial] at isCommit
  exact ⟨atMostOne.1, atMostOne.2, own⟩

/-! ## Reports without a list -/

namespace Sample

def fault (id code : String) : VehicleFault where
  id := id
  vehicleId := "car"
  provider := some .enode
  source := some "webhook"
  code := code
  severity := .warning
  description := code
  status := .open
  firstSeenAt := 0
  lastSeenAt := 0
  resolvedAt := none
  resolvedBy := none

def faultyStore : Store :=
  { store with faults := ⟨[fault "old" "P1"], List.nodup_singleton _⟩ }

def lists (codes : List String) : TelemetryAction :=
  .providerWebhook (call "fault") "ENODE"
    ((JsRecord.empty.with "vehicleId" (.string "car")).with "faults"
      (.array (codes.map fun code => .object ((JsRecord.empty.with "code" (.string code)).with
        "severity" (.string "WARNING")))))

def ingestsFaults (id statements : Nat) : List (DatabaseEvent TelemetryAction) :=
  writes id ++ writes id ++ writes id ++ [.query id] ++
    (List.replicate statements (writes id)).flatten

def faultStatuses (state : TelemetryState) : List (String × FaultStatus) :=
  state.shared.store.faults.rows.map fun fault => (fault.code, fault.status)

def lastResolution (state : TelemetryState) : Option Bool :=
  match state.shared.commits.getLast? with
  | some ⟨_, .resolveFault ingest _ _, _, _⟩ => some ingest.hasFaultList
  | _ => none

theorem not_resolvesOwn {state : TelemetryState} (last : lastResolution state = some false) :
    ¬ ResolvesOwn state.shared := by
  intro own
  rw [lastResolution] at last
  split at last
  · rename_i session ingest id now before after isLast
    rcases List.append_of_mem (List.mem_of_getLast? isLast) with ⟨earlier, later, isCommit⟩
    have hasFaultList : ingest.hasFaultList = true := (own earlier _ later isCommit).1
    rw [hasFaultList] at last
    contradiction
  · contradiction

end Sample

open Sample

/-- A report that lists one fault instead of another of its provider. -/
theorem faults_sound_listed : ∃ state : TelemetryState,
      faultStatuses state = [("P1", .resolved), ("P2", .open)] ∧
        state.shared.store.AtMostOneUnresolved ∧
          (∀ commit ∈ state.shared.commits, commit.before.AtMostOneUnresolved) ∧
          ResolvesOwn state.shared := by
  have run : (afterFrom faultyStore careful
      ([.arrive (lists ["P2"]), .query 0, .query 0] ++ ingestsFaults 0 2)).map
        faultStatuses = some [("P1", .resolved), ("P2", .open)] := by
    decide +kernel
  rcases Option.map_eq_some_iff.mp run with ⟨state, reached, statuses⟩
  exact ⟨state, statuses,
    faults_sound (by decide) (Transition.reachable_of_foldlM reached)⟩

/-- A report that lists a code twice creates two faults, and a Smartcar webhook, which has
no fault list, resolves what another provider has reported. -/
theorem reports_break_faults :
    (∃ state : TelemetryState, state.Reachable runtime Conditions.none store ∧
        store.AtMostOneUnresolved ∧ ¬ state.shared.store.AtMostOneUnresolved) ∧
      ∃ state : TelemetryState, state.Reachable runtime Conditions.none faultyStore ∧
        faultStatuses state = [("P1", .resolved)] ∧ ¬ ResolvesOwn state.shared := by
  constructor
  · have run : (afterFrom store Conditions.none
        ([.arrive (lists ["P1", "P1"]), .query 0, .query 0] ++
          ingestsFaults 0 2)).map
          (fun state => decide state.shared.store.AtMostOneUnresolved) = some false := by
      decide +kernel
    rcases Option.map_eq_some_iff.mp run with ⟨state, reached, isBroken⟩
    exact ⟨state, Transition.reachable_of_foldlM reached, by decide, of_decide_eq_false isBroken⟩
  · have run : (afterFrom faultyStore Conditions.none
        ([.arrive (.smartcarWebhook (call "")
          (JsRecord.empty.with "vehicleId" (.string "car"))), .query 0, .query 0, .query 0] ++
            ingestsFaults 0 1)).map
          (fun state => (faultStatuses state, lastResolution state)) =
        some ([("P1", .resolved)], some false) := by
      decide +kernel
    rcases Option.map_eq_some_iff.mp run with ⟨state, reached, summary⟩
    rcases Prod.mk.inj summary with ⟨statuses, last⟩
    exact ⟨state, Transition.reachable_of_foldlM reached, statuses, not_resolvesOwn last⟩

end Csms.Telemetry
