import Csms.EnergyManagement.Telemetry.Ingest

/-!
# The age of telemetry

A plan reads the age of the telemetry from the freshness stored with the newest
snapshot.  That number is written once, when the sample arrives, and never
grows, so a recalculation works with the real age only while the sample is no
older than reported with it.  This file proves exactly that over runs of samples
and recalculations.
-/

namespace Csms.EnergyManagement

open Js Service Transition

/-- The recalculation worked with at least the whole seconds since its snapshot
was taken, and in fail-safe once the snapshot was older than the group allows. -/
structure UsesRealAge (planNow : Int) (recalculation : Recalculation) : Prop where
  age : ∀ snapshot, recalculation.bundle.latestTelemetry = some snapshot →
    ∃ age, recalculation.plan.telemetryAgeSec = some age ∧
      (planNow - snapshot.sampledAt) / 1000 ≤ age
  failSafe : ∀ snapshot, recalculation.bundle.latestTelemetry = some snapshot →
    recalculation.group.failSafeAfterSec * 1000 < planNow - snapshot.sampledAt →
      recalculation.plan.isTelemetryFailSafe = true

def RecalculatesWithRealAge (store : Store) : TelemetryEvent → Prop
  | .recalculation context clock id input =>
    ∀ recalculation later,
      recalculateGroup context clock id input store = .ok recalculation later →
        UsesRealAge clock.planNow recalculation
  | _ => True

/-- If the event is a recalculation of a stored group, it happens before the
newest snapshot is a second older than the age reported with it.  A negative
reported age, which no ingest stores, is ignored by the planner. -/
def WithinReportedAge (store : Store) : TelemetryEvent → Prop
  | .recalculation context clock id _ =>
    ∀ loaded, loadGroupOrThrow context store id = .ok loaded →
      ∀ snapshot, newestSnapshot store loaded.group.id = some snapshot →
        0 ≤ snapshot.freshnessSec →
          clock.planNow < snapshot.sampledAt + (snapshot.freshnessSec + 1) * 1000
  | _ => True

theorem ageReaches_ofInt (age threshold : Int) :
    ageReaches age (.ofInt threshold) = decide (max 0 threshold ≤ age) := by
  simp [ageReaches]

theorem resolveTelemetryAgeSec_eq (planNow sampledAt freshnessSec : Int) :
    resolveTelemetryAgeSec (toISOString planNow) (some (toISOString sampledAt))
        (some (.ofInt freshnessSec)) =
      some (if 0 ≤ freshnessSec then freshnessSec
        else max 0 ((planNow - sampledAt) / 1000)) := by
  unfold resolveTelemetryAgeSec
  rw [normalizeOptionalInt_ofInt]
  by_cases nonneg : 0 ≤ freshnessSec
  · simp [nonneg]
  · simp [nonneg]

theorem plan_telemetryAgeSec (context : ServiceContext) {clock : RecalculateClock}
    {store : Store} {loaded : GroupBundle} {snapshot : EnergyTelemetrySnapshot}
    (latest : (loadBundle clock.bundleNow store loaded).latestTelemetry = some snapshot) :
    (planOf context clock store loaded).telemetryAgeSec =
      some (if 0 ≤ snapshot.freshnessSec then snapshot.freshnessSec
        else max 0 ((clock.planNow - snapshot.sampledAt) / 1000)) := by
  rw [← resolveTelemetryAgeSec_eq]
  unfold planOf buildEnergyAllocationPlan planInput
  simp only [latest, Option.map_some, Option.bind_some]

theorem plan_isTelemetryFailSafe {context : ServiceContext} {clock : RecalculateClock}
    {store : Store} {loaded : GroupBundle} {age : Int}
    (ageEq : (planOf context clock store loaded).telemetryAgeSec = some age) :
    (planOf context clock store loaded).isTelemetryFailSafe =
      decide (max 0 loaded.group.failSafeAfterSec ≤ age) := by
  have failSafeEq : (planOf context clock store loaded).isTelemetryFailSafe =
      (planOf context clock store loaded).telemetryAgeSec.all
        (ageReaches · (.ofInt loaded.group.failSafeAfterSec)) := rfl
  rw [failSafeEq, ageEq, Option.all_some, ageReaches_ofInt]

theorem loaded_snapshots {context : ServiceContext} {store : Store} {id : String}
    {loaded : GroupBundle} (found : loadGroupOrThrow context store id = .ok loaded) (now : Int) :
    (loadBundle now store loaded).latestTelemetry = newestSnapshot store loaded.group.id := by
  have bundleEq := loadGroupOrThrow_eq_groupBundle found
  rw [bundleEq]
  rfl

theorem recalculatesWithRealAge_iff (store : Store) (event : TelemetryEvent) :
    RecalculatesWithRealAge store event ↔ WithinReportedAge store event := by
  cases event with
  | sample | meterReading | pvOutput => exact Iff.rfl
  | recalculation context clock id input =>
    constructor
    · intro realAge loaded found snapshot newest reported
      obtain ⟨commands, carriedOut⟩ := recalculateGroup_eq context clock input found
      have latest := (loaded_snapshots found clock.bundleNow).trans newest
      obtain ⟨age, ageEq, ageLe⟩ := (realAge _ _ carriedOut).age snapshot latest
      have planAge := plan_telemetryAgeSec context latest
      rw [if_pos reported] at planAge
      rw [planAge] at ageEq
      cases ageEq
      omega
    · intro within recalculation later carriedOut
      cases found : loadGroupOrThrow context store id with
      | error error =>
        rw [recalculateGroup_error context clock input found] at carriedOut
        contradiction
      | ok loaded =>
        obtain ⟨commands, expected⟩ := recalculateGroup_eq context clock input found
        rw [expected] at carriedOut
        cases carriedOut
        constructor
        · intro snapshot latest
          refine ⟨_, plan_telemetryAgeSec context latest, ?_⟩
          have newest := (loaded_snapshots found clock.bundleNow).symm.trans latest
          have bound := within loaded found snapshot newest
          split
          · have := bound ‹_›
            omega
          · exact le_max_right _ _
        · intro snapshot latest expired
          have newest := (loaded_snapshots found clock.bundleNow).symm.trans latest
          have bound := within loaded found snapshot newest
          rw [plan_isTelemetryFailSafe (plan_telemetryAgeSec context latest), decide_eq_true_eq]
          change loaded.group.failSafeAfterSec * 1000 < _ at expired
          split
          · have := bound ‹_›
            omega
          · omega

/-- In every run, from any store: all recalculations use the real age exactly
when all of them happen within the age reported with the newest snapshot. -/
theorem realAge_iff_withinReportedAge (store : Store) (events : List TelemetryEvent) :
    StepsMeet TelemetryEvent.next RecalculatesWithRealAge store events ↔
      StepsMeet TelemetryEvent.next WithinReportedAge store events :=
  stepsMeet_congr recalculatesWithRealAge_iff store events

/-- One sample at time 0, and a recalculation at `planNow`. -/
def sampleThenRecalculate (planNow : Int) : List TelemetryEvent :=
  [.sample siteContext 0 "group-1" JsRecord.empty,
    .recalculation siteContext (.still planNow) "group-1" ⟨false, none, none⟩]

/-- Ten minutes after its only sample the group still works with an age of 0
seconds. -/
theorem tenMinutesOld_not_realAge :
    ¬ StepsMeet TelemetryEvent.next RecalculatesWithRealAge siteStore
      (sampleThenRecalculate 600000) := by
  rintro ⟨-, realAge, -⟩
  have within := (recalculatesWithRealAge_iff _ _).mp realAge
  have newest : newestSnapshot (TelemetryEvent.next siteStore
      (.sample siteContext 0 "group-1" JsRecord.empty)) "group-1" =
        some (ingestedSnapshot siteContext.engine.toEngine 0 siteGroup JsRecord.empty) := by
    rfl
  have bound := within _ rfl _ newest (by decide)
  exact absurd bound (by decide)

end Csms.EnergyManagement
