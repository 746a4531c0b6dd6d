import Csms.Js.Value

/-!
# Data and number helpers of the energy planner

The planner's input and output records and the small functions it normalises
numbers with.  Numbers arrive as JavaScript numbers; after `normalizeOptionalInt`
they are nonnegative integers, so everything the planner computes is an `Int`.
-/

namespace Csms.EnergyManagement

open Js

universe u v w

inductive EnergyControlMode where
  | observeOnly
  | active
  | disabled
  deriving DecidableEq, Repr

inductive EnergyAllocationMethod where
  | equal
  | priority
  deriving DecidableEq, Repr

inductive EnergyDecisionState where
  | applied
  | dryRun
  | noChange
  | blocked
  | failed
  deriving DecidableEq, Repr

inductive EnergyAllocationCommandType where
  | applyChargingLimit
  | clearChargingLimit
  | none
  deriving DecidableEq, Repr

inductive EnergyAlertCode where
  | meterStale
  | meterFailsafe
  | manualOverride
  | chargerExcluded
  | noActiveChargers
  | groupDisabled
  deriving DecidableEq, Repr

/-- The reason codes of a plan. -/
inductive PlanReasonCode where
  | groupDisabled
  | failSafeLimit
  | manualOverride
  | staleTelemetry
  | noActiveChargers
  | chargerExcluded
  | normalOperation
  deriving DecidableEq, Repr

/-- The text of a plan's reason code, as stored and as part of dedupe keys. -/
def PlanReasonCode.text : PlanReasonCode → String
  | groupDisabled => "GROUP_DISABLED"
  | failSafeLimit => "FAIL_SAFE_LIMIT"
  | manualOverride => "MANUAL_OVERRIDE"
  | staleTelemetry => "STALE_TELEMETRY"
  | noActiveChargers => "NO_ACTIVE_CHARGERS"
  | chargerExcluded => "CHARGER_EXCLUDED"
  | normalOperation => "NORMAL_OPERATION"

/-- The reason codes of one member's allocation. -/
inductive MemberReasonCode where
  | groupDisabled
  | limitChanged
  | commandRefresh
  | unchanged
  | membershipDisabled
  | chargerExcluded
  deriving DecidableEq, Repr

inductive Phase where
  | phase1
  | phase2
  | phase3
  deriving DecidableEq, Repr

/-- One value for each phase of the supply. -/
structure PhaseTriple (α : Type u) where
  (phase1 phase2 phase3 : α)
  deriving DecidableEq, Repr

namespace PhaseTriple

variable {α : Type u} {β : Type v}

def get (triple : PhaseTriple α) : Phase → α
  | .phase1 => triple.phase1
  | .phase2 => triple.phase2
  | .phase3 => triple.phase3

def map (f : α → β) (triple : PhaseTriple α) : PhaseTriple β :=
  ⟨f triple.phase1, f triple.phase2, f triple.phase3⟩

end PhaseTriple

/-- One member of a load group, as the planner sees it.  `priority` is an
integer column of the membership row; the other numbers are as they come. -/
structure EnergyAllocationMemberInput where
  chargePointId : String
  enabled : Bool
  priority : Int
  (smartChargingEnabled chargePointOnline : Bool)
  (maxAmps lastAppliedAmps : Option JsNumber)
  lastAppliedDecisionHash : Option String
  lastCommandAt : Option DateText

structure EnergyTelemetryState where
  sampledAt : Option DateText
  freshnessSec : Option JsNumber
  meterSource : Option String

structure EnergyOverrideState where
  active : Bool
  capAmps : Option JsNumber
  expiresAt : Option DateText

structure EnergyAllocationPlanInput where
  groupId : String
  controlMode : EnergyControlMode
  observeOnly : Bool
  allocationMethod : EnergyAllocationMethod
  (siteLimitAmps nonEvLoadAmps dynamicBufferAmps failSafeAmps : PhaseTriple JsNumber)
  (deadbandAmps staleWarningAfterSec failSafeAfterSec commandRefreshSec : JsNumber)
  nowIso : DateText
  telemetry : Option EnergyTelemetryState
  override : Option EnergyOverrideState
  memberships : List EnergyAllocationMemberInput

/-- One member's allocation in a plan. -/
structure EnergyAllocationMemberPlan where
  chargePointId : String
  enabled : Bool
  priority : Int
  smartChargingEnabled : Bool
  previousAmps : Option Int
  targetAmps : Int
  commandType : EnergyAllocationCommandType
  shouldSendCommand : Bool
  reasonCode : MemberReasonCode
  deriving DecidableEq, Repr

structure EnergyAllocationPlan where
  decisionHash : String
  state : EnergyDecisionState
  reasonCode : PlanReasonCode
  alerts : List EnergyAlertCode
  telemetryAgeSec : Option Int
  (isTelemetryStale isTelemetryFailSafe : Bool)
  (siteLimitAmps nonEvLoadAmps dynamicBufferAmps headroomAmps : PhaseTriple Int)
  failSafeCeilingAmps : PhaseTriple Int
  overrideCapAmps : Option Int
  effectiveLimitAmps : Int
  activeChargePointCount : Nat
  allocations : List EnergyAllocationMemberPlan
  deriving DecidableEq, Repr

def normalizeOptionalInt : Option JsNumber → Option Int
  | none => none
  | some value =>
    match value.floor with
    | .finite normalized => if 0 ≤ normalized then some ⌊normalized⌋ else none
    | _ => none

/-- A normalised number is never negative. -/
theorem nonneg_of_normalizeOptionalInt {value : Option JsNumber} {normalized : Int}
    (equal : normalizeOptionalInt value = some normalized) : 0 ≤ normalized := by
  cases value with
  | none => simp [normalizeOptionalInt] at equal
  | some number =>
    simp only [normalizeOptionalInt] at equal
    split at equal
    · split at equal
      · rename_i floored floor_nonneg
        cases equal
        exact Int.floor_nonneg.mpr floor_nonneg
      · contradiction
    · contradiction

@[simp]
theorem normalizeOptionalInt_none : normalizeOptionalInt none = none :=
  rfl

@[simp]
theorem normalizeOptionalInt_ofInt (value : Int) :
    normalizeOptionalInt (some (.ofInt value)) = if 0 ≤ value then some value else none := by
  rw [normalizeOptionalInt, JsNumber.floor_ofInt]
  simp [JsNumber.ofInt]

def normalizePhaseTriple (value : PhaseTriple JsNumber) : PhaseTriple Int where
  phase1 := (normalizeOptionalInt (some value.phase1)).getD 0
  phase2 := (normalizeOptionalInt (some value.phase2)).getD 0
  phase3 := (normalizeOptionalInt (some value.phase3)).getD 0

def clampPhaseTriple (value : PhaseTriple Int) : PhaseTriple Int where
  phase1 := max 0 value.phase1
  phase2 := max 0 value.phase2
  phase3 := max 0 value.phase3

def subtractPhaseTriple (left right : PhaseTriple Int) : PhaseTriple Int where
  phase1 := max 0 (left.phase1 - right.phase1)
  phase2 := max 0 (left.phase2 - right.phase2)
  phase3 := max 0 (left.phase3 - right.phase3)

def minPhaseTriple (left right : PhaseTriple Int) : PhaseTriple Int where
  phase1 := min left.phase1 right.phase1
  phase2 := min left.phase2 right.phase2
  phase3 := min left.phase3 right.phase3

theorem get_normalizePhaseTriple (value : PhaseTriple JsNumber) (phase : Phase) :
    (normalizePhaseTriple value).get phase =
      (normalizeOptionalInt (some (value.get phase))).getD 0 := by
  cases phase <;> rfl

@[simp]
theorem get_clampPhaseTriple (value : PhaseTriple Int) (phase : Phase) :
    (clampPhaseTriple value).get phase = max 0 (value.get phase) := by
  cases phase <;> rfl

@[simp]
theorem get_subtractPhaseTriple (left right : PhaseTriple Int) (phase : Phase) :
    (subtractPhaseTriple left right).get phase = max 0 (left.get phase - right.get phase) := by
  cases phase <;> rfl

@[simp]
theorem get_minPhaseTriple (left right : PhaseTriple Int) (phase : Phase) :
    (minPhaseTriple left right).get phase = min (left.get phase) (right.get phase) := by
  cases phase <;> rfl

theorem normalizePhaseTriple_nonneg (value : PhaseTriple JsNumber) (phase : Phase) :
    0 ≤ (normalizePhaseTriple value).get phase := by
  rw [get_normalizePhaseTriple]
  cases equal : normalizeOptionalInt (some (value.get phase)) with
  | none => simp
  | some normalized => exact nonneg_of_normalizeOptionalInt equal

/-- The least of the positive phases, zero when there is none. -/
def resolveScalarLimit (value : PhaseTriple Int) : Int :=
  let positivePhases := [value.phase1, value.phase2, value.phase3].filter fun phase => 0 < phase
  match positivePhases with
  | [] => 0
  | phase :: phases => phases.foldl min phase

def resolveTelemetryAgeSec (nowIso : DateText) (sampledAt : Option DateText)
    (freshnessSec : Option JsNumber) : Option Int :=
  match normalizeOptionalInt freshnessSec with
  | some normalizedFreshness => some normalizedFreshness
  | none =>
    match sampledAt with
    | none => none
    | some sampledAt =>
      match dateParse nowIso, dateParse sampledAt with
      | some now, some sampled => some (max 0 ((now - sampled) / 1000))
      | _, _ => none

def resolveOverrideCap (override : Option EnergyOverrideState) (nowIso : DateText) : Option Int :=
  match override with
  | none => none
  | some override =>
    if override.active then
      match override.expiresAt.bind dateParse, dateParse nowIso with
      | some expiresAt, some now =>
        if expiresAt ≤ now then none else normalizeOptionalInt override.capAmps
      | _, _ => normalizeOptionalInt override.capAmps
    else
      none

def hasRefreshWindowExpired (lastCommandAt : Option DateText) (nowIso : DateText)
    (commandRefreshSec : JsNumber) : Bool :=
  match lastCommandAt with
  | none => true
  | some lastCommandAt =>
    match dateParse lastCommandAt, dateParse nowIso with
    | some lastCommandMs, some nowMs =>
      JsNumber.le (JsNumber.max (.ofInt 1) commandRefreshSec.floor).thousandfold
        (.ofInt (nowMs - lastCommandMs))
    | _, _ => true

theorem nonneg_of_resolveOverrideCap {override : Option EnergyOverrideState} {nowIso : DateText}
    {cap : Int} (equal : resolveOverrideCap override nowIso = some cap) : 0 ≤ cap := by
  unfold resolveOverrideCap at equal
  repeat' split at equal
  all_goals first
    | contradiction
    | exact nonneg_of_normalizeOptionalInt equal

end Csms.EnergyManagement
