import Csms.Commands.Core
import Csms.EnergyManagement.Logic.Core
import Csms.Js.Value

/-!
# Reading request bodies

The private readers of the energy management service: each takes an untyped
value of a request body to a typed one or to nothing.  What a reader accepts is
well formed: texts are trimmed and not empty, counts are never negative, a list
of memberships names every charge point once.
-/

namespace Csms.EnergyManagement

open Js

inductive EnergyMeterPlacement where
  | main
  | subFeeder
  | derived
  deriving DecidableEq, Repr

inductive ScheduleStatus where
  | draft
  | pendingApproval
  | approved
  | active
  | superseded
  | cancelled
  | fallbackDlm
  deriving DecidableEq, Repr

def readString : JsValue → Option String
  | .string value => if trim value = "" then none else some (trim value)
  | _ => none

/-- What `readString` accepts it accepts again, unchanged. -/
theorem readString_readString {value : JsValue} {text : String}
    (accepted : readString value = some text) : readString (.string text) = some text := by
  cases value with
  | string raw =>
    simp only [readString] at accepted
    split at accepted
    · contradiction
    · cases accepted
      simp [readString, *]
  | _ => contradiction

def readOptionalString (value : JsValue) : Option String :=
  readString value

def readRecord : JsValue → Option JsRecord
  | .object fields => some fields
  -- `typeof` a date is `'object'`, and a date has none of the fields read
  | .date _ => some JsRecord.empty
  | _ => none

def readBoolean : JsValue → Option Bool
  | .boolean value => some value
  | .number (.finite value) => some (value ≠ 0)
  | .string value =>
    let normalized := toLowerCase (trim value)
    if normalized ∈ ["true", "1", "yes", "y", "on"] then some true
    else if normalized ∈ ["false", "0", "no", "n", "off"] then some false
    else none
  | _ => none

/-- `readBoolean(value)` as a condition. -/
def isTrue (value : JsValue) : Bool :=
  readBoolean value = some true

section

variable (engine : Engine)

def readNumber (value : JsValue) : Option Int :=
  match value with
  | .undefined => none
  | .null => none
  | .string "" => none
  | value =>
    match engine.toNumber value with
    | .finite parsed => some ⌊parsed⌋
    | _ => none

def readPositiveInt (value : JsValue) : Option Int :=
  (readNumber engine value).bind fun parsed => if 0 < parsed then some parsed else none

def readNonNegativeInt (value : JsValue) : Option Int :=
  (readNumber engine value).bind fun parsed => if 0 ≤ parsed then some parsed else none

def parseDate (value : JsValue) : Option Int :=
  match value with
  | .date milliseconds => milliseconds
  | value => engine.toDate value

theorem readNonNegativeInt_nonneg {value : JsValue} {parsed : Int}
    (equal : readNonNegativeInt engine value = some parsed) : 0 ≤ parsed := by
  obtain ⟨number, _, accepted⟩ := Option.bind_eq_some_iff.mp equal
  split at accepted
  · cases accepted
    assumption
  · contradiction

/-- `readNonNegativeInt(column) ?? 0` for an integer column. -/
def columnAmps (column : Int) : Int :=
  (readNonNegativeInt engine (.number (.ofInt column))).getD 0

/-- The same for a column that may be null. -/
def optionalColumnAmps (column : Option Int) : Int :=
  (readNonNegativeInt engine (column.elim .null fun value => .number (.ofInt value))).getD 0

end

def normalizeControlMode (value : JsValue) : Option EnergyControlMode :=
  match (readString value).map toWord with
  | some "OBSERVE_ONLY" => some .observeOnly
  | some "ACTIVE" => some .active
  | some "DISABLED" => some .disabled
  | _ => none

def normalizeAllocationMethod (value : JsValue) : Option EnergyAllocationMethod :=
  match (readString value).map toWord with
  | some "EQUAL" => some .equal
  | some "PRIORITY" => some .priority
  | _ => none

def normalizeMeterPlacement (value : JsValue) : Option EnergyMeterPlacement :=
  match (readString value).map toWord with
  | some "MAIN" => some .main
  | some "SUB_FEEDER" => some .subFeeder
  | some "DERIVED" => some .derived
  | _ => none

def normalizeScheduleStatus (value : JsValue) : Option ScheduleStatus :=
  match (readString value).map toWord with
  | some "DRAFT" => some .draft
  | some "PENDING_APPROVAL" => some .pendingApproval
  | some "APPROVED" => some .approved
  | some "ACTIVE" => some .active
  | some "SUPERSEDED" => some .superseded
  | some "CANCELLED" => some .cancelled
  | some "FALLBACK_DLM" => some .fallbackDlm
  | _ => none

/-- The first of the named fields that is neither null nor absent. -/
def firstField (record : JsRecord) (names : List String) : JsValue :=
  (names.map record).foldr JsValue.nullish .undefined

def toPhaseTripleValue (engine : Engine) (value : JsRecord) : PhaseTriple Int where
  phase1 := (readNonNegativeInt engine (firstField value
    ["phase1", "phase_1", "l1", "currentPhase1", "ampsPhase1", "phase1Amps"])).getD 0
  phase2 := (readNonNegativeInt engine (firstField value
    ["phase2", "phase_2", "l2", "currentPhase2", "ampsPhase2", "phase2Amps"])).getD 0
  phase3 := (readNonNegativeInt engine (firstField value
    ["phase3", "phase_3", "l3", "currentPhase3", "ampsPhase3", "phase3Amps"])).getD 0

def toPhaseTripleFromRecord (engine : Engine) (input : JsRecord) (key : String) : PhaseTriple Int :=
  let nested := (readRecord (input key)).or
    ((readRecord (input (key ++ "Amps"))).or (readRecord (input (key ++ "Load"))))
  match nested with
  | some nested => toPhaseTripleValue engine nested
  | none =>
    { phase1 := (readNonNegativeInt engine (firstField input
        [key ++ "Phase1", key ++ "AmpsPhase1", key ++ "_phase_1", key ++ "_amps_phase_1"])).getD 0
      phase2 := (readNonNegativeInt engine (firstField input
        [key ++ "Phase2", key ++ "AmpsPhase2", key ++ "_phase_2", key ++ "_amps_phase_2"])).getD 0
      phase3 := (readNonNegativeInt engine (firstField input
        [key ++ "Phase3", key ++ "AmpsPhase3", key ++ "_phase_3", key ++ "_amps_phase_3"])).getD 0 }

/-- One membership of a request after `normalizeMembershipInputs`. -/
structure NormalizedMembership where
  chargePointId : String
  priority : Int
  enabled : Bool
  maxAmps : Option Int
  deriving DecidableEq

/-- What is kept of one membership object. -/
def normalizeMembership (engine : Engine) (chargePointId : String) (record : JsRecord) :
    NormalizedMembership where
  chargePointId := chargePointId
  priority := (readNonNegativeInt engine (record "priority")).getD 0
  enabled := (readBoolean (record "enabled")).getD true
  maxAmps := readNonNegativeInt engine (record "maxAmps")

/-- The loop of `normalizeMembershipInputs`; `seen` holds the charge points of
the memberships read so far. -/
def normalizeMembershipLoop (engine : Engine) :
    List JsValue → List String → Except HttpException (List NormalizedMembership)
  | [], _ => .ok []
  | membership :: memberships, seen =>
    match readRecord membership with
    | none => .error (.badRequest "Each membership must be an object")
    | some record =>
      match readString (record "chargePointId") with
      | none => .error (.badRequest "membership.chargePointId is required")
      | some chargePointId =>
        if chargePointId ∈ seen then
          .error (.badRequest
            ("Duplicate membership for charge point " ++ chargePointId))
        else
          (normalizeMembershipLoop engine memberships (chargePointId :: seen)).map
            (normalizeMembership engine chargePointId record :: ·)

def normalizeMembershipInputs (engine : Engine) (memberships : List JsValue) :
    Except HttpException (List NormalizedMembership) :=
  normalizeMembershipLoop engine memberships []

/-- The fields of a normalised membership, as a further request reads them. -/
def NormalizedMembership.record (membership : NormalizedMembership) : JsRecord := fun field =>
  if field = "chargePointId" then .string membership.chargePointId
  else if field = "priority" then .number (.ofInt membership.priority)
  else if field = "enabled" then .boolean membership.enabled
  else if field = "maxAmps" then
    membership.maxAmps.elim .null fun amps => .number (.ofInt amps)
  else .undefined

def NormalizedMembership.toInput (membership : NormalizedMembership) : JsValue :=
  .object membership.record

@[simp]
theorem readRecord_toInput (membership : NormalizedMembership) :
    readRecord membership.toInput = some membership.record :=
  rfl

/-- What a `for … of` loop over the value visits; `none` when the value is not
iterable. -/
def iterate : JsValue → Option (List JsValue)
  | .array items => some items
  | .string text => some (text.toList.map fun c => .string (String.singleton c))
  | _ => none

theorem readNonNegativeInt_ofInt (engine : Engine) {value : Int} (nonneg : 0 ≤ value) :
    readNonNegativeInt engine (.number (.ofInt value)) = some value := by
  simp [readNonNegativeInt, readNumber, Engine.toNumber, JsNumber.ofInt, nonneg]

/-- A normalised membership is normalised to itself. -/
theorem normalizeMembership_record (engine : Engine) (chargePointId : String) (record : JsRecord) :
    normalizeMembership engine chargePointId
        (normalizeMembership engine chargePointId record).record =
      normalizeMembership engine chargePointId record := by
  have priorityNonneg : 0 ≤ (readNonNegativeInt engine (record "priority")).getD 0 := by
    cases read : readNonNegativeInt engine (record "priority") with
    | none => rfl
    | some priority => exact readNonNegativeInt_nonneg engine read
  have priorityEq := readNonNegativeInt_ofInt engine priorityNonneg
  have maxAmpsEq : readNonNegativeInt engine ((readNonNegativeInt engine
      (record "maxAmps")).elim .null fun amps => .number (.ofInt amps)) =
        readNonNegativeInt engine (record "maxAmps") := by
    cases read : readNonNegativeInt engine (record "maxAmps") with
    | none => rfl
    | some amps => exact readNonNegativeInt_ofInt engine (readNonNegativeInt_nonneg engine read)
  simp [normalizeMembership, NormalizedMembership.record, readBoolean, priorityEq, maxAmpsEq]

variable {memberships : List JsValue} {seen : List String} {normalized : List NormalizedMembership}

/-- An accepted membership is a record of a charge point not seen before. -/
theorem exists_of_normalizeMembershipLoop_cons {engine : Engine} {membership : JsValue}
    (accepted : normalizeMembershipLoop engine (membership :: memberships) seen = .ok normalized) :
    ∃ record chargePointId others, readRecord membership = some record ∧
      readString (record "chargePointId") = some chargePointId ∧ chargePointId ∉ seen ∧
        normalizeMembershipLoop engine memberships (chargePointId :: seen) = .ok others ∧
          normalized = normalizeMembership engine chargePointId record :: others := by
  simp only [normalizeMembershipLoop] at accepted
  split at accepted
  · contradiction
  · rename_i record isRecord
    split at accepted
    · contradiction
    · rename_i chargePointId isId
      split at accepted
      · contradiction
      · rename_i unseen
        cases rest : normalizeMembershipLoop engine memberships (chargePointId :: seen) with
        | error error => simp [rest, Except.map] at accepted
        | ok others =>
          rw [rest] at accepted
          exact ⟨record, chargePointId, others, isRecord, isId, unseen, rest,
            (Except.ok.inj accepted).symm⟩

theorem normalizeMembershipLoop_distinct {engine : Engine}
    (accepted : normalizeMembershipLoop engine memberships seen = .ok normalized) :
    (normalized.map (·.chargePointId)).Nodup ∧
      ∀ membership ∈ normalized, membership.chargePointId ∉ seen := by
  induction memberships generalizing seen normalized with
  | nil =>
    cases accepted
    simp
  | cons membership memberships ih =>
    obtain ⟨record, chargePointId, others, -, -, unseen, rest, rfl⟩ :=
      exists_of_normalizeMembershipLoop_cons accepted
    obtain ⟨distinct, fresh⟩ := ih rest
    constructor
    · simp only [List.map_cons, List.nodup_cons, List.mem_map, not_exists, not_and]
      refine ⟨?_, distinct⟩
      intro other otherMem equal
      exact fresh other otherMem (equal ▸ List.mem_cons_self)
    · intro other otherMem
      rcases List.mem_cons.mp otherMem with rfl | otherMem
      · exact unseen
      · intro seenMem
        exact fresh other otherMem (List.mem_cons_of_mem _ seenMem)

theorem normalizeMembershipInputs_distinct {engine : Engine}
    (accepted : normalizeMembershipInputs engine memberships = .ok normalized) :
    (normalized.map (·.chargePointId)).Nodup :=
  (normalizeMembershipLoop_distinct accepted).1

theorem normalizeMembershipLoop_toInput {engine : Engine}
    (accepted : normalizeMembershipLoop engine memberships seen = .ok normalized) :
    normalizeMembershipLoop engine (normalized.map (·.toInput)) seen = .ok normalized := by
  induction memberships generalizing seen normalized with
  | nil =>
    cases accepted
    rfl
  | cons membership memberships ih =>
    obtain ⟨record, chargePointId, others, -, read, unseen, rest, rfl⟩ :=
      exists_of_normalizeMembershipLoop_cons accepted
    have again : readString ((normalizeMembership engine chargePointId record).record
        "chargePointId") = some chargePointId := readString_readString read
    simp only [List.map_cons, normalizeMembershipLoop, readRecord_toInput, again, unseen,
      if_false, ih rest, Except.map, normalizeMembership_record]

theorem normalizeMembershipInputs_toInput {engine : Engine}
    (accepted : normalizeMembershipInputs engine memberships = .ok normalized) :
    normalizeMembershipInputs engine (normalized.map (·.toInput)) = .ok normalized :=
  normalizeMembershipLoop_toInput accepted

end Csms.EnergyManagement
