import Csms.Commands.Core
import Csms.Sessions.Store
import Csms.Transition.Run

/-!
# Loyalty points of fleet drivers

A driver's points and tier are part of the `metadata` column.  A loyalty transaction reads
the column and writes it back with the new balance, and `updateDriver` replaces it when it
is given metadata.  Neither looks at the column again when it writes.
-/

namespace Csms.Fleet

open Commands (optionalTrimmed)
open Js
open Sessions (readRecord readString)
open Transition

structure FleetDriver where
  organizationId : String
  metadata : JsValue

structure LoyaltyState where
  points : Int
  tier : String
  history : List JsRecord

def readInteger (engine : Engine) : JsValue → Option Int
  | .undefined | .null | .string "" => none
  | value =>
    match engine.toNumber value with
    | .finite parsed => some (Int.tdiv parsed.num parsed.den)
    | _ => none

def resolveLoyaltyTier (points : Int) : String :=
  if 2500 ≤ points then "PLATINUM"
  else if 1000 ≤ points then "GOLD"
  else if 250 ≤ points then "SILVER"
  else "BRONZE"

def extractLoyaltyState (engine : Engine) (value : JsValue) : LoyaltyState :=
  let metadata := (readRecord value).getD JsRecord.empty
  let loyalty := (readRecord (metadata "loyalty")).getD JsRecord.empty
  let points := (readInteger engine (loyalty "points")).getD 0
  { points
    tier := (readString (loyalty "tier")).getD (resolveLoyaltyTier points)
    history :=
      match loyalty "history" with
      | .array entries => entries.filterMap fun
          | .object fields => some fields
          | .date _ | .array _ => some JsRecord.empty
          | _ => none
      | _ => [] }

structure LoyaltyTransactionDto where
  points : Int
  (reason correlationId : Option String)
  metadata : Option JsRecord

/-- Who asks for a transaction, and what it draws: an id and the time. -/
structure LoyaltyCall where
  (tenantId actorId uuid now : String)

/-- The entry of `metadata` under `loyalty` after a transaction. -/
def nextLoyalty (call : LoyaltyCall) (dto : LoyaltyTransactionDto) (loyalty : LoyaltyState)
    (nextPoints : Int) : JsRecord :=
  let entry := JsRecord.empty
    |>.with "id" (.string call.uuid)
    |>.with "pointsDelta" (.number (.ofInt dto.points))
    |>.with "reason" (.string ((optionalTrimmed dto.reason).getD "Manual adjustment"))
    |>.with "occurredAt" (.string call.now)
    |>.with "actorId" (.string call.actorId)
    |>.with "correlationId" ((optionalTrimmed dto.correlationId).elim .null .string)
    |>.with "metadata" (.object (dto.metadata.getD JsRecord.empty))
  JsRecord.empty
    |>.with "points" (.number (.ofInt nextPoints))
    |>.with "tier" (.string (resolveLoyaltyTier nextPoints))
    |>.with "updatedAt" (.string call.now)
    |>.with "history" (.array (((entry :: loyalty.history).take 50).map .object))

def applyLoyaltyTransaction (engine : Engine) (call : LoyaltyCall) (dto : LoyaltyTransactionDto)
    (driver : Option FleetDriver) : Except HttpException JsValue :=
  if dto.points = 0 then .error (.badRequest "points must not be zero")
  else
    match driver.filter (·.organizationId = call.tenantId) with
    | none => .error (.notFound "Fleet driver not found in tenant scope")
    | some driver =>
      let currentMetadata := (readRecord driver.metadata).getD JsRecord.empty
      let loyalty := extractLoyaltyState engine driver.metadata
      let nextPoints := loyalty.points + dto.points
      if nextPoints < 0 then .error (.badRequest "Loyalty balance cannot go below zero")
      else .ok (.object
        (currentMetadata.with "loyalty" (.object (nextLoyalty call dto loyalty nextPoints))))

/-- `undefined`, which leaves the column alone, unless there is metadata. -/
def normalizeMetadata (metadata : Option JsRecord) : Option JsValue :=
  metadata.map .object

/-- What `updateDriver` writes into the column, if anything. -/
def updateDriver (tenantId : String) (metadata : Option JsRecord) (existing : FleetDriver) :
    Except HttpException (Option JsValue) :=
  if existing.organizationId = tenantId then .ok (normalizeMetadata metadata)
  else .error (.notFound "Fleet driver not found")

inductive DriverRequest where
  | loyalty (call : LoyaltyCall) (dto : LoyaltyTransactionDto)
  | update (tenantId : String) (metadata : Option JsRecord)

def DriverRequest.written (engine : Engine) (seen : FleetDriver) :
    DriverRequest → Except HttpException (Option JsValue)
  | loyalty call dto => (applyLoyaltyTransaction engine call dto (some seen)).map some
  | update tenantId metadata => updateDriver tenantId metadata seen

inductive Phase where
  | begun
  | read (seen : FleetDriver)
  | finished (accepted : Bool)

structure DriverSession where
  request : DriverRequest
  phase : Phase

structure DriverState where
  driver : FleetDriver
  sessions : List DriverSession

inductive DriverEvent where
  | arrive (request : DriverRequest)
  | read (id : Nat)
  | write (id : Nat)

namespace DriverState

variable (engine : Engine)

/-- Requests read and write in any order; one that stops in between takes no more steps. -/
def next (state : DriverState) : DriverEvent → DriverState
  | .arrive request => { state with sessions := state.sessions ++ [⟨request, .begun⟩] }
  | .read id =>
    match state.sessions[id]? with
    | some ⟨request, .begun⟩ =>
      { state with sessions := state.sessions.set id ⟨request, .read state.driver⟩ }
    | _ => state
  | .write id =>
    match state.sessions[id]? with
    | some ⟨request, .read seen⟩ =>
      match request.written engine seen with
      | .error _ => { state with sessions := state.sessions.set id ⟨request, .finished false⟩ }
      | .ok metadata =>
        { driver := { state.driver with metadata := metadata.getD state.driver.metadata }
          sessions := state.sessions.set id ⟨request, .finished true⟩ }
    | _ => state

def loyalty (state : DriverState) : LoyaltyState :=
  extractLoyaltyState engine state.driver.metadata

/-- The points are not negative, and the tier is theirs. -/
def IsSound (state : DriverState) : Prop :=
  0 ≤ (state.loyalty engine).points ∧
    (state.loyalty engine).tier = resolveLoyaltyTier (state.loyalty engine).points

end DriverState

/-- What an accepted transaction adds. -/
def DriverSession.delta : DriverSession → Int
  | ⟨.loyalty _ dto, .finished true⟩ => dto.points
  | _ => 0

/-- A transaction writes while the points are those it read, and metadata that is written
has the points and the tier that are stored. -/
def DriverRequest.KeepsUp (engine : Engine) (state : DriverState) (seen : FleetDriver) :
    DriverRequest → Prop
  | loyalty _ _ => (extractLoyaltyState engine seen.metadata).points = (state.loyalty engine).points
  | update _ none => True
  | update _ (some metadata) =>
    (extractLoyaltyState engine (.object metadata)).points = (state.loyalty engine).points ∧
      (extractLoyaltyState engine (.object metadata)).tier = (state.loyalty engine).tier

/-- A request that writes without being refused keeps up with the others. -/
def DriverState.KeepsUp (engine : Engine) (state : DriverState) : DriverEvent → Prop
  | .write id => ∀ request seen, state.sessions[id]? = some ⟨request, .read seen⟩ →
      (request.written engine seen).isOk → request.KeepsUp engine state seen
  | _ => True

section Runs

variable {engine : Engine}

theorem readString_resolveLoyaltyTier (points : Int) :
    readString (.string (resolveLoyaltyTier points)) = some (resolveLoyaltyTier points) := by
  unfold resolveLoyaltyTier
  split_ifs <;> decide

section

variable {call : LoyaltyCall} {dto : LoyaltyTransactionDto}

theorem extractLoyaltyState_nextLoyalty (record : JsRecord) (loyalty : LoyaltyState)
    (points : Int) :
    let state := extractLoyaltyState engine
      (.object (record.with "loyalty" (.object (nextLoyalty call dto loyalty points))))
    state.points = points ∧ state.tier = resolveLoyaltyTier points := by
  have isInteger : readInteger engine (.number (.ofInt points)) = some points := by
    simp [readInteger, Engine.toNumber, JsNumber.ofInt]
  simp [extractLoyaltyState, readRecord, JsRecord.with, nextLoyalty, isInteger,
    readString_resolveLoyaltyTier]

theorem of_applyLoyaltyTransaction {seen : FleetDriver} {written : JsValue}
    (accepted : applyLoyaltyTransaction engine call dto (some seen) = .ok written) :
    (extractLoyaltyState engine written).points =
        (extractLoyaltyState engine seen.metadata).points + dto.points ∧
      0 ≤ (extractLoyaltyState engine written).points ∧ (extractLoyaltyState engine written).tier =
        resolveLoyaltyTier (extractLoyaltyState engine written).points := by
  unfold applyLoyaltyTransaction at accepted
  split at accepted
  · cases accepted
  split at accepted
  · cases accepted
  · rename_i driver isDriver
    obtain rfl := Option.some.inj (Option.filter_eq_some_iff.mp isDriver).1
    dsimp only at accepted
    split at accepted
    · cases accepted
    · rename_i covered
      cases accepted
      obtain ⟨points, tier⟩ := extractLoyaltyState_nextLoyalty _ _ _
      rw [points, tier]
      exact ⟨rfl, not_lt.mp covered, rfl⟩

end

def DriverState.AddsUp (engine : Engine) (initial : Int) (state : DriverState) : Prop :=
  state.IsSound engine ∧
    (state.loyalty engine).points = initial + (state.sessions.map DriverSession.delta).sum

theorem sum_delta_set {sessions : List DriverSession} {id : Nat} {request : DriverRequest}
    {phase : Phase} (found : sessions[id]? = some ⟨request, phase⟩)
    (unaccepted : DriverSession.delta ⟨request, phase⟩ = 0) (session : DriverSession) :
    ((sessions.set id session).map DriverSession.delta).sum =
      (sessions.map DriverSession.delta).sum + session.delta := by
  obtain ⟨inside, isSession⟩ := List.getElem?_eq_some_iff.mp found
  have here : id < (sessions.map DriverSession.delta).length := by
    rw [List.length_map]
    exact inside
  rw [List.map_set, List.sum_set', dif_pos here, List.getElem_map, isSession,
    unaccepted, neg_zero, zero_add]

variable {state : DriverState} {event : DriverEvent} {initial : Int}

theorem addsUp_next_iff (adds : state.AddsUp engine initial) :
    (state.next engine event).AddsUp engine initial ↔ state.KeepsUp engine event := by
  obtain ⟨⟨covered, tier⟩, points⟩ := adds
  have unaccepted (request : DriverRequest) :
      DriverSession.delta ⟨request, .begun⟩ = 0 ∧
        (∀ seen, DriverSession.delta ⟨request, .read seen⟩ = 0) ∧
          DriverSession.delta ⟨request, .finished false⟩ = 0 := by
    cases request <;> exact ⟨rfl, fun _ => rfl, rfl⟩
  cases event with
  | arrive request =>
    refine iff_of_true ⟨⟨covered, tier⟩, points.trans ?_⟩ trivial
    simp [DriverState.next, unaccepted]
  | read id =>
    refine iff_of_true ?_ trivial
    rw [DriverState.next]
    split
    · rename_i request found
      refine ⟨⟨covered, tier⟩, points.trans ?_⟩
      rw [sum_delta_set found (unaccepted request).1, (unaccepted request).2.1, add_zero]
    · exact ⟨⟨covered, tier⟩, points⟩
  | write id =>
    rw [DriverState.next]
    split
    · rename_i request seen found
      have notYet := (unaccepted request).2.1 seen
      have keepsUp : state.KeepsUp engine (.write id) ↔
          ((request.written engine seen).isOk → request.KeepsUp engine state seen) := by
        refine ⟨fun keeps => keeps request seen found, ?_⟩
        rintro keeps _ _ other
        rw [found] at other
        cases other
        exact keeps
      rw [keepsUp]
      split
      · rename_i isRefused
        refine iff_of_true ⟨⟨covered, tier⟩, points.trans ?_⟩ ?_
        · rw [sum_delta_set found notYet, (unaccepted request).2.2, add_zero]
        · rw [isRefused]
          nofun
      · rename_i metadata isWritten
        unfold DriverState.AddsUp
        rw [sum_delta_set found notYet, ← add_assoc, ← points, isWritten]
        simp only [Except.isOk, Except.toBool, forall_const, DriverRequest.KeepsUp]
        rcases request with ⟨call, dto⟩ | ⟨tenantId, given⟩
        · rw [DriverRequest.written] at isWritten
          rcases accepted : applyLoyaltyTransaction engine call dto (some seen) with _ | written
          · rw [accepted] at isWritten
            cases isWritten
          · rw [accepted] at isWritten
            obtain rfl := Except.ok.inj isWritten
            obtain ⟨added, isCovered, isTier⟩ := of_applyLoyaltyTransaction accepted
            constructor
            · rintro ⟨-, sum⟩
              exact add_right_cancel (added.symm.trans sum)
            · intro same
              exact ⟨⟨isCovered, isTier⟩, added.trans (congrArg (· + dto.points) same)⟩
        · rw [DriverRequest.written, updateDriver] at isWritten
          split at isWritten
          · obtain rfl := Except.ok.inj isWritten
            rcases given with _ | new
            · exact iff_of_true ⟨⟨covered, tier⟩, (add_zero _).symm⟩ trivial
            · constructor
              · rintro ⟨⟨-, isTier⟩, sum⟩
                have same := sum.trans (add_zero _)
                exact ⟨same, isTier.trans (same ▸ tier.symm)⟩
              · rintro ⟨same, sameTier⟩
                exact ⟨⟨same ▸ covered, sameTier.trans (same ▸ tier)⟩,
                  same.trans (add_zero _).symm⟩
          · cases isWritten
    · rename_i notRead
      refine iff_of_true ⟨⟨covered, tier⟩, points⟩ fun request seen found => ?_
      exact absurd found (notRead request seen)

end Runs

namespace Sample

def engine : Engine :=
  ⟨fun _ _ => 0, fun _ => none, fun _ => .nan⟩

def driver : FleetDriver :=
  ⟨"tenant", .null⟩

def earns : DriverRequest :=
  .loyalty ⟨"tenant", "actor", "id", "now"⟩ ⟨50, none, none, none⟩

end Sample

open Sample

end Csms.Fleet
