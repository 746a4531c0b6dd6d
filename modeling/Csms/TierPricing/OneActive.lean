import Csms.Commands.Core
import Csms.Database.ReadCommitted
import Csms.Table.Keyed

/-!
# One active version of a tier

A publication that holds the locks on all active versions of its tier when it commits has archived
all of them but its own.  A version that became active after its update had started is not locked,
and stays active next to the published one.
-/

/-!
## The publication of tier pricing

A version of the pricing of a tier is published in a transaction: the versions that are active are
archived, and the published one becomes active.  The update of the active versions takes effect on
those that it finds when it starts and that are still active when it has their locks.
-/

namespace Csms.TierPricing

open Js Database

inductive TierCode
  | t1
  | t2
  | t3
  | t4
deriving DecidableEq

def TierCode.text : TierCode → String
  | t1 => "T1"
  | t2 => "T2"
  | t3 => "T3"
  | t4 => "T4"

inductive VersionStatus
  | draft
  | active
  | archived
deriving DecidableEq

structure PlatformTierPricingVersion where
  id : String
  tierCode : TierCode
  isCustomPricing : Bool
  (monthlyPrice annualPrice : Option ℚ)
  status : VersionStatus
  version : Int
  (effectiveFrom effectiveTo : Option Int)
  publishedBy : Option String
  publishedAt : Option Int
deriving DecidableEq

/-- `[effectiveFrom, effectiveTo)`. -/
def PlatformTierPricingVersion.effective (row : PlatformTierPricingVersion) : Set Int :=
  {time | (∃ start, row.effectiveFrom = some start ∧ start ≤ time) ∧
    ∀ finish, row.effectiveTo = some finish → time < finish}

structure Store where
  versions : Table PlatformTierPricingVersion PlatformTierPricingVersion.id

/-- A publication with its arguments, and the time at which it is made. -/
structure Publish where
  tierCode : TierCode
  version : Int
  actorId : String
  now : Int

abbrev PricingTx (α : Type) :=
  Tx Store String α

namespace Publish

variable (publish : Publish)

/-- `where` of the update that archives. -/
def isArchived (targetId : String) (row : PlatformTierPricingVersion) : Bool :=
  row.tierCode = publish.tierCode && row.status = .active && row.id ≠ targetId

/-- Of the rows that the update has found, those that are still to be archived. -/
def archive (targetId : String) (found : List String) (store : Store) : Store where
  versions := store.versions.updateWhere
    (fun row => row.id ∈ found && publish.isArchived targetId row)
    (fun row => { row with status := .archived, effectiveTo := some publish.now }) fun _ => rfl

def activate (targetId : String) (store : Store) : Store where
  versions := store.versions.updateWhere (fun row => row.id = targetId)
    (fun row =>
      { row with
        status := .active
        effectiveFrom := some publish.now
        effectiveTo := none
        publishedBy := some publish.actorId
        publishedAt := some publish.now })
    fun _ => rfl

/-- The last statement. -/
def activateTx (targetId : String) : PricingTx (Except HttpException PlatformTierPricingVersion) :=
  .write [targetId] (fun store => (store.versions.find? targetId).isSome)
    (publish.activate targetId) fun store =>
      match store.versions.find? targetId with
      | some published => .commit (.ok published)
      | none => .rollback

/-- The rows that the update finds when it starts. -/
def foundBy (targetId : String) (store : Store) : List String :=
  (store.versions.rows.filter (publish.isArchived targetId)).map PlatformTierPricingVersion.id

/-- The statements after the target has been read. -/
def archiveTx (targetId : String) : PricingTx (Except HttpException PlatformTierPricingVersion) :=
  .read fun store =>
    .write (publish.foundBy targetId store) (fun _ => true)
      (publish.archive targetId (publish.foundBy targetId store)) fun _ =>
        publish.activateTx targetId

/-- An exception that nothing has been written before. -/
def body : PricingTx (Except HttpException PlatformTierPricingVersion) :=
  .read fun store =>
    match store.versions.rows.find? fun row =>
        row.tierCode = publish.tierCode && row.version = publish.version with
    | none =>
      .commit (.error (.notFound
        s!"Tier pricing version {publish.tierCode.text} v{publish.version} not found"))
    | some target =>
      if !target.isCustomPricing && (target.monthlyPrice.isNone || target.annualPrice.isNone) then
        .commit (.error (.badRequest
          "Cannot publish non-custom pricing without monthly and annual prices"))
      else publish.archiveTx target.id

end Publish

abbrev PricingRequest (α : Type) :=
  Request Store Empty Publish (fun _ => Except HttpException PlatformTierPricingVersion)
    HttpException α

def parseTierCode (value : String) : Except HttpException TierCode :=
  let normalized := toUpperCase (trim value)
  match [TierCode.t1, .t2, .t3, .t4].find? fun tierCode => tierCode.text = normalized with
  | some tierCode => .ok tierCode
  | none => .error (.badRequest s!"Invalid tier code \"{value}\"")

structure PublishCall where
  tierCode : String
  version : Int
  actorId : String
  now : Int

def publishVersion (call : PublishCall) : PricingRequest PlatformTierPricingVersion := do
  let tierCode ← Request.ofExcept (parseTierCode call.tierCode)
  let published ← Request.commit ⟨tierCode, call.version, call.actorId, call.now⟩ .internal
  Request.ofExcept published

/-- The publications and the database. -/
abbrev PricingState :=
  ReadCommitted Store String Empty Publish
    (fun _ => Except HttpException PlatformTierPricingVersion) HttpException PublishCall
    PlatformTierPricingVersion

def PricingState.next : PricingState → DatabaseEvent PublishCall → Option PricingState :=
  ReadCommitted.next Publish.body publishVersion Conditions.none

/-! ## A tier in order -/

/-- What holds of the versions of a tier as they are published one after the other. -/
structure InOrder (tierCode : TierCode) (store : Store) : Prop where
  unique : ∀ row ∈ store.versions.rows, ∀ other ∈ store.versions.rows,
    row.tierCode = tierCode → other.tierCode = tierCode → row.version = other.version → row = other
  oneActive : ∀ row ∈ store.versions.rows, ∀ other ∈ store.versions.rows,
    row.tierCode = tierCode → other.tierCode = tierCode → row.status = .active →
      other.status = .active → row = other
  disjoint : ∀ row ∈ store.versions.rows, ∀ other ∈ store.versions.rows,
    row.tierCode = tierCode → other.tierCode = tierCode → row ≠ other →
      Disjoint row.effective other.effective
  open_iff : ∀ row ∈ store.versions.rows, row.tierCode = tierCode →
    (row.status = .active → row.effectiveTo = none) ∧
      (row.effectiveTo = none → row.effectiveFrom ≠ none → row.status = .active)

/-- What a publication makes of a row. -/
def Publish.changeOf (publish : Publish) (targetId : String) (found : List String)
    (row : PlatformTierPricingVersion) : PlatformTierPricingVersion :=
  if row.id = targetId then
    { row with
      status := .active
      effectiveFrom := some publish.now
      effectiveTo := none
      publishedBy := some publish.actorId
      publishedAt := some publish.now }
  else if row.id ∈ found ∧ row.tierCode = publish.tierCode ∧ row.status = .active then
    { row with status := .archived, effectiveTo := some publish.now }
  else row

section Changes

variable {publish : Publish} {targetId : String} {found : List String} {store : Store}
  {row : PlatformTierPricingVersion}

/-- Both statements of a publication. -/
theorem rows_activate_archive :
    (publish.activate targetId (publish.archive targetId found store)).versions.rows =
      store.versions.rows.map (publish.changeOf targetId found) := by
  rw [Publish.activate, Table.rows_updateWhere, Publish.archive, Table.rows_updateWhere,
    List.map_map]
  refine List.map_congr_left fun row _ => ?_
  by_cases isTarget : row.id = targetId
  · simp [Publish.changeOf, Publish.isArchived, isTarget]
  · by_cases isFound : row.id ∈ found ∧ row.tierCode = publish.tierCode ∧ row.status = .active
    · simp [Publish.changeOf, Publish.isArchived, isTarget, isFound]
    · have isKept : ¬ (row.id ∈ found ∧ publish.isArchived targetId row = true) := by
        simpa [Publish.isArchived, isTarget] using isFound
      simp [Publish.changeOf, isTarget, isFound, isKept]

theorem sameKey_changeOf : (publish.changeOf targetId found row).id = row.id ∧
      (publish.changeOf targetId found row).tierCode = row.tierCode ∧
      (publish.changeOf targetId found row).version = row.version := by
  unfold Publish.changeOf
  split
  · exact ⟨rfl, rfl, rfl⟩
  split
  · exact ⟨rfl, rfl, rfl⟩
  · exact ⟨rfl, rfl, rfl⟩

theorem changeOf_of_id (publish : Publish) (found : List String) (isTarget : row.id = targetId) :
    (publish.changeOf targetId found row).status = .active ∧
      (publish.changeOf targetId found row).effectiveFrom = some publish.now ∧
      (publish.changeOf targetId found row).effectiveTo = none := by
  rw [Publish.changeOf, if_pos isTarget]
  exact ⟨rfl, rfl, rfl⟩

/-- The update has found the row among the active ones, if it is one of the tier. -/
def IsSeen (publish : Publish) (targetId : String) (found : List String)
    (row : PlatformTierPricingVersion) : Prop :=
  row.tierCode = publish.tierCode → row.status = .active → row.id = targetId ∨ row.id ∈ found

theorem status_changeOf (notTarget : row.id ≠ targetId) (isTier : row.tierCode = publish.tierCode)
    (isSeen : IsSeen publish targetId found row) :
    (publish.changeOf targetId found row).status ≠ .active := by
  rw [Publish.changeOf, if_neg notTarget]
  split
  · exact nofun
  · rename_i notFound
    exact fun isActive =>
      notFound ⟨(isSeen isTier isActive).resolve_left notTarget, isTier, isActive⟩

theorem effective_changeOf_subset (notTarget : row.id ≠ targetId)
    (isOpen : row.status = .active → row.effectiveTo = none) :
    (publish.changeOf targetId found row).effective ⊆ row.effective := by
  rw [Publish.changeOf, if_neg notTarget]
  split
  · rename_i isFound
    rintro time ⟨started, _⟩
    refine ⟨started, fun finish isFinish => ?_⟩
    rw [isOpen isFound.2.2] at isFinish
    contradiction
  · exact subset_rfl

/-- What is not published has ended when the published version begins. -/
theorem lt_of_mem_effective_changeOf (notTarget : row.id ≠ targetId)
    (isTier : row.tierCode = publish.tierCode) (isSeen : IsSeen publish targetId found row)
    (isEnded : row.effectiveTo = none → row.effectiveFrom ≠ none → row.status = .active)
    (isBefore : ∀ finish, row.effectiveTo = some finish → finish ≤ publish.now) {time : Int}
    (isIn : time ∈ (publish.changeOf targetId found row).effective) : time < publish.now := by
  rw [Publish.changeOf, if_neg notTarget] at isIn
  split at isIn
  · exact isIn.2 publish.now rfl
  · rename_i notFound
    obtain ⟨⟨start, isStart, _⟩, before⟩ := isIn
    cases isFinish : row.effectiveTo with
    | some finish => exact (before finish isFinish).trans_le (isBefore finish isFinish)
    | none =>
      have isActive := isEnded isFinish (by rw [isStart]; exact nofun)
      exact absurd ⟨(isSeen isTier isActive).resolve_left notTarget, isTier, isActive⟩ notFound

end Changes

section Published

variable {publish : Publish} {targetId : String} {found : List String} {store after : Store}
  {tierCode : TierCode}

def IsTarget (publish : Publish) (targetId : String) (store : Store) : Prop :=
  ∃ row ∈ store.versions.rows, row.id = targetId ∧ row.tierCode = publish.tierCode ∧
    row.version = publish.version

/-- What a publication finds when it commits: it has seen all versions that are active, and the
others have ended by its time. -/
structure FindsInOrder (publish : Publish) (targetId : String) (found : List String)
    (store : Store) : Prop where
  seen : ∀ row ∈ store.versions.rows, IsSeen publish targetId found row
  ended : ∀ row ∈ store.versions.rows, row.tierCode = publish.tierCode →
    row.version ≠ publish.version → ∀ finish, row.effectiveTo = some finish → finish ≤ publish.now

theorem InOrder.published_of_ne (inOrder : InOrder tierCode store)
    (isOther : publish.tierCode ≠ tierCode) (isTarget : IsTarget publish targetId store)
    (isAfter : after.versions.rows = store.versions.rows.map (publish.changeOf targetId found)) :
    InOrder tierCode after := by
  have isOld : ∀ row ∈ after.versions.rows, row.tierCode = tierCode → row ∈ store.versions.rows := by
    intro row member isTier
    rw [isAfter] at member
    obtain ⟨old, isOld, rfl⟩ := List.mem_map.mp member
    rw [sameKey_changeOf.2.1] at isTier
    obtain ⟨target, isRow, isId, isTheTier, _⟩ := isTarget
    have notTarget : old.id ≠ targetId := by
      intro isIt
      obtain rfl := store.versions.eq_of_key_eq isOld isRow (isIt.trans isId.symm)
      exact isOther (isTheTier.symm.trans isTier)
    rwa [Publish.changeOf, if_neg notTarget,
      if_neg fun all => isOther (all.2.1.symm.trans isTier)]
  constructor
  · intro row member other isIn isTier isTheirs
    exact inOrder.unique row (isOld row member isTier) other (isOld other isIn isTheirs) isTier
      isTheirs
  · intro row member other isIn isTier isTheirs
    exact inOrder.oneActive row (isOld row member isTier) other (isOld other isIn isTheirs) isTier
      isTheirs
  · intro row member other isIn isTier isTheirs
    exact inOrder.disjoint row (isOld row member isTier) other (isOld other isIn isTheirs) isTier
      isTheirs
  · intro row member isTier
    exact inOrder.open_iff row (isOld row member isTier) isTier

theorem InOrder.published (inOrder : InOrder publish.tierCode store)
    (isTarget : IsTarget publish targetId store) (finds : FindsInOrder publish targetId found store)
    (isAfter : after.versions.rows = store.versions.rows.map (publish.changeOf targetId found)) :
    InOrder publish.tierCode after := by
  obtain ⟨target, isRow, isId, isTargetTier, isVersion⟩ := isTarget
  have before {row : PlatformTierPricingVersion} (member : row ∈ after.versions.rows) :
      ∃ old ∈ store.versions.rows, publish.changeOf targetId found old = row :=
    List.mem_map.mp (isAfter ▸ member)
  have isTheTarget {row : PlatformTierPricingVersion} (member : row ∈ store.versions.rows)
      (isIt : row.id = targetId) : row = target :=
    store.versions.eq_of_key_eq member isRow (isIt.trans isId.symm)
  -- all others are apart from what begins now
  have isApart {row : PlatformTierPricingVersion} (member : row ∈ store.versions.rows)
      (isTier : row.tierCode = publish.tierCode) (notTarget : row.id ≠ targetId) {time : Int}
      (isIn : time ∈ (publish.changeOf targetId found row).effective) : time < publish.now := by
    have notVersion : row.version ≠ publish.version := fun same =>
      notTarget ((congrArg PlatformTierPricingVersion.id (inOrder.unique row member target isRow
        isTier isTargetTier (same.trans isVersion.symm))).trans isId)
    exact lt_of_mem_effective_changeOf notTarget isTier (finds.seen row member)
      (inOrder.open_iff row member isTier).2 (finds.ended row member isTier notVersion) isIn
  have isFromNow {row : PlatformTierPricingVersion} (isIt : row.id = targetId) {time : Int}
      (isIn : time ∈ (publish.changeOf targetId found row).effective) : publish.now ≤ time := by
    obtain ⟨⟨start, isStart, le⟩, _⟩ := isIn
    rw [(changeOf_of_id publish found isIt).2.1] at isStart
    cases isStart
    exact le
  constructor
  · intro row member other isIn isTier isTheirs sameVersion
    obtain ⟨old, isOld, rfl⟩ := before member
    obtain ⟨old', isOld', rfl⟩ := before isIn
    simp only [sameKey_changeOf] at isTier isTheirs sameVersion
    rw [inOrder.unique old isOld old' isOld' isTier isTheirs sameVersion]
  · intro row member other isIn isTier isTheirs isActive isActive'
    obtain ⟨old, isOld, rfl⟩ := before member
    obtain ⟨old', isOld', rfl⟩ := before isIn
    simp only [sameKey_changeOf] at isTier isTheirs
    have isIt : old.id = targetId := by
      by_contra notTarget
      exact status_changeOf notTarget isTier (finds.seen old isOld) isActive
    have isIt' : old'.id = targetId := by
      by_contra notTarget
      exact status_changeOf notTarget isTheirs (finds.seen old' isOld') isActive'
    rw [isTheTarget isOld isIt, isTheTarget isOld' isIt']
  · intro row member other isIn isTier isTheirs notSame
    obtain ⟨old, isOld, rfl⟩ := before member
    obtain ⟨old', isOld', rfl⟩ := before isIn
    simp only [sameKey_changeOf] at isTier isTheirs
    rw [Set.disjoint_left]
    intro time inOne inOther
    by_cases isIt : old.id = targetId
    · by_cases isIt' : old'.id = targetId
      · exact notSame (by rw [isTheTarget isOld isIt, isTheTarget isOld' isIt'])
      · exact absurd (isFromNow isIt inOne) (isApart isOld' isTheirs isIt' inOther).not_ge
    · by_cases isIt' : old'.id = targetId
      · exact absurd (isFromNow isIt' inOther) (isApart isOld isTier isIt inOne).not_ge
      · have apart := inOrder.disjoint old isOld old' isOld' isTier isTheirs fun same =>
          notSame (by rw [same])
        exact Set.disjoint_left.mp apart
          (effective_changeOf_subset isIt (inOrder.open_iff old isOld isTier).1 inOne)
          (effective_changeOf_subset isIt' (inOrder.open_iff old' isOld' isTheirs).1 inOther)
  · intro row member isTier
    obtain ⟨old, isOld, rfl⟩ := before member
    rw [sameKey_changeOf.2.1] at isTier
    by_cases isIt : old.id = targetId
    · obtain ⟨isActive, _, isOpen⟩ := changeOf_of_id publish found isIt
      exact ⟨fun _ => isOpen, fun _ _ => isActive⟩
    · refine ⟨fun isActive => absurd isActive (status_changeOf isIt isTier (finds.seen old isOld)),
        ?_⟩
      rw [Publish.changeOf, if_neg isIt]
      split
      · exact nofun
      · exact (inOrder.open_iff old isOld isTier).2

end Published

/-! ## Where a publication is -/

/-- The statements that a publication has still to execute, what it has written and what it has
locked. -/
inductive Stage (publish : Publish) (store : Store) :
    PricingTx (Except HttpException PlatformTierPricingVersion) → (Store → Store) → List String →
      Prop
  | begun {statements} : statements = publish.body → Stage publish store statements (fun store => store) []
  | refused (error : HttpException) :
      Stage publish store (.commit (.error error)) (fun store => store) []
  | reading {statements} (targetId : String) : IsTarget publish targetId store →
      statements = publish.archiveTx targetId →
        Stage publish store statements (fun store => store) []
  | archiving (targetId : String) (found : List String) : IsTarget publish targetId store →
      Stage publish store
        (.write found (fun _ => true) (publish.archive targetId found) fun _ =>
          publish.activateTx targetId)
        (fun store => store) []
  | activating {statements} (targetId : String) (found : List String) :
      IsTarget publish targetId store → statements = publish.activateTx targetId →
        Stage publish store statements (publish.archive targetId found ∘ fun store => store)
          (found ++ [])
  | published (targetId : String) (found : List String) (row : PlatformTierPricingVersion) :
      IsTarget publish targetId store →
        Stage publish store (.commit (.ok row))
          (publish.activate targetId ∘ publish.archive targetId found ∘ fun store => store)
          ([targetId] ++ (found ++ []))
  | failed (own : Store → Store) (held : List String) : Stage publish store .rollback own held

section Stages

variable {publish other : Publish} {targetId : String} {store after : Store}
  {own : Store → Store} {held : List String}

theorem Stage.mono {statements : PricingTx (Except HttpException PlatformTierPricingVersion)}
    (stage : Stage publish store statements own held)
    (stays : ∀ targetId, IsTarget publish targetId store → IsTarget publish targetId after) :
    Stage publish after statements own held := by
  cases stage with
  | begun isBody => exact .begun isBody
  | refused error => exact .refused error
  | reading targetId isTarget isReading => exact .reading targetId (stays _ isTarget) isReading
  | archiving targetId found isTarget => exact .archiving targetId found (stays _ isTarget)
  | activating targetId found isTarget isActivating =>
    exact .activating targetId found (stays _ isTarget) isActivating
  | published targetId found row isTarget => exact .published targetId found row (stays _ isTarget)
  | failed => exact .failed own held

/-- Rows stay of the versions they are. -/
theorem IsTarget.map {publisher : Publish} {publishedId : String} {found : List String}
    (isTarget : IsTarget publish targetId store) (isAfter : after.versions.rows =
      store.versions.rows.map (publisher.changeOf publishedId found)) :
    IsTarget publish targetId after := by
  obtain ⟨row, isRow, isId, isTier, isVersion⟩ := isTarget
  refine ⟨publisher.changeOf publishedId found row, ?_, ?_⟩
  · rw [isAfter]
    exact List.mem_map_of_mem isRow
  · simp only [sameKey_changeOf]
    exact ⟨isId, isTier, isVersion⟩

theorem Stage.isTarget_own {result : Except HttpException PlatformTierPricingVersion}
    (stage : Stage other store (.commit result) own held)
    (isTarget : IsTarget publish targetId store) : IsTarget publish targetId (own store) := by
  cases stage with
  | begun | reading | activating => contradiction
  | refused error => exact isTarget
  | published publishedId found row _ => exact isTarget.map rows_activate_archive

theorem Stage.read {more : Store → PricingTx (Except HttpException PlatformTierPricingVersion)}
    (stage : Stage publish store (.read more) own held) :
    Stage publish store (more (own store)) own held := by
  cases stage with
  | begun isBody =>
    cases isBody
    dsimp only
    split
    · exact .refused _
    · rename_i target isFound
      split
      · exact .refused _
      · have isWanted := List.find?_some isFound
        rw [Bool.and_eq_true, decide_eq_true_eq, decide_eq_true_eq] at isWanted
        exact .reading target.id
          ⟨target, List.mem_of_find?_eq_some isFound, rfl, isWanted⟩ rfl
  | reading targetId isTarget isReading =>
    cases isReading
    exact .archiving targetId _ isTarget
  | activating targetId found isTarget isActivating => contradiction

theorem Stage.write {rows : List String} {allowed : Store → Bool} {change : Store → Store}
    {more : Store → PricingTx (Except HttpException PlatformTierPricingVersion)}
    (stage : Stage publish store (.write rows allowed change more) own held) :
    Stage publish store (more (change (own store))) (change ∘ own) (rows ++ held) := by
  cases stage with
  | begun | reading => contradiction
  | archiving targetId found isTarget => exact .activating targetId rows isTarget rfl
  | activating targetId found isTarget isActivating =>
    cases isActivating
    dsimp only
    split
    · exact .published targetId found _ isTarget
    · exact .failed _ _

end Stages

/-! ## Runs -/

namespace PricingState

/-- A publication that commits has the locks on all versions of its tier that are active, and all
others of them but its own have ended by its time. -/
def publishesInOrder (state : PricingState) : DatabaseEvent PublishCall → Bool
  | .commit id =>
    match state.sessions[id]? with
    | some ⟨_, _, .inside publish _ (.commit (.ok _)) _ held⟩ =>
      state.shared.store.versions.rows.all fun row =>
        row.tierCode ≠ publish.tierCode ||
          (row.status ≠ .active || row.id ∈ held) &&
            (row.version = publish.version || row.effectiveTo.all (· ≤ publish.now))
    | _ => true
  | _ => true

def nextInOrder (state : PricingState) (event : DatabaseEvent PublishCall) : Option PricingState :=
  if publishesInOrder state event then next state event else none

/-- Every publication is where it can be. -/
def Staged (state : PricingState) : Prop :=
  ∀ (id : Nat) call arrived publish rest statements own held,
    state.sessions[id]? = some ⟨call, arrived, .inside publish rest statements own held⟩ →
      Stage publish state.shared.store statements own held

section Steps

variable {state target : PricingState} {id : Nat}

/-- Another session moves on. -/
theorem Staged.moveOn (staged : Staged state) {progress : Progress Store String Empty Publish
      (fun _ => Except HttpException PlatformTierPricingVersion) HttpException
      PlatformTierPricingVersion}
    (onward : ∀ publish rest statements own held,
      progress = .inside publish rest statements own held →
        Stage publish state.shared.store statements own held) :
    Staged { state with sessions := ReadCommitted.moveOn state id progress } := by
  intro other call arrived publish rest statements own held found
  rcases ReadCommitted.getElem?_moveOn found with ⟨_, stored⟩ | ⟨_, isHere⟩
  · exact staged other call arrived publish rest statements own held stored
  · exact onward publish rest statements own held isHere.symm

theorem Staged.step (staged : Staged state)
    (happens : ReadCommitted.Happens Publish.body publishVersion Conditions.none state target) :
    Staged target := by
  cases happens with
  | arrive request allowed =>
    intro other call arrived publish rest statements own held found
    rcases Transition.getElem?_append_singleton_eq_some_iff.mp found with old | ⟨_, new⟩
    · exact staged other call arrived publish rest statements own held old
    · cases new
  | query | abort | stop => exact staged.moveOn nofun
  | begin id request arrived label rest found =>
    refine staged.moveOn ?_
    rintro publish rest statements own held ⟨⟩
    exact .begun rfl
  | read id request arrived label rest more own held found =>
    refine staged.moveOn ?_
    rintro publish rest statements own held ⟨⟩
    exact (staged _ _ _ _ _ _ _ _ found).read
  | write id request arrived label rest rows allowed change more own held found isFree isAllowed =>
    refine staged.moveOn ?_
    rintro publish rest statements own held ⟨⟩
    exact (staged _ _ _ _ _ _ _ _ found).write
  | commit id request arrived label rest result own held found allowed =>
    have committed := staged _ _ _ _ _ _ _ _ found
    intro other call arrived publish rest statements own' held' isFound
    rcases ReadCommitted.getElem?_moveOn isFound with ⟨_, stored⟩ | ⟨_, isHere⟩
    · exact (staged other call arrived publish rest statements own' held' stored).mono
        fun _ => committed.isTarget_own
    · contradiction

theorem inOrder_of_commit {tierCode : TierCode} (inOrder : InOrder tierCode state.shared.store)
    (staged : Staged state) (isAllowed : publishesInOrder state (.commit id) = true)
    {call : PublishCall} {arrived : Nat} {publish : Publish}
    {rest : Option (Except HttpException PlatformTierPricingVersion) →
      PricingRequest PlatformTierPricingVersion}
    {result : Except HttpException PlatformTierPricingVersion} {own : Store → Store}
    {held : List String} (found : state.sessions[id]? =
      some ⟨call, arrived, .inside publish rest (.commit result) own held⟩) :
    InOrder tierCode (own state.shared.store) := by
  have stage := staged _ _ _ _ _ _ _ _ found
  cases stage with
  | begun | reading | activating => contradiction
  | refused error => exact inOrder
  | published targetId seen row isTarget =>
    by_cases isTier : publish.tierCode = tierCode
    · subst isTier
      refine inOrder.published isTarget ?_ rows_activate_archive
      rw [publishesInOrder, found] at isAllowed
      have isEach := List.all_eq_true.mp isAllowed
      constructor
      · intro row member isTier isActive
        have isHeld := isEach row member
        simp only [isTier, isActive, ne_eq, not_true_eq_false, decide_false, Bool.false_or,
          Bool.and_eq_true, decide_eq_true_eq, List.append_nil, List.singleton_append,
          List.mem_cons] at isHeld
        exact isHeld.1
      · intro row member isTier notVersion finish isFinish
        have isEnded := isEach row member
        simp only [isTier, notVersion, isFinish, ne_eq, not_true_eq_false, decide_false,
          Bool.false_or, Bool.and_eq_true, Option.all_some,
          decide_eq_true_eq] at isEnded
        exact isEnded.2
    · exact inOrder.published_of_ne isTier isTarget rows_activate_archive

theorem inOrder_of_nextInOrder {tierCode : TierCode} {event : DatabaseEvent PublishCall}
    (inOrder : InOrder tierCode state.shared.store) (staged : Staged state)
    (step : nextInOrder state event = some target) :
    InOrder tierCode target.shared.store ∧ Staged target := by
  rw [nextInOrder] at step
  split at step
  · rename_i isAllowed
    refine ⟨?_, staged.step (ReadCommitted.happens_of_next step)⟩
    rcases ReadCommitted.shared_of_next step with
      same | ⟨id, call, arrived, publish, rest, result, own, held, rfl, found, isAfter⟩
    · rw [same]
      exact inOrder
    · rw [isAfter]
      exact inOrder_of_commit inOrder staged isAllowed found
  · contradiction

end Steps

end PricingState

/-- However publications interleave, a tier that was in order is so in every state of a run in
which all of them commit in order: it has one active version at most, and no two of its versions
are effective at a time. -/
theorem inOrder_of_publishesInOrder {tierCode : TierCode} {store : Store}
    (inOrder : InOrder tierCode store) {state : PricingState}
    (reachable : Transition.Reachable PricingState.nextInOrder (ReadCommitted.initial store)
      state) : InOrder tierCode state.shared.store := by
  let invariant (state : PricingState) : Prop :=
    InOrder tierCode state.shared.store ∧ PricingState.Staged state
  have kept (source : PricingState) (event : DatabaseEvent PublishCall) (target : PricingState)
      (holds : invariant source) (step : PricingState.nextInOrder source event = some target) :
      invariant target :=
    PricingState.inOrder_of_nextInOrder holds.1 holds.2 step
  have initially : invariant (ReadCommitted.initial store) := by
    refine ⟨inOrder, ?_⟩
    intro id call arrived publish rest statements own held found
    simp [ReadCommitted.initial] at found
  exact (reachable.invariant kept initially).1

namespace Sample

def draft (id : String) (version : Int) : PlatformTierPricingVersion :=
  ⟨id, .t1, false, some 99, some 999, .draft, version, none, none, none, none⟩

def store : Store where
  versions := { rows := [draft "first" 1, draft "second" 2], nodup := by decide }

def call (version now : Int) : PublishCall :=
  ⟨"t1", version, "admin", now⟩

def sequential : List (DatabaseEvent PublishCall) :=
  [.arrive (call 1 10), .begin 0, .statement 0, .statement 0, .statement 0, .statement 0, .commit 0,
    .arrive (call 2 20), .begin 1, .statement 1, .statement 1, .statement 1, .statement 1,
    .commit 1]

def overlapping : List (DatabaseEvent PublishCall) :=
  [.arrive (call 1 10), .arrive (call 2 20), .begin 0, .statement 0, .statement 0, .begin 1,
    .statement 1, .statement 1, .statement 0, .statement 0, .commit 0, .statement 1, .statement 1,
    .commit 1]

def published (id : String) (version now : Int) : PlatformTierPricingVersion :=
  { draft id version with
    status := .active, effectiveFrom := some now, publishedBy := some "admin", publishedAt := some now }

def isQuiescent (state : PricingState) : Bool :=
  state.sessions.all fun connection => match connection.progress with
    | .outside (.answer _) => true
    | _ => false

def after (next : PricingState → DatabaseEvent PublishCall → Option PricingState)
    (events : List (DatabaseEvent PublishCall)) : Option PricingState :=
  events.foldlM next (ReadCommitted.initial store)

theorem inOrder_store : InOrder .t1 store := by
  have isDraft : ∀ row ∈ store.versions.rows, row.status = .draft ∧ row.effectiveFrom = none := by
    decide
  refine ⟨by decide, ?_, ?_, by decide⟩
  · intro row member _ _ _ _ isActive
    rw [(isDraft row member).1] at isActive
    contradiction
  · intro row member _ _ _ _ _
    rw [Set.disjoint_left]
    rintro _ ⟨⟨start, isStart, _⟩, _⟩
    rw [(isDraft row member).2] at isStart
    contradiction

end Sample

open Sample

/-- Two publications, one after the other. -/
theorem inOrder_of_publishesInOrder_sequential : ∃ state : PricingState,
      state.shared.store.versions.rows.map PlatformTierPricingVersion.status =
        [.archived, .active] ∧ InOrder .t1 state.shared.store := by
  have run : (after PricingState.nextInOrder sequential).map (fun state =>
      state.shared.store.versions.rows.map PlatformTierPricingVersion.status) =
      some [.archived, .active] := by decide +kernel
  obtain ⟨state, reached, isStatus⟩ := Option.map_eq_some_iff.mp run
  exact ⟨state, isStatus, inOrder_of_publishesInOrder inOrder_store
    (Transition.reachable_of_foldlM reached)⟩

/-- Of two publications that overlap, none archives the version of the other one: both are active
and effective from then on. -/
theorem overlapping_leaves_two_active : InOrder .t1 store ∧ ∃ state : PricingState,
      Transition.Reachable PricingState.next (ReadCommitted.initial store) state ∧
        Sample.isQuiescent state = true ∧ state.shared.store.versions.rows =
          [published "first" 1 10, published "second" 2 20] ∧
        ¬ Disjoint (published "first" 1 10).effective
          (published "second" 2 20).effective ∧ ¬ InOrder .t1 state.shared.store := by
  have run : (after PricingState.next overlapping).map (fun state =>
      (Sample.isQuiescent state, state.shared.store.versions.rows)) =
      some (true, [published "first" 1 10, published "second" 2 20]) := by
    decide +kernel
  obtain ⟨state, reached, observed⟩ := Option.map_eq_some_iff.mp run
  obtain ⟨isQuiescent, isRows⟩ := Prod.mk.inj observed
  refine ⟨inOrder_store, state, Transition.reachable_of_foldlM reached, isQuiescent,
    isRows, ?_, ?_⟩
  · have inFirst : (20 : Int) ∈ (published "first" 1 10).effective :=
      ⟨⟨10, rfl, by decide⟩, nofun⟩
    have inSecond : (20 : Int) ∈ (published "second" 2 20).effective :=
      ⟨⟨20, rfl, le_refl 20⟩, nofun⟩
    exact fun apart => Set.disjoint_left.mp apart inFirst inSecond
  · intro inOrder
    have same := inOrder.oneActive (published "first" 1 10) (by simp [isRows])
      (published "second" 2 20) (by simp [isRows]) rfl rfl rfl rfl
    exact absurd same (by decide)

end Csms.TierPricing
