import Csms.Js.Value
import Csms.Service.Program
import Csms.Table.Keyed
import Csms.Transition.Run

/-!
# Batches of offline actions

An attendant's device queues actions and sends them in batches, again when it got no answer.  The
first action under a key is stored, and later ones under it are answered with what is stored.
-/

namespace Csms.Attendant

open Js Service Transition

structure AttendantSyncActionDto where
  (idempotencyKey type : String)
  payload : JsRecord
  createdAt : Option String

structure AttendantSyncAction where
  (id userId idempotencyKey actionType : String)
  payload : JsRecord
  status : String
  (sourceCreatedAt processedAt : Option Int)
  errorMessage : Option String
  (createdAt updatedAt : Int)

def AttendantSyncAction.key (row : AttendantSyncAction) : String × String :=
  (row.userId, row.idempotencyKey)

abbrev SyncActions : Type :=
  Table AttendantSyncAction AttendantSyncAction.key

/-- An item of the response. -/
structure SyncItem where
  (id idempotencyKey type status : String)
  replayed : Bool
  (createdAt updatedAt : Int)
  processedAt : Option Int
  errorMessage : Option String

inductive AttendantException where
  | unauthorized (message : String)
  | forbidden (message : String)
  | serviceUnavailable (message : String)
  | badRequest (message : String)

/-- A batch of a user, and what the server finds for it. -/
structure SyncBatch where
  userId : String
  actions : List AttendantSyncActionDto
  (hasActiveAssignment syncEnabled : Bool)
  now : Int
  newId : String → String
  /-- `new Date(text).getTime()`, `none` for `NaN`. -/
  parseDate : String → Option Int

abbrev SyncHandler (α : Type) : Type :=
  EStateM AttendantException SyncActions α

def AttendantSyncAction.item (row : AttendantSyncAction) (replayed : Bool) : SyncItem :=
  ⟨row.id, row.idempotencyKey, row.actionType, row.status, replayed, row.createdAt, row.updatedAt,
    row.processedAt, row.errorMessage⟩

namespace SyncBatch

variable (batch : SyncBatch)

def requireAssignment : Except AttendantException Unit :=
  if batch.userId = "" then .error (.unauthorized "Authentication required")
  else if batch.hasActiveAssignment then .ok ()
  else .error (.forbidden "No active attendant assignment found")

def parseOptionalIsoDate : Option String → Except AttendantException (Option Int)
  | none => .ok none
  | some value =>
    if trim value = "" then .ok none
    else
      match batch.parseDate (trim value) with
      | some parsed => .ok (some parsed)
      | none => .error (.badRequest "actions.createdAt must be a valid ISO date-time string")

def created (action : AttendantSyncActionDto) (sourceCreatedAt : Option Int) :
    AttendantSyncAction where
  id := batch.newId action.idempotencyKey
  userId := batch.userId
  idempotencyKey := action.idempotencyKey
  actionType := action.type
  payload := action.payload
  status := "QUEUED"
  sourceCreatedAt := sourceCreatedAt
  processedAt := none
  errorMessage := none
  createdAt := batch.now
  updatedAt := batch.now

/-- The body of the loop over the actions. -/
def syncAction (action : AttendantSyncActionDto) : SyncHandler SyncItem := do
  let store ← get
  match store.find? (batch.userId, action.idempotencyKey) with
  | some existing => pure (existing.item true)
  | none => do
    let sourceCreatedAt ← orThrow (batch.parseOptionalIsoDate action.createdAt)
    modify (Table.insert · (batch.created action sourceCreatedAt))
    pure ((batch.created action sourceCreatedAt).item false)

def syncActions : List AttendantSyncActionDto → SyncHandler (List SyncItem)
  | [] => pure []
  | action :: rest => do
    let item ← batch.syncAction action
    let items ← syncActions rest
    pure (item :: items)

def requireEnabled : Except AttendantException Unit :=
  if batch.syncEnabled then .ok ()
  else .error (.serviceUnavailable "Attendant sync batch is disabled")

def syncBatch : SyncHandler (List SyncItem) := do
  orThrow batch.requireAssignment
  orThrow batch.requireEnabled
  transaction (batch.syncActions batch.actions)

/-- The store after a batch. -/
def next (store : SyncActions) (batch : SyncBatch) : SyncActions :=
  after batch.syncBatch store

/-- The action would be turned down. -/
def IsInvalid (action : AttendantSyncActionDto) : Prop :=
  ∃ error, batch.parseOptionalIsoDate action.createdAt = .error error

end SyncBatch

/-! ## One batch -/

/-- One item for each action, in order, which is replayed exactly when its key is known by then. -/
def Lists (known : String → Prop) : List AttendantSyncActionDto → List SyncItem → Prop
  | [], [] => True
  | action :: actions, item :: items =>
    item.idempotencyKey = action.idempotencyKey ∧
      (item.replayed = true ↔ known action.idempotencyKey) ∧
      Lists (fun key => known key ∨ action.idempotencyKey = key) actions items
  | _, _ => False

/-- The type and the payload that are stored under a key of the user. -/
def stored (userId : String) (store : SyncActions) (key : String) : Option (String × JsRecord) :=
  (store.find? (userId, key)).map fun row => (row.actionType, row.payload)

/-- The type and the payload of the first action under a key. -/
def firstOf (actions : List AttendantSyncActionDto) (key : String) : Option (String × JsRecord) :=
  (actions.find? (·.idempotencyKey = key)).map fun action => (action.type, action.payload)

/-- What was stored stays, and of each other key the first action is stored. -/
def StoresFirst (userId : String) (store later : SyncActions)
    (actions : List AttendantSyncActionDto) : Prop :=
  ∀ key, stored userId later key = (stored userId store key).or (firstOf actions key)

/-- Each action that would be turned down is under a key that is known by then. -/
def RefusesInvalid (batch : SyncBatch) (known : String → Prop) :
    List AttendantSyncActionDto → Prop
  | [] => True
  | action :: rest => (batch.IsInvalid action → known action.idempotencyKey) ∧
      RefusesInvalid batch (fun key => known key ∨ action.idempotencyKey = key) rest

section Batch

variable {batch : SyncBatch} {store later : SyncActions} {action : AttendantSyncActionDto}

theorem stored_insert (sourceCreatedAt : Option Int) (key : String) :
    stored batch.userId (store.insert (batch.created action sourceCreatedAt)) key =
      (stored batch.userId store key).or
        (if action.idempotencyKey = key then some (action.type, action.payload) else none) := by
  rw [stored, Table.find?_insert, stored]
  by_cases same : action.idempotencyKey = key <;>
    cases store.find? (batch.userId, key) <;>
    simp [AttendantSyncAction.key, SyncBatch.created, same]

theorem firstOf_cons (rest : List AttendantSyncActionDto) (key : String) :
    firstOf (action :: rest) key =
      (if action.idempotencyKey = key then some (action.type, action.payload) else none).or
        (firstOf rest key) := by
  by_cases same : action.idempotencyKey = key <;> simp [firstOf, same]

/-- What the loop has done with an action. -/
theorem of_syncAction {item : SyncItem} (done : batch.syncAction action store = .ok item later) :
    item.idempotencyKey = action.idempotencyKey ∧
      (item.replayed = true ↔ (stored batch.userId store action.idempotencyKey).isSome = true) ∧
        (batch.IsInvalid action →
          (stored batch.userId store action.idempotencyKey).isSome = true) ∧
          ∀ key, stored batch.userId later key = (stored batch.userId store key).or
            (if action.idempotencyKey = key then some (action.type, action.payload) else none) := by
  rw [SyncBatch.syncAction,
    bind_of_ok (rfl : (get : SyncHandler SyncActions) store = .ok store store)] at done
  rcases found : store.find? (batch.userId, action.idempotencyKey) with _ | existing
  · rw [found] at done
    have isNew : stored batch.userId store action.idempotencyKey = none := by
      rw [stored, found, Option.map_none]
    rcases parsed : batch.parseOptionalIsoDate action.createdAt with error | sourceCreatedAt
    · rw [parsed] at done
      cases done
    · rw [parsed] at done
      cases done
      rw [isNew]
      refine ⟨rfl, by simp [AttendantSyncAction.item], ?_, stored_insert sourceCreatedAt⟩
      rintro ⟨error, failed⟩
      rw [parsed] at failed
      cases failed
  · rw [found] at done
    cases done
    have isKnown : (stored batch.userId store action.idempotencyKey).isSome = true := by
      rw [stored, found]
      rfl
    have sameKey : existing.idempotencyKey = action.idempotencyKey :=
      congrArg Prod.snd (Table.find?_eq_some_iff.mp found).2
    refine ⟨sameKey, iff_of_true rfl isKnown, fun _ => isKnown, fun key => ?_⟩
    split
    · rename_i same
      rw [← same, Option.or_of_isSome isKnown]
    · rw [Option.or_none]

/-- What the loop has done when it comes to its end. -/
theorem of_syncActions {actions : List AttendantSyncActionDto} {items : List SyncItem}
    (done : batch.syncActions actions store = .ok items later) :
    Lists (fun key => (stored batch.userId store key).isSome = true) actions items ∧
      RefusesInvalid batch (fun key => (stored batch.userId store key).isSome = true) actions ∧
        StoresFirst batch.userId store later actions := by
  induction actions generalizing store items with
  | nil =>
    cases done
    exact ⟨trivial, trivial, fun key => (Option.or_none).symm⟩
  | cons action rest ih =>
    rw [SyncBatch.syncActions] at done
    rcases first : batch.syncAction action store with ⟨item, middle⟩ | ⟨error, middle⟩
    swap
    · rw [bind_of_error first] at done
      cases done
    rw [bind_of_ok first] at done
    rcases others : batch.syncActions rest middle with ⟨items, last⟩ | ⟨error, last⟩
    swap
    · rw [bind_of_error others] at done
      cases done
    rw [bind_of_ok others] at done
    cases done
    obtain ⟨sameKey, isReplay, isKnown, grows⟩ := of_syncAction first
    obtain ⟨lists, refuses, stores⟩ := ih others
    have known : (fun key => (stored batch.userId middle key).isSome = true) = fun key =>
        (stored batch.userId store key).isSome = true ∨ action.idempotencyKey = key := by
      funext key
      rw [grows, Option.isSome_or]
      by_cases same : action.idempotencyKey = key <;> simp [same]
    rw [known] at lists refuses
    refine ⟨⟨sameKey, isReplay, lists⟩, ⟨isKnown, refuses⟩, fun key => ?_⟩
    rw [stores, grows, firstOf_cons, Option.or_assoc]

end Batch

/-! ## Runs of batches -/

/-- An accepted batch is listed and stores the first of its actions; any other stores nothing. -/
def SyncBatch.IsLawful (batch : SyncBatch) (store : SyncActions) : Prop :=
  match batch.syncBatch store with
  | .ok items later =>
    Lists (fun key => (stored batch.userId store key).isSome = true) batch.actions items ∧
      RefusesInvalid batch (fun key => (stored batch.userId store key).isSome = true)
        batch.actions ∧ StoresFirst batch.userId store later batch.actions
  | .error _ later => later = store

theorem isLawful (batch : SyncBatch) (store : SyncActions) : batch.IsLawful store := by
  rw [SyncBatch.IsLawful, SyncBatch.syncBatch]
  rcases assigned : batch.requireAssignment with error | _
  · rw [bind_of_error (orThrow_error error store)]
  · rw [bind_of_ok (orThrow_ok () store)]
    rcases enabled : batch.requireEnabled with error | _
    · rw [bind_of_error (orThrow_error error store)]
    · rw [bind_of_ok (orThrow_ok () store), transaction]
      rcases done : batch.syncActions batch.actions store with ⟨items, later⟩ | ⟨error, later⟩
      · exact of_syncActions done
      · rfl

/-- The actions of the batches that are accepted. -/
def accepted (store : SyncActions) : List SyncBatch → List AttendantSyncActionDto
  | [] => []
  | batch :: rest =>
    (match batch.syncBatch store with
      | .ok _ _ => batch.actions
      | .error _ _ => []) ++ accepted (batch.next store) rest

/-- Every batch is lawful, and of all that are accepted from a user the first action under each key
is stored. -/
theorem syncBatches_lawful {userId : String} {store : SyncActions} {batches : List SyncBatch}
    (own : ∀ batch ∈ batches, batch.userId = userId) :
    (∀ (batch : SyncBatch) (reached : SyncActions), batch.IsLawful reached) ∧
      StoresFirst userId store (final (fun store batch => batch.next store) store batches)
        (accepted store batches) := by
  refine ⟨isLawful, ?_⟩
  induction batches generalizing store with
  | nil => exact fun key => (Option.or_none).symm
  | cons batch rest ih =>
    have onward : StoresFirst userId (batch.next store)
        (final (fun store batch => batch.next store) (batch.next store) rest)
        (accepted (batch.next store) rest) :=
      ih fun other member => own other (List.mem_cons_of_mem _ member)
    have lawful := isLawful batch store
    rw [SyncBatch.IsLawful] at lawful
    intro key
    rw [final, List.foldl_cons, ← final, onward key, accepted, SyncBatch.next, after]
    rcases done : batch.syncBatch store with ⟨items, later⟩ | ⟨error, later⟩
    · rw [done] at lawful
      have appended (actions : List AttendantSyncActionDto) : firstOf (batch.actions ++ actions) key =
          (firstOf batch.actions key).or (firstOf actions key) := by
        simp [firstOf, List.find?_append, Option.map_or]
      rw [appended, ← Option.or_assoc, ← own batch List.mem_cons_self, lawful.2.2 key]
    · rw [done] at lawful
      rw [show later = store from lawful]
      rfl

namespace Sample

/-- A batch of Ada's; the only text that is no date is `yesterday`. -/
def sends (actions : List AttendantSyncActionDto) : SyncBatch where
  userId := "ada"
  actions := actions
  hasActiveAssignment := true
  syncEnabled := true
  now := 0
  newId key := key
  parseDate text := if text = "yesterday" then none else some 0

def check (key type : String) (createdAt : Option String) : AttendantSyncActionDto :=
  ⟨key, type, JsRecord.empty, createdAt⟩

end Sample

open Sample

theorem syncBatches_lawful_replayed :
    stored "ada" (final (fun store batch => batch.next store) Table.empty
        [sends [check "k" "START" none], sends [check "k" "STOP" none]]) "k" =
      some ("START", JsRecord.empty) := by
  have laws := @syncBatches_lawful "ada" Table.empty
    [sends [check "k" "START" none], sends [check "k" "STOP" none]] (by simp [sends])
  exact laws.2 "k"

/-- An action with an invalid date is accepted under a key that is known, and the others of its batch
are stored. -/
theorem invalid_replay_is_accepted :
    ∃ items later, (sends [check "k" "START" none, check "k" "STOP" (some "yesterday")]).syncBatch
        Table.empty = .ok items later ∧
      (sends [check "k" "START" none, check "k" "STOP" (some "yesterday")]).IsInvalid
        (check "k" "STOP" (some "yesterday")) ∧
        stored "ada" later "k" = some ("START", JsRecord.empty) :=
  ⟨_, _, rfl, ⟨_, rfl⟩, rfl⟩

end Csms.Attendant
