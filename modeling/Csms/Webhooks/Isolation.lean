import Csms.Webhooks.Service

/-!
# Who is told of an event

An event of a tenant creates one delivery for each active webhook of the tenant or of the
platform that subscribes to it, and no other.  A probe is such an event, so it is for the tested
webhook only if that is the only one the event reaches.
-/

namespace Csms.Webhooks

open Js Database

def WebhookWrite.createdFor : WebhookWrite → Option String
  | createDelivery row => some row.webhookId
  | _ => none

def createdFor (writes : List WebhookWrite) : List String :=
  writes.filterMap WebhookWrite.createdFor

def Webhook.isReceiver (hook : Webhook) (eventType tenantId : String) : Bool :=
  hook.active && hook.subscribesTo eventType &&
    (hook.organizationId = some tenantId || hook.organizationId.isNone)

/-- One delivery for each webhook that is wanted, and none for any other. -/
def CreatesExactly (store : Store) (wanted : Webhook → Bool) (created : List String) : Prop :=
  ∀ id, created.count id = if (store.webhooks.find? id).any wanted then 1 else 0

/-- What the request of a tenant is to create: an event for the receivers of the tenant, a test
for the tested webhook only. -/
def CreatesAsMeant (store : Store) (action : WebhookAction) (created : List String) : Prop :=
  match action.operation with
  | .dispatchEvent eventType _ organizationId =>
    ∀ tenantId, orText organizationId none = some tenantId →
      CreatesExactly store (fun hook => hook.isReceiver eventType tenantId) created
  | .testWebhook id =>
    match store.webhookById? (resolveTenantId action.call) id with
    | none => created = []
    | some webhook =>
      created = [webhook.id] ∧
        ∀ tenantId, orText webhook.organizationId none = some tenantId →
          CreatesExactly store (fun hook => hook.isReceiver "webhook.test" tenantId) created
  | .retryPendingDeliveries => created = []

def Webhook.isReached (hook : Webhook) (eventType : String) (organizationId : Option String) :
    Bool :=
  match orText organizationId none with
  | some tenantId => hook.isReceiver eventType tenantId
  | none => hook.active && hook.subscribesTo eventType

def ProbesOnlyTested (store : Store) (action : WebhookAction) : Prop :=
  ∀ id webhook, action.operation = .testWebhook id →
    store.webhookById? (resolveTenantId action.call) id = some webhook →
      ∀ hook ∈ store.webhooks.rows,
        hook.isReached "webhook.test" (orText webhook.organizationId none) = true ↔ hook = webhook

/-- The webhooks that an event reaches, in the order of the table. -/
def Store.reachedIds (store : Store) (eventType : String) (organizationId : Option String) :
    List String :=
  (store.webhooks.rows.filter fun hook => hook.isReached eventType organizationId).map Webhook.id

theorem filter_scopedHooks (store : Store) (eventType : String) (organizationId : Option String) :
    (store.scopedHooks organizationId).filter (fun hook => hook.subscribesTo eventType) =
      store.webhooks.rows.filter fun hook => hook.isReached eventType organizationId := by
  unfold Store.scopedHooks
  split <;> rename_i isScope
  · rw [List.filter_filter]
    refine List.filter_congr fun hook _ => ?_
    rw [Webhook.isReached, isScope]
    simp [Webhook.isReceiver, Bool.and_comm, Bool.and_assoc, Bool.and_left_comm]
  · rw [List.filter_filter]
    refine List.filter_congr fun hook _ => ?_
    rw [Webhook.isReached, isScope]
    exact Bool.and_comm _ _

section Programs

variable {seen : Store → Prop} {writes : List WebhookWrite} {call : WebhookCall}

theorem createdFor_append (first second : List WebhookWrite) :
    createdFor (first ++ second) = createdFor first ++ createdFor second :=
  List.filterMap_append

def CreatesNothing {α : Type} (program : WebhookRequest α) : Prop :=
  program.Transacts fun write => write.createdFor = none

theorem CreatesNothing.createdFor_eq {α : Type} {program last : WebhookRequest α}
    (nothing : CreatesNothing program) (executed : program.Executed seen writes last) :
    createdFor writes = [] :=
  List.filterMap_eq_nil_iff.mpr (executed.forall_mem nothing)

theorem createsNothing_processDelivery {deliveryId : String} :
    CreatesNothing (processDelivery call deliveryId) := by
  refine (transacts_read _ _).bind fun found => ?_
  have records (delivery : WebhookDelivery) (hook : Webhook) (posted : Bool)
      (outcome : HttpOutcome) : CreatesNothing (recordAttempt call delivery hook posted outcome) :=
    .transact _ _ rfl fun result => by cases result <;> exact .answer _
  cases found with
  | none => exact transacts_pure _
  | some found =>
    refine Request.Transacts.ite (transacts_pure _) ?_
    refine .transact _ _ rfl fun result => ?_
    cases result <;> exact records _ _ _ _

theorem createsNothing_processDeliveries {deliveryIds : List String} :
    CreatesNothing (processDeliveries call deliveryIds) := by
  induction deliveryIds with
  | nil => exact transacts_pure _
  | cons deliveryId deliveryIds ih =>
    refine createsNothing_processDelivery.bind fun processed => ?_
    cases processed with
    | ok value => exact ih
    | error exception => exact transacts_pure _

theorem createdFor_createDeliveries {eventType : String} {payload : JsRecord} {index : Nat}
    {hooks : List Webhook} {deliveryIds : List String}
    (executed : (createDeliveries call eventType payload index hooks).Executed seen writes
      (.answer deliveryIds)) : createdFor writes = hooks.map Webhook.id := by
  induction hooks generalizing index writes deliveryIds with
  | nil =>
    rw [(executed_pure_iff.mp executed).1]
    rfl
  | cons hook hooks ih =>
    rcases executed_commit_bind_iff.mp executed with ⟨_, waits | fails⟩ | created
    · contradiction
    · contradiction
    · obtain ⟨_, later, rfl, goesOn⟩ := created
      obtain ⟨_, earlier, last, rfl, others, ended⟩ := exists_of_executed_bind goesOn
      rw [(executed_pure_iff.mp ended).1, List.append_nil]
      exact congrArg (List.cons hook.id) (ih others)

theorem createdFor_dispatchEvent {store : Store} {eventType : String} {payload : JsRecord}
    {organizationId : Option String} {count : Nat}
    (executed : (dispatchEvent call eventType payload organizationId).Executed
      (fun other => other.webhooks = store.webhooks) writes (.answer count)) :
    createdFor writes = store.reachedIds eventType organizationId := by
  rcases executed_read_bind_iff.mp executed with ⟨_, waits⟩ | ⟨other, isSame, executed⟩
  · contradiction
  · dsimp only at executed
    rw [filter_scopedHooks, isSame] at executed
    split at executed
    · rename_i isEmpty
      rw [(executed_pure_iff.mp executed).1, Store.reachedIds,
        List.isEmpty_iff.mp isEmpty]
      rfl
    · obtain ⟨deliveryIds, earlier, rest, rfl, created, executed⟩ :=
        exists_of_executed_bind executed
      obtain ⟨processed, middle, last, rfl, executed, ended⟩ :=
        exists_of_executed_bind executed
      have answers : CreatesNothing (Request.ofExcept processed >>= fun _ =>
          (pure deliveryIds.length : WebhookRequest Nat)) :=
        (transacts_ofExcept processed).bind fun _ => transacts_pure _
      rw [createdFor_append, createdFor_append, createdFor_createDeliveries created,
        createsNothing_processDeliveries.createdFor_eq executed, answers.createdFor_eq ended,
        List.append_nil, List.append_nil]
      rfl

end Programs

section Reached

variable {store : Store} {eventType : String} {organizationId : Option String}

theorem isReached_of_tenant {tenantId : String} (isTenant : orText organizationId none = some tenantId)
    (hook : Webhook) : hook.isReached eventType organizationId = hook.isReceiver eventType tenantId := by
  rw [Webhook.isReached, isTenant]

theorem createsExactly_reachedIds {wanted : Webhook → Bool}
    (same : ∀ hook : Webhook, hook.isReached eventType organizationId = wanted hook) :
    CreatesExactly store wanted (store.reachedIds eventType organizationId) := by
  intro id
  rw [Store.reachedIds, funext same, List.count_eq_length_filter]
  cases found : store.webhooks.find? id with
  | none =>
    rw [Option.any_none, if_neg Bool.false_ne_true, List.length_eq_zero_iff,
      List.filter_eq_nil_iff]
    intro other member
    obtain ⟨hook, isHook, rfl⟩ := List.mem_map.mp member
    have absent := Table.find?_eq_none_iff.mp found
    intro isId
    rw [beq_iff_eq] at isId
    exact absent (isId ▸ List.mem_map_of_mem (List.mem_of_mem_filter isHook))
  | some hook =>
    obtain ⟨member, rfl⟩ := Table.find?_eq_some_iff.mp found
    have own := store.webhooks.filter_made_key_eq member wanted Webhook.id (fun id => id)
      fun _ => rfl
    rw [Option.any_some]
    rw [show (fun id => id == hook.id) = fun id => decide (id = hook.id) from rfl, own]
    split <;> rfl

theorem reachedIds_eq_singleton_iff {webhook : Webhook} (member : webhook ∈ store.webhooks.rows) :
    store.reachedIds eventType organizationId = [webhook.id] ↔ ∀ hook ∈ store.webhooks.rows,
        hook.isReached eventType organizationId = true ↔ hook = webhook := by
  constructor
  · intro isOnly hook isHook
    obtain ⟨only, filtered, sameId⟩ := List.map_eq_singleton_iff.mp isOnly
    have isFiltered : only ∈ store.webhooks.rows.filter fun hook =>
        hook.isReached eventType organizationId := filtered ▸ List.mem_singleton_self only
    obtain rfl := store.webhooks.eq_of_key_eq (List.mem_of_mem_filter isFiltered) member sameId
    constructor
    · intro isReached
      have isIn : hook ∈ store.webhooks.rows.filter fun hook =>
          hook.isReached eventType organizationId := List.mem_filter.mpr ⟨isHook, isReached⟩
      rw [filtered] at isIn
      exact List.mem_singleton.mp isIn
    · rintro rfl
      exact (List.mem_filter.mp isFiltered).2
  · intro isOnly
    have filtered : (store.webhooks.rows.filter fun hook =>
        hook.isReached eventType organizationId) = [webhook] := by
      rw [← store.webhooks.filter_key_eq member]
      refine List.filter_congr fun hook isHook => ?_
      rw [Bool.eq_iff_iff, isOnly hook isHook, decide_eq_true_eq]
      exact ⟨congrArg Webhook.id, store.webhooks.eq_of_key_eq isHook member⟩
    rw [Store.reachedIds, filtered]
    rfl

theorem mem_of_webhookById? {tenantId : Option String} {id : String} {webhook : Webhook}
    (found : store.webhookById? tenantId id = some webhook) : webhook ∈ store.webhooks.rows :=
  (Table.find?_eq_some_iff.mp (Option.mem_filter_iff.mp found).1).1

end Reached

theorem createsAsMeant_iff_of_executed {store : Store} {action : WebhookAction}
    {writes : List WebhookWrite}
    (executed : action.program.Executed (fun other => other.webhooks = store.webhooks) writes
      (.answer ())) :
    CreatesAsMeant store action (createdFor writes) ↔ ProbesOnlyTested store action := by
  obtain ⟨call, operation⟩ := action
  cases operation with
  | dispatchEvent eventType payload organizationId =>
    obtain ⟨count, earlier, last, rfl, dispatched, ended⟩ :=
      exists_of_executed_bind executed
    rw [(executed_pure_iff.mp ended).1, List.append_nil,
      createdFor_dispatchEvent dispatched]
    refine iff_of_true ?_ fun id webhook isTest => by cases isTest
    exact fun tenantId isTenant => createsExactly_reachedIds (isReached_of_tenant isTenant)
  | retryPendingDeliveries =>
    have nothing : CreatesNothing
        (WebhookAction.program ⟨call, .retryPendingDeliveries⟩) := by
      refine (transacts_read _ _).bind fun due => ?_
      exact createsNothing_processDeliveries.bind fun _ => transacts_pure _
    exact iff_of_true (nothing.createdFor_eq executed) fun id webhook isTest => by cases isTest
  | testWebhook id =>
    obtain ⟨tested, earlier, last, rfl, tests, ended⟩ := exists_of_executed_bind executed
    rw [(executed_pure_iff.mp ended).1, List.append_nil]
    rcases executed_read_bind_iff.mp tests with ⟨_, waits⟩ | ⟨other, isSame, goesOn⟩
    · contradiction
    have sameWebhook : other.webhookById? (resolveTenantId call) id =
        store.webhookById? (resolveTenantId call) id := by
      rw [Store.webhookById?, isSame]
      rfl
    rw [sameWebhook] at goesOn
    cases found : store.webhookById? (resolveTenantId call) id with
    | none =>
      rw [found] at goesOn
      rw [(executed_pure_iff.mp goesOn).1]
      refine iff_of_true ?_ ?_
      · dsimp only [CreatesAsMeant]
        rw [found]
        rfl
      · intro id' webhook isTest isFound
        cases isTest
        rw [found] at isFound
        contradiction
    | some webhook =>
      rw [found] at goesOn
      obtain ⟨count, middle, rest, rfl, dispatched, ended⟩ :=
        exists_of_executed_bind goesOn
      rw [(executed_pure_iff.mp ended).1, List.append_nil,
        createdFor_dispatchEvent dispatched]
      dsimp only [CreatesAsMeant]
      rw [found]
      constructor
      · rintro ⟨isOnly, _⟩ id' webhook' isTest isFound
        cases isTest
        rw [found] at isFound
        cases isFound
        exact (reachedIds_eq_singleton_iff (mem_of_webhookById? found)).mp isOnly
      · intro probes
        refine ⟨(reachedIds_eq_singleton_iff (mem_of_webhookById? found)).mpr
          (probes id webhook rfl found), fun tenantId isTenant => ?_⟩
        exact createsExactly_reachedIds
          (isReached_of_tenant (by rw [orText_orText, isTenant]))

def SameWebhooks (earlier later : Store) : Prop :=
  earlier.webhooks = later.webhooks

/-- In any run, a request that has been answered has created what it should, unless it was a test
that reached others, or did not reach the tested webhook. -/
theorem createsAsMeant_iff_probesOnlyTested
    {conditions : Conditions Store WebhookQuery WebhookWrite WebhookAction} {store : Store}
    {state : WebhookState} (reachable : state.Reachable conditions store) {id arrived : Nat}
    {action : WebhookAction}
    (answered : state.sessions[id]? = some ⟨action, arrived, .outside (.answer ())⟩) :
    CreatesAsMeant state.shared.store action (createdFor (state.shared.labelsOf id)) ↔
      ProbesOnlyTested state.shared.store action := by
  have refl (store : Store) : SameWebhooks store store := rfl
  have commits (write : WebhookWrite) (earlier after : Store) (result : Unit)
      (happens : write.body.run earlier = some (after, result)) : SameWebhooks earlier after :=
    (WebhookWrite.webhooks_of_effect ((write.run_body earlier).symm.trans happens)).symm
  obtain ⟨last, executed, isLast⟩ := ReadCommitted.Reachable.executed WebhookWrite.guarded refl
    (fun _ _ _ => Eq.trans) commits reachable answered
  rw [isLast _ rfl] at executed
  exact createsAsMeant_iff_of_executed executed

namespace Sample

def sharedStore : Store where
  webhooks :=
    { rows := [hook "platform" none "webhook.test", hook "other" (some "volt") "*"]
      nodup := by decide }
  deliveries := Table.empty
  posts := []

def tested (id : String) : WebhookAction :=
  ⟨{ call with newId := fun index => if index = 0 then "delivery" else "delivery1" },
    .testWebhook id⟩

def testedAlone : List (DatabaseEvent WebhookAction) :=
  [.arrive (tested "hook"), .query 0, .query 0, .begin 0, .statement 0, .statement 0, .commit 0,
    .query 0, .begin 0, .statement 0, .statement 0, .commit 0, .begin 0, .statement 0,
    .statement 0, .commit 0]

def testedWithOther : List (DatabaseEvent WebhookAction) :=
  [.arrive (tested "platform"), .query 0, .query 0, .begin 0, .statement 0, .statement 0,
    .commit 0, .begin 0, .statement 0, .statement 0, .commit 0, .query 0, .begin 0, .statement 0,
    .statement 0, .commit 0, .begin 0, .statement 0, .statement 0, .commit 0, .query 0, .begin 0,
    .statement 0, .statement 0, .commit 0, .begin 0, .statement 0, .statement 0, .commit 0]

def createdByTest (state : WebhookState) : Option (String × List String) :=
  state.sessions[0]?.bind fun session =>
    match session.request.operation, session.progress with
    | .testWebhook id, .outside (.answer ()) => some (id, createdFor (state.shared.labelsOf 0))
    | _, _ => none

theorem exists_of_createdByTest {state : WebhookState} {id : String} {created : List String}
    (isCreated : createdByTest state = some (id, created)) :
    ∃ action arrived, state.sessions[0]? = some ⟨action, arrived, .outside (.answer ())⟩ ∧
      action.operation = .testWebhook id ∧ createdFor (state.shared.labelsOf 0) = created := by
  obtain ⟨⟨action, arrived, progress⟩, found, isCreated⟩ := Option.bind_eq_some_iff.mp isCreated
  dsimp only at isCreated
  split at isCreated
  · rename_i isTest
    cases isCreated
    exact ⟨action, arrived, found, isTest, rfl⟩
  · contradiction

end Sample

open Sample

/-- A test of the only webhook. -/
theorem createsAsMeant_iff_probesOnlyTested_alone :
    ∃ (state : WebhookState) (action : WebhookAction), action.operation = .testWebhook "hook" ∧
      (CreatesAsMeant state.shared.store action (createdFor (state.shared.labelsOf 0)) ↔
        ProbesOnlyTested state.shared.store action) := by
  have run : (after store Conditions.none testedAlone).bind
      createdByTest = some ("hook", ["hook"]) := by decide +kernel
  obtain ⟨state, reached, isCreated⟩ := Option.bind_eq_some_iff.mp run
  obtain ⟨action, arrived, answered, isTest, _⟩ := exists_of_createdByTest isCreated
  exact ⟨state, action, isTest,
    createsAsMeant_iff_probesOnlyTested (Transition.reachable_of_foldlM reached) answered⟩

/-- The test of a webhook of the platform creates a delivery for the webhook of a tenant. -/
theorem probe_reaches_other : ∃ (state : WebhookState) (action : WebhookAction) (arrived : Nat),
      state.Reachable Conditions.none sharedStore ∧
        state.sessions[0]? = some ⟨action, arrived, .outside (.answer ())⟩ ∧
        action.operation = .testWebhook "platform" ∧
        createdFor (state.shared.labelsOf 0) = ["platform", "other"] ∧
        ¬ CreatesAsMeant state.shared.store action (createdFor (state.shared.labelsOf 0)) := by
  have run : (after sharedStore Conditions.none testedWithOther).bind
      createdByTest = some ("platform", ["platform", "other"]) := by decide +kernel
  obtain ⟨state, reached, isCreated⟩ := Option.bind_eq_some_iff.mp run
  obtain ⟨⟨call, operation⟩, arrived, answered, rfl, created⟩ :=
    exists_of_createdByTest isCreated
  refine ⟨state, _, arrived, Transition.reachable_of_foldlM reached, answered, rfl, created, ?_⟩
  rw [created]
  intro asMeant
  dsimp only [CreatesAsMeant] at asMeant
  split at asMeant
  · contradiction
  · have isOnly := congrArg List.length asMeant.1
    simp at isOnly

end Csms.Webhooks
