import Csms.Database.Keeps
import Csms.Webhooks.Service

/-!
# Deliveries that are posted again

A delivery is claimed by nobody, so the dispatcher and the retry cycles can work on it at a
time.  If each of them finds the delivery as it has read it, every attempt is posted once, the
last one is the only one that can have succeeded, and a delivery that is finished stays so.
-/

namespace Csms.Webhooks

open Js Database

/-- An attempt is posted, and recorded, only while the delivery still has the attempts that
were read and is not finished, and while no other request has posted the attempt. -/
def oneAtATime : Conditions Store WebhookQuery WebhookWrite WebhookAction where
  onArrive _ _ := true
  onQuery _ _ _ := true
  onCommit _ write shared :=
    match write with
    | .createDelivery _ => true
    | .post sent =>
      shared.store.isOpen sent.deliveryId sent.attempts &&
        !shared.store.isPosted sent.deliveryId sent.attempts
    | .updateDelivery deliveryId posted data =>
      shared.store.isOpen deliveryId (data.attempts - 1) &&
        (posted || !shared.store.isPosted deliveryId (data.attempts - 1))

/-- Nothing is posted more often than the retries allow, nor after a success, and what is
finished stays so. -/
structure DeliversOnce (shared : Shared Store WebhookWrite) : Prop where
  limited : ∀ delivery ∈ shared.store.deliveries.rows, ∀ hook,
    shared.store.webhooks.find? delivery.webhookId = some hook →
      (shared.store.outcomesOf delivery.id).length ≤ hook.maxRetries + 1
  notAfterSuccess : shared.store.posts.Pairwise fun earlier later =>
    earlier.deliveryId = later.deliveryId → earlier.outcome.isSuccess = false
  finishedKept : ∀ commit ∈ shared.commits, ∀ deliveryId row,
    commit.before.deliveries.find? deliveryId = some row → row.status.isTerminal = true →
      ∃ row', commit.after.deliveries.find? deliveryId = some row' ∧ row'.status = row.status

/-- Where a post is from the row of its delivery: its attempt is over, or not recorded yet. -/
structure Post.Accounted (post : Post) (row : WebhookDelivery) : Prop where
  attempted : post.attempts < row.attempts ∨
    post.attempts = row.attempts ∧ row.status.isTerminal = false
  succeeded : post.outcome.isSuccess = true →
    post.attempts = row.attempts ∧ row.status.isTerminal = false ∨ row.status = .success

structure Orderly (store : Store) : Prop where
  accounted : ∀ post ∈ store.posts, ∃ row,
    store.deliveries.find? post.deliveryId = some row ∧ post.Accounted row ∧
      ∀ hook, store.webhooks.find? row.webhookId = some hook → post.attempts ≤ hook.maxRetries
  distinct : (store.posts.map fun post => (post.deliveryId, post.attempts)).Nodup
  withinLimit : ∀ row ∈ store.deliveries.rows, row.status.isTerminal = false →
    ∀ hook, store.webhooks.find? row.webhookId = some hook → row.attempts ≤ hook.maxRetries
  notAfterSuccess : store.posts.Pairwise fun earlier later =>
    earlier.deliveryId = later.deliveryId → earlier.outcome.isSuccess = false

variable {delivery : WebhookDelivery} {hook : Webhook}

/-- Each attempt is posted once, and there are no more than the retries allow. -/
theorem Orderly.length_outcomesOf_le {store : Store} (orderly : Orderly store)
    (member : delivery ∈ store.deliveries.rows)
    (isHook : store.webhooks.find? delivery.webhookId = some hook) :
    (store.outcomesOf delivery.id).length ≤ hook.maxRetries + 1 := by
  let posts := store.posts.filter fun post => post.deliveryId = delivery.id
  have ofDelivery : ∀ post ∈ posts, post ∈ store.posts ∧ post.deliveryId = delivery.id :=
    fun post isPost => by simpa [posts] using isPost
  have distinct : (posts.map Post.attempts).Nodup := by
    have pairs := orderly.distinct.sublist (List.filter_sublist.map _ :
      (posts.map fun post => (post.deliveryId, post.attempts)).Sublist _)
    refine (List.nodup_map_iff_inj_on pairs.of_map).mpr ?_
    intro first firstMem second secondMem same
    refine List.inj_on_of_nodup_map pairs firstMem secondMem ?_
    rw [(ofDelivery first firstMem).2, (ofDelivery second secondMem).2, same]
  have bounded : posts.map Post.attempts ⊆ List.range (hook.maxRetries + 1) := by
    intro attempts isAttempt
    obtain ⟨post, isPost, rfl⟩ := List.mem_map.mp isAttempt
    obtain ⟨inStore, isOf⟩ := ofDelivery post isPost
    obtain ⟨row, isRow, _, limited⟩ := orderly.accounted post inStore
    rw [isOf, Table.find?_eq_some_iff.mpr ⟨member, rfl⟩] at isRow
    cases isRow
    exact List.mem_range.mpr (Nat.lt_succ_of_le (limited hook isHook))
  calc (store.outcomesOf delivery.id).length
      = (posts.map Post.attempts).length := by simp [Store.outcomesOf, posts]
    _ ≤ (List.range (hook.maxRetries + 1)).length := (distinct.subperm bounded).length_le
    _ = hook.maxRetries + 1 := List.length_range

variable {deliveryId : String}

theorem Store.exists_of_isOpen {store : Store} {attempts : Nat}
    (isOpen : store.isOpen deliveryId attempts = true) :
    ∃ row, store.deliveries.find? deliveryId = some row ∧ row.attempts = attempts ∧
      row.status.isTerminal = false := by
  obtain ⟨row, isRow, isAsRead⟩ := (Option.any_eq_true _ _).mp isOpen
  simp only [Bool.and_eq_true, decide_eq_true_eq, Bool.not_eq_true'] at isAsRead
  exact ⟨row, isRow, isAsRead⟩

theorem Store.isPosted_eq_false_iff {store : Store} {attempts : Nat} :
    store.isPosted deliveryId attempts = false ↔
      ∀ post ∈ store.posts, post.deliveryId = deliveryId → post.attempts ≠ attempts := by
  simp [isPosted]

section Writes

variable {store after : Store}

theorem createDelivery_eq_some_iff {row : WebhookDelivery} :
    (WebhookWrite.createDelivery row).effect store = some (after, ()) ↔
      ∃ deliveries, store.deliveries.insert? row = some deliveries ∧
        after = { store with deliveries } := by
  simp [WebhookWrite.effect, eq_comm]

theorem updateDelivery_eq_some_iff {posted : Bool} {data : AttemptRecord} :
    (WebhookWrite.updateDelivery deliveryId posted data).effect store = some (after, ()) ↔
      (∃ row, store.deliveries.find? deliveryId = some row) ∧ after = { store with
          deliveries := store.deliveries.updateWhere (fun row => row.id = deliveryId) data.apply
            data.id_apply } := by
  simp [WebhookWrite.effect, eq_comm]

theorem find?_updateDelivery {data : AttemptRecord} (wanted : String) :
    (store.deliveries.updateWhere (fun row => row.id = deliveryId) data.apply
        data.id_apply).find? wanted =
      (store.deliveries.find? wanted).map fun row =>
        if wanted = deliveryId then data.apply row else row := by
  rw [Table.find?_updateWhere]
  cases found : store.deliveries.find? wanted with
  | none => rfl
  | some row =>
    rw [Option.map_some, Option.map_some, (Table.find?_eq_some_iff.mp found).2]
    simp

/-- A row that there is stays under its id when another is added. -/
theorem find?_of_insert? {deliveries : Table WebhookDelivery WebhookDelivery.id}
    {row old : WebhookDelivery} {wanted : String}
    (inserted : store.deliveries.insert? row = some deliveries)
    (found : store.deliveries.find? wanted = some old) : deliveries.find? wanted = some old := by
  obtain ⟨member, isKey⟩ := Table.find?_eq_some_iff.mp found
  refine Table.find?_eq_some_iff.mpr ⟨?_, isKey⟩
  rw [(Table.insert?_eq_some_iff.mp inserted).2]
  exact List.mem_append_left _ member

theorem Orderly.createDelivery (orderly : Orderly store) {row : WebhookDelivery}
    (isNew : row.attempts = 0)
    (happens : (WebhookWrite.createDelivery row).effect store = some (after, ())) :
    Orderly after := by
  obtain ⟨deliveries, inserted, rfl⟩ := createDelivery_eq_some_iff.mp happens
  refine ⟨?_, orderly.distinct, ?_, orderly.notAfterSuccess⟩
  · intro post isPost
    obtain ⟨old, found, accounted⟩ := orderly.accounted post isPost
    exact ⟨old, find?_of_insert? inserted found, accounted⟩
  · intro other member isOpen hook isHook
    rw [(Table.insert?_eq_some_iff.mp inserted).2, List.mem_append, List.mem_singleton] at member
    rcases member with old | rfl
    · exact orderly.withinLimit other old isOpen hook isHook
    · rw [isNew]
      exact Nat.zero_le _

theorem Orderly.post (orderly : Orderly store) {sent : Post}
    (isOpen : store.isOpen sent.deliveryId sent.attempts = true)
    (isFirst : store.isPosted sent.deliveryId sent.attempts = false)
    (happens : (WebhookWrite.post sent).effect store = some (after, ())) : Orderly after := by
  cases happens
  obtain ⟨row, isRow, isAsRead, stillOpen⟩ := Store.exists_of_isOpen isOpen
  have others := Store.isPosted_eq_false_iff.mp isFirst
  refine ⟨?_, ?_, orderly.withinLimit, ?_⟩
  · intro post isPost
    rcases List.mem_append.mp isPost with old | new
    · exact orderly.accounted post old
    · obtain rfl := List.mem_singleton.mp new
      refine ⟨row, isRow, ⟨Or.inr ⟨isAsRead.symm, stillOpen⟩,
        fun _ => Or.inl ⟨isAsRead.symm, stillOpen⟩⟩, ?_⟩
      rw [← isAsRead]
      exact orderly.withinLimit row (Table.find?_eq_some_iff.mp isRow).1 stillOpen
  · rw [List.map_append, List.map_singleton, List.nodup_append]
    refine ⟨orderly.distinct, List.nodup_singleton _, ?_⟩
    intro old isOld new isNew same
    obtain rfl := List.mem_singleton.mp isNew
    obtain ⟨post, isPost, rfl⟩ := List.mem_map.mp isOld
    rw [Prod.mk.injEq] at same
    exact others post isPost same.1 same.2
  · refine List.pairwise_append.mpr ⟨orderly.notAfterSuccess, List.pairwise_singleton _ _, ?_⟩
    intro earlier isEarlier later isLater same
    obtain rfl := List.mem_singleton.mp isLater
    obtain ⟨old, isOld, accounted, _⟩ := orderly.accounted earlier isEarlier
    rw [same, isRow] at isOld
    cases isOld
    -- a success would be this attempt, or the delivery would be finished
    by_contra isSuccess
    rcases accounted.succeeded (by simpa using isSuccess) with ⟨isAttempt, _⟩ | isDone
    · exact others earlier isEarlier same (isAttempt.trans isAsRead)
    · rw [isDone] at stillOpen
      contradiction

/-- A record of an attempt that nobody else has posted, or that ended as the post did. -/
theorem Orderly.updateDelivery (orderly : Orderly store) {call : WebhookCall} {posted : Bool}
    {outcome : HttpOutcome} (isOpen : store.isOpen delivery.id delivery.attempts = true)
    (isHook : ∀ row, store.deliveries.find? delivery.id = some row → store.webhooks.find? row.webhookId = some hook)
    (sameOutcome : ∀ post ∈ store.posts, post.deliveryId = delivery.id → post.attempts = delivery.attempts → post.outcome = outcome)
    (happens : (WebhookWrite.updateDelivery delivery.id posted (attemptRecord call delivery hook outcome)).effect store = some (after, ())) :
    Orderly after := by
  obtain ⟨_, rfl⟩ := updateDelivery_eq_some_iff.mp happens
  obtain ⟨row, isRow, isAsRead, wasOpen⟩ := Store.exists_of_isOpen isOpen
  refine ⟨?_, orderly.distinct, ?_, orderly.notAfterSuccess⟩
  · intro post isPost
    obtain ⟨old, isOld, accounted, limited⟩ := orderly.accounted post isPost
    rw [find?_updateDelivery, isOld, Option.map_some]
    refine ⟨_, rfl, ?_⟩
    by_cases same : post.deliveryId = delivery.id
    · rw [if_pos same]
      rw [same, isRow] at isOld
      cases isOld
      refine ⟨⟨Or.inl ?_, fun isSuccess => Or.inr ?_⟩, limited⟩
      · change post.attempts < delivery.attempts + 1
        rcases accounted.attempted with isOver | ⟨isAttempt, _⟩ <;> omega
      · rcases accounted.succeeded isSuccess with ⟨isAttempt, _⟩ | isDone
        · rw [sameOutcome post isPost same (isAttempt.trans isAsRead)] at isSuccess
          exact status_attemptRecord_of_isSuccess call isSuccess
        · rw [isDone] at wasOpen
          contradiction
    · rw [if_neg same]
      exact ⟨accounted, limited⟩
  · intro other member stillOpen hook' isHook'
    have found := Table.find?_eq_some_iff.mpr ⟨member, rfl⟩
    rw [find?_updateDelivery, Option.map_eq_some_iff] at found
    obtain ⟨old, isOld, isOther⟩ := found
    split at isOther
    · rename_i isIt
      subst isOther
      obtain rfl : hook' = hook := Option.some.inj (isHook'.symm.trans (isHook old (isIt ▸ isOld)))
      exact attempts_attemptRecord_le call stillOpen
    · subst isOther
      exact orderly.withinLimit old (Table.find?_eq_some_iff.mp isOld).1 stillOpen hook' isHook'

/-- What the writes of others leave. -/
structure Continues (before after : Store) : Prop where
  webhooks : after.webhooks = before.webhooks
  posts : before.posts ⊆ after.posts
  owner : ∀ deliveryId row, before.deliveries.find? deliveryId = some row →
    ∃ row', after.deliveries.find? deliveryId = some row' ∧ row'.webhookId = row.webhookId

theorem Continues.refl (store : Store) : Continues store store :=
  ⟨rfl, fun _ member => member, fun _ row found => ⟨row, found, rfl⟩⟩

theorem Continues.trans {first second third : Store} (left : Continues first second)
    (right : Continues second third) : Continues first third where
  webhooks := right.webhooks.trans left.webhooks
  posts _ member := right.posts (left.posts member)
  owner deliveryId row found := by
    obtain ⟨middle, isMiddle, sameHook⟩ := left.owner deliveryId row found
    obtain ⟨last, isLast, stillSame⟩ := right.owner deliveryId middle isMiddle
    exact ⟨last, isLast, stillSame.trans sameHook⟩

theorem continues_of_effect {write : WebhookWrite}
    (happens : write.effect store = some (after, ())) : Continues store after := by
  have webhooks := WebhookWrite.webhooks_of_effect happens
  cases write with
  | createDelivery row =>
    obtain ⟨deliveries, inserted, rfl⟩ := createDelivery_eq_some_iff.mp happens
    exact ⟨webhooks, fun _ member => member,
      fun _ row found => ⟨row, find?_of_insert? inserted found, rfl⟩⟩
  | post sent =>
    cases happens
    exact ⟨webhooks, List.subset_append_left _ _, fun _ row found => ⟨row, found, rfl⟩⟩
  | updateDelivery deliveryId posted data =>
    obtain ⟨_, rfl⟩ := updateDelivery_eq_some_iff.mp happens
    refine ⟨webhooks, fun _ member => member, fun wanted row found => ?_⟩
    rw [find?_updateDelivery, found, Option.map_some]
    refine ⟨_, rfl, ?_⟩
    split <;> rfl

end Writes

section Programs

variable {action : WebhookAction} {id : Nat} {call : WebhookCall} {α : Type}

/-- Whatever others do in between, the program keeps the deliveries orderly. -/
abbrev KeepsOrder (action : WebhookAction) (id : Nat) (program : WebhookRequest α) : Prop :=
  program.Keeps (fun write => write.body.run) oneAtATime (fun shared => Orderly shared.store)
    (fun before after => Continues before.store after.store) action id

def IsOf (delivery : WebhookDelivery) (hook : Webhook) (store : Store) : Prop :=
  (∃ row, store.deliveries.find? delivery.id = some row ∧ row.webhookId = delivery.webhookId) ∧
    store.webhooks.find? delivery.webhookId = some hook

theorem isOf_of_deliveryWithWebhook? {store : Store}
    (found : store.deliveryWithWebhook? deliveryId = some (delivery, hook)) :
    IsOf delivery hook store := by
  obtain ⟨row, isRow, found⟩ := Option.bind_eq_some_iff.mp found
  obtain ⟨owner, isOwner, found⟩ := Option.bind_eq_some_iff.mp found
  cases found
  refine ⟨⟨delivery, ?_, rfl⟩, isOwner⟩
  rw [(Table.find?_eq_some_iff.mp isRow).2]
  exact isRow

theorem IsOf.later {before after : Store} (isOf : IsOf delivery hook before)
    (continues : Continues before after) : IsOf delivery hook after := by
  obtain ⟨⟨row, isRow, sameHook⟩, isHook⟩ := isOf
  obtain ⟨row', isRow', stillSame⟩ := continues.owner delivery.id row isRow
  refine ⟨⟨row', isRow', stillSame.trans sameHook⟩, ?_⟩
  rw [continues.webhooks]
  exact isHook

theorem meets_recordAttempt {posted : Bool} {outcome : HttpOutcome}
    {shared : Shared Store WebhookWrite} (isOf : IsOf delivery hook shared.store)
    (isPosted : posted = true → ∃ post ∈ shared.store.posts, post.deliveryId = delivery.id ∧ post.attempts = delivery.attempts ∧ post.outcome = outcome) :
    (recordAttempt call delivery hook posted outcome).Meets (fun write => write.body.run)
      oneAtATime (fun shared => Orderly shared.store)
      (fun before after => Continues before.store after.store) action id (fun _ _ => True)
      shared := by
  refine meets_transact.mpr fun later continues orderly => ⟨?_, ?_⟩
  · exact (meets_pure _).mpr fun _ _ _ => trivial
  · intro allowed after result happens
    rw [WebhookWrite.run_body] at happens
    obtain ⟨isOpen, isOwn⟩ := Bool.and_eq_true_iff.mp allowed
    obtain ⟨⟨row, isRow, sameHook⟩, isHook⟩ := isOf.later continues
    have isOrderly : Orderly after := by
      refine orderly.updateDelivery isOpen ?_ ?_ happens
      · intro row' isRow'
        obtain rfl : row' = row := Option.some.inj (isRow'.symm.trans isRow)
        rw [sameHook]
        exact isHook
      · intro post isPost sameId sameAttempts
        cases posted with
        | true =>
          obtain ⟨own, isOwnPost, ownId, ownAttempts, ownOutcome⟩ := isPosted rfl
          rw [← ownOutcome]
          refine congrArg Post.outcome (List.inj_on_of_nodup_map orderly.distinct isPost
            (continues.posts isOwnPost) ?_)
          rw [sameId, sameAttempts, ownId, ownAttempts]
        | false =>
          rw [Bool.false_or, Bool.not_eq_true'] at isOwn
          exact absurd sameAttempts (Store.isPosted_eq_false_iff.mp isOwn post isPost sameId)
    exact ⟨continues_of_effect happens, isOrderly, (meets_pure _).mpr fun _ _ _ => trivial⟩

theorem keepsOrder_processDelivery : KeepsOrder action id (processDelivery call deliveryId) := by
  intro shared _
  refine (meets_read_bind _ _ _).mpr fun current _ _ _ => ?_
  split
  · exact (meets_pure _).mpr fun _ _ _ => trivial
  · rename_i delivery hook found
    have isOf := isOf_of_deliveryWithWebhook? found
    refine meets_ite (fun _ => (meets_pure _).mpr fun _ _ _ => trivial) fun _ => ?_
    refine meets_transact.mpr fun later continues orderly => ⟨?_, ?_⟩
    · exact meets_recordAttempt (isOf.later continues) fun isPosted => by contradiction
    · intro allowed after result happens
      rw [WebhookWrite.run_body] at happens
      obtain ⟨isOpen, isFirst⟩ := Bool.and_eq_true_iff.mp allowed
      have sent := continues_of_effect happens
      refine ⟨sent, orderly.post isOpen (by simpa using isFirst) happens, ?_⟩
      refine meets_recordAttempt ((isOf.later continues).later sent) fun _ => ?_
      cases happens
      exact ⟨postOf call delivery hook, List.mem_append_right _ (List.mem_singleton_self _), rfl,
        rfl, rfl⟩

theorem keepsOrder_bind {γ : Type} {first : WebhookRequest γ} {next : γ → WebhookRequest α}
    (keeps : KeepsOrder action id first) (onward : ∀ value, KeepsOrder action id (next value)) :
    KeepsOrder action id (first >>= next) :=
  Request.Keeps.bind (fun shared => Continues.refl shared.store) keeps onward

theorem keepsOrder_read {name : WebhookQuery} {find : Store → α} :
    KeepsOrder action id (Request.read name find) :=
  fun _ _ => (meets_read _ _).mpr fun _ _ _ _ _ _ _ => trivial

theorem keepsOrder_processDeliveries {deliveryIds : List String} :
    KeepsOrder action id (processDeliveries call deliveryIds) := by
  induction deliveryIds with
  | nil => exact Request.keeps_pure _
  | cons deliveryId deliveryIds ih =>
    refine keepsOrder_bind keepsOrder_processDelivery fun processed => ?_
    cases processed with
    | ok value => exact ih
    | error exception => exact Request.keeps_pure _

theorem keepsOrder_createDeliveries {eventType : String} {payload : JsRecord} {index : Nat}
    {hooks : List Webhook} :
    KeepsOrder action id (createDeliveries call eventType payload index hooks) := by
  induction hooks generalizing index with
  | nil => exact Request.keeps_pure _
  | cons hook hooks ih =>
    refine keepsOrder_bind ?_ fun _ => keepsOrder_bind ih fun _ => Request.keeps_pure _
    intro shared _
    refine (meets_commit _ _).mpr fun later _ orderly => ⟨fun _ _ _ => trivial, ?_⟩
    intro _ after result happens
    rw [WebhookWrite.run_body] at happens
    exact ⟨continues_of_effect happens, orderly.createDelivery rfl happens, fun _ _ _ => trivial⟩

theorem keepsOrder_dispatchEvent {eventType : String} {payload : JsRecord}
    {organizationId : Option String} :
    KeepsOrder action id (dispatchEvent call eventType payload organizationId) := by
  refine keepsOrder_bind keepsOrder_read fun hooks => ?_
  refine Request.Keeps.ite (Request.keeps_pure _) ?_
  refine keepsOrder_bind keepsOrder_createDeliveries fun deliveryIds => ?_
  refine keepsOrder_bind keepsOrder_processDeliveries fun processed => ?_
  exact keeps_ofExcept_bind fun _ _ => Request.keeps_pure _

theorem keepsOrder_program (action : WebhookAction) (id : Nat) :
    KeepsOrder action id action.program := by
  obtain ⟨call, operation⟩ := action
  cases operation with
  | dispatchEvent eventType payload organizationId =>
    exact keepsOrder_bind keepsOrder_dispatchEvent fun _ => Request.keeps_pure _
  | testWebhook webhookId =>
    refine keepsOrder_bind ?_ fun _ => Request.keeps_pure _
    refine keepsOrder_bind keepsOrder_read fun found => ?_
    cases found with
    | none => exact Request.keeps_pure _
    | some webhook => exact keepsOrder_bind keepsOrder_dispatchEvent fun _ => Request.keeps_pure _
  | retryPendingDeliveries =>
    refine keepsOrder_bind keepsOrder_read fun due => ?_
    exact keepsOrder_bind keepsOrder_processDeliveries fun _ => Request.keeps_pure _

end Programs

theorem orderly_of_empty {store : Store} (noDeliveries : store.deliveries.rows = [])
    (noPosts : store.posts = []) : Orderly store := by
  refine ⟨?_, ?_, ?_, ?_⟩ <;> simp [noDeliveries, noPosts]

theorem finishedKept_of_effect {action : WebhookAction} {write : WebhookWrite}
    {shared : Shared Store WebhookWrite} {after : Store}
    (allowed : oneAtATime.onCommit action write shared = true)
    (happens : write.effect shared.store = some (after, ())) (deliveryId : String)
    (row : WebhookDelivery) (isRow : shared.store.deliveries.find? deliveryId = some row)
    (isFinished : row.status.isTerminal = true) :
    ∃ row', after.deliveries.find? deliveryId = some row' ∧ row'.status = row.status := by
  cases write with
  | createDelivery new =>
    obtain ⟨deliveries, inserted, rfl⟩ := createDelivery_eq_some_iff.mp happens
    exact ⟨row, find?_of_insert? inserted isRow, rfl⟩
  | post sent =>
    cases happens
    exact ⟨row, isRow, rfl⟩
  | updateDelivery updatedId posted data =>
    obtain ⟨_, rfl⟩ := updateDelivery_eq_some_iff.mp happens
    obtain ⟨open', isOpen, _, stillOpen⟩ :=
      Store.exists_of_isOpen (Bool.and_eq_true_iff.mp allowed).1
    have isOther : deliveryId ≠ updatedId := by
      rintro rfl
      rw [isRow] at isOpen
      cases isOpen
      rw [isFinished] at stillOpen
      contradiction
    rw [find?_updateDelivery, isRow, Option.map_some, if_neg isOther]
    exact ⟨row, rfl, rfl⟩

/-- From before there were deliveries on, as long as each request finds a delivery as it has
read it. -/
theorem deliversOnce_of_oneAtATime {store : Store} (noDeliveries : store.deliveries.rows = [])
    (noPosts : store.posts = []) {state : WebhookState}
    (reachable : state.Reachable oneAtATime store) : DeliversOnce state.shared := by
  let invariant (shared : Shared Store WebhookWrite) : Prop := Orderly shared.store
  let rely (before after : Shared Store WebhookWrite) : Prop := Continues before.store after.store
  have keeps (action : WebhookAction) (id : Nat) :
      action.program.Keeps (fun write => write.body.run) oneAtATime invariant rely action id :=
    keepsOrder_program action id
  have orderly : invariant state.shared := by
    refine ReadCommitted.Reachable.keeps WebhookWrite.guarded ?_ ?_ keeps
      (orderly_of_empty noDeliveries noPosts) reachable
    · exact fun shared => Continues.refl shared.store
    · exact fun _ _ _ => Continues.trans
  refine ⟨fun delivery member hook isHook => orderly.length_outcomesOf_le member isHook,
    orderly.notAfterSuccess, ?_⟩
  have transacts (action : WebhookAction) : action.program.Transacts fun _ => True :=
    transacts_of_forall (fun _ => trivial) action.program
  refine ReadCommitted.Reachable.forall_commits WebhookWrite.guarded transacts
    (fun _ before after => ∀ deliveryId row, before.deliveries.find? deliveryId = some row →
      row.status.isTerminal = true →
        ∃ row', after.deliveries.find? deliveryId = some row' ∧ row'.status = row.status)
    ?_ reachable
  intro action shared write after result _ allowed happens
  rw [WebhookWrite.run_body] at happens
  exact finishedKept_of_effect allowed happens

namespace Sample

def dispatched : WebhookAction :=
  ⟨call, .dispatchEvent "session.started" JsRecord.empty (some "acme")⟩

def dispatchedAlone : List (DatabaseEvent WebhookAction) :=
  [.arrive dispatched, .query 0, .begin 0, .statement 0, .statement 0, .commit 0, .query 0,
    .begin 0, .statement 0, .statement 0, .commit 0, .begin 0, .statement 0, .statement 0,
    .commit 0]

def dispatchedAndRetried : List (DatabaseEvent WebhookAction) :=
  [.arrive dispatched, .arrive ⟨call, .retryPendingDeliveries⟩, .query 0, .begin 0,
    .statement 0, .statement 0, .commit 0, .query 0, .query 1, .query 1, .begin 1, .statement 1,
    .statement 1, .commit 1, .begin 0, .statement 0, .statement 0, .commit 0]

end Sample

/-- One dispatcher. -/
theorem deliversOnce_of_oneAtATime_alone :
    ∃ state : WebhookState, state.shared.store.posts.length = 1 ∧ DeliversOnce state.shared := by
  have run : (Sample.after Sample.store oneAtATime Sample.dispatchedAlone).map
      (fun state => state.shared.store.posts.length) = some 1 := by decide +kernel
  obtain ⟨state, reached, isOne⟩ := Option.map_eq_some_iff.mp run
  exact ⟨state, isOne,
    deliversOnce_of_oneAtATime rfl rfl (Transition.reachable_of_foldlM reached)⟩

/-- A delivery without retries is posted twice, and both posts succeed. -/
theorem posted_twice : ∃ state : WebhookState, state.Reachable Conditions.none Sample.store ∧
      ¬ DeliversOnce state.shared := by
  have run : (Sample.after Sample.store Conditions.none Sample.dispatchedAndRetried).map (fun state =>
      (state.shared.store.webhooks.find? "hook",
        (state.shared.store.deliveries.find? "delivery").map WebhookDelivery.webhookId,
        state.shared.store.outcomesOf "delivery")) =
      some (some (Sample.hook "hook" (some "acme") "*"), some "hook",
        [.response 200 "", .response 200 ""]) := by decide +kernel
  obtain ⟨state, reached, isRun⟩ := Option.map_eq_some_iff.mp run
  rw [Prod.mk.injEq, Prod.mk.injEq] at isRun
  obtain ⟨isHook, isDelivery, outcomes⟩ := isRun
  refine ⟨state, Transition.reachable_of_foldlM reached, fun delivers => ?_⟩
  obtain ⟨delivery, isRow, isOf⟩ := Option.map_eq_some_iff.mp isDelivery
  obtain ⟨member, isId⟩ := Table.find?_eq_some_iff.mp isRow
  have limited := delivers.limited delivery member _ (by rw [isOf]; exact isHook)
  rw [isId, outcomes] at limited
  contradiction

end Csms.Webhooks
