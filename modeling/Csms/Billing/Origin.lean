import Csms.Billing.Credits
import Csms.Billing.Kinds

/-!
# Top-ups stay top-ups

Settlement updates a payment intent with metadata that it read before its
transaction.  This file shows that this does not hurt: an intent that a request
hands to a transaction was read from the store, and from then on no transaction
changes whether the intent is a top-up.
-/

namespace Csms.Billing

open Database Js

theorem isWalletTopUp_withReconciliationNote (intent : PaymentIntent)
    (metadata : Option JsRecord) (note : String) :
    isWalletTopUp { intent with metadata := some (withReconciliationNote metadata note) } =
      isWalletTopUp { intent with metadata } := by
  cases metadata with
  | none => rfl
  | some metadata => rfl

section Keeps

variable {existing intent : PaymentIntent}
  (known : isWalletTopUp intent = isWalletTopUp existing)
include known

theorem isWalletTopUp_finalStatusChange (input : ApplyFinalStatusInput) (now : Int) :
    isWalletTopUp (finalStatusChange existing input now intent) = isWalletTopUp intent := by
  rw [finalStatusChange]
  rcases optionalTrimmed input.note with _ | note
  · rfl
  · exact (isWalletTopUp_withReconciliationNote _ existing.metadata note).trans known.symm

theorem isWalletTopUp_reconcileChange (status : PaymentIntentOngoingStatus)
    (providerReference : Option (Option String)) (note : Option String) :
    isWalletTopUp (reconcileChange existing status providerReference note intent) =
      isWalletTopUp intent := by
  rw [reconcileChange]
  rcases orText note none with _ | text
  · rfl
  · exact (isWalletTopUp_withReconciliationNote _ existing.metadata text).trans known.symm

end Keeps

/-- Two versions of an intent top up the same wallet or none. -/
structure SameTopUp (later earlier : PaymentIntent) : Prop where
  flow : isWalletTopUp later = isWalletTopUp earlier
  wallet : later.walletId = earlier.walletId

theorem SameTopUp.trans {first second third : PaymentIntent} (right : SameTopUp third second)
    (left : SameTopUp second first) : SameTopUp third first :=
  ⟨right.flow.trans left.flow, right.wallet.trans left.wallet⟩

theorem SameTopUp.toppedUpWallet_eq {later earlier : PaymentIntent}
    (same : SameTopUp later earlier) : toppedUpWallet later = toppedUpWallet earlier := by
  rw [toppedUpWallet, toppedUpWallet, same.flow, same.wallet]

namespace Store

/-- The store has the intent, as a top-up of the same wallet. -/
def Knows (store : Store) (existing : PaymentIntent) : Prop :=
  ∃ intent, paymentIntentTable.find? existing.id store = some intent ∧ SameTopUp intent existing

def IntentsKept (before after : Store) : Prop :=
  ∀ id intent, paymentIntentTable.find? id before = some intent → after.Knows intent

variable {store after : Store} {existing : PaymentIntent}

theorem id_of_find? {id : String} {intent : PaymentIntent}
    (found : paymentIntentTable.find? id store = some intent) : intent.id = id :=
  (Table.find?_eq_some_iff.mp found).2

theorem knows_of_find? {id : String} (found : paymentIntentTable.find? id store = some existing) :
    store.Knows existing := by
  refine ⟨existing, ?_, rfl, rfl⟩
  rw [id_of_find? found]
  exact found

theorem Knows.kept (known : store.Knows existing) (kept : IntentsKept store after) :
    after.Knows existing := by
  obtain ⟨intent, found, same⟩ := known
  obtain ⟨later, laterFound, laterSame⟩ := kept existing.id intent found
  rw [id_of_find? found] at laterFound
  exact ⟨later, laterFound, laterSame.trans same⟩

theorem intentsKept_refl (store : Store) : IntentsKept store store :=
  fun _ _ found => knows_of_find? found

theorem IntentsKept.trans {first second third : Store} (left : IntentsKept first second)
    (right : IntentsKept second third) : IntentsKept first third :=
  fun id intent found => (left id intent found).kept right

end Store

/-- The intent that a settlement was given is known to the store. -/
def Write.Informed (store : Store) : Write → Prop
  | .applyFinalStatus existing _ _ => store.Knows existing
  | .reconcile existing _ _ _ => store.Knows existing
  | _ => True

theorem Write.informed_of_kind {write : Write} (notSettlement : write.kind ≠ .settlement)
    (store : Store) : write.Informed store := by
  cases write with
  | applyFinalStatus | reconcile => exact absurd rfl notSettlement
  | _ => trivial

/-- No transaction makes an intent a top-up of another wallet. -/
theorem Effect.intentsKept {write : Write} {store after : Store}
    (effect : Effect write store after) (informed : write.Informed store) :
    Store.IntentsKept store after := by
  intro id intent found
  rw [Store.Knows, Store.id_of_find? found]
  by_cases concerns : write.intentId = some id
  · have step := effect.intentStep concerns
    rw [found] at step
    generalize Store.paymentIntentTable.find? id after = changed at step
    cases step with
    | applyFinalStatus existing input now =>
      obtain rfl := Option.some.inj concerns
      obtain ⟨row, rowFound, same⟩ := informed
      obtain rfl := Option.some.inj (rowFound.symm.trans found)
      exact ⟨_, rfl, isWalletTopUp_finalStatusChange same.flow input now, rfl⟩
    | reconcile existing status providerReference note =>
      obtain rfl := Option.some.inj concerns
      obtain ⟨row, rowFound, same⟩ := informed
      obtain rfl := Option.some.inj (rowFound.symm.trans found)
      exact ⟨_, rfl,
        isWalletTopUp_reconcileChange same.flow status providerReference note, rfl⟩
  · rw [effect.intent_of_ne concerns]
    exact ⟨intent, found, rfl, rfl⟩

/-- The request keeps the invariant while no transaction of others changes whether an
intent is a top-up, and ends with the postcondition. -/
abbrev Commerce.Keeps {α : Type} (conditions : Conditions Store Query Write BillingRequest)
    (invariant : Shared Store Write → Prop) (request : BillingRequest) (id : Nat)
    (post : Except CommerceException α → Shared Store Write → Prop) (program : Commerce α)
    (shared : Shared Store Write) : Prop :=
  program.Meets (fun write => write.body.run) conditions invariant
    (fun first second => Store.IntentsKept first.store second.store) request id post shared

section Requests

variable {conditions : Conditions Store Query Write BillingRequest}
  {invariant : Shared Store Write → Prop} {request : BillingRequest} {id : Nat}
  {shared : Shared Store Write}

def KnowsResolved (outcome : Except CommerceException (Option PaymentIntent))
    (shared : Shared Store Write) : Prop :=
  ∀ intent, outcome = .ok (some intent) → shared.store.Knows intent

theorem knowsResolved_none : KnowsResolved (.ok none) shared :=
  fun _ isIntent => nomatch isIntent

theorem knowsResolved_of_mem {read later : Shared Store Write}
    (kept : Store.IntentsKept read.store later.store) {found : Option PaymentIntent}
    (ofStore : ∀ intent, found = some intent → intent ∈ read.store.paymentIntents.rows) :
    KnowsResolved (.ok found) later := by
  intro intent isIntent
  have isFound : found = some intent := Except.ok.inj isIntent
  have stored : Store.paymentIntentTable.find? intent.id read.store = some intent :=
    Table.find?_eq_some_iff.mpr ⟨ofStore intent isFound, rfl⟩
  exact (Store.knows_of_find? stored).kept kept

theorem keeps_pure {α : Type} (value : α) :
    (pure value : Commerce α).Keeps conditions invariant request id (fun _ _ => True) shared :=
  (meets_pure value).mpr fun _ _ _ => trivial

theorem keeps_bind {α γ : Type} {program : Commerce α} {next : α → Commerce γ}
    {middle : Except CommerceException α → Shared Store Write → Prop}
    (first : program.Keeps conditions invariant request id middle shared) (holds : invariant shared)
    (onward : ∀ value later, invariant later → middle (.ok value) later →
      (next value).Keeps conditions invariant request id (fun _ _ => True) later) :
    (program >>= next).Keeps conditions invariant request id (fun _ _ => True) shared :=
  Request.Meets.bind (fun _ => Store.intentsKept_refl _) first holds onward fun _ _ _ => trivial

theorem keeps_resolveIntentByKey (idempotencyKey : Option String) :
    (resolveIntentByKey idempotencyKey).Keeps conditions invariant request id KnowsResolved
      shared := by
  rw [resolveIntentByKey]
  cases orText idempotencyKey none with
  | none =>
    refine (meets_pure _).mpr ?_
    intro later _ _
    exact knowsResolved_none
  | some key =>
    refine (meets_read_bind _ _ _).mpr ?_
    intro read _ _ _
    refine (meets_pure _).mpr ?_
    intro later kept _
    apply knowsResolved_of_mem kept
    intro intent isFound
    rw [Option.map_map, Option.map_eq_some_iff] at isFound
    rcases isFound with ⟨row, rowFound, rfl⟩
    exact List.mem_of_find?_eq_some rowFound

theorem keeps_resolveIntent (intentId : Option String) (provider : Option PaymentProvider)
    (providerPaymentId idempotencyKey : Option String) :
    (resolveIntent intentId provider providerPaymentId idempotencyKey).Keeps conditions invariant
      request id KnowsResolved shared := by
  rw [resolveIntent]
  cases orText intentId none with
  | some wanted =>
    refine (meets_read _ _).mpr ?_
    intro read _ _ _ later kept _
    apply knowsResolved_of_mem kept
    intro intent isFound
    exact (Table.find?_eq_some_iff.mp isFound).1
  | none =>
    rcases provider with _ | provider
    · exact keeps_resolveIntentByKey idempotencyKey
    · rcases isId : orText providerPaymentId none with _ | providerId
      · simp only [resolveIntentOfProvider, isId]
        exact keeps_resolveIntentByKey idempotencyKey
      · simp only [resolveIntentOfProvider, isId]
        refine (meets_read_bind _ _ _).mpr ?_
        intro read _ _ _
        rcases isFound : read.store.paymentIntentOfProvider provider providerId with _ | row
        · exact keeps_resolveIntentByKey idempotencyKey
        · refine (meets_pure _).mpr ?_
          intro later kept _
          apply knowsResolved_of_mem kept
          rintro intent ⟨rfl⟩
          exact (List.mem_filter.mp (mem_of_newestOf isFound)).1

variable (keeps : ∀ shared id write after, invariant shared → write.Informed shared.store →
  Effect write shared.store after → invariant (shared.commit id write after))
include keeps

theorem keeps_execute (write : Write)
    (informed : ∀ later : Shared Store Write, Store.IntentsKept shared.store later.store →
      write.Informed later.store) :
    (execute write).Keeps conditions invariant request id (fun _ _ => True) shared := by
  refine (meets_commit _ _).mpr ?_
  intro later kept holds
  refine ⟨fun _ _ _ => trivial, ?_⟩
  intro _ after result succeeds
  have effect := Write.effect_of_run succeeds
  exact ⟨effect.intentsKept (informed later kept),
    keeps later id write after holds (informed later kept) effect, fun _ _ _ => trivial⟩

/-- A request that settles nothing keeps the invariant. -/
theorem keeps_of_transacts {α : Type} {program : Commerce α}
    (transacts : program.Transacts fun write => write.kind ≠ .settlement) :
    program.Keeps conditions invariant request id (fun _ _ => True) shared := by
  apply transacts.meets
  intro shared write after result holds notSettlement _ succeeds
  have effect := Write.effect_of_run succeeds
  have informed := Write.informed_of_kind notSettlement shared.store
  exact ⟨effect.intentsKept informed, keeps shared id write after holds informed effect⟩

theorem keeps_applyFinalStatus (call : Call) (input : ApplyFinalStatusInput)
    (holds : invariant shared) :
    (applyFinalStatus call input).Keeps conditions invariant request id (fun _ _ => True)
      shared := by
  apply keeps_bind (keeps_resolveIntent _ _ _ _) holds
  intro found later laterHolds known
  refine meets_ofExcept_bind ?_ fun _ _ _ _ _ => trivial
  intro existing isFound
  refine meets_ofExcept_bind ?_ fun _ _ _ _ _ => trivial
  intro _ _
  have isKnown : later.store.Knows existing := by
    cases found with
    | none => contradiction
    | some intent =>
      obtain rfl := Except.ok.inj isFound
      exact known intent rfl
  exact keeps_execute keeps (.applyFinalStatus existing input call.now)
    fun _ kept => isKnown.kept kept

theorem keeps_reconcilePaymentIntent (call : Call) (intentId : String)
    (dto : ReconcilePaymentIntentDto) :
    (reconcilePaymentIntent call intentId dto).Keeps conditions invariant request id
      (fun _ _ => True) shared := by
  refine (meets_read_bind _ _ _).mpr ?_
  intro read _ readHolds _
  refine meets_ofExcept_bind ?_ fun _ _ _ _ _ => trivial
  intro intent isFound
  refine meets_ofExcept_bind ?_ fun _ _ _ _ _ => trivial
  intro _ _
  refine meets_ofExcept_bind ?_ fun _ _ _ _ _ => trivial
  intro status _
  have isKnown : read.store.Knows intent := by
    rcases stored : read.store.paymentIntents.find? intentId with _ | row
    · rw [stored] at isFound
      contradiction
    · rw [stored] at isFound
      obtain rfl := Except.ok.inj isFound
      exact Store.knows_of_find? stored
  cases requestedStatus status dto.markSettled with
  | final finalStatus =>
    exact keeps_bind (keeps_applyFinalStatus keeps call _ readHolds) readHolds fun _ _ _ _ =>
      keeps_pure _
  | ongoing ongoingStatus =>
    exact keeps_bind
      (keeps_execute keeps (.reconcile intent ongoingStatus _ dto.note) fun _ kept =>
        isKnown.kept kept) readHolds fun _ _ _ _ => keeps_pure _

theorem keeps_processEvent (call : Call) (provider : PaymentProvider)
    (event : Webhooks.NormalizedWebhookEvent) (recordId : String) (holds : invariant shared) :
    (Webhooks.processEvent call provider event recordId).Keeps conditions invariant request id
      (fun _ _ => True) shared := by
  have marks (status : WebhookEventStatus) (paymentIntentId errorMessage : Option String)
      (answer : BillingAnswer) {shared : Shared Store Write} (holds : invariant shared) :
      (do
        let _ ← (execute (.markEventStatus recordId status paymentIntentId errorMessage) :
          Commerce Unit)
        return answer : Commerce BillingAnswer).Keeps conditions invariant request id
          (fun _ _ => True) shared :=
    keeps_bind (keeps_execute keeps (.markEventStatus _ _ _ _) fun _ _ => trivial) holds
      fun _ _ _ _ => keeps_pure _
  rw [Webhooks.processEvent]
  rcases event.status with _ | status
  · exact marks _ _ _ _ holds
  · apply keeps_bind (keeps_resolveIntent _ _ _ _) holds
    rintro (_ | intent) later laterHolds _
    · exact marks _ _ _ _ laterHolds
    · apply keeps_bind (keeps_applyFinalStatus keeps call _ laterHolds) laterHolds
      intro reconciled further furtherHolds _
      exact marks _ _ _ _ furtherHolds

theorem keeps_handleWebhook (runtime : Webhooks.Runtime) (call : Call)
    (delivery : Webhooks.Delivery) :
    (Webhooks.handleWebhook runtime call delivery).Keeps conditions invariant request id
      (fun _ _ => True) shared := by
  refine meets_ofExcept_bind ?_ fun _ _ _ _ _ => trivial
  intro _ _
  refine (meets_read_bind _ _ _).mpr ?_
  intro read _ readHolds _
  rcases Webhooks.Store.webhookEvent read.store delivery.provider _ with _ | record
  · exact keeps_bind
      (keeps_execute keeps (.createWebhookEvent _ _ _ _) fun _ _ => trivial) readHolds
      fun created later laterHolds _ => keeps_processEvent keeps call _ _ _ laterHolds
  · exact keeps_pure _

theorem keeps_program (runtime : Webhooks.Runtime) (holds : invariant shared) :
    (request.program runtime).Keeps conditions invariant request id (fun _ _ => True) shared := by
  have settlesNothing (without : .settlement ∉ request.kinds) :
      (request.program runtime).Keeps conditions invariant request id (fun _ _ => True) shared := by
    apply keeps_of_transacts keeps
    apply (request.transacts_program runtime).imp
    intro write isKind isSettlement
    exact without (isSettlement ▸ isKind)
  cases request with
  | reconcilePaymentIntent call intentId dto => exact keeps_reconcilePaymentIntent keeps call _ dto
  | applyFinalStatus call input =>
    exact keeps_bind (keeps_applyFinalStatus keeps call input holds) holds fun _ _ _ _ =>
      keeps_pure _
  | handleWebhook call delivery => exact keeps_handleWebhook keeps runtime call delivery
  | _ => exact settlesNothing (by simp [BillingRequest.kinds])

end Requests

/-- What transactions preserve that know their intents holds in every run. -/
theorem BillingState.Reachable.informed_invariant {runtime : Webhooks.Runtime}
    {conditions : Conditions Store Query Write BillingRequest} {store : Store}
    (invariant : Shared Store Write → Prop) (initially : invariant (Shared.initial store))
    (keeps : ∀ shared id write after, invariant shared → write.Informed shared.store →
      Effect write shared.store after → invariant (shared.commit id write after))
    {state : BillingState} (reachable : state.Reachable runtime conditions store) :
    invariant state.shared := by
  have meets := ReadCommitted.Reachable.meets Write.guarded invariant
    (fun first second => Store.IntentsKept first.store second.store) (fun _ _ _ _ _ => True)
    (fun _ => Store.intentsKept_refl _) (fun _ _ _ => Store.IntentsKept.trans) initially
    (fun request id shared holds _ => keeps_program keeps runtime holds) reachable
  exact meets.1

/-- `amountMinor` of `createStripePayment`, which every payment intent is created with that has
its amount. -/
def amountMinor (amount : ℚ≥0) : JsNumber :=
  (JsNumber.scale 100 (.finite amount)).round

/-- Of the amounts in minor units that Stripe can echo, in the `amount_total` of a session or the
`amount` of a payment or a charge, the one that it was sent is accepted and no other one,
whatever the currency. -/
theorem assertExpectedAmountAndCurrency_echo_iff (runtime : Webhooks.Runtime)
    (intent : PaymentIntent) {obj : JsRecord} {echoed : Int}
    (isEchoed : obj "amount_total" = .number (.ofInt echoed) ∨
      Webhooks.readNumber runtime obj "amount_total" = none ∧
        obj "amount" = .number (.ofInt echoed)) (currency : Option String) :
    assertExpectedAmountAndCurrency intent
        ((Webhooks.readStripeAmount runtime obj).map .finite) currency = .ok () ↔
      .ofInt echoed = amountMinor intent.amount ∧
        assertExpectedCurrency intent currency = .ok () := by
  have fixed : JsNumber.toFixed 2 ((echoed : ℚ) / 100) = echoed / 100 :=
    JsNumber.toFixed_of_scaled (by ring : (echoed : ℚ) / 100 * 10 ^ 2 = echoed)
  have readsBack : Webhooks.readStripeAmount runtime obj = some ((echoed : ℚ) / 100) := by
    rcases isEchoed with total | ⟨noTotal, amount⟩
    · simp [Webhooks.readStripeAmount, Webhooks.readNumber, total, JsNumber.ofInt, fixed]
    · rw [Webhooks.readStripeAmount, noTotal]
      simp [Webhooks.readNumber, amount, JsNumber.ofInt, fixed]
  have sameAmount : JsNumber.toFixed 2 ((echoed : ℚ) / 100) = JsNumber.toFixed 2 intent.amount ↔
      .ofInt echoed = amountMinor intent.amount := by
    rw [fixed, JsNumber.toFixed,
      if_neg (not_lt.mpr intent.amount.coe_nonneg)]
    norm_num [amountMinor, JsNumber.scale, JsNumber.round, JsNumber.ofInt, div_left_inj']
  rw [readsBack, Option.map_some, assertExpectedAmountAndCurrency, assertExpectedAmount]
  by_cases isSent : JsNumber.ofInt echoed = amountMinor intent.amount
  · rw [if_neg (not_not.mpr (sameAmount.mpr isSent)), and_iff_right isSent]
    rfl
  · rw [if_pos fun same => isSent (sameAmount.mp same)]
    exact iff_of_false (by rintro ⟨⟩) fun ok => isSent ok.1

namespace Sample

def flutterwaveIntent : PaymentIntent :=
  ({ call := call "a", userId := "ada", wallet := ⟨"w", "ada", none, 0, "USD", false, none, none⟩,
     paymentMethodId := none, amount := 10, currency := "USD", idempotencyKey := "key",
     note := none } : WalletTopUp).pendingIntent ⟨.flutterwave, "55", some "FLW-1"⟩

def flutterwaveStore : Store :=
  { store with paymentIntents := ⟨[flutterwaveIntent], by decide⟩ }

def session : JsRecord :=
  JsRecord.empty.with "amount_total" (.number (.ofInt 1000))

def unreferenced : Webhooks.Delivery where
  provider := .flutterwave
  isValidSignature := true
  payload := .object <| JsRecord.empty.with "data" <| .object fun key =>
    match key with
    | "id" => .string "55"
    | "tx_ref" => .string "key"
    | "status" => .string "successful"
    | _ => .undefined
  rawBody := ""

end Sample

open Sample

theorem assertExpectedAmountAndCurrency_echo_session :
    session "amount_total" = .number (.ofInt 1000) ∧
      (assertExpectedAmountAndCurrency flutterwaveIntent
          ((Webhooks.readStripeAmount runtime session).map .finite) none = .ok () ↔
        .ofInt 1000 = amountMinor flutterwaveIntent.amount ∧
          assertExpectedCurrency flutterwaveIntent none = .ok ()) :=
  ⟨rfl, assertExpectedAmountAndCurrency_echo_iff runtime flutterwaveIntent (.inl rfl)
    none⟩

namespace Notification

def lacksPaymentId : Notification → Prop
  | webhook _ event _ => event.providerPaymentId = none
  | reconciliation .. => True

def lacksReference : Notification → Prop
  | webhook _ event _ => event.providerReference = none
  | reconciliation dto _ => dto.providerReference = none

/-- No id that the notification lacks is replaced by `null`. -/
structure KeepsProviderIds (notification : Notification) (before after : PaymentIntent) : Prop where
  paymentId : notification.lacksPaymentId →
    before.providerPaymentId ≠ none → after.providerPaymentId ≠ none
  reference : notification.lacksReference →
    before.providerReference ≠ none → after.providerReference ≠ none

/-- A webhook lacks no id that is stored, and a reconciliation to a final status has read the ids
that are stored. -/
def IsHarmless (read existing before : PaymentIntent) : Notification → Prop
  | webhook _ event _ =>
    (event.providerPaymentId = none → before.providerPaymentId = none) ∧
      (event.providerReference = none → before.providerReference = none)
  | reconciliation dto (.final _) =>
    (read.providerPaymentId = none → before.providerPaymentId = none) ∧
      (dto.providerReference = none → existing.providerReference = none →
        before.providerReference = none)
  | reconciliation _ (.ongoing _) => True

theorem keepsProviderIds_iff_none {notification : Notification} {before after : PaymentIntent} :
    notification.KeepsProviderIds before after ↔
      (notification.lacksPaymentId → after.providerPaymentId = none →
        before.providerPaymentId = none) ∧
      (notification.lacksReference → after.providerReference = none →
        before.providerReference = none) :=
  ⟨fun keeps => ⟨fun lacks => not_imp_not.mp (keeps.paymentId lacks),
      fun lacks => not_imp_not.mp (keeps.reference lacks)⟩,
    fun ⟨paymentId, reference⟩ => ⟨fun lacks => mt (paymentId lacks), fun lacks => mt (reference lacks)⟩⟩

/-- A notification keeps the ids that it lacks exactly if it is harmless. -/
theorem keepsProviderIds_iff {notification : Notification} {read existing : PaymentIntent}
    {now : Int} {store after : Store} {id : String} {before later : PaymentIntent}
    (effect : Effect (notification.write read existing now) store after)
    (concerns : (notification.write read existing now).intentId = some id)
    (stored : Store.paymentIntentTable.find? id store = some before)
    (isLater : Store.paymentIntentTable.find? id after = some later) :
    notification.KeepsProviderIds before later ↔ notification.IsHarmless read existing before := by
  have step := effect.intentStep concerns
  rw [stored, isLater] at step
  rw [keepsProviderIds_iff_none]
  rcases notification with ⟨provider, event, status⟩ | ⟨dto, status | status⟩
  · cases step
    exact and_congr ⟨fun kept lacks => kept lacks lacks, fun harmless _ => harmless⟩
      ⟨fun kept lacks => kept lacks lacks, fun harmless _ => harmless⟩
  · cases step
    refine iff_of_true ⟨fun _ unset => unset, fun lacks => ?_⟩ trivial
    have untouched : nullableOptionalTrimmed dto.providerReference = none :=
      congrArg nullableOptionalTrimmed lacks
    rw [reconcileChange, untouched]
    exact fun unset => unset
  · cases step
    refine and_congr ⟨fun kept => kept trivial, fun harmless _ => harmless⟩
      (forall_congr' fun lacks => ?_)
    have untouched : nullableOptionalTrimmed dto.providerReference = none :=
      congrArg nullableOptionalTrimmed lacks
    rw [finalStatusChange, untouched]
    rfl

end Notification

theorem keepsProviderIds_iff_unreferenced : ∃ notification : Notification, ∃ later,
      notification.KeepsProviderIds flutterwaveIntent later ↔
        notification.IsHarmless flutterwaveIntent flutterwaveIntent
          flutterwaveIntent := by
  let notification : Notification :=
    .webhook .flutterwave (unreferenced.event runtime) .settled
  let write := notification.write flutterwaveIntent flutterwaveIntent 0
  have run : ((write.body.run flutterwaveStore).bind
      fun written => Store.paymentIntentTable.find? "a3" written.1).isSome := by
    decide +kernel
  rcases Option.isSome_iff_exists.mp run with ⟨later, found⟩
  rcases Option.bind_eq_some_iff.mp found with ⟨written, succeeds, isLater⟩
  have effect : Effect write flutterwaveStore written.1 := Write.effect_of_run succeeds
  exact ⟨notification, later, Notification.keepsProviderIds_iff effect rfl rfl isLater⟩

/-- The payment is settled and its reference is lost. -/
theorem unreferenced_clears_providerReference : ∃ before later,
      Store.paymentIntentTable.find? "a3" flutterwaveStore = some before ∧
        Store.paymentIntentTable.find? "a3"
            ((Webhooks.handleWebhook runtime (call "w") unreferenced).alone
              (fun write : Write => write.body.run) flutterwaveStore).1 = some later ∧
          later.status = .final .settled ∧
            ¬ (Notification.webhook .flutterwave (unreferenced.event runtime)
              .settled).KeepsProviderIds before later := by
  have run : (Store.paymentIntentTable.find? "a3"
      ((Webhooks.handleWebhook runtime (call "w") unreferenced).alone
        (fun write : Write => write.body.run) flutterwaveStore).1).map
          (fun intent => (intent.status, intent.providerReference)) =
        some (.final .settled, none) := by
    decide +kernel
  rcases Option.map_eq_some_iff.mp run with ⟨later, isLater, outcome⟩
  obtain ⟨isSettled, cleared⟩ := Prod.mk.inj outcome
  refine ⟨flutterwaveIntent, later, rfl, isLater, isSettled, fun keeps => ?_⟩
  exact keeps.reference rfl (Option.some_ne_none "FLW-1") cleared

end Csms.Billing
