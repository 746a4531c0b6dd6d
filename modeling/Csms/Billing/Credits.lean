import Csms.Billing.Balances

/-!
# The credit of a payment intent

A top-up writes one transaction for its payment intent, posted at once or left
for settlement, and settlement posts it or marks it as failed.  This file
follows that one transaction: each database transaction takes one step of its
life, only the step that posts it moves a balance, and a posted one stays.
-/

namespace Csms.Billing

open Database Js

/-- The payment intent that a transaction creates or updates. -/
def Write.intentId : Write → Option String
  | .topUpSettled input => some input.call.paymentIntentId
  | .topUpPending input _ => some input.call.paymentIntentId
  | .applyFinalStatus existing _ _ => some existing.id
  | .reconcile existing _ _ _ => some existing.id
  | _ => none

/-- What a database transaction may do to the transactions of an intent, and what it
adds to the balances. -/
inductive CreditStep : List Transaction → List Transaction → (String → ℚ) → Prop
  | idle (credits : List Transaction) : CreditStep credits credits 0
  | create (credit : Transaction) :
      credit.type = .credit → credit.status ≠ .posted → CreditStep [] [credit] 0
  | createPosted (credit : Transaction) :
      credit.type = .credit → credit.status = .posted →
      CreditStep [] [credit] (Pi.single credit.walletId (credit.amount : ℚ))
  | post (credit : Transaction) (reconciliationState : ReconciliationState)
      (reference : Option String) :
      credit.type = .credit → credit.status ≠ .posted →
      CreditStep [credit] [{ credit with status := .posted, reconciliationState, reference }]
        (Pi.single credit.walletId (credit.amount : ℚ))
  | fail (credit : Transaction) (reconciliationState : ReconciliationState)
      (reference : Option String) :
      credit.type = .credit → credit.status ≠ .posted →
      CreditStep [credit] [{ credit with status := .failed, reconciliationState, reference }] 0

/-- What a database transaction may do to the payment intent it is about. -/
inductive IntentStep : Write → Option PaymentIntent → Option PaymentIntent → Prop
  | topUpSettled (input : WalletTopUp) :
      IntentStep (.topUpSettled input) none (some input.settledIntent)
  | topUpPending (input : WalletTopUp) (orchestration : PaymentSession) :
      IntentStep (.topUpPending input orchestration) none
        (some (input.pendingIntent orchestration))
  | applyFinalStatus (existing : PaymentIntent) (input : ApplyFinalStatusInput) (now : Int)
      (intent : PaymentIntent) :
      IntentStep (.applyFinalStatus existing input now) (some intent)
        (some (finalStatusChange existing input now intent))
  | reconcile (existing : PaymentIntent) (status : PaymentIntentOngoingStatus)
      (providerReference : Option (Option String)) (note : Option String)
      (intent : PaymentIntent) :
      IntentStep (.reconcile existing status providerReference note) (some intent)
        (some (reconcileChange existing status providerReference note intent))

theorem IntentStep.exists_intent {write : Write} {before after : Option PaymentIntent}
    (step : IntentStep write before after) : ∃ intent, after = some intent := by
  cases step <;> exact ⟨_, rfl⟩

/-- An intent has one transaction at most, and transactions are of intents that
are there. -/
structure Store.CreditsSound (store : Store) : Prop where
  atMostOne : ∀ intentId, (store.transactionsOf intentId).length ≤ 1
  ofIntent : ∀ intentId, paymentIntentTable.find? intentId store = none →
    store.transactionsOf intentId = []

variable {credit : Transaction}

namespace Store

variable {store : Store} {intentId : String}

theorem CreditsSound.eq_singleton (sound : store.CreditsSound)
    (member : credit ∈ store.transactions.rows) (ofIntent : credit.paymentIntentId = some intentId) :
    store.transactionsOf intentId = [credit] := by
  have isOne : credit ∈ store.transactionsOf intentId :=
    List.mem_filter.mpr ⟨member, decide_eq_true ofIntent⟩
  rcases List.length_eq_one_iff.mp
    ((sound.atMostOne intentId).antisymm (List.length_pos_of_mem isOne)) with ⟨only, rows⟩
  rw [rows, List.mem_singleton] at isOne
  rw [rows, isOne]

theorem transactionsOf_insert_of_ne {row : Transaction}
    (other : row.paymentIntentId ≠ some intentId) :
    transactionsOf (transactionTable.insert row store) intentId = store.transactionsOf intentId := by
  rw [transactionsOf_insert, decide_eq_false other, Bool.and_false, if_neg Bool.false_ne_true,
    List.append_nil]

theorem transactionsOf_insert_first {row : Transaction} (isFirst : store.transactionsOf intentId = [])
    (free : transactionTable.find? row.id store = none)
    (ofIntent : row.paymentIntentId = some intentId) :
    transactionsOf (transactionTable.insert row store) intentId = [row] := by
  rw [transactionsOf_insert, free, decide_eq_true ofIntent, isFirst]
  rfl

theorem transactionsOf_setStatus (status : TransactionStatus)
    (reconciliationState : ReconciliationState) (reference : Option String)
    (rows : store.transactionsOf intentId = [credit])
    (ofIntent : credit.paymentIntentId = some intentId) :
    (store.setStatus intentId credit.id status reconciliationState reference).transactionsOf
        intentId = [{ credit with status, reconciliationState, reference }] := by
  have changed := transactionsOf_update credit.id store
    (id_statusChange intentId status reconciliationState reference)
    (paymentIntentId_statusChange intentId status reconciliationState reference) intentId
  rw [rows, List.map_singleton, if_pos rfl, statusChange, if_pos ofIntent] at changed
  exact changed

theorem intent_insert {row : PaymentIntent} (free : paymentIntentTable.find? row.id store = none) :
    paymentIntentTable.find? row.id (paymentIntentTable.insert row store) = some row := by
  rw [Component.find?_insert, free, Option.none_or, if_pos rfl]

theorem intent_insert_of_ne {row : PaymentIntent} (other : some row.id ≠ some intentId) :
    paymentIntentTable.find? intentId (paymentIntentTable.insert row store) =
      paymentIntentTable.find? intentId store := by
  have isOther : row.id ≠ intentId := fun same => other (congrArg some same)
  rw [Component.find?_insert, if_neg isOther, Option.or_none]

section Change

variable {id : String} {change : PaymentIntent → PaymentIntent}
  (keeps : ∀ intent, (change intent).id = intent.id)

theorem intent_change {intent : PaymentIntent}
    (found : paymentIntentTable.find? id store = some intent) :
    paymentIntentTable.find? id (store.changeIntent id change keeps) = some (change intent) := by
  rw [changeIntent, Component.find?_update, if_pos rfl, found, Option.map_some]

theorem intent_change_of_ne (other : some id ≠ some intentId) :
    paymentIntentTable.find? intentId (store.changeIntent id change keeps) =
      paymentIntentTable.find? intentId store := by
  have isOther : intentId ≠ id := fun same => other (congrArg some same.symm)
  rw [changeIntent, Component.find?_update, if_neg isOther]

end Change

end Store

section Effects

variable {write : Write} {store after : Store} {intentId : String}

section

variable (effect : Effect write store after)
include effect

theorem Effect.transactionsOf_of_ne (other : write.intentId ≠ some intentId) :
    after.transactionsOf intentId = store.transactionsOf intentId := by
  have ofNone : (none : Option String) ≠ some intentId := Option.some_ne_none intentId |>.symm
  cases effect with
  | topUpSettled | topUpPending => exact Store.transactionsOf_insert_of_ne other
  | debit | refund => exact Store.transactionsOf_insert_of_ne ofNone
  | transfer input source target store _ _ _ _ =>
    exact (Store.transactionsOf_insert_of_ne ofNone).trans
      (Store.transactionsOf_insert_of_ne ofNone)
  | settled | markedAsFailed =>
    exact Store.transactionsOf_statusChange_of_ne _ _ _ _ _ fun same => other (same ▸ rfl)
  | _ => rfl

theorem Effect.creditStep (sound : store.CreditsSound) (concerns : write.intentId = some intentId) :
    CreditStep (store.transactionsOf intentId) (after.transactionsOf intentId)
      (write.moved store) := by
  cases effect with
  | topUpSettled input wallet store intentFree _ _ free =>
    obtain rfl := Option.some.inj concerns
    have before := sound.ofIntent input.call.paymentIntentId intentFree
    have rows : Store.transactionsOf _ input.call.paymentIntentId = [input.settledCredit] :=
      Store.transactionsOf_insert_first before free rfl
    rw [before]
    exact rows ▸ .createPosted input.settledCredit rfl rfl
  | topUpPending input orchestration store intentFree _ free =>
    obtain rfl := Option.some.inj concerns
    have before := sound.ofIntent input.call.paymentIntentId intentFree
    have rows : Store.transactionsOf _ input.call.paymentIntentId = [input.pendingCredit] :=
      Store.transactionsOf_insert_first before free rfl
    rw [before]
    exact rows ▸ .create input.pendingCredit rfl nofun
  | finalStatus existing input now intent store found noCredit =>
    rw [moved_of_noCredit found noCredit]
    exact .idle _
  | settled existing input now intent creditTx wallet store found credit isSettled _ =>
    obtain rfl := Option.some.inj concerns
    obtain ⟨member, ofIntent, isCredit, notPosted⟩ :=
      of_openCredit_finalStatusChange found credit
    have rows := sound.eq_singleton member ofIntent
    rw [moved_of_settled found credit isSettled, rows]
    have changed := Store.transactionsOf_setStatus .posted .reconciled
      (orText creditTx.reference (some s!"TOPUP_SETTLED_{now}")) rows ofIntent
    exact changed ▸ .post creditTx .reconciled _ isCredit notPosted
  | markedAsFailed existing input now intent creditTx store found credit notSettled =>
    obtain rfl := Option.some.inj concerns
    obtain ⟨member, ofIntent, isCredit, notPosted⟩ :=
      of_openCredit_finalStatusChange found credit
    have rows := sound.eq_singleton member ofIntent
    rw [moved_of_failed found credit notSettled, rows]
    have changed := Store.transactionsOf_setStatus .failed .disputed creditTx.reference rows
      ofIntent
    exact changed ▸ .fail creditTx .disputed _ isCredit notPosted
  | reconcile existing status providerReference note intent store found => exact .idle _
  | _ => contradiction

theorem Effect.intent_of_ne (other : write.intentId ≠ some intentId) :
    Store.paymentIntentTable.find? intentId after =
      Store.paymentIntentTable.find? intentId store := by
  cases effect with
  | topUpSettled | topUpPending => exact Store.intent_insert_of_ne other
  | finalStatus existing input now intent store _ _ => exact Store.intent_change_of_ne _ other
  | settled existing input now | markedAsFailed existing input now =>
    exact Store.intent_change_of_ne (id_finalStatusChange existing input now) other
  | reconcile existing status providerReference note intent store _ =>
    exact Store.intent_change_of_ne _ other
  | _ => rfl

theorem Effect.intentStep (concerns : write.intentId = some intentId) :
    IntentStep write (Store.paymentIntentTable.find? intentId store)
      (Store.paymentIntentTable.find? intentId after) := by
  cases effect with
  | topUpSettled input wallet store free _ _ _ =>
    obtain rfl := Option.some.inj concerns
    have created : Store.paymentIntentTable.find? input.call.paymentIntentId _ =
        some input.settledIntent := Store.intent_insert free
    have wasFree : Store.paymentIntentTable.find? input.call.paymentIntentId store = none := free
    rw [wasFree]
    exact created ▸ .topUpSettled input
  | topUpPending input orchestration store free _ _ =>
    obtain rfl := Option.some.inj concerns
    have created : Store.paymentIntentTable.find? input.call.paymentIntentId _ =
        some (input.pendingIntent orchestration) := Store.intent_insert free
    have wasFree : Store.paymentIntentTable.find? input.call.paymentIntentId store = none := free
    rw [wasFree]
    exact created ▸ .topUpPending input orchestration
  | finalStatus existing input now intent store found _ =>
    obtain rfl := Option.some.inj concerns
    have changed := Store.intent_change (id_finalStatusChange existing input now) found
    rw [found, changed]
    exact .applyFinalStatus existing input now intent
  | settled existing input now intent _ _ _ found
  | markedAsFailed existing input now intent _ _ found =>
    obtain rfl := Option.some.inj concerns
    have changed := Store.intent_change (id_finalStatusChange existing input now) found
    rw [found]
    exact changed ▸ .applyFinalStatus existing input now intent
  | reconcile existing status providerReference note intent store found =>
    obtain rfl := Option.some.inj concerns
    have changed := Store.intent_change
      (id_reconcileChange existing status providerReference note) found
    rw [found, changed]
    exact .reconcile existing status providerReference note intent
  | _ => contradiction

theorem Effect.of_intentFree (free : Store.paymentIntentTable.find? intentId after = none) :
    Store.paymentIntentTable.find? intentId store = none ∧ write.intentId ≠ some intentId := by
  have unconcerned : write.intentId ≠ some intentId := by
    intro concerns
    rcases (effect.intentStep concerns).exists_intent with ⟨intent, isThere⟩
    rw [isThere] at free
    contradiction
  exact ⟨effect.intent_of_ne unconcerned ▸ free, unconcerned⟩

end

variable {moved : String → ℚ}

theorem CreditStep.length_le_one {before after : List Transaction}
    (step : CreditStep before after moved) (atMostOne : before.length ≤ 1) : after.length ≤ 1 := by
  cases step with
  | idle => exact atMostOne
  | _ => exact le_rfl

theorem Effect.creditsSound (effect : Effect write store after) (sound : store.CreditsSound) :
    after.CreditsSound := by
  constructor
  · intro intentId
    by_cases concerns : write.intentId = some intentId
    · exact (effect.creditStep sound concerns).length_le_one (sound.atMostOne intentId)
    · rw [effect.transactionsOf_of_ne concerns]
      exact sound.atMostOne intentId
  · intro intentId free
    rcases effect.of_intentFree free with ⟨wasFree, unconcerned⟩
    rw [effect.transactionsOf_of_ne unconcerned]
    exact sound.ofIntent intentId wasFree

theorem CreditStep.of_posted {rows : List Transaction} (step : CreditStep [credit] rows moved)
    (isPosted : credit.status = .posted) : rows = [credit] ∧ moved = 0 := by
  cases step with
  | idle => exact ⟨rfl, rfl⟩
  | post _ _ _ _ notPosted | fail _ _ _ _ notPosted => exact absurd isPosted notPosted

theorem CreditStep.posted_of_moved {before rows : List Transaction}
    (step : CreditStep before rows moved) (moves : moved ≠ 0) :
    ∃ credit, rows = [credit] ∧ credit.type = .credit ∧ credit.status = .posted ∧
      moved = Pi.single credit.walletId (credit.amount : ℚ) ∧
        (before ≠ [] → ∃ pending, before = [pending] ∧ pending.type = .credit ∧
          pending.status ≠ .posted ∧ pending.walletId = credit.walletId ∧
            pending.amount = credit.amount) := by
  cases step with
  | idle | create | fail => exact absurd rfl moves
  | createPosted credit isCredit isPosted =>
    exact ⟨credit, rfl, isCredit, isPosted, rfl, fun nonempty => absurd rfl nonempty⟩
  | post credit reconciliationState reference isCredit notPosted =>
    exact ⟨_, rfl, isCredit, rfl, rfl, fun _ => ⟨credit, rfl, isCredit, notPosted, rfl, rfl⟩⟩

/-- Only a top-up without orchestration credits an intent that has no transaction. -/
theorem Effect.credit_there (effect : Effect write store after)
    (concerns : write.intentId = some intentId) (moves : write.moved store ≠ 0) :
    (∃ input, write = .topUpSettled input) ∨ store.transactionsOf intentId ≠ [] := by
  cases effect with
  | topUpSettled input wallet store _ _ _ _ => exact Or.inl ⟨input, rfl⟩
  | settled existing input now intent creditTx wallet store found credit _ _ =>
    obtain rfl := Option.some.inj concerns
    obtain ⟨member, ofIntent, -, -⟩ := of_openCredit_finalStatusChange found credit
    exact Or.inr (List.ne_nil_of_mem (List.mem_filter.mpr ⟨member, decide_eq_true ofIntent⟩))
  | finalStatus existing input now intent store found noCredit =>
    exact absurd (moved_of_noCredit found noCredit) moves
  | markedAsFailed existing input now intent creditTx store found credit notSettled =>
    exact absurd (moved_of_failed found credit notSettled) moves
  | topUpPending | reconcile => exact absurd rfl moves
  | _ => contradiction

end Effects

/-- The commit is about the intent and changes a balance. -/
def CreditsFor (intentId : String) (commit : Commit Store Write) : Prop :=
  commit.label.intentId = some intentId ∧ commit.after.balances ≠ commit.before.balances

/-- The commit posts the credit of the intent, which was there unless this is a top-up
without orchestration, and adds its amount to its wallet and nothing else. -/
def PostsCredit (intentId : String) (commit : Commit Store Write) : Prop :=
  ∃ credit, commit.after.transactionsOf intentId = [credit] ∧ credit.type = .credit ∧
    credit.status = .posted ∧
    commit.after.balances =
      commit.before.balances + Pi.single credit.walletId (credit.amount : ℚ) ∧
    ((∃ input, commit.label = .topUpSettled input) ∨
      ∃ pending, commit.before.transactionsOf intentId = [pending] ∧ pending.type = .credit ∧
        pending.status ≠ .posted ∧ pending.walletId = credit.walletId ∧
          pending.amount = credit.amount)

/-- At most one commit credits the intent, and by the amount of its credit. -/
structure CreditedOnce (commits : List (Commit Store Write)) (intentId : String) : Prop where
  once : commits.Pairwise fun first second =>
    ¬ (CreditsFor intentId first ∧ CreditsFor intentId second)
  exact : ∀ commit ∈ commits, CreditsFor intentId commit → PostsCredit intentId commit

/-- What every run keeps: once a commit has credited an intent, its credit is posted. -/
structure CreditHistory (intentId : String) (shared : Shared Store Write) : Prop where
  sound : shared.store.CreditsSound
  credited : CreditedOnce shared.commits intentId
  posted : ∀ commit ∈ shared.commits, CreditsFor intentId commit →
    ∃ credit, shared.store.transactionsOf intentId = [credit] ∧ credit.status = .posted

section Step

variable {intentId : String} {shared : Shared Store Write} {session : Nat} {write : Write}
  {after : Store}

/-- A posted credit outlives the next commit. -/
theorem Effect.posted_stays {store : Store} (effect : Effect write store after)
    (sound : store.CreditsSound) (rows : store.transactionsOf intentId = [credit])
    (isPosted : credit.status = .posted) : after.transactionsOf intentId = [credit] := by
  by_cases concerns : write.intentId = some intentId
  · have step := effect.creditStep sound concerns
    rw [rows] at step
    exact (step.of_posted isPosted).1
  · rw [effect.transactionsOf_of_ne concerns, rows]

theorem Effect.not_creditsFor (effect : Effect write shared.store after)
    (sound : shared.store.CreditsSound) (rows : shared.store.transactionsOf intentId = [credit])
    (isPosted : credit.status = .posted) :
    ¬ CreditsFor intentId ⟨session, write, shared.store, after⟩ := by
  rintro ⟨concerns, changes⟩
  have step := effect.creditStep sound concerns
  rw [rows] at step
  apply changes
  rw [effect.balances, (step.of_posted isPosted).2, add_zero]

theorem Effect.postsCredit (effect : Effect write shared.store after)
    (sound : shared.store.CreditsSound)
    (credits : CreditsFor intentId ⟨session, write, shared.store, after⟩) :
    PostsCredit intentId ⟨session, write, shared.store, after⟩ := by
  rcases credits with ⟨concerns, changes⟩
  have moves : write.moved shared.store ≠ 0 := by
    intro nothing
    apply changes
    rw [effect.balances, nothing, add_zero]
  rcases (effect.creditStep sound concerns).posted_of_moved moves with
    ⟨credit, rows, isCredit, isPosted, moved, pending⟩
  refine ⟨credit, rows, isCredit, isPosted, ?_, ?_⟩
  · rw [← moved]
    exact effect.balances
  · exact (effect.credit_there concerns moves).imp_right pending

theorem CreditHistory.commit (history : CreditHistory intentId shared)
    (effect : Effect write shared.store after) :
    CreditHistory intentId (shared.commit session write after) := by
  rcases history with ⟨sound, ⟨once, exact⟩, posted⟩
  refine ⟨effect.creditsSound sound, ⟨?_, ?_⟩, ?_⟩
  · rw [Shared.commits_commit, List.pairwise_append]
    refine ⟨once, List.pairwise_singleton _ _, ?_⟩
    rintro earlier isEarlier latest isLatest ⟨earlierCredits, latestCredits⟩
    obtain rfl := List.mem_singleton.mp isLatest
    rcases posted earlier isEarlier earlierCredits with ⟨credit, rows, isPosted⟩
    exact effect.not_creditsFor sound rows isPosted latestCredits
  · rw [Shared.commits_commit, List.forall_mem_append, List.forall_mem_singleton]
    exact ⟨exact, effect.postsCredit sound⟩
  · rw [Shared.commits_commit, List.forall_mem_append, List.forall_mem_singleton]
    constructor
    · intro earlier isEarlier earlierCredits
      rcases posted earlier isEarlier earlierCredits with ⟨credit, rows, isPosted⟩
      exact ⟨credit, effect.posted_stays sound rows isPosted, isPosted⟩
    · intro credits
      rcases effect.postsCredit sound credits with ⟨credit, rows, -, isPosted, -⟩
      exact ⟨credit, rows, isPosted⟩

end Step

/-- However webhooks, reconciliations, status updates and other requests interleave, a
payment intent is credited at most once, with the amount of its credit. -/
theorem credited_once (runtime : Webhooks.Runtime)
    (conditions : Conditions Store Query Write BillingRequest) {store : Store}
    (initially : store.CreditsSound) {state : BillingState}
    (reachable : state.Reachable runtime conditions store) (intentId : String) :
    CreditedOnce state.shared.commits intentId := by
  have history : CreditHistory intentId state.shared := by
    apply ReadCommitted.Reachable.shared_invariant Write.guarded (CreditHistory intentId) _ _
      reachable
    · refine ⟨initially, ⟨List.Pairwise.nil, ?_⟩, ?_⟩
      · exact List.forall_mem_nil _
      · exact List.forall_mem_nil _
    · intro shared session write after result before succeeds
      exact before.commit (Write.effect_of_run succeeds)
  exact history.credited

theorem creditsSound_opening (users : Table User User.id)
    (paymentMethods : Table PaymentMethod PaymentMethod.id) :
    (Store.opening users paymentMethods).CreditsSound :=
  ⟨fun _ => Nat.zero_le 1, fun _ _ => rfl⟩

namespace Sample

def orchestrated (name userId : String) (amount : ℚ) : BillingRequest :=
  .topUp { call name with paymentOrchestrationEnabled := some "true" } userId
    ⟨.finite amount, none, none, none, none⟩ (.ok ⟨.stripe, "pi_1", none⟩)

def pendingTopUp (id : Nat) : List (DatabaseEvent BillingRequest) :=
  [.arrive (orchestrated "a" "ada" 10), .query id, .query id, .begin id, .statement id, .commit id,
    .query id, .query id, .begin id, .statement id, .statement id, .commit id]

def finalStatus (name : String) (status : PaymentIntentFinalStatus) : BillingRequest :=
  .applyFinalStatus (call name) ⟨some "a3", none, none, none, status, none, none, none, none⟩

def settledTwice : List (DatabaseEvent BillingRequest) :=
  pendingTopUp 0 ++
    [.arrive (finalStatus "b" .settled), .arrive (finalStatus "c" .settled), .query 1, .query 2,
      .begin 1, .statement 1, .statement 1, .statement 1, .statement 1, .commit 1,
      .begin 2, .statement 2, .statement 2, .commit 2]

end Sample

/-- Two settlements credit ten once. -/
theorem credited_once_settledTwice :
    ∃ state : BillingState, state.shared.store.wallets.rows.map Wallet.balance = [10] ∧
      state.shared.commits.length = 4 ∧ CreditedOnce state.shared.commits "a3" := by
  have run : (Sample.after Sample.settledTwice).map
      (fun state => (state.shared.store.wallets.rows.map Wallet.balance,
        state.shared.commits.length)) = some ([10], 4) := by
    decide +kernel
  rcases Option.map_eq_some_iff.mp run with ⟨state, reached, outcome⟩
  obtain ⟨balances, commits⟩ := Prod.mk.inj outcome
  exact ⟨state, balances, commits, credited_once Sample.runtime Conditions.none
    (creditsSound_opening Sample.users Table.empty) (Transition.reachable_of_foldlM reached) "a3"⟩

end Csms.Billing
