import Csms.Billing.Balances

/-!
# The currency of a wallet

A balance is a number without a currency; the currency is a column next to it.
It may change only while the balance is zero, and what is added or taken must be
meant in it.  Top-ups, transfers, settlements and `ensureWallet` write without
looking at the row they change, so whether a transaction keeps this law depends
on what the wallet is when it commits.
-/

namespace Csms.Billing

open Database

namespace Store

def currencyOf (store : Store) (walletId : String) : Option String :=
  (walletTable.find? walletId store).map Wallet.currency

def intentCurrency (store : Store) (intentId : String) : Option String :=
  (paymentIntentTable.find? intentId store).map PaymentIntent.currency

end Store

/-- The wallets a transaction adds to or takes from, and the currency in which the
amount is meant: that of the top-up or of the payment intent, and for a debit, a
refund and a transfer that of the wallet the request was checked against. -/
def Write.denominations (store : Store) : Write → List (String × Option String)
  | .topUpSettled input => [(input.wallet.id, some input.currency)]
  | .debit input => [(input.wallet.id, some input.wallet.currency)]
  | .refund input => [(input.wallet.id, some input.wallet.currency)]
  | .transfer input =>
    [(input.sourceWallet.id, some input.sourceWallet.currency),
      (input.targetWallet.id, some input.sourceWallet.currency)]
  | .applyFinalStatus existing input now =>
    match creditConcerned existing input now store with
    | some creditTx =>
      if input.status = .settled then [(creditTx.walletId, store.intentCurrency existing.id)]
      else []
    | none => []
  | _ => []

/-- A transaction keeps the currency of wallets that are not empty, and the amounts
it moves are in the currency of their wallets. -/
structure KeepsCurrency (write : Write) (before after : Store) : Prop where
  kept : ∀ wallet ∈ before.wallets.rows, wallet.balance ≠ 0 →
    after.currencyOf wallet.id = some wallet.currency
  denominated : ∀ entry ∈ write.denominations before, after.currencyOf entry.1 = entry.2

/-- What must hold of the wallet rows when the transaction commits. -/
def Write.InCurrency (store : Store) : Write → Prop
  | .updateWalletOwner id _ currency =>
    store.balances id = 0 ∨ store.currencyOf id = some currency
  | .topUpSettled input =>
    store.balances input.wallet.id = 0 ∨ store.currencyOf input.wallet.id = some input.currency
  | write => ∀ entry ∈ write.denominations store, store.currencyOf entry.1 = entry.2

namespace Store

variable {store : Store} {id : String} {wallet : Wallet}

theorem currencyOf_of_mem (member : wallet ∈ store.wallets.rows) :
    store.currencyOf wallet.id = some wallet.currency := by
  have found : walletTable.find? wallet.id store = some wallet :=
    Table.find?_eq_some_iff.mpr ⟨member, rfl⟩
  rw [currencyOf, found, Option.map_some]

theorem currencyOf_update (change : Wallet → Wallet)
    (keeps : ∀ wallet, (change wallet).id = wallet.id)
    (found : walletTable.find? id store = some wallet) (wanted : String) :
    (walletTable.update id change keeps store).currencyOf wanted =
      if wanted = id then some (change wallet).currency else store.currencyOf wanted := by
  rw [currencyOf, Component.find?_update, found]
  by_cases isWallet : wanted = id <;> simp [isWallet, currencyOf]

theorem currencyOf_update_of_same {change : Wallet → Wallet}
    (keeps : ∀ wallet, (change wallet).id = wallet.id)
    (same : ∀ wallet, (change wallet).currency = wallet.currency) :
    (walletTable.update id change keeps store).currencyOf = store.currencyOf := by
  funext wanted
  rw [currencyOf, Component.find?_update, currencyOf]
  by_cases isWallet : wanted = id
  · subst isWallet
    rcases walletTable.find? wanted store with _ | wallet <;> simp [same]
  · rw [if_neg isWallet]

theorem currencyOf_post (amount : ℚ) : (store.post id amount).currencyOf = store.currencyOf :=
  currencyOf_update_of_same _ fun _ => by exact rfl

theorem currencyOf_setLock (isLocked : Bool) (lockReason : Option String) (lockedAt : Option Int) :
    (store.setLock id isLocked lockReason lockedAt).currencyOf = store.currencyOf :=
  currencyOf_update_of_same _ fun _ => by exact rfl

end Store

section Exact

variable {write : Write} {store after : Store}

/-- Where no currency changes, the amounts decide. -/
theorem keepsCurrency_iff_of_same (same : after.currencyOf = store.currencyOf) :
    KeepsCurrency write store after ↔
      ∀ entry ∈ write.denominations store, store.currencyOf entry.1 = entry.2 := by
  constructor
  · intro keeps entry member
    rw [← same]
    exact keeps.denominated entry member
  · intro denominated
    constructor
    · intro wallet member _
      rw [same, Store.currencyOf_of_mem member]
    · intro entry member
      rw [same]
      exact denominated entry member

/-- Where one wallet gets another currency, its balance decides. -/
theorem kept_update_iff {id : String} {wallet : Wallet} (change : Wallet → Wallet)
    (keeps : ∀ wallet, (change wallet).id = wallet.id)
    (found : Store.walletTable.find? id store = some wallet) :
    (∀ other ∈ store.wallets.rows, other.balance ≠ 0 →
      (Store.walletTable.update id change keeps store).currencyOf other.id = some other.currency) ↔
      (store.balances id = 0 ∨ store.currencyOf id = some (change wallet).currency) := by
  obtain ⟨member, rfl⟩ := Store.mem_of_find? found
  rw [Store.balances_of_mem member, Store.currencyOf_of_mem member, Option.some.injEq]
  constructor
  · intro kept
    rw [or_iff_not_imp_left]
    intro notEmpty
    have here := kept wallet member notEmpty
    rw [Store.currencyOf_update change keeps found, if_pos rfl, Option.some.injEq] at here
    exact here.symm
  · intro condition other otherMem notEmpty
    rw [Store.currencyOf_update change keeps found]
    by_cases isWallet : other.id = wallet.id
    · have equal := store.wallets.eq_of_key_eq otherMem member isWallet
      subst equal
      rw [if_pos rfl, Option.some.injEq]
      exact (condition.resolve_left notEmpty).symm
    · rw [if_neg isWallet, Store.currencyOf_of_mem otherMem]

/-- A transaction keeps the law exactly when the wallets it finds allow it. -/
theorem Effect.keepsCurrency_iff (effect : Effect write store after) :
    KeepsCurrency write store after ↔ write.InCurrency store := by
  cases effect with
  | createWallet id userId organizationId currency store free _ =>
    refine iff_of_true ⟨?_, ?_⟩ ?_
    · intro wallet member _
      have found : Store.walletTable.find? wallet.id store = some wallet :=
        Table.find?_eq_some_iff.mpr ⟨member, rfl⟩
      rw [Store.currencyOf, Component.find?_insert, found]
      rfl
    · intro entry member
      contradiction
    · intro entry member
      contradiction
  | updateWalletOwner id organizationId currency wallet store found =>
    have kept := kept_update_iff (fun wallet => { wallet with organizationId, currency })
      (fun _ => rfl) found
    constructor
    · intro keeps
      exact kept.mp keeps.kept
    · intro condition
      refine ⟨kept.mpr condition, ?_⟩
      intro entry member
      contradiction
  | lockWallet | unlockWallet =>
    exact keepsCurrency_iff_of_same (Store.currencyOf_setLock _ _ _)
  | topUpSettled input wallet store _ _ found _ =>
    have kept := kept_update_iff
      (fun wallet =>
        { wallet with balance := wallet.balance + input.amount, currency := input.currency })
      (fun _ => rfl) found
    constructor
    · intro keeps
      exact kept.mp keeps.kept
    · intro condition
      refine ⟨kept.mpr condition, ?_⟩
      intro entry member
      obtain rfl := List.mem_singleton.mp member
      have denominated := Store.currencyOf_update
        (fun wallet =>
          { wallet with balance := wallet.balance + input.amount, currency := input.currency })
        (fun _ => rfl) found input.wallet.id
      rw [if_pos rfl] at denominated
      exact denominated
  | topUpPending | finalStatus => exact keepsCurrency_iff_of_same rfl
  | debit | refund => exact keepsCurrency_iff_of_same (Store.currencyOf_post _)
  | transfer input source target store sourceFound targetFound _ _ =>
    exact keepsCurrency_iff_of_same
      ((Store.currencyOf_post _).trans (Store.currencyOf_post (-(input.amount : ℚ))))
  | settled existing input now intent creditTx wallet store found credit isSettled walletFound =>
    exact keepsCurrency_iff_of_same (Store.currencyOf_post _)
  | markedAsFailed | reconcile | createWebhookEvent | markEventStatus =>
    exact keepsCurrency_iff_of_same rfl

end Exact

/-- Over every run, the transactions keep the currency law exactly when each one
finds its wallets empty or in the right currency. -/
theorem keepsCurrency_iff_inCurrency (runtime : Webhooks.Runtime)
    (conditions : Conditions Store Query Write BillingRequest) (store : Store)
    {state : BillingState} (reachable : state.Reachable runtime conditions store) :
    (∀ commit ∈ state.shared.commits, KeepsCurrency commit.label commit.before commit.after) ↔
      ∀ commit ∈ state.shared.commits, commit.label.InCurrency commit.before := by
  apply forall₂_congr
  intro commit member
  rcases reachable.commit_run Write.guarded commit member with ⟨result, succeeds⟩
  exact (Write.effect_of_run succeeds).keepsCurrency_iff

namespace Sample

def topUpInEuros : BillingRequest :=
  .topUp (call "b") "ada" ⟨.finite 5, some "EUR", none, none, none⟩ (.error .internal)

def dollarsAndEuros : List (DatabaseEvent BillingRequest) :=
  toppedUp 0 "a" "ada" 10 ++
    [.arrive topUpInEuros, .query 1, .query 1, .query 1, .begin 1, .statement 1, .statement 1,
      .statement 1, .commit 1]

def lastTransition (state : BillingState) : List (List (ℚ × String)) :=
  (state.shared.commits.getLast?.map fun commit =>
    [commit.before, commit.after].map fun store =>
      store.wallets.rows.map fun wallet => (wallet.balance, wallet.currency)).getD []

end Sample

open Sample

theorem keepsCurrency_iff_inCurrency_topUp :
    ∃ state : BillingState, state.shared.commits.length = 2 ∧
      ((∀ commit ∈ state.shared.commits, KeepsCurrency commit.label commit.before commit.after) ↔
        ∀ commit ∈ state.shared.commits, commit.label.InCurrency commit.before) := by
  have run : (after (toppedUp 0 "a" "ada" 10)).map
      (fun state => state.shared.commits.length) = some 2 := by
    decide +kernel
  rcases Option.map_eq_some_iff.mp run with ⟨state, reached, commits⟩
  exact ⟨state, commits, keepsCurrency_iff_inCurrency runtime Conditions.none store
    (Transition.reachable_of_foldlM reached)⟩

/-- Ten dollars become fifteen euros. -/
theorem topUp_overwrites_currency :
    ∃ state : BillingState, state.Reachable runtime Conditions.none store ∧
      lastTransition state = [[(10, "USD")], [(15, "EUR")]] := by
  have run : (after dollarsAndEuros).map lastTransition =
      some [[(10, "USD")], [(15, "EUR")]] := by
    decide +kernel
  rcases Option.map_eq_some_iff.mp run with ⟨state, reached, transition⟩
  exact ⟨state, Transition.reachable_of_foldlM reached, transition⟩

end Csms.Billing
