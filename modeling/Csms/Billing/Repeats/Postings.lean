import Csms.Billing.Balances
import Csms.Billing.Kinds

/-!
# What was posted under a key

A debit, a refund and a transfer post transactions under an idempotency key of the
caller.  No unique index stands behind the key: the history of commits says what was
posted under it.  This file has what every transaction keeps for that history: wallets
stay the wallets of their users, and what was posted stays in the ledger.
-/

namespace Csms.Billing

open Database

inductive PostingKind where
  | debit
  | refund
  | transfer
  deriving DecidableEq

/-- Under what a request posts: a user has one wallet. -/
structure PostingKey where
  kind : PostingKind
  (userId idempotencyKey : String)
  deriving DecidableEq

/-- What a transaction of the database posts, with the ids its request answers. -/
structure Posting where
  key : PostingKey
  walletId : String
  transactionIds : List String

def Write.posting : Write → Option Posting
  | .debit input =>
    some ⟨⟨.debit, input.wallet.userId, input.idempotencyKey⟩, input.wallet.id,
      [input.debitTransaction.id]⟩
  | .refund input =>
    some ⟨⟨.refund, input.wallet.userId, input.idempotencyKey⟩, input.wallet.id,
      [input.refundTransaction.id]⟩
  | .transfer input =>
    some ⟨⟨.transfer, input.sourceWallet.userId, input.idempotencyKey⟩, input.sourceWallet.id,
      [input.debitTransaction.id, input.creditTransaction.id]⟩
  | _ => none

def IsPosted (key : PostingKey) (commits : List (Commit Store Write)) : Bool :=
  commits.any fun commit => commit.label.posting.any fun posting => posting.key = key

def IsPostedAs (key : PostingKey) (transactionIds : List String)
    (commits : List (Commit Store Write)) : Bool :=
  commits.any fun commit => commit.label.posting.any fun posting =>
    posting.key = key && posting.transactionIds = transactionIds

section Histories

variable {key : PostingKey} {transactionIds : List String} {commits more : List (Commit Store Write)}

theorem isPosted_iff : IsPosted key commits = true ↔
      ∃ commit ∈ commits, ∃ posting, commit.label.posting = some posting ∧ posting.key = key := by
  simp [IsPosted, Option.any_eq_true]

theorem isPostedAs_iff : IsPostedAs key transactionIds commits = true ↔
      ∃ commit ∈ commits, ∃ posting, commit.label.posting = some posting ∧ posting.key = key ∧
        posting.transactionIds = transactionIds := by
  simp [IsPostedAs, Option.any_eq_true]

theorem isPosted_mono (included : commits ⊆ more) (posted : IsPosted key commits = true) :
    IsPosted key more = true := by
  obtain ⟨commit, member, posting, isPosting, isKey⟩ := isPosted_iff.mp posted
  exact isPosted_iff.mpr ⟨commit, included member, posting, isPosting, isKey⟩

theorem isPostedAs_mono (included : commits ⊆ more)
    (posted : IsPostedAs key transactionIds commits = true) :
    IsPostedAs key transactionIds more = true := by
  obtain ⟨commit, member, posting, isPosting, isKey⟩ := isPostedAs_iff.mp posted
  exact isPostedAs_iff.mpr ⟨commit, included member, posting, isPosting, isKey⟩

theorem isPosted_of_isPostedAs (posted : IsPostedAs key transactionIds commits = true) :
    IsPosted key commits = true := by
  obtain ⟨commit, member, posting, isPosting, isKey, -⟩ := isPostedAs_iff.mp posted
  exact isPosted_iff.mpr ⟨commit, member, posting, isPosting, isKey⟩

end Histories

/-- The user a call is made for, as `resolveUserForScope` looks it up. -/
def ownerOf (users : Table User User.id) (userId : String) : Option User :=
  match requiredTrimmed userId "userId" with
  | .ok normalizedUserId => users.find? normalizedUserId
  | .error _ => none

namespace Store

def IsWalletOf (store : Store) (userId walletId : String) : Prop :=
  ∃ wallet, store.walletOf userId = some wallet ∧ wallet.id = walletId

/-- Wallets are in the organisation of their user. -/
def InOrganization (users : Table User User.id) (store : Store) : Prop :=
  ∀ wallet ∈ store.wallets.rows, ∀ user, ownerOf users wallet.userId = some user →
    wallet.organizationId = user.organizationId

def Records (store : Store) (walletId idempotencyKey : String) : Prop :=
  ∃ row ∈ store.transactions.rows, row.walletId = walletId ∧ row.idempotencyKey = idempotencyKey

/-- What `findFirst` of `debit` and `refund` looks for is there. -/
theorem Records.ne_none {store : Store} {walletId idempotencyKey : String}
    (records : store.Records walletId idempotencyKey) :
    store.transactionByKey walletId idempotencyKey none ≠ none := by
  obtain ⟨row, member, isWallet, isKey⟩ := records
  rw [transactionByKey, ne_eq, newestOf_eq_none_iff]
  intro nothing
  have found := List.eq_nil_iff_forall_not_mem.mp nothing row
  simp [member, isWallet, isKey] at found

/-- What one transaction or many leave of wallets and ledger. -/
structure Stays (users : Table User User.id) (before after : Store) : Prop where
  users_eq : after.users = before.users
  walletOf : ∀ userId walletId, before.IsWalletOf userId walletId →
    after.IsWalletOf userId walletId
  inOrganization : before.InOrganization users → after.InOrganization users
  records : ∀ walletId idempotencyKey, before.Records walletId idempotencyKey →
    after.Records walletId idempotencyKey

section Stays

variable {users : Table User User.id} {store : Store}

theorem Stays.trans {first second third : Store} (left : Stays users first second)
    (right : Stays users second third) : Stays users first third where
  users_eq := right.users_eq.trans left.users_eq
  walletOf := fun userId walletId found => right.walletOf _ _ (left.walletOf userId walletId found)
  inOrganization := fun holds => right.inOrganization (left.inOrganization holds)
  records := fun walletId key recorded => right.records _ _ (left.records walletId key recorded)

/-- Only other tables change. -/
theorem stays_of_eq {after : Store} (users_eq : after.users = store.users)
    (wallets_eq : after.wallets = store.wallets)
    (transactions_eq : after.transactions = store.transactions) : Stays users store after where
  users_eq := users_eq
  walletOf := by
    intro userId walletId found
    rw [IsWalletOf, Store.walletOf, wallets_eq]
    exact found
  inOrganization := by
    intro holds
    rw [InOrganization, wallets_eq]
    exact holds
  records := by
    intro walletId key recorded
    rw [Records, transactions_eq]
    exact recorded

theorem stays_updateWallet {id : String} {change : Wallet → Wallet}
    (keeps : ∀ wallet, (change wallet).id = wallet.id)
    (keepsUser : ∀ wallet, (change wallet).userId = wallet.userId)
    (moves : ∀ wallet, walletTable.find? id store = some wallet → ∀ user,
      ownerOf users wallet.userId = some user → wallet.organizationId = user.organizationId →
        (change wallet).organizationId = user.organizationId) :
    Stays users store (walletTable.update id change keeps store) where
  users_eq := rfl
  walletOf := by
    rintro userId walletId ⟨wallet, found, rfl⟩
    have rows := Table.rows_updateWhere store.wallets (fun row => decide (row.id = id)) change keeps
    refine ⟨if wallet.id = id then change wallet else wallet, ?_, ?_⟩
    · change List.find? _ (store.wallets.updateWhere _ change keeps).rows = _
      rw [rows, List.find?_map]
      have same : ((fun row : Wallet => decide (row.userId = userId)) ∘ fun row =>
          if decide (row.id = id) = true then change row else row) =
            fun row => decide (row.userId = userId) := by
        funext row
        by_cases isRow : row.id = id <;> simp [isRow, keepsUser]
      rw [same, show List.find? _ store.wallets.rows = some wallet from found]
      simp
    · by_cases isRow : wallet.id = id <;> simp [isRow, keeps]
  inOrganization := by
    intro holds wallet member user isOwner
    change wallet ∈ (walletTable.table (walletTable.update id change keeps store)).rows at member
    obtain ⟨old, oldMem, ⟨isRow, rfl⟩ | ⟨-, rfl⟩⟩ := Component.mem_update.mp member
    · rw [keepsUser] at isOwner
      have found : walletTable.find? id store = some old :=
        Table.find?_eq_some_iff.mpr ⟨oldMem, isRow⟩
      exact moves old found user isOwner (holds old oldMem user isOwner)
    · exact holds wallet oldMem user isOwner
  records := fun _ _ recorded => recorded

theorem stays_insertWallet {row : Wallet} (free : walletTable.find? row.id store = none)
    (placed : ∀ user, ownerOf users row.userId = some user →
      row.organizationId = user.organizationId) :
    Stays users store (walletTable.insert row store) where
  users_eq := rfl
  walletOf := by
    rintro userId walletId ⟨wallet, found, isId⟩
    refine ⟨wallet, ?_, isId⟩
    have rows := Component.rows_insert free
    change (walletTable.insert row store).wallets.rows = _ at rows
    rw [Store.walletOf, rows, List.find?_append]
    exact (congrArg (Option.or · _) found).trans (Option.some_or ..)
  inOrganization := by
    intro holds wallet member
    have rows := Component.rows_insert free
    change (walletTable.insert row store).wallets.rows = _ at rows
    rw [rows, List.mem_append, List.mem_singleton] at member
    rcases member with old | rfl
    · exact holds wallet old
    · exact placed
  records := fun _ _ recorded => recorded

/-- The ledger grows. -/
theorem stays_insertTransaction {row : Transaction}
    (free : transactionTable.find? row.id store = none) :
    Stays users store (transactionTable.insert row store) where
  users_eq := rfl
  walletOf := fun _ _ found => found
  inOrganization := fun holds => holds
  records := by
    rintro walletId key ⟨old, member, isWallet, isKey⟩
    have rows := Component.rows_insert free
    exact ⟨old, rows ▸ List.mem_append_left _ member, isWallet, isKey⟩

theorem records_insertTransaction {row : Transaction}
    (free : transactionTable.find? row.id store = none) :
    (transactionTable.insert row store).Records row.walletId row.idempotencyKey := by
  have rows := Component.rows_insert free
  exact ⟨row, rows ▸ List.mem_append_right _ (List.mem_singleton_self row), rfl, rfl⟩

theorem stays_setStatus (intentId id : String) (status : TransactionStatus)
    (reconciliationState : ReconciliationState) (reference : Option String) :
    Stays users store (store.setStatus intentId id status reconciliationState reference) where
  users_eq := rfl
  walletOf := fun _ _ found => found
  inOrganization := fun holds => holds
  records := by
    rintro walletId key ⟨old, member, isWallet, isKey⟩
    obtain ⟨status', reconciliation', reference', changed⟩ :=
      statusChange_keeps intentId status reconciliationState reference old
    have updated (row : Transaction) : row ∈ (transactionTable.table (store.setStatus intentId id
        status reconciliationState reference)).rows ↔ _ := Component.mem_update
    by_cases isRow : old.id = id
    · refine ⟨_, (updated _).mpr ⟨old, member, Or.inl ⟨isRow, rfl⟩⟩, ?_, ?_⟩
      · rw [changed]
        exact isWallet
      · rw [changed]
        exact isKey
    · exact ⟨old, (updated _).mpr ⟨old, member, Or.inr ⟨isRow, rfl⟩⟩, isWallet, isKey⟩

theorem stays_post (id : String) (amount : ℚ) : Stays users store (store.post id amount) :=
  stays_updateWallet _ (fun _ => by exact rfl) fun _ _ _ _ placed => placed

theorem stays_postIn (id : String) (amount : ℚ) (currency : String) :
    Stays users store (store.postIn id amount currency) :=
  stays_updateWallet _ (fun _ => by exact rfl) fun _ _ _ _ placed => placed

end Stays

end Store

/-- The wallet upkeep of `ensureWallet` puts wallets where their user is. -/
def Write.Places (users : Table User User.id) (store : Store) : Write → Prop
  | .createWallet _ userId organizationId _ =>
    ∀ user, ownerOf users userId = some user → organizationId = user.organizationId
  | .updateWalletOwner id organizationId _ =>
    ∀ wallet, Store.walletTable.find? id store = some wallet → ∀ user,
      ownerOf users wallet.userId = some user → organizationId = user.organizationId
  | _ => True

section Effects

variable {users : Table User User.id} {write : Write} {store after : Store}

theorem Effect.stays (effect : Effect write store after) (places : write.Places users store) :
    Store.Stays users store after := by
  cases effect with
  | createWallet id userId organizationId currency store free _ =>
    exact Store.stays_insertWallet free places
  | updateWalletOwner id organizationId currency wallet store found =>
    exact Store.stays_updateWallet _ (fun _ => by exact rfl) fun wallet isWallet user isOwner _ =>
      places wallet isWallet user isOwner
  | lockWallet | unlockWallet =>
    exact Store.stays_updateWallet _ (fun _ => by exact rfl) fun _ _ _ _ placed => placed
  | topUpSettled input wallet store _ _ _ free =>
    have intent : Store.Stays users store
        (Store.paymentIntentTable.insert input.settledIntent store) :=
      Store.stays_of_eq rfl rfl rfl
    exact (intent.trans (Store.stays_postIn _ _ _)).trans (Store.stays_insertTransaction free)
  | topUpPending input orchestration store _ _ free =>
    have intent : Store.Stays users store
        (Store.paymentIntentTable.insert (input.pendingIntent orchestration) store) :=
      Store.stays_of_eq rfl rfl rfl
    exact intent.trans (Store.stays_insertTransaction free)
  | debit _ _ _ _ free | refund _ _ _ _ free =>
    exact (Store.stays_post _ _).trans (Store.stays_insertTransaction free)
  | transfer input source target store _ _ debitFree creditFree =>
    have moved : Store.Stays users store
        ((store.post input.sourceWallet.id (-input.amount)).post input.targetWallet.id
          input.amount) := (Store.stays_post _ _).trans (Store.stays_post _ _)
    exact (moved.trans (Store.stays_insertTransaction debitFree)).trans
      (Store.stays_insertTransaction creditFree)
  | finalStatus existing input now intent store _ _ => exact Store.stays_of_eq rfl rfl rfl
  | settled existing input now intent creditTx wallet store _ _ _ _ =>
    have changed : Store.Stays users store
        (store.changeIntent existing.id (finalStatusChange existing input now)
          (id_finalStatusChange existing input now)) := Store.stays_of_eq rfl rfl rfl
    exact (changed.trans (Store.stays_post _ _)).trans (Store.stays_setStatus _ _ _ _ _)
  | markedAsFailed existing input now intent creditTx store _ _ _ =>
    have changed : Store.Stays users store
        (store.changeIntent existing.id (finalStatusChange existing input now)
          (id_finalStatusChange existing input now)) := Store.stays_of_eq rfl rfl rfl
    exact changed.trans (Store.stays_setStatus _ _ _ _ _)
  | reconcile | createWebhookEvent | markEventStatus =>
    exact Store.stays_of_eq rfl rfl rfl

theorem Effect.records {posting : Posting} (effect : Effect write store after)
    (isPosting : write.posting = some posting) :
    after.Records posting.walletId posting.key.idempotencyKey := by
  cases effect with
  | debit _ _ _ _ free | refund _ _ _ _ free =>
    obtain rfl := Option.some.inj isPosting
    exact Store.records_insertTransaction free
  | transfer input source target store _ _ debitFree creditFree =>
    obtain rfl := Option.some.inj isPosting
    have stays : Store.Stays Table.empty _ _ := Store.stays_insertTransaction creditFree
    exact stays.records _ _ (Store.records_insertTransaction debitFree)
  | _ => contradiction

end Effects

/-- Balances and ledger are what they were. -/
structure SameMoney (before after : Store) : Prop where
  balances : after.balances = before.balances
  transactions : after.transactions = before.transactions

theorem Effect.sameMoney {write : Write} {store after : Store} (effect : Effect write store after)
    (isUpkeep : write.kind = .upkeep) : SameMoney store after := by
  have moved := effect.balances
  cases effect with
  | createWallet | updateWalletOwner => exact ⟨moved.trans (add_zero _), rfl⟩
  | _ => contradiction

end Csms.Billing
