import Csms.Billing.Repeats.Postings

/-!
# Repeated requests

Debits, refunds and transfers look for a transaction under their idempotency key before
they post.  The lookup comes after the checks of the wallet, it is not part of the
transaction that posts, it does not ask what kind of request made the transaction it
finds, and a transfer answers with a reference instead of its credit.  So a repeat is
answered like the request it repeats only as long as no lookup and no check goes wrong
in one of these ways.
-/

namespace Csms.Billing

open Database Js

def BillingRequest.postingKey : BillingRequest → Option PostingKey
  | debit call userId dto =>
    some ⟨.debit, userId, normalizeIdempotencyKey dto.idempotencyKey call.keyUuid⟩
  | refund call userId dto =>
    some ⟨.refund, userId, normalizeIdempotencyKey dto.idempotencyKey call.keyUuid⟩
  | transfer call userId dto =>
    some ⟨.transfer, userId, normalizeIdempotencyKey dto.idempotencyKey call.keyUuid⟩
  | _ => none

/-- The same request with an idempotency key, made in the same tenant: a request and its
repeats. -/
inductive SameRequest : BillingRequest → BillingRequest → Prop
  | debit (call call' : Call) (userId : String) (dto : WalletPostingDto) :
      (optionalTrimmed dto.idempotencyKey).isSome → call.context = call'.context →
      SameRequest (.debit call userId dto) (.debit call' userId dto)
  | refund (call call' : Call) (userId : String) (dto : WalletPostingDto) :
      (optionalTrimmed dto.idempotencyKey).isSome → call.context = call'.context →
      SameRequest (.refund call userId dto) (.refund call' userId dto)
  | transfer (call call' : Call) (userId : String) (dto : WalletTransferDto) :
      (optionalTrimmed dto.idempotencyKey).isSome → call.context = call'.context →
      SameRequest (.transfer call userId dto) (.transfer call' userId dto)

def BillingAnswer.transactionIds : BillingAnswer → List String
  | posted _ transactionId => [transactionId]
  | transferred _ _ debitTransactionId creditTransactionId =>
    [debitTransactionId, creditTransactionId]
  | _ => []

namespace BillingState

/-- The session has been answered. -/
def Answered (state : BillingState) (request : BillingRequest) (answer : BillingAnswer) : Prop :=
  ∃ id arrived : Nat, state.sessions[id]? = some ⟨request, arrived, .outside (.answer answer)⟩

/-- The session has been refused; so many commits had happened when it arrived. -/
def Refused (state : BillingState) (request : BillingRequest) (arrived : Nat) : Prop :=
  ∃ (id : Nat) (error : CommerceException),
    state.sessions[id]? = some ⟨request, arrived, .outside (.throw error)⟩

def RequestOf (state : BillingState) (commit : Commit Store Write) (request : BillingRequest) :
    Prop :=
  ∃ arrived progress, state.sessions[commit.session]? = some ⟨request, arrived, progress⟩

/-- Repeating a request, at once or later, is like not repeating it. -/
structure Idempotent (state : BillingState) : Prop where
  /-- A request and its repeats are answered with the same transactions. -/
  sameTransactions : ∀ request repeated answer again, SameRequest request repeated →
    state.Answered request answer → state.Answered repeated again →
      again.transactionIds = answer.transactionIds
  /-- They are transactions that a request of this kind has posted under this key. -/
  ownKind : ∀ request key answer, request.postingKey = some key →
    state.Answered request answer →
      IsPostedAs key answer.transactionIds state.shared.commits = true
  /-- What was posted before the repeat arrived was not posted for a request that was
  answered with it. -/
  notRefused : ∀ request repeated key answer arrived, SameRequest request repeated →
    request.postingKey = some key → state.Answered request answer →
      state.Refused repeated arrived →
        IsPostedAs key answer.transactionIds (state.shared.commits.take arrived) = false
  /-- Of the commits of a request and its repeats, one changes balances and ledger. -/
  writesOnce : state.shared.commits.Pairwise fun first second =>
    ∀ request repeated, state.RequestOf first request → state.RequestOf second repeated →
      SameRequest request repeated →
        SameMoney first.before first.after ∨ SameMoney second.before second.after

end BillingState

namespace BillingRequest

def isPosted (request : BillingRequest) (commits : List (Commit Store Write)) : Bool :=
  request.postingKey.any fun key => IsPosted key commits

/-- The wallet passes the checks of a debit or a refund. -/
def admits : BillingRequest → Wallet → Bool
  | debit _ _ dto, wallet =>
    !wallet.isLocked &&
      match normalizeAmount dto.amount "amount" with
      | .ok amount => amount ≤ wallet.balance
      | .error _ => true
  | refund _ _ _, wallet => !wallet.isLocked
  | _, _ => true

end BillingRequest

/-- A transfer that was posted does not arrive again.  When a debit or refund that was
posted reads its wallet, the wallet still passes its checks.  A lookup finds nothing that
was not posted for such a request, as its only transaction.  Nothing is posted under a key
under which something was posted since the lookup. -/
def repeatsAdmitted : Conditions Store Query Write BillingRequest where
  onArrive request shared :=
    match request with
    | .transfer .. => !request.isPosted shared.commits
    | _ => true
  onQuery request name shared :=
    match name with
    | .walletOf userId =>
      !request.isPosted shared.commits || (shared.store.walletOf userId).all request.admits
    | .transactionByKey walletId idempotencyKey type =>
      (shared.store.transactionByKey walletId idempotencyKey type).all fun transaction =>
        request.postingKey.any fun key => IsPostedAs key [transaction.id] shared.commits
    | _ => true
  onCommit _ write shared := write.posting.all fun posting => !IsPosted posting.key shared.commits

/-- Commits last, and so do wallets of users. -/
structure Onward (earlier later : Shared Store Write) : Prop where
  commits : earlier.commits <+: later.commits
  walletOf : ∀ userId walletId, earlier.store.IsWalletOf userId walletId →
    later.store.IsWalletOf userId walletId

theorem onward_refl (shared : Shared Store Write) : Onward shared shared :=
  ⟨List.prefix_refl _, fun _ _ found => found⟩

theorem Onward.trans {first second third : Shared Store Write} (left : Onward first second)
    (right : Onward second third) : Onward first third :=
  ⟨left.commits.trans right.commits,
    fun userId walletId found => right.walletOf _ _ (left.walletOf userId walletId found)⟩

theorem Onward.subset {earlier later : Shared Store Write} (onward : Onward earlier later) :
    earlier.commits ⊆ later.commits :=
  onward.commits.subset

/-- Two commits did not post under one key. -/
def PostApart (first second : Commit Store Write) : Prop :=
  ∀ posting other, first.label.posting = some posting → second.label.posting = some other →
    posting.key ≠ other.key

/-- What holds of all commits, when the requests of the sessions are these. -/
structure Kept (users : Table User User.id) (requestOf : Nat → Option BillingRequest)
    (shared : Shared Store Write) : Prop where
  users_eq : shared.store.users = users
  inOrganization : shared.store.InOrganization users
  once : shared.commits.Pairwise PostApart
  owned : ∀ commit ∈ shared.commits, ∀ request, requestOf commit.session = some request →
    commit.label.kind ∈ request.kinds ∧
      ∀ posting, commit.label.posting = some posting → request.postingKey = some posting.key
  recorded : ∀ commit ∈ shared.commits, ∀ posting, commit.label.posting = some posting →
    shared.store.IsWalletOf posting.key.userId posting.walletId ∧
      shared.store.Records posting.walletId posting.key.idempotencyKey

/-- The request may post this now. -/
structure MayPost (request : BillingRequest) (shared : Shared Store Write) (posting : Posting) :
    Prop where
  isKey : request.postingKey = some posting.key
  isNew : IsPosted posting.key shared.commits = false
  isWallet : shared.store.IsWalletOf posting.key.userId posting.walletId

section Commits

variable {users : Table User User.id} {requestOf : Nat → Option BillingRequest}
  {shared : Shared Store Write} {id : Nat} {request : BillingRequest} {write : Write}
  {after : Store}

theorem Kept.commit (kept : Kept users requestOf shared) (isRequest : requestOf id = some request)
    (isKind : write.kind ∈ request.kinds) (places : write.Places users shared.store)
    (mayPost : ∀ posting, write.posting = some posting → MayPost request shared posting)
    (effect : Effect write shared.store after) : Onward shared (shared.commit id write after) ∧
      Kept users requestOf (shared.commit id write after) := by
  have stays := effect.stays places
  refine ⟨⟨List.prefix_append _ _, stays.walletOf⟩, stays.users_eq.trans kept.users_eq,
    stays.inOrganization kept.inOrganization, ?_, ?_, ?_⟩
  · rw [Shared.commits_commit, List.pairwise_append]
    refine ⟨kept.once, List.pairwise_singleton _ _, ?_⟩
    intro commit member new isNew posting other isPosting isOther same
    obtain rfl := List.mem_singleton.mp isNew
    have fresh := (mayPost other isOther).isNew
    rw [isPosted_iff.mpr ⟨commit, member, posting, isPosting, same⟩] at fresh
    contradiction
  · rw [Shared.commits_commit, List.forall_mem_append, List.forall_mem_singleton]
    refine ⟨kept.owned, ?_⟩
    intro other isOther
    obtain rfl := Option.some.inj (isRequest.symm.trans isOther)
    exact ⟨isKind, fun posting isPosting => (mayPost posting isPosting).isKey⟩
  · rw [Shared.commits_commit, List.forall_mem_append, List.forall_mem_singleton]
    constructor
    · intro commit member posting isPosting
      obtain ⟨isWallet, records⟩ := kept.recorded commit member posting isPosting
      exact ⟨stays.walletOf _ _ isWallet, stays.records _ _ records⟩
    · intro posting isPosting
      exact ⟨stays.walletOf _ _ (mayPost posting isPosting).isWallet, effect.records isPosting⟩

theorem Kept.of_isPosted {key : PostingKey} (kept : Kept users requestOf shared)
    (posted : IsPosted key shared.commits = true) :
    ∃ walletId, shared.store.IsWalletOf key.userId walletId ∧
      shared.store.Records walletId key.idempotencyKey := by
  obtain ⟨commit, member, posting, isPosting, rfl⟩ := isPosted_iff.mp posted
  exact ⟨posting.walletId, kept.recorded commit member posting isPosting⟩

end Commits

end Csms.Billing
