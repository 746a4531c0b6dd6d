import Csms.Applications.Owners
import Csms.Applications.Paid
import Csms.Database.Undisturbed

/-!
# Keys that two users choose

The clients choose the idempotency keys of top-ups, payment intents and payments for
applications, and the look-up of a payment intent by its key does not ask whose it is.  This file
has all these requests of all users in one database, and the runs in which no user meets a payment
intent that another one has created with the same key.
-/

namespace Csms.Applications

open Database
open Billing (Call CommerceException PaymentIntent PaymentSession)

/-! ## Requests -/

/-- The requests of onboarding and billing, and those for a payment intent of `CommerceService`. -/
inductive PaymentAction where
  | onboarding (action : OnboardingAction)
  | createPaymentIntent (call : Call) (userId : String) (dto : CreatePaymentIntentDto)
      (payment : Except CommerceException PaymentSession)

inductive PaymentAnswer where
  | onboarding (answer : OnboardingAnswer)
  | paymentIntent (intent : PaymentIntent)

def PaymentAction.program (runtime : Billing.Webhooks.Runtime) :
    PaymentAction → OnboardingRequest PaymentAnswer
  | .onboarding action => do
    let answer ← action.program runtime
    return .onboarding answer
  | .createPaymentIntent call userId dto payment => do
    let intent ← commerceCreatePaymentIntent call userId dto payment
    return .paymentIntent intent

/-- The user who tops up, wants a payment intent or pays for an application. -/
def PaymentAction.payer? : PaymentAction → Option String
  | .onboarding (.billing _ (.topUp _ userId _ _)) => some userId
  | .onboarding (.createPaymentIntent _ userId _ _ _) => some userId
  | .createPaymentIntent _ userId _ _ => some userId
  | _ => none

def PaymentAnswer.intent? : PaymentAnswer → Option PaymentIntent
  | .onboarding (.billing (.toppedUp _ intent _)) => some intent
  | .onboarding (.payment _ intent) => some intent
  | .paymentIntent intent => some intent
  | _ => none

/-- The user and the key of a look-up of a payment intent by its key. -/
def PaymentAction.lookup? : PaymentAction → OnboardingQuery → Option (String × String)
  | _, .paymentIntentFor userId _ idempotencyKey => some (userId, idempotencyKey)
  | .onboarding (.billing _ (.topUp _ userId _ _)), .billing (.paymentIntentByKey idempotencyKey) =>
    some (userId, idempotencyKey)
  | _, _ => none

/-! ## Runs -/

/-- The database with the sessions of payment requests. -/
abbrev PaymentState :=
  ReadCommitted Store Store.Lock OnboardingQuery OnboardingWrite OnboardingWrite.Result
    CommerceException PaymentAction PaymentAnswer

/-- No look-up finds another user's payment intent, and a payment that is synchronised is one
of the applicant. -/
def keysApart : Conditions Store OnboardingQuery OnboardingWrite PaymentAction where
  onArrive _ _ := true
  onQuery action query shared :=
    (action.lookup? query).all fun (userId, idempotencyKey) =>
      !shared.store.hasForeignIntent userId idempotencyKey
  onCommit _ write shared :=
    match write with
    | .updateApplication _ (.syncPaymentStatus ..) => write.linksOwn shared.store
    | _ => true

/-- The payment intent that the statement inserts can be inserted as far as other users are
concerned. -/
def insertsFree (write : OnboardingWrite) (store : Store) : Bool :=
  write.insertion.all fun (userId, idempotencyKey) => !store.hasForeignIntent userId idempotencyKey

/-- The statements do not insert payment intents of two users with one key. -/
def insertApart (write other : OnboardingWrite) : Bool :=
  write.insertion.all fun (userId, idempotencyKey) =>
    other.insertion.all fun (otherId, otherKey) => otherId = userId || otherKey ≠ idempotencyKey

def PaymentState.Reachable (runtime : Billing.Webhooks.Runtime)
    (conditions : Conditions Store OnboardingQuery OnboardingWrite PaymentAction)
    (store : Store) : PaymentState → Prop :=
  ReadCommitted.Reachable OnboardingWrite.body (PaymentAction.program runtime) conditions
    (ReadCommitted.initial store)

/-- What can be reached when no user meets a payment intent of another one: when it looks up its
key, when it begins to insert its own, and until that is inserted. -/
def PaymentState.ReachableApart (runtime : Billing.Webhooks.Runtime) (store : Store) :
    PaymentState → Prop :=
  ReadCommitted.ReachableUndisturbed OnboardingWrite.body (PaymentAction.program runtime) keysApart
    insertsFree insertApart (ReadCommitted.initial store)

/-- No request is answered with, linked to or suppressed by what another user has created. -/
structure PaymentState.Isolated (state : PaymentState) : Prop where
  answered : ∀ (id : Nat) (action : PaymentAction) (arrived : Nat) (answer : PaymentAnswer)
    (userId : String) (intent : PaymentIntent),
    state.sessions[id]? = some ⟨action, arrived, .outside (.answer answer)⟩ →
      action.payer? = some userId → answer.intent? = some intent → isOwnOf userId intent = true
  linked : ∀ commit ∈ state.shared.commits, commit.label.linksOwn commit.before = true
  inserting : ∀ (id : Nat) (connection : Connection Store Store.Lock OnboardingQuery
    OnboardingWrite OnboardingWrite.Result CommerceException PaymentAction PaymentAnswer)
    (write : OnboardingWrite),
    state.sessions[id]? = some connection → connection.progress.label? = some write →
      insertsFree write state.shared.store = true

/-! ## What requests keep -/

/-- The request keeps all links own, whatever others do that keep them so, and ends with the
postcondition. -/
abbrev OnboardingRequest.EndsOwn {α : Type} (action : PaymentAction) (session : Nat)
    (post : Except CommerceException α → OnboardingShared → Prop) (program : OnboardingRequest α)
    (shared : OnboardingShared) : Prop :=
  program.Meets (fun write => write.body.run) keysApart OwnLinks Lasting action session post shared

/-- A statement that links no payment intent but one that is synchronised. -/
def OnboardingWrite.IsUnlinking : OnboardingWrite → Prop
  | createApplication row => row.paymentIntentId = none
  | updateApplication _ (.createPaymentIntent ..) => False
  | _ => True

theorem linksOwn_of_isUnlinking {action : PaymentAction} {write : OnboardingWrite}
    {shared : OnboardingShared} (unlinking : write.IsUnlinking)
    (permitted : keysApart.onCommit action write shared = true) :
    write.linksOwn shared.store = true := by
  cases write with
  | createApplication row =>
    have isNone : row.paymentIntentId = none := unlinking
    rw [OnboardingWrite.linksOwn, isNone]
    rfl
  | updateApplication current change =>
    cases change with
    | createPaymentIntent intentId status now => exact absurd unlinking id
    | syncPaymentStatus intentId status now => exact permitted
    | _ => rfl
  | _ => rfl

section Requests

variable {α γ : Type} {action : PaymentAction} {session : Nat} {shared : OnboardingShared}

theorem endsOwn_bind {program : OnboardingRequest α} {next : α → OnboardingRequest γ}
    {middle : Except CommerceException α → OnboardingShared → Prop}
    {post : Except CommerceException γ → OnboardingShared → Prop}
    (first : program.EndsOwn action session middle shared) (holds : OwnLinks shared)
    (onward : ∀ value later, OwnLinks later → middle (.ok value) later →
      (next value).EndsOwn action session post later)
    (failed : ∀ error later, post (.error error) later) :
    (program >>= next).EndsOwn action session post shared :=
  Request.Meets.bind Lasting.refl first holds onward fun error later _ => failed error later

/-- A statement that links what its user owns. -/
theorem endsOwn_execute (write : OnboardingWrite)
    {post : Except CommerceException write.Result → OnboardingShared → Prop}
    (own : ∀ later, Lasting shared later → keysApart.onCommit action write later = true →
      write.linksOwn later.store = true) (failed : ∀ error later, post (.error error) later)
    (done : ∀ (later : OnboardingShared) after result,
      write.body.run later.store = some (after, result) →
        ∀ further, Lasting (later.commit session write after) further → post (.ok result) further) :
    (execute write).EndsOwn action session post shared := by
  refine (meets_commit _ _).mpr ?_
  intro later lasting holds
  refine ⟨fun _ _ _ => failed _ _, ?_⟩
  intro permitted after result run
  refine ⟨lasting_commit run, ownLinks_commit holds (own later lasting permitted) run, ?_⟩
  intro further onward _
  exact done later after result run further onward

theorem endsOwn_of_transacts {allowed : OnboardingWrite → Prop}
    (each : ∀ write, allowed write → write.IsUnlinking) {program : OnboardingRequest α}
    (transacts : program.Transacts allowed) :
    program.EndsOwn action session (fun _ _ => True) shared := by
  apply transacts.meets
  intro shared write after result holds isAllowed permitted run
  have own := linksOwn_of_isUnlinking (each write isAllowed) permitted
  exact ⟨lasting_commit run, ownLinks_commit holds own run⟩

theorem isUnlinking_of_isBilling (write : OnboardingWrite) (isBilling : write.isBilling = true) :
    write.IsUnlinking := by
  cases write with
  | billing | createPaymentIntent | updateUser => trivial
  | _ => contradiction

theorem endsOwn_commerce (party : Party) (program : Billing.Commerce α) :
    (commerce party program).EndsOwn action session (fun _ _ => True) shared :=
  endsOwn_of_transacts isUnlinking_of_isBilling (transacts_commerce (fun _ => rfl) program)

variable {post : Except CommerceException γ → OnboardingShared → Prop}

theorem endsOwn_commerce_bind {party : Party} {program : Billing.Commerce α}
    {next : α → Billing.Commerce γ} (holds : OwnLinks shared)
    (onward : ∀ value later, OwnLinks later →
      (commerce party (next value)).EndsOwn action session post later)
    (failed : ∀ error later, post (.error error) later) :
    (commerce party (program >>= next)).EndsOwn action session post shared := by
  rw [commerce_bind]
  exact endsOwn_bind (endsOwn_commerce party program) holds
    (fun value later laterHolds _ => onward value later laterHolds) failed

/-- A transaction of billing hands its result on. -/
theorem endsOwn_commerce_execute_bind {party : Party} {write : Billing.Write}
    {next : write.Result → Billing.Commerce γ} (holds : OwnLinks shared)
    (onward : ∀ (result : write.Result) (later : OnboardingShared) (before after : Billing.Store),
      OwnLinks later → write.body.run before = some (after, result) →
        (commerce party (next result)).EndsOwn action session post later)
    (failed : ∀ error later, post (.error error) later) :
    (commerce party (Billing.execute write >>= next)).EndsOwn action session post shared := by
  rw [commerce_bind, commerce_execute]
  have executed : (execute (.billing party write)).EndsOwn action session
      (fun outcome _ => ∀ result : write.Result, outcome = .ok result →
        ∃ before after, write.body.run before = some (after, result)) shared := by
    refine endsOwn_execute (.billing party write) (fun _ _ _ => rfl) (fun _ _ _ => nofun) ?_
    rintro later after result run _ _ _ ⟨rfl⟩
    obtain ⟨left, inBilling, _⟩ := OnboardingWrite.run_onBilling_eq_some_iff.mp run
    exact ⟨_, _, inBilling⟩
  refine endsOwn_bind executed holds ?_ failed
  intro result later laterHolds ran
  obtain ⟨before, after, run⟩ := ran result rfl
  exact onward result later before after laterHolds run

end Requests

/-! ## Top-ups -/

section TopUp

variable {session : Nat} {shared : OnboardingShared}

def AnswersOwn (userId : String) (outcome : Except CommerceException Billing.BillingAnswer)
    (_ : OnboardingShared) : Prop :=
  ∀ wallet intent transactionId, outcome = .ok (.toppedUp wallet intent transactionId) →
    isOwnOf userId intent = true

theorem answersOwn_error (userId : String) (error : CommerceException) (later : OnboardingShared) :
    AnswersOwn userId (.error error) later :=
  fun _ _ _ => nofun

theorem isOwnOf_of_userId {userId : String} {intent : PaymentIntent}
    (created : intent.userId = some userId) : isOwnOf userId intent = true := by
  rw [isOwnOf, created, Option.all_some]
  exact decide_eq_true rfl

theorem isOwnOf_of_lookup {store : Store} {userId idempotencyKey : String} {intent : PaymentIntent}
    (noForeign : store.hasForeignIntent userId idempotencyKey = false)
    (found : store.paymentIntentOfKey idempotencyKey = some intent) :
    isOwnOf userId intent = true := by
  have isKey := List.find?_some found
  rw [Store.hasForeignIntent, List.any_eq_false] at noForeign
  have notForeign := noForeign intent (List.mem_of_find?_eq_some found)
  simpa [of_decide_eq_true isKey] using notForeign

theorem userId_of_topUpPending {input : Billing.WalletTopUp} {orchestration : PaymentSession}
    {store after : Billing.Store} {result : PaymentIntent × String}
    (run : (Billing.topUpPending input orchestration).run store = some (after, result)) :
    result.1.userId = some input.userId := by
  obtain ⟨_, _, further⟩ := Billing.run_insertPaymentIntent run
  obtain ⟨_, done⟩ := Billing.run_insertTransaction further
  obtain ⟨_, rfl⟩ := Prod.mk.inj (Option.some.inj done)
  rfl

theorem userId_of_topUpSettled {input : Billing.WalletTopUp} {store after : Billing.Store}
    {result : Billing.Wallet × PaymentIntent × String}
    (run : (Billing.topUpSettled input).run store = some (after, result)) :
    result.2.1.userId = some input.userId := by
  obtain ⟨_, _, further⟩ := Billing.run_insertPaymentIntent run
  obtain ⟨wallet, _, more⟩ := Billing.run_updateWallet (fun _ => by exact ⟨rfl, rfl⟩) further
  obtain ⟨_, done⟩ := Billing.run_insertTransaction more
  obtain ⟨_, rfl⟩ := Prod.mk.inj (Option.some.inj done)
  rfl

theorem endsOwn_topUp (actorId : String) (party : Party) (call : Call) (userId : String)
    (dto : Billing.WalletTopUpDto) (payment : Except CommerceException PaymentSession)
    (holds : OwnLinks shared) : (commerce party (Billing.topUp call userId dto payment)).EndsOwn
      (.onboarding (.billing actorId (.topUp call userId dto payment))) session (AnswersOwn userId)
      shared := by
  refine endsOwn_commerce_bind holds ?_ (answersOwn_error userId)
  intro wallet first firstHolds
  refine endsOwn_commerce_bind firstHolds ?_ (answersOwn_error userId)
  intro _ second secondHolds
  refine endsOwn_commerce_bind secondHolds ?_ (answersOwn_error userId)
  intro paymentMethodId third thirdHolds
  refine endsOwn_commerce_bind thirdHolds ?_ (answersOwn_error userId)
  intro amount fourth fourthHolds
  refine endsOwn_commerce_bind fourthHolds ?_ (answersOwn_error userId)
  intro currency fifth _
  rw [commerce_bind]
  refine (meets_read_bind _ _ _).mpr ?_
  intro read _ readHolds permitted
  have noForeign : read.store.hasForeignIntent userId
      (Billing.normalizeIdempotencyKey dto.idempotencyKey call.keyUuid) = false := by
    simpa [keysApart, PaymentAction.lookup?] using permitted
  rcases found : read.store.billing.paymentIntents.rows.find? (fun intent =>
      intent.idempotencyKey = Billing.normalizeIdempotencyKey dto.idempotencyKey call.keyUuid) with
    _ | existing
  · dsimp only
    rw [found, Option.map_none]
    dsimp only
    split
    · refine endsOwn_commerce_bind readHolds ?_ (answersOwn_error userId)
      intro _ sixth sixthHolds
      refine endsOwn_commerce_bind sixthHolds ?_ (answersOwn_error userId)
      intro orchestration seventh seventhHolds
      refine endsOwn_commerce_execute_bind seventhHolds ?_ (answersOwn_error userId)
      rintro ⟨intent, transactionId⟩ eighth before after eighthHolds run
      refine endsOwn_commerce_bind eighthHolds ?_ (answersOwn_error userId)
      intro current ninth _
      refine (meets_pure _).mpr ?_
      rintro _ _ _ _ _ _ ⟨rfl⟩
      exact isOwnOf_of_userId (userId_of_topUpPending run)
    · refine endsOwn_commerce_execute_bind readHolds ?_ (answersOwn_error userId)
      rintro ⟨updatedWallet, intent, transactionId⟩ sixth before after _ run
      refine (meets_pure _).mpr ?_
      rintro _ _ _ _ _ _ ⟨rfl⟩
      exact isOwnOf_of_userId (userId_of_topUpSettled run)
  · dsimp only
    rw [found, Option.map_some]
    refine endsOwn_commerce_bind readHolds ?_ (answersOwn_error userId)
    intro current sixth _
    refine (meets_pure _).mpr ?_
    rintro _ _ _ _ _ _ ⟨rfl⟩
    exact isOwnOf_of_lookup noForeign found

end TopUp

/-! ## Payment intents -/

section PaymentIntents

variable {action : PaymentAction} {session : Nat} {shared : OnboardingShared}

def IsOwnIntent (shared : OnboardingShared) (userId : String) (intent : PaymentIntent) : Prop :=
  isOwnOf userId intent = true ∧ ∃ stored, shared.store.paymentIntent? intent.id = some stored ∧
    stored.userId = intent.userId

theorem IsOwnIntent.lasting {first second : OnboardingShared} (later : Lasting first second)
    {userId : String} {intent : PaymentIntent} (own : IsOwnIntent first userId intent) :
    IsOwnIntent second userId intent := by
  obtain ⟨isOwn, stored, found, same⟩ := own
  obtain ⟨changed, changedFound, stillSame⟩ := later.owners intent.id stored found
  exact ⟨isOwn, changed, changedFound, stillSame.trans same⟩

theorem endsOwn_commerceCreatePaymentIntent (call : Call) (userId : String)
    (dto : CreatePaymentIntentDto) (payment : Except CommerceException PaymentSession)
    (holds : OwnLinks shared) :
    (commerceCreatePaymentIntent call userId dto payment).EndsOwn action session
      (fun outcome later => ∀ intent, outcome = .ok intent → IsOwnIntent later userId intent)
      shared := by
  refine endsOwn_bind (endsOwn_commerce _ _) holds ?_ fun _ _ _ => nofun
  intro wallet first firstHolds _
  refine meets_ofExcept_bind ?_ fun _ _ _ _ _ _ => nofun
  intro _ _
  refine endsOwn_bind (endsOwn_commerce _ _) firstHolds ?_ fun _ _ _ => nofun
  intro paymentMethodId second _ _
  refine (meets_read_bind _ _ _).mpr ?_
  intro read _ readHolds permitted
  have noForeign : read.store.hasForeignIntent userId
      (Billing.normalizeIdempotencyKey dto.idempotencyKey call.keyUuid) = false := by
    cases action <;> simpa [keysApart, PaymentAction.lookup?] using permitted
  rcases found : read.store.paymentIntentOfKey _ with _ | intent
  · refine meets_ofExcept_bind ?_ fun _ _ _ _ _ _ => nofun
    intro amount _
    refine meets_ofExcept_bind ?_ fun _ _ _ _ _ _ => nofun
    intro currency _
    refine endsOwn_bind (endsOwn_of_transacts isUnlinking_of_isBilling
      (transacts_orchestrate call userId payment fun _ _ => rfl)) readHolds ?_ fun _ _ _ => nofun
    intro paymentSession third _ _
    refine endsOwn_execute (.createPaymentIntent _) (fun _ _ _ => rfl) (fun _ _ _ => nofun) ?_
    intro later after result run further lasting intent same
    obtain ⟨isRow, stored⟩ := paymentIntent?_of_create run
    obtain rfl := (Except.ok.inj same).symm.trans isRow
    refine IsOwnIntent.lasting lasting ⟨isOwnOf_of_userId rfl, _, stored, rfl⟩
  · refine (meets_pure _).mpr ?_
    rintro later lasting _ _ ⟨rfl⟩
    have stored : read.store.paymentIntent? intent.id = some intent :=
      Table.find?_eq_some_iff.mpr ⟨List.mem_of_find?_eq_some found, rfl⟩
    exact IsOwnIntent.lasting lasting ⟨isOwnOf_of_lookup noForeign found, intent, stored, rfl⟩

/-! ## Payments for applications -/

/-- The application was read when it was linked to what its applicant owns, and its applicant is
still the same. -/
def ReadOwn (shared : OnboardingShared) (current : TenantApplication) : Prop :=
  shared.store.LinksOwn current ∧ ∃ row, shared.store.application? current.id = some row ∧
    row.applicantId = current.applicantId

theorem ReadOwn.lasting {first second : OnboardingShared} (later : Lasting first second)
    {current : TenantApplication} (own : ReadOwn first current) : ReadOwn second current := by
  obtain ⟨links, row, found, same⟩ := own
  obtain ⟨changed, changedFound, stillSame⟩ := later.applicants current.id row found
  exact ⟨links.lasting later, changed, changedFound, stillSame.trans same⟩

theorem endsOwn_findOwn (id applicantId : String) : (findOwn id applicantId).EndsOwn action session
      (fun outcome later => ∀ current, outcome = .ok current →
        ReadOwn later current ∧ current.applicantId = applicantId) shared := by
  rw [findOwn, findByIdOrThrow, bind_assoc]
  refine (meets_read_bind _ _ _).mpr ?_
  intro read _ readHolds _
  refine meets_ofExcept_bind ?_ (by rintro _ _ _ _ _ _ ⟨⟩)
  intro current isFound
  refine meets_ofExcept_bind ?_ (by rintro _ _ _ _ _ _ ⟨⟩)
  intro _ isApplicant
  refine (meets_pure _).mpr ?_
  rintro later lasting _ _ ⟨rfl⟩
  rcases found : read.store.application? id with _ | row
  · rw [found] at isFound
    contradiction
  · rw [found] at isFound
    obtain rfl := Except.ok.inj isFound
    have sameId := (Table.find?_eq_some_iff.mp found).2
    have read : ReadOwn read row := ⟨readHolds.rows id row found, row, sameId ▸ found, rfl⟩
    refine ⟨read.lasting lasting, ?_⟩
    rw [assertApplicantOwnership] at isApplicant
    split at isApplicant
    · assumption
    · contradiction

theorem endsOwn_linkedIntent (call : Call) {current : TenantApplication}
    (read : ReadOwn shared current) : (linkedIntent call current).EndsOwn action session
      (fun outcome _ => ∀ intent, outcome = .ok (some intent) →
        isOwnOf current.applicantId intent = true) shared := by
  unfold linkedIntent
  rcases linked : current.paymentIntentId with _ | intentId
  · exact (meets_pure _).mpr (by rintro _ _ _ _ ⟨⟩)
  · by_cases isEmpty : intentId = ""
    · rw [isEmpty]
      exact (meets_pure _).mpr (by rintro _ _ _ _ ⟨⟩)
    · rw [Js.orText, if_neg isEmpty]
      dsimp only
      rw [getPaymentIntent, commerce_bind, commerce_findPaymentIntent, bind_assoc]
      refine (meets_read_bind _ _ _).mpr ?_
      intro later lasting _ _
      obtain ⟨stored, isStored, isOwn⟩ := read.1.lasting lasting intentId linked
      rw [isStored]
      rw [commerce_bind, commerce_ofExcept, bind_assoc]
      refine meets_ofExcept_bind ?_ (by rintro _ _ _ _ _ _ ⟨⟩)
      intro _ _
      refine (meets_pure _).mpr ?_
      intro _ _ _ intent same
      obtain ⟨isIntent, _⟩ := Option.filter_eq_some_iff.mp (Except.ok.inj same)
      obtain rfl := Option.some.inj isIntent
      exact isOwn

theorem endsOwn_createPaymentIntent (call : Call) (id applicantId : String)
    (dto : CreateApplicationPaymentIntentDto) (payment : Except CommerceException PaymentSession)
    (holds : OwnLinks shared) :
    (createPaymentIntent call id applicantId dto payment).EndsOwn action session
      (fun outcome _ => ∀ row intent, outcome = .ok (row, intent) →
        isOwnOf applicantId intent = true) shared := by
  refine endsOwn_bind (endsOwn_findOwn id applicantId) holds ?_ fun _ _ _ _ => nofun
  intro current first firstHolds isRead
  obtain ⟨read, rfl⟩ := isRead current rfl
  refine meets_ofExcept_bind ?_ fun _ _ _ _ _ _ _ => nofun
  intro _ _
  refine meets_ofExcept_bind ?_ fun _ _ _ _ _ _ _ => nofun
  rintro ⟨snapshot, amount⟩ _
  have stillRead {α : Type} {program : OnboardingRequest α}
      {post : Except CommerceException α → OnboardingShared → Prop} {start : OnboardingShared}
      (ends : program.EndsOwn action session post start) (isRead : ReadOwn start current) :
      program.EndsOwn action session
        (fun outcome later => post outcome later ∧ ReadOwn later current) start :=
    ends.frame (ReadOwn · current) (fun _ _ later => ReadOwn.lasting later) isRead
  refine endsOwn_bind (stillRead (endsOwn_linkedIntent call read) read) firstHolds ?_
    fun _ _ _ _ => nofun
  rintro (_ | linked) second secondHolds ⟨isLinked, readThen⟩
  · refine endsOwn_bind
      (stillRead (endsOwn_commerceCreatePaymentIntent call current.applicantId
        (intentDto current snapshot amount dto) payment secondHolds) readThen) secondHolds ?_
      fun _ _ _ _ => nofun
    rintro intent third thirdHolds ⟨isOwnIntent, readLater⟩
    have own := isOwnIntent intent rfl
    have links : (execute (.updateApplication current
        (.createPaymentIntent intent.id intent.status call.now))).EndsOwn action session
          (fun _ _ => True) third := by
      refine endsOwn_execute _ ?_ (fun _ _ => trivial) fun _ _ _ _ _ _ => trivial
      intro later lasting _
      obtain ⟨_, row, found, sameApplicant⟩ := readLater.lasting lasting
      obtain ⟨isOwn, stored, isStored, sameUser⟩ := own.lasting lasting
      simp [OnboardingWrite.linksOwn, ApplicationChange.intentId?, found, isStored, sameApplicant,
        isOwnOf_congr sameUser, isOwn]
    refine endsOwn_bind links thirdHolds ?_ fun _ _ _ _ => nofun
    intro updated fourth _ _
    refine (meets_pure _).mpr ?_
    rintro _ _ _ _ _ ⟨rfl⟩
    exact own.1
  · refine (meets_pure _).mpr ?_
    rintro _ _ _ _ _ ⟨rfl⟩
    exact isLinked linked rfl

end PaymentIntents

/-! ## All requests -/

section Runs

variable {runtime : Billing.Webhooks.Runtime} {session : Nat} {shared : OnboardingShared}

/-- What a request is answered with belongs to who pays. -/
def AnswersPayer (action : PaymentAction) (outcome : Except CommerceException PaymentAnswer) :
    Prop :=
  ∀ answer userId intent, outcome = .ok answer → action.payer? = some userId →
    answer.intent? = some intent → isOwnOf userId intent = true

theorem isUnlinking_of_follows {operation : Operation} {write : OnboardingWrite}
    (follows : write.Follows operation) (other : operation ≠ .createPaymentIntent) :
    write.IsUnlinking := by
  cases write with
  | createApplication row =>
    obtain ⟨call, applicantId, dto, rfl⟩ := follows.2
    rfl
  | updateApplication current change =>
    have isOperation : operation = change.operation := of_decide_eq_true follows.1
    cases change with
    | createPaymentIntent intentId status now => exact absurd isOperation other
    | _ => trivial
  | _ => trivial

theorem endsOwn_onboarding (action : OnboardingAction)
    (other : action.operation ≠ .createPaymentIntent)
    (noPayer : (PaymentAction.onboarding action).payer? = none) :
    ((PaymentAction.onboarding action).program runtime).EndsOwn (.onboarding action) session
      (fun outcome _ => AnswersPayer (.onboarding action) outcome) shared := by
  have ends : ((PaymentAction.onboarding action).program runtime).EndsOwn (.onboarding action)
      session (fun _ _ => True) shared :=
    endsOwn_of_transacts (fun _ follows => isUnlinking_of_follows follows other)
      ((follows_program runtime action).bind fun _ => transacts_pure _)
  refine ends.imp ?_
  intro _ _ _ answer userId intent _ isPayer
  rw [noPayer] at isPayer
  contradiction

theorem endsOwn_program (action : PaymentAction) (holds : OwnLinks shared) :
    (action.program runtime).EndsOwn action session (fun outcome _ => AnswersPayer action outcome)
      shared := by
  have failed (error : CommerceException) (later : OnboardingShared) :
      AnswersPayer action (.error error) :=
    fun _ _ _ => nofun
  cases action with
  | createPaymentIntent call userId dto payment =>
    refine endsOwn_bind (endsOwn_commerceCreatePaymentIntent call userId dto payment holds) holds
      ?_ failed
    intro intent later _ isOwn
    refine (meets_pure _).mpr ?_
    rintro _ _ _ _ _ _ ⟨rfl⟩ ⟨rfl⟩ ⟨rfl⟩
    exact (isOwn intent rfl).1
  | onboarding action =>
    cases action with
    | createPaymentIntent call userId id dto payment =>
      simp only [PaymentAction.program, OnboardingAction.program, bind_assoc, pure_bind]
      refine endsOwn_bind (endsOwn_createPaymentIntent call id userId dto payment holds) holds
        ?_ failed
      rintro ⟨row, intent⟩ later _ isOwn
      refine (meets_pure _).mpr ?_
      rintro _ _ _ _ _ _ ⟨rfl⟩ ⟨rfl⟩ ⟨rfl⟩
      exact isOwn row intent rfl
    | billing actorId request =>
      cases request with
      | topUp call userId dto payment =>
        simp only [PaymentAction.program, OnboardingAction.program, bind_assoc, pure_bind]
        refine endsOwn_bind (endsOwn_topUp actorId _ call userId dto payment holds) holds ?_
          failed
        intro answer later _ isOwn
        refine (meets_pure _).mpr ?_
        rintro _ _ _ _ _ intent ⟨rfl⟩ ⟨rfl⟩ isIntent
        cases answer with
        | toppedUp wallet created transactionId =>
          obtain rfl := Option.some.inj isIntent
          exact isOwn wallet created transactionId rfl
        | _ => contradiction
      | _ => exact endsOwn_onboarding _ nofun rfl
    | _ => exact endsOwn_onboarding _ nofun rfl

theorem insertsFree_of_run {write other : OnboardingWrite} {store after : Store}
    {result : write.Result} (run : write.body.run store = some (after, result))
    (apart : insertApart write other = true) (free : insertsFree other store = true) :
    insertsFree other after = true := by
  rcases isInsertion : other.insertion with _ | ⟨userId, idempotencyKey⟩
  · rw [insertsFree, isInsertion]
    rfl
  · rw [insertsFree, isInsertion, Option.all_some, Bool.not_eq_true'] at free ⊢
    rw [← Bool.not_eq_true]
    intro isForeign
    rcases hasForeignIntent_of_run run isForeign with wasForeign | ⟨owner, inserts, isOther⟩
    · rw [free] at wasForeign
      contradiction
    · rw [insertApart, inserts, isInsertion] at apart
      simp [isOther.symm] at apart

/-- In a run in which no user's look-up or insertion under a key meets a payment intent of another
user, no request is answered with, linked to or suppressed by one. -/
theorem isolated_of_reachableApart {store : Store} {state : PaymentState}
    (ownLinks : ∀ id row, store.application? id = some row → store.LinksOwn row)
    (reachable : state.ReachableApart runtime store) : state.Isolated := by
  have initially : OwnLinks (Shared.initial store) :=
    ⟨ownLinks, fun commit member => by simp [Shared.initial] at member⟩
  obtain ⟨holds, answers⟩ := ReadCommitted.Reachable.meets OnboardingWrite.guarded OwnLinks Lasting
    (fun action _ _ outcome _ => AnswersPayer action outcome) Lasting.refl
    (fun _ _ _ => Lasting.trans) initially
    (fun action _ _ holds _ => endsOwn_program action holds)
    (ReadCommitted.ReachableUndisturbed.reachable reachable)
  refine ⟨?_, holds.commits, ?_⟩
  · intro id action arrived answer userId intent found isPayer isIntent
    exact answers id action arrived answer found answer userId intent rfl isPayer isIntent
  · intro id connection write found isInside
    refine ReadCommitted.ReachableUndisturbed.isSafe OnboardingWrite.guarded ?_ reachable found
      isInside
    intro write other before after result run apart free
    exact insertsFree_of_run run apart free

end Runs

/-! ## One key of two users -/

namespace Sample

def opensWallet (id : Nat) : List (DatabaseEvent PaymentAction) :=
  [.query id, .query id, .begin id, .statement id, .commit id]

def topsUp (id : Nat) (userId idempotencyKey : String) : List (DatabaseEvent PaymentAction) :=
  [.arrive (.onboarding (.billing userId (.topUp (Billing.Sample.call "top-up") userId
    ⟨.finite 5, none, none, some idempotencyKey, none⟩ (.error .internal))))] ++ opensWallet id ++
    [.query id, .begin id, .statement id, .statement id, .statement id, .commit id]

def wantsIntent (id : Nat) (userId idempotencyKey : String) : List (DatabaseEvent PaymentAction) :=
  [.arrive (.createPaymentIntent (Billing.Sample.call "intent") userId
    ⟨.finite 8, none, none, some idempotencyKey, none⟩ (.error .internal))] ++ opensWallet id ++
    [.query id]

def insertsIntent (id : Nat) : List (DatabaseEvent PaymentAction) :=
  [.begin id, .statement id, .commit id]

def answerOf (state : PaymentState) (id : Nat) : Option (Option String × Option String × String) :=
  match state.sessions[id]? with
  | some ⟨action, _, .outside (.answer (.paymentIntent intent))⟩ =>
    some (action.payer?, intent.userId, intent.idempotencyKey)
  | _ => none

theorem noLinks (id : String) (row : TenantApplication)
    (found : store.application? id = some row) : store.LinksOwn row := by
  contradiction

end Sample

open Sample

/-- Two users with keys of their own. -/
theorem isolated_of_reachableApart_ownKeys : ∃ state : PaymentState,
      answerOf state 1 = some (some "bob", some "bob", "second") ∧ state.Isolated := by
  have run : ((topsUp 0 "ada" "first" ++ wantsIntent 1 "bob" "second" ++
      insertsIntent 1).foldlM
        (ReadCommitted.nextUndisturbed OnboardingWrite.body (PaymentAction.program runtime)
          keysApart insertsFree insertApart) (ReadCommitted.initial store)).map
            (fun state => answerOf state 1) =
      some (some (some "bob", some "bob", "second")) := by
    decide +kernel
  obtain ⟨state, reached, answer⟩ := Option.map_eq_some_iff.mp run
  exact ⟨state, answer, isolated_of_reachableApart noLinks
    (Transition.reachable_of_foldlM reached)⟩

/-- The second user is answered with what the first one has paid. -/
theorem answered_with_foreign_intent : ∃ state : PaymentState,
      state.Reachable runtime Conditions.none store ∧
        answerOf state 1 = some (some "bob", some "ada", "first") ∧ ¬ state.Isolated := by
  have run : ((topsUp 0 "ada" "first" ++ wantsIntent 1 "bob" "first").foldlM
      (ReadCommitted.next OnboardingWrite.body (PaymentAction.program runtime)
        Conditions.none) (ReadCommitted.initial store)).map
          (fun state => answerOf state 1) =
      some (some (some "bob", some "ada", "first")) := by
    decide +kernel
  obtain ⟨state, reached, answer⟩ := Option.map_eq_some_iff.mp run
  refine ⟨state, Transition.reachable_of_foldlM reached, answer, ?_⟩
  intro isolated
  unfold answerOf at answer
  split at answer
  · rename_i action arrived intent found
    simp only [Option.some.injEq, Prod.mk.injEq] at answer
    obtain ⟨isPayer, isOwner, _⟩ := answer
    have own := isolated.answered 1 action arrived _ "bob" intent found isPayer rfl
    rw [isOwnOf, isOwner] at own
    contradiction
  · contradiction

end Csms.Applications
