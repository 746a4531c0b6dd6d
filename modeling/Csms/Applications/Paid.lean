import Csms.Applications.Entitled
import Csms.Applications.Stages

/-!
# Nobody is activated for free

Every request keeps all applications entitled to their stages, as long as its steps are
trusted.  The two that link a payment intent need to know what they link; the others need
to know nothing.
-/

namespace Csms.Applications

open Database Js
open Billing (Call CommerceException PaymentIntent PaymentSession)

/-! ## Commits -/

/-- All applications are entitled to their stages. -/
def AllEntitled (shared : OnboardingShared) : Prop :=
  ∀ id row, shared.store.application? id = some row → Entitled shared row

/-- The statement's operation knows what it links. -/
def OnboardingWrite.IsInformed (shared : OnboardingShared) : OnboardingWrite → Prop
  | updateApplication current change =>
    ∀ row, shared.store.application? current.id = some row → change.IsInformed shared current row
  | _ => True

variable {first second : OnboardingShared} {change : ApplicationChange}

theorem ApplicationChange.IsInformed.kept (later : Kept first second)
    {current row : TenantApplication} (informed : change.IsInformed first current row) :
    change.IsInformed second current row := by
  cases change with
  | createPaymentIntent intentId status now =>
    obtain ⟨applicant, ⟨due, isDue, backs⟩, settled⟩ := informed
    exact ⟨applicant, ⟨due, isDue, backs.kept later⟩, fun isSettled =>
      wasSettled_of_subset later.history (settled isSettled)⟩
  | syncPaymentStatus intentId status now =>
    exact fun isLinked isSettled =>
      wasSettled_of_subset later.history (informed isLinked isSettled)
  | _ => trivial

theorem undisturbed_of_isUndisturbed {store : Store} {current row : TenantApplication}
    (undisturbed : (OnboardingWrite.updateApplication current change).isUndisturbed store = true)
    (found : store.application? current.id = some row)
    (sets : (change.nextStage current).isSome = true) : Undisturbed row current := by
  have some_of : (change.nextStage current).isNone = false := by
    rw [← Option.not_isSome, sets]
    rfl
  rw [OnboardingWrite.isUndisturbed, some_of, Bool.false_or, found, Option.all_some,
    Bool.and_eq_true, Bool.and_eq_true] at undisturbed
  obtain ⟨stage, price, payment⟩ := undisturbed
  exact ⟨of_decide_eq_true stage, of_decide_eq_true price, of_decide_eq_true payment⟩

section Commit

variable {shared : OnboardingShared} {write : OnboardingWrite} {after : Store} {session : Nat}
  {request : OnboardingAction} {result : write.Result}

/-- A trusted statement keeps all applications entitled. -/
theorem allEntitled_commit (holds : AllEntitled shared) (guarded : write.IsGuarded)
    (informed : write.IsInformed shared) (permitted : trusted.onCommit request write shared = true)
    (run : write.body.run shared.store = some (after, result)) :
    Kept shared (shared.commit session write after) ∧
      AllEntitled (shared.commit session write after) := by
  simp only [trusted, Bool.and_eq_true] at permitted
  obtain ⟨⟨undisturbed, proper⟩, isTrusted⟩ := permitted
  have later : Kept shared (shared.commit session write after) := kept_commit run isTrusted
  refine ⟨later, ?_⟩
  intro id row found
  rw [Shared.store_commit, OnboardingWrite.application?_of_run run id] at found
  have stays {old : TenantApplication} (isOld : shared.store.application? id = some old) :
      Entitled (shared.commit session write after) old :=
    (holds id old isOld).kept later
  cases write with
  | createApplication new =>
    rcases isOld : shared.store.application? id with _ | old
    · rw [OnboardingWrite.applicationAfter, isOld, Option.none_or] at found
      split at found
      · obtain rfl := Option.some.inj found
        obtain ⟨call, applicantId, dto, rfl⟩ := guarded
        exact Entitled.of_new call applicantId dto
      · contradiction
    · rw [OnboardingWrite.applicationAfter, isOld, Option.some_or] at found
      obtain rfl := Option.some.inj found
      exact stays isOld
  | updateApplication current change =>
    rw [OnboardingWrite.applicationAfter] at found
    split at found
    · rename_i isIt
      obtain ⟨old, isOld, rfl⟩ := Option.map_eq_some_iff.mp found
      have isCurrent : current.id = old.id := by
        rw [(Table.find?_eq_some_iff.mp isOld).2, isIt]
      subst isIt
      refine (stays isOld).apply ?_ guarded.1 guarded.2 proper ((informed old isOld).kept later)
        (undisturbed_of_isUndisturbed undisturbed isOld)
      intro isMade made
      exact ⟨_, shared.mem_commits_commit session _ after, current, change, rfl, isCurrent, made⟩
    · exact stays found
  | _ => exact stays found

end Commit

/-! ## Requests -/

/-- The request keeps all applications entitled, whatever others do that keep them so, and
ends with the postcondition. -/
abbrev OnboardingRequest.Ends {α : Type} (request : OnboardingAction) (session : Nat)
    (post : Except CommerceException α → OnboardingShared → Prop) (program : OnboardingRequest α)
    (shared : OnboardingShared) : Prop :=
  program.Meets (fun write => write.body.run) trusted AllEntitled Kept request session post shared

section Requests

variable {request : OnboardingAction} {session : Nat} {shared : OnboardingShared}

theorem ends_bind {α γ : Type} {program : OnboardingRequest α} {next : α → OnboardingRequest γ}
    {middle : Except CommerceException α → OnboardingShared → Prop}
    {post : Except CommerceException γ → OnboardingShared → Prop}
    (first : program.Ends request session middle shared) (holds : AllEntitled shared)
    (onward : ∀ value later, AllEntitled later → middle (.ok value) later →
      (next value).Ends request session post later)
    (failed : ∀ error later, post (.error error) later) :
    (program >>= next).Ends request session post shared :=
  Request.Meets.bind Kept.refl first holds onward fun error later _ => failed error later

/-- A statement of an operation that knows what it links. -/
theorem ends_execute (write : OnboardingWrite)
    {post : Except CommerceException write.Result → OnboardingShared → Prop}
    (guarded : write.IsGuarded) (informed : ∀ later, Kept shared later → write.IsInformed later)
    (failed : ∀ error later, post (.error error) later)
    (done : ∀ (later : OnboardingShared) after result, write.isTrusted later.store = true →
      write.body.run later.store = some (after, result) →
        ∀ further, Kept (later.commit session write after) further → post (.ok result) further) :
    (execute write).Ends request session post shared := by
  refine (meets_commit _ _).mpr ?_
  intro later kept holds
  refine ⟨fun _ _ _ => failed _ _, ?_⟩
  intro permitted after result run
  rcases allEntitled_commit holds guarded (informed later kept) permitted run with ⟨step, still⟩
  refine ⟨step, still, ?_⟩
  intro further onward _
  exact done later after result (Bool.and_eq_true _ _ ▸ permitted).2 run further onward

variable {current : TenantApplication}

theorem ends_update (guarded : change.guard current.onboardingStage = true)
    (priced : change.IsPriced)
    (informed : ∀ later, Kept shared later → (OnboardingWrite.updateApplication current change).IsInformed later) :
    (execute (.updateApplication current change)).Ends request session (fun _ _ => True) shared :=
  ends_execute _ ⟨guarded, priced⟩ informed (fun _ _ => trivial) fun _ _ _ _ _ _ _ => trivial

/-- A request that links no payment intents. -/
theorem ends_of_transacts {α : Type} {allowed : OnboardingWrite → Prop}
    (each : ∀ write, allowed write → write.IsGuarded ∧ ∀ shared, write.IsInformed shared)
    {program : OnboardingRequest α} (transacts : program.Transacts allowed) :
    program.Ends request session (fun _ _ => True) shared := by
  apply transacts.meets
  intro shared write after result holds isAllowed permitted run
  rcases each write isAllowed with ⟨guarded, informed⟩
  exact allEntitled_commit holds guarded (informed shared) permitted run

theorem isGuarded_of_isBilling (write : OnboardingWrite) (isBilling : write.isBilling = true) :
    write.IsGuarded ∧ ∀ shared, write.IsInformed shared := by
  cases write with
  | billing | createPaymentIntent | updateUser => exact ⟨trivial, fun _ => trivial⟩
  | _ => contradiction

theorem ends_commerce {α : Type} (party : Party) (program : Billing.Commerce α) :
    (commerce party program).Ends request session (fun _ _ => True) shared :=
  ends_of_transacts isGuarded_of_isBilling (transacts_commerce (fun _ => rfl) program)

theorem ends_linkedIntent (call : Call) (current : TenantApplication) :
    (linkedIntent call current).Ends request session (fun _ _ => True) shared :=
  ends_of_transacts isGuarded_of_isBilling (transacts_linkedIntent call current fun _ _ => rfl)

theorem ends_orchestrate (call : Call) (userId : String)
    (payment : Except CommerceException PaymentSession) :
    (orchestrate call userId payment).Ends request session (fun _ _ => True) shared :=
  ends_of_transacts isGuarded_of_isBilling
    (transacts_orchestrate call userId payment fun _ _ => rfl)

/-! ## What is read of an application -/

/-- The application was read when it was entitled to its stage, and its applicant is still
the same. -/
def Known (shared : OnboardingShared) (current : TenantApplication) : Prop :=
  Entitled shared current ∧ ∃ row, shared.store.application? current.id = some row ∧
    row.applicantId = current.applicantId

theorem Known.kept (later : Kept first second) (known : Known first current) :
    Known second current := by
  obtain ⟨entitled, row, found, same⟩ := known
  rcases later.applicants current.id row found with ⟨changed, changedFound, stillSame⟩
  exact ⟨entitled.kept later, changed, changedFound, stillSame.trans same⟩

theorem known_of_application? (holds : AllEntitled shared) {id : String}
    (found : shared.store.application? id = some current) : Known shared current := by
  refine ⟨holds id current found, current, ?_, rfl⟩
  rw [(Table.find?_eq_some_iff.mp found).2]
  exact found

theorem ends_findOwn (id applicantId : String) : (findOwn id applicantId).Ends request session
      (fun outcome later => ∀ current, outcome = .ok current → Known later current) shared := by
  rw [findOwn, findByIdOrThrow, bind_assoc]
  refine (meets_read_bind _ _ _).mpr ?_
  intro read _ readHolds _
  refine meets_ofExcept_bind ?_ fun _ _ _ _ _ _ => nofun
  intro current isFound
  refine meets_ofExcept_bind ?_ fun _ _ _ _ _ _ => nofun
  intro _ _
  refine (meets_pure _).mpr ?_
  rintro later kept _ _ ⟨rfl⟩
  rcases found : read.store.application? id with _ | row
  · rw [found] at isFound
    contradiction
  · rw [found] at isFound
    obtain rfl := Except.ok.inj isFound
    exact (known_of_application? readHolds found).kept kept

/-! ## Creating a payment intent -/

def IsBacking (shared : OnboardingShared) (due : Due) (intent : PaymentIntent) : Prop :=
  Backs shared due intent.id ∧
    (intent.status = .final .settled → wasSettled shared intent.id = true)

variable {intent : PaymentIntent}

theorem IsBacking.kept (later : Kept first second) {due : Due}
    (backing : IsBacking first due intent) : IsBacking second due intent :=
  ⟨backing.1.kept later, fun isSettled =>
    wasSettled_of_subset later.history (backing.2 isSettled)⟩

theorem isBacking_of_paymentIntent? {due : Due}
    (found : shared.store.paymentIntent? intent.id = some intent) (isDue : due.isOf intent = true)
    (settled : intent.status = .final .settled → wasSettled shared intent.id = true) :
    IsBacking shared due intent :=
  ⟨⟨intent, found, isDue, settled⟩, settled⟩

/-- The amount is one of the digits that a payment can have, and the currency is normal. -/
structure Due.IsExact (due : Due) : Prop where
  amount : JsNumber.toFixed 4 due.amount = due.amount
  hasCurrency : due.currency ≠ ""
  currency : toUpperCase (trim due.currency) = due.currency

variable {dto : CreatePaymentIntentDto}

theorem due?_eq_some_iff {userId : String} {due : Due} : dto.due? userId = some due ↔
      dto.amount = .finite due.amount ∧ dto.currency = some due.currency ∧ userId = due.userId := by
  rw [CreatePaymentIntentDto.due?]
  rcases due with ⟨user, amount, currency⟩
  cases dto.amount <;> cases dto.currency <;> simp [and_comm, and_left_comm]

theorem normalizeAmount_of_isExact {due : Due} (exact : due.IsExact) {field : String}
    {amount : ℚ≥0} (normalized : Billing.normalizeAmount (.finite due.amount) field = .ok amount) :
    (amount : ℚ) = due.amount := by
  unfold Billing.normalizeAmount at normalized
  dsimp only at normalized
  split at normalized
  · obtain rfl := Except.ok.inj normalized
    exact exact.amount
  · contradiction

theorem normalizeCurrencyCode_of_isExact {due : Due} (exact : due.IsExact)
    {fallback currency : String}
    (normalized : Billing.normalizeCurrencyCode (some due.currency) fallback = .ok currency) :
    currency = due.currency := by
  rw [Billing.normalizeCurrencyCode, orText, if_neg exact.hasCurrency, Option.getD_some,
    exact.currency] at normalized
  split at normalized
  · contradiction
  · exact (Except.ok.inj normalized).symm

theorem paymentIntent?_of_create {row result : PaymentIntent} {store after : Store}
    (run : (OnboardingWrite.createPaymentIntent row).body.run store = some (after, result)) :
    result = row ∧ after.paymentIntent? row.id = some row := by
  rcases OnboardingWrite.run_onBilling_eq_some_iff.mp run with ⟨left, inBilling, rfl⟩
  rcases Billing.run_insertPaymentIntent inBilling with ⟨free, _, done⟩
  obtain ⟨rfl, rfl⟩ := Prod.mk.inj (Option.some.inj done)
  refine ⟨rfl, ?_⟩
  have inserted := Billing.Store.paymentIntentTable.find?_insert row store.billing row.id
  rw [free, Option.none_or, if_pos rfl] at inserted
  exact inserted

/-- The lookup by key finds nothing else than the payment that is wanted. -/
theorem isBacking_of_paymentIntentFor {userId key : String} {due : Due}
    (isDue : dto.due? userId = some due)
    (safe : (OnboardingQuery.paymentIntentFor userId dto key).isTrusted shared = true)
    (found : shared.store.paymentIntentOfKey key = some intent) : IsBacking shared due intent := by
  rw [OnboardingQuery.isTrusted, found, Option.all_some, isDue, Option.any_some,
    Bool.and_eq_true] at safe
  obtain ⟨isOf, settled⟩ := safe
  have stored : shared.store.paymentIntent? intent.id = some intent :=
    Table.find?_eq_some_iff.mpr ⟨List.mem_of_find?_eq_some found, rfl⟩
  refine isBacking_of_paymentIntent? stored isOf ?_
  intro isSettled
  rw [isSettled] at settled
  exact settled

theorem ends_insertPaymentIntent {due : Due} {row : PaymentIntent} (isOf : due.isOf row = true)
    (ongoing : row.status ≠ .final .settled) :
    (execute (.createPaymentIntent row)).Ends request session
      (fun outcome later => ∀ intent : PaymentIntent, outcome = .ok intent →
        IsBacking later due intent) shared := by
  refine ends_execute (.createPaymentIntent row) trivial (fun _ _ => trivial) (fun _ _ _ => nofun)
    ?_
  intro later after result _ run further kept intent same
  obtain ⟨isRow, stored⟩ := paymentIntent?_of_create run
  obtain rfl : intent = row := (Except.ok.inj same).symm.trans isRow
  have backing :
      IsBacking (later.commit session (.createPaymentIntent intent) after) due intent :=
    isBacking_of_paymentIntent? stored isOf fun isSettled => absurd isSettled ongoing
  exact backing.kept kept

theorem ends_commerceCreatePaymentIntent (call : Call) {userId : String} {due : Due}
    (isDue : dto.due? userId = some due) (exact : due.IsExact)
    (payment : Except CommerceException PaymentSession) (holds : AllEntitled shared) :
    (commerceCreatePaymentIntent call userId dto payment).Ends request session
      (fun outcome later => ∀ intent, outcome = .ok intent → IsBacking later due intent)
      shared := by
  obtain ⟨isAmount, isCurrency, rfl⟩ := due?_eq_some_iff.mp isDue
  refine ends_bind (ends_commerce _ _) holds ?_ (by rintro _ _ _ ⟨⟩)
  intro wallet first firstHolds _
  refine meets_ofExcept_bind ?_ (by rintro _ _ _ _ _ _ ⟨⟩)
  intro _ _
  refine ends_bind (ends_commerce _ _) firstHolds ?_ (by rintro _ _ _ ⟨⟩)
  intro paymentMethodId second _ _
  refine (meets_read_bind _ _ _).mpr ?_
  intro read _ readHolds safe
  rcases found : read.store.paymentIntentOfKey _ with _ | intent
  · refine meets_ofExcept_bind ?_ (by rintro _ _ _ _ _ _ ⟨⟩)
    intro amount normalizedAmount
    refine meets_ofExcept_bind ?_ (by rintro _ _ _ _ _ _ ⟨⟩)
    intro currency normalizedCurrency
    rw [isAmount] at normalizedAmount
    rw [isCurrency] at normalizedCurrency
    have sameAmount := normalizeAmount_of_isExact exact normalizedAmount
    have sameCurrency := normalizeCurrencyCode_of_isExact exact normalizedCurrency
    refine ends_bind (ends_orchestrate call due.userId payment) readHolds ?_ (by rintro _ _ _ ⟨⟩)
    intro paymentSession third _ _
    apply ends_insertPaymentIntent
    · simp [Due.isOf, pendingIntent, sameAmount, sameCurrency]
    · rintro ⟨⟩
  · refine (meets_pure _).mpr ?_
    rintro later kept _ _ ⟨rfl⟩
    exact (isBacking_of_paymentIntentFor isDue safe found).kept kept

/-- What can be paid is exact, and what the stored application says. -/
theorem due?_of_payable (entitled : Entitled shared current) {snapshot : PricingSnapshot}
    {amount : ℚ} (isPayable : payable current = .ok (snapshot, amount)) :
    ∃ due : Due, current.due? = some due ∧ due.IsExact ∧ due.userId = current.applicantId ∧
      due.amount = amount ∧ due.currency = snapshot.currency := by
  rcases stored : current.pricingSnapshot with _ | price
  · rw [payable, TenantApplication.parsedSnapshot, stored] at isPayable
    contradiction
  · have parsed : current.parsedSnapshot = some price.based := by
      rw [TenantApplication.parsedSnapshot, stored, Option.map_some, parsePricingSnapshot_toJson]
    simp only [payable, parsed] at isPayable
    split at isPayable
    · contradiction
    · rename_i standard
      rcases isAmount : price.dueNowAmount with _ | value
      · rw [show price.based.dueNowAmount = none from isAmount] at isPayable
        contradiction
      · rw [show price.based.dueNowAmount = some value from isAmount] at isPayable
        obtain ⟨rfl, rfl⟩ := Prod.mk.inj (Except.ok.inj isPayable)
        rcases entitled.exact price stored (Bool.eq_false_iff.mpr standard) with ⟨normal, rounded⟩
        rw [PricingSnapshot.hasNormalCurrency, Bool.and_eq_true, decide_eq_true_eq,
          decide_eq_true_eq] at normal
        refine ⟨⟨current.applicantId, value, price.currency⟩, ?_, ?_, rfl, rfl, rfl⟩
        · rw [TenantApplication.due?, stored]
          simp [isAmount]
        · exact ⟨rounded value isAmount, normal.1, normal.2⟩

theorem ends_known {α : Type} {program : OnboardingRequest α}
    {post : Except CommerceException α → OnboardingShared → Prop}
    (ends : program.Ends request session post shared) (known : Known shared current) :
    program.Ends request session (fun outcome later => post outcome later ∧ Known later current)
      shared :=
  ends.frame (Known · current) (fun _ _ later => Known.kept later) known

theorem isInformed_createPaymentIntent (known : Known shared current) {due : Due}
    (isDue : current.due? = some due) (backing : IsBacking shared due intent) (now : Int) :
    (OnboardingWrite.updateApplication current
      (.createPaymentIntent intent.id intent.status now)).IsInformed shared := by
  obtain ⟨_, stored, found, same⟩ := known
  intro row isRow
  obtain rfl := Option.some.inj (found.symm.trans isRow)
  exact ⟨same, ⟨due, isDue, backing.1⟩, backing.2⟩

theorem ends_createPaymentIntent (call : Call) (id applicantId : String)
    (dto : CreateApplicationPaymentIntentDto) (payment : Except CommerceException PaymentSession)
    (holds : AllEntitled shared) :
    (createPaymentIntent call id applicantId dto payment).Ends request session (fun _ _ => True)
      shared := by
  refine ends_bind (ends_findOwn id applicantId) holds ?_ fun _ _ => trivial
  intro current first firstHolds isKnown
  refine meets_ofExcept_bind ?_ fun _ _ _ _ _ => trivial
  intro _ isStage
  refine meets_ofExcept_bind ?_ fun _ _ _ _ _ => trivial
  rintro ⟨snapshot, amount⟩ isPayable
  rcases due?_of_payable (isKnown current rfl).1 isPayable with
    ⟨due, isDue, exact, sameUser, sameAmount, sameCurrency⟩
  refine ends_bind (ends_known (ends_linkedIntent call current) (isKnown current rfl)) firstHolds ?_
    fun _ _ => trivial
  rintro (_ | linked) second secondHolds ⟨_, known⟩
  · have asked : (intentDto current snapshot amount dto).due? current.applicantId = some due :=
      due?_eq_some_iff.mpr
        ⟨by rw [sameAmount]; rfl, by rw [sameCurrency]; rfl, sameUser.symm⟩
    refine ends_bind
      (ends_known (ends_commerceCreatePaymentIntent call asked exact payment secondHolds) known)
      secondHolds ?_ fun _ _ => trivial
    rintro intent third thirdHolds ⟨isBacking, stillKnown⟩
    have backing := isBacking intent rfl
    refine ends_bind (ends_update (assertStage_eq_ok isStage) trivial ?_) thirdHolds ?_
      fun _ _ => trivial
    · intro later kept
      exact isInformed_createPaymentIntent (stillKnown.kept kept) isDue (backing.kept kept) call.now
    · exact fun _ _ _ _ => (meets_pure _).mpr fun _ _ _ => trivial
  · exact (meets_pure _).mpr fun _ _ _ => trivial

/-! ## Synchronising a payment -/

section Commerce

variable {α γ : Type} (party : Party)

theorem commerce_bind (first : Billing.Commerce α) (next : α → Billing.Commerce γ) :
    commerce party (first >>= next) = commerce party first >>= fun value =>
      commerce party (next value) :=
  onPart_bind _ _ _ _ first next

theorem commerce_ofExcept (found : Except CommerceException α) :
    commerce party (Request.ofExcept found) = Request.ofExcept found :=
  onPart_ofExcept _ _ _ _ found

theorem commerce_execute (write : Billing.Write) :
    commerce party (Billing.execute write) = execute (.billing party write) :=
  (onPart_commit _ _ _ _ write _).trans (bind_pure (execute (.billing party write)))

theorem commerce_findPaymentIntent (id : String) : commerce party (Billing.findPaymentIntent id) =
      Request.read (.billing (.paymentIntent id)) fun store => store.paymentIntent? id :=
  rfl

variable {post : Except CommerceException γ → OnboardingShared → Prop}

theorem ends_commerce_findPaymentIntent_bind (id : String)
    {next : Option PaymentIntent → Billing.Commerce γ}
    (onward : ∀ read, Kept shared read → AllEntitled read →
      (commerce party (next (read.store.paymentIntent? id))).Ends request session post read) :
    (commerce party (Billing.findPaymentIntent id >>= next)).Ends request session post shared := by
  rw [commerce_bind, commerce_findPaymentIntent]
  refine (meets_read_bind _ _ _).mpr ?_
  intro read kept holds _
  exact onward read kept holds

theorem ends_commerce_ofExcept_bind {found : Except CommerceException α}
    {next : α → Billing.Commerce γ} (accepted : ∀ value, found = .ok value →
      (commerce party (next value)).Ends request session post shared)
    (failed : ∀ error later, post (.error error) later) :
    (commerce party (Request.ofExcept found >>= next)).Ends request session post shared := by
  rw [commerce_bind, commerce_ofExcept]
  exact meets_ofExcept_bind accepted fun error _ later _ _ => failed error later

theorem ends_commerce_bind {program : Billing.Commerce α} {next : α → Billing.Commerce γ}
    {middle : Except CommerceException α → OnboardingShared → Prop}
    (first : (commerce party program).Ends request session middle shared)
    (holds : AllEntitled shared)
    (onward : ∀ value later, AllEntitled later → middle (.ok value) later →
      (commerce party (next value)).Ends request session post later)
    (failed : ∀ error later, post (.error error) later) :
    (commerce party (program >>= next)).Ends request session post shared := by
  rw [commerce_bind]
  exact ends_bind first holds onward failed

end Commerce

/-- The payment intent under the id is handed back, and is not settled unless a trusted
party has done it, if it was linked. -/
def IsSynced (shared : OnboardingShared) (linked : Prop) (intentId : String)
    (intent : PaymentIntent) : Prop :=
  intent.id = intentId ∧
    (linked → intent.status = .final .settled → wasSettled shared intentId = true)

variable {intentId : String}

theorem IsSynced.kept (later : Kept first second) {linked : Prop}
    (synced : IsSynced first linked intentId intent) : IsSynced second linked intentId intent :=
  ⟨synced.1, fun isLinked isSettled =>
    wasSettled_of_subset later.history (synced.2 isLinked isSettled)⟩

theorem ends_getPaymentIntent (call : Call) (party : Party) {linked : Prop}
    (backs : linked → ∃ due, Backs shared due intentId) :
    (commerce party (getPaymentIntent call intentId)).Ends request session
      (fun outcome later => ∀ intent, outcome = .ok (some intent) →
        IsSynced later linked intentId intent) shared := by
  refine ends_commerce_findPaymentIntent_bind party intentId ?_
  intro read step _
  rcases found : read.store.paymentIntent? intentId with _ | intent
  · exact (meets_pure _).mpr fun _ _ _ _ => nofun
  · refine ends_commerce_ofExcept_bind party ?_ fun _ _ _ => nofun
    intro _ _
    refine (meets_pure _).mpr ?_
    rintro later kept _ _ ⟨rfl⟩
    refine IsSynced.kept kept ⟨(Table.find?_eq_some_iff.mp found).2, ?_⟩
    intro isLinked isSettled
    obtain ⟨due, backing⟩ := backs isLinked
    obtain ⟨stored, isStored, _, settled⟩ := backing.kept step
    obtain rfl := Option.some.inj (found.symm.trans isStored)
    exact settled isSettled

theorem ends_executeFinalStatus (party : Party) (existing : PaymentIntent)
    (input : Billing.ApplyFinalStatusInput) (now : Int) (linked : Prop) :
    (commerce party (Billing.execute (.applyFinalStatus existing input now))).Ends request session
      (fun outcome later => ∀ intent : PaymentIntent, outcome = .ok intent →
        IsSynced later linked existing.id intent) shared := by
  rw [commerce_execute]
  refine ends_execute (.billing party (.applyFinalStatus existing input now)) trivial
    (fun _ _ => trivial) (fun _ _ _ => nofun) ?_
  intro later after result isTrusted run further kept intent same
  rcases OnboardingWrite.run_onBilling_eq_some_iff.mp run with ⟨left, inBilling, rfl⟩
  rcases Billing.updated_of_run_applyFinalStatusTx inBilling with ⟨stored, found, isResult⟩
  obtain rfl : intent = Billing.finalStatusChange existing input now stored :=
    (Except.ok.inj same).symm.trans isResult
  refine ⟨(Table.find?_eq_some_iff.mp found).2, ?_⟩
  intro _ isSettled
  have settles : input.status = .settled := Billing.PaymentIntentStatus.final.inj isSettled
  have settling : (OnboardingWrite.billing party (.applyFinalStatus existing input now)).settling =
      some (party, existing.id) :=
    if_pos settles
  exact wasSettled_of_subset kept.history (wasSettled_commit settling isTrusted)

theorem ends_executeReconcile (party : Party) (existing : PaymentIntent)
    (status : Billing.PaymentIntentOngoingStatus) (providerReference : Option (Option String))
    (note : Option String) (linked : Prop) :
    (commerce party (Billing.execute (.reconcile existing status providerReference note))).Ends
      request session (fun outcome later => ∀ intent : PaymentIntent, outcome = .ok intent →
        IsSynced later linked existing.id intent) shared := by
  rw [commerce_execute]
  refine ends_execute (.billing party (.reconcile existing status providerReference note)) trivial
    (fun _ _ => trivial) (fun _ _ _ => nofun) ?_
  intro later after result _ run further _ intent same
  rcases OnboardingWrite.run_onBilling_eq_some_iff.mp run with ⟨left, inBilling, rfl⟩
  rcases Tx.run_updateRow_eq_some_iff.mp inBilling with ⟨stored, found, done⟩
  obtain rfl : intent = Billing.reconcileChange existing status providerReference note stored :=
    (Except.ok.inj same).symm.trans (Prod.mk.inj (Option.some.inj done)).2.symm
  exact ⟨(Table.find?_eq_some_iff.mp found).2, fun _ => nofun⟩

/-- The row that a lookup by id has found. -/
theorem id_of_orThrow {store : Store} {error : CommerceException} {existing : PaymentIntent}
    (found : Billing.orThrow (store.paymentIntent? intentId) error = .ok existing) :
    existing.id = intentId := by
  rcases stored : store.paymentIntent? intentId with _ | intent
  · rw [stored] at found
    contradiction
  · rw [stored] at found
    obtain rfl := Except.ok.inj found
    exact (Table.find?_eq_some_iff.mp stored).2

theorem ends_applyFinalStatus (call : Call) (party : Party) {input : Billing.ApplyFinalStatusInput}
    (named : input.intentId = some intentId) (hasId : intentId ≠ "") (linked : Prop) :
    (commerce party (Billing.applyFinalStatus call input)).Ends request session
      (fun outcome later => ∀ intent, outcome = .ok intent →
        IsSynced later linked intentId intent) shared := by
  have byId : Billing.resolveIntent input.intentId input.provider
      (input.providerPaymentId.getD none) input.idempotencyKey =
        Billing.findPaymentIntent intentId := by
    rw [Billing.resolveIntent, named, orText, if_neg hasId]
  rw [Billing.applyFinalStatus, byId]
  refine ends_commerce_findPaymentIntent_bind party intentId ?_
  intro read _ _
  refine ends_commerce_ofExcept_bind party ?_ (by rintro _ _ _ ⟨⟩)
  intro existing isFound
  refine ends_commerce_ofExcept_bind party ?_ (by rintro _ _ _ ⟨⟩)
  intro _ _
  obtain rfl := id_of_orThrow isFound
  exact ends_executeFinalStatus party existing input call.now linked

theorem ends_reconcilePaymentIntent (call : Call) (party : Party) (hasId : intentId ≠ "")
    (dto : Billing.ReconcilePaymentIntentDto) (linked : Prop) :
    (commerce party (Billing.reconcilePaymentIntent call intentId dto)).Ends request session
      (fun outcome later => ∀ intent, outcome = .ok (.paymentIntent intent) →
        IsSynced later linked intentId intent) shared := by
  refine ends_commerce_findPaymentIntent_bind party intentId ?_
  intro read _ readHolds
  refine ends_commerce_ofExcept_bind party ?_ fun _ _ _ => nofun
  intro existing isFound
  refine ends_commerce_ofExcept_bind party ?_ fun _ _ _ => nofun
  intro _ _
  refine ends_commerce_ofExcept_bind party ?_ fun _ _ _ => nofun
  intro status _
  obtain rfl := id_of_orThrow isFound
  cases Billing.requestedStatus status dto.markSettled with
  | final finalStatus =>
    refine ends_commerce_bind party (ends_applyFinalStatus call party rfl hasId linked) readHolds
      ?_ fun _ _ _ => nofun
    intro updated later _ synced
    refine (meets_pure _).mpr ?_
    rintro further kept _ _ ⟨rfl⟩
    exact (synced updated rfl).kept kept
  | ongoing ongoingStatus =>
    refine ends_commerce_bind party
      (ends_executeReconcile party existing ongoingStatus _ dto.note linked) readHolds ?_
      fun _ _ _ => nofun
    intro updated later _ synced
    refine (meets_pure _).mpr ?_
    rintro further kept _ _ ⟨rfl⟩
    exact (synced updated rfl).kept kept

theorem ends_syncedIntent (call : Call) (party : Party) (hasId : intentId ≠ "")
    (dto : SyncApplicationPaymentDto) {linked : Prop}
    (backs : linked → ∃ due, Backs shared due intentId) (holds : AllEntitled shared) :
    (commerce party (syncedIntent call intentId dto)).Ends request session
      (fun outcome later => ∀ intent, outcome = .ok intent → IsSynced later linked intentId intent)
      shared := by
  rw [syncedIntent]
  rcases orText dto.status none with _ | status
  · refine ends_commerce_bind party (ends_getPaymentIntent call party backs) holds ?_
      fun _ _ _ => nofun
    intro found later _ synced
    rw [commerce_ofExcept]
    rcases found with _ | intent
    · exact (meets_throw _).mpr fun _ _ _ _ => nofun
    · refine (meets_pure _).mpr ?_
      rintro further kept _ _ ⟨rfl⟩
      exact (synced intent rfl).kept kept
  · refine ends_commerce_bind party (ends_reconcilePaymentIntent call party hasId _ linked) holds
      ?_ fun _ _ _ => nofun
    intro answer later _ synced
    rw [commerce_ofExcept]
    cases answer with
    | paymentIntent intent =>
      refine (meets_pure _).mpr ?_
      rintro further kept _ _ ⟨rfl⟩
      exact (synced intent rfl).kept kept
    | _ => exact (meets_throw _).mpr fun _ _ _ _ => nofun

/-- A payment intent that is to be synchronised has an id. -/
theorem hasId_of_named {wanted linked : Option String} {error : CommerceException}
    (named : Billing.orThrow (orText wanted (orText linked none)) error = .ok intentId) :
    intentId ≠ "" := by
  rcases chosen : orText wanted (orText linked none) with _ | text
  · rw [chosen] at named
    contradiction
  · rw [chosen] at named
    obtain rfl := Except.ok.inj named
    exact ne_empty_of_orText chosen fun _ inner => ne_empty_of_orText inner nofun

theorem ends_syncPaymentStatus (call : Call) (party : Party) (id applicantId : String)
    (dto : SyncApplicationPaymentDto) (holds : AllEntitled shared) :
    (syncPaymentStatus call party id applicantId dto).Ends request session (fun _ _ => True)
      shared := by
  refine ends_bind (ends_findOwn id applicantId) holds ?_ fun _ _ => trivial
  intro current first firstHolds isKnown
  refine meets_ofExcept_bind ?_ fun _ _ _ _ _ => trivial
  intro intentId isNamed
  have hasId : intentId ≠ "" := hasId_of_named isNamed
  have backs (isLinked : current.paymentIntentId = some intentId) :
      ∃ due, Backs first due intentId := by
    obtain ⟨_, due, _, backing⟩ := (isKnown current rfl).1.linked intentId isLinked
    exact ⟨due, backing⟩
  refine ends_bind (ends_syncedIntent call party hasId dto backs firstHolds) firstHolds ?_
    fun _ _ => trivial
  intro intent second secondHolds isSynced
  obtain ⟨rfl, settled⟩ := isSynced intent rfl
  refine ends_bind (ends_update rfl trivial ?_) secondHolds ?_ fun _ _ => trivial
  · intro later kept row _ isLinked isSettled
    exact wasSettled_of_subset kept.history (settled isLinked isSettled)
  · exact fun _ _ _ _ => (meets_pure _).mpr fun _ _ _ => trivial

/-! ## All requests -/

/-- Other operations than the two link no payment intents. -/
theorem isInformed_of_isOf {operation : Operation} {write : OnboardingWrite}
    (isOf : write.isOf operation = true) (noCreation : operation ≠ .createPaymentIntent)
    (noSync : operation ≠ .syncPaymentStatus) : write.IsInformed shared := by
  cases write with
  | updateApplication current change =>
    have isOperation : operation = change.operation := of_decide_eq_true isOf
    cases change with
    | createPaymentIntent intentId status now => exact absurd isOperation noCreation
    | syncPaymentStatus intentId status now => exact absurd isOperation noSync
    | _ => exact fun _ _ => trivial
  | _ => trivial

theorem ends_program (runtime : Billing.Webhooks.Runtime) (action : OnboardingAction)
    (holds : AllEntitled shared) :
    (action.program runtime).Ends request session (fun _ _ => True) shared := by
  have linksNothing (noCreation : action.operation ≠ .createPaymentIntent)
      (noSync : action.operation ≠ .syncPaymentStatus) :
      (action.program runtime).Ends request session (fun _ _ => True) shared :=
    ends_of_transacts
      (fun write follows =>
        ⟨follows.2, fun _ => isInformed_of_isOf follows.1 noCreation noSync⟩)
      (follows_program runtime action)
  cases action with
  | createPaymentIntent call userId id dto payment =>
    refine ends_bind (ends_createPaymentIntent call id userId dto payment holds) holds ?_
      fun _ _ => trivial
    exact fun _ _ _ _ => (meets_pure _).mpr fun _ _ _ => trivial
  | syncPaymentIntent call userId id dto =>
    refine ends_bind
      (ends_of_transacts isGuarded_of_isBilling (transacts_resolvePaymentSyncActor id userId))
      holds ?_ fun _ _ => trivial
    intro applicantId later laterHolds _
    refine ends_bind (ends_syncPaymentStatus call _ id applicantId dto laterHolds) laterHolds ?_
      fun _ _ => trivial
    exact fun _ _ _ _ => (meets_pure _).mpr fun _ _ _ => trivial
  | _ => exact linksNothing nofun nofun

end Requests

/-- In a run of trusted steps that starts without applications, one that counts as paid, and
whose price is not negotiated, was approved, has a confirmed tier, and is paid for. -/
theorem earned_of_trusted {runtime : Billing.Webhooks.Runtime} {store : Store}
    {state : OnboardingState} (noApplications : store.onboarding.applications = Table.empty)
    (reachable : state.Reachable runtime trusted store) (id : String) (row : TenantApplication)
    (found : state.shared.store.application? id = some row) (standard : row.isCustom = false)
    (isPaid : row.onboardingStage.isPaid = true) : Earned state.shared row := by
  have initially : AllEntitled (Shared.initial store) := by
    intro id row found
    rw [Store.application?, Shared.initial, noApplications] at found
    contradiction
  have keeps (action : OnboardingAction) (session : Nat) :
      (action.program runtime).Keeps (fun write => write.body.run) trusted AllEntitled Kept action
        session :=
    fun _ holds => ends_program runtime action holds
  have entitled : AllEntitled state.shared :=
    ReadCommitted.Reachable.keeps OnboardingWrite.guarded Kept.refl
      (fun _ _ _ => Kept.trans) keeps initially reachable
  exact (entitled id row found).earned isPaid standard

/-! ## An applicant who did not pay -/

namespace Sample

def adminSettles (id : Nat) : List (DatabaseEvent OnboardingAction) :=
  declares "root" "SETTLED" ++ queries id 6 ++ writes id ++ writes id

def paymentOf (shared : OnboardingShared) : Option (TenantOnboardingStage × Bool × Option Bool) :=
  (shared.store.application? applicationId).map fun row =>
    (row.onboardingStage, row.isCustom, row.paymentIntentId.map (wasSettled shared))

end Sample

open Sample

/-- The super admin has the payment, and activates the application. -/
theorem earned_of_trusted_completed : ∃ (state : OnboardingState) (row : TenantApplication),
      state.shared.store.application? applicationId = some row ∧
        row.onboardingStage = .completed ∧ Earned state.shared row := by
  have run : (afterFrom store trusted
      (onboards ++ adminSettles 4 ++ activates 5 "act")).map
        (fun state => paymentOf state.shared) =
      some (some (.completed, false, some true)) := by
    decide +kernel
  rcases Option.map_eq_some_iff.mp run with ⟨state, reached, payment⟩
  rcases Option.map_eq_some_iff.mp payment with ⟨row, found, facts⟩
  simp only [Prod.mk.injEq] at facts
  obtain ⟨isStage, standard, _⟩ := facts
  refine ⟨state, row, found, isStage, ?_⟩
  exact earned_of_trusted rfl (Transition.reachable_of_foldlM reached) applicationId row found
    standard (by rw [isStage]; rfl)

/-- The applicant declares that the payment is settled. -/
theorem applicant_settles_own_payment :
    ∃ state : OnboardingState, state.Reachable runtime Conditions.none store ∧
      ∃ row, state.shared.store.application? applicationId = some row ∧
        row.onboardingStage = .paymentConfirmedPendingActivation ∧ row.isCustom = false ∧
          ¬ Earned state.shared row := by
  have run : (afterFrom store Conditions.none
      (onboards ++ declaresSettled 4)).map
        (fun state => paymentOf state.shared) =
      some (some (.paymentConfirmedPendingActivation, false, some false)) := by
    decide +kernel
  rcases Option.map_eq_some_iff.mp run with ⟨state, reached, payment⟩
  rcases Option.map_eq_some_iff.mp payment with ⟨row, found, facts⟩
  simp only [Prod.mk.injEq] at facts
  obtain ⟨isStage, standard, notSettled⟩ := facts
  refine ⟨state, Transition.reachable_of_foldlM reached, row, found, isStage, standard, ?_⟩
  rintro ⟨_, _, _, intentId, _, _, isLinked, _, _, settled⟩
  rw [isLinked, Option.map_some, settled] at notSettled
  contradiction

end Csms.Applications
