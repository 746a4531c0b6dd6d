import Csms.Billing.Commerce
import Csms.Service.Program
import Csms.Table.MarkedOnce

/-!
# Payment methods

A user has payment methods, one of which can be the default.  Each request clears the flag of the
others in the transaction in which it sets one.  Requests are answered one after another.
-/

namespace Csms.Billing

open Js Transition

inductive PaymentMethodType where
  | card
  | mobileMoney
  | bankTransfer
  | wallet
  | qrHosted
  deriving DecidableEq, Repr

inductive PaymentMethodStatus where
  | active
  | inactive
  | revoked
  deriving DecidableEq, Repr

structure StoredMethod where
  (id userId : String)
  organizationId : Option String
  type : PaymentMethodType
  provider : Option String
  (label tokenRef : String)
  last4 : Option String
  (expiryMonth expiryYear : Option Int)
  isDefault : Bool
  status : PaymentMethodStatus
  metadata : Option JsRecord

abbrev Methods := Table StoredMethod StoredMethod.id

structure CreatePaymentMethodDto where
  (type tokenRef : String)
  (provider label last4 : Option String)
  (expiryMonth expiryYear : Option Int)
  setDefault : Option Bool
  metadata : Option JsRecord

structure UpdatePaymentMethodDto where
  (status label provider tokenRef last4 : Option String)
  (expiryMonth expiryYear : Option Int)
  setDefault : Option Bool
  metadata : Option JsRecord

/-! ## Normalisation -/

def normalizePaymentMethodType (value : String) : Except CommerceException PaymentMethodType :=
  match toUpperCase (trim value) with
  | "CARD" => .ok .card
  | "MOBILE_MONEY" => .ok .mobileMoney
  | "BANK_TRANSFER" => .ok .bankTransfer
  | "WALLET" => .ok .wallet
  | "QR_HOSTED" => .ok .qrHosted
  | _ => .error (.badRequest "Unsupported payment method type")

def normalizePaymentMethodStatus (value : String) : Except CommerceException PaymentMethodStatus :=
  match toUpperCase (trim value) with
  | "ACTIVE" => .ok .active
  | "INACTIVE" => .ok .inactive
  | "REVOKED" => .ok .revoked
  | _ => .error (.badRequest "Unsupported payment method status")

/-- The last four digits of a text. -/
def sanitizeLast4 (value : Option String) : Except CommerceException (Option String) :=
  match optionalTrimmed value with
  | none => .ok none
  | some candidate =>
    let digits := candidate.toList.filter Char.isDigit
    if digits.length < 4 then .error (.badRequest "last4 must contain at least four digits")
    else .ok (some (String.ofList (digits.drop (digits.length - 4))))

/-- `type.replace('_', ' ')`. -/
def PaymentMethodType.words : PaymentMethodType → String
  | card => "CARD"
  | mobileMoney => "MOBILE MONEY"
  | bankTransfer => "BANK TRANSFER"
  | wallet => "WALLET"
  | qrHosted => "QR HOSTED"

def defaultPaymentMethodLabel (type : PaymentMethodType) (suffix : Option String) : String :=
  let words := type.words
  match suffix with
  | some suffix => s!"{words} •••• {suffix}"
  | none => words

namespace UpdatePaymentMethodDto

variable (dto : UpdatePaymentMethodDto)

def readStatus : Except CommerceException (Option PaymentMethodStatus) :=
  match orText dto.status none with
  | some value => (normalizePaymentMethodStatus value).map some
  | none => .ok none

/-- The digits that are asked for; `some none` takes them away. -/
def readLast4 : Except CommerceException (Option (Option String)) :=
  match orText dto.last4 none with
  | some value => (sanitizeLast4 (some value)).map some
  | none => .ok none

/-- The data of the update; what is undefined stays as it is. -/
def applyTo (status : Option PaymentMethodStatus) (last4 : Option (Option String))
    (method : StoredMethod) : StoredMethod :=
  { method with
    status := status.getD method.status
    provider := (nullableOptionalTrimmed dto.provider).getD method.provider
    label := (optionalTrimmed dto.label).getD method.label
    tokenRef := (optionalTrimmed dto.tokenRef).getD method.tokenRef
    last4 := last4.getD method.last4
    expiryMonth := dto.expiryMonth.or method.expiryMonth
    expiryYear := dto.expiryYear.or method.expiryYear
    isDefault := dto.setDefault = some true
    metadata := dto.metadata.or method.metadata }

theorem id_applyTo (status : Option PaymentMethodStatus) (last4 : Option (Option String))
    (method : StoredMethod) : (dto.applyTo status last4 method).id = method.id :=
  rfl

end UpdatePaymentMethodDto

/-! ## Requests -/

def StoredMethod.unset (method : StoredMethod) : StoredMethod :=
  { method with isDefault := false }

theorem id_unset (method : StoredMethod) : method.unset.id = method.id :=
  rfl

/-- `findFirst({ where: { id: methodId, userId } })`. -/
def findMethod (methodId userId : String) (methods : Methods) : Option StoredMethod :=
  (methods.find? methodId).filter (·.userId = userId)

/-- `updateMany` of the user's default methods. -/
def clearDefaults (userId : String) (methods : Methods) : Methods :=
  methods.updateWhere (fun method => method.userId = userId && method.isDefault) (·.unset) id_unset

/-- The first statement of a transaction that may set a default. -/
def clearIfAsked (setDefault : Option Bool) (userId : String) (methods : Methods) : Methods :=
  if setDefault = some true then clearDefaults userId methods else methods

def userInScope (users : Table User User.id) (call : Call) (userId : String) :
    Except CommerceException User := do
  let normalizedUserId ← requiredTrimmed userId "userId"
  let user ← orThrow (users.find? normalizedUserId) (.notFound "User not found")
  assertUserInScope call user
  return user

def createPaymentMethod (users : Table User User.id) (call : Call) (userId : String)
    (dto : CreatePaymentMethodDto) (id : String) (methods : Methods) :
    Except CommerceException (StoredMethod × Methods) := do
  let user ← userInScope users call userId
  let type ← normalizePaymentMethodType dto.type
  let tokenRef ← requiredTrimmed dto.tokenRef "tokenRef"
  let last4 ← sanitizeLast4 dto.last4
  let method : StoredMethod := {
    id, userId, type, tokenRef, last4
    organizationId := user.organizationId
    provider := optionalTrimmed dto.provider
    label := (optionalTrimmed dto.label).getD (defaultPaymentMethodLabel type last4)
    expiryMonth := dto.expiryMonth
    expiryYear := dto.expiryYear
    isDefault := dto.setDefault = some true
    status := .active
    metadata := dto.metadata }
  match (clearIfAsked dto.setDefault userId methods).insert? method with
  | some grown => return (method, grown)
  | none => throw .internal

def UpdatePaymentMethodDto.write (dto : UpdatePaymentMethodDto) (userId id : String)
    (status : Option PaymentMethodStatus) (last4 : Option (Option String)) (methods : Methods) :
    Methods :=
  let next := (clearIfAsked dto.setDefault userId methods).updateWhere (·.id = id)
    (dto.applyTo status last4) (dto.id_applyTo status last4)
  -- a revoked method is not the default
  next.updateWhere (fun method => method.id = id && method.status = .revoked && method.isDefault)
    (·.unset) id_unset

/-- The transaction takes back what it wrote when the status or the digits are refused. -/
def updatePaymentMethod (userId methodId : String) (dto : UpdatePaymentMethodDto)
    (methods : Methods) : Except CommerceException (StoredMethod × Methods) := do
  let existing ← orThrow (findMethod methodId userId methods)
    (.notFound "Payment method not found")
  let status ← dto.readStatus
  let last4 ← dto.readLast4
  let later := dto.write userId existing.id status last4 methods
  let updated ← orThrow (later.find? existing.id) (.notFound "Payment method not found")
  return (updated, later)

def revokePaymentMethod (userId methodId : String) (methods : Methods) :
    Except CommerceException Methods := do
  let method ← orThrow (findMethod methodId userId methods)
    (.notFound "Payment method not found")
  return methods.updateWhere (·.id = method.id)
    (fun method => { method with status := .revoked, isDefault := false }) fun _ => rfl

def setDefaultPaymentMethod (userId methodId : String) (methods : Methods) :
    Except CommerceException (StoredMethod × Methods) := do
  let method ← orThrow (findMethod methodId userId methods)
    (.notFound "Payment method not found")
  if method.status ≠ .active then
    throw (.badRequest "Only ACTIVE payment methods can be set as default")
  let later := (clearDefaults userId methods).updateWhere (·.id = method.id)
    (fun method => { method with isDefault := true }) fun _ => rfl
  let updated ← orThrow (later.find? method.id) (.notFound "Payment method not found")
  return (updated, later)

inductive MethodRequest where
  /-- The id is that of the row it creates. -/
  | create (call : Call) (userId : String) (dto : CreatePaymentMethodDto) (id : String)
  | update (userId methodId : String) (dto : UpdatePaymentMethodDto)
  | revoke (userId methodId : String)
  | setDefault (userId methodId : String)

def MethodRequest.handle (users : Table User User.id) (methods : Methods) :
    MethodRequest → Except CommerceException Methods
  | .create call userId dto id =>
    (createPaymentMethod users call userId dto id methods).map (·.2)
  | .update userId methodId dto => (updatePaymentMethod userId methodId dto methods).map (·.2)
  | .revoke userId methodId => revokePaymentMethod userId methodId methods
  | .setDefault userId methodId => (setDefaultPaymentMethod userId methodId methods).map (·.2)

/-- A request that is refused writes nothing. -/
def afterRequest (users : Table User User.id) (methods : Methods) (request : MethodRequest) :
    Methods :=
  (request.handle users methods).toOption.getD methods

/-! ## The flags -/

/-- A user has one default method at most, and it is active. -/
structure DefaultsSound (methods : Methods) : Prop where
  once : MarkedOnce StoredMethod.id StoredMethod.isDefault StoredMethod.userId methods.rows
  active : ∀ method ∈ methods.rows, method.isDefault = true → method.status = .active

def flags (methods : Methods) : List (String × Bool) :=
  methods.rows.map fun method => (method.id, method.isDefault)

/-- An update that does not mention the flag leaves all of them as they were. -/
def KeepsUnmentioned (users : Table User User.id) (methods : Methods) : MethodRequest → Prop
  | .update userId methodId dto => dto.setDefault = none →
      flags (afterRequest users methods (.update userId methodId dto)) = flags methods
  | _ => True

/-- The update that makes a method the default does not leave it inactive. -/
def StaysActive (methods : Methods) : MethodRequest → Prop
  | .update userId methodId dto => dto.setDefault = some true → ∀ method status last4,
      findMethod methodId userId methods = some method → dto.readStatus = .ok status →
        dto.readLast4 = .ok last4 → status.getD method.status ≠ .inactive
  | _ => True

/-- The update that does not mention the flag is not one of a default method. -/
def SparesDefault (methods : Methods) : MethodRequest → Prop
  | .update userId methodId dto => dto.setDefault = none → ∀ method status last4,
      findMethod methodId userId methods = some method → dto.readStatus = .ok status →
        dto.readLast4 = .ok last4 → method.isDefault = false
  | _ => True

/-! ## What a request does to the rows -/

theorem eq_some_of_orThrow {α : Type} {found : Option α} {error : CommerceException} {value : α}
    (isFound : orThrow found error = .ok value) : found = some value := by
  cases found with
  | none => cases isFound
  | some other => exact congrArg some (Except.ok.inj isFound)

/-- A row after `clearDefaults`. -/
def StoredMethod.cleared (userId : String) (method : StoredMethod) : StoredMethod :=
  if method.userId = userId && method.isDefault then method.unset else method

/-- A row after `setDefaultPaymentMethod`. -/
def StoredMethod.promoted (userId id : String) (method : StoredMethod) : StoredMethod :=
  if method.id = id then { method.cleared userId with isDefault := true }
  else method.cleared userId

def UpdatePaymentMethodDto.changed (dto : UpdatePaymentMethodDto) (userId id : String)
    (status : Option PaymentMethodStatus) (last4 : Option (Option String))
    (method : StoredMethod) : StoredMethod :=
  let method := if dto.setDefault = some true then method.cleared userId else method
  let method := if method.id = id then dto.applyTo status last4 method else method
  if method.id = id && method.status = .revoked && method.isDefault then method.unset else method

variable {method : StoredMethod}

section

variable {userId methodId : String} {methods : Methods}

@[simp]
theorem id_cleared (method : StoredMethod) : (method.cleared userId).id = method.id := by
  unfold StoredMethod.cleared
  split <;> rfl

@[simp]
theorem userId_cleared (method : StoredMethod) :
    (method.cleared userId).userId = method.userId := by
  unfold StoredMethod.cleared
  split <;> rfl

@[simp]
theorem status_cleared (method : StoredMethod) :
    (method.cleared userId).status = method.status := by
  unfold StoredMethod.cleared
  split <;> rfl

theorem isDefault_cleared_iff (method : StoredMethod) : (method.cleared userId).isDefault = true ↔
      method.isDefault = true ∧ method.userId ≠ userId := by
  unfold StoredMethod.cleared
  split
  · rename_i holds
    obtain ⟨isUser, isDefault⟩ := by simpa using holds
    simp [StoredMethod.unset, isUser]
  · rename_i fails
    simpa [and_comm, imp_not_comm] using fails

theorem rows_clearDefaults :
    (clearDefaults userId methods).rows = methods.rows.map (·.cleared userId) :=
  rfl

theorem findMethod_eq_some_iff : findMethod methodId userId methods = some method ↔
      method ∈ methods.rows ∧ method.id = methodId ∧ method.userId = userId := by
  rw [findMethod, Option.filter_eq_some_iff, Table.find?_eq_some_iff, decide_eq_true_iff, and_assoc]

variable {dto : UpdatePaymentMethodDto} {id : String} {status : Option PaymentMethodStatus}
  {last4 : Option (Option String)}

theorem id_changed (method : StoredMethod) :
    (dto.changed userId id status last4 method).id = method.id := by
  unfold UpdatePaymentMethodDto.changed
  dsimp only
  split_ifs <;> simp [StoredMethod.unset, UpdatePaymentMethodDto.applyTo]

theorem userId_changed (method : StoredMethod) :
    (dto.changed userId id status last4 method).userId = method.userId := by
  unfold UpdatePaymentMethodDto.changed
  dsimp only
  split_ifs <;> simp [StoredMethod.unset, UpdatePaymentMethodDto.applyTo]

theorem changed_of_ne (isOther : method.id ≠ id) : dto.changed userId id status last4 method =
      if dto.setDefault = some true then method.cleared userId else method := by
  have keeps : (if dto.setDefault = some true then method.cleared userId else method).id ≠ id := by
    split <;> simpa using isOther
  simp only [UpdatePaymentMethodDto.changed, if_neg keeps, decide_eq_false keeps, Bool.false_and,
    Bool.false_eq_true, if_false]

/-- The row that is updated is the default if that is asked for, unless it is revoked. -/
theorem changed_self (method : StoredMethod) :
    (dto.changed userId method.id status last4 method).status = status.getD method.status ∧
      ((dto.changed userId method.id status last4 method).isDefault = true ↔
        dto.setDefault = some true ∧ status.getD method.status ≠ .revoked) := by
  have keeps : (if dto.setDefault = some true then method.cleared userId else method).id =
      method.id := by
    split <;> simp
  have sameStatus : (if dto.setDefault = some true then method.cleared userId else method).status =
      method.status := by
    split <;> simp
  unfold UpdatePaymentMethodDto.changed
  dsimp only
  generalize (if dto.setDefault = some true then method.cleared userId else method) = base at *
  rw [if_pos keeps]
  by_cases isRevoked : status.getD base.status = .revoked <;>
    by_cases isAsked : dto.setDefault = some true <;>
      simp [UpdatePaymentMethodDto.applyTo, StoredMethod.unset, keeps, ← sameStatus, isRevoked,
        isAsked]

theorem rows_write : (dto.write userId id status last4 methods).rows =
    methods.rows.map (dto.changed userId id status last4) := by
  rw [UpdatePaymentMethodDto.write, Table.rows_updateWhere, Table.rows_updateWhere]
  by_cases isAsked : dto.setDefault = some true
  · rw [clearIfAsked, if_pos isAsked, rows_clearDefaults, List.map_map, List.map_map]
    refine List.map_congr_left fun method _ => ?_
    simp only [UpdatePaymentMethodDto.changed, if_pos isAsked, Function.comp_apply,
      decide_eq_true_eq]
  · rw [clearIfAsked, if_neg isAsked, List.map_map]
    refine List.map_congr_left fun method _ => ?_
    simp only [UpdatePaymentMethodDto.changed, if_neg isAsked, Function.comp_apply,
      decide_eq_true_eq]

end

/-- An update that is refused writes nothing. -/
theorem afterRequest_update_cases (users : Table User User.id) (methods : Methods)
    (userId methodId : String) (dto : UpdatePaymentMethodDto) :
    (∃ existing status last4, findMethod methodId userId methods = some existing ∧
      dto.readStatus = .ok status ∧ dto.readLast4 = .ok last4 ∧
        (afterRequest users methods (.update userId methodId dto)).rows =
          methods.rows.map (dto.changed userId existing.id status last4)) ∨
    ((∀ existing status last4, findMethod methodId userId methods = some existing →
      dto.readStatus = .ok status → dto.readLast4 ≠ .ok last4) ∧
        afterRequest users methods (.update userId methodId dto) = methods) := by
  rw [afterRequest, MethodRequest.handle, updatePaymentMethod]
  cases found : findMethod methodId userId methods with
  | none => exact Or.inr ⟨fun _ _ _ isFound => (nomatch isFound), rfl⟩
  | some existing =>
    cases isStatus : dto.readStatus with
    | error denied => exact Or.inr ⟨fun _ _ _ _ isOk => (nomatch isOk), rfl⟩
    | ok status =>
      cases isLast4 : dto.readLast4 with
      | error denied => exact Or.inr ⟨fun _ _ _ _ _ isOk => (nomatch isOk), rfl⟩
      | ok last4 =>
        refine Or.inl ⟨existing, status, last4, rfl, rfl, rfl, ?_⟩
        obtain ⟨member, -, -⟩ := findMethod_eq_some_iff.mp found
        have isThere : (dto.write userId existing.id status last4 methods).find?
            existing.id = some (dto.changed userId existing.id status last4 existing) :=
          Table.find?_eq_some_iff.mpr
            ⟨rows_write ▸ List.mem_map_of_mem member, id_changed existing⟩
        simp only [orThrow, bind, Except.bind, isThere, pure, Except.pure, Except.map,
          Except.toOption, Option.getD_some, rows_write]

/-! ## One request -/

section

variable {methods later : Methods} {change : StoredMethod → StoredMethod}

section

variable (sound : DefaultsSound methods) (isChange : later.rows = methods.rows.map change)
    (keepsId : ∀ method, (change method).id = method.id)
    (keepsUser : ∀ method, (change method).userId = method.userId)
include sound isChange keepsId keepsUser

/-- Rows that are the default after a change were so before, with the same status. -/
theorem DefaultsSound.map_of_unmarks
    (unmarks : ∀ method ∈ methods.rows, (change method).isDefault = true → method.isDefault = true ∧ (change method).status = method.status) :
    DefaultsSound later := by
  constructor
  · rw [isChange]
    exact sound.once.map_of_unmarks keepsId keepsUser fun method member marked =>
      (unmarks method member marked).1
  · rw [isChange]
    intro method member marked
    obtain ⟨old, isOld, rfl⟩ := List.mem_map.mp member
    obtain ⟨wasMarked, sameStatus⟩ := unmarks old isOld marked
    exact sameStatus.trans (sound.active old isOld wasMarked)

/-- A change that leaves no other default of the user is sound exactly when the row it is about is
active if it is the default. -/
theorem DefaultsSound.map_iff_of_promotes {target : StoredMethod} (isTarget : target ∈ methods.rows)
    (others : ∀ method ∈ methods.rows, method.id ≠ target.id → (change method).isDefault = true → method.isDefault = true ∧ method.userId ≠ target.userId ∧ (change method).status = method.status) :
    DefaultsSound later ↔
      ((change target).isDefault = true → (change target).status = .active) := by
  constructor
  · exact fun after => after.active _ (isChange ▸ List.mem_map_of_mem isTarget)
  · intro isActive
    constructor
    · rw [isChange]
      refine markedOnce_map_of_promotes keepsId keepsUser target.id target.userId ?_ ?_ ?_
      · exact fun method member same =>
          congrArg StoredMethod.userId (methods.eq_of_key_eq member isTarget same)
      · intro method member marked isOther
        obtain ⟨wasMarked, isElsewhere, -⟩ := others method member isOther marked
        exact ⟨wasMarked, isElsewhere⟩
      · exact fun first firstMem second secondMem _ _ => sound.once first firstMem second secondMem
    · rw [isChange]
      intro method member marked
      obtain ⟨old, isOld, rfl⟩ := List.mem_map.mp member
      by_cases same : old.id = target.id
      · rw [methods.eq_of_key_eq isOld isTarget same] at marked ⊢
        exact isActive marked
      · obtain ⟨wasMarked, -, sameStatus⟩ := others old isOld same marked
        exact sameStatus.trans (sound.active old isOld wasMarked)

end

theorem DefaultsSound.clear (sound : DefaultsSound methods) (setDefault : Option Bool)
    (userId : String) : DefaultsSound (clearIfAsked setDefault userId methods) := by
  unfold clearIfAsked
  split
  · exact sound.map_of_unmarks rows_clearDefaults id_cleared userId_cleared
      fun method _ marked => ⟨((isDefault_cleared_iff method).mp marked).1, status_cleared method⟩
  · exact sound

end

section

variable {methods later : Methods} (sound : DefaultsSound methods)
include sound

theorem DefaultsSound.of_create {users : Table User User.id} {call : Call} {userId : String}
    {dto : CreatePaymentMethodDto} {id : String}
    (created : createPaymentMethod users call userId dto id methods = .ok (method, later)) :
    DefaultsSound later := by
  obtain ⟨user, -, typed⟩ := Service.bind_eq_ok_iff.mp created
  obtain ⟨type, -, named⟩ := Service.bind_eq_ok_iff.mp typed
  obtain ⟨tokenRef, -, numbered⟩ := Service.bind_eq_ok_iff.mp named
  obtain ⟨last4, -, inserted⟩ := Service.bind_eq_ok_iff.mp numbered
  have base := sound.clear dto.setDefault userId
  dsimp only at inserted
  split at inserted
  · rename_i grown isGrown
    obtain ⟨-, rows⟩ := Table.insert?_eq_some_iff.mp isGrown
    obtain ⟨rfl, rfl⟩ := Prod.mk.inj (Except.ok.inj inserted)
    constructor
    · rw [rows]
      refine (markedOnce_append_singleton_iff base.once _).mpr ?_
      intro isMarked other isOther otherMarked sameUser
      rw [clearIfAsked, if_pos (of_decide_eq_true isMarked), rows_clearDefaults] at isOther
      obtain ⟨old, -, rfl⟩ := List.mem_map.mp isOther
      rw [userId_cleared] at sameUser
      exact absurd sameUser ((isDefault_cleared_iff old).mp otherMarked).2
    · rw [rows]
      intro other isOther marked
      rcases List.mem_append.mp isOther with isOld | isNew
      · exact base.active other isOld marked
      · obtain rfl := List.mem_singleton.mp isNew
        rfl
  · cases inserted

theorem DefaultsSound.of_revoke {userId methodId : String}
    (revoked : revokePaymentMethod userId methodId methods = .ok later) : DefaultsSound later := by
  obtain ⟨method, -, written⟩ := Service.bind_eq_ok_iff.mp revoked
  obtain rfl := Except.ok.inj written
  refine sound.map_of_unmarks (Table.rows_updateWhere _ _ _ _) ?_ ?_ ?_
  · intro other
    split <;> rfl
  · intro other
    split <;> rfl
  · intro other _ marked
    split at marked
    · contradiction
    · rename_i isOther
      exact ⟨marked, congrArg StoredMethod.status (if_neg isOther)⟩

theorem DefaultsSound.of_setDefault {userId methodId : String}
    (accepted : setDefaultPaymentMethod userId methodId methods = .ok (method, later)) :
    DefaultsSound later := by
  obtain ⟨found, isFound, checked⟩ := Service.bind_eq_ok_iff.mp accepted
  obtain ⟨member, -, isUser⟩ := findMethod_eq_some_iff.mp (eq_some_of_orThrow isFound)
  split at checked
  · cases checked
  · rename_i isActive
    obtain ⟨_, -, written⟩ := Service.bind_eq_ok_iff.mp checked
    obtain ⟨rfl, rfl⟩ := Prod.mk.inj (Except.ok.inj written)
    refine (@DefaultsSound.map_iff_of_promotes _ _ (·.promoted userId found.id) sound
      ?_ ?_ ?_ found member ?_).mpr ?_
    · rw [Table.rows_updateWhere, rows_clearDefaults, List.map_map]
      simp only [Function.comp_def, decide_eq_true_eq, id_cleared, StoredMethod.promoted]
    · intro other
      unfold StoredMethod.promoted
      split <;> simp
    · intro other
      unfold StoredMethod.promoted
      split <;> simp
    · intro other _ isOther marked
      rw [StoredMethod.promoted, if_neg isOther] at marked ⊢
      obtain ⟨wasMarked, isElsewhere⟩ := (isDefault_cleared_iff other).mp marked
      exact ⟨wasMarked, isUser ▸ isElsewhere, status_cleared other⟩
    · intro _
      rw [StoredMethod.promoted, if_pos rfl]
      exact (status_cleared found).trans (not_not.mp isActive)

end

theorem defaultsSound_afterRequest_iff (users : Table User User.id) (methods : Methods)
    (request : MethodRequest) (sound : DefaultsSound methods) :
    DefaultsSound (afterRequest users methods request) ↔ StaysActive methods request := by
  cases request with
  | create call userId dto id =>
    refine iff_of_true ?_ trivial
    rw [afterRequest, MethodRequest.handle]
    cases created : createPaymentMethod users call userId dto id methods with
    | error denied => exact sound
    | ok answer => exact sound.of_create created
  | revoke userId methodId =>
    refine iff_of_true ?_ trivial
    rw [afterRequest, MethodRequest.handle]
    cases revoked : revokePaymentMethod userId methodId methods with
    | error denied => exact sound
    | ok later => exact sound.of_revoke revoked
  | setDefault userId methodId =>
    refine iff_of_true ?_ trivial
    rw [afterRequest, MethodRequest.handle]
    cases accepted : setDefaultPaymentMethod userId methodId methods with
    | error denied => exact sound
    | ok answer => exact sound.of_setDefault accepted
  | update userId methodId dto =>
    rcases afterRequest_update_cases users methods userId methodId dto with
      ⟨existing, status, last4, found, isStatus, isLast4, rows⟩ | ⟨refused, same⟩
    · obtain ⟨member, -, isUser⟩ := findMethod_eq_some_iff.mp found
      by_cases isAsked : dto.setDefault = some true
      · rw [sound.map_iff_of_promotes rows id_changed userId_changed member]
        · obtain ⟨newStatus, isDefault⟩ := @changed_self userId dto status last4 existing
          rw [isDefault, newStatus]
          constructor
          · intro stays _ method otherStatus otherLast4 isFound isRead _ isInactive
            rw [found] at isFound
            rw [isStatus] at isRead
            obtain rfl := Option.some.inj isFound
            obtain rfl := Except.ok.inj isRead
            have isActive := stays ⟨isAsked, by rw [isInactive]; decide⟩
            rw [isInactive] at isActive
            contradiction
          · intro stays asked
            have notInactive := stays isAsked existing status last4 found isStatus isLast4
            cases isNow : status.getD existing.status with
            | active => rfl
            | inactive => exact absurd isNow notInactive
            | revoked => exact absurd isNow asked.2
        · intro method _ isOther marked
          rw [changed_of_ne isOther, if_pos isAsked] at marked ⊢
          obtain ⟨wasMarked, isElsewhere⟩ := (isDefault_cleared_iff method).mp marked
          exact ⟨wasMarked, isUser ▸ isElsewhere, status_cleared method⟩
      · refine iff_of_true (sound.map_of_unmarks rows id_changed userId_changed ?_)
          fun asked => absurd asked isAsked
        intro method isMethod marked
        by_cases isOther : method.id = existing.id
        · rw [← isOther] at marked
          exact absurd ((changed_self method).2.mp marked).1 isAsked
        · rw [changed_of_ne isOther, if_neg isAsked] at marked ⊢
          exact ⟨marked, rfl⟩
    · rw [same]
      exact iff_of_true sound fun _ existing status last4 found isStatus isLast4 =>
        absurd isLast4 (refused existing status last4 found isStatus)

/-- An update without the flag clears that of the method it is about, and no other. -/
theorem keepsUnmentioned_iff (users : Table User User.id) (methods : Methods)
    (request : MethodRequest) :
    KeepsUnmentioned users methods request ↔ SparesDefault methods request := by
  cases request with
  | create | revoke | setDefault => exact Iff.rfl
  | update userId methodId dto =>
    refine forall_congr' fun unmentioned => ?_
    have notAsked : dto.setDefault ≠ some true := by simp [unmentioned]
    rcases afterRequest_update_cases users methods userId methodId dto with
      ⟨existing, status, last4, found, isStatus, isLast4, rows⟩ | ⟨refused, same⟩
    · obtain ⟨member, -, -⟩ := findMethod_eq_some_iff.mp found
      rw [flags, flags, rows, List.map_map, List.map_inj_left]
      have isUnset : (dto.changed userId existing.id status last4 existing).isDefault = false :=
        Bool.eq_false_iff.mpr fun marked => notAsked ((changed_self existing).2.mp marked).1
      constructor
      · intro kept method _ _ isFound _ _
        rw [found] at isFound
        obtain rfl := Option.some.inj isFound
        exact (Prod.mk.inj (kept existing member)).2.symm.trans isUnset
      · intro spares method isMethod
        have wasUnset := spares existing status last4 found isStatus isLast4
        rw [Function.comp_apply, id_changed, Prod.mk.injEq]
        refine ⟨rfl, ?_⟩
        by_cases isOther : method.id = existing.id
        · rw [methods.eq_of_key_eq isMethod member isOther, isUnset, wasUnset]
        · rw [changed_of_ne isOther, if_neg notAsked]
    · rw [same]
      exact iff_of_true rfl fun existing status last4 found isStatus isLast4 =>
        absurd isLast4 (refused existing status last4 found isStatus)

/-- Along a run of requests a user has one default at most, which is active, and updates that do not
mention the flag leave all flags alone, exactly when each update that asks for the default leaves
the method active or revoked and each update that does not mention it is of a method that is not
the default. -/
theorem keepsDefaults_iff (users : Table User User.id) {methods : Methods}
    (sound : DefaultsSound methods) (requests : List MethodRequest) :
    (∀ reached ∈ states (afterRequest users) methods requests, DefaultsSound reached) ∧
        StepsMeet (afterRequest users) (KeepsUnmentioned users) methods requests ↔
      StepsMeet (afterRequest users) (fun state request =>
        StaysActive state request ∧ SparesDefault state request) methods requests := by
  rw [stepsMeet_and, stepsMeet_congr (keepsUnmentioned_iff users)]
  refine and_congr_left fun _ => forall_mem_states_iff_stepsMeet (fun _ => True)
    (fun _ _ _ => trivial) (fun state request _ isSound => ?_) trivial sound requests
  exact defaultsSound_afterRequest_iff users state request isSound

namespace Sample

def owner : Table User User.id where
  rows := [⟨"user", none⟩]
  nodup := by decide

def cardCall : Call where
  context := none
  now := 0
  uuid _ := "uuid"
  createdAt _ := 0
  paymentOrchestrationEnabled := none

def card : CreatePaymentMethodDto where
  type := "CARD"
  tokenRef := "token"
  provider := none
  label := none
  last4 := some "4242"
  expiryMonth := none
  expiryYear := none
  setDefault := some true
  metadata := none

def update (status label : Option String) (setDefault : Option Bool) : UpdatePaymentMethodDto where
  status := status
  label := label
  provider := none
  tokenRef := none
  last4 := none
  expiryMonth := none
  expiryYear := none
  setDefault := setDefault
  metadata := none

def created : MethodRequest :=
  .create cardCall "user" card "card"

def renamed : MethodRequest :=
  .update "user" "card" (update none (some "Visa") none)

def deactivated : MethodRequest :=
  .update "user" "card" (update (some "INACTIVE") none (some true))

end Sample

open Sample

theorem keepsDefaults_iff_created :
    (∀ reached ∈ states (afterRequest owner) Table.empty [created],
        DefaultsSound reached) ∧
        StepsMeet (afterRequest owner) (KeepsUnmentioned owner) Table.empty
          [created] ↔ StepsMeet (afterRequest owner) (fun state request =>
        StaysActive state request ∧ SparesDefault state request) Table.empty [created] :=
  keepsDefaults_iff owner
    ⟨fun _ member => absurd member List.not_mem_nil, fun _ member => absurd member List.not_mem_nil⟩
    [created]

/-- A default method that is renamed is no longer the default; one that is deactivated as the
default stays it. -/
theorem renamed_not_keepsDefaults :
    ∃ methods, methods = afterRequest owner Table.empty created ∧
      ¬KeepsUnmentioned owner methods renamed ∧
        ¬DefaultsSound (afterRequest owner methods deactivated) := by
  refine ⟨_, rfl, fun kept => ?_, fun sound => ?_⟩
  · exact absurd (kept rfl) (by decide +kernel)
  · have inactive : ∃ method ∈ (afterRequest owner
        (afterRequest owner Table.empty created) deactivated).rows,
        method.isDefault = true ∧ method.status ≠ .active := by
      decide +kernel
    obtain ⟨method, member, marked, notActive⟩ := inactive
    exact notActive (sound.active method member marked)

end Csms.Billing
