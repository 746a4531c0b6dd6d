import Csms.Js.Text
import Csms.Table.Upsert
import Csms.Transition.Run

/-!
# Tokens of the users

`OcpiTokenSyncService` keeps an OCPI token for every user.  The token is stored under an
identifier that it reads from the user's row, and a flow that writes the row writes the token
after it.  Nothing looks for a token that is stored under an identifier that the user had before.
-/

namespace Csms.Ocpi.TokenSync

open Js Transition

/-- `countryCode_partyId_tokenUid_tokenType`. -/
structure TokenKey where
  (countryCode partyId tokenUid tokenType : String)
deriving DecidableEq

/-- The fields of an object that `normalizeUser` reads, and what it returns. -/
structure SyncUserTokenInput where
  (id idTag email phone name status : Option String)

/-- The `user` of a token's data. -/
structure TokenUser where
  (id email phone name : Option String)
deriving DecidableEq

/-- The JSON that is stored with a token, `last_updated` in milliseconds. -/
structure TokenData where
  (uid type contract_id : String)
  visual_number : Option String
  issuer : String
  valid : Bool
  (whitelist language : String)
  user : Option TokenUser
  last_updated : Int
deriving DecidableEq

structure OcpiToken where
  key : TokenKey
  data : TokenData
  valid : Bool
  lastUpdated : Int
deriving DecidableEq

def readOptionalString (value : Option String) : Option String :=
  value.bind fun text =>
    let normalized := trim text
    if normalized = "" then none else some normalized

/-- The ids that `@default(uuid())` gives are read as they are stored. -/
abbrev UserId := {text : String // readOptionalString (some text) = some text}

/-- The columns of a user that the flows change. -/
structure UserColumns where
  name : String
  (email phone : Option String)
  status : String
deriving DecidableEq

structure User extends UserColumns where
  id : UserId
deriving DecidableEq

/-- A row of `users` has no `idTag`. -/
def User.asObject (user : User) : SyncUserTokenInput :=
  ⟨some user.id, none, user.email, user.phone, some user.name, some user.status⟩

structure Store where
  users : Table User User.id
  tokens : Table OcpiToken OcpiToken.key

def normalizeUser (user : SyncUserTokenInput) : SyncUserTokenInput :=
  ⟨readOptionalString user.id, readOptionalString user.idTag, readOptionalString user.email,
    readOptionalString user.phone, readOptionalString user.name, readOptionalString user.status⟩

/-- A configured code in capital letters, or the code that stands for none. -/
def defaultCode (configured : Option String) (otherwise : String) : String :=
  toUpperCase (trim ((orText configured none).getD otherwise))

/-- What the service is constructed with, and `toLowerCase`, which changes more characters
than a comparison with ASCII words can see. -/
structure OcpiTokenSyncService where
  (countryCode partyId : Option String)
  countryCodeFits : length (defaultCode countryCode "US") ≤ 2
  partyIdFits : length (defaultCode partyId "EVZ") ≤ 3
  lowerCase : String → String

namespace OcpiTokenSyncService

variable (service : OcpiTokenSyncService)

def defaultCountryCode : String :=
  defaultCode service.countryCode "US"

def defaultPartyId : String :=
  defaultCode service.partyId "EVZ"

def resolveUserTokenUid (user : SyncUserTokenInput) : Option String :=
  match readOptionalString user.idTag with
  | some idTag => some idTag
  | none =>
    match readOptionalString user.phone with
    | some phone => some phone
    | none =>
      match readOptionalString user.email with
      | some email => some (service.lowerCase email)
      | none => readOptionalString user.id

def tokenTypeOf (type : String) : String :=
  if trim type = "" then "RFID" else toUpperCase (trim type)

/-- The row that `upsertToken` leaves under its key. -/
def tokenRow (tokenUid : String) (data : TokenData) : OcpiToken :=
  ⟨⟨service.defaultCountryCode, service.defaultPartyId, tokenUid, tokenTypeOf data.type⟩, data,
    data.valid, data.last_updated⟩

def upsertToken (store : Store) (tokenUid : String) (data : TokenData) : Store :=
  let row := service.tokenRow tokenUid data
  { store with
    tokens := store.tokens.upsert row
      (fun existing =>
        { existing with data := row.data, valid := row.valid, lastUpdated := row.lastUpdated })
      fun _ => rfl }

/-- `String(status || '').toUpperCase() === 'SUSPENDED'`. -/
def isSuspended (status : Option String) : Bool :=
  toUpperCase (status.getD "") = "SUSPENDED"

def userTokenData (user : SyncUserTokenInput) (tokenUid : String) (now : Int) : TokenData where
  uid := tokenUid
  type := "APP_USER"
  contract_id := user.id.getD tokenUid
  visual_number := some (user.phone.getD "")
  issuer := "EVzone"
  valid := !isSuspended user.status
  whitelist := "ALLOWED"
  language := "en"
  user := some ⟨user.id, user.email, user.phone, user.name⟩
  last_updated := now

def syncUserToken (store : Store) (user : SyncUserTokenInput) (now : Int) : Store :=
  let normalizedUser := normalizeUser user
  match service.resolveUserTokenUid normalizedUser with
  | none => store
  | some tokenUid =>
    service.upsertToken store tokenUid (userTokenData normalizedUser tokenUid now)

def idTagTokenData (normalized : String) (now : Int) : TokenData where
  uid := normalized
  type := "RFID"
  contract_id := normalized
  visual_number := none
  issuer := "EVzone"
  valid := true
  whitelist := "ALLOWED"
  language := "en"
  user := none
  last_updated := now

def syncIdTagToken (store : Store) (idTag : Option String) (now : Int) : Store :=
  match readOptionalString idTag with
  | none => store
  | some normalized => service.upsertToken store normalized (idTagTokenData normalized now)

end OcpiTokenSyncService

/-- The fields of `UpdateUserDto` that decide about the columns of a user here. -/
structure UpdateUserDto where
  (name phone role status : Option String)

def UpdateUserDto.apply (dto : UpdateUserDto) (columns : UserColumns) : UserColumns :=
  { columns with
    name := dto.name.getD columns.name
    phone := dto.phone.or columns.phone
    status := dto.status.getD columns.status }

/-- A write of a user's row that a flow commits before the user is synced. -/
inductive UserWrite where
  /-- The registration, or the first code for a mobile number. -/
  | create (user : User)
  /-- Any change of the columns of one row. -/
  | change (id : UserId) (columns : UserColumns)
  | updateUser (id : UserId) (dto : UpdateUserDto)

namespace Store

variable (store : Store)

/-- Another user has the phone or the email, which are unique. -/
def isTaken (user : User) : Bool :=
  store.users.rows.any fun other =>
    other.id ≠ user.id &&
      ((user.phone.isSome && other.phone = user.phone) ||
        (user.email.isSome && other.email = user.email))

/-- The row as it is stored, and the store with it, unless the write fails. -/
def updateColumns (id : UserId) (change : UserColumns → UserColumns) : Option (User × Store) := do
  let user ← store.users.find? id
  let updated : User := ⟨change user.toUserColumns, id⟩
  if store.isTaken updated then none
  else
    some (updated,
      { store with
        users := store.users.updateWhere (fun row => row.id = id)
          (fun row => ⟨change row.toUserColumns, row.id⟩) fun _ => rfl })

def createUser (user : User) : Option (User × Store) := do
  if store.isTaken user then none
  else
    let users ← store.users.insert? user
    some (user, { store with users })

def write : UserWrite → Option (User × Store)
  | .create user => store.createUser user
  | .change id columns => store.updateColumns id fun _ => columns
  | .updateUser id dto => if dto.role.isSome then none else store.updateColumns id dto.apply

end Store

/-- What the service is asked for: a write of a user's row and the sync after it, or the sync of
the tag that a session was started with. -/
inductive SyncEvent where
  | userWritten (write : UserWrite) (now : Int)
  | sessionStarted (idTag : Option String) (now : Int)

/-- `updateUser`: every failure has one text for its caller. -/
def updateUser (service : OcpiTokenSyncService) (store : Store) (id : UserId)
    (dto : UpdateUserDto) (now : Int) : Except String User × Store :=
  match store.write (.updateUser id dto) with
  | none => (.error "Could not update user", store)
  | some (updated, written) => (.ok updated, service.syncUserToken written updated.asObject now)

def SyncEvent.next (service : OcpiTokenSyncService) (store : Store) : SyncEvent → Store
  | .userWritten write now =>
    match store.write write with
    | none => store
    | some (user, written) => service.syncUserToken written user.asObject now
  | .sessionStarted idTag now => service.syncIdTagToken store idTag now

/-- The flow of `updateUser` is one of the writes. -/
theorem updateUser_snd (service : OcpiTokenSyncService) (store : Store) (id : UserId)
    (dto : UpdateUserDto) (now : Int) : (updateUser service store id dto now).2 =
      SyncEvent.next service store (.userWritten (.updateUser id dto) now) := by
  simp only [updateUser, SyncEvent.next]
  rcases store.write (.updateUser id dto) with _ | ⟨updated, written⟩ <;> rfl

section Tokens

variable (service : OcpiTokenSyncService)

theorem mem_upsertToken {store : Store} {tokenUid : String} {data : TokenData} {token : OcpiToken} :
    token ∈ (service.upsertToken store tokenUid data).tokens.rows ↔
      token = service.tokenRow tokenUid data ∨
        token ∈ store.tokens.rows ∧ token.key ≠ (service.tokenRow tokenUid data).key := by
  have isRow (tokens : Table OcpiToken OcpiToken.key) (token : OcpiToken) :
      token ∈ tokens.rows ↔ tokens.find? token.key = some token := by
    rw [Table.find?_eq_some_iff, and_iff_left rfl]
  have replaced : ((store.tokens.find? (service.tokenRow tokenUid data).key).map fun existing =>
      { existing with data := data, valid := data.valid, lastUpdated := data.last_updated }).getD
        (service.tokenRow tokenUid data) = service.tokenRow tokenUid data := by
    rcases found : store.tokens.find? (service.tokenRow tokenUid data).key with _ | existing
    · rfl
    · have sameKey := (Table.find?_eq_some_iff.mp found).2
      rw [Option.map_some, Option.getD_some, sameKey]
      rfl
  rw [isRow, isRow, OcpiTokenSyncService.upsertToken, Table.find?_upsert]
  by_cases isKey : token.key = (service.tokenRow tokenUid data).key
  · rw [if_pos isKey, isKey]
    have onlyRow := replaced
    simp only [OcpiTokenSyncService.tokenRow] at onlyRow ⊢
    rw [onlyRow]
    simp [eq_comm]
  · rw [if_neg isKey]
    constructor
    · exact fun found => Or.inr ⟨found, isKey⟩
    · rintro (rfl | ⟨found, _⟩)
      · exact absurd rfl isKey
      · exact found

end Tokens

def OcpiToken.isValidOf (token : OcpiToken) (id : UserId) : Bool :=
  token.key.tokenType = "APP_USER" && token.valid &&
    token.data.user.bind TokenUser.id = some id.val

def Store.validTokensOf (store : Store) (id : UserId) : List OcpiToken :=
  store.tokens.rows.filter fun token => token.isValidOf id

def User.isSuspended (user : User) : Bool :=
  OcpiTokenSyncService.isSuspended (readOptionalString (some user.status))

/-- The identifier that the sync of the user's row stores a token under. -/
def OcpiTokenSyncService.uidOf (service : OcpiTokenSyncService) (user : User) : Option String :=
  service.resolveUserTokenUid (normalizeUser user.asObject)

/-- The valid tokens of every user are at most one, it is the one of the user's identifier, and
there is none of a suspended user. -/
def TokensAreCurrent (service : OcpiTokenSyncService) (store : Store) : Prop :=
  ∀ user ∈ store.users.rows,
    (store.validTokensOf user.id).length ≤ 1 ∧
      (∀ token ∈ store.validTokensOf user.id, service.uidOf user = some token.key.tokenUid) ∧
      (user.isSuspended → store.validTokensOf user.id = [])

instance (service : OcpiTokenSyncService) (store : Store) :
    Decidable (TokensAreCurrent service store) :=
  inferInstanceAs (Decidable (∀ user ∈ store.users.rows, _ ∧ _ ∧ _))

def OcpiTokenSyncService.keyOf (service : OcpiTokenSyncService) (tokenUid : String) : TokenKey :=
  ⟨service.defaultCountryCode, service.defaultPartyId, tokenUid, "APP_USER"⟩

/-- No valid token of the user whose row is written has another key than the token that is
synced after it. -/
def SyncEvent.KeepsIdentifier (service : OcpiTokenSyncService) (store : Store) : SyncEvent → Prop
  | .userWritten write _ =>
    ∀ user ∈ (store.write write).map Prod.fst, ∀ token ∈ store.validTokensOf user.id,
      (service.uidOf user).map service.keyOf = some token.key
  | .sessionStarted _ _ => True

instance (service : OcpiTokenSyncService) (store : Store) (event : SyncEvent) :
    Decidable (event.KeepsIdentifier service store) :=
  match event with
  | .userWritten write _ =>
    inferInstanceAs (Decidable (∀ user ∈ (store.write write).map Prod.fst,
      ∀ token ∈ store.validTokensOf user.id,
        (service.uidOf user).map service.keyOf = some token.key))
  | .sessionStarted _ _ => isTrue trivial

theorem Store.mem_validTokensOf {store : Store} {id : UserId} {token : OcpiToken} :
    token ∈ store.validTokensOf id ↔ token ∈ store.tokens.rows ∧ token.isValidOf id = true :=
  List.mem_filter

/-- A list of rows of a table holds at most one exactly when any two of them are the same. -/
theorem Store.length_validTokensOf_le_one {store : Store} {id : UserId} :
    (store.validTokensOf id).length ≤ 1 ↔
      ∀ token ∈ store.validTokensOf id, ∀ other ∈ store.validTokensOf id, token = other := by
  have distinct : (store.validTokensOf id).Nodup :=
    (List.Nodup.of_map _ store.tokens.nodup).filter _
  rcases isList : store.validTokensOf id with _ | ⟨first, _ | ⟨second, rest⟩⟩
  · simp
  · simp
  · rw [isList] at distinct
    have differ : first ≠ second := fun same => by simp [same] at distinct
    constructor
    · intro short
      simp at short
    · intro same
      exact absurd (same first (by simp) second (by simp)) differ

/-- A write of a user's row leaves the tokens and the rows of the other users alone. -/
theorem Store.write_spec {store written : Store} {write : UserWrite} {user : User}
    (isWritten : store.write write = some (user, written)) :
    written.tokens = store.tokens ∧ user ∈ written.users.rows ∧
      ∀ other ∈ written.users.rows, other.id ≠ user.id → other ∈ store.users.rows := by
  have changed (id : UserId) (change : UserColumns → UserColumns)
      (isUpdated : store.updateColumns id change = some (user, written)) :
      written.tokens = store.tokens ∧ user ∈ written.users.rows ∧
        ∀ other ∈ written.users.rows, other.id ≠ user.id → other ∈ store.users.rows := by
    obtain ⟨found, isFound, isStored⟩ := Option.bind_eq_some_iff.mp isUpdated
    obtain ⟨member, rfl⟩ := Table.find?_eq_some_iff.mp isFound
    simp only at isStored
    split at isStored
    · cases isStored
    · cases isStored
      refine ⟨rfl, ?_, ?_⟩
      · rw [Table.mem_updateWhere]
        exact ⟨found, member, by simp⟩
      · intro other isOther differs
        rw [Table.mem_updateWhere] at isOther
        rcases isOther with ⟨row, isRow, ⟨isChanged, rfl⟩ | ⟨_, rfl⟩⟩
        · exact absurd (of_decide_eq_true isChanged) differs
        · exact isRow
  cases write with
  | create user' =>
    simp only [Store.write, Store.createUser] at isWritten
    split at isWritten
    · cases isWritten
    · obtain ⟨users, inserted, isWritten⟩ := Option.bind_eq_some_iff.mp isWritten
      cases isWritten
      have rows := (Table.insert?_eq_some_iff.mp inserted).2
      refine ⟨rfl, by simp [rows], ?_⟩
      intro other isOther differs
      rw [rows] at isOther
      rcases List.mem_append.mp isOther with isOld | isNew
      · exact isOld
      · rw [List.mem_singleton.mp isNew] at differs
        contradiction
  | change id columns => exact changed id (fun _ => columns) isWritten
  | updateUser id dto =>
    simp only [Store.write] at isWritten
    split at isWritten
    · cases isWritten
    · exact changed id dto.apply isWritten

section Sync

variable {service : OcpiTokenSyncService} {user : User} {tokenUid : String}

theorem exists_uidOf (service : OcpiTokenSyncService) (user : User) :
    ∃ tokenUid, service.uidOf user = some tokenUid := by
  have twice (text : String) : readOptionalString (readOptionalString (some text)) =
      readOptionalString (some text) := by
    by_cases isEmpty : trim text = "" <;> simp [readOptionalString, isEmpty]
  have isId := user.id.property
  simp only [OcpiTokenSyncService.uidOf, OcpiTokenSyncService.resolveUserTokenUid, normalizeUser,
    User.asObject, isId]
  split
  · exact ⟨_, rfl⟩
  · split
    · exact ⟨_, rfl⟩
    · split <;> exact ⟨_, rfl⟩

def OcpiTokenSyncService.tokenOf (service : OcpiTokenSyncService) (user : User)
    (tokenUid : String) (now : Int) : OcpiToken :=
  service.tokenRow tokenUid
    (OcpiTokenSyncService.userTokenData (normalizeUser user.asObject) tokenUid now)

theorem key_tokenOf (now : Int) :
    (service.tokenOf user tokenUid now).key = service.keyOf tokenUid := by
  have appUser : OcpiTokenSyncService.tokenTypeOf "APP_USER" = "APP_USER" := by decide +kernel
  unfold OcpiTokenSyncService.tokenOf OcpiTokenSyncService.tokenRow OcpiTokenSyncService.keyOf
    OcpiTokenSyncService.userTokenData
  rw [appUser]

theorem isValidOf_tokenOf (now : Int) (id : UserId) :
    (service.tokenOf user tokenUid now).isValidOf id = true ↔
      user.id = id ∧ user.isSuspended = false := by
  have key : (service.tokenOf user tokenUid now).key = service.keyOf tokenUid := key_tokenOf now
  rw [OcpiToken.isValidOf, key]
  simp only [OcpiTokenSyncService.keyOf, OcpiTokenSyncService.tokenOf,
    OcpiTokenSyncService.tokenRow, OcpiTokenSyncService.userTokenData, normalizeUser, User.asObject,
    user.id.property, Option.bind_some, User.isSuspended, decide_true, Bool.true_and,
    Bool.and_eq_true, Bool.not_eq_true', decide_eq_true_eq, Option.some.injEq]
  rw [and_comm, Subtype.ext_iff]

theorem mem_tokens_syncUserToken {store : Store} (isUid : service.uidOf user = some tokenUid)
    (now : Int) {token : OcpiToken} :
    token ∈ (service.syncUserToken store user.asObject now).tokens.rows ↔
      token = service.tokenOf user tokenUid now ∨
        token ∈ store.tokens.rows ∧ token.key ≠ service.keyOf tokenUid := by
  have isUid' : service.resolveUserTokenUid (normalizeUser user.asObject) = some tokenUid := isUid
  rw [OcpiTokenSyncService.syncUserToken]
  simp only [isUid']
  have key : (service.tokenOf user tokenUid now).key = service.keyOf tokenUid := key_tokenOf now
  rw [mem_upsertToken, ← key]
  rfl

end Sync

section Run

variable {service : OcpiTokenSyncService}

theorem mem_validTokensOf_syncIdTagToken {store : Store} {idTag : Option String} {now : Int}
    {id : UserId} {token : OcpiToken} :
    token ∈ (service.syncIdTagToken store idTag now).validTokensOf id ↔
      token ∈ store.validTokensOf id := by
  have rfid : OcpiTokenSyncService.tokenTypeOf "RFID" = "RFID" := by decide +kernel
  rcases isTag : readOptionalString idTag with _ | tag
  · simp [OcpiTokenSyncService.syncIdTagToken, isTag]
  · simp only [OcpiTokenSyncService.syncIdTagToken, isTag]
    rw [Store.mem_validTokensOf, Store.mem_validTokensOf, mem_upsertToken]
    have isType : (service.tokenRow tag
        (OcpiTokenSyncService.idTagTokenData tag now)).key.tokenType = "RFID" := by
      simpa only [OcpiTokenSyncService.tokenRow, OcpiTokenSyncService.idTagTokenData] using rfid
    constructor
    · rintro ⟨rfl | ⟨isOld, _⟩, isValid⟩
      · simp [OcpiToken.isValidOf, isType] at isValid
      · exact ⟨isOld, isValid⟩
    · rintro ⟨isOld, isValid⟩
      refine ⟨Or.inr ⟨isOld, fun sameKey => ?_⟩, isValid⟩
      simp [OcpiToken.isValidOf, sameKey, isType] at isValid

/-- A write of a row and its sync leave the tokens current exactly if no valid token of the user
stands under another key. -/
theorem tokensAreCurrent_userWritten {store : Store} {write : UserWrite} {now : Int}
    (current : TokensAreCurrent service store) :
    TokensAreCurrent service (SyncEvent.next service store (.userWritten write now)) ↔
      SyncEvent.KeepsIdentifier service store (.userWritten write now) := by
  rcases isWritten : store.write write with _ | ⟨user, written⟩
  · simp [SyncEvent.next, SyncEvent.KeepsIdentifier, isWritten, current]
  obtain ⟨sameTokens, member, others⟩ := Store.write_spec isWritten
  obtain ⟨tokenUid, isUid⟩ := exists_uidOf service user
  have isToken (token : OcpiToken) (id : UserId) :
      token ∈ (service.syncUserToken written user.asObject now).validTokensOf id ↔
        (token = service.tokenOf user tokenUid now ∨
          token ∈ store.tokens.rows ∧ token.key ≠ service.keyOf tokenUid) ∧
            token.isValidOf id = true := by
    rw [Store.mem_validTokensOf, mem_tokens_syncUserToken isUid, sameTokens]
  have sameUsers (store : Store) :
      (service.syncUserToken store user.asObject now).users = store.users := by
    rw [OcpiTokenSyncService.syncUserToken]
    split <;> rfl
  simp only [SyncEvent.next, SyncEvent.KeepsIdentifier, isWritten, Option.map_some,
    Option.mem_some_iff, forall_eq']
  constructor
  · -- an older token under another key would be there with the one that the sync wrote
    intro stillCurrent token isOld
    rw [isUid, Option.map_some, Option.some.injEq]
    by_contra otherKey
    obtain ⟨isRow, isValid⟩ := Store.mem_validTokensOf.mp isOld
    have isStill := (isToken token user.id).mpr ⟨Or.inr ⟨isRow, Ne.symm otherKey⟩, isValid⟩
    obtain ⟨atMostOne, -, noneSuspended⟩ := stillCurrent user (by rwa [sameUsers])
    by_cases suspended : user.isSuspended = true
    · rw [noneSuspended suspended] at isStill
      exact List.not_mem_nil isStill
    · have isNew := (isToken _ user.id).mpr ⟨Or.inl rfl,
        (isValidOf_tokenOf now user.id).mpr ⟨rfl, Bool.eq_false_iff.mpr suspended⟩⟩
      have same := Store.length_validTokensOf_le_one.mp atMostOne _ isStill _ isNew
      rw [same, key_tokenOf] at otherKey
      exact otherKey rfl
  · intro keeps other isOther
    rw [sameUsers] at isOther
    by_cases isUser : other.id = user.id
    · -- the token that the sync wrote is the only one
      have isSame : other = user := written.users.eq_of_key_eq isOther member isUser
      subst isSame
      have only (token : OcpiToken)
          (isValid : token ∈ (service.syncUserToken written other.asObject now).validTokensOf
            other.id) : token = service.tokenOf other tokenUid now := by
        rcases (isToken token other.id).mp isValid with ⟨isNew | ⟨isRow, otherKey⟩, valid⟩
        · exact isNew
        · have sameKey := keeps token (Store.mem_validTokensOf.mpr ⟨isRow, valid⟩)
          rw [isUid, Option.map_some, Option.some.injEq] at sameKey
          exact absurd sameKey.symm otherKey
      refine ⟨?_, ?_, ?_⟩
      · rw [Store.length_validTokensOf_le_one]
        intro token isFirst second isSecond
        rw [only token isFirst, only second isSecond]
      · intro token isValid
        rw [isUid, only token isValid, key_tokenOf]
        rfl
      · intro suspended
        rw [List.eq_nil_iff_forall_not_mem]
        intro token isValid
        have valid := ((isToken token other.id).mp isValid).2
        rw [only token isValid, isValidOf_tokenOf, suspended] at valid
        exact Bool.noConfusion valid.2
    · -- the tokens of the other users are those that they had before, if not overwritten
      obtain ⟨atMostOne, identifier, noneSuspended⟩ := current other (others other isOther isUser)
      have isOld (token : OcpiToken)
          (isValid : token ∈ (service.syncUserToken written user.asObject now).validTokensOf
            other.id) : token ∈ store.validTokensOf other.id := by
        rcases (isToken token other.id).mp isValid with ⟨rfl | ⟨isRow, _⟩, valid⟩
        · exact absurd ((isValidOf_tokenOf now other.id).mp valid).1.symm isUser
        · exact Store.mem_validTokensOf.mpr ⟨isRow, valid⟩
      refine ⟨?_, fun token isValid => identifier token (isOld token isValid), ?_⟩
      · rw [Store.length_validTokensOf_le_one] at atMostOne ⊢
        exact fun token isFirst second isSecond =>
          atMostOne token (isOld token isFirst) second (isOld second isSecond)
      · intro suspended
        rw [List.eq_nil_iff_forall_not_mem]
        intro token isValid
        have wasValid := isOld token isValid
        rw [noneSuspended suspended] at wasValid
        exact List.not_mem_nil wasValid

theorem tokensAreCurrent_sessionStarted {store : Store} {idTag : Option String} {now : Int} :
    TokensAreCurrent service (SyncEvent.next service store (.sessionStarted idTag now)) ↔
      TokensAreCurrent service store := by
  have sameUsers : (service.syncIdTagToken store idTag now).users = store.users := by
    rw [OcpiTokenSyncService.syncIdTagToken]
    split <;> rfl
  simp only [TokensAreCurrent, SyncEvent.next, sameUsers, Store.length_validTokensOf_le_one,
    List.eq_nil_iff_forall_not_mem, mem_validTokensOf_syncIdTagToken]

/-- In a run that starts with current tokens, they stay current exactly if no row is written
whose user has a valid token under another identifier than the row then has. -/
theorem tokensAreCurrent_iff_keepsIdentifier {store : Store}
    (initial : TokensAreCurrent service store) (events : List SyncEvent) :
    (∀ reached ∈ states (SyncEvent.next service) store events, TokensAreCurrent service reached) ↔
      StepsMeet (SyncEvent.next service) (SyncEvent.KeepsIdentifier service) store events := by
  rw [forall_mem_states_iff, and_iff_right initial]
  intro store event current
  cases event with
  | userWritten write now => exact tokensAreCurrent_userWritten current
  | sessionStarted idTag now =>
    rw [tokensAreCurrent_sessionStarted]
    exact iff_of_true current trivial

end Run

namespace Sample

def service : OcpiTokenSyncService :=
  ⟨none, none, by decide +kernel, by decide +kernel, toLowerCase⟩

def userId : UserId :=
  ⟨"user", by decide +kernel⟩

def user : User :=
  ⟨⟨"Driver", some "driver@example.org", some "+256700000001", "Active"⟩, userId⟩

def store : Store :=
  ⟨Table.empty, Table.empty⟩

def update (phone status : Option String) : SyncEvent :=
  .userWritten (.updateUser userId ⟨none, phone, none, status⟩) 0

def registered : SyncEvent :=
  .userWritten (.create user) 0

def validUids (store : Store) : List String :=
  (store.validTokensOf userId).map fun token => token.key.tokenUid

end Sample

open Csms.Ocpi.TokenSync.Sample

/-- A user that is registered and suspended later. -/
theorem tokensAreCurrent_of_statusChange : TokensAreCurrent service store ∧
      ∀ reached ∈ states (SyncEvent.next service) store
        [registered, update none (some "Suspended")],
          TokensAreCurrent service reached := by
  have initial : TokensAreCurrent service store := by decide +kernel
  refine ⟨initial, (tokensAreCurrent_iff_keepsIdentifier initial _).mpr ⟨?_, ?_, trivial⟩⟩
  · decide +kernel
  · decide +kernel

/-- With a new phone the token of the old one stays valid, also when the user is suspended. -/
theorem two_valid_tokens_of_phoneChange : (states (SyncEvent.next service) store
        [registered, update (some "+256700000002") none,
          update none (some "Suspended")]).map validUids =
      [[], ["+256700000001"], ["+256700000001", "+256700000002"], ["+256700000001"]] ∧
    ¬ ∀ reached ∈ states (SyncEvent.next service) store
      [registered, update (some "+256700000002") none,
        update none (some "Suspended")], TokensAreCurrent service reached := by
  decide +kernel

end Csms.Ocpi.TokenSync
