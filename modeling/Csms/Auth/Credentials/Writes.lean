import Csms.Auth.Credentials.Input
import Csms.Database.Executed

/-!
# The writes of the requests with credentials

Each statement and each transaction on users, refresh tokens, challenges, recovery codes and
passkeys, with what it does to the store.
-/

namespace Csms.Auth

open Js Database

/-- `data` of an update of a user, with what it sets. -/
structure UserUpdate where
  phone : Option String := none
  passwordHash : Option String := none
  /-- `otpCode` and `otpExpiresAt`, which are set together. -/
  otp : Option (Option (String × Int)) := none
  status : Option String := none
  mustChangePassword : Option Bool := none
  mfaRequired : Option Bool := none

def UserUpdate.apply (data : UserUpdate) (user : User) : User :=
  { user with
    phone := data.phone.or user.phone
    passwordHash := data.passwordHash.or user.passwordHash
    otpCode := (data.otp.map (·.map Prod.fst)).getD user.otpCode
    otpExpiresAt := (data.otp.map (·.map Prod.snd)).getD user.otpExpiresAt
    status := data.status.getD user.status
    mustChangePassword := data.mustChangePassword.getD user.mustChangePassword
    mfaRequired := data.mfaRequired.getD user.mfaRequired }

@[simp]
theorem UserUpdate.id_apply (data : UserUpdate) (user : User) : (data.apply user).id = user.id :=
  rfl

def MfaRecoveryCode.used (now : Int) (row : MfaRecoveryCode) : MfaRecoveryCode :=
  { row with usedAt := some now }

theorem MfaRecoveryCode.key_used (now : Int) (row : MfaRecoveryCode) :
    (row.used now).key = row.key :=
  rfl

/-- The transaction after a passkey was verified at a login or for a step-up. -/
structure PasskeyUse where
  (challengeId credentialId : String)
  counter : Nat
  /-- The user for whom `mfaRequired` is set. -/
  requireMfaFor : Option String
  now : Int

inductive AuthWrite
  | createUser (user : User)
  /-- An update, with the code that the request has checked and means to use up. -/
  | updateUser (userId : String) (data : UserUpdate) (checkedCode : Option String)
  | createRefreshToken (row : RefreshToken)
  | revokeRefreshTokens (userId : String) (now : Int)
  | revokeRefreshToken (token : Token) (now : Int)
  | cleanupExpiredTokens (now : Int)
  | createMfaChallenge (row : MfaChallenge)
  | usePasskey (use : PasskeyUse)
  | registerPasskey (challengeId : String) (row : PasskeyCredential) (now : Int)
  | deletePasskey (credentialId : String)
  | consumeRecoveryCode (userId codeHash : String) (now : Int)
  | replaceRecoveryCodes (userId : String) (codeHashes : List String)
  | activateInvitation (call : Call) (activation : Activation)

/-- What a transaction returns. -/
def AuthWrite.Result : AuthWrite → Type
  | updateUser .. => User
  | consumeRecoveryCode .. => Bool
  | registerPasskey .. => Except AuthException Unit
  | activateInvitation .. => Except AuthException String
  | _ => Unit

namespace Store

variable (store : Store)

/-- The update of a user, who must exist, to a phone that no other user has. -/
def updateUser? (userId : String) (data : UserUpdate) : Option (Store × User) := do
  let user ← store.user? userId
  guard <| store.users.rows.all fun other =>
    other.id = userId || data.phone.isNone || other.phone ≠ data.phone
  pure (store.updateUser userId data.apply data.id_apply, data.apply user)

def revokeTokensWhere (isRevoked : RefreshToken → Bool) (now : Int) : Store :=
  { store with
    refreshTokens := store.refreshTokens.updateWhere
      (fun row => isRevoked row && row.revokedAt.isNone)
      (fun row => { row with revokedAt := some now }) fun _ => rfl }

/-- `deleteMany` on the tokens that are expired or revoked. -/
def cleanupExpiredTokens (now : Int) : Store :=
  { store with
    refreshTokens := store.refreshTokens.deleteWhere fun row =>
      row.expiresAt < now || row.revokedAt.isSome }

def consumeMfaChallenge? (challengeId : String) (now : Int) : Option Store := do
  let _ ← store.mfaChallenges.find? challengeId
  pure { store with
    mfaChallenges := store.mfaChallenges.updateWhere (fun row => row.id = challengeId)
      (fun row => { row with consumedAt := some now }) fun _ => rfl }

def requireMfaFor? (userId : Option String) : Option Store :=
  match userId with
  | none => some store
  | some userId => (store.updateUser? userId { mfaRequired := some true }).map Prod.fst

/-- The passkey and the challenge must exist, and so must the user. -/
def usePasskey? (use : PasskeyUse) : Option Store := do
  let _ ← store.passkeys.find? use.credentialId
  let counted : Store := { store with
    passkeys := store.passkeys.updateWhere (fun row => row.credentialId = use.credentialId)
      (fun row => { row with counter := use.counter }) fun _ => rfl }
  let required ← counted.requireMfaFor? use.requireMfaFor
  required.consumeMfaChallenge? use.challengeId use.now

/-- The passkey is added, or its counter is set. -/
def registerPasskey? (challengeId : String) (row : PasskeyCredential) (now : Int) :
    Option (Store × Except AuthException Unit) :=
  if (store.passkeys.find? row.credentialId).any fun existing => existing.userId ≠ row.userId then
    some (store, .error (.conflict "This passkey is already registered to another account"))
  else do
    let saved : Store := { store with
      passkeys := store.passkeys.upsert row (fun old => { old with counter := row.counter })
        fun _ => rfl }
    let consumed ← saved.consumeMfaChallenge? challengeId now
    let (required, _) ← consumed.updateUser? row.userId { mfaRequired := some true }
    pure (required, .ok ())

/-- `updateMany` on the codes that are not used yet, with the number of them being positive. -/
def consumeRecoveryCode (userId codeHash : String) (now : Int) : Store × Bool :=
  let isUnused (row : MfaRecoveryCode) : Bool :=
    row.userId = userId && row.codeHash = codeHash && row.usedAt.isNone
  ({ store with
    recoveryCodes := store.recoveryCodes.updateWhere isUnused (MfaRecoveryCode.used now)
      (MfaRecoveryCode.key_used now) },
    store.recoveryCodes.rows.any isUnused)

def replaceRecoveryCodes? (userId : String) (codeHashes : List String) : Option Store := do
  let recoveryCodes ← (store.recoveryCodes.deleteWhere fun row => row.userId = userId).insertAll?
    (codeHashes.map fun codeHash => ⟨userId, codeHash, none⟩)
  pure { store with recoveryCodes }

end Store

namespace AuthWrite

variable (runtime : CredentialRuntime)

/-- The store that the transaction leaves and what it returns, unless it is rolled back. -/
def effect : (write : AuthWrite) → Store → Option (Store × write.Result)
  | createUser user, store =>
    if store.users.rows.all fun other => other.phone ≠ user.phone then
      (store.users.insert? user).map fun users => ({ store with users }, ())
    else none
  | updateUser userId data _, store => store.updateUser? userId data
  | createRefreshToken row, store =>
    (store.refreshTokens.insert? row).map fun refreshTokens => ({ store with refreshTokens }, ())
  | revokeRefreshTokens userId now, store =>
    some (store.revokeTokensWhere (fun row => row.userId = userId) now, ())
  | revokeRefreshToken token now, store =>
    some (store.revokeTokensWhere (fun row => row.token = token) now, ())
  | cleanupExpiredTokens now, store => some (store.cleanupExpiredTokens now, ())
  | createMfaChallenge row, store =>
    (store.mfaChallenges.insert? row).map fun mfaChallenges => ({ store with mfaChallenges }, ())
  | usePasskey use, store => (store.usePasskey? use).map fun used => (used, ())
  | registerPasskey challengeId row now, store => store.registerPasskey? challengeId row now
  | deletePasskey credentialId, store =>
    (store.passkeys.find? credentialId).map fun _ =>
      ({ store with
        passkeys := store.passkeys.deleteWhere fun row => row.credentialId = credentialId }, ())
  | consumeRecoveryCode userId codeHash now, store =>
    some (store.consumeRecoveryCode userId codeHash now)
  | replaceRecoveryCodes userId codeHashes, store =>
    (store.replaceRecoveryCodes? userId codeHashes).map fun replaced => (replaced, ())
  | activateInvitation call activation, store =>
    match store.activateInvitationOnLogin runtime.toAuthRuntime call activation with
    | .ok (activated, organizationId) => some (activated, .ok organizationId)
    | .error exception => some (store, .error exception)

def body (write : AuthWrite) : Tx Store Unit write.Result :=
  .atomic (write.effect runtime)

theorem run_body (write : AuthWrite) (store : Store) :
    (write.body runtime).run store = write.effect runtime store :=
  Tx.run_atomic _ store

theorem guarded (write : AuthWrite) : (write.body runtime).Guarded (fun _ : Unit => ⊥) [] :=
  Tx.guarded_atomic _

end AuthWrite

end Csms.Auth
