import Csms.Auth.Credentials.Writes

/-!
# Logins

The ways to log in: with a password and what the user has to show besides, with a code, with
a passkey, and that of the attendants.  An answer says what was shown besides the password,
and which credential it was that can be used once.
-/

namespace Csms.Auth

open Js Database

inductive AuthQuery
  | user
  | passkeys
  | passkey
  | recoveryCodes
  | mfaChallenge
  | refreshToken
  | access
  | attendantAssignment

abbrev AuthProgram (α : Type) :=
  Request Store AuthQuery AuthWrite AuthWrite.Result AuthFailure α

section

variable {α : Type}

def throwHttp (exception : AuthException) : AuthProgram α :=
  .throw (.http exception)

def orThrow (found : Except AuthException α) : AuthProgram α :=
  Request.ofExcept (found.mapError .http)

/-- What was found, or `throw`. -/
def required (found : Option α) (exception : AuthException) : AuthProgram α :=
  match found with
  | some value => pure value
  | none => throwHttp exception

variable {seen : Store → Prop}

theorem answers_orThrow {found : Except AuthException α} {value : α}
    (answers : (orThrow found).Answers seen value) : found = .ok value := by
  have same := answers.of_ofExcept
  cases found with
  | ok first => exact congrArg Except.ok (Except.ok.inj same)
  | error exception => cases same

theorem answers_required {found : Option α} {exception : AuthException} {value : α}
    (answers : (required found exception).Answers seen value) : found = some value := by
  cases found with
  | some first => rw [answers_pure_iff.mp answers]
  | none => exact absurd answers not_answers_throw

end

def AuthWrite.commit (write : AuthWrite) : AuthProgram write.Result :=
  Request.commit write (.http .databaseError)

/-- The tokens of a session that begins, with the second factor that was shown. -/
structure IssuedSession (runtime : CredentialRuntime) where
  userId : String
  (accessToken refreshToken : Token)
  secondFactor : Option (SecondFactor runtime)

inductive AuthResponse (runtime : CredentialRuntime)
  | session (issued : IssuedSession runtime)
  | refreshed (accessToken refreshToken : Token)
  | unassigned
  | challenge (challengeId : String)
  | stepUp (token : Token)
  | verification (token : Token)
  | recoveryCodes (codes : Option (List String))
  | success

/-- A response, with the credential that the request has got it for. -/
structure Answered (runtime : CredentialRuntime) where
  response : AuthResponse runtime
  accepted : Option Credential

theorem id_of_user? {store : Store} {userId : String} {user : User}
    (found : store.user? userId = some user) : user.id = userId :=
  (Table.find?_eq_some_iff.mp found).2

theorem user?_of_mem {store : Store} {user : User} (member : user ∈ store.users.rows) :
    store.user? user.id = some user :=
  Table.find?_eq_some_iff.mpr ⟨member, rfl⟩

/-- `TRIM` of the database. -/
def trimSpaces (text : String) : String :=
  String.ofList ((text.toList.dropWhile (· = ' ')).reverse.dropWhile (· = ' ')).reverse

def User.hasLogin (identifiers : LoginIdentifiers) (user : User) : Bool :=
  (identifiers.email.any fun email => user.email.map toLowerCase = some (toLowerCase email)) ||
    identifiers.phone.any fun phone => user.phone = some phone

/-- Another look-up where there is no user yet. -/
def orFindUser (found : Option User) (identifier : Option String)
    (isMatch : String → User → Bool) : AuthProgram (Option User) :=
  match found, identifier with
  | none, some text => do
    let id ← Request.read .user fun store =>
      (store.users.rows.find? (isMatch text)).map User.id
    Request.read .user fun store => id.bind store.user?
  | found, _ => pure found

def findUserForLogin (identifiers : LoginIdentifiers) : AuthProgram (Option User) := do
  let found ← Request.read .user fun store => store.users.rows.find? (User.hasLogin identifiers)
  let found ← orFindUser found identifiers.email fun email user =>
    user.email.map (fun stored => toLowerCase (trimSpaces stored)) = some (toLowerCase email)
  orFindUser found identifiers.phone fun phone user => user.phone.map trimSpaces = some phone

section

variable (runtime : CredentialRuntime) (call : AuthCall)

def verifyAndUpgradeUserPassword (userId candidatePassword storedHash : String) :
    AuthProgram Bool :=
  let normalizedStoredHash := trim storedHash
  if runtime.comparePassword candidatePassword normalizedStoredHash then
    if isBcryptLikeHash normalizedStoredHash then pure true
    else do
      let upgradedHash := runtime.hashPassword candidatePassword
      let _ ← (AuthWrite.updateUser userId { passwordHash := some upgradedHash } none).commit
      pure true
  else pure false

/-- The code is stored, and sent through the channel. -/
def sendOtpChallengeToUser (user : User) (requestedChannel : Option OtpChannel) :
    AuthProgram OtpChannel := do
  let channel ← orThrow (resolveOtpDeliveryChannel user requestedChannel)
  let otp := (call.otpCode, call.now + 5 * 60 * 1000)
  let _ ← (AuthWrite.updateUser user.id { otp := some (some otp) } none).commit
  pure channel

def consumeUserOtpCode (userId providedCode : String) : AuthProgram CheckedOtp := do
  let user ← Request.read .user fun store => store.user? userId
  let checked ← orThrow (checkOtp user providedCode call.now)
  let _ ← (AuthWrite.updateUser userId { otp := some none } (some providedCode)).commit
  pure checked

def verifyTotpForUser (user : User) (token : String) : AuthProgram (SecondFactor runtime) :=
  match isSecret : orText user.twoFactorSecret none with
  | none => throwHttp (.unauthorized "2FA is not enabled for this account")
  | some secret => do
    orThrow call.attemptAllowed
    match verified : runtime.verifyTotp secret token call.now with
    | .error exception => throwHttp exception
    | .ok false => throwHttp (.unauthorized "Invalid MFA token")
    | .ok true => pure (.totp user secret token call.now isSecret verified)

/-- The hash of the code, when it was an unused one. -/
def consumeRecoveryCode (userId recoveryCode : String) : AuthProgram (Option String) :=
  let normalizedCode := normalizeRecoveryCodeInput recoveryCode
  if normalizedCode = "" then pure none
  else do
    let codeHash := runtime.hashRecoveryCode normalizedCode
    let consumed : Bool ← (AuthWrite.consumeRecoveryCode userId codeHash call.now).commit
    pure (if consumed then some codeHash else none)

def useRecoveryCode (userId recoveryCode : String) : AuthProgram String := do
  orThrow call.attemptAllowed
  let consumed ← consumeRecoveryCode runtime call userId recoveryCode
  required consumed (.unauthorized "Invalid recovery code")

/-- The second factor that was shown, or nothing where none has to be. -/
def enforceLoginMfa (user : User) (loginDto : LoginDto) :
    AuthProgram (Option (SecondFactor runtime)) := do
  let passkeyCount ← Request.read .passkeys fun store => store.passkeyCount user.id
  let hasRecoveryCodes ← Request.read .recoveryCodes fun store =>
    store.hasActiveRecoveryCodes user.id
  let hasPasskeys := decide (passkeyCount > 0)
  let otpBackedMfa := user.mfaRequired && !user.twoFactorEnabled && !hasPasskeys
  if !user.isMfaEnforced passkeyCount then pure none
  else
    match orText (loginDto.otpCode.map trim) none, orText (loginDto.twoFactorToken.map trim) none,
        orText (loginDto.recoveryCode.map trim) none with
    | some otpCode, _, _ =>
      if !otpBackedMfa then
        throwHttp (.unauthorized "OTP login is not enabled for this account")
      else do
        orThrow call.attemptAllowed
        let checked ← consumeUserOtpCode call user.id otpCode
        pure (some (.otp checked))
    | none, some twoFactorToken, _ =>
      if !user.twoFactorEnabled then
        throwHttp (.unauthorized "Two-factor authentication is not enabled for this account")
      else do
        let factor ← verifyTotpForUser runtime call user twoFactorToken
        pure (some factor)
    | none, none, some recoveryCode => do
      let codeHash ← useRecoveryCode runtime call user.id recoveryCode
      pure (some (.recoveryCode user.id codeHash))
    | none, none, none =>
      if otpBackedMfa then do
        let channel ← sendOtpChallengeToUser call user loginDto.otpChannel
        throwHttp (.unauthorized ("OTP verification is required. A code has been sent to your " ++
          (if channel = .email then "email" else "sms") ++ "."))
      else if hasPasskeys && !user.twoFactorEnabled then
        throwHttp (.unauthorized <|
          if hasRecoveryCodes then
            "Passkey verification is required. Use passkey login or a recovery code."
          else "Passkey verification is required. Use passkey login.")
      else throwHttp (.unauthorized "MFA token is required")

def sessionOptions (preferredOrganizationId : Option String) : AuthSessionContextOptions where
  preferredOrganizationId := preferredOrganizationId
  sessionScopeType := none
  actingAsTenant := none
  selectedTenantId := none
  selectedTenantName := none

/-- `signAccessToken` of the attendants and the access tokens of the sessions. -/
def signedAccess (secret : String) (issue : Issue) : Token :=
  .signed issue.claims secret (call.now + runtime.jwtAccessExpiry)

def signedRefresh (secret : String) (issue : Issue) : Token :=
  .signed issue.claims secret (call.now + runtime.jwtRefreshExpiry)

def refreshTokenRow (token : Token) (userId : String) : RefreshToken where
  token := token
  userId := userId
  expiresAt := call.now + 7 * 24 * 60 * 60 * 1000
  revokedAt := none

/-- `JWT_SECRET`. -/
def jwtSecret : AuthProgram String :=
  match orText runtime.jwtSecret none with
  | some secret => pure secret
  | none => .throw .jwtSecretNotConfigured

def issueTokens (user : User) (options : AuthSessionContextOptions)
    (secondFactor : Option (SecondFactor runtime)) : AuthProgram (IssuedSession runtime) := do
  let secret ← jwtSecret runtime
  let reads ← Request.read .access fun store => store.accessReads user.id
  let accessToken := signedAccess runtime call secret (.access reads user (.issueTokens options))
  let refreshToken := signedRefresh runtime call secret (.refresh reads user options call.jti)
  let _ ← (AuthWrite.createRefreshToken (refreshTokenRow call refreshToken user.id)).commit
  pure { userId := user.id, accessToken, refreshToken, secondFactor }

def activateOnLogin (user : User) (loginDto : LoginDto) : AuthProgram (User × Option String) :=
  match orText loginDto.inviteToken none with
  | none => pure (user, none)
  | some inviteToken => do
    let activation := { userId := user.id, inviteToken, loginPassword := loginDto.password }
    let activated ← (AuthWrite.activateInvitation call.toCall activation).commit
    let organizationId ← orThrow activated
    let found ← Request.read .user fun store => store.user? user.id
    let user ← required found (.unauthorized "User not found")
    pure (user, some organizationId)

/-- A super admin becomes active with the login. -/
def activateSuperAdmin (user : User) : AuthProgram User :=
  if user.role = .superAdmin ∧ user.status ≠ "Active" then do
    let _ ← (AuthWrite.updateUser user.id { status := some "Active" } none).commit
    pure { user with status := "Active" }
  else pure user

def login (loginDto : LoginDto) : AuthProgram (Answered runtime) := do
  let identifiers := resolveLoginIdentifiers loginDto.email loginDto.phone
  orThrow (check (identifiers.email.isSome || identifiers.phone.isSome)
    (.badRequest "Email or phone is required"))
  let found ← findUserForLogin identifiers
  let user ← required found (.unauthorized "Invalid credentials")
  let passwordHash ← required (orText user.passwordHash none) (.unauthorized "Invalid credentials")
  let isPasswordValid ← verifyAndUpgradeUserPassword runtime user.id loginDto.password passwordHash
  orThrow (check isPasswordValid (.unauthorized "Invalid credentials"))
  let secondFactor ← enforceLoginMfa runtime call user loginDto
  let (activated, preferredOrganizationId) ← activateOnLogin call user loginDto
  let active ← activateSuperAdmin activated
  let issued ← issueTokens runtime call active (sessionOptions preferredOrganizationId) secondFactor
  pure ⟨.session issued, secondFactor.bind SecondFactor.credential⟩

def verifyOtp (identifier code : String) : AuthProgram (Answered runtime) := do
  let found ← Request.read .user fun store => store.userByIdentifier? identifier
  let user ← required found (.unauthorized "User not found")
  let checked ← orThrow (checkOtp (some user) code call.now)
  let updatedUser ← (AuthWrite.updateUser user.id { status := some "Active", otp := some none }
    (some code)).commit
  let issued ← issueTokens runtime call updatedUser (sessionOptions none) none
  pure ⟨.session issued, some checked.credential⟩

def mfaChallengeTtlMs : Int :=
  5 * 60 * 1000

def createMfaChallenge (userId purpose : String) : AuthProgram String := do
  let row : MfaChallenge :=
    { id := call.challengeId
      userId := some userId
      challenge := call.challenge
      purpose
      expiresAt := call.now + mfaChallengeTtlMs
      consumedAt := none }
  let _ ← (AuthWrite.createMfaChallenge row).commit
  pure row.id

def getActiveMfaChallenge (challengeId purpose : String) (userId : Option String) :
    AuthProgram MfaChallenge := do
  let found ← Request.read .mfaChallenge fun store => store.mfaChallenges.find? challengeId
  orThrow (checkMfaChallenge found purpose userId call.now)

def generatePasskeyLoginOptions (email phone : Option String) :
    AuthProgram (AuthResponse runtime) := do
  let identifiers := resolveLoginIdentifiers email phone
  orThrow (check (identifiers.email.isSome || identifiers.phone.isSome)
    (.badRequest "Email or phone is required"))
  let found ← findUserForLogin identifiers
  let user ← required found (.unauthorized "Invalid credentials")
  let passkeyCount ← Request.read .passkeys fun store => store.passkeyCount user.id
  orThrow (check (passkeyCount ≠ 0) (.badRequest "No passkey is enrolled for this account"))
  let challengeId ← createMfaChallenge call user.id passkeyLogin
  pure (.challenge challengeId)

/-- The verified passkey of the user, with its new counter. -/
def verifyPasskey (challenge : MfaChallenge) (userId : String) (response : PasskeyResponse) :
    AuthProgram (SecondFactor runtime × PasskeyUse) := do
  let found ← Request.read .passkey fun store => store.passkey? userId response.id
  let credential ← required found (.unauthorized "Credential not recognized")
  match verified : runtime.verifyAuthenticationResponse response challenge credential with
  | none => throwHttp (.unauthorized "Passkey verification failed")
  | some counter =>
    pure (.passkey response challenge credential counter verified,
      { challengeId := challenge.id
        credentialId := credential.credentialId
        counter
        requireMfaFor := none
        now := call.now })

def verifyPasskeyLogin (challengeId : String) (response : PasskeyResponse) :
    AuthProgram (Answered runtime) := do
  let challenge ← getActiveMfaChallenge call challengeId passkeyLogin none
  let challengeUserId ← required (orText challenge.userId none)
    (.unauthorized "Challenge is not bound to a user")
  let (factor, use) ← verifyPasskey runtime call challenge challengeUserId response
  let _ ← (AuthWrite.usePasskey { use with requireMfaFor := some challengeUserId }).commit
  let found ← Request.read .user fun store => store.user? challengeUserId
  let user ← required found (.unauthorized "User not found")
  let issued ← issueTokens runtime call user (sessionOptions none) (some factor)
  pure ⟨.session issued, factor.credential⟩

/-- `issueTokens` of the attendants. -/
def issueAttendantTokens (user : User) : AuthProgram (IssuedSession runtime) := do
  let secret ← jwtSecret runtime
  let accessToken := signedAccess runtime call secret (.attendantAccess user)
  let refreshToken := signedRefresh runtime call secret (.attendantRefresh user.id call.jti)
  let _ ← (AuthWrite.createRefreshToken (refreshTokenRow call refreshToken user.id)).commit
  pure { userId := user.id, accessToken, refreshToken, secondFactor := none }

/-- `login` of the attendants. -/
def attendantLogin (emailOrPhone password : String) : AuthProgram (Answered runtime) := do
  let found ← Request.read .user fun store => store.findUserByIdentifier (trim emailOrPhone)
  let user ← required found (.unauthorized "Invalid credentials")
  let passwordHash ← required (orText user.passwordHash none) (.unauthorized "Invalid credentials")
  orThrow (check (runtime.compareAttendantPassword password passwordHash)
    (.unauthorized "Invalid credentials"))
  let assignment ← Request.read .attendantAssignment fun store =>
    store.findActiveAssignment user.id
  if assignment.isNone then pure ⟨.unassigned, none⟩
  else do
    let issued ← issueAttendantTokens runtime call user
    pure ⟨.session issued, none⟩

end

end Csms.Auth
