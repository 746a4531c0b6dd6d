import Csms.Auth.Credentials.Login
import Csms.Auth.Team.Service

/-!
# The other requests with credentials

Codes that are sent and verified, passwords that are replaced, refreshes, passkeys and recovery
codes, and all requests with what they do.
-/

namespace Csms.Auth

open Js Database

section

variable (runtime : CredentialRuntime) (call : AuthCall)

def mobileUser (id phone : String) : User where
  id := id
  name := "Mobile User"
  email := none
  phone := some phone
  passwordHash := none
  role := .siteOwner
  status := "Pending"
  ownerCapability := none
  twoFactorSecret := none
  twoFactorEnabled := false
  mfaRequired := false
  mustChangePassword := false
  otpCode := none
  otpExpiresAt := none
  emailVerifiedAt := none
  organizationId := none
  providerId := none
  lastStationAssignmentId := none

def ensureMobileUser (identifier : String) : AuthProgram User := do
  let found ← Request.read .user fun store => store.userByIdentifier? identifier
  match found with
  | some user => pure user
  | none =>
    if isEmail identifier then throwHttp (.notFound "User not found")
    else do
      let user := mobileUser (call.uuid 0) identifier
      let _ ← (AuthWrite.createUser user).commit
      pure user

def requestOtp (identifier : String) : AuthProgram (AuthResponse runtime) := do
  orThrow (check (identifier ≠ "") (.badRequest "Identifier required"))
  let user ← ensureMobileUser call identifier
  let _ ← sendOtpChallengeToUser call user (some (if isEmail identifier then .email else .sms))
  pure .success

def updatePhone (user : User) (phone : Option String) : AuthProgram User :=
  match orText phone none with
  | none => pure user
  | some phone =>
    if some (trim phone) = user.phone then pure user
    else (AuthWrite.updateUser user.id { phone := some (trim phone) } none).commit

def sendMfaSetupOtp (userId : String) (channel : Option OtpChannel) (phone : Option String) :
    AuthProgram (AuthResponse runtime) := do
  let found ← Request.read .user fun store => store.user? userId
  let user ← required found (.notFound "User not found")
  let reachable ← updatePhone user phone
  let _ ← sendOtpChallengeToUser call reachable channel
  pure .success

def verifyMfaSetupOtp (userId code : String) : AuthProgram (Answered runtime) := do
  let normalizedCode := trim code
  orThrow (check (normalizedCode ≠ "") (.badRequest "OTP code is required"))
  let found ← Request.read .user fun store => store.user? userId
  let user ← required found (.notFound "User not found")
  orThrow call.attemptAllowed
  let checked ← consumeUserOtpCode call userId normalizedCode
  let status := if user.status = "MfaRequired" then "Active" else user.status
  let _ ← (AuthWrite.updateUser userId { mfaRequired := some true, status := some status }
    none).commit
  pure ⟨.success, some checked.credential⟩

def resetPassword (identifier code newPassword : String) : AuthProgram (Answered runtime) := do
  let found ← Request.read .user fun store => store.userByIdentifier? identifier
  let user ← required found (.unauthorized "User not found")
  let checked ← orThrow (checkOtp (some user) code call.now)
  let data : UserUpdate :=
    { passwordHash := some (runtime.hashPassword newPassword)
      otp := some none
      status := some "Active"
      mustChangePassword := some false }
  let _ ← (AuthWrite.updateUser user.id data (some code)).commit
  pure ⟨.success, some checked.credential⟩

/-- `requestPasswordReset` of an administrator. -/
def requestPasswordReset (userId : String) : AuthProgram (AuthResponse runtime) := do
  let found ← Request.read .user fun store =>
    (store.user? userId).filter fun user => isSet user.email
  let user ← required found (.notFound "User not found or has no email")
  let otp := (call.otpCode, call.now + 15 * 60 * 1000)
  let _ ← (AuthWrite.updateUser user.id { otp := some (some otp) } none).commit
  pure .success

def forceLogoutUser (userId : String) : AuthProgram (AuthResponse runtime) := do
  let _ ← (AuthWrite.revokeRefreshTokens userId call.now).commit
  pure .success

def toggleMfaRequirement (userId : String) (isRequired : Bool) :
    AuthProgram (AuthResponse runtime) := do
  let found ← Request.read .user fun store => store.user? userId
  let existing ← required found (.notFound "User not found")
  let status :=
    if isRequired ∧ existing.status = "Active" then "MfaRequired"
    else if ¬ isRequired ∧ existing.status = "MfaRequired" then "Active"
    else existing.status
  let data : UserUpdate := { mfaRequired := some isRequired, status := some status }
  let _ ← (AuthWrite.updateUser userId data none).commit
  pure .success

/-- The credential that was used up for a sensitive action, if there is one. -/
def assertSensitiveActionMfa (user : User) (input : MfaConfirmationInput)
    (missingProofMessage : String) : AuthProgram (Option Credential) := do
  let passkeyCount ← Request.read .passkeys fun store => store.passkeyCount user.id
  if !user.isMfaEnforced passkeyCount then pure none
  else
    match input.stepUpToken, orText (input.twoFactorToken.map trim) none,
        orText (input.recoveryCode.map trim) none with
    | some stepUpToken, _, _ => do
      Request.ofExcept (assertValidStepUpToken runtime call.now user.id stepUpToken)
      pure none
    | none, some twoFactorToken, _ =>
      if !user.twoFactorEnabled then
        throwHttp (.unauthorized "Two-factor authentication is not enabled for this account")
      else do
        let _ ← verifyTotpForUser runtime call user twoFactorToken
        pure none
    | none, none, some recoveryCode => do
      let codeHash ← useRecoveryCode runtime call user.id recoveryCode
      pure (some (.recoveryCode user.id codeHash))
    | none, none, none => throwHttp (.unauthorized missingProofMessage)

def changePassword (userId currentPassword newPassword : String)
    (confirmation : MfaConfirmationInput) : AuthProgram (Answered runtime) := do
  let found ← Request.read .user fun store => store.user? userId
  let user ← required found (.notFound "User not found")
  let passwordHash ← required (orText user.passwordHash none)
    (.badRequest "User does not have a password set")
  orThrow (check (runtime.comparePassword currentPassword passwordHash)
    (.unauthorized "Invalid current password"))
  let accepted ← assertSensitiveActionMfa runtime call user confirmation
    "Changing password requires recent MFA verification"
  let data : UserUpdate :=
    { passwordHash := some (runtime.hashPassword newPassword), mustChangePassword := some false }
  let _ ← (AuthWrite.updateUser userId data none).commit
  let _ ← forceLogoutUser runtime call userId
  pure ⟨.success, accepted⟩

def acceptRefreshToken (token : Token) (isPayload : JwtClaims → Bool) :
    AuthProgram JwtClaims := do
  let secret ← jwtSecret runtime
  let payload ← required ((token.verify secret call.now).filter isPayload)
    (.unauthorized "Invalid token")
  let storedToken ← Request.read .refreshToken fun store =>
    store.storedToken? token payload.sub call.now
  let _ ← required storedToken (.unauthorized "Token not found, expired, or revoked")
  pure payload

def refresh (refreshToken : Token) : AuthProgram (AuthResponse runtime) := do
  let payload ← acceptRefreshToken runtime call refreshToken fun _ => true
  let found ← Request.read .user fun store => store.user? payload.sub
  let user ← required found (.unauthorized "User not found")
  let reads ← Request.read .access fun store => store.accessReads user.id
  let secret ← jwtSecret runtime
  pure (.refreshed
    (signedAccess runtime call secret (.access reads user (.refresh payload))) refreshToken)

/-- `refresh` of the attendants. -/
def attendantRefresh (refreshToken : Token) : AuthProgram (AuthResponse runtime) := do
  let payload ← acceptRefreshToken runtime call refreshToken fun payload =>
    payload.type = some .refresh
  let found ← Request.read .user fun store => store.user? payload.sub
  let user ← required found (.unauthorized "User not found")
  let secret ← jwtSecret runtime
  pure (.refreshed (signedAccess runtime call secret (.attendantAccess user)) refreshToken)

def revokeRefreshToken (token : Token) : AuthProgram (AuthResponse runtime) := do
  let _ ← (AuthWrite.revokeRefreshToken token call.now).commit
  pure .success

def cleanupExpiredTokens : AuthProgram (AuthResponse runtime) := do
  let _ ← (AuthWrite.cleanupExpiredTokens call.now).commit
  pure .success

def replaceRecoveryCodes (userId : String) : AuthProgram (List String) := do
  let codeHashes := call.recoveryCodes.map fun code =>
    runtime.hashRecoveryCode (normalizeRecoveryCodeInput code)
  let _ ← (AuthWrite.replaceRecoveryCodes userId codeHashes).commit
  pure call.recoveryCodes

def verifyTotpIfEnabled (user : User) (twoFactorToken : Option String) : AuthProgram Unit :=
  if user.twoFactorEnabled then do
    let providedToken ← required (orText (twoFactorToken.map trim) none)
      (.badRequest "twoFactorToken is required when 2FA is enabled")
    let _ ← verifyTotpForUser runtime call user providedToken
    pure ()
  else pure ()

def generatePasskeyRegistrationOptions (userId currentPassword : String)
    (twoFactorToken : Option String) : AuthProgram (AuthResponse runtime) := do
  let found ← Request.read .user fun store => store.user? userId
  let user ← required found (.notFound "User not found")
  orThrow (assertCurrentPasswordForTwoFactor runtime user currentPassword)
  verifyTotpIfEnabled runtime call user twoFactorToken
  let challengeId ← createMfaChallenge call user.id passkeyRegistration
  pure (.challenge challengeId)

def ensureRecoveryCodes (userId : String) : AuthProgram (Option (List String)) := do
  let hasActive ← Request.read .recoveryCodes fun store => store.hasActiveRecoveryCodes userId
  if hasActive then pure none
  else do
    let codes ← replaceRecoveryCodes runtime call userId
    pure (some codes)

def verifyPasskeyRegistration (userId challengeId : String) (response : PasskeyResponse) :
    AuthProgram (Answered runtime) := do
  let challenge ← getActiveMfaChallenge call challengeId passkeyRegistration (some userId)
  let (credentialId, counter) ← required (runtime.verifyRegistrationResponse response challenge)
    (.badRequest "Passkey registration verification failed")
  let registered ← (AuthWrite.registerPasskey challenge.id { credentialId, userId, counter }
    call.now).commit
  let _ ← orThrow registered
  let codes ← ensureRecoveryCodes runtime call userId
  pure ⟨.recoveryCodes codes, some (.mfaChallenge challenge.id)⟩

def removePasskey (userId credentialId currentPassword : String)
    (input : MfaConfirmationInput) : AuthProgram (Answered runtime) := do
  let found ← Request.read .user fun store => store.user? userId
  let user ← required found (.notFound "User not found")
  orThrow (assertCurrentPasswordForTwoFactor runtime user currentPassword)
  let accepted ← assertSensitiveActionMfa runtime call user input
    "Removing a passkey requires recent MFA verification"
  let credential ← Request.read .passkey fun store => store.passkey? userId credentialId
  let credential ← required credential (.notFound "Passkey not found")
  let passkeyCount ← Request.read .passkeys fun store => store.passkeyCount userId
  orThrow (check (!(user.mfaRequired && !user.twoFactorEnabled && decide (passkeyCount ≤ 1)))
    (.badRequest "Cannot remove the last MFA method while MFA is required"))
  let _ ← (AuthWrite.deletePasskey credential.credentialId).commit
  let _ ← forceLogoutUser runtime call userId
  pure ⟨.success, accepted⟩

def generatePasskeyStepUpOptions (userId : String) : AuthProgram (AuthResponse runtime) := do
  let passkeyCount ← Request.read .passkeys fun store => store.passkeyCount userId
  orThrow (check (passkeyCount ≠ 0) (.badRequest "No passkeys are enrolled for this user"))
  let challengeId ← createMfaChallenge call userId passkeyStepUp
  pure (.challenge challengeId)

def issueStepUpToken (userId : String) : AuthProgram Token := do
  let secret ← jwtSecret runtime
  pure (.signed (Issue.stepUp userId call.jti).claims secret (call.now + 10 * 60 * 1000))

def verifyPasskeyStepUp (userId challengeId : String) (response : PasskeyResponse) :
    AuthProgram (Answered runtime) := do
  let challenge ← getActiveMfaChallenge call challengeId passkeyStepUp (some userId)
  let (_, use) ← verifyPasskey runtime call challenge userId response
  let _ ← (AuthWrite.usePasskey use).commit
  let token ← issueStepUpToken runtime call userId
  pure ⟨.stepUp token, some (.mfaChallenge challenge.id)⟩

def regenerateRecoveryCodes (userId currentPassword : String) (input : MfaConfirmationInput) :
    AuthProgram (Answered runtime) := do
  let found ← Request.read .user fun store => store.user? userId
  let user ← required found (.notFound "User not found")
  orThrow (assertCurrentPasswordForTwoFactor runtime user currentPassword)
  let accepted ← assertSensitiveActionMfa runtime call user input
    "Regenerating recovery codes requires recent MFA verification"
  let codes ← replaceRecoveryCodes runtime call userId
  let _ ← forceLogoutUser runtime call userId
  pure ⟨.recoveryCodes (some codes), accepted⟩

/-- `requestPasswordReset` of the attendants, which says nothing of unknown users. -/
def requestAttendantReset (emailOrPhone : String) : AuthProgram (AuthResponse runtime) := do
  orThrow (check (trim emailOrPhone ≠ "") (.badRequest "Email or phone is required"))
  let normalized := normalizeIdentifier (trim emailOrPhone)
  let found ← Request.read .user fun store => store.findUserByIdentifier normalized
  match found with
  | none => pure .success
  | some user => do
    let otp := (call.otpCode, call.now + 10 * 60 * 1000)
    let _ ← (AuthWrite.updateUser user.id { otp := some (some otp) } none).commit
    pure .success

def checkResetCode (found : Option User) (code : String) (now : Int) : Except AuthException User :=
  match found with
  | none => .error (.unauthorized "Invalid verification code")
  | some user => do
    check (orText user.otpCode none = some (trim code))
      (.unauthorized "Invalid verification code")
    check (user.otpExpiresAt.any (now < ·)) (.unauthorized "Verification code expired")
    pure user

def verifyPasswordResetCode (emailOrPhone code : String) : AuthProgram (Answered runtime) := do
  let normalized := normalizeIdentifier emailOrPhone
  let found ← Request.read .user fun store => store.findUserByIdentifier normalized
  let user ← orThrow (checkResetCode found code call.now)
  let secret ← jwtSecret runtime
  let verificationToken : Token := .signed (Issue.passwordReset user.id normalized).claims secret
    (call.now + 10 * 60 * 1000)
  pure ⟨.verification verificationToken, some (.otp user.id (trim code))⟩

/-- `isPasswordResetPayload`. -/
def JwtClaims.isPasswordReset (payload : JwtClaims) (userId identifier : String) : Bool :=
  payload.purpose = some .attendantPasswordReset && payload.sub = userId &&
    payload.identifier = some identifier

def confirmPasswordReset (emailOrPhone : String) (verificationToken : Token)
    (newPassword : String) : AuthProgram (AuthResponse runtime) := do
  let normalized := normalizeIdentifier emailOrPhone
  let found ← Request.read .user fun store => store.findUserByIdentifier normalized
  let user ← required found (.unauthorized "Verification session expired")
  let secret ← jwtSecret runtime
  let payload ← required (verificationToken.verify secret call.now)
    (.unauthorized "Verification session expired")
  orThrow (check (payload.isPasswordReset user.id normalized)
    (.unauthorized "Verification session expired"))
  orThrow (check (8 ≤ length (trim newPassword))
    (.badRequest "Password must be at least 8 characters"))
  let data : UserUpdate :=
    { passwordHash := some (runtime.hashPassword newPassword), otp := some none }
  let _ ← (AuthWrite.updateUser user.id data none).commit
  pure .success

end

inductive AuthOperation
  | login (loginDto : LoginDto)
  | verifyOtp (identifier code : String)
  | generatePasskeyLoginOptions (email phone : Option String)
  | verifyPasskeyLogin (challengeId : String) (response : PasskeyResponse)
  | attendantLogin (emailOrPhone password : String)
  | requestOtp (identifier : String)
  | sendMfaSetupOtp (userId : String) (channel : Option OtpChannel) (phone : Option String)
  | verifyMfaSetupOtp (userId code : String)
  | resetPassword (identifier code newPassword : String)
  | requestPasswordReset (userId : String)
  | forceLogoutUser (userId : String)
  | toggleMfaRequirement (userId : String) (isRequired : Bool)
  | changePassword (userId currentPassword newPassword : String)
      (confirmation : MfaConfirmationInput)
  | refresh (refreshToken : Token)
  | attendantRefresh (refreshToken : Token)
  | revokeRefreshToken (token : Token)
  | cleanupExpiredTokens
  | generatePasskeyRegistrationOptions (userId currentPassword : String)
      (twoFactorToken : Option String)
  | verifyPasskeyRegistration (userId challengeId : String) (response : PasskeyResponse)
  | removePasskey (userId credentialId currentPassword : String) (input : MfaConfirmationInput)
  | generatePasskeyStepUpOptions (userId : String)
  | verifyPasskeyStepUp (userId challengeId : String) (response : PasskeyResponse)
  | regenerateRecoveryCodes (userId currentPassword : String) (input : MfaConfirmationInput)
  | requestAttendantReset (emailOrPhone : String)
  | verifyPasswordResetCode (emailOrPhone code : String)
  | confirmPasswordReset (emailOrPhone : String) (verificationToken : Token)
      (newPassword : String)

structure AuthRequest where
  call : AuthCall
  operation : AuthOperation

def plain {runtime : CredentialRuntime} (program : AuthProgram (AuthResponse runtime)) :
    AuthProgram (Answered runtime) := do
  let response ← program
  pure ⟨response, none⟩

def AuthOperation.program (runtime : CredentialRuntime) (call : AuthCall) :
    AuthOperation → AuthProgram (Answered runtime)
  | login loginDto => Auth.login runtime call loginDto
  | verifyOtp identifier code => Auth.verifyOtp runtime call identifier code
  | generatePasskeyLoginOptions email phone =>
    plain (Auth.generatePasskeyLoginOptions runtime call email phone)
  | verifyPasskeyLogin challengeId response =>
    Auth.verifyPasskeyLogin runtime call challengeId response
  | attendantLogin emailOrPhone password => Auth.attendantLogin runtime call emailOrPhone password
  | requestOtp identifier => plain (Auth.requestOtp runtime call identifier)
  | sendMfaSetupOtp userId channel phone =>
    plain (Auth.sendMfaSetupOtp runtime call userId channel phone)
  | verifyMfaSetupOtp userId code => Auth.verifyMfaSetupOtp runtime call userId code
  | resetPassword identifier code newPassword =>
    Auth.resetPassword runtime call identifier code newPassword
  | requestPasswordReset userId => plain (Auth.requestPasswordReset runtime call userId)
  | forceLogoutUser userId => plain (Auth.forceLogoutUser runtime call userId)
  | toggleMfaRequirement userId isRequired =>
    plain (Auth.toggleMfaRequirement runtime userId isRequired)
  | changePassword userId currentPassword newPassword confirmation =>
    Auth.changePassword runtime call userId currentPassword newPassword confirmation
  | refresh refreshToken => plain (Auth.refresh runtime call refreshToken)
  | attendantRefresh refreshToken => plain (Auth.attendantRefresh runtime call refreshToken)
  | revokeRefreshToken token => plain (Auth.revokeRefreshToken runtime call token)
  | cleanupExpiredTokens => plain (Auth.cleanupExpiredTokens runtime call)
  | generatePasskeyRegistrationOptions userId currentPassword twoFactorToken =>
    plain (Auth.generatePasskeyRegistrationOptions runtime call userId currentPassword
      twoFactorToken)
  | verifyPasskeyRegistration userId challengeId response =>
    Auth.verifyPasskeyRegistration runtime call userId challengeId response
  | removePasskey userId credentialId currentPassword input =>
    Auth.removePasskey runtime call userId credentialId currentPassword input
  | generatePasskeyStepUpOptions userId =>
    plain (Auth.generatePasskeyStepUpOptions runtime call userId)
  | verifyPasskeyStepUp userId challengeId response =>
    Auth.verifyPasskeyStepUp runtime call userId challengeId response
  | regenerateRecoveryCodes userId currentPassword input =>
    Auth.regenerateRecoveryCodes runtime call userId currentPassword input
  | requestAttendantReset emailOrPhone =>
    plain (Auth.requestAttendantReset runtime call emailOrPhone)
  | verifyPasswordResetCode emailOrPhone code =>
    Auth.verifyPasswordResetCode runtime call emailOrPhone code
  | confirmPasswordReset emailOrPhone verificationToken newPassword =>
    plain (Auth.confirmPasswordReset runtime call emailOrPhone verificationToken newPassword)

def AuthRequest.program (runtime : CredentialRuntime) (request : AuthRequest) :
    AuthProgram (Answered runtime) :=
  request.operation.program runtime request.call

/-- The database with the sessions of all requests. -/
abbrev AuthState (runtime : CredentialRuntime) :=
  ReadCommitted Store Unit AuthQuery AuthWrite AuthWrite.Result AuthFailure AuthRequest
    (Answered runtime)

/-- What can be reached from a store when no request has arrived. -/
def AuthState.Reachable {runtime : CredentialRuntime}
    (conditions : Conditions Store AuthQuery AuthWrite AuthRequest) (store : Store) :
    AuthState runtime → Prop :=
  ReadCommitted.Reachable (AuthWrite.body runtime) (AuthRequest.program runtime) conditions
    (ReadCommitted.initial store)

/-- The request of the session has got the answer. -/
def AuthState.Answered {runtime : CredentialRuntime} (state : AuthState runtime) (id : Nat)
    (request : AuthRequest) (answered : Auth.Answered runtime) : Prop :=
  ∃ arrived, state.sessions[id]? = some ⟨request, arrived, .outside (.answer answered)⟩

namespace Sample

def credentialRuntime : CredentialRuntime :=
  { authRuntime with
    jwtSecret := some "secret"
    jwtAccessExpiry := 1000
    jwtRefreshExpiry := 1000
    compareAttendantPassword := fun password hash => password = hash
    hashRecoveryCode := id
    verifyTotp := fun secret token _ => .ok (secret = token)
    verifyAuthenticationResponse := fun response challenge credential =>
      if response.payload = challenge.challenge then some (credential.counter + 1) else none
    verifyRegistrationResponse := fun response challenge =>
      if response.payload = challenge.challenge then some (response.id, 0) else none }

def authCall : AuthCall :=
  { call with
    jti := "jti"
    otpCode := "111111"
    recoveryCodes := ["AAAAA-BBBBB"]
    challengeId := "challenge"
    challenge := "nonce"
    attemptAllowed := .ok () }

def enrolled : User :=
  { userOf "ada" .attendant with
    phone := some "+256 700"
    passwordHash := some "$2b$ada"
    mfaRequired := true
    otpCode := some "654321"
    otpExpiresAt := some 1000 }

def enrolledStore : Store :=
  { team with
    users := { rows := [enrolled], nodup := by decide }
    attendantAssignments :=
      { rows := [⟨"shift", "ada", "depot", .fixed, "00:00", "23:59", "UTC", true⟩]
        nodup := by decide } }

def after (store : Store) (conditions : Conditions Store AuthQuery AuthWrite AuthRequest)
    (events : List (DatabaseEvent AuthRequest)) : Option (AuthState credentialRuntime) :=
  events.foldlM (ReadCommitted.next (AuthWrite.body credentialRuntime)
    (AuthRequest.program credentialRuntime) conditions) (ReadCommitted.initial store)

end Sample

end Csms.Auth
