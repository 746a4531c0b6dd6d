import Csms.Auth.Team.Writes

/-!
# Requests with credentials

What the requests on passwords, codes, passkeys and tokens get, and how the credentials in
them are checked against the rows that were read.
-/

namespace Csms.Auth

open Js

inductive AuthFailure
  | http (exception : AuthException)
  | jwtSecretNotConfigured
deriving DecidableEq

/-- An answer of an authenticator. -/
structure PasskeyResponse where
  (id payload : String)
deriving DecidableEq

/-- The configuration and the further functions of the libraries. -/
structure CredentialRuntime extends AuthRuntime where
  jwtSecret : Option String
  /-- `JWT_ACCESS_EXPIRY` in milliseconds. -/
  (jwtAccessExpiry jwtRefreshExpiry : Int)
  /-- `comparePasswordWithLegacySupport` of the attendants. -/
  compareAttendantPassword : String → String → Bool
  hashRecoveryCode : String → String
  /-- Of a stored secret, a token and the clock; a secret may not be readable. -/
  verifyTotp : String → String → Int → Except AuthException Bool
  /-- The new counter, when the response is verified. -/
  verifyAuthenticationResponse : PasskeyResponse → MfaChallenge → PasskeyCredential → Option Nat
  /-- The id and the counter of the new credential, when the response is verified. -/
  verifyRegistrationResponse : PasskeyResponse → MfaChallenge → Option (String × Nat)

/-- What a request takes from its surroundings: the clock, the codes and ids that are made for
it, and what the counts of failed attempts say. -/
structure AuthCall extends Call where
  (jti otpCode : String)
  recoveryCodes : List String
  (challengeId challenge : String)
  /-- `assertTwoFactorAttemptAllowed`. -/
  attemptAllowed : Except AuthException Unit

/-- What can be accepted once. -/
inductive Credential
  | otp (userId code : String)
  | mfaChallenge (id : String)
  | recoveryCode (userId codeHash : String)
deriving DecidableEq

/-- A code that was sent to the user and is not expired. -/
structure CheckedOtp where
  user : User
  code : String
  now : Int
  isCode : orText user.otpCode none = some code
  isCurrent : user.otpExpiresAt.any (now ≤ ·) = true

def CheckedOtp.credential (checked : CheckedOtp) : Credential :=
  .otp checked.user.id checked.code

/-- How a second factor was shown: what was checked, with the outcome. -/
inductive SecondFactor (runtime : CredentialRuntime)
  | otp (checked : CheckedOtp)
  | totp (user : User) (secret token : String) (now : Int)
      (isSecret : orText user.twoFactorSecret none = some secret)
      (verified : runtime.verifyTotp secret token now = .ok true)
  | recoveryCode (userId codeHash : String)
  | passkey (response : PasskeyResponse) (challenge : MfaChallenge)
      (credential : PasskeyCredential) (counter : Nat)
      (verified :
        runtime.verifyAuthenticationResponse response challenge credential = some counter)

namespace SecondFactor

variable {runtime : CredentialRuntime}

def userId : SecondFactor runtime → String
  | otp checked => checked.user.id
  | totp user .. => user.id
  | recoveryCode userId _ => userId
  | passkey _ _ credential .. => credential.userId

/-- The credential that is used up. -/
def credential : SecondFactor runtime → Option Credential
  | otp checked => some checked.credential
  | totp .. => none
  | recoveryCode userId codeHash => some (.recoveryCode userId codeHash)
  | passkey _ challenge .. => some (.mfaChallenge challenge.id)

end SecondFactor

def checkOtp (found : Option User) (code : String) (now : Int) : Except AuthException CheckedOtp :=
  match found with
  | none => .error (.unauthorized "Invalid OTP")
  | some user =>
    if isCode : orText user.otpCode none = some code then
      if isCurrent : user.otpExpiresAt.any (now ≤ ·) = true then
        .ok { user, code, now, isCode, isCurrent }
      else .error (.unauthorized "OTP Expired")
    else .error (.unauthorized "Invalid OTP")

theorem checkOtp_eq_ok {found : Option User} {code : String} {now : Int} {checked : CheckedOtp}
    (accepted : checkOtp found code now = .ok checked) :
    found = some checked.user ∧ checked.code = code := by
  unfold checkOtp at accepted
  split at accepted
  · contradiction
  · split at accepted
    · split at accepted
      · cases accepted
        exact ⟨rfl, rfl⟩
      · contradiction
    · contradiction

def passkeyRegistration : String :=
  "PASSKEY_REGISTRATION"

def passkeyLogin : String :=
  "PASSKEY_LOGIN"

def passkeyStepUp : String :=
  "PASSKEY_STEP_UP"

/-- The second half of `getActiveMfaChallenge`. -/
def checkMfaChallenge (found : Option MfaChallenge) (purpose : String) (userId : Option String)
    (now : Int) : Except AuthException MfaChallenge :=
  match found with
  | none => .error (.badRequest "Invalid MFA challenge")
  | some challenge => do
    check (challenge.purpose = purpose) (.badRequest "MFA challenge purpose mismatch")
    check challenge.consumedAt.isNone (.badRequest "MFA challenge has already been used")
    check (now < challenge.expiresAt) (.badRequest "MFA challenge has expired")
    check (!isSet userId || challenge.userId = userId)
      (.forbidden "MFA challenge does not belong to this user")
    pure challenge

/-- `isBcryptLikeHash`. -/
def isBcryptLikeHash (hash : String) : Bool :=
  ["$2a$", "$2b$", "$2y$", "$2x$", "$2$"].any fun start =>
    start.toList.isPrefixOf (trim hash).toList

def assertCurrentPasswordForTwoFactor (runtime : CredentialRuntime) (user : User)
    (currentPassword : String) : Except AuthException Unit := do
  check (currentPassword ≠ "") (.badRequest "Current password is required for this 2FA action.")
  match orText user.passwordHash none with
  | none => .error (.badRequest "User does not have a password set")
  | some passwordHash =>
    check (runtime.comparePassword currentPassword passwordHash)
      (.unauthorized "Invalid current password")

def assertValidStepUpToken (runtime : CredentialRuntime) (now : Int) (userId : String)
    (token : Token) : Except AuthFailure Unit :=
  match orText runtime.jwtSecret none with
  | none => .error .jwtSecretNotConfigured
  | some secret =>
    match token.verify secret now with
    | none => .error (.http (.unauthorized "Invalid or expired step-up token"))
    | some decoded =>
      if decoded.sub = userId ∧ decoded.type = some .mfaStepUp then .ok ()
      else .error (.http (.unauthorized "Step-up token does not match this user"))

/-- Upper case letters and digits. -/
def normalizeRecoveryCodeInput (code : String) : String :=
  String.ofList ((toUpperCase (trim code)).toList.filter fun c =>
    ('A' ≤ c && c ≤ 'Z') || ('0' ≤ c && c ≤ '9'))

inductive OtpChannel
  | email
  | sms
deriving DecidableEq

structure LoginDto where
  (email phone : Option String)
  password : String
  (inviteToken twoFactorToken recoveryCode otpCode : Option String)
  otpChannel : Option OtpChannel

structure MfaConfirmationInput where
  stepUpToken : Option Token
  (twoFactorToken recoveryCode : Option String)

structure LoginIdentifiers where
  (email phone : Option String)
deriving DecidableEq

/-- `includes('@')`. -/
def isEmail (identifier : String) : Bool :=
  identifier.toList.contains '@'

def resolveLoginIdentifiers (email phone : Option String) : LoginIdentifiers :=
  let rawEmail := orText (email.map trim) none
  let rawPhone := orText (phone.map trim) none
  let inferredEmail := if rawEmail.isNone then rawPhone.filter isEmail else none
  let inferredPhone := if rawPhone.isNone then rawEmail.filter (!isEmail ·) else none
  { email := (rawEmail.or inferredEmail).map normalizeEmail
    phone := (rawPhone.filter (!isEmail ·)).or inferredPhone }

def resolveOtpDeliveryChannel (user : User) (requested : Option OtpChannel) :
    Except AuthException OtpChannel :=
  match requested with
  | some .sms => do
    check (isSet user.phone) (.badRequest ("SMS OTP is unavailable because no phone number " ++
      "is configured on this account"))
    pure .sms
  | some .email => do
    check (isSet user.email) (.badRequest ("Email OTP is unavailable because no email " ++
      "address is configured on this account"))
    pure .email
  | none =>
    if isSet user.email then .ok .email
    else if isSet user.phone then .ok .sms
    else .error (.badRequest "No email or phone number is configured for OTP delivery")

/-- `trim().toLowerCase()` of the attendants. -/
def normalizeIdentifier (value : String) : String :=
  toLowerCase (trim value)

/-- The digits. -/
def normalizePhone (value : String) : String :=
  String.ofList (value.toList.filter Char.isDigit)

/-- The user, who has this many passkeys, needs a second factor. -/
def User.isMfaEnforced (user : User) (passkeyCount : Nat) : Bool :=
  user.mfaRequired || user.twoFactorEnabled || decide (passkeyCount > 0)

namespace Store

variable (store : Store)

def passkeyCount (userId : String) : Nat :=
  store.passkeys.rows.countP fun row => row.userId = userId

def hasActiveRecoveryCodes (userId : String) : Bool :=
  store.recoveryCodes.rows.any fun row => row.userId = userId && row.usedAt.isNone

def storedToken? (token : Token) (userId : String) (now : Int) : Option RefreshToken :=
  store.refreshTokens.rows.find? fun row =>
    row.token = token && row.userId = userId && now < row.expiresAt && row.revokedAt.isNone

def findActiveAssignment (userId : String) : Option AttendantAssignment :=
  store.attendantAssignments.rows.find? fun row => row.userId = userId && row.isActive

/-- Of the attendants. -/
def findUserByIdentifier (identifier : String) : Option User :=
  let normalized := normalizeIdentifier identifier
  if isEmail normalized then
    store.users.rows.find? fun user => user.email.map toLowerCase = some normalized
  else
    store.users.rows.find? fun user =>
      user.phone.isSome && normalizePhone (user.phone.getD "") = normalizePhone identifier

/-- The user with the address or the phone. -/
def userByIdentifier? (identifier : String) : Option User :=
  if isEmail identifier then store.users.rows.find? fun user => user.email = some identifier
  else store.users.rows.find? fun user => user.phone = some identifier

def passkey? (userId credentialId : String) : Option PasskeyCredential :=
  store.passkeys.rows.find? fun row => row.userId = userId && row.credentialId = credentialId

end Store

end Csms.Auth
