import Csms.Auth.Credentials.Service

/-!
# Second factors at logins

A login with a password shows a second factor where the user needs one, and so does a login
with a passkey.  The login with a code and that of the attendants never look.
-/

namespace Csms.Auth

open Js Database

/-- The user needs a second factor, by the row in any of the stores or by the passkeys in any
other. -/
def MfaEnforced (seen : Store → Prop) (userId : String) : Prop :=
  ∀ rows counted, seen rows → seen counted → ∃ user, rows.user? userId = some user ∧
    user.isMfaEnforced (counted.passkeyCount userId) = true

/-- The row of the user was read. -/
def IsFound (seen : Store → Prop) (user : User) : Prop :=
  ∃ store, seen store ∧ store.user? user.id = some user

/-- The operations that begin a session. -/
def AuthOperation.isLogin : AuthOperation → Bool
  | login _ | verifyOtp .. | verifyPasskeyLogin .. | attendantLogin .. => true
  | _ => false

/-- The login shows a second factor where one is needed. -/
def AuthOperation.checksMfa : AuthOperation → Bool
  | login _ | verifyPasskeyLogin .. => true
  | _ => false

section

variable {seen : Store → Prop}

variable {user : User}

theorem isFound_orFindUser {found : Option User} {identifier : Option String}
    {isMatch : String → User → Bool} (before : ∀ user, found = some user → IsFound seen user)
    (answers : (orFindUser found identifier isMatch).Answers seen (some user)) :
    IsFound seen user := by
  unfold orFindUser at answers
  split at answers
  · obtain ⟨id, _, answers⟩ := answers.of_bind
    obtain ⟨store, isSeen, isUser⟩ := answers.of_read
    obtain ⟨userId, rfl, stored⟩ := Option.bind_eq_some_iff.mp isUser
    exact ⟨store, isSeen, by rw [id_of_user? stored, stored]⟩
  · exact before user (answers_pure_iff.mp answers).symm

theorem isFound_findUserForLogin {identifiers : LoginIdentifiers}
    (answers : (findUserForLogin identifiers).Answers seen (some user)) : IsFound seen user := by
  obtain ⟨first, readFirst, answers⟩ := answers.of_bind
  obtain ⟨store, isSeen, rfl⟩ := readFirst.of_read
  obtain ⟨second, answersSecond, answers⟩ := answers.of_bind
  have firstFound (user : User)
      (found : store.users.rows.find? (User.hasLogin identifiers) = some user) :
      IsFound seen user :=
    ⟨store, isSeen, user?_of_mem (List.mem_of_find?_eq_some found)⟩
  apply isFound_orFindUser _ answers
  rintro user rfl
  exact isFound_orFindUser firstFound answersSecond

variable {runtime : CredentialRuntime} {call : AuthCall}

theorem userId_of_consumeUserOtpCode {userId providedCode : String} {checked : CheckedOtp}
    (answers : (consumeUserOtpCode call userId providedCode).Answers seen checked) :
    checked.user.id = userId := by
  obtain ⟨found, readUser, answers⟩ := answers.of_bind
  obtain ⟨store, _, rfl⟩ := readUser.of_read
  obtain ⟨first, isChecked, answers⟩ := answers.of_bind
  obtain ⟨updated, _, answers⟩ := answers.of_bind
  cases answers_pure_iff.mp answers
  exact id_of_user? (checkOtp_eq_ok (answers_orThrow isChecked)).1

theorem userId_of_verifyTotpForUser {token : String} {factor : SecondFactor runtime}
    (answers : (verifyTotpForUser runtime call user token).Answers seen factor) :
    factor.userId = user.id := by
  unfold verifyTotpForUser at answers
  split at answers
  · exact absurd answers not_answers_throw
  · obtain ⟨_, _, answers⟩ := answers.of_bind
    split at answers
    · exact absurd answers not_answers_throw
    · exact absurd answers not_answers_throw
    · rw [answers_pure_iff.mp answers]
      rfl

def ShowsFactor (seen : Store → Prop) (user : User) (factor : Option (SecondFactor runtime)) :
    Prop :=
  match factor with
  | some factor => factor.userId = user.id
  | none => ∃ store, seen store ∧ user.isMfaEnforced (store.passkeyCount user.id) = false

variable {loginDto : LoginDto}

theorem showsFactor_enforceLoginMfa {factor : Option (SecondFactor runtime)}
    (answers : (enforceLoginMfa runtime call user loginDto).Answers seen factor) :
    ShowsFactor seen user factor := by
  obtain ⟨passkeyCount, readCount, answers⟩ := answers.of_bind
  obtain ⟨hasRecoveryCodes, _, answers⟩ := answers.of_bind
  obtain ⟨store, isSeen, rfl⟩ := readCount.of_read
  rcases answers.of_ite with ⟨notEnforced, answers⟩ | ⟨_, answers⟩
  · rw [answers_pure_iff.mp answers]
    exact ⟨store, isSeen, Bool.not_eq_true' _ |>.mp notEnforced⟩
  · -- one case for each way to show a factor, and one for none
    split at answers
    · rcases answers.of_ite with ⟨_, answers⟩ | ⟨_, answers⟩
      · exact absurd answers not_answers_throw
      · obtain ⟨_, _, answers⟩ := answers.of_bind
        obtain ⟨checked, consumed, answers⟩ := answers.of_bind
        rw [answers_pure_iff.mp answers]
        exact userId_of_consumeUserOtpCode consumed
    · rcases answers.of_ite with ⟨_, answers⟩ | ⟨_, answers⟩
      · exact absurd answers not_answers_throw
      · obtain ⟨totp, verified, answers⟩ := answers.of_bind
        rw [answers_pure_iff.mp answers]
        exact userId_of_verifyTotpForUser verified
    · obtain ⟨codeHash, _, answers⟩ := answers.of_bind
      rw [answers_pure_iff.mp answers]
      rfl
    · rcases answers.of_ite with ⟨_, answers⟩ | ⟨_, answers⟩
      · obtain ⟨_, _, answers⟩ := answers.of_bind
        exact absurd answers not_answers_throw
      · rcases answers.of_ite with ⟨_, answers⟩ | ⟨_, answers⟩
        · exact absurd answers not_answers_throw
        · exact absurd answers not_answers_throw

theorem id_of_activateOnLogin {activated : User × Option String}
    (answers : (activateOnLogin call user loginDto).Answers seen activated) :
    activated.1.id = user.id := by
  unfold activateOnLogin at answers
  split at answers
  · rw [answers_pure_iff.mp answers]
  · obtain ⟨_, _, answers⟩ := answers.of_bind
    obtain ⟨_, _, answers⟩ := answers.of_bind
    obtain ⟨_, readUser, answers⟩ := answers.of_bind
    obtain ⟨store, _, rfl⟩ := readUser.of_read
    obtain ⟨found, isFound, answers⟩ := answers.of_bind
    rw [answers_pure_iff.mp answers]
    exact id_of_user? (answers_required isFound)

theorem id_of_activateSuperAdmin {user active : User}
    (answers : (activateSuperAdmin user).Answers seen active) : active.id = user.id := by
  rcases answers.of_ite with ⟨_, answers⟩ | ⟨_, answers⟩
  · obtain ⟨_, _, answers⟩ := answers.of_bind
    rw [answers_pure_iff.mp answers]
  · rw [answers_pure_iff.mp answers]

theorem issued_of_issueTokens {options : AuthSessionContextOptions}
    {secondFactor : Option (SecondFactor runtime)} {issued : IssuedSession runtime}
    (answers : (issueTokens runtime call user options secondFactor).Answers seen issued) :
    issued.userId = user.id ∧ issued.secondFactor = secondFactor := by
  obtain ⟨_, _, answers⟩ := answers.of_bind
  obtain ⟨_, _, answers⟩ := answers.of_bind
  obtain ⟨_, _, answers⟩ := answers.of_bind
  rw [answers_pure_iff.mp answers]
  exact ⟨rfl, rfl⟩

variable {issued : IssuedSession runtime} {accepted : Option Credential}

theorem showsFactor_login
    (answers : (login runtime call loginDto).Answers seen ⟨.session issued, accepted⟩) :
    ∃ user, IsFound seen user ∧ issued.userId = user.id ∧
      ShowsFactor seen user issued.secondFactor := by
  obtain ⟨_, _, answers⟩ := answers.of_bind
  obtain ⟨found, isFound, answers⟩ := answers.of_bind
  obtain ⟨user, isUser, answers⟩ := answers.of_bind
  rw [answers_required isUser] at isFound
  obtain ⟨_, _, answers⟩ := answers.of_bind
  obtain ⟨_, _, answers⟩ := answers.of_bind
  obtain ⟨_, _, answers⟩ := answers.of_bind
  obtain ⟨secondFactor, isShown, answers⟩ := answers.of_bind
  obtain ⟨activated, isActivated, answers⟩ := answers.of_bind
  obtain ⟨active, isActive, answers⟩ := answers.of_bind
  obtain ⟨session, isIssued, answers⟩ := answers.of_bind
  cases answers_pure_iff.mp answers
  obtain ⟨sameUser, sameFactor⟩ := issued_of_issueTokens isIssued
  refine ⟨user, isFound_findUserForLogin isFound, ?_, ?_⟩
  · rw [sameUser, id_of_activateSuperAdmin isActive, id_of_activateOnLogin isActivated]
  · rw [sameFactor]
    exact showsFactor_enforceLoginMfa isShown

theorem secondFactor_verifyOtp {identifier code : String}
    (answers : (verifyOtp runtime call identifier code).Answers seen
      ⟨.session issued, accepted⟩) : issued.secondFactor = none := by
  obtain ⟨_, _, answers⟩ := answers.of_bind
  obtain ⟨_, _, answers⟩ := answers.of_bind
  obtain ⟨_, _, answers⟩ := answers.of_bind
  obtain ⟨_, _, answers⟩ := answers.of_bind
  obtain ⟨session, isIssued, answers⟩ := answers.of_bind
  cases answers_pure_iff.mp answers
  exact (issued_of_issueTokens isIssued).2

theorem userId_of_verifyPasskey {challenge : MfaChallenge} {userId : String}
    {response : PasskeyResponse} {verified : SecondFactor runtime × PasskeyUse}
    (answers : (verifyPasskey runtime call challenge userId response).Answers seen verified) :
    verified.1.userId = userId := by
  obtain ⟨found, readPasskey, answers⟩ := answers.of_bind
  obtain ⟨store, _, rfl⟩ := readPasskey.of_read
  obtain ⟨credential, isCredential, answers⟩ := answers.of_bind
  have isOwn := List.find?_some (answers_required isCredential)
  split at answers
  · exact absurd answers not_answers_throw
  · rw [answers_pure_iff.mp answers]
    simp only [Bool.and_eq_true, decide_eq_true_eq] at isOwn
    exact isOwn.1

theorem showsFactor_verifyPasskeyLogin {challengeId : String} {response : PasskeyResponse}
    (answers : (verifyPasskeyLogin runtime call challengeId response).Answers seen
      ⟨.session issued, accepted⟩) :
    ∃ factor, issued.secondFactor = some factor ∧ factor.userId = issued.userId := by
  obtain ⟨_, _, answers⟩ := answers.of_bind
  obtain ⟨challengeUserId, _, answers⟩ := answers.of_bind
  obtain ⟨⟨factor, use⟩, isVerified, answers⟩ := answers.of_bind
  obtain ⟨_, _, answers⟩ := answers.of_bind
  obtain ⟨_, readUser, answers⟩ := answers.of_bind
  obtain ⟨store, _, rfl⟩ := readUser.of_read
  obtain ⟨user, isUser, answers⟩ := answers.of_bind
  obtain ⟨session, isIssued, answers⟩ := answers.of_bind
  cases answers_pure_iff.mp answers
  obtain ⟨sameUser, sameFactor⟩ := issued_of_issueTokens isIssued
  refine ⟨factor, sameFactor, ?_⟩
  rw [sameUser, id_of_user? (answers_required isUser)]
  exact userId_of_verifyPasskey isVerified

theorem secondFactor_attendantLogin {emailOrPhone password : String}
    (answers : (attendantLogin runtime call emailOrPhone password).Answers seen
      ⟨.session issued, accepted⟩) : issued.secondFactor = none := by
  obtain ⟨_, _, answers⟩ := answers.of_bind
  obtain ⟨_, _, answers⟩ := answers.of_bind
  obtain ⟨_, _, answers⟩ := answers.of_bind
  obtain ⟨_, _, answers⟩ := answers.of_bind
  obtain ⟨_, _, answers⟩ := answers.of_bind
  rcases answers.of_ite with ⟨_, answers⟩ | ⟨_, answers⟩
  · cases answers_pure_iff.mp answers
  · obtain ⟨session, isIssued, answers⟩ := answers.of_bind
    cases answers_pure_iff.mp answers
    obtain ⟨_, _, isIssued⟩ := isIssued.of_bind
    obtain ⟨_, _, isIssued⟩ := isIssued.of_bind
    rw [answers_pure_iff.mp isIssued]

end

/-- In every run of a login that begins a session of a user for whom MFA is enforced, a second
factor of that user was checked exactly when it is the login with a password or with a
passkey. -/
theorem secondFactor_iff_checksMfa (runtime : CredentialRuntime) (request : AuthRequest)
    (isLogin : request.operation.isLogin = true) (seen : Store → Prop)
    (issued : IssuedSession runtime) (accepted : Option Credential)
    (answers : (request.program runtime).Answers seen ⟨.session issued, accepted⟩)
    (enforced : MfaEnforced seen issued.userId) :
    (∃ factor, issued.secondFactor = some factor ∧ factor.userId = issued.userId) ↔
      request.operation.checksMfa = true := by
  obtain ⟨call, operation⟩ := request
  cases operation with
  | login loginDto =>
    refine iff_of_true ?_ rfl
    obtain ⟨user, ⟨rows, rowsSeen, isUser⟩, sameUser, shows⟩ := showsFactor_login answers
    rcases isFactor : issued.secondFactor with _ | factor
    · -- the passkeys were counted after the user was read
      rw [isFactor] at shows
      obtain ⟨counted, countedSeen, notEnforced⟩ := shows
      obtain ⟨other, isOther, isEnforced⟩ := enforced rows counted rowsSeen countedSeen
      rw [sameUser] at isOther isEnforced
      obtain rfl := Option.some.inj (isUser.symm.trans isOther)
      rw [notEnforced] at isEnforced
      contradiction
    · rw [isFactor] at shows
      exact ⟨factor, rfl, shows.trans sameUser.symm⟩
  | verifyOtp identifier code =>
    refine iff_of_false ?_ nofun
    rintro ⟨factor, isFactor, _⟩
    rw [secondFactor_verifyOtp answers] at isFactor
    contradiction
  | verifyPasskeyLogin challengeId response =>
    exact iff_of_true (showsFactor_verifyPasskeyLogin answers) rfl
  | attendantLogin emailOrPhone password =>
    refine iff_of_false ?_ nofun
    rintro ⟨factor, isFactor, _⟩
    rw [secondFactor_attendantLogin answers] at isFactor
    contradiction
  | _ => exact absurd isLogin nofun

namespace Sample

def requiresMfa (store : Store) : Bool :=
  (store.user? "ada").any User.mfaRequired

theorem mfaEnforced_requiresMfa : MfaEnforced (requiresMfa · = true) "ada" := by
  intro rows counted isSeen _
  obtain ⟨user, isUser, isRequired⟩ := (Option.any_eq_true _ _).mp isSeen
  exact ⟨user, isUser, by simp [User.isMfaEnforced, isRequired]⟩

/-- A login of the user that runs alone: whose session it begins, and whether a second factor
was checked. -/
def sessionOf (operation : AuthOperation) : Option (String × Bool) :=
  ((operation.program credentialRuntime authCall).aloneAnswer (AuthWrite.effect credentialRuntime)
    requiresMfa enrolledStore).bind fun answered =>
      match answered.response with
      | .session issued => some (issued.userId, issued.secondFactor.isSome)
      | _ => none

def otpBackedLogin : AuthOperation :=
  .login
    { email := some "ada@acme.test"
      phone := none
      password := "$2b$ada"
      inviteToken := none
      twoFactorToken := none
      recoveryCode := none
      otpCode := some "654321"
      otpChannel := none }

theorem exists_of_sessionOf {operation : AuthOperation} {userId : String} {isShown : Bool}
    (begins : sessionOf operation = some (userId, isShown)) :
    ∃ (issued : IssuedSession credentialRuntime) (accepted : Option Credential),
      (operation.program credentialRuntime authCall).Answers (requiresMfa · = true)
        ⟨.session issued, accepted⟩ ∧
      issued.userId = userId ∧ issued.secondFactor.isSome = isShown := by
  obtain ⟨⟨response, accepted⟩, answers, isSession⟩ := Option.bind_eq_some_iff.mp begins
  cases response with
  | session issued =>
    cases isSession
    exact ⟨issued, accepted, answers_of_aloneAnswer answers, rfl, rfl⟩
  | _ => contradiction

def BeginsUnchecked (operation : AuthOperation) : Prop :=
  operation.isLogin = true ∧
    ∃ (issued : IssuedSession credentialRuntime) (accepted : Option Credential)
      (seen : Store → Prop),
      (AuthRequest.program credentialRuntime ⟨authCall, operation⟩).Answers seen
        ⟨.session issued, accepted⟩ ∧
      MfaEnforced seen issued.userId ∧ issued.secondFactor = none

theorem beginsUnchecked_of_sessionOf {operation : AuthOperation}
    (isLogin : operation.isLogin = true) (begins : sessionOf operation = some ("ada", false)) :
    BeginsUnchecked operation := by
  obtain ⟨issued, accepted, answers, isUser, isNone⟩ := exists_of_sessionOf begins
  refine ⟨isLogin, issued, accepted, _, answers, ?_, by simpa using isNone⟩
  rw [isUser]
  exact mfaEnforced_requiresMfa

end Sample

open Sample

/-- With the password and a code. -/
theorem secondFactor_iff_checksMfa_otpBacked : ∃ issued : IssuedSession credentialRuntime,
      (∃ factor, issued.secondFactor = some factor ∧ factor.userId = issued.userId) ↔
        otpBackedLogin.checksMfa = true := by
  have begins : sessionOf otpBackedLogin = some ("ada", true) := by decide +kernel
  obtain ⟨issued, accepted, answers, isUser, _⟩ := exists_of_sessionOf begins
  refine ⟨issued, ?_⟩
  apply secondFactor_iff_checksMfa credentialRuntime
    ⟨authCall, otpBackedLogin⟩ rfl (requiresMfa · = true) issued accepted answers
  rw [isUser]
  exact mfaEnforced_requiresMfa

/-- A code alone, and at the login of the attendants a password alone, begin a session of a user
for whom MFA is required. -/
theorem session_without_secondFactor :
    BeginsUnchecked (.verifyOtp "ada@acme.test" "654321") ∧
      BeginsUnchecked (.attendantLogin "ada@acme.test" "$2b$ada") :=
  ⟨beginsUnchecked_of_sessionOf rfl (by decide +kernel),
    beginsUnchecked_of_sessionOf rfl (by decide +kernel)⟩

end Csms.Auth
