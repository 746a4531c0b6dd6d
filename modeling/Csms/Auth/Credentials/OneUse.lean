import Csms.Auth.Credentials.Codes
import Csms.Database.Attains

/-!
# Credentials that can be used once

A request that is answered for a credential has used it up in a commit of its own, if the
credential was still live there.  So a credential is accepted no more often than it was
issued, as long as each statement that means to use one up finds it live; only the one for
recovery codes looks.
-/

namespace Csms.Auth

open Js Database

def AuthWrite.uses : AuthWrite → Option Credential
  | updateUser userId _ (some code) => some (.otp userId code)
  | usePasskey use => some (.mfaChallenge use.challengeId)
  | registerPasskey challengeId _ _ => some (.mfaChallenge challengeId)
  | consumeRecoveryCode userId codeHash _ => some (.recoveryCode userId codeHash)
  | _ => none

def AuthWrite.issues (write : AuthWrite) (credential : Credential) : Bool :=
  write.liveAfter credential false

/-- The write finds live what it means to use up, or looks for itself. -/
def AuthWrite.findsLive (write : AuthWrite) (store : Store) : Bool :=
  match write with
  | consumeRecoveryCode .. => true
  | write => write.uses.all store.isLive

def AuthRequest.isRefusedReset (request : AuthRequest) (store : Store) : Bool :=
  match request.operation with
  | .verifyPasswordResetCode emailOrPhone code =>
    !(checkResetCode (store.findUserByIdentifier (normalizeIdentifier emailOrPhone)) code
      request.call.now).isOk
  | _ => true

/-- No code is verified without being used up, and no write uses up what another one has used
up since it was checked. -/
def usesLiveOnly : Conditions Store AuthQuery AuthWrite AuthRequest where
  onArrive _ _ := true
  onQuery request _ shared := request.isRefusedReset shared.store
  onCommit _ write shared := write.findsLive shared.store

def UsedBy (id : Nat) (credential : Credential) (shared : Shared Store AuthWrite) : Prop :=
  ∃ commit ∈ shared.commits,
    commit.session = id ∧ commit.spends (Store.isLive · credential) = true

/-- The commits that there are stay. -/
def Grows (before after : Shared Store AuthWrite) : Prop :=
  before.commits ⊆ after.commits

variable {credential : Credential}

theorem UsedBy.grows {id : Nat} {before after : Shared Store AuthWrite} (grows : Grows before after)
    (used : UsedBy id credential before) : UsedBy id credential after :=
  have ⟨commit, member, isUse⟩ := used
  ⟨commit, grows member, isUse⟩

section Programs

variable {runtime : CredentialRuntime} {request : AuthRequest} {id : Nat} {α γ : Type}

/-- The program ends as it says, and whatever it is answered for is used up by then. -/
def UsesUp (runtime : CredentialRuntime) (request : AuthRequest) (id : Nat)
    (program : AuthProgram α) (credentialOf : α → Option Credential) : Prop :=
  program.Attains (fun write => (AuthWrite.body runtime write).run) usesLiveOnly Grows request id
    fun value later => ∀ credential, credentialOf value = some credential →
      UsedBy id credential later

theorem guarantee_grows (runtime : CredentialRuntime) :
    Guarantee (fun write => (AuthWrite.body runtime write).run) usesLiveOnly Grows where
  refl _ _ member := member
  trans _ _ _ first second _ member := second (first member)
  commit _ id shared label after _ _ _ := shared.subset_commits_commit id label after

variable {credentialOf : α → Option Credential}

theorem usesUp_of_none {program : AuthProgram α}
    (isNone : ∀ value, program.Answers (fun _ => True) value → credentialOf value = none) :
    UsesUp runtime request id program credentialOf := by
  refine (guarantee_grows runtime).attains_of_answers fun value answers _ credential accepted => ?_
  rw [isNone value answers] at accepted
  contradiction

theorem usesUp_throw {exception : AuthException} :
    UsesUp runtime request id (throwHttp exception) credentialOf :=
  (guarantee_grows runtime).attains_throw

theorem usesUp_bind {first : AuthProgram α} {next : α → AuthProgram γ}
    {credentialOf : γ → Option Credential} (onward : ∀ value, first.Answers (fun _ => True) value →
      UsesUp runtime request id (next value) credentialOf) :
    UsesUp runtime request id (first >>= next) credentialOf :=
  (guarantee_grows runtime).attains_bind onward

theorem UsesUp.bind {first : AuthProgram α} {next : α → AuthProgram γ}
    {credentialOf' : γ → Option Credential} (uses : UsesUp runtime request id first credentialOf)
    (same : ∀ value answer, first.Answers (fun _ => True) value → (next value).Answers (fun _ => True) answer → credentialOf' answer = credentialOf value) :
    UsesUp runtime request id (first >>= next) credentialOf' := by
  refine (guarantee_grows runtime).attains_of_first uses ?_ ?_
  · intro value earlier later grows used credential accepted
    exact (used credential accepted).grows grows
  · intro value answer answersFirst answers later used credential accepted
    rw [same value answer answersFirst answers] at accepted
    exact used credential accepted

theorem usesUp_commit {write : AuthWrite} {credentialOf : write.Result → Option Credential}
    (spends : ∀ store after result credential, write.findsLive store = true →
      write.effect runtime store = some (after, result) → credentialOf result = some credential →
        store.isLive credential = true ∧ after.isLive credential = false) :
    UsesUp runtime request id write.commit credentialOf := by
  refine (guarantee_grows runtime).attains_commit ?_ ?_
  · intro result earlier later grows used credential accepted
    exact (used credential accepted).grows grows
  · intro shared after result allowed happens credential accepted
    have happens' : write.effect runtime shared.store = some (after, result) :=
      (AuthWrite.run_body runtime write shared.store).symm.trans happens
    obtain ⟨wasLive, isSpent⟩ := spends _ after result credential allowed happens' accepted
    refine ⟨_, shared.mem_commits_commit id write after, rfl, ?_⟩
    rw [Commit.spends, wasLive, isSpent]
    rfl

theorem usesUp_updateUser {userId code : String} {data : UserUpdate}
    (takes : data.otp = some none) :
    UsesUp runtime request id (AuthWrite.updateUser userId data (some code)).commit
      fun _ => some (.otp userId code) := by
  apply usesUp_commit
  intro store after result credential isLive happens accepted
  cases accepted
  refine ⟨isLive, ?_⟩
  rw [AuthWrite.isLive_of_isDone happens rfl, AuthWrite.liveAfter, if_pos rfl, takes]
  rfl

theorem usesUp_usePasskey {use : PasskeyUse} :
    UsesUp runtime request id (AuthWrite.usePasskey use).commit
      fun _ => some (.mfaChallenge use.challengeId) := by
  apply usesUp_commit
  intro store after result credential isLive happens accepted
  cases accepted
  refine ⟨isLive, ?_⟩
  rw [AuthWrite.isLive_of_isDone happens rfl, AuthWrite.liveAfter, if_pos rfl]

theorem usesUp_registerPasskey {challengeId : String} {row : PasskeyCredential} {now : Int} :
    UsesUp runtime request id (AuthWrite.registerPasskey challengeId row now).commit
      fun result => if Except.isOk result then some (.mfaChallenge challengeId) else none := by
  apply usesUp_commit
  intro store after result credential isLive happens accepted
  split at accepted
  · rename_i isDone
    cases accepted
    refine ⟨isLive, ?_⟩
    rw [AuthWrite.isLive_of_isDone happens isDone, AuthWrite.liveAfter, if_pos rfl]
  · contradiction

/-- The one that looks for itself. -/
theorem usesUp_consumeRecoveryCode {userId codeHash : String} {now : Int} :
    UsesUp runtime request id (AuthWrite.consumeRecoveryCode userId codeHash now).commit
      fun (consumed : Bool) => if consumed then some (.recoveryCode userId codeHash) else none := by
  apply usesUp_commit
  intro store after result credential _ happens accepted
  split at accepted
  · rename_i isConsumed
    cases accepted
    constructor
    · cases happens
      rw [← store.snd_consumeRecoveryCode userId codeHash now]
      exact isConsumed
    · rw [AuthWrite.isLive_of_isDone happens rfl, AuthWrite.liveAfter, if_pos rfl]
  · contradiction

variable {call : AuthCall}

theorem usesUp_consumeUserOtpCode {userId providedCode : String} :
    UsesUp runtime request id (consumeUserOtpCode call userId providedCode)
      fun checked => some checked.credential := by
  refine usesUp_bind fun found readUser => usesUp_bind fun checked isChecked => ?_
  refine usesUp_updateUser rfl |>.bind fun _ answer _ answers => ?_
  obtain ⟨store, _, rfl⟩ := readUser.of_read
  obtain ⟨isUser, isCode⟩ := checkOtp_eq_ok (answers_orThrow isChecked)
  rw [answers_pure_iff.mp answers, CheckedOtp.credential, id_of_user? isUser, isCode]

theorem usesUp_useRecoveryCode {userId recoveryCode : String} :
    UsesUp runtime request id (useRecoveryCode runtime call userId recoveryCode)
      fun codeHash => some (.recoveryCode userId codeHash) := by
  refine usesUp_bind fun _ _ => ?_
  have consumes : UsesUp runtime request id (consumeRecoveryCode runtime call userId recoveryCode)
      fun consumed => consumed.map (Credential.recoveryCode userId) := by
    unfold consumeRecoveryCode
    dsimp only
    split
    · exact usesUp_of_none fun _ answers => by rw [answers_pure_iff.mp answers]; rfl
    · refine usesUp_consumeRecoveryCode.bind fun consumed answer _ answers => ?_
      rw [answers_pure_iff.mp answers]
      split <;> rfl
  refine consumes.bind fun consumed codeHash _ answers => ?_
  rw [answers_required answers]
  rfl

variable {user : User} {seen : Store → Prop}

theorem credential_of_verifyTotpForUser {token : String} {factor : SecondFactor runtime}
    (answers : (verifyTotpForUser runtime call user token).Answers seen factor) :
    factor.credential = none := by
  unfold verifyTotpForUser at answers
  split at answers
  · exact absurd answers not_answers_throw
  · obtain ⟨_, _, answers⟩ := answers.of_bind
    split at answers
    · exact absurd answers not_answers_throw
    · exact absurd answers not_answers_throw
    · rw [answers_pure_iff.mp answers]
      rfl

theorem usesUp_enforceLoginMfa {loginDto : LoginDto} :
    UsesUp runtime request id (enforceLoginMfa runtime call user loginDto)
      fun factor => factor.bind SecondFactor.credential := by
  refine usesUp_bind fun passkeyCount _ => usesUp_bind fun hasRecoveryCodes _ => ?_
  dsimp only
  split
  · exact usesUp_of_none fun _ answers => by rw [answers_pure_iff.mp answers]; rfl
  · -- one case for each way to show a factor, and one for none
    split
    · split
      · exact usesUp_throw
      · refine usesUp_bind fun _ _ => usesUp_consumeUserOtpCode.bind fun _ _ _ answers => ?_
        rw [answers_pure_iff.mp answers]
        rfl
    · split
      · exact usesUp_throw
      · refine usesUp_of_none fun _ answers => ?_
        obtain ⟨factor, verified, answers⟩ := answers.of_bind
        rw [answers_pure_iff.mp answers]
        exact credential_of_verifyTotpForUser verified
    · refine usesUp_useRecoveryCode.bind fun _ _ _ answers => ?_
      rw [answers_pure_iff.mp answers]
      rfl
    · split
      · exact usesUp_bind fun _ _ => usesUp_throw
      · split <;> exact usesUp_throw

variable {input : MfaConfirmationInput}

theorem usesUp_assertSensitiveActionMfa {missingProofMessage : String} : UsesUp runtime request id
      (assertSensitiveActionMfa runtime call user input missingProofMessage)
      fun accepted => accepted := by
  refine usesUp_bind fun passkeyCount _ => ?_
  split
  · exact usesUp_of_none fun _ answers => answers_pure_iff.mp answers
  · split
    · refine usesUp_of_none fun _ answers => ?_
      obtain ⟨_, _, answers⟩ := answers.of_bind
      exact answers_pure_iff.mp answers
    · split
      · exact usesUp_throw
      · refine usesUp_of_none fun _ answers => ?_
        obtain ⟨_, _, answers⟩ := answers.of_bind
        exact answers_pure_iff.mp answers
    · exact usesUp_useRecoveryCode.bind fun _ _ _ answers => answers_pure_iff.mp answers
    · exact usesUp_throw

variable {response : PasskeyResponse}

theorem credential_of_verifyPasskey {challenge : MfaChallenge} {userId : String}
    {verified : SecondFactor runtime × PasskeyUse}
    (answers : (verifyPasskey runtime call challenge userId response).Answers seen verified) :
    verified.1.credential = some (.mfaChallenge challenge.id) ∧
      verified.2.challengeId = challenge.id := by
  obtain ⟨found, _, answers⟩ := answers.of_bind
  obtain ⟨credential, _, answers⟩ := answers.of_bind
  split at answers
  · exact absurd answers not_answers_throw
  · rw [answers_pure_iff.mp answers]
    exact ⟨rfl, rfl⟩

theorem usesUp_login {loginDto : LoginDto} :
    UsesUp runtime request id (login runtime call loginDto) Answered.accepted := by
  refine usesUp_bind fun _ _ => usesUp_bind fun _ _ => usesUp_bind fun user _ => ?_
  refine usesUp_bind fun _ _ => usesUp_bind fun _ _ => usesUp_bind fun _ _ => ?_
  refine usesUp_enforceLoginMfa.bind fun secondFactor answered _ answers => ?_
  obtain ⟨_, _, answers⟩ := answers.of_bind
  obtain ⟨_, _, answers⟩ := answers.of_bind
  obtain ⟨_, _, answers⟩ := answers.of_bind
  rw [answers_pure_iff.mp answers]

theorem credential_of_checkOtp {code : String} {now : Int} {checked : CheckedOtp}
    (answers : (orThrow (checkOtp (some user) code now)).Answers seen checked) :
    checked.credential = .otp user.id code := by
  obtain ⟨isUser, isCode⟩ := checkOtp_eq_ok (answers_orThrow answers)
  rw [CheckedOtp.credential, isCode, Option.some.inj isUser]

theorem usesUp_verifyOtp {identifier code : String} :
    UsesUp runtime request id (verifyOtp runtime call identifier code) Answered.accepted := by
  refine usesUp_bind fun _ _ => usesUp_bind fun user _ => usesUp_bind fun checked isChecked => ?_
  refine usesUp_updateUser rfl |>.bind fun _ answered _ answers => ?_
  obtain ⟨_, _, answers⟩ := answers.of_bind
  rw [answers_pure_iff.mp answers, credential_of_checkOtp isChecked]

theorem usesUp_verifyMfaSetupOtp {userId code : String} :
    UsesUp runtime request id (verifyMfaSetupOtp runtime call userId code) Answered.accepted := by
  refine usesUp_bind fun _ _ => usesUp_bind fun _ _ => usesUp_bind fun _ _ => ?_
  refine usesUp_bind fun _ _ => usesUp_consumeUserOtpCode.bind fun checked answered _ answers => ?_
  obtain ⟨_, _, answers⟩ := answers.of_bind
  rw [answers_pure_iff.mp answers]

theorem usesUp_resetPassword {identifier code newPassword : String} :
    UsesUp runtime request id (resetPassword runtime call identifier code newPassword)
      Answered.accepted := by
  refine usesUp_bind fun _ _ => usesUp_bind fun user _ => usesUp_bind fun checked isChecked => ?_
  refine usesUp_updateUser rfl |>.bind fun _ answered _ answers => ?_
  rw [answers_pure_iff.mp answers, credential_of_checkOtp isChecked]

theorem usesUp_verifyPasskeyLogin {challengeId : String} :
    UsesUp runtime request id (verifyPasskeyLogin runtime call challengeId response)
      Answered.accepted := by
  refine usesUp_bind fun challenge _ => usesUp_bind fun _ _ => usesUp_bind fun verified isVerified => ?_
  obtain ⟨isCredential, isChallenge⟩ := credential_of_verifyPasskey isVerified
  refine usesUp_usePasskey.bind fun _ answered _ answers => ?_
  obtain ⟨_, _, answers⟩ := answers.of_bind
  obtain ⟨_, _, answers⟩ := answers.of_bind
  obtain ⟨_, _, answers⟩ := answers.of_bind
  rw [answers_pure_iff.mp answers, isCredential, isChallenge]

theorem usesUp_verifyPasskeyStepUp {userId challengeId : String} :
    UsesUp runtime request id (verifyPasskeyStepUp runtime call userId challengeId response)
      Answered.accepted := by
  refine usesUp_bind fun challenge _ => usesUp_bind fun verified isVerified => ?_
  obtain ⟨_, isChallenge⟩ := credential_of_verifyPasskey isVerified
  refine usesUp_usePasskey.bind fun _ answered _ answers => ?_
  obtain ⟨_, _, answers⟩ := answers.of_bind
  rw [answers_pure_iff.mp answers, isChallenge]

theorem usesUp_verifyPasskeyRegistration {userId challengeId : String} :
    UsesUp runtime request id (verifyPasskeyRegistration runtime call userId challengeId response)
      Answered.accepted := by
  refine usesUp_bind fun challenge _ => usesUp_bind fun _ _ => ?_
  refine usesUp_registerPasskey.bind fun registered answered _ answers => ?_
  obtain ⟨_, isRegistered, answers⟩ := answers.of_bind
  obtain ⟨_, _, answers⟩ := answers.of_bind
  rw [answers_orThrow isRegistered, answers_pure_iff.mp answers]
  rfl

theorem usesUp_changePassword {userId currentPassword newPassword : String}
    {confirmation : MfaConfirmationInput} : UsesUp runtime request id
      (changePassword runtime call userId currentPassword newPassword confirmation)
      Answered.accepted := by
  refine usesUp_bind fun _ _ => usesUp_bind fun _ _ => usesUp_bind fun _ _ => ?_
  refine usesUp_bind fun _ _ => usesUp_assertSensitiveActionMfa.bind fun _ _ _ answers => ?_
  obtain ⟨_, _, answers⟩ := answers.of_bind
  obtain ⟨_, _, answers⟩ := answers.of_bind
  rw [answers_pure_iff.mp answers]

theorem usesUp_removePasskey {userId credentialId currentPassword : String} :
    UsesUp runtime request id (removePasskey runtime call userId credentialId currentPassword input)
      Answered.accepted := by
  refine usesUp_bind fun _ _ => usesUp_bind fun _ _ => usesUp_bind fun _ _ => ?_
  refine usesUp_assertSensitiveActionMfa.bind fun _ _ _ answers => ?_
  obtain ⟨_, _, answers⟩ := answers.of_bind
  obtain ⟨_, _, answers⟩ := answers.of_bind
  obtain ⟨_, _, answers⟩ := answers.of_bind
  obtain ⟨_, _, answers⟩ := answers.of_bind
  obtain ⟨_, _, answers⟩ := answers.of_bind
  obtain ⟨_, _, answers⟩ := answers.of_bind
  rw [answers_pure_iff.mp answers]

theorem usesUp_regenerateRecoveryCodes {userId currentPassword : String} :
    UsesUp runtime request id (regenerateRecoveryCodes runtime call userId currentPassword input)
      Answered.accepted := by
  refine usesUp_bind fun _ _ => usesUp_bind fun _ _ => usesUp_bind fun _ _ => ?_
  refine usesUp_assertSensitiveActionMfa.bind fun _ _ _ answers => ?_
  obtain ⟨_, _, answers⟩ := answers.of_bind
  obtain ⟨_, _, answers⟩ := answers.of_bind
  rw [answers_pure_iff.mp answers]

theorem usesUp_attendantLogin {emailOrPhone password : String} :
    UsesUp runtime request id (attendantLogin runtime call emailOrPhone password)
      Answered.accepted := by
  refine usesUp_bind fun _ _ => usesUp_bind fun _ _ => usesUp_bind fun _ _ => ?_
  refine usesUp_bind fun _ _ => usesUp_bind fun _ _ => ?_
  split
  · exact usesUp_of_none fun _ answers => by rw [answers_pure_iff.mp answers]
  · refine usesUp_of_none fun _ answers => ?_
    obtain ⟨_, _, answers⟩ := answers.of_bind
    rw [answers_pure_iff.mp answers]

theorem usesUp_plain {program : AuthProgram (AuthResponse runtime)} :
    UsesUp runtime request id (plain program) Answered.accepted := by
  refine usesUp_of_none fun answered answers => ?_
  obtain ⟨_, _, answers⟩ := answers.of_bind
  rw [answers_pure_iff.mp answers]

theorem not_isRefusedReset {emailOrPhone code : String} {store : Store}
    (isRefused : (AuthRequest.mk call (.verifyPasswordResetCode emailOrPhone code)).isRefusedReset store)
    (isChecked : checkResetCode (store.findUserByIdentifier (normalizeIdentifier emailOrPhone)) code call.now = .ok user) :
    False := by
  dsimp only [AuthRequest.isRefusedReset] at isRefused
  rw [isChecked] at isRefused
  contradiction

theorem onQuery_usesLiveOnly (request : AuthRequest) (query : AuthQuery)
    (shared : Shared Store AuthWrite) :
    usesLiveOnly.onQuery request query shared = request.isRefusedReset shared.store :=
  rfl

/-- The code is verified and stays as it is: only a refusal keeps it from being accepted. -/
theorem usesUp_verifyPasswordResetCode {emailOrPhone code : String} :
    UsesUp runtime ⟨call, .verifyPasswordResetCode emailOrPhone code⟩ id
      (verifyPasswordResetCode runtime call emailOrPhone code) Answered.accepted := by
  intro shared
  rw [verifyPasswordResetCode, meets_read_bind]
  intro later _ _ isRefused
  rw [onQuery_usesLiveOnly] at isRefused
  refine usesUp_bind (fun user isChecked => ?_) later
  exact (not_isRefusedReset isRefused (answers_orThrow isChecked)).elim

theorem usesUp_program (request : AuthRequest) (id : Nat) :
    UsesUp runtime request id (request.program runtime) Answered.accepted := by
  obtain ⟨call, operation⟩ := request
  cases operation with
  | login loginDto => exact usesUp_login
  | verifyOtp identifier code => exact usesUp_verifyOtp
  | verifyPasskeyLogin challengeId response => exact usesUp_verifyPasskeyLogin
  | attendantLogin emailOrPhone password => exact usesUp_attendantLogin
  | verifyMfaSetupOtp userId code => exact usesUp_verifyMfaSetupOtp
  | resetPassword identifier code newPassword => exact usesUp_resetPassword
  | changePassword userId currentPassword newPassword confirmation => exact usesUp_changePassword
  | verifyPasskeyRegistration userId challengeId response =>
    exact usesUp_verifyPasskeyRegistration
  | removePasskey userId credentialId currentPassword input => exact usesUp_removePasskey
  | verifyPasskeyStepUp userId challengeId response => exact usesUp_verifyPasskeyStepUp
  | regenerateRecoveryCodes userId currentPassword input => exact usesUp_regenerateRecoveryCodes
  | verifyPasswordResetCode emailOrPhone code => exact usesUp_verifyPasswordResetCode
  | _ => exact usesUp_plain

end Programs

/-- The session was answered for the credential. -/
def AuthState.Accepted {runtime : CredentialRuntime} (state : AuthState runtime) (id : Nat)
    (credential : Credential) : Prop :=
  ∃ request answered, state.Answered id request answered ∧ answered.accepted = some credential

section Runs

variable {runtime : CredentialRuntime} {store : Store} {state : AuthState runtime}

theorem usedBy_of_accepted (reachable : state.Reachable usesLiveOnly store) {id : Nat}
    (accepted : state.Accepted id credential) : UsedBy id credential state.shared := by
  obtain ⟨request, answered, ⟨arrived, found⟩, isAccepted⟩ := accepted
  have used := ReadCommitted.Reachable.attains (AuthWrite.guarded runtime)
    (guarantee_grows runtime) usesUp_program reachable found
  exact used credential isAccepted

theorem countP_issues_le (reachable : state.Reachable usesLiveOnly store)
    (credential : Credential) :
    state.shared.commits.countP (Commit.issues (Store.isLive · credential)) ≤
      state.shared.commits.countP fun commit => commit.label.issues credential := by
  apply List.countP_mono_left
  intro commit member isIssue
  obtain ⟨result, run⟩ := ReadCommitted.Reachable.commit_run (AuthWrite.guarded runtime) reachable
    commit member
  have becomes := AuthWrite.isLive_of_effect
    ((AuthWrite.run_body runtime commit.label commit.before).symm.trans run) credential
  rw [Commit.issues, Bool.and_eq_true, Bool.not_eq_true'] at isIssue
  rw [isIssue.1, isIssue.2] at becomes
  split at becomes
  · exact becomes.symm
  · contradiction

/-- However the requests interleave, as many of them are answered for a credential as times it
was issued, and one more if it was live from the beginning: if each write that uses up a
credential finds it live, and no reset code is verified without being used up. -/
theorem length_accepted_le_issued (reachable : state.Reachable usesLiveOnly store)
    (credential : Credential) (ids : List Nat) (distinct : ids.Nodup)
    (accepted : ∀ id ∈ ids, state.Accepted id credential) :
    ids.length ≤ state.shared.commits.countP (fun commit => commit.label.issues credential) +
      (store.isLive credential).toNat := by
  have own := length_le_countP_commits distinct fun id member =>
    usedBy_of_accepted reachable (accepted id member)
  have balance := ReadCommitted.Reachable.countP_spends (Store.isLive · credential)
    (AuthWrite.guarded runtime) reachable
  have issued := countP_issues_le reachable credential
  omega

end Runs

namespace Sample

def reset : AuthRequest :=
  ⟨authCall, .resetPassword "ada@acme.test" "654321" "Correct-Horse-9"⟩

def acceptedBy (state : AuthState credentialRuntime) (id : Nat) : Option Credential :=
  match state.sessions[id]? with
  | some ⟨_, _, .outside (.answer answered)⟩ => answered.accepted
  | _ => none

theorem accepted_of_acceptedBy {state : AuthState credentialRuntime} {id : Nat}
    (isAccepted : acceptedBy state id = some credential) : state.Accepted id credential := by
  unfold acceptedBy at isAccepted
  split at isAccepted
  · rename_i request arrived answered found
    exact ⟨request, answered, ⟨arrived, found⟩, isAccepted⟩
  · contradiction

def resetOnce : List (DatabaseEvent AuthRequest) :=
  [.arrive reset, .query 0, .begin 0, .statement 0, .statement 0, .commit 0]

def resetTwice : List (DatabaseEvent AuthRequest) :=
  [.arrive reset, .arrive reset, .query 0, .query 1, .begin 0, .statement 0, .statement 0,
    .commit 0, .begin 1, .statement 1, .statement 1, .commit 1]

end Sample

open Sample

/-- A code that was live from the beginning is accepted once. -/
theorem length_accepted_le_issued_resetOnce : ∃ state : AuthState credentialRuntime,
      [0].length ≤ state.shared.commits.countP
            (fun commit => commit.label.issues (.otp "ada" "654321")) +
          (enrolledStore.isLive (.otp "ada" "654321")).toNat := by
  have run : (after enrolledStore usesLiveOnly resetOnce).map (acceptedBy · 0) =
      some (some (.otp "ada" "654321")) := by decide +kernel
  obtain ⟨state, reached, isAccepted⟩ := Option.map_eq_some_iff.mp run
  refine ⟨state, length_accepted_le_issued (Transition.reachable_of_foldlM reached)
    (.otp "ada" "654321") [0] (by decide) ?_⟩
  rw [List.forall_mem_singleton]
  exact accepted_of_acceptedBy isAccepted

/-- Two requests that have both read the code before one of them takes it away are both answered
for it, though it was never issued again. -/
theorem accepted_twice : ∃ state : AuthState credentialRuntime,
      state.Reachable Conditions.none enrolledStore ∧
        state.Accepted 0 (.otp "ada" "654321") ∧ state.Accepted 1 (.otp "ada" "654321") ∧
        state.shared.commits.countP
          (fun commit => commit.label.issues (.otp "ada" "654321")) = 0 := by
  have run : (after enrolledStore Conditions.none resetTwice).map (fun state =>
      (acceptedBy state 0, acceptedBy state 1,
        state.shared.commits.countP fun commit => commit.label.issues (.otp "ada" "654321"))) =
      some (some (.otp "ada" "654321"), some (.otp "ada" "654321"), 0) := by decide +kernel
  obtain ⟨state, reached, isRun⟩ := Option.map_eq_some_iff.mp run
  rw [Prod.mk.injEq, Prod.mk.injEq] at isRun
  obtain ⟨first, second, issued⟩ := isRun
  exact ⟨state, Transition.reachable_of_foldlM reached, accepted_of_acceptedBy first,
    accepted_of_acceptedBy second, issued⟩

end Csms.Auth
