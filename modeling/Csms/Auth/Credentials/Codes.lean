import Csms.Auth.Credentials.Service
import Csms.Service.Program

/-!
# Which credentials are live

A code, a challenge or a recovery code is live while its row says so.  What each write makes
of that is one function of the write.
-/

namespace Csms.Auth

open Js Database Service

def Store.isLive (store : Store) : Credential → Bool
  | .otp userId code => (store.user? userId).any fun user => user.otpCode = some code
  | .mfaChallenge id => (store.mfaChallenges.find? id).any fun row => row.consumedAt.isNone
  | .recoveryCode userId codeHash =>
    (store.recoveryCodes.find? (userId, codeHash)).any fun row => row.usedAt.isNone

def AuthWrite.liveAfter (write : AuthWrite) (credential : Credential) (before : Bool) : Bool :=
  match write, credential with
  | createUser user, .otp userId code =>
    if userId = user.id then user.otpCode = some code else before
  | updateUser id data _, .otp userId code =>
    if userId = id then
      match data.otp with
      | some otp => otp.map Prod.fst = some code
      | none => before
    else before
  | createMfaChallenge row, .mfaChallenge id =>
    if id = row.id then row.consumedAt.isNone else before
  | usePasskey use, credential =>
    if credential = .mfaChallenge use.challengeId then false else before
  | registerPasskey challengeId _ _, credential =>
    if credential = .mfaChallenge challengeId then false else before
  | consumeRecoveryCode userId codeHash _, credential =>
    if credential = .recoveryCode userId codeHash then false else before
  | replaceRecoveryCodes userId codeHashes, .recoveryCode userId' codeHash =>
    if userId' = userId then decide (codeHash ∈ codeHashes) else before
  | _, _ => before

/-- The transaction has done its work: it was not broken off by an exception. -/
def AuthWrite.isDone : (write : AuthWrite) → write.Result → Bool
  | registerPasskey .., result => result.isOk
  | activateInvitation .., result => result.isOk
  | _, _ => true

namespace Store

/-- The codes, the challenges, the recovery codes and the refresh tokens are the same. -/
structure SameCredentials (store after : Store) : Prop where
  otpCode : ∀ userId,
    (after.user? userId).bind User.otpCode = (store.user? userId).bind User.otpCode
  mfaChallenges : after.mfaChallenges = store.mfaChallenges
  recoveryCodes : after.recoveryCodes = store.recoveryCodes
  refreshTokens : after.refreshTokens = store.refreshTokens

namespace SameCredentials

variable {store middle after : Store}

theorem of_users_eq (users : after.users = store.users)
    (mfaChallenges : after.mfaChallenges = store.mfaChallenges)
    (recoveryCodes : after.recoveryCodes = store.recoveryCodes)
    (refreshTokens : after.refreshTokens = store.refreshTokens) : store.SameCredentials after where
  otpCode userId := by rw [user?, user?, users]
  mfaChallenges := mfaChallenges
  recoveryCodes := recoveryCodes
  refreshTokens := refreshTokens

theorem refl (store : Store) : store.SameCredentials store :=
  of_users_eq rfl rfl rfl rfl

theorem trans (first : store.SameCredentials middle) (second : middle.SameCredentials after) :
    store.SameCredentials after where
  otpCode userId := (second.otpCode userId).trans (first.otpCode userId)
  mfaChallenges := second.mfaChallenges.trans first.mfaChallenges
  recoveryCodes := second.recoveryCodes.trans first.recoveryCodes
  refreshTokens := second.refreshTokens.trans first.refreshTokens

theorem any_otpCode (user : Option User) (code : String) :
    (user.any fun user => user.otpCode = some code) =
      decide (user.bind User.otpCode = some code) := by
  cases user <;> simp

theorem isLive (same : store.SameCredentials after) (credential : Credential) :
    after.isLive credential = store.isLive credential := by
  cases credential with
  | otp userId code =>
    rw [Store.isLive, Store.isLive, any_otpCode, any_otpCode, same.otpCode]
  | mfaChallenge id => rw [Store.isLive, Store.isLive, same.mfaChallenges]
  | recoveryCode userId codeHash => rw [Store.isLive, Store.isLive, same.recoveryCodes]

end SameCredentials

section

variable (store : Store) (userId : String) (change : User → User)
    (keeps : ∀ user, (change user).id = user.id)
include userId change keeps

theorem user?_updateUser (wanted : String) : (store.updateUser userId change keeps).user? wanted =
      if wanted = userId then (store.user? wanted).map change else store.user? wanted := by
  refine (Table.find?_updateWhere store.users _ change keeps wanted).trans ?_
  by_cases isUser : wanted = userId
  · rw [if_pos isUser]
    rcases found : store.users.find? wanted with _ | user
    · rw [user?, found]
      rfl
    · have sameId := (Table.find?_eq_some_iff.mp found).2
      rw [user?, found, Option.map_some, if_pos (decide_eq_true (sameId.trans isUser))]
      rfl
  · rw [if_neg isUser]
    rcases found : store.users.find? wanted with _ | user
    · rw [user?, found]
      rfl
    · have sameId := (Table.find?_eq_some_iff.mp found).2
      rw [user?, found, Option.map_some, if_neg (by simp [sameId, isUser])]

theorem sameCredentials_updateUser (keepsOtp : ∀ user, (change user).otpCode = user.otpCode) :
    store.SameCredentials (store.updateUser userId change keeps) where
  otpCode wanted := by
    rw [user?_updateUser]
    split
    · rcases store.user? wanted with _ | user
      · rfl
      · exact keepsOtp user
    · rfl
  mfaChallenges := rfl
  recoveryCodes := rfl
  refreshTokens := rfl

end

section Activation

variable {runtime : AuthRuntime} {store after : Store} {call : Call} {activation : Activation}
  {invitation : UserInvitation}

theorem sameCredentials_materializeAssignments
    (done : store.materializeAssignments call activation invitation = .ok after) :
    store.SameCredentials after := by
  rw [materializeAssignments] at done
  split at done
  · cases done
    exact .refl store
  · obtain ⟨assignments, _, later⟩ := exists_of_bind_eq_ok done
    obtain ⟨_, _, later⟩ := exists_of_bind_eq_ok later
    obtain ⟨created, isCreated, synced⟩ := exists_of_bind_eq_ok later
    obtain ⟨_, _, isAfter⟩ := exists_of_bind_eq_ok synced
    obtain ⟨_, _, isCreated⟩ := exists_of_bind_eq_ok isCreated
    cases isAfter
    have untilCreated : store.SameCredentials created := by
      cases isCreated
      exact .of_users_eq rfl rfl rfl rfl
    have untilAssigned (assignmentId : Option String) : store.SameCredentials
        (created.setLastStationAssignment activation.userId assignmentId) :=
      untilCreated.trans (sameCredentials_updateUser _ _ _ _ fun _ => rfl)
    split
    · exact (untilAssigned _).trans (.of_users_eq rfl rfl rfl rfl)
    · exact untilCreated.trans (.of_users_eq rfl rfl rfl rfl)

theorem sameCredentials_activateInvitationOnLogin {organizationId : String}
    (done : store.activateInvitationOnLogin runtime call activation =
      .ok (after, organizationId)) : store.SameCredentials after := by
  obtain ⟨invitation, _, later⟩ := exists_of_bind_eq_ok done
  obtain ⟨user, _, later⟩ := exists_of_bind_eq_ok later
  obtain ⟨materialized, isMaterialized, isAfter⟩ := exists_of_bind_eq_ok later
  cases isAfter
  have activated : store.SameCredentials (store.activateMembership invitation user.id) :=
    .of_users_eq rfl rfl rfl rfl
  have marked : (store.activateMembership invitation user.id).SameCredentials
      ((store.activateMembership invitation user.id).markActivated runtime call activation
        invitation) := by
    rw [markActivated]
    refine .trans ?_ (sameCredentials_updateUser _ _ _ _ ?_)
    · exact .of_users_eq rfl rfl rfl rfl
    · exact fun _ => rfl
  refine ((activated.trans marked).trans
    (sameCredentials_materializeAssignments isMaterialized)).trans ?_
  rw [syncLegacyOrganizationId]
  split
  · exact sameCredentials_updateUser _ _ _ _ fun _ => rfl
  · exact .refl _

end Activation

section Changes

variable {store after : Store}

theorem of_updateUser? {userId : String} {data : UserUpdate} {user : User}
    (updated : store.updateUser? userId data = some (after, user)) :
    (store.user? userId).isSome = true ∧
      after = store.updateUser userId data.apply data.id_apply := by
  obtain ⟨_, found, updated⟩ := Option.bind_eq_some_iff.mp updated
  obtain ⟨_, _, updated⟩ := Option.bind_eq_some_iff.mp updated
  cases updated
  rw [found]
  exact ⟨rfl, rfl⟩

theorem sameCredentials_requireMfa {userId : String} {user : User}
    (updated : store.updateUser? userId { mfaRequired := some true } = some (after, user)) :
    store.SameCredentials after := by
  rw [(of_updateUser? updated).2]
  exact sameCredentials_updateUser _ _ _ _ fun _ => rfl

theorem isLive_consumeMfaChallenge? {challengeId : String} {now : Int}
    (consumed : store.consumeMfaChallenge? challengeId now = some after) (credential : Credential) :
    after.isLive credential =
      if credential = .mfaChallenge challengeId then false else store.isLive credential := by
  obtain ⟨_, _, consumed⟩ := Option.bind_eq_some_iff.mp consumed
  cases consumed
  cases credential with
  | otp userId code => rfl
  | recoveryCode userId codeHash => rfl
  | mfaChallenge id =>
    rw [isLive, Table.find?_updateWhere, isLive]
    rcases found : store.mfaChallenges.find? id with _ | row
    · simp
    · have sameId := (Table.find?_eq_some_iff.mp found).2
      by_cases isChallenge : id = challengeId <;> simp [sameId, isChallenge]

theorem isLive_usePasskey? {use : PasskeyUse} (used : store.usePasskey? use = some after)
    (credential : Credential) : after.isLive credential =
      if credential = .mfaChallenge use.challengeId then false else store.isLive credential := by
  obtain ⟨_, _, used⟩ := Option.bind_eq_some_iff.mp used
  obtain ⟨middle, isRequired, consumed⟩ := Option.bind_eq_some_iff.mp used
  have counted (passkeys : Table PasskeyCredential PasskeyCredential.credentialId) :
      store.SameCredentials { store with passkeys } := .of_users_eq rfl rfl rfl rfl
  have same : store.SameCredentials middle := by
    unfold requireMfaFor? at isRequired
    split at isRequired
    · cases isRequired
      exact counted _
    · obtain ⟨⟨_, _⟩, updated, isMiddle⟩ := Option.map_eq_some_iff.mp isRequired
      cases isMiddle
      exact (counted _).trans (sameCredentials_requireMfa updated)
  rw [isLive_consumeMfaChallenge? consumed, same.isLive]

theorem isLive_registerPasskey? {challengeId : String} {row : PasskeyCredential} {now : Int}
    {result : Except AuthException Unit}
    (registered : store.registerPasskey? challengeId row now = some (after, result))
    (credential : Credential) : after.isLive credential =
      if result.isOk ∧ credential = .mfaChallenge challengeId then false
      else store.isLive credential := by
  rw [registerPasskey?] at registered
  split at registered
  · cases registered
    exact (if_neg (by rintro ⟨⟨⟩, _⟩)).symm
  · obtain ⟨consumed, isConsumed, registered⟩ := Option.bind_eq_some_iff.mp registered
    obtain ⟨⟨_, _⟩, updated, registered⟩ := Option.bind_eq_some_iff.mp registered
    cases registered
    have saved (passkeys : Table PasskeyCredential PasskeyCredential.credentialId) :
        store.SameCredentials { store with passkeys } := .of_users_eq rfl rfl rfl rfl
    rw [(sameCredentials_requireMfa updated).isLive, isLive_consumeMfaChallenge? isConsumed,
      (saved _).isLive]
    simp [Except.isOk, Except.toBool]

theorem isLive_updateUser? {userId : String} {data : UserUpdate} {user : User}
    (updated : store.updateUser? userId data = some (after, user)) (checkedCode : Option String)
    (credential : Credential) : after.isLive credential =
      (AuthWrite.updateUser userId data checkedCode).liveAfter credential
        (store.isLive credential) := by
  obtain ⟨isThere, rfl⟩ := of_updateUser? updated
  cases credential with
  | mfaChallenge id => rfl
  | recoveryCode userId codeHash => rfl
  | otp wanted code =>
    rw [isLive, user?_updateUser, AuthWrite.liveAfter, isLive]
    by_cases isUser : wanted = userId
    · subst isUser
      obtain ⟨old, found⟩ := Option.isSome_iff_exists.mp isThere
      rw [if_pos rfl, if_pos rfl, found]
      rcases setOtp : data.otp with _ | otp <;> simp [UserUpdate.apply, setOtp]
    · rw [if_neg isUser, if_neg isUser]

theorem find?_unusedCodes (userId wanted codeHash : String) (codeHashes : List String) :
    ((codeHashes.map fun codeHash => (⟨userId, codeHash, none⟩ : MfaRecoveryCode)).find?
        fun row => row.key = (wanted, codeHash)) =
      if wanted = userId ∧ codeHash ∈ codeHashes then some ⟨userId, codeHash, none⟩ else none := by
  induction codeHashes with
  | nil => simp
  | cons other codeHashes ih =>
    rw [List.map_cons, List.find?_cons, ih]
    simp only [MfaRecoveryCode.key, Prod.mk.injEq, List.mem_cons]
    by_cases isUser : userId = wanted
    · by_cases isCode : other = codeHash
      · simp [isUser, isCode]
      · simp [isUser, isCode, Ne.symm isCode]
    · simp [isUser, Ne.symm isUser]

theorem isLive_replaceRecoveryCodes? {userId : String} {codeHashes : List String}
    (replaced : store.replaceRecoveryCodes? userId codeHashes = some after)
    (credential : Credential) : after.isLive credential =
      (AuthWrite.replaceRecoveryCodes userId codeHashes).liveAfter credential
        (store.isLive credential) := by
  obtain ⟨recoveryCodes, isReplaced, replaced⟩ := Option.bind_eq_some_iff.mp replaced
  cases replaced
  cases credential with
  | otp userId code => rfl
  | mfaChallenge id => rfl
  | recoveryCode wanted codeHash =>
    rw [isLive, Table.find?_of_insertAll? isReplaced, Table.find?_deleteWhere,
      find?_unusedCodes, AuthWrite.liveAfter, isLive]
    rcases found : store.recoveryCodes.find? (wanted, codeHash) with _ | row
    · by_cases isUser : wanted = userId
      · by_cases isCode : codeHash ∈ codeHashes <;> simp [isUser, isCode]
      · simp [isUser]
    · have sameKey := (Table.find?_eq_some_iff.mp found).2
      have isOwner : row.userId = wanted := congrArg Prod.fst sameKey
      by_cases isUser : wanted = userId
      · by_cases isCode : codeHash ∈ codeHashes <;>
          simp [Option.filter_some, isOwner, isUser, isCode]
      · simp [Option.filter_some, isOwner, isUser]

theorem isLive_consumeRecoveryCode (store : Store) (userId codeHash : String) (now : Int)
    (credential : Credential) :
    (store.consumeRecoveryCode userId codeHash now).1.isLive credential =
      if credential = .recoveryCode userId codeHash then false else store.isLive credential := by
  cases credential with
  | otp userId code => rfl
  | mfaChallenge id => rfl
  | recoveryCode wanted other =>
    simp only [consumeRecoveryCode, isLive]
    rw [Table.find?_updateWhere]
    rcases found : store.recoveryCodes.find? (wanted, other) with _ | row
    · simp
    · have sameKey := (Table.find?_eq_some_iff.mp found).2
      have isOwner : row.userId = wanted := congrArg Prod.fst sameKey
      have isCode : row.codeHash = other := congrArg Prod.snd sameKey
      by_cases sameUser : wanted = userId
      · by_cases sameCode : other = codeHash
        · rcases unused : row.usedAt with _ | usedAt <;>
            simp [MfaRecoveryCode.used, isOwner, isCode, sameUser, sameCode, unused]
        · simp [isOwner, isCode, sameUser, sameCode]
      · simp [isOwner, isCode, sameUser]

/-- The result of the update says whether the code was live. -/
theorem snd_consumeRecoveryCode (store : Store) (userId codeHash : String) (now : Int) :
    (store.consumeRecoveryCode userId codeHash now).2 =
      store.isLive (.recoveryCode userId codeHash) := by
  rw [Bool.eq_iff_iff, consumeRecoveryCode, isLive, List.any_eq_true, Option.any_eq_true]
  constructor
  · rintro ⟨row, member, unused⟩
    simp only [Bool.and_eq_true, decide_eq_true_eq] at unused
    obtain ⟨⟨isOwner, isCode⟩, isUnused⟩ := unused
    refine ⟨row, Table.find?_eq_some_iff.mpr ⟨member, ?_⟩, isUnused⟩
    rw [MfaRecoveryCode.key, isOwner, isCode]
  · rintro ⟨row, found, isUnused⟩
    obtain ⟨member, sameKey⟩ := Table.find?_eq_some_iff.mp found
    obtain ⟨isOwner, isCode⟩ := Prod.mk.inj sameKey
    refine ⟨row, member, ?_⟩
    simp only [Bool.and_eq_true, decide_eq_true_eq]
    exact ⟨⟨isOwner, isCode⟩, isUnused⟩

end Changes

end Store

section

variable {runtime : CredentialRuntime} {write : AuthWrite} {store after : Store}
    {result : write.Result} (happens : write.effect runtime store = some (after, result))
include happens

theorem AuthWrite.isLive_of_effect (credential : Credential) : after.isLive credential =
      if write.isDone result then write.liveAfter credential (store.isLive credential)
      else store.isLive credential := by
  cases write with
  | createUser user =>
    rw [effect] at happens
    split at happens
    · obtain ⟨users, inserted, rest⟩ := Option.map_eq_some_iff.mp happens
      cases rest
      cases credential with
      | otp userId code =>
        refine Eq.trans ?_ (if_pos rfl).symm
        rw [Store.isLive, Store.user?, Table.find?_of_insert? inserted, liveAfter, Store.isLive,
          Store.user?]
        split <;> rfl
      | mfaChallenge id => rfl
      | recoveryCode userId codeHash => rfl
    · contradiction
  | updateUser userId data checkedCode =>
    exact (Store.isLive_updateUser? happens checkedCode credential).trans (if_pos rfl).symm
  | createRefreshToken row =>
    obtain ⟨refreshTokens, inserted, rest⟩ := Option.map_eq_some_iff.mp happens
    cases rest
    cases credential <;> rfl
  | revokeRefreshTokens | revokeRefreshToken | cleanupExpiredTokens =>
    cases happens
    cases credential <;> rfl
  | createMfaChallenge row =>
    obtain ⟨mfaChallenges, inserted, rest⟩ := Option.map_eq_some_iff.mp happens
    cases rest
    cases credential with
    | otp userId code => rfl
    | mfaChallenge id =>
      refine Eq.trans ?_ (if_pos rfl).symm
      rw [Store.isLive, Table.find?_of_insert? inserted, liveAfter, Store.isLive]
      split <;> rfl
    | recoveryCode userId codeHash => rfl
  | usePasskey use =>
    obtain ⟨used, isUsed, rest⟩ := Option.map_eq_some_iff.mp happens
    cases rest
    exact (Store.isLive_usePasskey? isUsed credential).trans (if_pos rfl).symm
  | registerPasskey challengeId row now =>
    rw [Store.isLive_registerPasskey? happens credential]
    cases result with
    | ok value => simp [isDone, liveAfter, Except.isOk, Except.toBool]
    | error exception => simp [isDone, Except.isOk, Except.toBool]
  | deletePasskey credentialId =>
    obtain ⟨_, _, rest⟩ := Option.map_eq_some_iff.mp happens
    cases rest
    cases credential <;> rfl
  | consumeRecoveryCode userId codeHash now =>
    cases happens
    exact (Store.isLive_consumeRecoveryCode store userId codeHash now credential).trans
      (if_pos rfl).symm
  | replaceRecoveryCodes userId codeHashes =>
    obtain ⟨replaced, isReplaced, rest⟩ := Option.map_eq_some_iff.mp happens
    cases rest
    exact (Store.isLive_replaceRecoveryCodes? isReplaced credential).trans (if_pos rfl).symm
  | activateInvitation call activation =>
    rw [effect] at happens
    split at happens
    · rename_i activated organizationId done
      cases happens
      rw [(Store.sameCredentials_activateInvitationOnLogin done).isLive]
      cases credential <;> rfl
    · cases happens
      rfl

theorem AuthWrite.isLive_of_isDone (isDone : write.isDone result = true) (credential : Credential) :
    after.isLive credential = write.liveAfter credential (store.isLive credential) :=
  (isLive_of_effect happens credential).trans (if_pos isDone)

end

end Csms.Auth
