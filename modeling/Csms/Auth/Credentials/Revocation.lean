import Csms.Auth.Credentials.Codes
import Csms.Database.Attains

/-!
# Refresh tokens after a password is replaced

A change of the password revokes the refresh tokens of the user in a statement of its own.  A
reset does not: it leaves those that are live.  A token that was refused once is refused from
then on, unless it is issued again.
-/

namespace Csms.Auth

open Js Database

/-! ## Tokens that are refused -/

/-- The row is what has become of the earlier one. -/
structure RefreshToken.FadesTo (row later : RefreshToken) : Prop where
  userId : later.userId = row.userId
  expiresAt : later.expiresAt = row.expiresAt
  revokedAt : row.revokedAt.isSome = true → later.revokedAt.isSome = true

namespace RefreshToken.FadesTo

variable {row middle later : RefreshToken}

theorem refl (row : RefreshToken) : row.FadesTo row where
  userId := rfl
  expiresAt := rfl
  revokedAt isRevoked := isRevoked

theorem trans (first : row.FadesTo middle) (second : middle.FadesTo later) : row.FadesTo later where
  userId := second.userId.trans first.userId
  expiresAt := second.expiresAt.trans first.expiresAt
  revokedAt isRevoked := second.revokedAt (first.revokedAt isRevoked)

end RefreshToken.FadesTo

namespace Store

/-- The token is gone, or its row is what has become of the earlier one. -/
def Fades (before after : Store) (token : Token) : Prop :=
  ∀ later, after.refreshTokens.find? token = some later →
    ∃ row, before.refreshTokens.find? token = some row ∧ row.FadesTo later

/-- Neither refresh takes the token from the time on. -/
def RefusedFrom (store : Store) (now : Int) (token : Token) : Prop :=
  ∀ row, store.refreshTokens.find? token = some row →
    row.revokedAt.isSome = true ∨ row.expiresAt ≤ now

/-- The user has no live token. -/
def hasOnlyRefused (store : Store) (userId : String) (now : Int) : Bool :=
  store.refreshTokens.rows.all fun row =>
    row.userId ≠ userId || row.revokedAt.isSome || row.expiresAt ≤ now

variable {before middle after store : Store} {token : Token} {now : Int}

theorem Fades.of_refreshTokens_eq (same : after.refreshTokens = before.refreshTokens) :
    before.Fades after token := by
  intro later found
  rw [same] at found
  exact ⟨later, found, .refl later⟩

theorem Fades.trans (first : before.Fades middle token) (second : middle.Fades after token) :
    before.Fades after token := by
  intro later found
  obtain ⟨row, foundRow, fades⟩ := second later found
  obtain ⟨old, foundOld, fadesOld⟩ := first row foundRow
  exact ⟨old, foundOld, fadesOld.trans fades⟩

theorem RefusedFrom.fades (refused : before.RefusedFrom now token)
    (fades : before.Fades after token) : after.RefusedFrom now token := by
  intro later found
  obtain ⟨row, foundRow, fadesTo⟩ := fades later found
  rcases refused row foundRow with isRevoked | isExpired
  · exact Or.inl (fadesTo.revokedAt isRevoked)
  · exact Or.inr (fadesTo.expiresAt ▸ isExpired)

theorem fades_revokeTokensWhere (store : Store) (isRevoked : RefreshToken → Bool) (now : Int) :
    store.Fades (store.revokeTokensWhere isRevoked now) token := by
  intro later found
  rw [revokeTokensWhere, Table.find?_updateWhere, Option.map_eq_some_iff] at found
  obtain ⟨row, foundRow, isLater⟩ := found
  refine ⟨row, foundRow, ?_⟩
  split at isLater
  · cases isLater
    exact ⟨rfl, rfl, fun _ => rfl⟩
  · cases isLater
    exact .refl later

theorem fades_cleanupExpiredTokens (store : Store) (now : Int) :
    store.Fades (store.cleanupExpiredTokens now) token := by
  intro later found
  rw [cleanupExpiredTokens, Table.find?_deleteWhere, Option.filter_eq_some_iff] at found
  exact ⟨later, found.1, .refl later⟩

theorem refusedFrom_revokeTokensWhere {userId : String} (store : Store) (at' : Int)
    (isOwner : ∀ row, store.refreshTokens.find? token = some row → row.userId = userId) :
    (store.revokeTokensWhere (fun row => row.userId = userId) at').RefusedFrom now token := by
  intro later found
  rw [revokeTokensWhere, Table.find?_updateWhere, Option.map_eq_some_iff] at found
  obtain ⟨row, foundRow, isLater⟩ := found
  have isUser := isOwner row foundRow
  split at isLater
  · cases isLater
    exact Or.inl rfl
  · rename_i isKept
    cases isLater
    refine Or.inl (Option.isSome_iff_ne_none.mpr ?_)
    simpa [isUser] using isKept

theorem refusedFrom_of_hasOnlyRefused {userId : String} {row : RefreshToken}
    (onlyRefused : store.hasOnlyRefused userId now = true)
    (found : store.refreshTokens.find? token = some row) (isOwner : row.userId = userId) :
    store.RefusedFrom now token := by
  intro other foundOther
  rw [found] at foundOther
  cases foundOther
  have refused := List.all_eq_true.mp onlyRefused row (Table.find?_eq_some_iff.mp found).1
  simpa [isOwner] using refused

/-! ## Each write -/

theorem refreshTokens_of_requireMfaFor? {userId : Option String}
    (required : store.requireMfaFor? userId = some after) :
    after.refreshTokens = store.refreshTokens := by
  unfold requireMfaFor? at required
  split at required
  · cases required
    rfl
  · obtain ⟨⟨_, _⟩, updated, isAfter⟩ := Option.map_eq_some_iff.mp required
    cases isAfter
    rw [(of_updateUser? updated).2]
    rfl

theorem refreshTokens_of_consumeMfaChallenge? {challengeId : String}
    (consumed : store.consumeMfaChallenge? challengeId now = some after) :
    after.refreshTokens = store.refreshTokens := by
  obtain ⟨_, _, consumed⟩ := Option.bind_eq_some_iff.mp consumed
  cases consumed
  rfl

theorem refreshTokens_of_usePasskey? {use : PasskeyUse}
    (used : store.usePasskey? use = some after) : after.refreshTokens = store.refreshTokens := by
  obtain ⟨_, _, used⟩ := Option.bind_eq_some_iff.mp used
  obtain ⟨_, isRequired, consumed⟩ := Option.bind_eq_some_iff.mp used
  rw [refreshTokens_of_consumeMfaChallenge? consumed, refreshTokens_of_requireMfaFor? isRequired]

theorem refreshTokens_of_registerPasskey? {challengeId : String} {row : PasskeyCredential}
    {result : Except AuthException Unit}
    (registered : store.registerPasskey? challengeId row now = some (after, result)) :
    after.refreshTokens = store.refreshTokens := by
  rw [registerPasskey?] at registered
  split at registered
  · cases registered
    rfl
  · obtain ⟨_, isConsumed, registered⟩ := Option.bind_eq_some_iff.mp registered
    obtain ⟨⟨_, _⟩, updated, registered⟩ := Option.bind_eq_some_iff.mp registered
    cases registered
    have same := refreshTokens_of_consumeMfaChallenge? isConsumed
    rw [(of_updateUser? updated).2]
    exact same

end Store

def AuthWrite.issuedToken : AuthWrite → Option Token
  | createRefreshToken row => some row.token
  | _ => none

theorem AuthWrite.fades_of_effect {runtime : CredentialRuntime} {write : AuthWrite}
    {store after : Store} {result : write.Result} {token : Token}
    (happens : write.effect runtime store = some (after, result))
    (isOld : write.issuedToken ≠ some token) : store.Fades after token := by
  cases write with
  | createUser user =>
    rw [effect] at happens
    split at happens
    · obtain ⟨_, _, rest⟩ := Option.map_eq_some_iff.mp happens
      cases rest
      exact .of_refreshTokens_eq rfl
    · contradiction
  | updateUser userId data checkedCode =>
    rw [(Store.of_updateUser? happens).2]
    exact .of_refreshTokens_eq rfl
  | createRefreshToken row =>
    obtain ⟨refreshTokens, inserted, rest⟩ := Option.map_eq_some_iff.mp happens
    cases rest
    intro later found
    have isOther : token ≠ row.token := fun same => isOld (congrArg some same.symm)
    rw [Table.find?_of_insert? inserted, if_neg isOther] at found
    exact ⟨later, found, .refl later⟩
  | revokeRefreshTokens _ now | revokeRefreshToken _ now =>
    cases happens
    exact Store.fades_revokeTokensWhere store _ now
  | cleanupExpiredTokens now =>
    cases happens
    exact Store.fades_cleanupExpiredTokens store now
  | createMfaChallenge | deletePasskey =>
    obtain ⟨_, _, rest⟩ := Option.map_eq_some_iff.mp happens
    cases rest
    exact .of_refreshTokens_eq rfl
  | usePasskey use =>
    obtain ⟨_, isUsed, rest⟩ := Option.map_eq_some_iff.mp happens
    cases rest
    exact .of_refreshTokens_eq (Store.refreshTokens_of_usePasskey? isUsed)
  | registerPasskey challengeId row now =>
    exact .of_refreshTokens_eq (Store.refreshTokens_of_registerPasskey? happens)
  | consumeRecoveryCode userId codeHash now =>
    cases happens
    exact .of_refreshTokens_eq rfl
  | replaceRecoveryCodes userId codeHashes =>
    obtain ⟨_, isReplaced, rest⟩ := Option.map_eq_some_iff.mp happens
    cases rest
    obtain ⟨_, _, replaced⟩ := Option.bind_eq_some_iff.mp isReplaced
    cases replaced
    exact .of_refreshTokens_eq rfl
  | activateInvitation call activation =>
    rw [effect] at happens
    split at happens
    · rename_i activated organizationId done
      cases happens
      exact .of_refreshTokens_eq
        (Store.sameCredentials_activateInvitationOnLogin done).refreshTokens
    · cases happens
      exact .of_refreshTokens_eq rfl

/-! ## Requests that replace a password -/

/-- The user's own requests that replace a password. -/
def AuthOperation.replacesPassword : AuthOperation → Bool
  | changePassword .. | resetPassword .. | confirmPasswordReset .. => true
  | _ => false

def AuthOperation.leavesTokens : AuthOperation → Bool
  | resetPassword .. | confirmPasswordReset .. => true
  | _ => false

def AuthWrite.replacesHashOf : AuthWrite → Option String
  | updateUser userId data _ => data.passwordHash.map fun _ => userId
  | _ => none

/-- The tokens of the history are not issued again: each has an identifier of its own. -/
def isFresh (token : Token) (shared : Shared Store AuthWrite) : Bool :=
  shared.commits.all fun commit => (commit.before.refreshTokens.find? token).isNone

/-- A reset finds no live token of the user. -/
def resetsWithoutTokens : Conditions Store AuthQuery AuthWrite AuthRequest where
  onArrive _ _ := true
  onQuery _ _ _ := true
  onCommit request write shared :=
    (write.issuedToken.all fun token => isFresh token shared) &&
      (!request.operation.leavesTokens || write.replacesHashOf.all fun userId =>
        shared.store.hasOnlyRefused userId request.call.now)

theorem onCommit_resetsWithoutTokens (request : AuthRequest) (write : AuthWrite)
    (shared : Shared Store AuthWrite) : resetsWithoutTokens.onCommit request write shared =
      ((write.issuedToken.all fun token => isFresh token shared) &&
        (!request.operation.leavesTokens || write.replacesHashOf.all fun userId =>
          shared.store.hasOnlyRefused userId request.call.now)) :=
  rfl

/-- Whatever a refresh reads of other tables, it is not answered for the token. -/
def Store.RefusesRefresh (runtime : CredentialRuntime) (store : Store) (token : Token)
    (now : Int) : Prop :=
  ∀ call : AuthCall, now ≤ call.now → ∀ operation ∈ [AuthOperation.refresh token,
    .attendantRefresh token], ∀ answered,
      ¬ (operation.program runtime call).Answers
        (fun seen => seen.refreshTokens = store.refreshTokens) answered

/-! ## In every run -/

/-- Some store of the history had a row of the token. -/
def HasSeen (shared : Shared Store AuthWrite) (token : Token) : Prop :=
  ∃ commit ∈ shared.commits, (commit.before.refreshTokens.find? token).isSome = true

def TokensFade (before after : Shared Store AuthWrite) : Prop :=
  before.commits ⊆ after.commits ∧
    ∀ token, HasSeen before token → before.store.Fades after.store token

theorem HasSeen.subset {before after : Shared Store AuthWrite} {token : Token}
    (seen : HasSeen before token) (grows : before.commits ⊆ after.commits) : HasSeen after token :=
  have ⟨commit, member, isThere⟩ := seen
  ⟨commit, grows member, isThere⟩

theorem guarantee_tokensFade (runtime : CredentialRuntime) :
    Guarantee (fun write => (AuthWrite.body runtime write).run) resetsWithoutTokens
      TokensFade where
  refl shared := ⟨fun _ member => member, fun _ _ => .of_refreshTokens_eq rfl⟩
  trans _ _ _ first second :=
    ⟨fun _ member => second.1 (first.1 member),
      fun token seen => (first.2 token seen).trans (second.2 token (seen.subset first.1))⟩
  commit request id shared write after result allowed happens := by
    refine ⟨shared.subset_commits_commit id write after, fun token seen => ?_⟩
    have happens' : write.effect runtime shared.store = some (after, result) :=
      (AuthWrite.run_body runtime write shared.store).symm.trans happens
    refine AuthWrite.fades_of_effect happens' fun isIssued => ?_
    rw [onCommit_resetsWithoutTokens, Bool.and_eq_true, isIssued] at allowed
    have fresh := allowed.1
    obtain ⟨commit, member, isThere⟩ := seen
    have isGone := List.all_eq_true.mp fresh commit member
    rw [Option.isNone_iff_eq_none] at isGone
    rw [isGone] at isThere
    contradiction

section Programs

variable {runtime : CredentialRuntime} {request : AuthRequest} {id : Nat} {α γ : Type}
  {call : AuthCall}

/-- The session has replaced the user's password, and the tokens that the user had then are
refused. -/
def LogsOut (id : Nat) (now : Int) (userId : String) (shared : Shared Store AuthWrite) : Prop :=
  ∃ commit ∈ shared.commits, commit.session = id ∧ commit.label.replacesHashOf = some userId ∧
    ∀ row ∈ commit.before.refreshTokens.rows, row.userId = userId →
      shared.store.RefusedFrom now row.token

/-- The session has replaced the user's password, and the tokens that the user had then are
still the user's. -/
def KeepsOwner (id : Nat) (userId : String) (shared : Shared Store AuthWrite) : Prop :=
  ∃ commit ∈ shared.commits, commit.session = id ∧ commit.label.replacesHashOf = some userId ∧
    ∀ row ∈ commit.before.refreshTokens.rows, row.userId = userId →
      ∀ later, shared.store.refreshTokens.find? row.token = some later → later.userId = userId

theorem hasSeen_of_mem {shared : Shared Store AuthWrite} {commit : Commit Store AuthWrite}
    (member : commit ∈ shared.commits) {row : RefreshToken}
    (isRow : row ∈ commit.before.refreshTokens.rows) : HasSeen shared row.token := by
  refine ⟨commit, member, ?_⟩
  rw [Table.find?_eq_some_iff.mpr ⟨isRow, rfl⟩]
  rfl

theorem LogsOut.fades {now : Int} {userId : String} {before after : Shared Store AuthWrite}
    (fade : TokensFade before after) (logsOut : LogsOut id now userId before) :
    LogsOut id now userId after := by
  obtain ⟨commit, member, isOwn, replaces, refused⟩ := logsOut
  refine ⟨commit, fade.1 member, isOwn, replaces, fun row isRow isOwner => ?_⟩
  exact (refused row isRow isOwner).fades (fade.2 row.token (hasSeen_of_mem member isRow))

theorem KeepsOwner.fades {userId : String} {before after : Shared Store AuthWrite}
    (fade : TokensFade before after) (keeps : KeepsOwner id userId before) :
    KeepsOwner id userId after := by
  obtain ⟨commit, member, isOwn, replaces, owns⟩ := keeps
  refine ⟨commit, fade.1 member, isOwn, replaces, fun row isRow isOwner later found => ?_⟩
  obtain ⟨old, foundOld, fadesTo⟩ := fade.2 row.token (hasSeen_of_mem member isRow) later found
  rw [fadesTo.userId]
  exact owns row isRow isOwner old foundOld

/-- Whatever the program answers, the session has logged a user out by then. -/
def EndsLoggedOut (runtime : CredentialRuntime) (request : AuthRequest) (id : Nat)
    (program : AuthProgram α) : Prop :=
  program.Attains (fun write => (AuthWrite.body runtime write).run) resetsWithoutTokens TokensFade
    request id fun _ later => ∃ userId, LogsOut id request.call.now userId later

theorem endsLoggedOut_bind {first : AuthProgram α} {next : α → AuthProgram γ}
    (onward : ∀ value, EndsLoggedOut runtime request id (next value)) :
    EndsLoggedOut runtime request id (first >>= next) :=
  (guarantee_tokensFade runtime).attains_bind fun value _ => onward value

theorem replacesHashOf_updateUser {userId : String} {data : UserUpdate} {code : Option String}
    (replaces : data.passwordHash.isSome = true) :
    (AuthWrite.updateUser userId data code).replacesHashOf = some userId := by
  obtain ⟨passwordHash, isSet⟩ := Option.isSome_iff_exists.mp replaces
  rw [AuthWrite.replacesHashOf, isSet]
  rfl

theorem hasOnlyRefused_of_onCommit {userId : String} {data : UserUpdate} {code : Option String}
    {shared : Shared Store AuthWrite}
    (allowed : resetsWithoutTokens.onCommit request (.updateUser userId data code) shared = true)
    (leavesTokens : request.operation.leavesTokens = true)
    (replaces : data.passwordHash.isSome = true) :
    shared.store.hasOnlyRefused userId request.call.now = true := by
  rw [onCommit_resetsWithoutTokens, Bool.and_eq_true, leavesTokens,
    replacesHashOf_updateUser replaces] at allowed
  exact allowed.2

section Commits

variable {shared : Shared Store AuthWrite} {userId : String} {data : UserUpdate}
  {code : Option String} {after : Store} {user : User}

theorem keepsOwner_updateUser (id : Nat) (replaces : data.passwordHash.isSome = true)
    (happens : (AuthWrite.updateUser userId data code).effect runtime shared.store =
      some (after, user)) :
    KeepsOwner id userId (shared.commit id (.updateUser userId data code) after) := by
  refine ⟨_, shared.mem_commits_commit id _ after, rfl, replacesHashOf_updateUser replaces, ?_⟩
  intro row isRow isOwner later found
  obtain ⟨old, foundOld, fadesTo⟩ := AuthWrite.fades_of_effect happens nofun later found
  rw [Table.find?_eq_some_iff.mpr ⟨isRow, rfl⟩] at foundOld
  cases foundOld
  exact fadesTo.userId.trans isOwner

theorem logsOut_updateUser {now : Int} (replaces : data.passwordHash.isSome = true)
    (happens : (AuthWrite.updateUser userId data code).effect runtime shared.store =
      some (after, user)) (onlyRefused : shared.store.hasOnlyRefused userId now = true) :
    LogsOut id now userId (shared.commit id (.updateUser userId data code) after) := by
  refine ⟨_, shared.mem_commits_commit id _ after, rfl, replacesHashOf_updateUser replaces, ?_⟩
  intro row isRow isOwner
  have refused := Store.refusedFrom_of_hasOnlyRefused onlyRefused
    (Table.find?_eq_some_iff.mpr ⟨isRow, rfl⟩) isOwner
  exact refused.fades (AuthWrite.fades_of_effect happens nofun)

theorem logsOut_revokeRefreshTokens (keeps : KeepsOwner id userId shared) (now revokedAt : Int) :
    LogsOut id now userId (shared.commit id (.revokeRefreshTokens userId revokedAt)
      (shared.store.revokeTokensWhere (fun row => row.userId = userId) revokedAt)) := by
  obtain ⟨commit, member, isOwn, replaces, owns⟩ := keeps
  refine ⟨commit, List.mem_append_left _ member, isOwn, replaces, fun row isRow isOwner => ?_⟩
  exact Store.refusedFrom_revokeTokensWhere shared.store revokedAt (owns row isRow isOwner)

end Commits

theorem EndsLoggedOut.bind {first : AuthProgram α} {next : α → AuthProgram γ}
    (ends : EndsLoggedOut runtime request id first) :
    EndsLoggedOut runtime request id (first >>= next) := by
  refine (guarantee_tokensFade runtime).attains_of_first ends ?_ ?_
  · exact fun _ _ _ fade ⟨userId, logsOut⟩ => ⟨userId, logsOut.fades fade⟩
  · exact fun _ _ _ _ _ loggedOut => loggedOut

/-- A reset that finds no live token. -/
theorem endsLoggedOut_updateUser {userId : String} {data : UserUpdate} {code : Option String}
    {next : User → AuthProgram γ} (leavesTokens : request.operation.leavesTokens = true)
    (replaces : data.passwordHash.isSome = true) : EndsLoggedOut runtime request id
      ((AuthWrite.updateUser userId data code).commit >>= next) := by
  refine EndsLoggedOut.bind ((guarantee_tokensFade runtime).attains_commit ?_ ?_)
  · exact fun _ _ _ fade ⟨userId, logsOut⟩ => ⟨userId, logsOut.fades fade⟩
  · intro shared after user allowed happens
    exact ⟨userId, logsOut_updateUser replaces
      ((AuthWrite.run_body runtime _ shared.store).symm.trans happens)
      (hasOnlyRefused_of_onCommit allowed leavesTokens replaces)⟩

theorem endsLoggedOut_resetPassword {identifier code newPassword : String} :
    EndsLoggedOut runtime ⟨call, .resetPassword identifier code newPassword⟩ id
      (resetPassword runtime call identifier code newPassword) :=
  endsLoggedOut_bind fun _ => endsLoggedOut_bind fun _ => endsLoggedOut_bind fun _ =>
    endsLoggedOut_updateUser rfl rfl

theorem endsLoggedOut_confirmPasswordReset {emailOrPhone newPassword : String}
    {verificationToken : Token} :
    EndsLoggedOut runtime ⟨call, .confirmPasswordReset emailOrPhone verificationToken newPassword⟩
      id (confirmPasswordReset runtime call emailOrPhone verificationToken newPassword) :=
  endsLoggedOut_bind fun _ => endsLoggedOut_bind fun _ => endsLoggedOut_bind fun _ =>
    endsLoggedOut_bind fun _ => endsLoggedOut_bind fun _ => endsLoggedOut_bind fun _ =>
      endsLoggedOut_updateUser rfl rfl

/-- The update and the revocation, which is a statement of its own. -/
theorem endsLoggedOut_changePassword {userId currentPassword newPassword : String}
    {confirmation : MfaConfirmationInput} : EndsLoggedOut runtime request id
      (changePassword runtime call userId currentPassword newPassword confirmation) := by
  refine endsLoggedOut_bind fun _ => endsLoggedOut_bind fun _ => endsLoggedOut_bind fun _ => ?_
  refine endsLoggedOut_bind fun _ => endsLoggedOut_bind fun accepted => ?_
  intro shared
  refine (guarantee_tokensFade runtime).meets_commit_bind ?_
  intro later after updated _ _ happens
  have keeps := keepsOwner_updateUser id rfl
    ((AuthWrite.run_body runtime _ later.store).symm.trans happens)
  rw [forceLogoutUser, bind_assoc]
  refine (guarantee_tokensFade runtime).meets_commit_bind ?_
  intro further revoked _ fade _ isRevoked
  cases (AuthWrite.run_body runtime _ further.store).symm.trans isRevoked
  have logsOut := logsOut_revokeRefreshTokens (keeps.fades fade) request.call.now call.now
  refine (meets_pure _).mpr fun last fade' _ value _ => ?_
  exact ⟨userId, logsOut.fades fade'⟩

theorem endsLoggedOut_program (replaces : request.operation.replacesPassword = true) :
    EndsLoggedOut runtime request id (request.program runtime) := by
  obtain ⟨call, operation⟩ := request
  cases operation with
  | changePassword userId currentPassword newPassword confirmation =>
    exact endsLoggedOut_changePassword
  | resetPassword identifier code newPassword => exact endsLoggedOut_resetPassword
  | confirmPasswordReset emailOrPhone verificationToken newPassword =>
    exact endsLoggedOut_confirmPasswordReset.bind
  | _ => contradiction

end Programs

/-! ## Refreshes -/

theorem storedToken?_of_acceptRefreshToken {runtime : CredentialRuntime} {call : AuthCall}
    {token : Token} {isPayload : JwtClaims → Bool} {seen : Store → Prop} {payload : JwtClaims}
    (answers : (acceptRefreshToken runtime call token isPayload).Answers seen payload) :
    ∃ store, seen store ∧ (store.storedToken? token payload.sub call.now).isSome = true := by
  obtain ⟨secret, _, answers⟩ := answers.of_bind
  obtain ⟨claims, _, answers⟩ := answers.of_bind
  obtain ⟨stored, isRead, answers⟩ := answers.of_bind
  obtain ⟨store, isSeen, rfl⟩ := isRead.of_read
  obtain ⟨row, isRequired, answers⟩ := answers.of_bind
  rw [answers_pure_iff.mp answers]
  refine ⟨store, isSeen, ?_⟩
  rw [answers_required isRequired]
  rfl

theorem acceptRefreshToken_of_answers {runtime : CredentialRuntime} {call : AuthCall}
    {token : Token} {operation : AuthOperation}
    (isRefresh : operation ∈ [AuthOperation.refresh token, .attendantRefresh token])
    {seen : Store → Prop} {answered : Answered runtime}
    (answers : (operation.program runtime call).Answers seen answered) :
    ∃ isPayload payload, (acceptRefreshToken runtime call token isPayload).Answers seen payload := by
  rcases List.mem_cons.mp isRefresh with rfl | isAttendant
  · obtain ⟨_, answers, _⟩ := answers.of_bind
    obtain ⟨payload, accepted, _⟩ := answers.of_bind
    exact ⟨_, payload, accepted⟩
  · obtain rfl := List.mem_singleton.mp isAttendant
    obtain ⟨_, answers, _⟩ := answers.of_bind
    obtain ⟨payload, accepted, _⟩ := answers.of_bind
    exact ⟨_, payload, accepted⟩

theorem Store.RefusedFrom.refusesRefresh {store : Store} {now : Int} {token : Token}
    (refused : store.RefusedFrom now token) (runtime : CredentialRuntime) :
    store.RefusesRefresh runtime token now := by
  intro call isLater operation isRefresh answered answers
  obtain ⟨_, payload, accepted⟩ := acceptRefreshToken_of_answers isRefresh answers
  obtain ⟨seen, same, isStored⟩ := storedToken?_of_acceptRefreshToken accepted
  obtain ⟨row, found⟩ := Option.isSome_iff_exists.mp isStored
  rw [Store.storedToken?, same] at found
  have isLive := List.find?_some found
  simp only [Bool.and_eq_true, decide_eq_true_eq, Option.isNone_iff_eq_none] at isLive
  obtain ⟨⟨⟨isToken, _⟩, isUnexpired⟩, isUnrevoked⟩ := isLive
  rcases refused row (Table.find?_eq_some_iff.mpr ⟨List.mem_of_find?_eq_some found, isToken⟩) with
    isRevoked | isExpired
  · rw [isUnrevoked] at isRevoked
    contradiction
  · omega

/-- However the requests interleave, once one that replaces a password is answered, it has
replaced it in a commit, and neither refresh takes a token that the user had then: if a reset
finds no live token, and no token is issued twice. -/
theorem refusesRefresh_of_answered {runtime : CredentialRuntime} {store : Store}
    {state : AuthState runtime} (reachable : state.Reachable resetsWithoutTokens store) {id : Nat}
    {request : AuthRequest} {answered : Answered runtime}
    (isAnswered : state.Answered id request answered)
    (replaces : request.operation.replacesPassword = true) :
    ∃ commit ∈ state.shared.commits, commit.session = id ∧
      ∃ userId, commit.label.replacesHashOf = some userId ∧
        ∀ row ∈ commit.before.refreshTokens.rows, row.userId = userId →
          state.shared.store.RefusesRefresh runtime row.token request.call.now := by
  obtain ⟨arrived, found⟩ := isAnswered
  have each (request : AuthRequest) (id : Nat) :
      (request.program runtime).Attains (fun write => (AuthWrite.body runtime write).run)
        resetsWithoutTokens TokensFade request id fun _ later =>
          request.operation.replacesPassword = true →
            ∃ userId, LogsOut id request.call.now userId later := by
    by_cases isReplacing : request.operation.replacesPassword = true
    · exact fun shared => (endsLoggedOut_program isReplacing shared).imp
        fun _ _ ends value isAnswer _ => ends value isAnswer
    · exact (guarantee_tokensFade runtime).attains_of_answers
        fun _ _ _ isReplacing' => absurd isReplacing' isReplacing
  obtain ⟨userId, commit, member, isOwn, isReplaced, refused⟩ :=
    ReadCommitted.Reachable.attains (AuthWrite.guarded runtime) (guarantee_tokensFade runtime) each
      reachable found replaces
  refine ⟨commit, member, isOwn, userId, isReplaced, fun row isRow isOwner => ?_⟩
  exact (refused row isRow isOwner).refusesRefresh runtime

namespace Sample

def stolenToken : Token :=
  .signed (attendantRefreshClaims "ada" "first") "secret" 1000000

def signedInStore : Store :=
  { team with
    users := { rows := [{ enrolled with mfaRequired := false }], nodup := by decide }
    refreshTokens := { rows := [⟨stolenToken, "ada", 1000000, none⟩], nodup := by decide } }

def changeRequest : AuthRequest :=
  ⟨authCall, .changePassword "ada" "$2b$ada" "Correct-Horse-9" ⟨none, none, none⟩⟩

def resetRequest : AuthRequest :=
  ⟨authCall, .resetPassword "ada@acme.test" "654321" "Correct-Horse-9"⟩

def changed : List (DatabaseEvent AuthRequest) :=
  [.arrive changeRequest, .query 0, .query 0, .begin 0, .statement 0, .statement 0, .commit 0,
    .begin 0, .statement 0, .statement 0, .commit 0]

def refreshedAfterReset : List (DatabaseEvent AuthRequest) :=
  [.arrive resetRequest, .query 0, .begin 0, .statement 0, .statement 0, .commit 0,
    .arrive ⟨authCall, .refresh stolenToken⟩, .query 1, .query 1, .query 1]

/-- The session has got an answer, to a request of the kind that arrived after so many commits. -/
def answeredWhere (isRequest : AuthRequest → Nat → Bool) (state : AuthState credentialRuntime)
    (id : Nat) : Bool :=
  match state.sessions[id]? with
  | some ⟨request, arrived, .outside (.answer _)⟩ => isRequest request arrived
  | _ => false

theorem exists_of_answeredWhere {isRequest : AuthRequest → Nat → Bool}
    {state : AuthState credentialRuntime} {id : Nat}
    (isAnswered : answeredWhere isRequest state id = true) : ∃ request arrived answered,
      state.sessions[id]? = some ⟨request, arrived, .outside (.answer answered)⟩ ∧
        isRequest request arrived = true := by
  unfold answeredWhere at isAnswered
  split at isAnswered
  · rename_i request arrived answered found
    exact ⟨request, arrived, answered, found, isAnswered⟩
  · contradiction

def refreshesStolen (request : AuthRequest) : Bool :=
  match request.operation with
  | .refresh token => token = stolenToken
  | _ => false

def replacesWithToken (commit : Commit Store AuthWrite) : Bool :=
  commit.session = 0 && commit.label.replacesHashOf = some "ada" &&
    (commit.before.refreshTokens.find? stolenToken).any fun row => row.userId = "ada"

end Sample

open Sample

/-- A password that is changed. -/
theorem refusesRefresh_of_answered_changed :
    ∃ (state : AuthState credentialRuntime) (request : AuthRequest),
      ∃ commit ∈ state.shared.commits, commit.session = 0 ∧
        ∃ userId, commit.label.replacesHashOf = some userId ∧
          ∀ row ∈ commit.before.refreshTokens.rows, row.userId = userId →
            state.shared.store.RefusesRefresh credentialRuntime row.token
              request.call.now := by
  have run : (after signedInStore resetsWithoutTokens changed).map
      (answeredWhere (fun request _ => request.operation.replacesPassword) · 0) =
      some true := by decide +kernel
  obtain ⟨state, reached, isAnswered⟩ := Option.map_eq_some_iff.mp run
  obtain ⟨request, arrived, answered, found, replaces⟩ := exists_of_answeredWhere isAnswered
  exact ⟨state, request, refusesRefresh_of_answered (Transition.reachable_of_foldlM reached)
    ⟨arrived, found⟩ replaces⟩

/-- A password is reset while a refresh token of the user is live, and a request that arrives
after the reset was answered is answered with a fresh session for the token. -/
theorem refreshed_after_reset : ∃ state : AuthState credentialRuntime,
      state.Reachable Conditions.none signedInStore ∧
        (∃ request answered, state.Answered 0 request answered ∧
          request.operation.replacesPassword = true) ∧
        (∃ commit ∈ state.shared.commits, replacesWithToken commit = true) ∧
        ∃ request answered, state.sessions[1]? = some ⟨request, 1, .outside (.answer answered)⟩ ∧
            refreshesStolen request = true := by
  have run : (after signedInStore Conditions.none
      refreshedAfterReset).map (fun state =>
        (answeredWhere (fun request _ => request.operation.replacesPassword) state 0,
          state.shared.commits.any replacesWithToken,
          answeredWhere (fun request arrived =>
            arrived = 1 && refreshesStolen request) state 1)) =
      some (true, true, true) := by decide +kernel
  obtain ⟨state, reached, isRun⟩ := Option.map_eq_some_iff.mp run
  rw [Prod.mk.injEq, Prod.mk.injEq] at isRun
  obtain ⟨isReset, isReplaced, isRefreshed⟩ := isRun
  obtain ⟨reset, resetArrived, resetAnswer, foundReset, replaces⟩ :=
    exists_of_answeredWhere isReset
  obtain ⟨refresh, arrived, answer, found, isLater⟩ := exists_of_answeredWhere isRefreshed
  rw [Bool.and_eq_true, decide_eq_true_eq] at isLater
  obtain ⟨rfl, isStolen⟩ := isLater
  exact ⟨state, Transition.reachable_of_foldlM reached,
    ⟨reset, resetAnswer, ⟨resetArrived, foundReset⟩, replaces⟩, List.any_eq_true.mp isReplaced,
    refresh, answer, found, isStolen⟩

end Csms.Auth
