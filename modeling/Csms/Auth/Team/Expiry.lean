import Csms.Auth.Team.Service
import Csms.Service.Program

/-!
# Expired invitations

An invitation that has expired is marked so by the attempt that finds it, in the transaction
that the error of the attempt rolls back.  The attempts are handlers here, which keep what they
have written before they throw.
-/

namespace Csms.Auth.Invitations

open Js Service

abbrev InvitationHandler :=
  EStateM AuthException Store

def setStatus (invitation : UserInvitation) (status : InvitationStatus) (store : Store) : Store :=
  { store with
    invitations := store.invitations.updateWhere
      (fun row => row.tokenHash = invitation.tokenHash) (fun row => { row with status })
      fun _ => rfl }

def hasExpired : AuthException :=
  .badRequest "Invitation has expired"

section Handlers

variable (runtime : AuthRuntime) (call : Call)

/-- The checks of `resolveInvitationByToken`. -/
def checkInvitation (invitation : UserInvitation) : InvitationHandler UserInvitation :=
  if invitation.status = .revoked then throw (.badRequest "Invitation has been revoked")
  else if invitation.status = .activated then
    throw (.badRequest "Invitation has already been used")
  else if invitation.expiresAt ≤ call.now then do
    if invitation.status = .pending ∨ invitation.status = .accepted then
      modify (setStatus invitation .expired)
    throw hasExpired
  else if invitation.status = .expired then throw hasExpired
  else pure invitation

def resolveInvitationByToken (token : String) : InvitationHandler UserInvitation := do
  let store ← get
  let invitation ← Service.orThrow <|
    match store.invitations.find? (runtime.hashToken token) with
    | none => .error (.badRequest "Invitation is invalid")
    | some invitation => .ok invitation
  checkInvitation call invitation

/-- The answer is the address of the invitation. -/
def acceptInvitationToken (token : String) : InvitationHandler String :=
  if trim token = "" then throw (.badRequest "Invitation token is required")
  else do
    let invitation ← transaction do
      let resolved ← resolveInvitationByToken runtime call (trim token)
      if resolved.status = .pending then modify (setStatus resolved .accepted)
      pure resolved
    pure invitation.email

/-- The answer is the organization of the invitation. -/
def activateInvitationOnLogin (activation : Activation) : InvitationHandler String :=
  transaction do
    let invitation ← resolveInvitationByToken runtime call activation.inviteToken
    let store ← get
    let user ← Service.orThrow (store.checkInvited activation invitation)
    modify fun store =>
      (store.activateMembership invitation user.id).markActivated runtime call activation invitation
    let marked ← get
    let materialized ← Service.orThrow (marked.materializeAssignments call activation invitation)
    set (materialized.syncLegacyOrganizationId user.id user.organizationId
      (some invitation.organizationId))
    pure invitation.organizationId

inductive Attempt
  | accept (token : String)
  | activate (activation : Activation)

namespace Attempt

variable (attempt : Attempt)

def run : InvitationHandler String :=
  match attempt with
  | accept token => acceptInvitationToken runtime call token
  | activate activation => activateInvitationOnLogin runtime call activation

/-- The token that is looked up. -/
def token? : Option String :=
  match attempt with
  | accept token => if trim token = "" then none else some (trim token)
  | activate activation => some activation.inviteToken

def invitation? (store : Store) : Option UserInvitation :=
  attempt.token?.bind fun token => store.invitations.find? (runtime.hashToken token)

/-- The attempt fails because the invitation has expired. -/
def FindsExpired (store : Store) : Prop :=
  ∃ token later, attempt.token? = some token ∧
    resolveInvitationByToken runtime call token store = .error hasExpired later

/-- Expiry is recorded, and an error leaves no other change behind. -/
structure RecordsExpiry (store : Store) : Prop where
  expired : attempt.FindsExpired runtime call store →
    (attempt.invitation? runtime (after (attempt.run runtime call) store)).map
      UserInvitation.status = some .expired
  noOther : ∀ error later, attempt.run runtime call store = .error error later →
    later = store ∨ ∃ invitation, attempt.invitation? runtime store = some invitation ∧
      later = setStatus invitation .expired store

end Attempt

/-- The invitation has expired, and is not marked so yet. -/
def isUnmarked (invitation : UserInvitation) : Bool :=
  (invitation.status = .pending || invitation.status = .accepted) && invitation.expiresAt ≤ call.now

end Handlers

variable {runtime : AuthRuntime} {call : Call} {store : Store}

theorem eq_of_run_eq_error {attempt : Attempt} {error : AuthException} {later : Store}
    (failed : attempt.run runtime call store = .error error later) : later = store := by
  cases attempt with
  | accept token =>
    rw [Attempt.run, acceptInvitationToken] at failed
    split at failed
    · cases failed
      rfl
    · rcases inside : (transaction (do
          let resolved ← resolveInvitationByToken runtime call (trim token)
          if resolved.status = .pending then modify (setStatus resolved .accepted)
          pure resolved) : InvitationHandler UserInvitation) store with answer | refusal
      · rw [bind_of_ok inside] at failed
        contradiction
      · rw [bind_of_error inside] at failed
        cases failed
        exact eq_of_transaction_eq_error inside
  | activate activation => exact eq_of_transaction_eq_error failed

/-- What the attempts throw first is what they find out of the invitation. -/
theorem run_of_resolve_eq_error {attempt : Attempt} {token : String} {error : AuthException}
    {later : Store} (isToken : attempt.token? = some token)
    (failed : resolveInvitationByToken runtime call token store = .error error later) :
    attempt.run runtime call store = .error error store := by
  cases attempt with
  | accept text =>
    rw [Attempt.token?] at isToken
    split at isToken
    · contradiction
    · rename_i notBlank
      cases isToken
      rw [Attempt.run, acceptInvitationToken, if_neg notBlank]
      apply bind_of_error
      rw [transaction, bind_of_error failed]
  | activate activation =>
    cases isToken
    rw [Attempt.run, activateInvitationOnLogin, transaction, bind_of_error failed]

theorem checkInvitation_eq_hasExpired_iff {invitation : UserInvitation} :
    (∃ later, checkInvitation call invitation store = .error hasExpired later) ↔
      isUnmarked call invitation = true ∨ invitation.status = .expired := by
  by_cases isPast : invitation.expiresAt ≤ call.now
  · rcases status : invitation.status <;>
      simp [checkInvitation, isUnmarked, hasExpired, status, isPast, throw_apply, bind_apply,
        modify_apply]
  · rcases status : invitation.status <;>
      simp [checkInvitation, isUnmarked, hasExpired, status, isPast, throw_apply, pure_apply]

theorem resolve_of_none {token : String}
    (found : store.invitations.find? (runtime.hashToken token) = none) :
    resolveInvitationByToken runtime call token store =
      .error (.badRequest "Invitation is invalid") store := by
  rw [resolveInvitationByToken, bind_of_ok (rfl : (get : InvitationHandler Store) store = _)]
  simp only [found]
  exact bind_of_error (orThrow_error _ store) _

theorem resolve_of_some {token : String} {invitation : UserInvitation}
    (found : store.invitations.find? (runtime.hashToken token) = some invitation) :
    resolveInvitationByToken runtime call token store = checkInvitation call invitation store := by
  rw [resolveInvitationByToken, bind_of_ok (rfl : (get : InvitationHandler Store) store = _)]
  simp only [found]
  exact bind_of_ok (orThrow_ok invitation store) _

theorem findsExpired_iff {attempt : Attempt} : attempt.FindsExpired runtime call store ↔
      ∃ invitation, attempt.invitation? runtime store = some invitation ∧
        (isUnmarked call invitation = true ∨ invitation.status = .expired) := by
  rw [Attempt.FindsExpired, Attempt.invitation?]
  rcases attempt.token? with _ | token
  · simp
  · rw [Option.bind_some]
    rcases found : store.invitations.find? (runtime.hashToken token) with _ | invitation
    · simp [resolve_of_none found, hasExpired]
    · simp [resolve_of_some found, checkInvitation_eq_hasExpired_iff]

theorem resolveInvitationByToken_eq (token : String) :
    match store.resolveInvitationByToken runtime call token with
    | .ok invitation => resolveInvitationByToken runtime call token store = .ok invitation store
    | .error error =>
      ∃ later, resolveInvitationByToken runtime call token store = .error error later := by
  rw [Store.resolveInvitationByToken]
  rcases found : store.invitations.find? (runtime.hashToken token) with _ | invitation
  · exact ⟨store, resolve_of_none found⟩
  · rw [resolve_of_some found]
    by_cases isPast : invitation.expiresAt ≤ call.now
    · rcases status : invitation.status <;> simp [checkInvitation, status, isPast] <;>
        exact ⟨_, rfl⟩
    · rcases status : invitation.status <;> simp [checkInvitation, status, isPast] <;>
        first | rfl | exact ⟨_, rfl⟩

/-- Expiry is recorded if there is nothing to record. -/
theorem recordsExpiry_iff (runtime : AuthRuntime) (call : Call) (store : Store)
    (attempt : Attempt) : attempt.RecordsExpiry runtime call store ↔
      ∀ invitation, attempt.invitation? runtime store = some invitation →
        isUnmarked call invitation = false := by
  constructor
  · intro records invitation isStored
    rw [Bool.eq_false_iff]
    intro unmarked
    have finds := findsExpired_iff.mpr ⟨invitation, isStored, Or.inl unmarked⟩
    obtain ⟨token, later, isToken, failed⟩ := id finds
    have marked := records.expired finds
    rw [after, run_of_resolve_eq_error isToken failed] at marked
    rw [isStored, Option.map_some, Option.some.injEq] at marked
    simp [isUnmarked, marked] at unmarked
  · intro noneUnmarked
    refine ⟨fun finds => ?_, fun error later failed => Or.inl (eq_of_run_eq_error failed)⟩
    obtain ⟨invitation, isStored, unmarked | isExpired⟩ := findsExpired_iff.mp finds
    · rw [noneUnmarked invitation isStored] at unmarked
      contradiction
    · obtain ⟨token, later, isToken, failed⟩ := finds
      rw [after, run_of_resolve_eq_error isToken failed]
      rw [isStored, Option.map_some, isExpired]

namespace Sample

def invitation : UserInvitation where
  id := "invitation"
  email := "ben@acme.test"
  userId := none
  organizationId := "acme"
  role := .manager
  canonicalRoleKey := none
  customRoleId := none
  customRoleName := none
  ownerCapability := none
  invitedBy := none
  tokenHash := "token"
  status := .pending
  expiresAt := 0
  tempPasswordHash := none
  initialAssignments := []

def invited : Store :=
  { Store.empty with invitations := { rows := [invitation], nodup := List.nodup_singleton _ } }

end Sample

/-- An attempt finds the invitation expired, and leaves it pending. -/
theorem expired_stays_pending :
    (Attempt.accept "token").run Auth.Sample.authRuntime Auth.Sample.call Sample.invited =
        .error hasExpired Sample.invited ∧
      ¬(Attempt.accept "token").RecordsExpiry Auth.Sample.authRuntime Auth.Sample.call
        Sample.invited := by
  refine ⟨rfl, fun records => ?_⟩
  have marked := records.expired ⟨"token", _, rfl, rfl⟩
  contradiction

end Csms.Auth.Invitations
