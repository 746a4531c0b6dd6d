import Csms.Auth.Team.Input
import Csms.Database.Sequential

/-!
# Attempts at a second factor

The counts of wrong codes in the memory of one process, with the lock that too many of
them set.  An attempt tests the lock before its code is evaluated and is counted after it.
-/

namespace Csms.Auth

open Transition

/-! ## Counts of failures -/

inductive TwoFactorAction
  | verify
  | disable
  | login
  | sensitive
deriving DecidableEq

def TwoFactorAction.text : TwoFactorAction → String
  | verify => "verify"
  | disable => "disable"
  | login => "login"
  | sensitive => "sensitive"

def getTwoFactorAttemptKey (userId : String) (action : TwoFactorAction) : String :=
  userId ++ ":" ++ action.text

def twoFactorMaxFailures : Nat :=
  5

def twoFactorFailureWindowMs : Nat :=
  10 * 60 * 1000

def twoFactorLockMs : Nat :=
  15 * 60 * 1000

structure AttemptState where
  (failures lastFailedAt lockedUntil : Nat)
deriving DecidableEq

/-- `twoFactorAttempts`. -/
abbrev TwoFactorAttempts :=
  String → Option AttemptState

/-- The state of a key after the test, with a count that is too old deleted. -/
def AttemptState.allowed (now : Nat) (state : AttemptState) :
    Except AuthException (Option AttemptState) :=
  if state.lockedUntil > now then
    let waitMinutes := max 1 ((state.lockedUntil - now + 59999) / 60000)
    .error (.badRequest ("Too many failed 2FA attempts. Try again in " ++
      toString waitMinutes ++ " minute(s)."))
  else if now - state.lastFailedAt > twoFactorFailureWindowMs then .ok none
  else .ok (some state)

def assertTwoFactorAttemptAllowed (attempts : TwoFactorAttempts) (now : Nat) (userId : String)
    (action : TwoFactorAction) : Except AuthException TwoFactorAttempts :=
  let key := getTwoFactorAttemptKey userId action
  match attempts key with
  | none => .ok attempts
  | some state => (state.allowed now).map (Function.update attempts key)

def AttemptState.afterFailure (now : Nat) (current : Option AttemptState) : AttemptState :=
  let failures := match current with
    | none => 1
    | some state =>
      if now - state.lastFailedAt > twoFactorFailureWindowMs then 1 else state.failures + 1
  { failures
    lastFailedAt := now
    lockedUntil := if failures ≥ twoFactorMaxFailures then now + twoFactorLockMs else 0 }

def registerTwoFactorFailure (attempts : TwoFactorAttempts) (now : Nat) (userId : String)
    (action : TwoFactorAction) : TwoFactorAttempts :=
  let key := getTwoFactorAttemptKey userId action
  Function.update attempts key (some (.afterFailure now (attempts key)))

def clearTwoFactorFailures (attempts : TwoFactorAttempts) (userId : String)
    (action : TwoFactorAction) : TwoFactorAttempts :=
  Function.update attempts (getTwoFactorAttemptKey userId action) none

/-! ## Attempts in flight -/

/-- Whom and what an attempt is for. -/
structure AttemptSubject where
  userId : String
  action : TwoFactorAction
deriving DecidableEq

def AttemptSubject.key (subject : AttemptSubject) : String :=
  getTwoFactorAttemptKey subject.userId subject.action

/-- How far an attempt has come that has passed the test of the lock: its code is not
evaluated yet, or is wrong, or is right. -/
inductive AttemptPhase
  | waiting
  | wrong
  | right
deriving DecidableEq

/-- How an attempt ends: the failures are cleared, one more is registered, or neither. -/
inductive AttemptEnding
  | success
  | failure
  | abandoned
deriving DecidableEq

/-- An error of the database before the code is evaluated counts as a failure with a code
sent to the user, and does not with a recovery code.  The code that is sent is also used up
before the failures are cleared. -/
def AttemptPhase.endsIn : AttemptPhase → AttemptEnding → Bool
  | waiting, .failure | waiting, .abandoned => true
  | wrong, .failure => true
  | right, .success | right, .failure => true
  | _, _ => false

/-- The attempts in flight in each phase. -/
structure Flights where
  (waiting wrong right : Nat)
deriving DecidableEq

namespace Flights

def total (flights : Flights) : Nat :=
  flights.waiting + flights.wrong + flights.right

def of (flights : Flights) : AttemptPhase → Nat
  | .waiting => flights.waiting
  | .wrong => flights.wrong
  | .right => flights.right

def add (flights : Flights) : AttemptPhase → Flights
  | .waiting => { flights with waiting := flights.waiting + 1 }
  | .wrong => { flights with wrong := flights.wrong + 1 }
  | .right => { flights with right := flights.right + 1 }

def remove (flights : Flights) : AttemptPhase → Flights
  | .waiting => { flights with waiting := flights.waiting - 1 }
  | .wrong => { flights with wrong := flights.wrong - 1 }
  | .right => { flights with right := flights.right - 1 }

end Flights

inductive AttemptEntry
  | evaluated (subject : AttemptSubject) (time : Nat) (isRight : Bool) (lockedUntil : Nat)
  | succeeded (subject : AttemptSubject)
deriving DecidableEq

/-- The memory of the process, the attempts in flight, and what has happened so far, the
newest first. -/
structure AttemptsState where
  now : Nat
  attempts : TwoFactorAttempts
  flights : AttemptSubject → Flights
  log : List AttemptEntry

inductive AttemptEvent
  | pass (duration : Nat)
  /-- An attempt with a code sent to the user or a recovery code tests the lock. -/
  | start (subject : AttemptSubject)
  | evaluate (subject : AttemptSubject) (isRight : Bool)
  | settle (subject : AttemptSubject) (phase : AttemptPhase) (ending : AttemptEnding)
  /-- `verifyTotpForUser`, which waits for nothing, and may fail to decrypt the secret. -/
  | verifyTotp (subject : AttemptSubject) (isRight : Option Bool)

namespace AttemptsState

variable (state : AttemptsState) (subject : AttemptSubject)

def initial (now : Nat) : AttemptsState where
  now := now
  attempts _ := none
  flights _ := ⟨0, 0, 0⟩
  log := []

def lockedUntil : Nat :=
  ((state.attempts subject.key).map AttemptState.lockedUntil).getD 0

def allowed : Except AuthException TwoFactorAttempts :=
  assertTwoFactorAttemptAllowed state.attempts state.now subject.userId subject.action

def evaluated (isRight : Bool) : AttemptsState :=
  { state with
    log := .evaluated subject state.now isRight (state.lockedUntil subject) :: state.log }

def settled : AttemptEnding → AttemptsState
  | .success =>
    { state with
      attempts := clearTwoFactorFailures state.attempts subject.userId subject.action
      log := .succeeded subject :: state.log }
  | .failure =>
    { state with
      attempts :=
        registerTwoFactorFailure state.attempts state.now subject.userId subject.action }
  | .abandoned => state

def withFlights (flights : Flights) : AttemptsState :=
  { state with flights := Function.update state.flights subject flights }

/-- An event that the state does not allow changes nothing. -/
def next : AttemptEvent → AttemptsState
  | .pass duration => { state with now := state.now + duration }
  | .start subject =>
    match state.allowed subject with
    | .error _ => state
    | .ok attempts =>
      { state with attempts }.withFlights subject ((state.flights subject).add .waiting)
  | .evaluate subject isRight =>
    if 0 < (state.flights subject).waiting then
      (state.evaluated subject isRight).withFlights subject
        (((state.flights subject).remove .waiting).add (if isRight then .right else .wrong))
    else state
  | .settle subject phase ending =>
    if 0 < (state.flights subject).of phase ∧ phase.endsIn ending = true then
      (state.settled subject ending).withFlights subject ((state.flights subject).remove phase)
    else state
  | .verifyTotp subject isRight =>
    match state.allowed subject, isRight with
    | .error _, _ => state
    | .ok attempts, none => { state with attempts }
    | .ok attempts, some true =>
      ({ state with attempts }.evaluated subject true).settled subject .success
    | .ok attempts, some false =>
      ({ state with attempts }.evaluated subject false).settled subject .failure

end AttemptsState

/-! ## Wrong codes of a subject -/

/-- The times of the wrong codes since the last successful attempt, the newest first. -/
def wrongSince (subject : AttemptSubject) : List AttemptEntry → List Nat
  | [] => []
  | .evaluated other time false _ :: entries =>
    if other = subject then time :: wrongSince subject entries else wrongSince subject entries
  | .evaluated _ _ true _ :: entries => wrongSince subject entries
  | .succeeded other :: entries => if other = subject then [] else wrongSince subject entries

def AtMostMaxFailures (times : List Nat) : Prop :=
  ∀ start, times.countP (fun time => start ≤ time ∧ time ≤ start + twoFactorFailureWindowMs) ≤
    twoFactorMaxFailures

def failuresOf (attempt : Option AttemptState) : Nat :=
  (attempt.map AttemptState.failures).getD 0

/-- Each wrong code of the last window is counted, or will be when its attempt in flight
ends, and all attempts in flight may fail without a failure too many. -/
structure Accounted (now : Nat) (attempt : Option AttemptState) (flights : Flights)
    (wrong : List Nat) : Prop where
  past : ∀ time ∈ wrong, time ≤ now
  room : failuresOf attempt + flights.total ≤ twoFactorMaxFailures
  recent : (wrong.countP fun time => now - time ≤ twoFactorFailureWindowMs) ≤
    failuresOf attempt + flights.wrong
  registered : ∀ state, attempt = some state →
    (wrong.countP fun time => state.lastFailedAt < time) ≤ flights.wrong ∧
      state.lastFailedAt ≤ now ∧
      state.lockedUntil =
        if state.failures ≥ twoFactorMaxFailures then state.lastFailedAt + twoFactorLockMs else 0
  windows : AtMostMaxFailures wrong

namespace Accounted

variable {now : Nat} {attempt : Option AttemptState} {flights : Flights} {wrong : List Nat}

theorem empty (now : Nat) : Accounted now none ⟨0, 0, 0⟩ [] where
  past := nofun
  room := by decide
  recent := Nat.le_refl 0
  registered := nofun
  windows _ := Nat.zero_le _

section

variable (accounted : Accounted now attempt flights wrong)
include accounted

theorem pass (duration : Nat) : Accounted (now + duration) attempt flights wrong where
  past time isTime := (accounted.past time isTime).trans (Nat.le_add_right now duration)
  room := accounted.room
  recent := by
    refine (List.countP_mono_left ?_).trans accounted.recent
    intro time _ isRecent
    simp only [decide_eq_true_eq] at isRecent ⊢
    omega
  registered state isState := by
    obtain ⟨unregistered, isPast, isLocked⟩ := accounted.registered state isState
    exact ⟨unregistered, isPast.trans (Nat.le_add_right now duration), isLocked⟩
  windows := accounted.windows

theorem recent_of_stale {state : AttemptState} (isState : attempt = some state)
    (stale : now - state.lastFailedAt > twoFactorFailureWindowMs) :
    (wrong.countP fun time => now - time ≤ twoFactorFailureWindowMs) ≤ flights.wrong := by
  refine (List.countP_mono_left ?_).trans (accounted.registered state isState).1
  intro time _ isRecent
  simp only [decide_eq_true_eq] at isRecent ⊢
  omega

/-- A count that is too old can go. -/
theorem forget
    (recent : (wrong.countP fun time => now - time ≤ twoFactorFailureWindowMs) ≤ flights.wrong) :
    Accounted now none flights wrong where
  past := accounted.past
  room := by
    have room := accounted.room
    simp only [failuresOf, Option.map_none, Option.getD_none]
    omega
  recent := recent.trans (Nat.le_add_left _ _)
  registered := nofun
  windows := accounted.windows

theorem allowed {state : AttemptState} (isState : attempt = some state)
    {after : Option AttemptState} (isAllowed : state.allowed now = .ok after) :
    Accounted now after flights wrong := by
  rw [AttemptState.allowed] at isAllowed
  split at isAllowed
  · contradiction
  · split at isAllowed
    · rename_i stale
      cases isAllowed
      exact accounted.forget (accounted.recent_of_stale isState stale)
    · cases isAllowed
      rwa [isState] at accounted

theorem start (hasRoom : failuresOf attempt + flights.total < twoFactorMaxFailures) :
    Accounted now attempt (flights.add .waiting) wrong where
  past := accounted.past
  room := by
    simp only [Flights.total, Flights.add] at hasRoom ⊢
    omega
  recent := accounted.recent
  registered := accounted.registered
  windows := accounted.windows

/-- An attempt in flight has found no lock, and finds none when its code is evaluated. -/
theorem lockedUntil_le (inFlight : 0 < flights.total) :
    (attempt.map AttemptState.lockedUntil).getD 0 ≤ now := by
  rcases attempt with _ | state
  · exact Nat.zero_le now
  · have room := accounted.room
    simp only [failuresOf, Option.map_some, Option.getD_some] at room ⊢
    rw [(accounted.registered state rfl).2.2, if_neg (by omega)]
    exact Nat.zero_le now

theorem evaluateRight (waits : 0 < flights.waiting) :
    Accounted now attempt ((flights.remove .waiting).add .right) wrong where
  past := accounted.past
  room := by
    have room := accounted.room
    simp only [Flights.total, Flights.add, Flights.remove] at room ⊢
    omega
  recent := accounted.recent
  registered := accounted.registered
  windows := accounted.windows

theorem evaluateWrong (waits : 0 < flights.waiting) :
    Accounted now attempt ((flights.remove .waiting).add .wrong) (now :: wrong) where
  past time isTime := by
    rcases List.mem_cons.mp isTime with rfl | isEarlier
    · exact Nat.le_refl time
    · exact accounted.past time isEarlier
  room := by
    have room := accounted.room
    simp only [Flights.total, Flights.add, Flights.remove] at room ⊢
    omega
  recent := by
    have recent := accounted.recent
    rw [List.countP_cons_of_pos (by simp)]
    simp only [Flights.add, Flights.remove]
    omega
  registered state isState := by
    obtain ⟨unregistered, rest⟩ := accounted.registered state isState
    refine ⟨?_, rest⟩
    rw [List.countP_cons]
    simp only [Flights.add, Flights.remove]
    split <;> omega
  windows start := by
    rw [List.countP_cons]
    split
    · rename_i isIn
      -- a window that reaches the present has only codes of the last window before it
      have isLast : (wrong.countP fun time =>
          start ≤ time ∧ time ≤ start + twoFactorFailureWindowMs) ≤
            wrong.countP fun time => now - time ≤ twoFactorFailureWindowMs := by
        refine List.countP_mono_left ?_
        intro time _ isIn'
        simp only [decide_eq_true_eq] at isIn isIn' ⊢
        omega
      have recent := accounted.recent
      have room := accounted.room
      simp only [Flights.total] at room
      omega
    · exact accounted.windows start

/-- The attempt that ends is counted, whether its code has been evaluated or not. -/
theorem register {after : Flights} (ends : after.total + 1 = flights.total)
    (counts : flights.wrong ≤ after.wrong + 1) :
    Accounted now (some (.afterFailure now attempt)) after wrong := by
  have noneLater : (wrong.countP fun time => now < time) = 0 := by
    rw [List.countP_eq_zero]
    intro time isTime
    simpa using accounted.past time isTime
  have counted : failuresOf (some (.afterFailure now attempt)) + after.total ≤
      twoFactorMaxFailures ∧
      (wrong.countP fun time => now - time ≤ twoFactorFailureWindowMs) ≤
        failuresOf (some (.afterFailure now attempt)) + after.wrong := by
    have room := accounted.room
    have recent := accounted.recent
    rcases attempt with _ | state
    · simp only [failuresOf, AttemptState.afterFailure, Option.map_some, Option.getD_some,
        Option.map_none, Option.getD_none] at room recent ⊢
      constructor <;> omega
    · by_cases stale : now - state.lastFailedAt > twoFactorFailureWindowMs
      · have onlyNew := accounted.recent_of_stale rfl stale
        simp only [failuresOf, AttemptState.afterFailure, Option.map_some, Option.getD_some,
          if_pos stale] at room ⊢
        constructor <;> omega
      · simp only [failuresOf, AttemptState.afterFailure, Option.map_some, Option.getD_some,
          if_neg stale] at room recent ⊢
        constructor <;> omega
  exact
    { past := accounted.past
      room := counted.1
      recent := counted.2
      registered := by
        rintro state ⟨⟩
        exact ⟨noneLater.trans_le (Nat.zero_le _), Nat.le_refl now, rfl⟩
      windows := accounted.windows }

end

theorem clear {after : Flights} (accounted : Accounted now attempt flights wrong)
    (ends : after.total ≤ flights.total) : Accounted now none after [] where
  past := nofun
  room := by
    have room := accounted.room
    simp only [failuresOf, Option.map_none, Option.getD_none]
    omega
  recent := Nat.zero_le _
  registered := nofun
  windows _ := Nat.zero_le _

theorem abandon (accounted : Accounted now attempt flights wrong) :
    Accounted now attempt (flights.remove .waiting) wrong where
  past := accounted.past
  room := by
    have room := accounted.room
    simp only [Flights.total, Flights.remove] at room ⊢
    omega
  recent := accounted.recent
  registered := accounted.registered
  windows := accounted.windows

end Accounted

/-! ## Keys -/

theorem TwoFactorAction.text_injective : Function.Injective TwoFactorAction.text := by
  intro first second sameText
  revert sameText
  cases first <;> cases second <;> decide

/-- The part of a key after its last colon is the action. -/
theorem takeWhile_reverse_key (subject : AttemptSubject) :
    subject.key.toList.reverse.takeWhile (· ≠ ':') = subject.action.text.toList.reverse := by
  have noColon (action : TwoFactorAction) :
      ∀ c ∈ action.text.toList.reverse, decide (c ≠ ':') = true := by
    have all : (action.text.toList.reverse.all fun c => decide (c ≠ ':')) = true := by
      cases action <;> decide
    exact List.all_eq_true.mp all
  rw [AttemptSubject.key, getTwoFactorAttemptKey, String.toList_append, String.toList_append,
    List.reverse_append, List.reverse_append, List.takeWhile_append_of_pos (noColon _)]
  exact List.append_nil _

theorem AttemptSubject.key_injective : Function.Injective AttemptSubject.key := by
  intro first second sameKey
  have sameText : first.action.text = second.action.text := by
    have sameReverse := takeWhile_reverse_key first
    rw [sameKey, takeWhile_reverse_key] at sameReverse
    exact (String.toList_injective (List.reverse_injective sameReverse)).symm
  rcases first with ⟨firstId, firstAction⟩
  rcases second with ⟨secondId, secondAction⟩
  obtain rfl := TwoFactorAction.text_injective sameText
  have sameId : firstId = secondId := by
    have sameList := congrArg String.toList sameKey
    simp only [AttemptSubject.key, getTwoFactorAttemptKey, String.toList_append] at sameList
    exact String.toList_injective (List.append_cancel_right (List.append_cancel_right sameList))
  rw [sameId]

/-! ## Steps -/

namespace AttemptsState

def IsAccounted (state : AttemptsState) : Prop :=
  ∀ subject, Accounted state.now (state.attempts subject.key) (state.flights subject)
    (wrongSince subject state.log)

/-- No code has been evaluated while the lock was in force. -/
def NoneLocked (state : AttemptsState) : Prop :=
  ∀ subject time isRight lockedUntil,
    .evaluated subject time isRight lockedUntil ∈ state.log → lockedUntil ≤ time

/-- An attempt that passes the test of the lock may fail as well as those in flight without
a failure too many. -/
def hasRoom (state : AttemptsState) : AttemptEvent → Bool
  | .start subject | .verifyTotp subject _ =>
    match state.allowed subject with
    | .error _ => true
    | .ok attempts =>
      failuresOf (attempts subject.key) + (state.flights subject).total < twoFactorMaxFailures
  | _ => true

variable {state after : AttemptsState} {subject : AttemptSubject}

theorem isAccounted_of_acting (subject : AttemptSubject) (isAccounted : state.IsAccounted)
    (sameNow : after.now = state.now)
    (others : ∀ other ≠ subject, after.attempts other.key = state.attempts other.key ∧
      after.flights other = state.flights other ∧
      wrongSince other after.log = wrongSince other state.log)
    (acting : Accounted after.now (after.attempts subject.key) (after.flights subject)
      (wrongSince subject after.log)) : after.IsAccounted := by
  intro other
  by_cases isActing : other = subject
  · rw [isActing]
    exact acting
  · obtain ⟨sameAttempt, sameFlights, sameWrong⟩ := others other isActing
    rw [sameNow, sameAttempt, sameFlights, sameWrong]
    exact isAccounted other

theorem isAccounted_allowed (isAccounted : state.IsAccounted) {attempts : TwoFactorAttempts}
    (isAllowed : state.allowed subject = .ok attempts) : { state with attempts }.IsAccounted := by
  rw [allowed, assertTwoFactorAttemptAllowed] at isAllowed
  rcases found : state.attempts (getTwoFactorAttemptKey subject.userId subject.action) with
    _ | attempt
  · rw [found] at isAllowed
    cases isAllowed
    exact isAccounted
  · rw [found] at isAllowed
    obtain ⟨tested, isTested, isAttempts⟩ := exists_of_map_eq_ok isAllowed
    cases isAttempts
    refine isAccounted_of_acting subject isAccounted rfl ?_ ?_
    · exact fun other isOther =>
        ⟨Function.update_of_ne (AttemptSubject.key_injective.ne isOther) _ _, rfl, rfl⟩
    · have ofSubject := (isAccounted subject).allowed found isTested
      change Accounted state.now (Function.update state.attempts subject.key tested subject.key)
        (state.flights subject) (wrongSince subject state.log)
      rwa [Function.update_self]

theorem isAccounted_start (isAccounted : state.IsAccounted)
    (hasRoom : state.hasRoom (.start subject) = true) :
    (state.next (.start subject)).IsAccounted := by
  rw [AttemptsState.hasRoom] at hasRoom
  rw [next]
  rcases isAllowed : state.allowed subject with _ | attempts
  · exact isAccounted
  · rw [isAllowed] at hasRoom
    have tested := isAccounted_allowed isAccounted isAllowed
    refine isAccounted_of_acting subject tested rfl ?_ ?_
    · exact fun other isOther => ⟨rfl, Function.update_of_ne isOther _ _, rfl⟩
    · have ofSubject := (tested subject).start (of_decide_eq_true hasRoom)
      change Accounted state.now (attempts subject.key)
        (Function.update state.flights subject _ subject) (wrongSince subject state.log)
      rwa [Function.update_self]

theorem wrongSince_evaluated_of_ne {other : AttemptSubject} (isOther : other ≠ subject)
    (isRight : Bool) :
    wrongSince other (state.evaluated subject isRight).log = wrongSince other state.log := by
  cases isRight
  · exact if_neg (Ne.symm isOther)
  · rfl

theorem wrongSince_evaluated_wrong : wrongSince subject (state.evaluated subject false).log =
      state.now :: wrongSince subject state.log :=
  if_pos rfl

theorem isAccounted_evaluate (isAccounted : state.IsAccounted) (isRight : Bool) :
    (state.next (.evaluate subject isRight)).IsAccounted := by
  rw [next]
  split
  · rename_i waits
    refine isAccounted_of_acting subject isAccounted rfl ?_ ?_
    · exact fun other isOther => ⟨rfl, Function.update_of_ne isOther _ _,
        wrongSince_evaluated_of_ne isOther isRight⟩
    · change Accounted state.now (state.attempts subject.key)
        (Function.update state.flights subject _ subject)
        (wrongSince subject (state.evaluated subject isRight).log)
      rw [Function.update_self]
      cases isRight
      · rw [wrongSince_evaluated_wrong]
        exact (isAccounted subject).evaluateWrong waits
      · exact (isAccounted subject).evaluateRight waits
  · exact isAccounted

theorem accounted_settled (phase : AttemptPhase) {ending : AttemptEnding} {flights : Flights}
    (accounted : Accounted state.now (state.attempts subject.key) flights
      (wrongSince subject state.log))
    (inFlight : 0 < flights.of phase) (ends : phase.endsIn ending = true) :
    Accounted (state.settled subject ending).now
      ((state.settled subject ending).attempts subject.key) (flights.remove phase)
      (wrongSince subject (state.settled subject ending).log) := by
  have oneLess : (flights.remove phase).total + 1 = flights.total := by
    cases phase <;> simp only [Flights.of, Flights.total, Flights.remove] at inFlight ⊢ <;> omega
  cases ending with
  | success =>
    have noneWrong : wrongSince subject (state.settled subject .success).log = [] := if_pos rfl
    rw [noneWrong]
    change Accounted state.now (Function.update state.attempts subject.key none subject.key) _ []
    rw [Function.update_self]
    exact accounted.clear (by omega)
  | failure =>
    change Accounted state.now (Function.update state.attempts subject.key
      (some (.afterFailure state.now (state.attempts subject.key))) subject.key) _ _
    rw [Function.update_self]
    refine accounted.register oneLess ?_
    cases phase <;> simp only [Flights.remove] <;> omega
  | abandoned =>
    cases phase with
    | waiting => exact accounted.abandon
    | wrong => contradiction
    | right => contradiction

theorem settled_of_ne (state : AttemptsState) {other : AttemptSubject} (isOther : other ≠ subject)
    (ending : AttemptEnding) :
    (state.settled subject ending).attempts other.key = state.attempts other.key ∧
      wrongSince other (state.settled subject ending).log = wrongSince other state.log := by
  have otherKey := AttemptSubject.key_injective.ne isOther
  cases ending with
  | success => exact ⟨Function.update_of_ne otherKey _ _, if_neg (Ne.symm isOther)⟩
  | failure => exact ⟨Function.update_of_ne otherKey _ _, rfl⟩
  | abandoned => exact ⟨rfl, rfl⟩

theorem flights_settled (ending : AttemptEnding) : (state.settled subject ending).now = state.now ∧
      (state.settled subject ending).flights = state.flights := by
  cases ending <;> exact ⟨rfl, rfl⟩

theorem isAccounted_settle (isAccounted : state.IsAccounted) (phase : AttemptPhase)
    (ending : AttemptEnding) : (state.next (.settle subject phase ending)).IsAccounted := by
  rw [next]
  split
  · rename_i settles
    refine isAccounted_of_acting subject isAccounted (flights_settled ending).1 ?_ ?_
    · intro other isOther
      obtain ⟨sameAttempt, sameWrong⟩ := settled_of_ne state isOther ending
      exact ⟨sameAttempt, (Function.update_of_ne isOther _ _).trans
        (congrFun (flights_settled ending).2 other), sameWrong⟩
    · change Accounted (state.settled subject ending).now
        ((state.settled subject ending).attempts subject.key)
        (Function.update (state.settled subject ending).flights subject _ subject)
        (wrongSince subject (state.settled subject ending).log)
      rw [Function.update_self]
      exact accounted_settled phase (isAccounted subject) settles.1 settles.2
  · exact isAccounted

/-- A code that is evaluated at once, with what follows from it, is one more attempt that
is in flight for no time. -/
theorem isAccounted_verified (isAccounted : state.IsAccounted)
    (hasRoom : failuresOf (state.attempts subject.key) + (state.flights subject).total <
      twoFactorMaxFailures) (isRight : Bool) : ((state.evaluated subject isRight).settled subject
      (if isRight then .success else .failure)).IsAccounted := by
  have started := (isAccounted subject).start hasRoom
  have waits : 0 < ((state.flights subject).add .waiting).waiting := Nat.succ_pos _
  have evaluated : Accounted (state.evaluated subject isRight).now
      ((state.evaluated subject isRight).attempts subject.key)
      ((((state.flights subject).add .waiting).remove .waiting).add
        (if isRight then .right else .wrong))
      (wrongSince subject (state.evaluated subject isRight).log) := by
    cases isRight
    · rw [wrongSince_evaluated_wrong]
      exact started.evaluateWrong waits
    · exact started.evaluateRight waits
  refine isAccounted_of_acting subject isAccounted (flights_settled _).1 ?_ ?_
  · intro other isOther
    obtain ⟨sameAttempt, sameWrong⟩ := settled_of_ne (state.evaluated subject isRight) isOther
      (if isRight then .success else .failure)
    exact ⟨sameAttempt, congrFun (flights_settled _).2 other,
      sameWrong.trans (wrongSince_evaluated_of_ne isOther isRight)⟩
  · rw [(flights_settled _).2]
    cases isRight
    · exact accounted_settled .wrong evaluated (Nat.succ_pos _) rfl
    · exact accounted_settled .right evaluated (Nat.succ_pos _) rfl

theorem next_verifyTotp_of_error {exception : AuthException}
    (isRefused : state.allowed subject = .error exception) (isRight : Option Bool) :
    state.next (.verifyTotp subject isRight) = state := by
  simp only [next, isRefused]

theorem next_verifyTotp {attempts : TwoFactorAttempts}
    (isAllowed : state.allowed subject = .ok attempts) (isRight : Option Bool) :
    state.next (.verifyTotp subject isRight) = isRight.elim { state with attempts } fun isRight =>
        ({ state with attempts }.evaluated subject isRight).settled subject
          (if isRight then .success else .failure) := by
  rcases isRight with _ | _ | _ <;> simp only [next, isAllowed] <;> rfl

theorem isAccounted_next {event : AttemptEvent} (hasRoom : state.hasRoom event = true)
    (isAccounted : state.IsAccounted) : (state.next event).IsAccounted := by
  cases event with
  | pass duration => exact fun subject => (isAccounted subject).pass duration
  | start subject => exact isAccounted_start isAccounted hasRoom
  | evaluate subject isRight => exact isAccounted_evaluate isAccounted isRight
  | settle subject phase ending => exact isAccounted_settle isAccounted phase ending
  | verifyTotp subject isRight =>
    rw [AttemptsState.hasRoom] at hasRoom
    rcases isAllowed : state.allowed subject with _ | attempts
    · rwa [next_verifyTotp_of_error isAllowed]
    · rw [isAllowed] at hasRoom
      rw [next_verifyTotp isAllowed]
      have tested := isAccounted_allowed isAccounted isAllowed
      rcases isRight with _ | isRight
      · exact tested
      · exact isAccounted_verified tested (of_decide_eq_true hasRoom) isRight

/-! ## The lock -/

/-- Where an attempt is in flight, its code finds no lock. -/
theorem noneLocked_evaluated (noneLocked : state.NoneLocked)
    (unlocked : state.lockedUntil subject ≤ state.now) (isRight : Bool) :
    (state.evaluated subject isRight).NoneLocked := by
  intro other time isRight' lockedUntil isEntry
  rcases List.mem_cons.mp isEntry with isNew | isOld
  · cases isNew
    exact unlocked
  · exact noneLocked other time isRight' lockedUntil isOld

theorem noneLocked_settled (noneLocked : state.NoneLocked) (ending : AttemptEnding) :
    (state.settled subject ending).NoneLocked := by
  cases ending with
  | success =>
    intro other time isRight lockedUntil isEntry
    rcases List.mem_cons.mp isEntry with isNew | isOld
    · contradiction
    · exact noneLocked other time isRight lockedUntil isOld
  | failure => exact noneLocked
  | abandoned => exact noneLocked

theorem noneLocked_next {event : AttemptEvent} (hasRoom : state.hasRoom event = true)
    (isAccounted : state.IsAccounted) (noneLocked : state.NoneLocked) :
    (state.next event).NoneLocked := by
  cases event with
  | pass duration => exact noneLocked
  | start subject =>
    rw [next]
    split
    · exact noneLocked
    · exact noneLocked
  | evaluate subject isRight =>
    rw [next]
    split
    · rename_i waits
      refine noneLocked_evaluated noneLocked ((isAccounted subject).lockedUntil_le ?_) isRight
      exact Nat.add_pos_left (Nat.add_pos_left waits _) _
    · exact noneLocked
  | settle subject phase ending =>
    rw [next]
    split
    · exact noneLocked_settled noneLocked ending
    · exact noneLocked
  | verifyTotp subject isRight =>
    rw [AttemptsState.hasRoom] at hasRoom
    rcases isAllowed : state.allowed subject with _ | attempts
    · rwa [next_verifyTotp_of_error isAllowed]
    · rw [isAllowed] at hasRoom
      rw [next_verifyTotp isAllowed]
      have sameLog : { state with attempts }.NoneLocked := noneLocked
      have tested := isAccounted_allowed isAccounted isAllowed
      have started := (tested subject).start (of_decide_eq_true hasRoom)
      have unlocked :=
        started.lockedUntil_le (Nat.add_pos_left (Nat.add_pos_left (Nat.succ_pos _) _) _)
      rcases isRight with _ | isRight
      · exact sameLog
      · exact noneLocked_settled (noneLocked_evaluated sameLog unlocked isRight) _

end AttemptsState

/-- In a run in which each attempt that passes the test may fail together with those in
flight, at most as many wrong codes as may be are evaluated in a window between successful
attempts, and none under the lock. -/
theorem atMostMaxFailures_of_hasRoom {now : Nat} {events : List AttemptEvent}
    (met : StepsMeet AttemptsState.next (fun state event => state.hasRoom event = true)
      (.initial now) events) :
    ∀ reached ∈ states AttemptsState.next (.initial now) events,
      (∀ subject, AtMostMaxFailures (wrongSince subject reached.log)) ∧ reached.NoneLocked := by
  have initially : (AttemptsState.initial now).IsAccounted ∧
      (AttemptsState.initial now).NoneLocked :=
    ⟨fun _ => .empty now, fun _ _ _ _ isEntry => nomatch isEntry⟩
  have keeps (state : AttemptsState) (event : AttemptEvent) (hasRoom : state.hasRoom event = true)
      (both : state.IsAccounted ∧ state.NoneLocked) :
      (state.next event).IsAccounted ∧ (state.next event).NoneLocked :=
    ⟨AttemptsState.isAccounted_next hasRoom both.1,
      AttemptsState.noneLocked_next hasRoom both.1 both.2⟩
  have always := forall_mem_states_of_stepsMeet keeps initially met
  intro reached isReached
  obtain ⟨isAccounted, noneLocked⟩ := always reached isReached
  exact ⟨fun subject => (isAccounted subject).windows, noneLocked⟩

/-! ## Six codes at once -/

namespace Sample

def adaLogin : AttemptSubject :=
  ⟨"ada", .login⟩

def fails : List AttemptEvent :=
  [.evaluate adaLogin false, .settle adaLogin .wrong .failure]

def sixAtOnce : List AttemptEvent :=
  List.replicate 6 (.start adaLogin) ++ (List.replicate 6 fails).flatten

def oneWrongCode : List AttemptEvent :=
  .start adaLogin :: fails

end Sample

open Sample

theorem atMostMaxFailures_oneWrongCode :
    wrongSince adaLogin (final AttemptsState.next (.initial 0) oneWrongCode).log =
        [0] ∧ ∀ reached ∈ states AttemptsState.next (.initial 0) oneWrongCode,
        (∀ subject, AtMostMaxFailures (wrongSince subject reached.log)) ∧ reached.NoneLocked := by
  constructor
  · decide +kernel
  · exact atMostMaxFailures_of_hasRoom ⟨by decide +kernel, by decide, by decide, trivial⟩

/-- Six wrong codes are evaluated in one window, the last of them under the lock. -/
theorem sixAtOnce_not_atMostMaxFailures :
    ∃ reached ∈ states AttemptsState.next (.initial 0) sixAtOnce,
      ¬ AtMostMaxFailures (wrongSince adaLogin reached.log) ∧ ¬ reached.NoneLocked := by
  refine ⟨_, final_mem_states AttemptsState.next (.initial 0) sixAtOnce, ?_, ?_⟩
  · intro atMost
    have noMore := atMost 0
    have sixWrong : wrongSince adaLogin
        (final AttemptsState.next (.initial 0) sixAtOnce).log = [0, 0, 0, 0, 0, 0] := by
      decide +kernel
    rw [sixWrong] at noMore
    exact absurd noMore (by decide)
  · intro noneLocked
    have underLock : .evaluated adaLogin 0 false twoFactorLockMs ∈
        (final AttemptsState.next (.initial 0) sixAtOnce).log := by
      decide +kernel
    exact absurd (noneLocked _ _ _ _ underLock) (by decide)

end Csms.Auth
