import Csms.Database.Duty
import Csms.Tariffs.Calendars

/-!
# One active calendar for each scope

A request that puts a calendar in force takes its siblings out of force in its next
statement.  When all requests have finished, what is in force in a scope was decided by
the last of these second statements: exactly one calendar, if the calendar that it was
executed for was still in force, and none otherwise.
-/

namespace Csms.Tariffs

open Database

/-- The database with the sessions of tariff requests. -/
abbrev TariffState :=
  ReadCommitted Store Unit TariffQuery TariffWrite TariffWrite.Result HttpException TariffAction
    TariffCalendar

/-- What can be reached from a store when no request has arrived. -/
def TariffState.Reachable (conditions : Conditions Store TariffQuery TariffWrite TariffAction)
    (store : Store) : TariffState → Prop :=
  ReadCommitted.Reachable TariffWrite.body TariffAction.program conditions
    (ReadCommitted.initial store)

/-- All requests have been answered, or were refused before they wrote anything. -/
def TariffState.Finished (state : TariffState) : Prop :=
  ∀ (id : Nat) connection, state.sessions[id]? = some connection →
    (∃ calendar, connection.progress = .outside (.answer calendar)) ∨
      (∃ error, connection.progress = .outside (.throw error)) ∧ state.shared.labelsOf id = []

/-- What is to follow a write that puts a calendar in force. -/
def TariffWrite.duty : (write : TariffWrite) → write.Result → Option TariffWrite
  | .activate .., active => some (.demoteSiblings active)
  | .create row, created =>
    if row.status = .active then some (.demoteSiblings created) else none
  | .demoteSiblings _, _ => none

section Programs

variable {allowed : TariffWrite → Prop}

theorem transacts_getCalendar (call : TariffCall) (id : String) :
    (getCalendar call id).Transacts allowed :=
  (transacts_ofExcept _).bind fun _ =>
    (transacts_read _ _).bind fun _ => transacts_ofExcept _

theorem transacts_loadCalendarOrThrow (id tenantId : String) :
    (loadCalendarOrThrow id tenantId).Transacts allowed :=
  (transacts_read _ _).bind fun _ => transacts_ofExcept _

theorem transacts_assertSiteBelongsToTenant (siteId : Option String) (tenantId : String) :
    (assertSiteBelongsToTenant siteId tenantId).Transacts allowed := by
  cases siteId with
  | some siteId => exact (transacts_read _ _).bind fun _ => transacts_ofExcept _
  | none => exact transacts_pure ()

theorem transacts_versionOf (scope : Scope) (draft : CalendarDraft) :
    (versionOf scope draft).Transacts allowed := by
  unfold versionOf
  split
  · exact transacts_pure _
  · exact (transacts_read _ _).bind fun _ => transacts_pure _

theorem dutiful_activateCalendar (call : TariffCall) (id : String) :
    (activateCalendar call id).Dutiful TariffWrite.duty := by
  refine (transacts_ofExcept _).dutiful_bind fun tenantId => ?_
  refine (transacts_loadCalendarOrThrow id tenantId).dutiful_bind fun current => ?_
  exact dutiful_commit_bind_commit (fun _ => rfl) (fun _ _ => rfl) fun active _ =>
    (transacts_getCalendar call active.id).dutiful

theorem dutiful_createCalendar (call : TariffCall) (input : Js.JsRecord) :
    (createCalendar call input).Dutiful TariffWrite.duty := by
  refine (transacts_ofExcept _).dutiful_bind fun tenantId => ?_
  refine (transacts_assertSiteBelongsToTenant _ tenantId).dutiful_bind fun _ => ?_
  refine (transacts_ofExcept _).dutiful_bind fun draft => ?_
  refine (transacts_versionOf _ draft).dutiful_bind fun version => ?_
  by_cases isActive : draft.status = .active
  · simp only [isActive, if_true]
    exact dutiful_commit_bind_commit (fun _ => if_pos isActive) (fun _ _ => rfl)
      fun created _ => (transacts_getCalendar call created.id).dutiful
  · simp only [isActive, if_false]
    exact (Request.transacts_commit _ fun _ => if_neg isActive).dutiful_bind fun created =>
      (transacts_getCalendar call created.id).dutiful

theorem TariffAction.dutiful (action : TariffAction) : action.program.Dutiful TariffWrite.duty := by
  cases action with
  | activate call id => exact dutiful_activateCalendar call id
  | create call input => exact dutiful_createCalendar call input

end Programs

/-- In a finished run, every calendar that was put in force has had its siblings taken
out of force. -/
theorem TariffState.Finished.done {conditions : Conditions Store TariffQuery TariffWrite TariffAction}
    {store : Store} {state : TariffState} (finished : state.Finished)
    (reachable : state.Reachable conditions store) {earlier later : List (Commit Store TariffWrite)}
    {commit : Commit Store TariffWrite} (isCommit : state.shared.commits = earlier ++ commit :: later)
    {result : commit.label.Result}
    (run : commit.label.body.run commit.before = some (commit.after, result)) {next : TariffWrite}
    (isDuty : commit.label.duty result = some next) : ∃ other ∈ later, other.label = next := by
  have member : commit ∈ state.shared.commits := by
    rw [isCommit]
    exact List.mem_append_right _ List.mem_cons_self
  rcases ReadCommitted.Reachable.session_of_commit TariffWrite.guarded reachable member with
    ⟨⟨request, arrived, progress⟩, found⟩
  rcases finished _ _ found with ⟨calendar, answered⟩ | ⟨_, nothing⟩
  · cases answered
    have keeps := (ReadCommitted.Reachable.abstract TariffWrite.guarded reachable).keepsDuties
      TariffAction.dutiful
    rcases keeps.done isCommit run isDuty (ReadCommitted.abstract_getElem? found) with
      ⟨other, isLater, _, isNext⟩
    exact ⟨other, isLater, isNext⟩
  · have isLabel := Shared.mem_labelsOf.mpr ⟨commit, member, rfl, rfl⟩
    rw [nothing] at isLabel
    exact absurd isLabel List.not_mem_nil

/-- The statement takes siblings of a calendar of the scope out of force. -/
def TariffWrite.demotesIn (scope : Scope) : TariffWrite → Bool
  | .demoteSiblings active => active.toScope = scope
  | _ => false

/-- Writes that neither put a calendar of the scope in force nor take one out of force. -/
theorem TariffWrite.isActive_unchanged {write : TariffWrite} {scope : Scope} {store after : Store}
    {result : write.Result} (run : write.body.run store = some (after, result))
    (isOther : write.demotesIn scope = false)
    (noDuty : ∀ next, write.duty result = some next → next.demotesIn scope = false) :
    after.IsActive scope = store.IsActive scope := by
  funext id
  apply propext
  cases write with
  | activate calendarId approvedBy approvedAt =>
    have otherScope := of_decide_eq_false (noDuty _ rfl)
    exact ((isActive_activate run).2 scope id).trans (or_iff_left fun new => otherScope new.2)
  | create row =>
    rcases isActive_create run with ⟨isRow, changes⟩
    refine (changes scope id).trans (or_iff_left ?_)
    rintro ⟨_, ofScope, isActive⟩
    have otherScope := of_decide_eq_false (noDuty _ (if_pos isActive))
    rw [isRow] at otherScope
    exact otherScope ofScope
  | demoteSiblings active =>
    have otherScope := of_decide_eq_false isOther
    exact (isActive_demoteSiblings run scope id).trans
      (and_iff_left fun sameScope => absurd sameScope otherScope)

/-- The last commit that took siblings out of force in the scope. -/
def lastDemotion (scope : Scope) (commits : List (Commit Store TariffWrite)) :
    Option (Commit Store TariffWrite) :=
  commits.reverse.find? fun commit => commit.label.demotesIn scope

/-- When siblings were last taken out of force in the scope, the calendar for which that
was done was itself in force; if that was never done, one calendar was in force from the
beginning. -/
def LastStands (store : Store) (scope : Scope) (commits : List (Commit Store TariffWrite)) : Prop :=
  match lastDemotion scope commits with
  | some ⟨_, .demoteSiblings active, before, _⟩ => before.IsActive scope active.id
  | _ => ∃! id, store.IsActive scope id

section Finished

variable {conditions : Conditions Store TariffQuery TariffWrite TariffAction} {store : Store}
  {state : TariffState}

/-- After the last demotion, nothing changes in the scope. -/
theorem isActive_unchanged_of_last (reachable : state.Reachable conditions store)
    (finished : state.Finished) {scope : Scope} {earlier later : List (Commit Store TariffWrite)}
    (isCommits : state.shared.commits = earlier ++ later)
    (others : ∀ commit ∈ later, commit.label.demotesIn scope = false) :
    ∀ commit ∈ later, commit.after.IsActive scope = commit.before.IsActive scope := by
  intro commit member
  rcases List.append_of_mem member with ⟨before, rest, rfl⟩
  rw [← List.append_assoc] at isCommits
  have isIn : commit ∈ state.shared.commits := by
    rw [isCommits]
    exact List.mem_append_right _ List.mem_cons_self
  rcases ReadCommitted.Reachable.commit_run TariffWrite.guarded reachable commit isIn with
    ⟨result, run⟩
  apply TariffWrite.isActive_unchanged run (others commit member)
  intro next isDuty
  rcases finished.done reachable isCommits run isDuty with ⟨other, isLater, rfl⟩
  exact others other (List.mem_append_right _ (List.mem_cons_of_mem _ isLater))

/-- Of all calendars of the scope, only the one for which siblings were last taken out of
force can be in force. -/
theorem isActive_iff_of_lastDemotion (reachable : state.Reachable conditions store)
    (finished : state.Finished) {scope : Scope} {session : Nat} {active : TariffCalendar}
    {before after : Store} (last : lastDemotion scope state.shared.commits =
      some ⟨session, .demoteSiblings active, before, after⟩) (id : String) :
    state.shared.store.IsActive scope id ↔ before.IsActive scope id ∧ id = active.id := by
  rcases find?_reverse_eq_some_iff.mp last with ⟨isDemotion, earlier, later, isCommits, others⟩
  have shows := (ReadCommitted.Reachable.abstract TariffWrite.guarded reachable).showsLast
    (Store.IsActive · scope)
  have isSplit : state.shared.commits =
      (earlier ++ [⟨session, .demoteSiblings active, before, after⟩]) ++ later := by
    rw [isCommits, List.append_assoc, List.singleton_append]
  have sinceLast : state.shared.store.IsActive scope = after.IsActive scope :=
    shows.2 earlier _ later isCommits (isActive_unchanged_of_last reachable finished isSplit others)
  have isIn : (⟨session, .demoteSiblings active, before, after⟩ : Commit Store TariffWrite) ∈
      state.shared.commits := by
    rw [isCommits]
    exact List.mem_append_right _ List.mem_cons_self
  rcases ReadCommitted.Reachable.commit_run TariffWrite.guarded reachable _ isIn with ⟨result, run⟩
  have sameScope : active.toScope = scope := of_decide_eq_true isDemotion
  rw [congrFun sinceLast id, TariffWrite.isActive_demoteSiblings run scope id]
  exact and_congr_right fun _ => ⟨fun isItself => isItself sameScope, fun isItself _ => isItself⟩

/-- When all activations and creations have finished, exactly one calendar of the scope
is in force if and only if the last one to take its siblings out of force had not been
taken out of force itself. -/
theorem exactly_one_active_iff (reachable : state.Reachable conditions store)
    (finished : state.Finished) (scope : Scope) : (∃! id, state.shared.store.IsActive scope id) ↔
      LastStands store scope state.shared.commits := by
  rcases isLast : lastDemotion scope state.shared.commits with _ | ⟨session, label, before, after⟩
  · have others : ∀ commit ∈ state.shared.commits, commit.label.demotesIn scope = false := by
      intro commit member
      simpa using List.find?_eq_none.mp isLast commit (List.mem_reverse.mpr member)
    have shows := (ReadCommitted.Reachable.abstract TariffWrite.guarded reachable).showsLast
      (Store.IsActive · scope)
    have sinceStart : state.shared.store.IsActive scope = store.IsActive scope :=
      shows.1 (isActive_unchanged_of_last reachable finished (List.nil_append _).symm others)
    rw [LastStands, isLast]
    exact iff_of_eq (congrArg ExistsUnique sinceStart)
  · cases label with
    | demoteSiblings active =>
      have isActive := isActive_iff_of_lastDemotion reachable finished isLast
      rw [LastStands, isLast]
      constructor
      · rintro ⟨id, stays, _⟩
        obtain ⟨stands, rfl⟩ := (isActive id).mp stays
        exact stands
      · intro stands
        exact ⟨active.id, (isActive active.id).mpr ⟨stands, rfl⟩,
          fun id stays => ((isActive id).mp stays).2⟩
    | activate | create =>
      exact absurd (find?_reverse_eq_some_iff.mp isLast).1 Bool.false_ne_true

end Finished

namespace Sample

def engine : Js.Engine where
  localeCompare _ _ := 0
  parseDateText _ := none
  coerceNumber _ := .nan

def draft (id : String) : TariffCalendar where
  tenantId := "tenant"
  siteId := none
  id := id
  name := id
  version := 1
  currency := "USD"
  timezone := "UTC"
  status := .draft
  effectiveFrom := 0
  effectiveTo := none
  bands := []
  metadata := none
  createdBy := none
  approvedBy := none
  approvedAt := none

def store : Store where
  calendars := ⟨[draft "summer", draft "winter"], by decide⟩
  sites := Table.empty

def call : TariffCall where
  engine := engine
  context := some ⟨some "tenant", none⟩
  actorId := none
  newId := "new"
  now := 0
  approvedAt := 0

def after (events : List (DatabaseEvent TariffAction)) : Option TariffState :=
  events.foldlM (ReadCommitted.next TariffWrite.body TariffAction.program Conditions.none)
    (ReadCommitted.initial store)

def activates (id : Nat) (calendarId : String) : List (DatabaseEvent TariffAction) :=
  [.arrive (.activate call calendarId), .query id, .begin id, .statement id, .commit id]

def demotes (id : Nat) : List (DatabaseEvent TariffAction) :=
  [.begin id, .statement id, .commit id, .query id]

def isAnswered (connection : Connection Store Unit TariffQuery TariffWrite TariffWrite.Result
    HttpException TariffAction TariffCalendar) : Bool :=
  match connection.progress with
  | .outside (.answer _) => true
  | _ => false

def summary (state : TariffState) : List Bool × List (String × CalendarStatus) :=
  (state.sessions.map isAnswered,
    state.shared.store.calendars.rows.map fun calendar => (calendar.id, calendar.status))

theorem finished_of_summary {state : TariffState}
    (answered : (summary state).1.all (· = true) = true) : state.Finished := by
  intro id connection found
  have isAnswered : isAnswered connection = true := by
    have all := List.all_eq_true.mp answered _
      (List.mem_map_of_mem (List.mem_of_getElem? found))
    exact of_decide_eq_true all
  rw [Sample.isAnswered] at isAnswered
  split at isAnswered
  · rename_i calendar progress
    exact Or.inl ⟨calendar, progress⟩
  · contradiction

end Sample

open Sample

/-- One activation after the other. -/
theorem exactly_one_active_iff_serial : ∃ state : TariffState,
      summary state = ([true, true], [("summer", .draft), ("winter", .active)]) ∧
        ((∃! id, state.shared.store.IsActive ⟨"tenant", none⟩ id) ↔
          LastStands store ⟨"tenant", none⟩ state.shared.commits) := by
  have run : (after (activates 0 "summer" ++ demotes 0 ++
      activates 1 "winter" ++ demotes 1)).map summary =
        some ([true, true], [("summer", .draft), ("winter", .active)]) := by
    decide +kernel
  rcases Option.map_eq_some_iff.mp run with ⟨state, reached, same⟩
  exact ⟨state, same, exactly_one_active_iff (Transition.reachable_of_foldlM reached)
    (finished_of_summary (by rw [same]; rfl)) _⟩

/-- Two activations that demote each other leave no calendar in force. -/
theorem activations_demote_each_other :
    ∃ state : TariffState, state.Reachable Conditions.none store ∧ state.Finished ∧
      summary state = ([true, true], [("summer", .draft), ("winter", .draft)]) ∧
      ¬ ∃ id, state.shared.store.IsActive ⟨"tenant", none⟩ id := by
  have run : (after (activates 0 "summer" ++ activates 1 "winter" ++
      demotes 0 ++ demotes 1)).map summary =
        some ([true, true], [("summer", .draft), ("winter", .draft)]) := by
    decide +kernel
  rcases Option.map_eq_some_iff.mp run with ⟨state, reached, same⟩
  refine ⟨state, Transition.reachable_of_foldlM reached,
    finished_of_summary (by rw [same]; rfl), same, ?_⟩
  rintro ⟨id, calendar, found, _, isActive⟩
  have listed : (calendar.id, CalendarStatus.active) ∈ (summary state).2 := by
    rw [← isActive]
    exact List.mem_map_of_mem (Table.find?_eq_some_iff.mp found).1
  rw [same] at listed
  simp at listed

end Csms.Tariffs
