import Csms.Ocpi.Sessions

/-!
# Parties with the same session id

The id of a session is unique for its party only, and the operations on charging
preferences and profiles look a session up by its id alone.  An operation that is
addressed to the session of one party stays with it exactly when the row that was
written last among those with the id is that party's.
-/

namespace Csms.Ocpi

open Js Service

inductive SessionOperation where
  | setChargingPreferences (sessionId : String) (payload : ChargingPreferences)
  | getChargingProfile (sessionId : String)
  | setChargingProfile (payload : JsRecord)
  | clearChargingProfile (payload : JsRecord)
  | chargingProfileResult (payload : JsRecord)
  | activeChargingProfile (payload : JsRecord)

namespace SessionOperation

variable (context : SessionContext)

def handle : SessionOperation → SessionHandler JsRecord
  | .setChargingPreferences sessionId payload =>
    Ocpi.setChargingPreferences context sessionId payload
  | .getChargingProfile sessionId => Ocpi.getChargingProfile context sessionId
  | .setChargingProfile payload => Ocpi.setChargingProfile context payload
  | .clearChargingProfile payload => Ocpi.clearChargingProfile context payload
  | .chargingProfileResult payload => Ocpi.chargingProfileResult context payload
  | .activeChargingProfile payload => Ocpi.activeChargingProfile context payload

/-- The id of the session, unless the request is rejected. -/
def sessionId? : SessionOperation → Option String
  | .setChargingPreferences sessionId _ => orText (some (trim sessionId)) none
  | .getChargingProfile sessionId => orText (some (trim sessionId)) none
  | .setChargingProfile payload =>
    if context.keys (profileOf payload) = [] then none else sessionIdOf payload
  | .clearChargingProfile payload => sessionIdOf payload
  | .chargingProfileResult payload => sessionIdOf payload
  | .activeChargingProfile payload => sessionIdOf payload

/-- The row that the operation finds. -/
def found (operation : SessionOperation) (objects : Objects) : Option PartnerObject :=
  (operation.sessionId? context).bind (newestSession objects)

end SessionOperation

/-- What the handler does from here on: it reads nothing, and of the rows that are
there it changes only the one that was found. -/
structure Settles (handler : SessionHandler JsRecord) (objects : Objects)
    (found : Option PartnerObject) : Prop where
  read : ∀ read, (after handler { objects, read }).read = read
  written : ∀ read, (after handler { objects, read }).written ⊆
    (found.map PartnerObject.key).toList
  kept : ∀ read, ∀ object ∈ objects.rows, found.map PartnerObject.key ≠ some object.key →
    (after handler { objects, read }).objects.find? object.key = some object

/-- The handler reads the row that it finds, and changes no other. -/
structure Touches (handler : SessionHandler JsRecord) (objects : Objects)
    (found : Option PartnerObject) : Prop where
  read : (after handler { objects }).read = (found.map PartnerObject.key).toList
  written : (after handler { objects }).written ⊆ (found.map PartnerObject.key).toList
  kept : ∀ object ∈ objects.rows, found.map PartnerObject.key ≠ some object.key →
    (after handler { objects }).objects.find? object.key = some object

section Touch

variable {objects : Objects} {found : Option PartnerObject}

theorem settles_pure (answer : JsRecord) : Settles (pure answer) objects found where
  read _ := rfl
  written _ := List.nil_subset _
  kept _ _ member _ := Table.find?_eq_some_iff.mpr ⟨member, rfl⟩

theorem settles_updateSession (existing : PartnerObject) (data : JsRecord)
    (lastUpdated writtenAt : Int) (answer : JsRecord) :
    Settles (do updateSession existing data lastUpdated writtenAt; return answer) objects
      (some existing) where
  read _ := rfl
  written _ := List.Subset.refl _
  kept read object member other := by
    change (objects.updateWhere (fun object => object.key = existing.key)
      (fun object =>
        { object with data := .object data, lastUpdated, updatedAt := writtenAt })
      fun _ => rfl).find? object.key = some object
    rw [Table.find?_updateWhere, Table.find?_eq_some_iff.mpr ⟨member, rfl⟩]
    have ne : object.key ≠ existing.key := fun same => other (congrArg some same.symm)
    simp [ne]

theorem settles_createSessionRow (key : ObjectKey) (data : JsRecord) (lastUpdated writtenAt : Int)
    (answer : JsRecord) :
    Settles (do createSessionRow key data lastUpdated writtenAt; return answer) objects none := by
  rcases inserted : objects.insert? ⟨.session key, .object data, lastUpdated, true, writtenAt⟩ with
    _ | grown
  · have refused (read : List Key) :
        after (do createSessionRow key data lastUpdated writtenAt; return answer)
          { objects, read } = { objects, read } := by
      rw [after_bind, createSessionRow]
      simp only [inserted]
    constructor
    · intro read
      rw [refused]
    · intro read
      rw [refused]
      exact List.nil_subset _
    · intro read object member _
      rw [refused]
      exact Table.find?_eq_some_iff.mpr ⟨member, rfl⟩
  · have created (read : List Key) :
        after (do createSessionRow key data lastUpdated writtenAt; return answer)
          { objects, read } = { objects := grown, read } := by
      rw [after_bind, createSessionRow]
      simp only [inserted]
      rfl
    constructor
    · intro read
      rw [created]
    · intro read
      rw [created]
      exact List.nil_subset _
    · intro read object member _
      rw [created]
      have rows := (Table.insert?_eq_some_iff.mp inserted).2
      apply Table.find?_eq_some_iff.mpr
      refine ⟨?_, rfl⟩
      rw [rows]
      exact List.mem_append_left _ member

theorem touches_findSession {sessionId : String}
    {rest : Option PartnerObject → SessionHandler JsRecord}
    (settles : Settles (rest (newestSession objects sessionId)) objects
      (newestSession objects sessionId)) :
    Touches (findSession sessionId >>= rest) objects (newestSession objects sessionId) where
  read := settles.read _
  written := settles.written _
  kept := settles.kept _

theorem touches_throw (error : HttpException) : Touches (throw error) objects none where
  read := rfl
  written := List.nil_subset _
  kept _ member _ := Table.find?_eq_some_iff.mpr ⟨member, rfl⟩

theorem touches_requireSessionId {sessionId : Option String}
    {rest : String → SessionHandler JsRecord} {found : String → Option PartnerObject}
    (touches : ∀ given, sessionId = some given → Touches (rest given) objects (found given)) :
    Touches (orThrow (requireSessionId sessionId) >>= rest) objects (sessionId.bind found) := by
  rcases sessionId with _ | given
  · exact touches_throw _
  · exact touches given rfl

theorem touches_changeSession (context : SessionContext) (payload : JsRecord)
    (missing : String → JsRecord) (fields : JsRecord → List (String × JsValue))
    (answer : String → JsRecord) :
    Touches (changeSession context payload missing fields answer) objects
      ((sessionIdOf payload).bind (newestSession objects)) := by
  apply touches_requireSessionId
  intro sessionId _
  apply touches_findSession
  rcases newestSession objects sessionId with _ | existing
  · exact settles_pure _
  · exact settles_updateSession _ _ _ _ _

end Touch

/-- An operation reads the row that it finds and changes no other. -/
theorem SessionOperation.touches (context : SessionContext) (operation : SessionOperation)
    (objects : Objects) :
    Touches (operation.handle context) objects (operation.found context objects) := by
  cases operation with
  | setChargingPreferences sessionId payload =>
    apply touches_requireSessionId
    intro given _
    apply touches_findSession
    rcases newestSession objects given with _ | existing
    · exact settles_createSessionRow _ _ _ _ _
    · exact settles_updateSession _ _ _ _ _
  | getChargingProfile sessionId =>
    apply touches_requireSessionId
    intro given _
    apply touches_findSession
    rcases newestSession objects given with _ | existing
    · exact settles_pure _
    · exact settles_pure _
  | setChargingProfile payload =>
    by_cases empty : context.keys (profileOf payload) = []
    · have nothing : found context (.setChargingProfile payload) objects =
          (sessionIdOf payload).bind fun _ => none := by
        simp [found, sessionId?, empty]
      rw [nothing]
      apply touches_requireSessionId
      intro given _
      dsimp only
      rw [if_pos empty]
      exact touches_throw _
    · have looksUp : found context (.setChargingProfile payload) objects =
          (sessionIdOf payload).bind (newestSession objects) := by
        rw [found, sessionId?, if_neg empty]
      rw [looksUp]
      apply touches_requireSessionId
      intro given _
      dsimp only
      rw [if_neg empty]
      apply touches_findSession
      rcases newestSession objects given with _ | existing
      · exact settles_createSessionRow _ _ _ _ _
      · exact settles_updateSession _ _ _ _ _
  | clearChargingProfile payload =>
    rw [handle, found, sessionId?, Ocpi.clearChargingProfile]
    apply touches_changeSession
  | chargingProfileResult payload =>
    rw [handle, found, sessionId?, Ocpi.chargingProfileResult]
    apply touches_changeSession
  | activeChargingProfile payload =>
    rw [handle, found, sessionId?, Ocpi.activeChargingProfile]
    apply touches_changeSession

def Key.IsSessionOf (party : Party) (key : Key) : Prop :=
  ∃ session, key = .session session ∧ session.party = party

/-- The handler neither reads nor changes the session of another party. -/
structure Isolated (handler : SessionHandler JsRecord) (objects : Objects) (party : Party) : Prop where
  read : ∀ key ∈ (after handler { objects }).read, key.IsSessionOf party
  written : ∀ key ∈ (after handler { objects }).written, key.IsSessionOf party
  kept : ∀ object ∈ objects.rows, ¬ object.key.IsSessionOf party →
    (after handler { objects }).objects.find? object.key = some object

/-- An operation that is addressed to a party's session stays away from the sessions
of other parties exactly when the row that was written last among those with its id
is the party's. -/
theorem session_isolated_iff (context : SessionContext) (operation : SessionOperation)
    (objects : Objects) (party : Party) : Isolated (operation.handle context) objects party ↔
      ∀ sessionId, operation.sessionId? context = some sessionId →
        ∀ object, newestSession objects sessionId = some object → object.key.IsSessionOf party := by
  have touches := operation.touches context objects
  have isFound : (∀ sessionId, operation.sessionId? context = some sessionId →
      ∀ object, newestSession objects sessionId = some object → object.key.IsSessionOf party) ↔
      ∀ key ∈ ((operation.found context objects).map PartnerObject.key).toList,
        key.IsSessionOf party := by
    rw [SessionOperation.found]
    rcases operation.sessionId? context with _ | sessionId
    · simp
    · simp
  rw [isFound]
  constructor
  · intro isolated
    rw [← touches.read]
    exact isolated.read
  · intro ofParty
    refine ⟨?_, ?_, ?_⟩
    · rw [touches.read]
      exact ofParty
    · intro key member
      exact ofParty key (touches.written member)
    · intro object member other
      apply touches.kept object member
      intro same
      apply other
      apply ofParty
      rw [same]
      exact List.mem_singleton_self _

namespace Sample

def context : SessionContext where
  countryCode := none
  partyId := none
  keys _ := ["chargingProfileId"]
  now := 3000
  writtenAt := 3000

def session (party : Party) (updatedAt : Int) : PartnerObject where
  key := .session ⟨party.countryCode, party.partyId, "session", "2.2.1"⟩
  data := .object JsRecord.empty
  lastUpdated := updatedAt
  valid := true
  updatedAt := updatedAt

def sessions : Objects :=
  ⟨[session ⟨"DE", "ABC"⟩ 1000, session ⟨"FR", "XYZ"⟩ 2000], by decide⟩

def profile : SessionOperation :=
  .setChargingProfile (literal
    [("sessionId", .string "session"), ("countryCode", .string "DE"), ("partyId", .string "ABC"),
      ("chargingProfile", .object (literal [("chargingProfileId", .string "profile")]))])

end Sample

/-- A profile that is set for one party's session is written into the other's. -/
theorem profile_written_to_other_party :
    ¬ ∀ (context : SessionContext) (operation : SessionOperation) (objects : Objects)
      (party : Party) (sessionId : String), operation.sessionId? context = some sessionId →
      (∃ object ∈ objects.rows, ∃ key, object.key = .session key ∧ key.id = sessionId ∧
        key.party = party) → Isolated (operation.handle context) objects party := by
  intro isolated
  have written := (isolated Sample.context Sample.profile Sample.sessions ⟨"DE", "ABC"⟩ "session"
    (by decide +kernel) ⟨Sample.session ⟨"DE", "ABC"⟩ 1000, List.mem_cons_self, _, rfl, rfl, rfl⟩).written
  have ofOther : (after (Sample.profile.handle Sample.context)
      { objects := Sample.sessions }).written = [.session ⟨"FR", "XYZ", "session", "2.2.1"⟩] := by
    decide +kernel
  rcases written _ (by rw [ofOther]; exact List.mem_singleton_self _) with ⟨_, ⟨⟩, isParty⟩
  exact absurd isParty (by decide)

end Csms.Ocpi
