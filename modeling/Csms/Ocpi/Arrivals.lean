import Csms.Ocpi.Objects
import Csms.Transition.Run

/-!
# The order in which objects arrive

None of the upserts compares the time of a pushed object with the stored one, so what
is stored of an object is what arrived last, whatever its time.
-/

namespace Csms.Ocpi

open Js Transition

/-- A request to one of the endpoints. -/
inductive Upsert where
  | token (payload : TokenUpsert)
  | partnerToken (payload : TokenUpsert)
  | tariff (payload : ObjectUpsert)
  | session (payload : ObjectUpsert)
  | cdr (payload : ObjectUpsert)
  | location (payload : LocationUpsert) (isPatch : Bool)

structure Arrival where
  upsert : Upsert
  now : Int

namespace Arrival

variable (arrival : Arrival)

def handle (objects : Objects) : Except HttpException Objects :=
  match arrival.upsert with
  | .token payload => upsertToken arrival.now objects payload
  | .partnerToken payload => upsertPartnerToken arrival.now objects payload
  | .tariff payload => upsertPartnerTariff arrival.now objects payload
  | .session payload => createSession arrival.now objects payload
  | .cdr payload => createCdr arrival.now objects payload
  | .location payload isPatch => upsertLocation arrival.now objects payload isPatch

/-- The object that arrives. -/
def key : Key :=
  match arrival.upsert with
  | .token payload => .token payload.key
  | .partnerToken payload => .partnerToken payload.partnerKey
  | .tariff payload => .tariff payload.key
  | .session payload => .session payload.key
  | .cdr payload => .cdr payload.key
  | .location payload _ => .location payload.key

def lastUpdated : Int :=
  parseDate arrival.now
    (match arrival.upsert with
    | .token payload | .partnerToken payload => payload.lastUpdated
    | .tariff payload | .session payload | .cdr payload => payload.lastUpdated
    | .location payload _ => payload.lastUpdated)

def sent : JsRecord :=
  match arrival.upsert with
  | .token payload | .partnerToken payload => payload.data
  | .tariff payload | .session payload | .cdr payload => payload.data
  | .location payload _ => payload.data

def valid : Bool :=
  match arrival.upsert with
  | .token payload => payload.isValid
  | _ => true

def data (stored : Option JsValue) : Except HttpException JsValue :=
  match arrival.upsert with
  | .location payload isPatch => locationData payload isPatch stored
  | _ => .ok (.object arrival.sent)

/-- A whole object, not a patch or a part of a location. -/
def IsWhole : Prop :=
  match arrival.upsert with
  | .location payload isPatch => payload.objectType.getD .location = .location ∧ isPatch = false
  | _ => True

theorem handle_eq (objects : Objects) : arrival.handle objects =
      Ocpi.upsert objects arrival.key arrival.data arrival.lastUpdated arrival.valid
        arrival.now := by
  rcases arrival with ⟨_ | _ | _ | _ | _ | _, now⟩ <;> rfl

variable {arrival}

theorem data_of_isWhole (whole : arrival.IsWhole) (stored : Option JsValue) :
    arrival.data stored = .ok (.object arrival.sent) := by
  rcases arrival with ⟨_ | _ | _ | _ | _ | ⟨payload, isPatch⟩, now⟩
  case location =>
    rcases whole with ⟨isLocation, rfl⟩
    rcases stored with _ | existing
    · change (if payload.objectType.getD .location ≠ .location then _ else _) = _
      rw [if_neg (not_not.mpr isLocation)]
      rfl
    · simp only [data, locationData, mergeLocation, isLocation]
      rfl
  all_goals rfl

end Arrival

/-- The tables after a request; one that is turned down leaves them as they are. -/
def next (objects : Objects) (arrival : Arrival) : Objects :=
  match arrival.handle objects with
  | .ok after => after
  | .error _ => objects

/-- The arrivals that are not turned down. -/
def accepted (objects : Objects) : List Arrival → List Arrival
  | [] => []
  | arrival :: arrivals =>
    match arrival.handle objects with
    | .ok after => arrival :: accepted after arrivals
    | .error _ => accepted objects arrivals

def arrivalsOf (objects : Objects) (arrivals : List Arrival) (key : Key) : List Arrival :=
  (accepted objects arrivals).filter fun arrival => arrival.key = key

theorem accepted_append (objects : Objects) (earlier later : List Arrival) :
    accepted objects (earlier ++ later) =
      accepted objects earlier ++ accepted (final next objects earlier) later := by
  induction earlier generalizing objects with
  | nil => rfl
  | cons arrival earlier ih =>
    rw [List.cons_append, accepted, accepted, final, List.foldl_cons, next]
    cases arrival.handle objects with
    | ok after => exact congrArg (arrival :: ·) (ih after)
    | error error => exact ih objects

/-- One more arrival: its object gets its time, and the others stay. -/
theorem find?_next (objects : Objects) (arrival : Arrival) (key : Key) :
    (accepted objects [arrival] = [] ∧ next objects arrival = objects) ∨
      accepted objects [arrival] = [arrival] ∧
        ∃ stored, arrival.data ((objects.find? arrival.key).map PartnerObject.data) = .ok stored ∧
          (next objects arrival).find? key =
            if key = arrival.key then
              some ⟨arrival.key, stored, arrival.lastUpdated, arrival.valid, arrival.now⟩
            else objects.find? key := by
  rcases outcome : arrival.data ((objects.find? arrival.key).map PartnerObject.data) with
    error | stored
  · left
    have refused := arrival.handle_eq objects
    rw [upsert_of_error outcome] at refused
    simp [accepted, next, refused]
  · right
    rcases @upsert_of_ok objects arrival.key arrival.lastUpdated arrival.now arrival.valid _ _
      outcome with ⟨after, isAfter, rows⟩
    rw [← arrival.handle_eq objects] at isAfter
    refine ⟨by simp [accepted, isAfter], stored, rfl, ?_⟩
    rw [next, isAfter]
    exact rows key

/-- The row is what an arrival wrote. -/
structure Arrival.IsStored (arrival : Arrival) (object : PartnerObject) : Prop where
  key : object.key = arrival.key
  lastUpdated : object.lastUpdated = arrival.lastUpdated
  valid : object.valid = arrival.valid
  data : arrival.IsWhole → object.data = .object arrival.sent

theorem find?_final (objects : Objects) (arrivals : List Arrival) (key : Key) :
    ((arrivalsOf objects arrivals key).getLast? = none ∧
        (final next objects arrivals).find? key = objects.find? key) ∨
      ∃ last object, (arrivalsOf objects arrivals key).getLast? = some last ∧
        (final next objects arrivals).find? key = some object ∧ last.IsStored object := by
  induction arrivals using List.reverseRecOn with
  | nil => exact Or.inl ⟨rfl, rfl⟩
  | append_singleton earlier arrival ih =>
    have final_append : final next objects (earlier ++ [arrival]) =
        next (final next objects earlier) arrival :=
      List.foldl_append
    rw [final_append, arrivalsOf, accepted_append, List.filter_append]
    rcases find?_next (final next objects earlier) arrival key with
      ⟨refused, same⟩ | ⟨isAccepted, stored, isStored, row⟩
    · rw [refused, same, List.filter_nil, List.append_nil]
      exact ih
    · rw [isAccepted, row]
      by_cases isKey : key = arrival.key
      · right
        refine ⟨arrival, _, ?_, if_pos isKey, rfl, rfl, rfl, ?_⟩
        · simp [isKey]
        · intro whole
          rw [Arrival.data_of_isWhole whole] at isStored
          exact (Except.ok.inj isStored).symm
      · rw [if_neg isKey]
        have other : [arrival].filter (fun arrival => arrival.key = key) = [] := by
          simp [Ne.symm isKey]
        rw [other, List.append_nil]
        exact ih

/-- However the upserts of an object arrive, the one that arrives last is stored,
with its time and, unless it is a patch or a part of a location, its data.  So the
stored object is the one with the greatest time exactly when that one is the last
to arrive. -/
theorem stored_is_last_arrival (objects : Objects) (arrivals : List Arrival) (key : Key) :
    ((final next objects arrivals).find? key).map PartnerObject.lastUpdated =
        ((arrivalsOf objects arrivals key).getLast?.map Arrival.lastUpdated).or
          ((objects.find? key).map PartnerObject.lastUpdated) ∧
      ∀ last ∈ (arrivalsOf objects arrivals key).getLast?,
        (∃ object ∈ (final next objects arrivals).find? key, last.IsStored object) ∧
          ((∃ object ∈ (final next objects arrivals).find? key,
              ∀ arrival ∈ arrivalsOf objects arrivals key,
                arrival.lastUpdated ≤ object.lastUpdated) ↔
            ∀ arrival ∈ arrivalsOf objects arrivals key,
              arrival.lastUpdated ≤ last.lastUpdated) := by
  rcases find?_final objects arrivals key with ⟨isNone, same⟩ | ⟨last, object, isLast, row, isStored⟩
  · rw [isNone, same]
    refine ⟨rfl, ?_⟩
    intro last isLast
    cases isLast
  · rw [isLast, row]
    refine ⟨congrArg some isStored.lastUpdated, ?_⟩
    intro other isOther
    cases isOther
    refine ⟨⟨object, rfl, isStored⟩, ?_⟩
    rw [← isStored.lastUpdated]
    constructor
    · rintro ⟨_, ⟨⟩, greatest⟩
      exact greatest
    · intro greatest
      exact ⟨object, rfl, greatest⟩

namespace Sample

def tariffAt (lastUpdated : Int) : Arrival where
  upsert := .tariff ⟨"DE", "ABC", "tariff", none, JsRecord.empty, some (some lastUpdated)⟩
  now := 5000

end Sample

open Sample

/-- Of two versions of a tariff, the older one is stored when it arrives last. -/
theorem older_version_overwrites :
    ¬ ∀ (objects : Objects) (versions order : List Arrival) (key : Key),
      order.Perm versions → (∀ version ∈ versions, version.key = key) →
      ∀ version ∈ versions, ∃ object ∈ (final next objects order).find? key,
        version.lastUpdated ≤ object.lastUpdated := by
  intro greatest
  rcases greatest Table.empty [tariffAt 1000, tariffAt 2000]
    [tariffAt 2000, tariffAt 1000] (tariffAt 0).key (List.Perm.swap _ _ _)
    (by simp [tariffAt, Arrival.key, ObjectUpsert.key]) (tariffAt 2000) (by simp)
    with ⟨object, isStored, le⟩
  have older : ((final next Table.empty [tariffAt 2000, tariffAt 1000]).find?
      (tariffAt 0).key).map PartnerObject.lastUpdated = some 1000 := by
    decide +kernel
  rw [Option.mem_def.mp isStored, Option.map_some] at older
  rw [Option.some.inj older] at le
  exact absurd le (by decide)

end Csms.Ocpi
