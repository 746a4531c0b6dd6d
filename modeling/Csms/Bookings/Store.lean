import Csms.Commands.Enqueue.Requests
import Csms.Database.Part

/-!
# The stored bookings

The store of commands is a part of the store of bookings.  A booking has columns that
commands reach, which are in that part, and columns that only the booking service uses,
in a table of their own under the same id.  Columns that nothing reads, and what history
rows of bookings say in detail, are left out.
-/

namespace Csms.Bookings

open Database
open Commands (Booking EnqueueWrite)

inductive BookingStatus where
  | pending
  | confirmed
  | cancelled
  | noShow
  | expired
  deriving DecidableEq

def BookingStatus.text : BookingStatus → String
  | pending => "PENDING"
  | confirmed => "CONFIRMED"
  | cancelled => "CANCELLED"
  | noShow => "NO_SHOW"
  | expired => "EXPIRED"

/-- The statuses that `assertMutableStatus` refuses. -/
def isTerminalStatus (status : String) : Bool :=
  status = "CANCELLED" ∨ status = "NO_SHOW" ∨ status = "EXPIRED"

/-- The columns of a booking that commands do not reach. -/
structure BookingDetails where
  (id userId stationId : String)
  (chargePointId reservationSource : Option String)
  (startTime endTime : Int)
  customerRefSnapshot : Option String
  (checkedInAt noShowAt expiredAt : Option Int)
  deriving DecidableEq

/-- All columns of a booking. -/
structure BookingRow where
  booking : Booking
  details : BookingDetails

/-- `data` of a new booking, with the columns that the database sets. -/
structure NewBooking where
  (id userId stationId chargePointId : String)
  reservationId : Int
  reservationSource : String
  (startTime endTime : Int)
  customerRefSnapshot : Option String
  createdAt : Int

def NewBooking.booking (new : NewBooking) : Booking where
  id := new.id
  reservationId := some new.reservationId
  status := BookingStatus.pending.text
  reservationCommandId := none
  reservationCommandStatus := none
  reservationCommandUpdatedAt := none
  commandCorrelationId := none
  cancelledAt := none
  autoCancelReason := none
  createdAt := new.createdAt

def NewBooking.details (new : NewBooking) : BookingDetails where
  id := new.id
  userId := new.userId
  stationId := new.stationId
  chargePointId := some new.chargePointId
  reservationSource := some new.reservationSource
  startTime := new.startTime
  endTime := new.endTime
  customerRefSnapshot := new.customerRefSnapshot
  checkedInAt := none
  noShowAt := none
  expiredAt := none

/-- `data` of an update by the booking service: the columns that are set. -/
structure BookingPatch where
  status : Option BookingStatus := none
  cancelledAt : Option Int := none
  checkedInAt : Option Int := none
  noShowAt : Option Int := none
  expiredAt : Option Int := none
  autoCancelReason : Option String := none
  startTime : Option Int := none
  endTime : Option Int := none
  reservationCommandId : Option (Option String) := none
  reservationCommandStatus : Option String := none
  reservationCommandUpdatedAt : Option Int := none
  commandCorrelationId : Option String := none

def BookingPatch.apply (patch : BookingPatch) (booking : Booking) : Booking :=
  { booking with
    status := (patch.status.map BookingStatus.text).getD booking.status
    cancelledAt := patch.cancelledAt.or booking.cancelledAt
    autoCancelReason := patch.autoCancelReason.or booking.autoCancelReason
    reservationCommandId := patch.reservationCommandId.getD booking.reservationCommandId
    reservationCommandStatus := patch.reservationCommandStatus.or booking.reservationCommandStatus
    reservationCommandUpdatedAt :=
      patch.reservationCommandUpdatedAt.or booking.reservationCommandUpdatedAt
    commandCorrelationId := patch.commandCorrelationId.or booking.commandCorrelationId }

def BookingPatch.applyDetails (patch : BookingPatch) (details : BookingDetails) : BookingDetails :=
  { details with
    startTime := patch.startTime.getD details.startTime
    endTime := patch.endTime.getD details.endTime
    checkedInAt := patch.checkedInAt.or details.checkedInAt
    noShowAt := patch.noShowAt.or details.noShowAt
    expiredAt := patch.expiredAt.or details.expiredAt }

@[simp]
theorem BookingPatch.id_apply (patch : BookingPatch) (booking : Booking) :
    (patch.apply booking).id = booking.id :=
  rfl

@[simp]
theorem BookingPatch.id_applyDetails (patch : BookingPatch) (details : BookingDetails) :
    (patch.applyDetails details).id = details.id :=
  rfl

/-- A history row of a booking that the booking service writes. -/
structure ServiceEvent where
  (bookingId eventType source : String)
  status : Option String
  deriving DecidableEq

structure ChargePoint where
  (id ocppId stationId : String)

structure Store where
  commands : Commands.Store
  details : Table BookingDetails BookingDetails.id
  events : List ServiceEvent
  chargePoints : List ChargePoint
  users : List String

namespace Store

def commandPart : Part Store Commands.Store where
  get := commands
  put store commands := { store with commands }
  get_put _ _ := rfl
  put_get _ := rfl
  put_put _ _ _ := rfl

def booking? (store : Store) (id : String) : Option Booking :=
  store.commands.bookings.find? id

def row? (store : Store) (id : String) : Option BookingRow :=
  (store.booking? id).bind fun booking =>
    (store.details.find? id).map fun details => ⟨booking, details⟩

/-- `findMany` of `expireOverdue`. -/
def overdue (store : Store) (now : Int) : List String :=
  (store.commands.bookings.rows.filter fun booking =>
    (booking.status = "PENDING" ∨ booking.status = "CONFIRMED") ∧
      (store.details.find? booking.id).any fun details => details.endTime < now).map Booking.id

/-- Both parts of a booking are locked together; other locks are those of commands. -/
def protects : Commands.Store.Lock → Setoid Store
  | .booking id => Setoid.ker fun store => (store.booking? id, store.details.find? id)
  | lock => Setoid.comap commands (Commands.Store.protects lock)

def patched (ids : List String) (patch : BookingPatch) (store : Store) : Store :=
  { store with
    commands :=
      { store.commands with
        bookings := store.commands.bookings.updateWhere (fun booking => booking.id ∈ ids)
          patch.apply patch.id_apply }
    details := store.details.updateWhere (fun details => details.id ∈ ids) patch.applyDetails
      patch.id_applyDetails }

def withBooking (new : NewBooking) (store : Store) : Store :=
  { store with
    commands := { store.commands with bookings := store.commands.bookings.insert new.booking }
    details := store.details.insert new.details }

end Store

/-- A transaction of the database with bookings. -/
abbrev BookingTx (α : Type) :=
  Tx Store Commands.Store.Lock α

inductive BookingWrite where
  /-- A transaction of the worker or of the endpoint for command results. -/
  | commands (write : Commands.Write)
  /-- A statement of the commands service. -/
  | enqueue (write : EnqueueWrite)
  | create (new : NewBooking)
  | update (id : String) (patch : BookingPatch)
  | updateMany (ids : List String) (patch : BookingPatch)
  | recordEvents (events : List ServiceEvent)

namespace BookingWrite

/-- What a transaction hands back. -/
def Result : BookingWrite → Type
  | commands write => write.Result
  | _ => Unit

def body : (write : BookingWrite) → BookingTx write.Result
  | commands write => write.body.onPart Store.commandPart
  | enqueue write => write.body.onPart Store.commandPart
  | create new =>
    .write [.booking new.id]
      (fun store => (store.booking? new.id).isNone && (store.details.find? new.id).isNone)
      (Store.withBooking new) fun _ => .commit ()
  | update id patch =>
    .write [.booking id] (fun store => (store.booking? id).isSome) (Store.patched [id] patch)
      fun _ => .commit ()
  | updateMany ids patch =>
    .write (ids.map Commands.Store.Lock.booking) (fun _ => true) (Store.patched ids patch)
      fun _ => .commit ()
  | recordEvents events =>
    .write [] (fun _ => true) (fun store => { store with events := store.events ++ events })
      fun _ => .commit ()

end BookingWrite

theorem commandPart_shields : Store.commandPart.Shields Commands.Store.protects Store.protects where
  inner := by
    intro lock left right same
    cases lock with
    | booking id => exact congrArg Prod.fst same
    | command id => exact same
    | outbox id => exact same
  outside := by
    intro lock store new same
    cases lock with
    | booking id => exact congrArg (·, store.details.find? id) same
    | command id => exact same
    | outbox id => exact same
  inside := by
    intro lock left right newLeft newRight same sameNew
    cases lock with
    | booking id =>
      have sameDetails : left.details.find? id = right.details.find? id := congrArg Prod.snd same
      exact Prod.ext sameNew sameDetails
    | command id => exact sameNew
    | outbox id => exact sameNew

namespace Store

variable (store : Store)

theorem booking?_patched (ids : List String) (patch : BookingPatch) (id : String) :
    (store.patched ids patch).booking? id =
      (store.booking? id).map fun booking => if id ∈ ids then patch.apply booking else booking := by
  rw [booking?, patched, Table.find?_updateWhere]
  rcases found : store.commands.bookings.find? id with _ | booking
  · rw [booking?, found]
    rfl
  · rw [booking?, found, Option.map_some, Option.map_some, (Table.find?_eq_some_iff.mp found).2]
    simp only [decide_eq_true_eq]

theorem details?_patched (ids : List String) (patch : BookingPatch) (id : String) :
    (store.patched ids patch).details.find? id = (store.details.find? id).map fun details =>
        if id ∈ ids then patch.applyDetails details else details := by
  rw [patched, Table.find?_updateWhere]
  rcases found : store.details.find? id with _ | details
  · rfl
  · rw [Option.map_some, Option.map_some, (Table.find?_eq_some_iff.mp found).2]
    simp only [decide_eq_true_eq]

theorem protects_patched {ids : List String} {id : String} (isOther : id ∉ ids)
    (patch : BookingPatch) : (protects (.booking id)).r (store.patched ids patch) store := by
  have same : ((store.patched ids patch).booking? id, (store.patched ids patch).details.find? id) =
      (store.booking? id, store.details.find? id) := by
    rw [booking?_patched, details?_patched]
    simp [isOther]
  exact same

theorem booking?_withBooking (new : NewBooking) (id : String) :
    (store.withBooking new).booking? id =
      (store.booking? id).or (if new.id = id then some new.booking else none) :=
  Table.find?_insert _ _ _

theorem details?_withBooking (new : NewBooking) (id : String) :
    (store.withBooking new).details.find? id =
      (store.details.find? id).or (if new.id = id then some new.details else none) :=
  Table.find?_insert _ _ _

end Store

theorem guarded_patched {ids : List String} {patch : BookingPatch} {allowed : Store → Bool}
    (locked : ∀ left right, Agree Store.protects (ids.map Commands.Store.Lock.booking) left right →
        allowed left = allowed right) :
    (Tx.write (ids.map Commands.Store.Lock.booking) allowed (Store.patched ids patch)
      fun _ => .commit () : BookingTx Unit).Guarded Store.protects [] := by
  apply Tx.guarded_write (ids.map Commands.Store.Lock.booking) (List.subset_append_left _ [])
  · intro lock notLocked store
    cases lock with
    | booking id =>
      apply store.protects_patched
      exact fun isPatched => notLocked (List.mem_map_of_mem isPatched)
    | command id => rfl
    | outbox id => rfl
  · intro left right agree
    refine ⟨locked left right agree, ?_, rfl⟩
    intro lock isLocked
    rcases List.mem_map.mp isLocked with ⟨id, _, rfl⟩
    have same : (left.booking? id, left.details.find? id) =
        (right.booking? id, right.details.find? id) :=
      agree _ isLocked
    rcases Prod.mk.inj same with ⟨sameBooking, sameDetails⟩
    have changed : ((left.patched ids patch).booking? id,
        (left.patched ids patch).details.find? id) =
          ((right.patched ids patch).booking? id, (right.patched ids patch).details.find? id) := by
      rw [Store.booking?_patched, Store.booking?_patched, Store.details?_patched,
        Store.details?_patched, sameBooking, sameDetails]
    exact changed
  · exact fun _ => trivial

theorem guarded_create (new : NewBooking) :
    (BookingWrite.create new).body.Guarded Store.protects [] := by
  apply Tx.guarded_write [Commands.Store.Lock.booking new.id] (List.subset_append_left _ [])
  · intro lock notLocked store
    cases lock with
    | booking id =>
      have isOther : new.id ≠ id := by
        rintro rfl
        exact notLocked (List.mem_singleton_self _)
      have same : ((store.withBooking new).booking? id, (store.withBooking new).details.find? id) =
          (store.booking? id, store.details.find? id) := by
        rw [Store.booking?_withBooking, Store.details?_withBooking, if_neg isOther,
          if_neg isOther, Option.or_none, Option.or_none]
      exact same
    | command id => rfl
    | outbox id => rfl
  · intro left right agree
    have same : (left.booking? new.id, left.details.find? new.id) =
        (right.booking? new.id, right.details.find? new.id) :=
      agree _ (List.mem_singleton_self _)
    rcases Prod.mk.inj same with ⟨sameBooking, sameDetails⟩
    refine ⟨by rw [sameBooking, sameDetails], ?_, rfl⟩
    intro lock isLocked
    obtain rfl := List.mem_singleton.mp isLocked
    have changed : ((left.withBooking new).booking? new.id,
        (left.withBooking new).details.find? new.id) =
          ((right.withBooking new).booking? new.id,
            (right.withBooking new).details.find? new.id) := by
      rw [Store.booking?_withBooking, Store.booking?_withBooking, Store.details?_withBooking,
        Store.details?_withBooking, sameBooking, sameDetails]
    exact changed
  · exact fun _ => trivial

theorem BookingWrite.guarded (write : BookingWrite) : write.body.Guarded Store.protects [] := by
  cases write with
  | commands write | enqueue write => exact write.guarded.onPart commandPart_shields
  | create new => exact guarded_create new
  | update id patch =>
    apply @guarded_patched [id] patch
    intro left right agree
    have same : (left.booking? id, left.details.find? id) =
        (right.booking? id, right.details.find? id) :=
      agree _ (List.mem_singleton_self _)
    exact congrArg Option.isSome (congrArg Prod.fst same)
  | updateMany ids patch => exact guarded_patched fun _ _ _ => rfl
  | recordEvents events =>
    apply Tx.guarded_write [] (List.nil_subset _)
    · intro lock _ store
      cases lock <;> rfl
    · exact fun left right _ => ⟨rfl, fun lock member => absurd member List.not_mem_nil, rfl⟩
    · exact fun _ => trivial

end Csms.Bookings
