import ObservabilityLab.Reference.FlightBooking

/-!
# The inventory of the flights

The seats of a flight are available, or a held or confirmed booking has them. A hold moves a seat
from the flight to a booking; a cancellation takes it from the booking and does not give it back.

## Main definitions

* `Ledger`, `Ledger.replay`: what the recorded mutations speak of, and their replay
* `Conserved`: in every run of some calls the inventory is conserved, and the mutations replay it
* `CancelsSeat`: a call cancels a booking that has a seat

## Main results

* `inventory_hold`, `inventory_cancelled_iff`: what a hold and a cancellation do to the inventory
* `conserved_iff`: the inventory is conserved exactly when no seat is cancelled
-/

namespace ObservabilityLab.Reference

open Python Refinement

/-! ## The ledger -/

/-- A booking, as the mutations speak of it. -/
structure LedgerBooking where
  pnr : String
  flight : String
  status : String

/-- The seats of the flights and the bookings, by their texts, with the flight whose seat was held
until its booking is created. No mutation names a passenger. -/
structure Ledger where
  seats : List (String × String)
  bookings : List LedgerBooking
  seatHeld : Option String := none

/-- The ledger after a mutation, unless another value was there before. -/
def Ledger.apply (ledger : Ledger) (mutation : ReferenceMutation) : Option Ledger :=
  if mutation.resource = "flight" ∧ mutation.field = "seats_available" then
    match ledger.seats.find? (fun row => row.1 = mutation.resourceId) with
    | some (flight, seats) =>
      if seats = mutation.before then
        some { ledger with
          seats := KeyedRows.replace Prod.fst mutation.resourceId (flight, mutation.after)
            ledger.seats
          seatHeld := some flight }
      else none
    | none => none
  else if mutation.resource = "booking" ∧ mutation.field = "created" then
    ledger.seatHeld.map fun flight =>
      { ledger with
        bookings := ledger.bookings ++ [⟨mutation.resourceId, flight, "held"⟩]
        seatHeld := none }
  else if mutation.resource = "booking" ∧ mutation.field = "status" then
    match ledger.bookings.find? (fun row => row.pnr = mutation.resourceId) with
    | some booking =>
      if booking.status = mutation.before then
        some { ledger with
          bookings := KeyedRows.replace LedgerBooking.pnr mutation.resourceId
            { booking with status := mutation.after } ledger.bookings }
      else none
    | none => none
  else none

/-- The ledger after some mutations. -/
def Ledger.replay (ledger : Ledger) (mutations : List ReferenceMutation) : Option Ledger :=
  mutations.foldlM Ledger.apply ledger

theorem Ledger.replay_concat (ledger : Ledger) (mutations : List ReferenceMutation)
    (mutation : ReferenceMutation) :
    ledger.replay (mutations ++ [mutation]) =
      (ledger.replay mutations).bind (·.apply mutation) := by
  simp [Ledger.replay]

/-- A flight in the ledger. -/
def Flight.seatsRow (flight : Flight) : String × String :=
  (flight.id.str, toString flight.seatsAvailable)

/-- A booking in the ledger. -/
def Booking.ledgerRow (booking : Booking) : LedgerBooking where
  pnr := booking.pnr
  flight := booking.flightId.str
  status := booking.status.value

namespace FlightBookingState

/-- The ledger that shows a state. -/
def ledger (state : FlightBookingState) : Ledger where
  seats := state.flights.map Flight.seatsRow
  bookings := state.bookings.map Booking.ledgerRow

/-- The available seats of every flight plus its held and confirmed bookings. -/
def inventory (state : FlightBookingState) : List (Uuid × ℤ) :=
  state.flights.map fun flight =>
    (flight.id, flight.seatsAvailable + activeBookings state.bookings flight.id)

end FlightBookingState

/-- Flights with one identifier have one number of available seats. -/
def SeatsAgree (flights : List Flight) : Prop :=
  ∀ flight ∈ flights, ∀ other ∈ flights, flight.id = other.id →
    flight.seatsAvailable = other.seatsAvailable

/-- The seats of the flights are counted. -/
structure SeatsConsistent (state : FlightBookingState) : Prop where
  available : ∀ flight ∈ state.flights, 0 ≤ flight.seatsAvailable
  agree : SeatsAgree state.flights

/-- No passenger holds too many bookings. -/
def WithinHolds (state : FlightBookingState) : Prop :=
  ∀ passengerId, heldBookings state.bookings passengerId ≤ state.policy.maxHoldsPerPassenger

/-- How the status of a booking moves. -/
inductive StatusMove : BookingStatus → BookingStatus → Prop
  | confirms : StatusMove .held .confirmed
  | cancelsHeld : StatusMove .held .cancelled
  | cancelsConfirmed : StatusMove .confirmed .cancelled

/-- Every booking is still there, and its status stands or moves. -/
def StatusesMove (before after : List Booking) : Prop :=
  ∀ (i : ℕ) (booking : Booking), before[i]? = some booking →
    ∃ moved : Booking, after[i]? = some moved ∧ moved.pnr = booking.pnr ∧
      (moved.status = booking.status ∨ StatusMove booking.status moved.status)

/-- The inventory of a state is the one of the seed, and its mutations replay it. -/
structure Sound (seed state : FlightBookingState) (mutations : List ReferenceMutation) : Prop where
  conserved : state.inventory = seed.inventory
  available : ∀ flight ∈ state.flights, 0 ≤ flight.seatsAvailable
  holds : WithinHolds state
  replayed : seed.ledger.replay mutations = some state.ledger

/-- The PNRs of the bookings. -/
def bookedPnrs (repository : BookingRepository) : List String :=
  repository.state.elim [] fun state => state.bookings.map Booking.pnr

section Runs

variable [UnicodeTables] [FloatRepr] [HashFunctions]

/-- **The inventory is conserved** after every call of a run, and statuses only move forward. -/
structure Conserved (seed : FlightBookingState) (calls : List BookingCall) : Prop where
  sound : ∀ earlier, earlier <+: calls → ∃ state, (afterCalls seed earlier).state = some state ∧
    Sound seed state (afterCalls seed earlier).mutations
  moves : Along BookingCall.perform (seededRepository seed)
    (fun repository call => ∀ before after, repository.state = some before →
      (call.perform repository).state = some after → StatusesMove before.bookings after.bookings)
    calls

/-- A call cancels a held or confirmed booking of a flight. -/
def CancelsSeat (repository : BookingRepository) (call : BookingCall) : Prop :=
  call.tool = .cancel ∧ ∃ state booking, repository.state = some state ∧
    booking ∈ state.bookings ∧ booking.pnr = argumentText call.arguments "pnr" ∧
    booking.status ≠ .cancelled ∧ ∃ flight ∈ state.flights, flight.id = booking.flightId

end Runs

/-! ## What the changes of a state do -/

section Changes

variable {state : FlightBookingState} {flight : Flight} {booking : Booking}

theorem activeBookings_append (bookings : List Booking) (booking : Booking) (flightId : Uuid) :
    activeBookings (bookings ++ [booking]) flightId = activeBookings bookings flightId +
      if booking.flightId = flightId ∧ booking.status ≠ .cancelled then 1 else 0 := by
  rw [activeBookings, List.countP_append, List.countP_singleton, ← activeBookings]
  simp only [Bool.and_eq_true, decide_eq_true_eq]

/-- A booking that replaces another takes its place among the active bookings of its flight. -/
theorem activeBookings_setStatus (hpnrs : (state.bookings.map Booking.pnr).Nodup)
    (hbooking : state.bookings.find? (fun row => row.pnr = booking.pnr) = some booking)
    (status : BookingStatus) (flightId : Uuid) :
    activeBookings (state.setStatus booking status).bookings flightId +
        (if booking.flightId = flightId ∧ booking.status ≠ .cancelled then 1 else 0) =
      activeBookings state.bookings flightId +
        if booking.flightId = flightId ∧ status ≠ .cancelled then 1 else 0 := by
  have hcount := KeyedRows.countP_replace hpnrs hbooking { booking with status := status }
    (fun row => row.flightId = flightId && row.status ≠ .cancelled)
  simp only [Bool.and_eq_true, decide_eq_true_eq] at hcount
  exact hcount

/-- **A hold moves a seat.** -/
theorem inventory_hold (hagree : SeatsAgree state.flights)
    (hflight : state.flights.find? (fun row => row.id = flight.id) = some flight)
    (hflightId : booking.flightId = flight.id) (hheld : booking.status = .held) :
    (state.hold flight booking).inventory = state.inventory := by
  have hmem := (KeyedRows.find?_key hflight).1
  have hactive (flightId : Uuid) : activeBookings (state.hold flight booking).bookings flightId =
      activeBookings state.bookings flightId + if flight.id = flightId then 1 else 0 := by
    rw [FlightBookingState.hold, activeBookings_append, hflightId, hheld]
    simp
  rw [FlightBookingState.inventory, FlightBookingState.inventory]
  simp only [hactive]
  rw [FlightBookingState.hold, KeyedRows.replace, List.map_map]
  apply List.map_congr_left
  intro row hrow
  rw [Function.comp_apply]
  by_cases hid : row.id = flight.id
  · have hseats := hagree row hrow flight hmem hid
    rw [if_pos hid, if_pos rfl, hid, hseats]
    congr 1
    push_cast
    omega
  · rw [if_neg hid, if_neg (Ne.symm hid), Nat.add_zero]

theorem inventory_setStatus_iff (status : BookingStatus) :
    (state.setStatus booking status).inventory = state.inventory ↔ ∀ flight ∈ state.flights,
      activeBookings (state.setStatus booking status).bookings flight.id =
        activeBookings state.bookings flight.id := by
  refine List.map_inj_left.trans (forall₂_congr fun flight _ => ?_)
  rw [Prod.mk.injEq, and_iff_right rfl, add_right_inj, Nat.cast_inj]

/-- A confirmation keeps the seat of its booking. -/
theorem inventory_confirmed (hpnrs : (state.bookings.map Booking.pnr).Nodup)
    (hbooking : state.bookings.find? (fun row => row.pnr = booking.pnr) = some booking)
    (hheld : booking.status = .held) :
    (state.setStatus booking .confirmed).inventory = state.inventory := by
  apply (inventory_setStatus_iff .confirmed).mpr
  intro flight _
  have hcount := activeBookings_setStatus hpnrs hbooking .confirmed flight.id
  rw [hheld] at hcount
  simpa using hcount

/-- **A cancellation keeps the inventory exactly when it takes no seat.** -/
theorem inventory_cancelled_iff (hpnrs : (state.bookings.map Booking.pnr).Nodup)
    (hbooking : state.bookings.find? (fun row => row.pnr = booking.pnr) = some booking) :
    (state.setStatus booking .cancelled).inventory = state.inventory ↔
      ¬ (booking.status ≠ .cancelled ∧ ∃ flight ∈ state.flights, flight.id = booking.flightId) := by
  rw [inventory_setStatus_iff]
  constructor
  · rintro h ⟨hactive, flight, hflight, hid⟩
    have hcount := activeBookings_setStatus hpnrs hbooking .cancelled flight.id
    rw [h flight hflight, if_pos ⟨hid.symm, hactive⟩, if_neg (fun hc => hc.2 rfl)] at hcount
    omega
  · intro h flight hflight
    have hcount := activeBookings_setStatus hpnrs hbooking .cancelled flight.id
    rw [if_neg (fun hactive => h ⟨hactive.2, flight, hflight, hactive.1.symm⟩),
      if_neg (fun hc => hc.2 rfl)] at hcount
    exact hcount

/-! ### Holds -/

theorem withinHolds_hold (h : WithinHolds state)
    (hholds : heldBookings state.bookings booking.passengerId < state.policy.maxHoldsPerPassenger) :
    WithinHolds (state.hold flight booking) := by
  intro passengerId
  have hcount : heldBookings (state.hold flight booking).bookings passengerId =
      heldBookings state.bookings passengerId +
        if booking.passengerId = passengerId ∧ booking.status = .held then 1 else 0 := by
    rw [FlightBookingState.hold, heldBookings, List.countP_append, List.countP_singleton,
      ← heldBookings]
    simp only [Bool.and_eq_true, decide_eq_true_eq]
  rw [hcount, FlightBookingState.hold]
  split_ifs with hown
  · rw [← hown.1]
    exact hholds
  · exact h passengerId

theorem withinHolds_setStatus (hpnrs : (state.bookings.map Booking.pnr).Nodup)
    (hbooking : state.bookings.find? (fun row => row.pnr = booking.pnr) = some booking)
    {status : BookingStatus} (hstatus : status ≠ .held) (h : WithinHolds state) :
    WithinHolds (state.setStatus booking status) := by
  intro passengerId
  have hcount := KeyedRows.countP_replace hpnrs hbooking { booking with status := status }
    (fun row => row.passengerId = passengerId && row.status = .held)
  have hnot : ¬ (decide (booking.passengerId = passengerId) && decide (status = .held)) = true := by
    rw [Bool.and_eq_true, decide_eq_true_eq, decide_eq_true_eq]
    exact fun hown => hstatus hown.2
  rw [if_neg hnot] at hcount
  exact (Nat.le_of_add_right_le hcount.le).trans (h passengerId)

/-! ### Seats -/

theorem seatsConsistent_hold (h : SeatsConsistent state) (hseats : 0 < flight.seatsAvailable) :
    SeatsConsistent (state.hold flight booking) := by
  have hrow : ∀ row ∈ (state.hold flight booking).flights,
      row = { flight with seatsAvailable := flight.seatsAvailable - 1 } ∨
        row ∈ state.flights ∧ row.id ≠ flight.id := by
    intro row hrow
    obtain ⟨before, hbefore, rfl⟩ := List.mem_map.mp hrow
    split_ifs with hid
    · exact Or.inl rfl
    · exact Or.inr ⟨hbefore, hid⟩
  constructor
  · intro row hmem
    rcases hrow row hmem with rfl | ⟨hbefore, -⟩
    · dsimp only
      omega
    · exact h.available row hbefore
  · intro row hmem other hother hid
    rcases hrow row hmem with rfl | ⟨hbefore, hne⟩
    · rcases hrow other hother with rfl | ⟨-, hne⟩
      · rfl
      · exact absurd hid.symm hne
    · rcases hrow other hother with rfl | ⟨hbefore', -⟩
      · exact absurd hid hne
      · exact h.agree row hbefore other hbefore' hid

/-! ### Statuses -/

theorem map_pnr_setStatus (state : FlightBookingState) (booking : Booking)
    (status : BookingStatus) :
    (state.setStatus booking status).bookings.map Booking.pnr = state.bookings.map Booking.pnr :=
  KeyedRows.map_key_replace rfl

theorem statusesMove_refl (bookings : List Booking) : StatusesMove bookings bookings :=
  fun _ booking h => ⟨booking, h, rfl, Or.inl rfl⟩

theorem statusesMove_append (bookings : List Booking) (booking : Booking) :
    StatusesMove bookings (bookings ++ [booking]) := by
  intro i row h
  refine ⟨row, ?_, rfl, Or.inl rfl⟩
  rw [List.getElem?_append_left (List.getElem?_eq_some_iff.mp h).1, h]

theorem statusesMove_setStatus (hpnrs : (state.bookings.map Booking.pnr).Nodup)
    (hbooking : state.bookings.find? (fun row => row.pnr = booking.pnr) = some booking)
    {status : BookingStatus} (hmove : status = booking.status ∨ StatusMove booking.status status) :
    StatusesMove state.bookings (state.setStatus booking status).bookings := by
  intro i row h
  rw [FlightBookingState.setStatus, KeyedRows.replace, List.getElem?_map, h, Option.map_some]
  refine ⟨_, rfl, ?_⟩
  split_ifs with hpnr
  · obtain rfl := KeyedRows.eq_of_key hpnrs hbooking (List.mem_of_getElem? h) hpnr
    exact ⟨rfl, hmove⟩
  · exact ⟨rfl, Or.inl rfl⟩

/-! ### The ledger -/

theorem ledger_hold (hflightId : booking.flightId = flight.id) (hheld : booking.status = .held) :
    (state.hold flight booking).ledger =
      { seats := KeyedRows.replace Prod.fst flight.id.str
          (flight.id.str, toString (flight.seatsAvailable - 1)) state.ledger.seats
        bookings := state.ledger.bookings ++ [⟨booking.pnr, flight.id.str, "held"⟩] } := by
  have hkey (row : Flight) : row.seatsRow.1 = flight.id.str ↔ row.id = flight.id :=
    Uuid.str_injective.eq_iff
  have hseats : (state.hold flight booking).flights.map Flight.seatsRow = _ :=
    KeyedRows.map_replace hkey
  rw [FlightBookingState.ledger, hseats, FlightBookingState.hold, List.map_append,
    List.map_singleton, Booking.ledgerRow, hflightId, hheld]
  rfl

/-- **The mutations of a hold replay it.** -/
theorem replay_hold (hflight : state.flights.find? (fun row => row.id = flight.id) = some flight)
    (hflightId : booking.flightId = flight.id) (hheld : booking.status = .held) :
    (state.ledger.apply (seatHeld flight)).bind (·.apply (bookingHeld booking)) =
      some (state.hold flight booking).ledger := by
  have hkey (row : Flight) : row.seatsRow.1 = flight.id.str ↔ row.id = flight.id :=
    Uuid.str_injective.eq_iff
  have hfind : state.ledger.seats.find? (fun row => row.1 = (seatHeld flight).resourceId) =
      some flight.seatsRow :=
    (KeyedRows.find?_map_view hkey).trans (congrArg (Option.map Flight.seatsRow) hflight)
  have hseat : state.ledger.apply (seatHeld flight) = some
      { seats := KeyedRows.replace Prod.fst flight.id.str
          (flight.id.str, toString (flight.seatsAvailable - 1)) state.ledger.seats
        bookings := state.ledger.bookings
        seatHeld := some flight.id.str } := by
    rw [Ledger.apply, if_pos ⟨rfl, rfl⟩, hfind]
    exact if_pos rfl
  rw [hseat, Option.bind_some, ledger_hold hflightId hheld, Ledger.apply,
    if_neg (by simp [bookingHeld]), if_pos ⟨rfl, rfl⟩]
  rfl

/-- **The mutation of a status replays it.** -/
theorem replay_setStatus
    (hbooking : state.bookings.find? (fun row => row.pnr = booking.pnr) = some booking)
    (status : BookingStatus) (reasonCode : String) :
    state.ledger.apply (statusMutation booking status reasonCode) =
      some (state.setStatus booking status).ledger := by
  have hkey (row : Booking) : row.ledgerRow.pnr = booking.pnr ↔ row.pnr = booking.pnr := Iff.rfl
  have hfind : state.ledger.bookings.find?
      (fun row => row.pnr = (statusMutation booking status reasonCode).resourceId) =
        some booking.ledgerRow :=
    (KeyedRows.find?_map_view hkey).trans (congrArg (Option.map Booking.ledgerRow) hbooking)
  have hbookings : (state.setStatus booking status).ledger.bookings = _ :=
    KeyedRows.map_replace hkey
  rw [Ledger.apply, if_neg (by simp [statusMutation]), if_neg (by simp [statusMutation]),
    if_pos ⟨rfl, rfl⟩, hfind]
  refine (if_pos rfl).trans (congrArg some ?_)
  rw [Ledger.mk.injEq, hbookings]
  exact ⟨rfl, rfl, rfl⟩

end Changes

/-! ## Steps and runs -/

section Steps

variable [UnicodeTables] [FloatRepr] [HashFunctions] {repository after : BookingRepository}
  {call : BookingCall} {calls : List BookingCall} {seed state : FlightBookingState}

omit [UnicodeTables] [FloatRepr] [HashFunctions] in
theorem bookedPnrs_eq (hstate : repository.state = some state) :
    bookedPnrs repository = state.bookings.map Booking.pnr := by
  rw [bookedPnrs, hstate]
  rfl

/-- No booking is forgotten, and none gets another PNR. -/
theorem BookingStep.bookedPnrs_grow (hstep : BookingStep repository call after) :
    bookedPnrs repository <+: bookedPnrs after := by
  cases hstep with
  | stands => exact List.prefix_rfl
  | holds arguments state passengerId flight hstate hflight hseats hholds =>
    rw [bookedPnrs_eq hstate, bookedPnrs_eq rfl, FlightBookingState.hold, List.map_append]
    exact List.prefix_append _ _
  | confirms arguments state booking hstate hbooking hheld =>
    rw [bookedPnrs_eq hstate, bookedPnrs_eq rfl, map_pnr_setStatus]
  | cancels arguments state booking hstate hbooking hpnr =>
    rw [bookedPnrs_eq hstate, bookedPnrs_eq rfl, map_pnr_setStatus]

theorem bookedPnrs_grow (repository : BookingRepository) (calls : List BookingCall) :
    bookedPnrs repository <+: bookedPnrs (calls.foldl BookingCall.perform repository) := by
  induction calls generalizing repository with
  | nil => exact List.prefix_rfl
  | cons call calls ih => exact (perform_step repository call).bookedPnrs_grow.trans (ih _)

/-- Distinct PNRs were distinct before. -/
theorem nodup_bookedPnrs_earlier {earlier : List BookingCall} (h : earlier <+: calls)
    (hpnrs : (bookedPnrs (afterCalls seed calls)).Nodup) :
    (bookedPnrs (afterCalls seed earlier)).Nodup := by
  obtain ⟨later, rfl⟩ := h
  rw [afterCalls, List.foldl_append] at hpnrs
  exact hpnrs.sublist (bookedPnrs_grow _ later).sublist

/-- What one call preserves. -/
structure Kept (seed : FlightBookingState) (repository : BookingRepository)
    (state : FlightBookingState) : Prop where
  holdsState : repository.state = some state
  sound : Sound seed state repository.mutations
  seats : SeatsConsistent state

/-- **A call that cancels no seat keeps the inventory.** -/
theorem BookingStep.kept (hstep : BookingStep repository call after)
    (h : Kept seed repository state) (hpnrs : (bookedPnrs repository).Nodup)
    (hcancels : ¬ CancelsSeat repository call) : ∃ state', Kept seed after state' := by
  have hsome {other : FlightBookingState} (hother : repository.state = some other) :
      other = state := Option.some.inj (hother.symm.trans h.holdsState)
  rw [bookedPnrs_eq h.holdsState] at hpnrs
  cases hstep with
  | stands => exact ⟨state, h⟩
  | holds arguments other passengerId flight hstate hflight hseats hholds =>
    obtain rfl := hsome hstate
    have hconsistent : SeatsConsistent (other.hold flight (newBooking other passengerId flight)) :=
      seatsConsistent_hold h.seats hseats
    refine ⟨_, rfl, ⟨?_, hconsistent.available, withinHolds_hold h.sound.holds hholds, ?_⟩,
      hconsistent⟩
    · exact (inventory_hold h.seats.agree hflight rfl rfl).trans h.sound.conserved
    · rw [Ledger.replay_concat, Ledger.replay_concat, h.sound.replayed, Option.bind_some]
      exact replay_hold hflight rfl rfl
  | confirms arguments other booking hstate hbooking hheld =>
    obtain rfl := hsome hstate
    refine ⟨_, rfl, ⟨?_, h.seats.available, ?_, ?_⟩, ⟨h.seats.available, h.seats.agree⟩⟩
    · exact (inventory_confirmed hpnrs hbooking hheld).trans h.sound.conserved
    · exact withinHolds_setStatus hpnrs hbooking BookingStatus.noConfusion h.sound.holds
    · rw [Ledger.replay_concat, h.sound.replayed, Option.bind_some]
      exact replay_setStatus hbooking .confirmed _
  | cancels arguments other booking hstate hbooking hpnr =>
    obtain rfl := hsome hstate
    have hkept := (inventory_cancelled_iff hpnrs hbooking).mpr fun hseat =>
      hcancels ⟨rfl, other, booking, hstate, (KeyedRows.find?_key hbooking).1, hpnr, hseat⟩
    refine ⟨_, rfl, ⟨?_, h.seats.available, ?_, ?_⟩, ⟨h.seats.available, h.seats.agree⟩⟩
    · exact hkept.trans h.sound.conserved
    · exact withinHolds_setStatus hpnrs hbooking BookingStatus.noConfusion h.sound.holds
    · rw [Ledger.replay_concat, h.sound.replayed, Option.bind_some]
      exact replay_setStatus hbooking .cancelled _

/-- **Statuses only move forward.** -/
theorem BookingStep.statusesMove (hstep : BookingStep repository call after)
    (hpnrs : (bookedPnrs repository).Nodup) {before moved : FlightBookingState}
    (hbefore : repository.state = some before) (hafter : after.state = some moved) :
    StatusesMove before.bookings moved.bookings := by
  have hsome {other : FlightBookingState} (hother : repository.state = some other) :
      other = before := Option.some.inj (hother.symm.trans hbefore)
  rw [bookedPnrs_eq hbefore] at hpnrs
  cases hstep with
  | stands =>
    obtain rfl := hsome hafter
    exact statusesMove_refl _
  | holds arguments other passengerId flight hstate hflight hseats hholds =>
    obtain rfl := hsome hstate
    obtain rfl := Option.some.inj hafter
    exact statusesMove_append _ _
  | confirms arguments other booking hstate hbooking hheld =>
    obtain rfl := hsome hstate
    obtain rfl := Option.some.inj hafter
    apply statusesMove_setStatus hpnrs hbooking
    rw [hheld]
    exact Or.inr .confirms
  | cancels arguments other booking hstate hbooking hpnr =>
    obtain rfl := hsome hstate
    obtain rfl := Option.some.inj hafter
    apply statusesMove_setStatus hpnrs hbooking
    cases booking.status with
    | held => exact Or.inr .cancelsHeld
    | confirmed => exact Or.inr .cancelsConfirmed
    | cancelled => exact Or.inl rfl

omit [UnicodeTables] [FloatRepr] [HashFunctions] in
theorem kept_seeded (hseats : SeatsConsistent seed) (hholds : WithinHolds seed) :
    Kept seed (seededRepository seed) seed :=
  ⟨rfl, ⟨rfl, hseats.available, hholds, rfl⟩, hseats⟩

/-- **A run that cancels no seat keeps the inventory.** -/
theorem kept_afterCalls (hseats : SeatsConsistent seed) (hholds : WithinHolds seed)
    (hpnrs : (bookedPnrs (afterCalls seed calls)).Nodup)
    (hcancels : Along BookingCall.perform (seededRepository seed)
      (fun repository call => ¬ CancelsSeat repository call) calls) :
    ∃ state, Kept seed (afterCalls seed calls) state := by
  induction calls using List.reverseRecOn with
  | nil => exact ⟨seed, kept_seeded hseats hholds⟩
  | append_singleton calls call ih =>
    have hearlier := nodup_bookedPnrs_earlier (List.prefix_append calls [call]) hpnrs
    obtain ⟨hcalls, hcall⟩ := along_concat.mp hcancels
    obtain ⟨state, hkept⟩ := ih hearlier hcalls
    have hstep := perform_step (afterCalls seed calls) call
    rw [afterCalls, List.foldl_concat]
    exact hstep.kept hkept hearlier hcall

/-- A cancellation of a booking that is there. -/
theorem perform_cancel {arguments : Record} {booking : Booking}
    (hstate : repository.state = some state)
    (hbooking : state.bookings.find? (fun row => row.pnr = argumentText arguments "pnr") =
      some booking) :
    (BookingCall.perform repository ⟨.cancel, arguments⟩).state =
      some (state.setStatus booking .cancelled) := by
  change (Raising.finalState
    ((ofExcept _ >>= _ : EStateM PyError BookingRepository String).run repository)).state = _
  rw [finalState_ofExcept_bind, InMemoryReferenceRepository.stateFor, hstate]
  dsimp only
  rw [hbooking]
  rfl

/-- **When the inventory is conserved.** -/
theorem conserved_iff (seed : FlightBookingState) (calls : List BookingCall)
    (hseats : SeatsConsistent seed) (hpnrs : (bookedPnrs (afterCalls seed calls)).Nodup) :
    Conserved seed calls ↔ WithinHolds seed ∧ Along BookingCall.perform (seededRepository seed)
      (fun repository call => ¬ CancelsSeat repository call) calls := by
  constructor
  · rintro ⟨hsound, -⟩
    constructor
    · obtain ⟨state, hstate, hseed⟩ := hsound [] (List.nil_prefix)
      obtain rfl := Option.some.inj hstate
      exact hseed.holds
    · rintro earlier call later rfl ⟨htool, state, booking, hstate, hmem, hpnr, hseat⟩
      obtain ⟨tool, arguments⟩ := call
      obtain rfl : tool = .cancel := htool
      have hdistinct := bookedPnrs_eq hstate ▸
        nodup_bookedPnrs_earlier (List.prefix_append earlier _) hpnrs
      have hbooking := (FirstMatch.find?_key_eq_some hdistinct).mpr ⟨hmem, hpnr⟩
      have hcancelled := perform_cancel hstate hbooking
      -- both states have the inventory of the seed
      obtain ⟨before, hbefore, hearlier⟩ := hsound earlier (List.prefix_append earlier _)
      obtain rfl := Option.some.inj (hstate.symm.trans hbefore)
      obtain ⟨after, hafter, hlater⟩ := hsound (earlier ++ [⟨.cancel, arguments⟩])
        ⟨later, List.append_cons _ _ _ ▸ rfl⟩
      rw [afterCalls, List.foldl_concat, hcancelled] at hafter
      obtain rfl := Option.some.inj hafter
      rw [← hpnr] at hbooking
      exact (inventory_cancelled_iff hdistinct hbooking).mp
        (hlater.conserved.trans hearlier.conserved.symm) hseat
  · rintro ⟨hholds, hcancels⟩
    constructor
    · rintro earlier ⟨later, rfl⟩
      obtain ⟨state, hkept⟩ := kept_afterCalls hseats hholds
        (nodup_bookedPnrs_earlier (List.prefix_append earlier later) hpnrs) hcancels.of_append
      exact ⟨state, hkept.holdsState, hkept.sound⟩
    · rintro earlier call later rfl before after hbefore hafter
      exact (perform_step _ call).statusesMove
        (nodup_bookedPnrs_earlier (List.prefix_append earlier _) hpnrs) hbefore hafter

end Steps

section Examples

attribute [local instance] asciiTables oneDecimalRepr constantHashes

theorem zeroFare_nonNegative : isNonNegative 0 = true := by decide +kernel

/-- A flight with one seat. -/
def smallFlight : Flight where
  id := .repeated 1
  seatsAvailable := 1
  fareUsd := 0
  fareNonNegative := zeroFare_nonNegative

/-- A seed with one flight, where a passenger holds one booking at most. -/
def smallSeed : FlightBookingState where
  flights := [smallFlight]
  bookings := []
  policy := ⟨1, Nat.one_pos⟩

def holdCall : BookingCall where
  tool := .hold
  arguments := [("passenger_id", .uuid (.repeated 2)), ("flight_id", .uuid (.repeated 1))]

def confirmCall : BookingCall where
  tool := .confirm
  arguments := [("pnr", .str "PNR00000000"), ("customer_token", .str gateToken)]

def cancelCall : BookingCall where
  tool := .cancel
  arguments := [("pnr", .str "PNR00000000")]

theorem seatsConsistent_smallSeed : SeatsConsistent smallSeed := by
  constructor
  · intro flight hflight
    obtain rfl := List.mem_singleton.mp hflight
    decide
  · intro flight hflight other hother _
    rw [List.mem_singleton.mp hflight, List.mem_singleton.mp hother]

theorem withinHolds_smallSeed : WithinHolds smallSeed := fun _ => Nat.zero_le _

/-- **A cancellation loses its seat.** -/
theorem not_conserved_cancelled :
    SeatsConsistent smallSeed ∧ WithinHolds smallSeed ∧
      (bookedPnrs (afterCalls smallSeed [holdCall, cancelCall])).Nodup ∧
      ¬ Conserved smallSeed [holdCall, cancelCall] := by
  refine ⟨seatsConsistent_smallSeed, withinHolds_smallSeed, by decide +kernel, ?_⟩
  rintro ⟨hsound, -⟩
  obtain ⟨state, hstate, h⟩ := hsound [holdCall, cancelCall] List.prefix_rfl
  have hlost : (afterCalls smallSeed [holdCall, cancelCall]).state.map
      FlightBookingState.inventory = some [(.repeated 1, 0)] := by decide +kernel
  rw [hstate, Option.map_some, h.conserved] at hlost
  exact absurd hlost (by decide +kernel)

/-- A booking that is held and confirmed keeps the inventory. -/
theorem conserved_confirmed : Conserved smallSeed [holdCall, confirmCall] := by
  refine (conserved_iff smallSeed [holdCall, confirmCall] seatsConsistent_smallSeed
    (by decide +kernel)).mpr ⟨withinHolds_smallSeed, ?_⟩
  rintro earlier call later hsplit ⟨htool, -⟩
  have hmem : call ∈ [holdCall, confirmCall] :=
    hsplit ▸ List.mem_append_right earlier List.mem_cons_self
  rcases List.mem_pair.mp hmem with rfl | rfl
  · cases htool
  · cases htool

end Examples

end ObservabilityLab.Reference
