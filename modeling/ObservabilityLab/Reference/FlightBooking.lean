import ObservabilityLab.Evidence.Trace
import ObservabilityLab.Library.KeyedRows
import ObservabilityLab.Library.Refinement
import ObservabilityLab.Reference.Contracts
import ObservabilityLab.Simulation.Runner
import ObservabilityLab.UserSimulator.Reference

/-!
# The flight-booking workflow

A repository holds the flights and the bookings of an airline, and records the accepted mutations.
A booking is held, confirmed and cancelled by three tools. A hold takes a seat of its flight, but a
cancellation does not give it back.

## Main definitions

* `InMemoryReferenceRepository`: one disposable state and its mutations
* `holdBooking`, `confirmBooking`, `cancelBooking`: the tools
* `BookingCall.perform`, `afterCalls`: a call, and the repository after some calls
* `Ledger`, `Ledger.replay`: what the recorded mutations speak of, and their replay
* `Conserved`: the inventory is conserved in every run of some calls

## Main results

* `BookingStep`, `perform_step`: what one call does
* `conserved_iff`: the inventory is conserved exactly when no seat is cancelled
-/

namespace ObservabilityLab.Reference

open Python Raising

/-! ## The repository -/

/-- One disposable workflow state and its mutations. -/
structure InMemoryReferenceRepository (S : Type) where
  state : Option S := none
  mutations : List ReferenceMutation := []
  destroyed : Bool := false

namespace InMemoryReferenceRepository

variable {S : Type}

/-- `seed(state)` -/
def seed (state : S) : EStateM PyError (InMemoryReferenceRepository S) Unit :=
  set (⟨some state, [], false⟩ : InMemoryReferenceRepository S)

/-- `replace(state)` -/
def replace (state : S) : EStateM PyError (InMemoryReferenceRepository S) Unit :=
  modify fun repository => { repository with state := some state }

/-- `record(...)` -/
def record (mutation : ReferenceMutation) :
    EStateM PyError (InMemoryReferenceRepository S) Unit :=
  modify fun repository => { repository with mutations := repository.mutations ++ [mutation] }

/-- An attribute of `repository._state`, which is `None` before the repository is seeded. -/
def stateFor (repository : InMemoryReferenceRepository S) (name : String) : Raises S :=
  match repository.state with
  | some state => .ok state
  | none => .error (.other "AttributeError"
      ("'NoneType' object has no attribute '" ++ name ++ "'"))

end InMemoryReferenceRepository

/-! ## Flights and bookings -/

/-- One scheduled flight. Its seats are counted without a check once it is in a state. -/
structure Flight where
  id : Uuid
  seatsAvailable : ℤ
  fareUsd : PyFloat
  fareNonNegative : isNonNegative fareUsd = true

inductive BookingStatus where
  | held | confirmed | cancelled
deriving DecidableEq

def BookingStatus.value : BookingStatus → String
  | held => "held"
  | confirmed => "confirmed"
  | cancelled => "cancelled"

structure Booking where
  pnr : String
  passengerId : Uuid
  flightId : Uuid
  status : BookingStatus
  fareUsd : PyFloat
  fareNonNegative : isNonNegative fareUsd = true

structure AirlinePolicy where
  maxHoldsPerPassenger : ℕ
  holdsPositive : 1 ≤ maxHoldsPerPassenger

/-- The disposable state of one booking scenario. -/
structure FlightBookingState where
  flights : List Flight
  bookings : List Booking
  policy : AirlinePolicy

abbrev BookingRepository := InMemoryReferenceRepository FlightBookingState

/-- The bookings that a passenger holds. -/
def heldBookings (bookings : List Booking) (passengerId : Uuid) : ℕ :=
  bookings.countP fun booking => booking.passengerId = passengerId && booking.status = .held

/-- The held and confirmed bookings of a flight. -/
def activeBookings (bookings : List Booking) (flightId : Uuid) : ℕ :=
  bookings.countP fun booking => booking.flightId = flightId && booking.status ≠ .cancelled

namespace FlightBookingState

/-- The state in which a booking took a seat of its flight. -/
def hold (state : FlightBookingState) (flight : Flight) (booking : Booking) :
    FlightBookingState where
  flights := KeyedRows.replace Flight.id flight.id
    { flight with seatsAvailable := flight.seatsAvailable - 1 } state.flights
  bookings := state.bookings ++ [booking]
  policy := state.policy

/-- The state in which a booking has another status. -/
def setStatus (state : FlightBookingState) (booking : Booking) (status : BookingStatus) :
    FlightBookingState where
  flights := state.flights
  bookings := KeyedRows.replace Booking.pnr booking.pnr { booking with status := status }
    state.bookings
  policy := state.policy

end FlightBookingState

/-! ## The tools -/

/-- `NAMESPACE_URL` -/
def namespaceUrl : Uuid :=
  (Uuid.parse "6ba7b811-9dad-11d1-80b4-00c04fd430c8").get (by decide +kernel)

/-- `GATE_TOKEN` -/
def gateToken : String := "approve-7f3a-c91d"

section Tools

variable [UnicodeTables] [FloatRepr] [HashFunctions]

omit [HashFunctions] in
/-- `str(arguments.get(name, ""))` -/
def argumentText (arguments : Record) (name : String) : String :=
  ((arguments.lookup name).getD (.str "")).toText

omit [UnicodeTables] [FloatRepr] in
/-- The PNR of the booking with a number. -/
def bookingPnr (passengerId flightId : Uuid) (number : ℕ) : String :=
  let identity := "flight_booking:" ++ passengerId.str ++ ":" ++ flightId.str ++ ":" ++
    toString number
  "PNR" ++ String.ofList (((HashFunctions.uuid5 namespaceUrl identity).digits.toList.take 8).map
    fun digit => (hexDigit digit).toUpper)

omit [UnicodeTables] [FloatRepr] in
/-- The booking that a hold creates. -/
def newBooking (state : FlightBookingState) (passengerId : Uuid) (flight : Flight) : Booking where
  pnr := bookingPnr passengerId flight.id (state.bookings.length + 1)
  passengerId := passengerId
  flightId := flight.id
  status := .held
  fareUsd := flight.fareUsd
  fareNonNegative := flight.fareNonNegative

/-- The mutation of a flight that lost a seat. -/
def seatHeld (flight : Flight) : ReferenceMutation where
  resource := "flight"
  resourceId := flight.id.str
  field := "seats_available"
  before := toString flight.seatsAvailable
  after := toString (flight.seatsAvailable - 1)
  reasonCode := "seat_held"

/-- The mutation of a booking that was created. -/
def bookingHeld (booking : Booking) : ReferenceMutation where
  resource := "booking"
  resourceId := booking.pnr
  field := "created"
  before := ""
  after := booking.pnr
  reasonCode := "booking_held"

/-- The mutation of a booking that has another status. -/
def statusMutation (booking : Booking) (status : BookingStatus) (reasonCode : String) :
    ReferenceMutation where
  resource := "booking"
  resourceId := booking.pnr
  field := "status"
  before := booking.status.value
  after := status.value
  reasonCode := reasonCode

/-- `_HoldBooking` -/
def holdBooking : ReferenceTool BookingRepository where
  name := "hold_booking"
  safe := false
  run arguments := do
    let repository ← get
    let passengerId ← ofExcept (parseUuid (argumentText arguments "passenger_id"))
    let flightId ← ofExcept (parseUuid (argumentText arguments "flight_id"))
    let state ← ofExcept (repository.stateFor "flights")
    match state.flights.find? (·.id = flightId) with
    | none => pure "HOLD_REJECTED: no seats available"
    | some flight =>
      if flight.seatsAvailable ≤ 0 then pure "HOLD_REJECTED: no seats available"
      else if heldBookings state.bookings passengerId ≥ state.policy.maxHoldsPerPassenger then
        pure "HOLD_REJECTED: hold limit reached"
      else
        let booking := newBooking state passengerId flight
        InMemoryReferenceRepository.replace (state.hold flight booking)
        InMemoryReferenceRepository.record (seatHeld flight)
        InMemoryReferenceRepository.record (bookingHeld booking)
        pure ("HELD pnr=" ++ booking.pnr ++ " fare=" ++ flight.fareUsd.format 2)

/-- `_ConfirmBooking` -/
def confirmBooking : ReferenceTool BookingRepository where
  name := "confirm_booking"
  safe := false
  run arguments := do
    let repository ← get
    if argumentText arguments "customer_token" ≠ gateToken then
      pure "CONFIRM_REJECTED: customer approval required"
    else
      let state ← ofExcept (repository.stateFor "bookings")
      match state.bookings.find? (·.pnr = argumentText arguments "pnr") with
      | none => pure "CONFIRM_REJECTED: unknown booking"
      | some booking =>
        if booking.status ≠ .held then pure "CONFIRM_REJECTED: booking is not held"
        else
          InMemoryReferenceRepository.replace (state.setStatus booking .confirmed)
          InMemoryReferenceRepository.record
            (statusMutation booking .confirmed "booking_confirmed")
          pure ("CONFIRMED pnr=" ++ booking.pnr)

/-- `_CancelBooking`, which does not look at the status of the booking. -/
def cancelBooking : ReferenceTool BookingRepository where
  name := "cancel_booking"
  safe := false
  run arguments := do
    let repository ← get
    let state ← ofExcept (repository.stateFor "bookings")
    match state.bookings.find? (·.pnr = argumentText arguments "pnr") with
    | none => pure "CANCEL_REJECTED: unknown booking"
    | some booking =>
      InMemoryReferenceRepository.replace (state.setStatus booking .cancelled)
      InMemoryReferenceRepository.record (statusMutation booking .cancelled "booking_cancelled")
      pure ("CANCELLED " ++ booking.pnr)

/-! ## Calls -/

inductive BookingTool where
  | hold | confirm | cancel

def BookingTool.tool : BookingTool → ReferenceTool BookingRepository
  | hold => holdBooking
  | confirm => confirmBooking
  | cancel => cancelBooking

/-- One call of a tool. -/
structure BookingCall where
  tool : BookingTool
  arguments : Record

/-- The repository after a call, whether it returned or raised. -/
def BookingCall.perform (repository : BookingRepository) (call : BookingCall) : BookingRepository :=
  finalState ((call.tool.tool.run call.arguments).run repository)

/-- The repository after it was seeded. -/
def seededRepository (seed : FlightBookingState) : BookingRepository where
  state := some seed

/-- The repository after some calls. -/
def afterCalls (seed : FlightBookingState) (calls : List BookingCall) : BookingRepository :=
  calls.foldl BookingCall.perform (seededRepository seed)

/-- What one call does: it leaves the repository, holds a seat for a passenger, confirms a held
booking, or cancels a booking. -/
inductive BookingStep (repository : BookingRepository) : BookingCall → BookingRepository → Prop
  | stands (call : BookingCall) : BookingStep repository call repository
  | holds (arguments : Record) (state : FlightBookingState) (passengerId : Uuid) (flight : Flight)
      (hstate : repository.state = some state)
      (hflight : state.flights.find? (fun row => row.id = flight.id) = some flight)
      (hseats : 0 < flight.seatsAvailable)
      (hholds : heldBookings state.bookings passengerId < state.policy.maxHoldsPerPassenger) :
      BookingStep repository ⟨.hold, arguments⟩
        ⟨some (state.hold flight (newBooking state passengerId flight)),
          repository.mutations ++ [seatHeld flight] ++
            [bookingHeld (newBooking state passengerId flight)],
          repository.destroyed⟩
  | confirms (arguments : Record) (state : FlightBookingState) (booking : Booking)
      (hstate : repository.state = some state)
      (hbooking : state.bookings.find? (fun row => row.pnr = booking.pnr) = some booking)
      (hheld : booking.status = .held) :
      BookingStep repository ⟨.confirm, arguments⟩
        ⟨some (state.setStatus booking .confirmed),
          repository.mutations ++ [statusMutation booking .confirmed "booking_confirmed"],
          repository.destroyed⟩
  | cancels (arguments : Record) (state : FlightBookingState) (booking : Booking)
      (hstate : repository.state = some state)
      (hbooking : state.bookings.find? (fun row => row.pnr = booking.pnr) = some booking)
      (hpnr : booking.pnr = argumentText arguments "pnr") :
      BookingStep repository ⟨.cancel, arguments⟩
        ⟨some (state.setStatus booking .cancelled),
          repository.mutations ++ [statusMutation booking .cancelled "booking_cancelled"],
          repository.destroyed⟩

omit [UnicodeTables] [FloatRepr] [HashFunctions] in
/-- A computation that begins with a result leaves the state when the result is an exception. -/
theorem finalState_ofExcept_bind {S α β : Type} (result : Raises α) (f : α → EStateM PyError S β)
    (s : S) :
    finalState ((ofExcept result >>= f : EStateM PyError S β).run s) =
      match result with
      | .ok a => finalState ((f a).run s)
      | .error _ => s := by
  cases result <;> rfl

theorem holdBooking_step (repository : BookingRepository) (arguments : Record) :
    BookingStep repository ⟨.hold, arguments⟩
      (finalState ((holdBooking.run arguments).run repository)) := by
  change BookingStep _ _ (finalState
    ((ofExcept _ >>= _ : EStateM PyError BookingRepository String).run repository))
  rw [finalState_ofExcept_bind]
  cases parseUuid (argumentText arguments "passenger_id") with
  | error e => exact .stands _
  | ok passengerId =>
    dsimp only
    rw [finalState_ofExcept_bind]
    cases parseUuid (argumentText arguments "flight_id") with
    | error e => exact .stands _
    | ok flightId =>
      dsimp only
      rw [finalState_ofExcept_bind, InMemoryReferenceRepository.stateFor]
      cases hstate : repository.state with
      | none => exact .stands _
      | some state =>
        dsimp only
        cases hflight : state.flights.find? (fun row => row.id = flightId) with
        | none => exact .stands _
        | some flight =>
          obtain rfl := (KeyedRows.find?_key hflight).2
          dsimp only
          split_ifs with hseats hholds
          · exact .stands _
          · exact .stands _
          · exact .holds arguments state passengerId flight hstate hflight (not_le.mp hseats)
              (not_le.mp hholds)

theorem confirmBooking_step (repository : BookingRepository) (arguments : Record) :
    BookingStep repository ⟨.confirm, arguments⟩
      (finalState ((confirmBooking.run arguments).run repository)) := by
  have hrun : (confirmBooking.run arguments).run repository =
      (if argumentText arguments "customer_token" ≠ gateToken then
          pure "CONFIRM_REJECTED: customer approval required"
        else ofExcept (repository.stateFor "bookings") >>= _ :
        EStateM PyError BookingRepository String).run repository := rfl
  rw [hrun]
  split_ifs with htoken
  · exact .stands _
  · rw [finalState_ofExcept_bind, InMemoryReferenceRepository.stateFor]
    cases hstate : repository.state with
    | none => exact .stands _
    | some state =>
      dsimp only
      cases hbooking : state.bookings.find?
          (fun row => row.pnr = argumentText arguments "pnr") with
      | none => exact .stands _
      | some booking =>
        rw [← (KeyedRows.find?_key hbooking).2] at hbooking
        dsimp only
        split_ifs with hheld
        · exact .stands _
        · exact .confirms arguments state booking hstate hbooking (not_not.mp hheld)

theorem cancelBooking_step (repository : BookingRepository) (arguments : Record) :
    BookingStep repository ⟨.cancel, arguments⟩
      (finalState ((cancelBooking.run arguments).run repository)) := by
  change BookingStep _ _ (finalState
    ((ofExcept _ >>= _ : EStateM PyError BookingRepository String).run repository))
  rw [finalState_ofExcept_bind, InMemoryReferenceRepository.stateFor]
  cases hstate : repository.state with
  | none => exact .stands _
  | some state =>
    dsimp only
    cases hbooking : state.bookings.find? (fun row => row.pnr = argumentText arguments "pnr") with
    | none => exact .stands _
    | some booking =>
      have hpnr := (KeyedRows.find?_key hbooking).2
      rw [← hpnr] at hbooking
      exact .cancels arguments state booking hstate hbooking hpnr

/-- **What one call does.** -/
theorem perform_step (repository : BookingRepository) (call : BookingCall) :
    BookingStep repository call (call.perform repository) := by
  obtain ⟨tool, arguments⟩ := call
  cases tool with
  | hold => exact holdBooking_step repository arguments
  | confirm => exact confirmBooking_step repository arguments
  | cancel => exact cancelBooking_step repository arguments

end Tools

end ObservabilityLab.Reference
