import Mathlib.Data.Int.Notation

/-!
# Python `datetime`

A date and time is its wall clock, and its time zone when it is aware. The text formats are the
class `DateTimeTexts`.
-/

namespace Python

/-- The `tzinfo` of a date and time, with the microseconds ahead of UTC at that time. -/
inductive Zone where
  | fixed (offset : ℤ)
  | named (key : String) (offset : ℤ)
deriving DecidableEq

def Zone.offset : Zone → ℤ
  | fixed offset => offset
  | named _ offset => offset

/-- A `datetime`. -/
structure DateTime where
  /-- The microseconds of the wall clock since the start of 1970. -/
  wall : ℤ
  /-- The time zone, unless the value is naive. -/
  zone : Option Zone
deriving DecidableEq

namespace DateTime

/-- `datetime(1970, 1, 1, tzinfo=UTC)` -/
def epoch : DateTime := ⟨0, some (.fixed 0)⟩

/-- `d.replace(tzinfo=UTC) if d.tzinfo is None else d` -/
def assumeUtc (d : DateTime) : DateTime := { d with zone := some (d.zone.getD (.fixed 0)) }

/-- The microseconds of `later - earlier`; `none` is a `TypeError`. -/
def since (later earlier : DateTime) : Option ℤ :=
  match later.zone, earlier.zone with
  | none, none => some (later.wall - earlier.wall)
  | some (.named key offset), some (.named key' offset') =>
    -- within one named zone the wall clocks are subtracted
    if key = key' then some (later.wall - earlier.wall)
    else some ((later.wall - offset) - (earlier.wall - offset'))
  | some zone, some zone' => some ((later.wall - zone.offset) - (earlier.wall - zone'.offset))
  | _, _ => none

end DateTime

/-- The texts of dates and times. -/
class DateTimeTexts where
  /-- `datetime.fromisoformat(text)`; `none` is a `ValueError`. -/
  fromisoformat : String → Option DateTime
  isoformat : DateTime → String
  /-- The text in a dump in JSON mode. -/
  json : DateTime → String

/-- `datetime.fromisoformat(text.replace("Z", "+00:00"))` -/
def DateTime.read [DateTimeTexts] (text : String) : Option DateTime :=
  DateTimeTexts.fromisoformat
    (String.ofList (text.toList.flatMap fun c => if c = 'Z' then "+00:00".toList else [c]))

/-- The texts of the start of 1970 only. -/
@[reducible] def epochTexts : DateTimeTexts where
  fromisoformat text := if text = "1970-01-01T00:00:00+00:00" then some .epoch else none
  isoformat _ := "1970-01-01T00:00:00+00:00"
  json _ := "1970-01-01T00:00:00Z"

end Python
