/-! # Instants and durations

Time is counted in milliseconds since the Unix epoch. The calendar covers the years from
262144 BCE to 262142 CE, so an instant is a millisecond count between `Instant.min` and
`Instant.max`; moving an instant outside that range is an overflow, which the operations report
instead of wrapping around. Durations are signed millisecond counts. -/

namespace StateMetrics

/-- The first millisecond of the calendar: January 1, 262144 BCE. -/
def Instant.minMillis : Int := -8334601315200000

/-- The last millisecond of the calendar: December 31, 262142 CE, 23:59:59.999. -/
def Instant.maxMillis : Int := 8210266876799999

/-- A point in time, in milliseconds since the Unix epoch, within the calendar. -/
structure Instant where
  ms : Int
  deriving Repr, BEq, DecidableEq, Inhabited

/-- Which way a time computation left the calendar. -/
inductive TimeOverflow where
  | addition
  | subtraction
  deriving Repr, BEq, DecidableEq, Inhabited

namespace TimeOverflow

/-- The message of an overflow. -/
def message : TimeOverflow → String
  | .addition => "`DateTime + TimeDelta` overflowed"
  | .subtraction => "`DateTime - TimeDelta` overflowed"

end TimeOverflow

namespace Instant

instance : LT Instant := ⟨fun a b => a.ms < b.ms⟩
instance : LE Instant := ⟨fun a b => a.ms ≤ b.ms⟩
instance (a b : Instant) : Decidable (a < b) := inferInstanceAs (Decidable (a.ms < b.ms))
instance (a b : Instant) : Decidable (a ≤ b) := inferInstanceAs (Decidable (a.ms ≤ b.ms))

/-- Whether a millisecond count lies in the calendar. -/
def inRange (ms : Int) : Bool := minMillis ≤ ms ∧ ms ≤ maxMillis

/-- The instant at a millisecond count, if the calendar has it. -/
def ofMillis? (ms : Int) : Option Instant :=
  if inRange ms then some ⟨ms⟩ else none

/-- The instant a duration later. -/
def add (t : Instant) (d : Int) : Except TimeOverflow Instant :=
  if inRange (t.ms + d) then .ok ⟨t.ms + d⟩ else .error .addition

/-- The instant a duration earlier. -/
def sub (t : Instant) (d : Int) : Except TimeOverflow Instant :=
  if inRange (t.ms - d) then .ok ⟨t.ms - d⟩ else .error .subtraction

end Instant

end StateMetrics
