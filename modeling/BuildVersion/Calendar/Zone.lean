import BuildVersion.Calendar.Instant

/-!
# Time zones

A zone says by how many seconds local clocks are ahead of UTC at an instant, and which instant a
local time means. A local time that clocks skip means none, except for the second with which the skipped
hour starts. Only two kinds of zones are supported: those without summer time, and those with summer time
from March to November by one rule in every year. Zones with other rules, or with rules that changed over
the years, are left out.
-/

namespace BuildVersion.Calendar

/-- A time zone, of one of the two kinds that are supported. -/
inductive Zone where
  /-- Local clocks are always ahead of UTC by so many seconds. -/
  | fixed (offset : Int)
  /-- Local clocks are ahead of UTC by so many seconds, and by one hour more from the second Sunday
  of March, 02:00 standard time, to the first Sunday of November, 02:00 summer time. -/
  | summer (standard : Int)
deriving DecidableEq

namespace Zone

/-- The day number of the Sunday that comes first on or after a day. -/
def sundayFrom (day : Int) : Int := day + (3 - day) % 7

/-- The start of summer time in a year, in seconds of local standard time. -/
def summerStart (year : Int) : Int :=
  (sundayFrom (Date.dayNumber ⟨year, 3, 8⟩)) * secondsPerDay + 2 * 3600

/-- The end of summer time in a year, in seconds of local standard time. -/
def summerEnd (year : Int) : Int :=
  (sundayFrom (Date.dayNumber ⟨year, 11, 1⟩)) * secondsPerDay + 3600

/-- The year in which a clock stands after so many seconds since 1970 began for it. -/
def yearOf (seconds : Int) : Int := (Date.ofDayNumber (seconds / secondsPerDay)).year

/-- The seconds by which local clocks are ahead of UTC at an instant. -/
def offsetAt (zone : Zone) (t : Instant) : Int :=
  match zone with
  | fixed offset => offset
  | summer standard =>
    let clock := t.seconds + standard
    let year := yearOf clock
    if summerStart year ≤ clock ∧ clock < summerEnd year then standard + 3600 else standard

/-- What local clocks show at an instant. -/
def civil (zone : Zone) (t : Instant) : Civil := t.civil (zone.offsetAt t)

/-- Whether local clocks cover an instant: the years that they show end where those of UTC do. -/
def Covers (zone : Zone) (t : Instant) : Prop := (t.addSeconds (zone.offsetAt t)).InRange

instance (zone : Zone) (t : Instant) : Decidable (zone.Covers t) := by unfold Covers; infer_instance

/-- The seconds by which local clocks that show a civil time are ahead of UTC. Clocks skip the hour
in which summer time starts, but its first second is still taken as standard time, and so is the hour that
they show twice when summer time ends. -/
def offsetOf? (zone : Zone) (c : Civil) : Option Int :=
  match zone with
  | fixed offset => some offset
  | summer standard =>
    let clock := c.toSeconds
    let year := c.date.year
    if clock ≤ summerStart year then some standard
    else if clock < summerStart year + 3600 then none
    else if clock < summerEnd year then some (standard + 3600)
    else some standard

/-- The instant that a local time means. -/
def instant? (zone : Zone) (c : Civil) : Option Instant :=
  (zone.offsetOf? c).map fun offset => Instant.ofCivil c offset

end Zone

end BuildVersion.Calendar
