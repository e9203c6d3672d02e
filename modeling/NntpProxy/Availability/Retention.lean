import NntpProxy.Availability.Exact

/-!
# How long the index keeps a fact

A fact is gone when its generation is cleared, and the schedule of the rotations tells when that
is.  The schedule is not fixed by the record, though: a generation that starts late puts off the
rotations to come, and with them the end of the generations behind it.  A provider is reported
beyond the lifetime of its last record exactly when the generation that holds the fact is
cleared too late.
-/

namespace NntpProxy.Availability

open Protocol Router Data Cache FilterState IndexEvent

/-! ## The last record -/

namespace AvailabilityIndex

variable {geometry : Geometry} {hashing : Hashing} {key : Bytes} {provider : AvailabilitySlot}
  {now : UInt64} {events : List (IndexEvent geometry)}

/-! ## The latch -/

section

variable (finite : geometry.ttlMillis ≠ maxMillis)

include finite

end

end AvailabilityIndex

end NntpProxy.Availability
