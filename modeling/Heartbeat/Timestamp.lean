/-!
# Times and their saturating arithmetic

A time is a count of milliseconds since the epoch, in a signed 64-bit word.  Deadlines and ages are
exact sums and differences, clamped to the range of that word, so a garbage time far in the past has
the greatest age there is instead of a negative one.
-/

set_option autoImplicit false

namespace Heartbeat

/-- Milliseconds since the epoch, or a span of milliseconds. -/
abbrev Milliseconds := Int64

namespace Milliseconds

/-- The sum of two times, clamped to the range of times. -/
def saturatingAdd (left right : Milliseconds) : Milliseconds :=
  Int64.ofIntClamp (left.toInt + right.toInt)

/-- The difference of two times, clamped to the range of times. -/
def saturatingSub (left right : Milliseconds) : Milliseconds :=
  Int64.ofIntClamp (left.toInt - right.toInt)

/-- What clamping does, over the integers. -/
theorem toInt_clamp (exact : Int) :
    (Int64.ofIntClamp exact).toInt =
      max Int64.minValue.toInt (min Int64.maxValue.toInt exact) := by
  have ordered : Int64.minValue.toInt ≤ Int64.maxValue.toInt := by decide
  unfold Int64.ofIntClamp
  split
  · split
    · rw [Int64.toInt_ofIntLE]
      omega
    · omega
  · omega

theorem toInt_saturatingAdd (left right : Milliseconds) :
    (left.saturatingAdd right).toInt =
      max Int64.minValue.toInt (min Int64.maxValue.toInt (left.toInt + right.toInt)) :=
  toInt_clamp _

theorem toInt_saturatingSub (left right : Milliseconds) :
    (left.saturatingSub right).toInt =
      max Int64.minValue.toInt (min Int64.maxValue.toInt (left.toInt - right.toInt)) :=
  toInt_clamp _

end Milliseconds

/-- The age of a heartbeat at a given time.  A heartbeat from the future has a negative age. -/
def heartbeatAge (now timestamp : Milliseconds) : Milliseconds :=
  Milliseconds.saturatingSub now timestamp

end Heartbeat
