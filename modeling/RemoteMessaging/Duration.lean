/-!
# Durations

A span of time in whole nanoseconds.
-/

namespace RemoteMessaging

structure Duration where
  nanoseconds : Nat
  deriving DecidableEq, Repr, Inhabited

namespace Duration

def ofSeconds (seconds nanoseconds : Nat) : Duration :=
  ⟨1000000000 * seconds + nanoseconds⟩

def ofMillis (millis : Nat) : Duration :=
  ⟨1000000 * millis⟩

/-- The largest number of milliseconds that a written duration can have. -/
def maxMillis : Nat := UInt64.size - 1

/-- Whole milliseconds, cut off at the largest 64-bit number. -/
def toMillis (duration : Duration) : Nat :=
  min (duration.nanoseconds / 1000000) maxMillis

/-- The digits of `fraction` out of `scale` after the point, without trailing
zeros; nothing for a whole number.  `scale` is a power of ten. -/
def fractionDigits (fraction scale : Nat) : List Char :=
  let digits := (Nat.toDigits 10 (scale + fraction)).drop 1
  let kept := (digits.reverse.dropWhile (· == '0')).reverse
  if kept.isEmpty then [] else '.' :: kept

/-- The duration in the largest unit that makes its whole part positive, with
the fraction in full. -/
def toText (duration : Duration) : String :=
  let amount (unit : Nat) : String :=
    toString (duration.nanoseconds / unit) ++
      String.ofList (fractionDigits (duration.nanoseconds % unit) unit)
  if 1000000000 ≤ duration.nanoseconds then amount 1000000000 ++ "s"
  else if 1000000 ≤ duration.nanoseconds then amount 1000000 ++ "ms"
  else if 1000 ≤ duration.nanoseconds then amount 1000 ++ "µs"
  else toString duration.nanoseconds ++ "ns"

end Duration

end RemoteMessaging
