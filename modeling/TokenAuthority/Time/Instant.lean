/-
# Instants

An instant is a number of seconds since 1970-01-01T00:00:00Z and a number of nanoseconds. A leap
second has no number of its own: it is the second before it with a thousand million nanoseconds
or more, and only the last second of a minute is followed by one.

| limit | second |
| --- | ---: |
| -262143-01-01T00:00:00Z | -8334601228800 |
| +262142-12-31T23:59:59Z | 8210266876799 |
-/

import TokenAuthority.Time.Calendar

namespace TokenAuthority
namespace Time

/-- The nanoseconds of a second. -/
def nanosPerSecond : Nat := 1000000000

/-- The first second that can be represented. -/
def firstSecond : Int := -8334601228800

/-- The last second that can be represented. -/
def lastSecond : Int := 8210266876799

/-- Whether a second and its nanoseconds are an instant. -/
def isInstant (second : Int) (nano : Nat) : Bool :=
  firstSecond ≤ second && second ≤ lastSecond &&
    (nano < nanosPerSecond || (nano < 2 * nanosPerSecond && second % 60 = 59))

/-- An instant. -/
structure Instant where
  /-- Seconds since 1970-01-01T00:00:00Z, leap seconds not counted. -/
  second : Int
  /-- Nanoseconds since the second began. -/
  nano : Nat
  valid : isInstant second nano = true
deriving DecidableEq, Repr

namespace Instant

/-- Instants with the same second and nanosecond are the same. -/
theorem ext {a b : Instant} (s : a.second = b.second) (n : a.nano = b.nano) : a = b := by
  cases a; cases b; cases s; cases n; rfl

/-- The instant with a second and nanoseconds, if there is one. -/
def of? (second : Int) (nano : Nat) : Option Instant :=
  if h : isInstant second nano then some ⟨second, nano, h⟩ else none

/-- 1970-01-01T00:00:00Z. -/
def epoch : Instant := ⟨0, 0, by decide⟩

instance : Inhabited Instant := ⟨epoch⟩

/-- Whether `a` is not later than `b`. -/
def notAfter (a b : Instant) : Bool :=
  a.second < b.second || (a.second = b.second && a.nano ≤ b.nano)

/-- The instant a positive number of seconds later, unless it is out of range. A leap second counts
as the second that it follows. -/
def after? (i : Instant) (seconds : Int) : Option Instant :=
  of? (i.second + seconds) (if nanosPerSecond ≤ i.nano then i.nano - nanosPerSecond else i.nano)

/-- The second of the day. -/
def secondOfDay (i : Instant) : Int :=
  i.second % 86400

/-- A leap second that lies between two times of the day. -/
def leapBetween (later earlier : Instant) : Int :=
  if earlier.secondOfDay < later.secondOfDay && nanosPerSecond ≤ earlier.nano then 1
  else if later.secondOfDay < earlier.secondOfDay && nanosPerSecond ≤ later.nano then -1
  else 0

/-- The seconds from `earlier` to `later`, rounded toward zero. -/
def secondsSince (later earlier : Instant) : Int :=
  let nanos : Int := later.nano - earlier.nano
  let seconds := later.second - earlier.second + leapBetween later earlier + nanos / nanosPerSecond
  if seconds < 0 && 0 < nanos % nanosPerSecond then seconds + 1 else seconds

end Instant
end Time
end TokenAuthority
