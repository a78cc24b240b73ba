/-
# Instants on one line

`Instant.nanos` numbers the instants by nanoseconds; a leap second has the numbers of the second
that it follows. On this line the spans of a token are plain sums:

| what | on the line |
| --- | --- |
| `a.notAfter b`, neither in a leap second | `a.nanos ≤ b.nanos` |
| the end of a span | `start.nanos + seconds * nanosPerSecond` |
| whether the end can be represented | `start.second + seconds ≤ lastSecond` |
| the age of a token at `now` | at most the distance, and less than a second short of it |

The clock of a server shows no leap seconds, but a token may have been created in one. Its age is
then up to one second less than the distance, since it is counted from the end of the leap second
while its spans are counted from the beginning.
-/

import TokenAuthority.Resource.AccessToken

namespace TokenAuthority

open Time (Instant firstSecond lastSecond nanosPerSecond)

namespace Time.Instant

variable {a b : Instant} {seconds : Int}

/-- Nanoseconds since 1970-01-01T00:00:00Z. A leap second counts as the second that it follows. -/
def nanos (i : Instant) : Int :=
  i.second * nanosPerSecond + (i.nano % nanosPerSecond : Nat)

/-- The instant is not in a leap second. -/
def IsPlain (i : Instant) : Prop :=
  i.nano < nanosPerSecond

instance (i : Instant) : Decidable i.IsPlain :=
  inferInstanceAs (Decidable (i.nano < nanosPerSecond))

/-- An instant is within the calendar, and only the last second of a minute is followed by a leap
second. -/
theorem bounds (i : Instant) : firstSecond ≤ i.second ∧ i.second ≤ lastSecond ∧
    i.nano < 2 * nanosPerSecond ∧ (i.nano < nanosPerSecond ∨ i.second % 60 = 59) := by
  have valid := i.valid
  simp only [isInstant, Bool.and_eq_true, Bool.or_eq_true, decide_eq_true_eq] at valid
  omega

/-- Outside leap seconds, instants are ordered by their nanoseconds. -/
theorem notAfter_iff_nanos (ha : a.IsPlain) (hb : b.IsPlain) :
    a.notAfter b = true ↔ a.nanos ≤ b.nanos := by
  simp only [notAfter, nanos, IsPlain, nanosPerSecond, Bool.or_eq_true, Bool.and_eq_true,
    decide_eq_true_eq] at *
  omega

/-- What is not before an instant on the line is not before it at all, unless that one is in a leap
second. -/
theorem notAfter_of_nanos_le (ha : a.IsPlain) (h : a.nanos ≤ b.nanos) : a.notAfter b = true := by
  have := b.bounds
  simp only [notAfter, nanos, IsPlain, nanosPerSecond, Bool.or_eq_true, Bool.and_eq_true,
    decide_eq_true_eq] at *
  omega

/-- No instant is made of what is not one. -/
theorem of?_eq_none_iff {second : Int} {nano : Nat} :
    of? second nano = none ↔ ¬isInstant second nano = true := by
  unfold of?
  split <;> simp_all

/-- An instant some seconds later has those seconds more, and is taken out of a leap second. -/
theorem after?_eq_of? (i : Instant) (seconds : Int) :
    i.after? seconds = of? (i.second + seconds) (i.nano % nanosPerSecond) := by
  have bounds := i.bounds
  unfold after?
  congr 1
  split <;> simp only [nanosPerSecond] at * <;> omega

/-- There is no later instant exactly when it is beyond the last second. -/
theorem after?_eq_none_iff (positive : 0 < seconds) :
    a.after? seconds = none ↔ lastSecond < a.second + seconds := by
  have bounds := a.bounds
  rw [after?_eq_of?, of?_eq_none_iff]
  simp only [isInstant, Bool.and_eq_true, Bool.or_eq_true, decide_eq_true_eq]
  simp only [nanosPerSecond] at *
  omega

/-- An instant has the second and the nanoseconds that it was made of. -/
theorem eq_of_of? {second : Int} {nano : Nat} {i : Instant} (h : of? second nano = some i) :
    i.second = second ∧ i.nano = nano := by
  unfold of? at h
  split at h
  · obtain rfl := Option.some.inj h
    exact ⟨rfl, rfl⟩
  · simp at h

/-- A later instant is outside leap seconds, and that much later on the line. -/
theorem of_after? (h : a.after? seconds = some b) :
    b.IsPlain ∧ b.nanos = a.nanos + seconds * nanosPerSecond := by
  rw [after?_eq_of?] at h
  obtain ⟨second, nano⟩ := eq_of_of? h
  unfold IsPlain nanos
  rw [second, nano]
  simp only [nanosPerSecond]
  omega

/-! ### The distance in whole seconds -/

/-- Seen from outside leap seconds, one is counted only if the other instant lies in it. -/
theorem leapBetween_of_isPlain {now : Instant} (plain : now.IsPlain) (start : Instant) :
    now.leapBetween start = 0 ∨ now.leapBetween start = 1 ∧ ¬start.IsPlain := by
  unfold leapBetween IsPlain at *
  simp only [Bool.and_eq_true, decide_eq_true_eq]
  split
  · omega
  · split <;> omega

/-- The seconds that have passed, written out. None have before the start. -/
theorem toNat_secondsSince (later earlier : Instant) :
    ((later.secondsSince earlier).toNat : Int) =
      max 0 (later.second - earlier.second + later.leapBetween earlier +
        ((later.nano : Int) - earlier.nano) / nanosPerSecond) := by
  unfold secondsSince
  simp only [Bool.and_eq_true, decide_eq_true_eq]
  split <;> omega

/-- The seconds that have passed are at most the distance. -/
theorem toNat_secondsSince_le {now : Instant} (plain : now.IsPlain) (start : Instant) :
    ((now.secondsSince start).toNat : Int) * nanosPerSecond ≤ max (now.nanos - start.nanos) 0 := by
  have := start.bounds
  have := leapBetween_of_isPlain plain start
  rw [toNat_secondsSince]
  simp only [nanos, IsPlain, nanosPerSecond] at *
  omega

/-- How many seconds more than have passed the distance may come to, at most. -/
def slack (start : Instant) : Int :=
  if start.IsPlain then 1 else 2

/-- The distance is less than the seconds that have passed and the slack. -/
theorem lt_toNat_secondsSince {now : Instant} (plain : now.IsPlain) (start : Instant) :
    now.nanos - start.nanos <
      ((now.secondsSince start).toNat + start.slack) * nanosPerSecond := by
  have := start.bounds
  have := leapBetween_of_isPlain plain start
  rw [toNat_secondsSince]
  unfold slack
  split <;> simp only [nanos, IsPlain, nanosPerSecond] at * <;> omega

end Time.Instant

namespace Resource.AccessToken

variable {start now : Instant} {seconds : Int}

/-- A span has no end exactly when that would be beyond the last second. -/
theorem spanEnd?_eq_none_iff (positive : 0 < seconds) :
    spanEnd? start seconds = none ↔ lastSecond < start.second + seconds := by
  have := start.bounds
  unfold spanEnd?
  split
  · exact Instant.after?_eq_none_iff positive
  · rename_i long
    simp only [longestSpan, firstSecond, lastSecond] at *
    simp only [true_iff]
    omega

/-- It cannot be told whether a span is over exactly when it has a length, and no end. -/
theorem spanIsOver?_eq_none_iff :
    spanIsOver? start seconds now = none ↔ 0 < seconds ∧ lastSecond < start.second + seconds := by
  unfold spanIsOver?
  split
  · rename_i positive
    rw [Option.map_eq_none_iff, spanEnd?_eq_none_iff positive]
    exact (and_iff_right positive).symm
  · rename_i off
    simp [off]

/-- The end of a span on the line. -/
theorem of_spanEnd? {spanEnd : Instant} (ends : spanEnd? start seconds = some spanEnd) :
    spanEnd.IsPlain ∧ spanEnd.nanos = start.nanos + seconds * nanosPerSecond := by
  unfold spanEnd? at ends
  split at ends
  · exact Instant.of_after? ends
  · simp at ends

/-- From its end on a span is not said to go on. -/
theorem spanIsOver?_ne_some_false (positive : 0 < seconds)
    (reached : start.nanos + seconds * nanosPerSecond ≤ now.nanos) :
    spanIsOver? start seconds now ≠ some false := by
  unfold spanIsOver?
  rw [if_pos positive]
  cases ends : spanEnd? start seconds with
  | none => simp
  | some spanEnd =>
    obtain ⟨plain, nanos⟩ := of_spanEnd? ends
    rw [Option.map_some, Instant.notAfter_of_nanos_le plain (nanos ▸ reached)]
    simp

/-- A span whose end can be represented is over from its end on. -/
theorem spanIsOver?_eq_true_iff (plain : now.IsPlain)
    (known : spanIsOver? start seconds now ≠ none) :
    spanIsOver? start seconds now = some true ↔
      0 < seconds ∧ start.nanos + seconds * nanosPerSecond ≤ now.nanos := by
  unfold spanIsOver? at *
  split
  · rename_i positive
    rw [if_pos positive] at known
    cases ends : spanEnd? start seconds with
    | none => simp [ends] at known
    | some spanEnd =>
      obtain ⟨endPlain, nanos⟩ := of_spanEnd? ends
      rw [Option.map_some, Option.some.injEq, Instant.notAfter_iff_nanos endPlain plain, nanos]
      exact (and_iff_right positive).symm
  · rename_i off
    simp [off]

end Resource.AccessToken

end TokenAuthority
