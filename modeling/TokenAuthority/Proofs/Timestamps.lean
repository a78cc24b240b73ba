/-
# Written instants are read back

What `Rfc3339.write` makes of an instant is read by `Rfc3339.read?` as the same instant: of any year
that can be represented, with any fraction, in a leap second or not (`Rfc3339.read?_write`).

| part | why nothing is lost |
| --- | --- |
| date | each day number is that of just the date that is written (`Date.dayNumber_ofDayNumber`) |
| year | without a sign it has at most four digits; with one it is read to the end of its digits |
| second | it is 60 exactly in a leap second |
| fraction | as many digits are written as are needed, and nine count |
-/

import Mathlib.Tactic.IntervalCases
import TokenAuthority.Time.Rfc3339

namespace TokenAuthority
namespace Time

/-! ### Days and dates -/

/-- A day of an era by its century, the four years of that, the year of these and the day of that.
Of four years only the last has a day 365, and of the last years of the centuries only the last. -/
structure DayOfEra where
  century : Int
  quad : Int
  year : Int
  day : Int
  century_bounds : 0 ≤ century ∧ century ≤ 3
  quad_bounds : 0 ≤ quad ∧ quad ≤ 24
  year_bounds : 0 ≤ year ∧ year ≤ 3
  day_bounds : 0 ≤ day ∧ day ≤ 365
  leap : day = 365 → year = 3 ∧ (quad ≤ 23 ∨ century = 3)

namespace DayOfEra

/-- The number of the day. -/
def number (d : DayOfEra) : Int :=
  36524 * d.century + 1461 * d.quad + 365 * d.year + d.day

/-- The number of its year. -/
def yearNumber (d : DayOfEra) : Int :=
  100 * d.century + 4 * d.quad + d.year

/-- Every day of an era has a century, four years of it, a year of these and a day of that. -/
theorem exists_number_eq {n : Int} (h : 0 ≤ n ∧ n ≤ 146096) : ∃ d : DayOfEra, d.number = n := by
  let century := (n - n / 146096) / 36524
  let rest := n - 36524 * century
  have : 0 ≤ century ∧ century ≤ 3 ∧ 0 ≤ rest ∧ rest ≤ 36524 ∧ (rest = 36524 → century = 3) := by
    omega
  let quad := rest / 1461
  let rest' := rest - 1461 * quad
  have : 0 ≤ quad ∧ quad ≤ 24 ∧ 0 ≤ rest' ∧ rest' ≤ 1460 ∧
      (quad = 24 → rest' = 1460 → century = 3) := by
    omega
  let year := (rest' - rest' / 1460) / 365
  let day := rest' - 365 * year
  exact ⟨⟨century, quad, year, day, by omega, by omega, by omega, by omega, by omega⟩,
    by simp only [number]; omega⟩

/-- An era has 400 years. -/
theorem yearNumber_bounds (d : DayOfEra) : 0 ≤ d.yearNumber ∧ d.yearNumber ≤ 399 := by
  obtain ⟨c, q, y, day, _, _, _, _, _⟩ := d
  simp only [yearNumber]
  omega

/-- The year can be told from the number of the day: with one day less for each leap day before it,
all years are of the same length. -/
theorem yearNumber_eq (d : DayOfEra) :
    (d.number - d.number / 1460 + d.number / 36524 - d.number / 146096) / 365 = d.yearNumber := by
  obtain ⟨c, q, y, day, _, _, _, _, _⟩ := d
  simp only [number, yearNumber]
  have centuries : (36524 * c + 1461 * q + 365 * y + day) / 36524 -
      (36524 * c + 1461 * q + 365 * y + day) / 146096 = c := by
    obtain early | ⟨last, rfl⟩ : 1461 * q + 365 * y + day ≤ 36523 ∨
        1461 * q + 365 * y + day = 36524 ∧ c = 3 := by omega
    · have century : (36524 * c + 1461 * q + 365 * y + day) / 36524 = c := by omega
      have era : (36524 * c + 1461 * q + 365 * y + day) / 146096 = 0 := by omega
      omega
    · omega
  have years : (36524 * c + 1461 * q + 365 * y + day) / 1460 =
      25 * c + q + if 1460 ≤ 24 * c + q + 365 * y + day then 1 else 0 := by
    split <;> omega
  rw [years, Int.add_sub_assoc, centuries]
  split <;> omega

/-- The day of the year can be told from the number of the day and the year. -/
theorem day_eq (d : DayOfEra) :
    d.number - (365 * d.yearNumber + d.yearNumber / 4 - d.yearNumber / 100) = d.day := by
  obtain ⟨c, q, y, day, _, _, _, _, _⟩ := d
  simp only [number, yearNumber]
  have quads : (100 * c + 4 * q + y) / 4 = 25 * c + q := by omega
  have centuries : (100 * c + 4 * q + y) / 100 = c := by omega
  omega

end DayOfEra

namespace Date

/-- The date some days after the 1st of March of a year. -/
def ofMarch (year day : Int) : Date :=
  let month := ((5 * day + 2) / 153).toNat
  let dayOfMonth := (day - (153 * month + 2) / 5 + 1).toNat
  if month < 10 then ⟨year, month + 3, dayOfMonth⟩ else ⟨year + 1, month - 9, dayOfMonth⟩

/-- The date of a day by its era and what day of the era it is. -/
theorem ofDayNumber_eq (n : Int) : ∃ d : DayOfEra,
    n + 719468 = (n + 719468) / 146097 * 146097 + d.number ∧
      ofDayNumber n = ofMarch (d.yearNumber + (n + 719468) / 146097 * 400) d.day := by
  obtain ⟨d, isDay⟩ := DayOfEra.exists_number_eq (n := (n + 719468) % 146097) (by omega)
  refine ⟨d, by omega, ?_⟩
  unfold ofDayNumber ofMarch
  dsimp only
  rw [← isDay, d.yearNumber_eq, d.day_eq]

/-- Every day of a year is in one of the twelve months from March on. -/
theorem exists_month {day : Int} (h : 0 ≤ day ∧ day ≤ 365) :
    ∃ month : Nat, ((5 * day + 2) / 153).toNat = month ∧ month < 12 :=
  ⟨_, rfl, by omega⟩

/-- The date of a day of a year is one, if a day 365 belongs to a leap year. -/
theorem isValid_ofMarch {year day : Int} (h : 0 ≤ day ∧ day ≤ 365)
    (leap : day = 365 → isLeapYear (year + 1) = true) : (ofMarch year day).isValid = true := by
  obtain ⟨month, isMonth, bound⟩ := exists_month h
  unfold ofMarch
  rw [isMonth]
  interval_cases month
  -- only February does not always have the same number of days
  case «11» =>
    by_cases last : day = 365
    · simp [isValid, daysInMonth, leap last, last]
    · simp only [isValid, daysInMonth]
      split <;> simp <;> omega
  all_goals
    simp [isValid, daysInMonth]
    omega

/-- The number of the day of a date, from the year and the day since March. -/
theorem dayNumber_ofMarch {year day : Int} (h : 0 ≤ day ∧ day ≤ 365) :
    (ofMarch year day).dayNumber = year / 400 * 146097 + year % 400 * 365 + year % 400 / 4 -
      year % 400 / 100 + day - 719468 := by
  obtain ⟨month, isMonth, bound⟩ := exists_month h
  unfold ofMarch
  rw [isMonth]
  interval_cases month
  all_goals
    simp [dayNumber]
    omega

/-- A year from March on with a day 365 ends in a leap year. -/
theorem isLeapYear_of_day {d : DayOfEra} (last : d.day = 365) (era : Int) :
    isLeapYear (d.yearNumber + era * 400 + 1) = true := by
  have := d.leap last
  have := d.century_bounds
  have := d.quad_bounds
  simp only [isLeapYear, Bool.and_eq_true, Bool.or_eq_true, decide_eq_true_eq]
  simp only [DayOfEra.yearNumber]
  omega

/-- **Each number of a day is that of one date,** and the calendar has this date. -/
theorem dayNumber_ofDayNumber (n : Int) :
    (ofDayNumber n).isValid = true ∧ (ofDayNumber n).dayNumber = n := by
  obtain ⟨d, isDay, isDate⟩ := ofDayNumber_eq n
  have bounds := d.yearNumber_bounds
  have day := d.day_eq
  rw [isDate]
  refine ⟨isValid_ofMarch d.day_bounds fun last => isLeapYear_of_day last _, ?_⟩
  rw [dayNumber_ofMarch d.day_bounds]
  generalize (n + 719468) / 146097 = era at *
  have isEra : (d.yearNumber + era * 400) / 400 = era := by omega
  have isYear : (d.yearNumber + era * 400) % 400 = d.yearNumber := by omega
  rw [isEra, isYear]
  omega

/-- No month has more than 31 days. -/
theorem daysInMonth_le (year : Int) (month : Nat) : daysInMonth year month ≤ 31 := by
  unfold daysInMonth
  split
  · split <;> decide
  · split <;> decide

end Date

namespace Rfc3339

/-! ### Numbers -/

/-- What follows a number does not go on with it. -/
def EndsNumber (rest : List Char) : Prop :=
  ∀ c ∈ rest.head?, c.isDigit = false

/-- What begins with something other than a digit does not go on with a number. -/
theorem endsNumber_cons {c : Char} (h : c.isDigit = false) (rest : List Char) :
    EndsNumber (c :: rest) := by
  rintro d ⟨⟩
  exact h

/-- The digits of a number are those that stand before its end. -/
theorem takeWhile_append_of_endsNumber {digits rest : List Char}
    (all : ∀ c ∈ digits, c.isDigit = true) (ends : EndsNumber rest) :
    (digits ++ rest).takeWhile Char.isDigit = digits := by
  rw [List.takeWhile_append_of_pos all]
  cases rest with
  | nil => simp
  | cons c rest => simp [ends c rfl]

section Padded

variable {least n : Nat} {rest : List Char}

/-- A padded number consists of digits. -/
theorem isDigit_of_mem_padded {c : Char} (h : c ∈ padded least n) : c.isDigit = true := by
  obtain zero | digit := List.mem_append.1 h
  · obtain rfl := List.eq_of_mem_replicate zero
    rfl
  · exact Nat.isDigit_of_mem_toDigits (by decide) (by decide) digit

/-- A padded number has a digit. -/
theorem padded_ne_nil (least n : Nat) : padded least n ≠ [] := by
  simp [padded, Nat.toDigits_ne_nil]

/-- A padded number is read as the number. -/
theorem ofDigitChars_padded (least n : Nat) : Nat.ofDigitChars 10 (padded least n) 0 = n := by
  rw [padded, Nat.ofDigitChars_append, Nat.ofDigitChars_replicate_zero, Nat.mul_zero,
    Nat.ofDigitChars_ten_toDigits]

/-- A number that fits is padded to the length that is asked for. -/
theorem length_padded (least : Nat) (positive : 0 < least) (h : n < 10 ^ least) :
    (padded least n).length = least := by
  have := (Nat.length_toDigits_le_iff (by decide) positive).2 h
  simp only [padded, List.length_append, List.length_replicate]
  omega

/-- A number begins with a digit, which is neither a blank nor a sign. -/
theorem exists_padded_eq_cons (least n : Nat) :
    ∃ c digits, padded least n = c :: digits ∧ Text.isBlank c = false ∧ c ≠ '-' ∧ c ≠ '+' := by
  obtain ⟨c, digits, eq⟩ := List.exists_cons_of_ne_nil (padded_ne_nil least n)
  have digit : c.isDigit = true := isDigit_of_mem_padded (eq ▸ List.mem_cons_self)
  refine ⟨c, digits, eq, ?_, ?_, ?_⟩
  · simp only [Char.isDigit, Bool.and_eq_true, decide_eq_true_eq, UInt32.le_iff_toNat_le] at digit
    change 48 ≤ c.toNat ∧ c.toNat ≤ 57 at digit
    simp only [Text.isBlank, Bool.or_eq_false_iff, Bool.and_eq_false_iff, decide_eq_false_iff_not,
      beq_eq_false_iff_ne]
    omega
  · rintro rfl
    simp at digit
  · rintro rfl
    simp at digit

/-- A padded number is read back, with what follows it left. -/
theorem digits?_padded {width : Nat} (fits : (padded least n).length ≤ width)
    (ends : EndsNumber rest) : digits? width (padded least n ++ rest) = some (n, rest) := by
  have taken : ((padded least n ++ rest).take width).takeWhile Char.isDigit = padded least n := by
    rw [List.take_append, List.take_of_length_le fits]
    refine takeWhile_append_of_endsNumber (fun c => isDigit_of_mem_padded) fun c isFirst => ?_
    rw [List.head?_take] at isFirst
    split at isFirst
    · cases isFirst
    · exact ends c isFirst
  unfold digits?
  rw [taken]
  simp [padded_ne_nil, ofDigitChars_padded]

/-- Where there is no blank, none is skipped. -/
theorem skipBlank_cons {c : Char} (h : Text.isBlank c = false) (rest : List Char) :
    skipBlank (c :: rest) = c :: rest := by
  simp [skipBlank, h]

/-- Two digits are read back. -/
theorem pair?_padded (h : n < 100) (ends : EndsNumber rest) :
    pair? (padded 2 n ++ rest) = some (n, rest) := by
  have read := digits?_padded (length_padded 2 (by decide) h).le ends
  obtain ⟨c, digits, eq, noBlank, -⟩ := exists_padded_eq_cons 2 n
  unfold pair?
  rw [eq, List.cons_append, skipBlank_cons noBlank, ← List.cons_append, ← eq, read]

end Padded

/-! ### Parts -/

/-- A separator that is not a blank is read where it stands. -/
theorem separator?_cons {c : Char} (h : Text.isBlank c = false) (rest : List Char) :
    separator? c (c :: rest) = some rest := by
  unfold separator?
  rw [skipBlank_cons h]
  exact if_pos rfl

/-- A year is read as far as its digits go: without a sign there are four. -/
theorem year?_writeYear (year : Int) {rest : List Char} (ends : EndsNumber rest) :
    year? (writeYear year ++ rest) = some (year, rest) := by
  unfold writeYear
  split
  · rename_i short
    have fits : (padded 4 year.toNat).length = 4 := length_padded 4 (by decide) (by omega)
    have read := digits?_padded fits.le ends
    obtain ⟨c, digits, eq, noBlank, noMinus, noPlus⟩ := exists_padded_eq_cons 4 year.toNat
    unfold year?
    rw [eq] at read ⊢
    rw [List.cons_append, skipBlank_cons noBlank]
    split
    · rename_i same
      exact absurd (List.cons.inj same).1 noMinus
    · rename_i same
      exact absurd (List.cons.inj same).1 noPlus
    · rw [← List.cons_append, read]
      simp
      omega
  · have fits : (padded 4 year.natAbs).length ≤ (padded 4 year.natAbs ++ rest).length := by simp
    have read := digits?_padded fits ends
    split
    · unfold year?
      rw [List.cons_append, skipBlank_cons (by decide)]
      change Option.map _ (digits? (padded 4 year.natAbs ++ rest).length _) = _
      rw [read]
      simp only [Option.map_some, Option.some.injEq, Prod.mk.injEq, and_true]
      omega
    · unfold year?
      rw [List.cons_append, skipBlank_cons (by decide)]
      change Option.map _ (digits? (padded 4 year.natAbs ++ rest).length _) = _
      rw [read]
      simp only [Option.map_some, Option.some.injEq, Prod.mk.injEq, and_true]
      omega

/-- A fraction is read as its first nine digits behind the point, in nanoseconds. -/
theorem fraction?_point (rest : List Char) :
    fraction? ('.' :: rest) =
      if (rest.takeWhile Char.isDigit).isEmpty then none
      else some (Nat.ofDigitChars 10 ((rest.takeWhile Char.isDigit).take 9) 0 *
          10 ^ (9 - ((rest.takeWhile Char.isDigit).take 9).length),
        rest.drop (rest.takeWhile Char.isDigit).length) := rfl

/-- A fraction of up to nine digits is read back as its nanoseconds. -/
theorem fraction?_padded (width : Nat) (positive : 0 < width) (most : width ≤ 9) {n nano : Nat}
    (fits : n < 10 ^ width) (scaled : n * 10 ^ (9 - width) = nano) {rest : List Char}
    (ends : EndsNumber rest) : fraction? ('.' :: padded width n ++ rest) = some (nano, rest) := by
  have digits : (padded width n ++ rest).takeWhile Char.isDigit = padded width n :=
    takeWhile_append_of_endsNumber (fun c => isDigit_of_mem_padded) ends
  have length := length_padded width positive fits
  rw [List.cons_append, fraction?_point, digits, List.take_of_length_le (length.le.trans most),
    List.drop_left, length, ofDigitChars_padded, scaled]
  simp [padded_ne_nil]

/-- The shortest fraction that is exact is read back. -/
theorem fraction?_writeFraction {nano : Nat} (h : nano < nanosPerSecond) {rest : List Char}
    (ends : EndsNumber rest) (noPoint : rest.head? ≠ some '.') :
    fraction? (writeFraction nano ++ rest) = some (nano, rest) := by
  unfold nanosPerSecond at h
  unfold writeFraction
  split
  · rename_i whole
    unfold fraction?
    rw [whole, List.nil_append]
    split
    · exact absurd rfl noPoint
    · rfl
  split
  · exact fraction?_padded 3 (by decide) (by decide) (by omega) (by omega) ends
  split
  · exact fraction?_padded 6 (by decide) (by decide) (by omega) (by omega) ends
  · exact fraction?_padded 9 (by decide) (by decide) h (by omega) ends

/-- A fraction does not go on with the number before it. -/
theorem endsNumber_writeFraction (nano : Nat) {rest : List Char} (ends : EndsNumber rest) :
    EndsNumber (writeFraction nano ++ rest) := by
  unfold writeFraction
  split
  · exact ends
  split
  · exact endsNumber_cons (by decide) _
  split
  · exact endsNumber_cons (by decide) _
  · exact endsNumber_cons (by decide) _

/-- Date and time of day of an instant are in range, and stand for it. -/
theorem instant?_of_instant (i : Instant) :
    instant? (Date.ofDayNumber (i.second / 86400)) ((i.second % 86400).toNat / 3600)
      ((i.second % 86400).toNat / 60 % 60)
      ((i.second % 86400).toNat % 60 + if nanosPerSecond ≤ i.nano then 1 else 0)
      (if nanosPerSecond ≤ i.nano then i.nano - nanosPerSecond else i.nano) 0 = some i := by
  obtain ⟨isDate, dayNumber⟩ := Date.dayNumber_ofDayNumber (i.second / 86400)
  have known : Instant.of? i.second i.nano = some i := dif_pos i.valid
  have bounds := i.valid
  simp only [isInstant, Bool.and_eq_true, Bool.or_eq_true, decide_eq_true_eq] at bounds
  generalize isTime : (i.second % 86400).toNat = time
  have total : i.second / 86400 * 86400 + (time : Int) / 3600 * 3600 +
      (time : Int) / 60 % 60 * 60 + (time : Int) % 60 = i.second := by
    omega
  unfold instant?
  rw [dayNumber]
  by_cases leap : nanosPerSecond ≤ i.nano
  · have last : time % 60 = 59 := by omega
    have last' : (time : Int) % 60 = 59 := by omega
    rw [last'] at total
    rw [if_pos (by simp [isDate, leap, last]; omega)]
    simp [leap, last, total, known]
  · have early : ¬time % 60 = 60 := by omega
    rw [if_pos (by simp [isDate, leap]; omega)]
    simp [leap, early, total, known]

/-- **What is written of an instant is read as the instant.** -/
theorem read?_write (i : Instant) : read? (write i) = some i := by
  have stands := instant?_of_instant i
  have bounds := i.valid
  obtain ⟨isDate, -⟩ := Date.dayNumber_ofDayNumber (i.second / 86400)
  simp only [isInstant, Date.isValid, Bool.and_eq_true, Bool.or_eq_true, decide_eq_true_eq]
    at bounds isDate
  unfold write
  dsimp only
  generalize Date.ofDayNumber (i.second / 86400) = date at *
  generalize isTime : (i.second % 86400).toNat = time at *
  -- all numbers but the year have two digits
  have day := isDate.2.trans (Date.daysInMonth_le date.year date.month)
  have second : time % 60 + (if nanosPerSecond ≤ i.nano then 1 else 0) < 100 := by
    split <;> omega
  have nano : (if nanosPerSecond ≤ i.nano then i.nano - nanosPerSecond else i.nano) <
      nanosPerSecond := by
    split <;> omega
  have zone : EndsNumber ['Z'] := endsNumber_cons (by decide) _
  unfold read?
  simp only [List.append_assoc, List.cons_append, Option.bind_eq_bind]
  rw [year?_writeYear _ (endsNumber_cons (by decide) _), Option.bind_some,
    separator?_cons (by decide), Option.bind_some,
    pair?_padded (by omega) (endsNumber_cons (by decide) _), Option.bind_some,
    separator?_cons (by decide), Option.bind_some,
    pair?_padded (by omega) (endsNumber_cons (by decide) _), Option.bind_some,
    middle?, if_pos (by decide), Option.bind_some,
    pair?_padded (by omega) (endsNumber_cons (by decide) _), Option.bind_some,
    separator?_cons (by decide), Option.bind_some,
    pair?_padded (by omega) (endsNumber_cons (by decide) _), Option.bind_some,
    separator?_cons (by decide), Option.bind_some,
    pair?_padded second (endsNumber_writeFraction _ zone), Option.bind_some,
    fraction?_writeFraction nano zone (by decide), Option.bind_some]
  exact stands

end Rfc3339
end Time
end TokenAuthority
