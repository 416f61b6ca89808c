import Mathlib.Algebra.Order.Ring.Int
import Mathlib.Data.Nat.Find
import Mathlib.Tactic.Common

/-! Points in time as whole milliseconds since the first of January 1970, the
dates of the Gregorian calendar that they fall on, and the texts
`YYYY-MM-DDTHH:mm:ss.sssZ` that write them down. -/
namespace Calendar

section Days

/-- The day that a year begins with. -/
def dayFromYear (year : Int) : Int :=
  365 * (year - 1970) + (year - 1969) / 4 - (year - 1901) / 100 + (year - 1601) / 400

/-- The rule of four, a hundred and four hundred years. -/
def inLeapYear (year : Int) : Bool :=
  year % 4 = 0 ∧ (year % 100 ≠ 0 ∨ year % 400 = 0)

def daysInYear (leap : Bool) : Nat := if leap then 366 else 365

theorem dayFromYear_succ (year : Int) :
    dayFromYear (year + 1) = dayFromYear year + daysInYear (inLeapYear year) := by
  simp only [dayFromYear, daysInYear, inLeapYear, decide_eq_true_eq]
  split <;> omega

/-- The year of a day. There are 146097 days in 400 years, so the guess misses it
by one at most. -/
def yearFromDay (day : Int) : Int :=
  let guess := 1970 + day * 400 / 146097
  if day < dayFromYear guess then guess - 1
  else if day < dayFromYear (guess + 1) then guess
  else guess + 1

theorem yearFromDay_spec (day : Int) :
    dayFromYear (yearFromDay day) ≤ day ∧ day < dayFromYear (yearFromDay day + 1) := by
  have hBelow : dayFromYear (1970 + day * 400 / 146097 - 1) ≤ day := by
    simp only [dayFromYear]
    omega
  have hAbove : day < dayFromYear (1970 + day * 400 / 146097 + 1 + 1) := by
    simp only [dayFromYear]
    omega
  dsimp only [yearFromDay]
  split_ifs with hFirst hSecond
  · exact ⟨hBelow, by simpa using hFirst⟩
  · exact ⟨not_lt.mp hFirst, hSecond⟩
  · exact ⟨not_lt.mp hSecond, hAbove⟩

theorem dayFromYear_mono {first second : Int} (h : first ≤ second) :
    dayFromYear first ≤ dayFromYear second := by
  simp only [dayFromYear]
  omega

/-- There is one year for a day. -/
theorem yearFromDay_eq {day year : Int} (hFrom : dayFromYear year ≤ day)
    (hTo : day < dayFromYear (year + 1)) : yearFromDay day = year := by
  obtain ⟨hFound, hNext⟩ := yearFromDay_spec day
  apply le_antisymm
  · by_contra hAbove
    have hMono := dayFromYear_mono (show year + 1 ≤ yearFromDay day by omega)
    omega
  · by_contra hBelow
    have hMono := dayFromYear_mono (show yearFromDay day + 1 ≤ year by omega)
    omega

end Days

section Months

/-- The days of a year before its month, counted from zero. -/
def monthStart (leap : Bool) (month : Nat) : Nat :=
  [0, 31, 59, 90, 120, 151, 181, 212, 243, 273, 304, 334, 365].getD month 365 +
    if leap ∧ 2 ≤ month then 1 else 0

/-- The month of a day, counted from zero. -/
def monthOfDay (leap : Bool) (dayInYear : Nat) : Nat :=
  ((List.range 11).filter fun month => monthStart leap (month + 1) ≤ dayInYear).length

theorem monthStart_succ_le (leap : Bool) {month : Nat} (h : month < 12) :
    monthStart leap (month + 1) ≤ monthStart leap month + 31 := by
  have hAll : ∀ leap, ∀ month : Fin 12,
      monthStart leap (month + 1) ≤ monthStart leap month + 31 := by decide
  exact hAll leap ⟨month, h⟩

theorem monthStart_mono (leap : Bool) {first second : Nat} (h : first ≤ second)
    (hSecond : second ≤ 12) : monthStart leap first ≤ monthStart leap second := by
  have hAll : ∀ leap, ∀ first second : Fin 13, first ≤ second →
      monthStart leap first ≤ monthStart leap second := by decide +kernel
  exact hAll leap ⟨first, by omega⟩ ⟨second, by omega⟩ h

/-- The months do not overlap. -/
theorem monthOfDay_eq {leap : Bool} {month dayInYear : Nat} (hMonth : month < 12)
    (hFrom : monthStart leap month ≤ dayInYear) (hTo : dayInYear < monthStart leap (month + 1)) :
    monthOfDay leap dayInYear = month := by
  have hBefore : ∀ earlier ∈ List.range 11,
      decide (monthStart leap (earlier + 1) ≤ dayInYear) = decide (earlier < month) := by
    intro earlier hEarlier
    have hElevenths := List.mem_range.mp hEarlier
    refine decide_eq_decide.mpr ⟨fun h => ?_, fun h => ?_⟩
    · by_contra hLater
      have := monthStart_mono leap (show month + 1 ≤ earlier + 1 by omega) (by omega)
      omega
    · exact (monthStart_mono leap h (by omega)).trans hFrom
  have hCount : ∀ month : Fin 12, ((List.range 11).filter (· < month.val)).length = month.val := by
    decide
  rw [monthOfDay, List.filter_congr hBefore]
  exact hCount ⟨month, hMonth⟩

theorem monthOfDay_spec (leap : Bool) {dayInYear : Nat} (h : dayInYear < daysInYear leap) :
    monthOfDay leap dayInYear < 12 ∧ monthStart leap (monthOfDay leap dayInYear) ≤ dayInYear ∧
      dayInYear < monthStart leap (monthOfDay leap dayInYear + 1) := by
  obtain ⟨month, hMonth⟩ :
      ∃ month, Nat.findGreatest (monthStart leap · ≤ dayInYear) 11 = month := ⟨_, rfl⟩
  have hTwelve : month < 12 := by
    have := Nat.findGreatest_le (P := (monthStart leap · ≤ dayInYear)) 11
    omega
  have hFrom : monthStart leap month ≤ dayInYear := by
    rw [← hMonth]
    refine Nat.findGreatest_spec (P := (monthStart leap · ≤ dayInYear)) (Nat.zero_le 11) ?_
    cases leap <;> exact Nat.zero_le _
  have hTo : dayInYear < monthStart leap (month + 1) := by
    by_cases hLast : month = 11
    · subst hLast
      cases leap <;> exact h
    · have hNext := Nat.findGreatest_is_greatest (P := (monthStart leap · ≤ dayInYear))
        (show _ < month + 1 by rw [hMonth]; exact Nat.lt_succ_self month) (by omega)
      exact Nat.lt_of_not_le hNext
  rw [monthOfDay_eq hTwelve hFrom hTo]
  exact ⟨hTwelve, hFrom, hTo⟩

end Months

section Digits

/-- The character of a digit. -/
def digit (n : Nat) : Char := Char.ofNat (48 + n)

/-- The lowest decimal digits of a number. -/
def digits : Nat → Nat → List Char
  | 0, _ => []
  | width + 1, n => digits width (n / 10) ++ [digit (n % 10)]

/-- The digit at the beginning of a text. -/
def readDigit : List Char → Option (Nat × List Char)
  | [] => none
  | c :: rest => if c.isDigit then some (c.toNat - 48, rest) else none

/-- A number of so many decimal digits. -/
def readDigits : Nat → List Char → Option (Nat × List Char)
  | 0, text => some (0, text)
  | width + 1, text => do
      let (high, rest) ← readDigits width text
      let (low, rest) ← readDigit rest
      return (high * 10 + low, rest)

/-- A character that has to be there. -/
def expect (wanted : Char) : List Char → Option (List Char)
  | [] => none
  | c :: rest => if c = wanted then some rest else none

@[simp] theorem expect_cons (wanted : Char) (rest : List Char) :
    expect wanted (wanted :: rest) = some rest :=
  if_pos rfl

theorem readDigit_digit {n : Nat} (h : n < 10) (rest : List Char) :
    readDigit (digit n :: rest) = some (n, rest) := by
  have hAll : ∀ n : Fin 10, (digit n).isDigit ∧ (digit n).toNat - 48 = n := by decide
  obtain ⟨hDigit, hValue⟩ := hAll ⟨n, h⟩
  simp [readDigit, hDigit, hValue]

theorem readDigits_digits (width : Nat) {n : Nat} (h : n < 10 ^ width) (rest : List Char) :
    readDigits width (digits width n ++ rest) = some (n, rest) := by
  induction width generalizing n rest with
  | zero =>
      have hZero : n = 0 := by simpa using h
      simp [readDigits, digits, hZero]
  | succ width ih =>
      have hHigh : n / 10 < 10 ^ width := by
        rw [pow_succ] at h
        omega
      have hRead := ih hHigh (digit (n % 10) :: rest)
      have hLow := readDigit_digit (Nat.mod_lt n (by decide)) rest
      have hParts : n / 10 * 10 + n % 10 = n := by omega
      simp [readDigits, digits, hRead, hLow, hParts]

end Digits

section Texts

def msPerDay : Nat := 86400000

/-- No point in time is further away than this. -/
def maxTime : Nat := 8640000000000000

/-- A year of four digits, or a sign and six. -/
def yearText (year : Int) : List Char :=
  if 0 ≤ year ∧ year ≤ 9999 then digits 4 year.toNat
  else (if 0 ≤ year then '+' else '-') :: digits 6 year.natAbs

def readYear : List Char → Option (Int × List Char)
  | '+' :: rest => do
      let (year, rest) ← readDigits 6 rest
      return (year, rest)
  | '-' :: rest => do
      let (year, rest) ← readDigits 6 rest
      if year = 0 then none else return (-year, rest)
  | text => do
      let (year, rest) ← readDigits 4 text
      return (year, rest)

/-- The time of the day, in milliseconds. -/
def clockText (time : Nat) : List Char :=
  'T' :: (digits 2 (time / 3600000) ++ ':' :: (digits 2 (time / 60000 % 60) ++
    ':' :: (digits 2 (time / 1000 % 60) ++ '.' :: (digits 3 (time % 1000) ++ ['Z']))))

def readClock (text : List Char) : Option Nat := do
  let (hour, rest) ← readDigits 2 (← expect 'T' text)
  let (minute, rest) ← readDigits 2 (← expect ':' rest)
  let (second, rest) ← readDigits 2 (← expect ':' rest)
  let (ms, rest) ← readDigits 3 (← expect '.' rest)
  if rest = ['Z'] ∧ hour < 24 ∧ minute < 60 ∧ second < 60 then
    return hour * 3600000 + minute * 60000 + second * 1000 + ms
  else none

/-- A day, as its year, month and number in the month. -/
def dayText (day : Int) : List Char :=
  let year := yearFromDay day
  let dayInYear := (day - dayFromYear year).toNat
  let month := monthOfDay (inLeapYear year) dayInYear
  yearText year ++ '-' :: (digits 2 (month + 1) ++
    '-' :: digits 2 (dayInYear - monthStart (inLeapYear year) month + 1))

def readDay (text : List Char) : Option (Int × List Char) := do
  let (year, rest) ← readYear text
  let (month, rest) ← readDigits 2 (← expect '-' rest)
  let (date, rest) ← readDigits 2 (← expect '-' rest)
  let leap := inLeapYear year
  if 1 ≤ month ∧ month ≤ 12 ∧ 1 ≤ date ∧
      date ≤ monthStart leap month - monthStart leap (month - 1) then
    return (dayFromYear year + (monthStart leap (month - 1) + (date - 1) : Nat), rest)
  else none

/-- The date, the time of the day and the zone. -/
def toISOString (time : Int) : String :=
  String.ofList (dayText (time / msPerDay) ++ clockText (time % msPerDay).toNat)

/-- The point in time that a text of this form stands for. -/
def ofISOString (text : String) : Option Int := do
  let (day, rest) ← readDay text.toList
  let clock ← readClock rest
  let time := day * msPerDay + clock
  if time.natAbs ≤ maxTime then return time else none

theorem digit_ne {n : Nat} (h : n < 10) : digit n ≠ '+' ∧ digit n ≠ '-' := by
  have hAll : ∀ n : Fin 10, digit n ≠ '+' ∧ digit n ≠ '-' := by decide
  exact hAll ⟨n, h⟩

theorem readYear_yearText {year : Int} (h : year.natAbs < 1000000) (rest : List Char) :
    readYear (yearText year ++ rest) = some (year, rest) := by
  unfold yearText
  split_ifs with hFour hSign
  · have hYear : year.toNat < 10 ^ 4 := by omega
    have hRead := readDigits_digits 4 hYear rest
    have hValue : (year.toNat : Int) = year := Int.toNat_of_nonneg hFour.1
    obtain ⟨hPlus, hMinus⟩ := digit_ne (Nat.mod_lt (year.toNat / 10 / 10 / 10) (by decide : 0 < 10))
    unfold readYear
    split
    next hText => simp [digits, hPlus] at hText
    next hText => simp [digits, hMinus] at hText
    next => simp [hRead, hValue]
  · have hRead := readDigits_digits 6 h rest
    have hValue : (year.natAbs : Int) = year := Int.natAbs_of_nonneg hSign
    simp only [List.cons_append, readYear, hRead]
    exact congrArg (fun value => some (value, rest)) hValue
  · have hRead := readDigits_digits 6 h rest
    have hValue : -(year.natAbs : Int) = year := by omega
    have hNonzero : year.natAbs ≠ 0 := by omega
    simp only [List.cons_append, readYear, hRead]
    simpa [hNonzero] using hValue

theorem readClock_clockText {time : Nat} (h : time < msPerDay) :
    readClock (clockText time) = some time := by
  have hDay : msPerDay = 86400000 := rfl
  have hHour := readDigits_digits 2 (show time / 3600000 < 10 ^ 2 by omega)
  have hMinute := readDigits_digits 2 (show time / 60000 % 60 < 10 ^ 2 by omega)
  have hSecond := readDigits_digits 2 (show time / 1000 % 60 < 10 ^ 2 by omega)
  have hMs := readDigits_digits 3 (show time % 1000 < 10 ^ 3 by omega)
  have hBounds : time / 3600000 < 24 ∧ time / 60000 % 60 < 60 ∧ time / 1000 % 60 < 60 := by omega
  simp [readClock, clockText, hHour, hMinute, hSecond, hMs, hBounds]
  omega

/-- The years of the days that times fall on have six digits at most. -/
theorem natAbs_yearFromDay_lt {day : Int} (h : day.natAbs ≤ 100000001) :
    (yearFromDay day).natAbs < 1000000 := by
  obtain ⟨hFrom, hTo⟩ := yearFromDay_spec day
  simp only [dayFromYear] at hFrom hTo
  omega

theorem readDay_dayText {day : Int} (h : day.natAbs ≤ 100000001) (rest : List Char) :
    readDay (dayText day ++ rest) = some (day, rest) := by
  obtain ⟨hFrom, hTo⟩ := yearFromDay_spec day
  rw [dayFromYear_succ] at hTo
  dsimp only [dayText]
  generalize hYear : yearFromDay day = year at *
  generalize hInYear : (day - dayFromYear year).toNat = dayInYear
  obtain ⟨hMonth, hStart, hEnd⟩ := monthOfDay_spec (inLeapYear year)
    (show dayInYear < daysInYear (inLeapYear year) by omega)
  generalize monthOfDay (inLeapYear year) dayInYear = month at *
  have hLength := monthStart_succ_le (inLeapYear year) hMonth
  have hReadYear := readYear_yearText (hYear ▸ natAbs_yearFromDay_lt h)
  have hReadMonth := readDigits_digits 2 (show month + 1 < 10 ^ 2 by omega)
  have hReadDate := readDigits_digits 2
    (show dayInYear - monthStart (inLeapYear year) month + 1 < 10 ^ 2 by omega)
  have hDate : dayInYear - monthStart (inLeapYear year) month + 1 ≤
      monthStart (inLeapYear year) (month + 1) - monthStart (inLeapYear year) month := by omega
  simp [readDay, hReadYear, hReadMonth, hReadDate, hDate, Nat.succ_le_of_lt hMonth]
  omega

/-- A time that is not too far away comes back from its text. -/
theorem ofISOString_toISOString {time : Int} (h : time.natAbs ≤ maxTime) :
    ofISOString (toISOString time) = some time := by
  simp only [maxTime] at h
  unfold toISOString
  generalize hDay : time / (msPerDay : Nat) = day
  generalize hClock : (time % (msPerDay : Nat)).toNat = clock
  simp only [msPerDay] at hDay hClock
  have hReadDay := readDay_dayText (show day.natAbs ≤ 100000001 by omega)
  have hReadClock := readClock_clockText (show clock < 86400000 by omega)
  have hParts : day * 86400000 + clock = time := by omega
  simp [ofISOString, hReadDay, hReadClock, msPerDay, hParts, maxTime, h]

example : toISOString 1709208000123 = "2024-02-29T12:00:00.123Z" := by decide +kernel

example : toISOString (-62167219200001) = "-000001-12-31T23:59:59.999Z" := by decide +kernel

end Texts

end Calendar
