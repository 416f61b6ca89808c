import Mxdx.Worker.Telemetry

/-! The timestamps that the worker reads back, when it finds another worker under
its name. Sums are checked as in a build with overflow checks. -/
namespace Mxdx.Worker

open Calendar (dayFromYear inLeapYear yearFromDay monthOfDay monthStart)

/-- Why a timestamp is not read. -/
inductive TimestampError where
  | rejected (text : String)
  | notANumber
  | panicked
deriving DecidableEq

/-- `first - second` of a `u64`. -/
def subU64 (first second : Nat) : Option Nat :=
  if second ≤ first then some (first - second) else none

/-- The days before each month, without a leap day. -/
def cumulativeDays : List Nat := [0, 31, 59, 90, 120, 151, 181, 212, 243, 273, 304, 334]

/-- The approximate days since 1970, none where a sum, a difference or an index is
out of range. -/
def approximateDays (year month day : Nat) : Option Nat := do
  let whole ← toU64 ((← subU64 year 1970) * 365)
  let days ← toU64 (whole + (← subU64 year 1969) / 4)
  let days ← toU64 (days + (← cumulativeDays[← subU64 month 1]?))
  let days ← toU64 (days + day)
  subU64 days 1

/-- `none` is an overflow. -/
def epochMillis (days hour min sec : Nat) : Option Nat := do
  let epochSecs ← toU64 ((← toU64 (days * 86400)) + (← toU64 (hour * 3600)))
  let epochSecs ← toU64 (epochSecs + (← toU64 (min * 60)))
  let epochSecs ← toU64 (epochSecs + sec)
  toU64 (epochSecs * 1000)

/-- The worker's own reading of a timestamp. -/
def parseIso8601 (ts : String) : Except TimestampError Nat :=
  let ts := (ts.toList.reverse.dropWhile (· = 'Z')).reverse
  match splitOnce 'T' ts with
  | none => .error (.rejected ("invalid ISO 8601 timestamp: " ++ String.ofList ts))
  | some (date, time) =>
      match date.splitOn '-' with
      | [year, month, day] =>
          match parseAsU64 year, parseAsU64 month, parseAsU64 day with
          | some year, some month, some day =>
              match time.splitOn ':' with
              | [hour, min, sec] =>
                  match parseAsU64 hour, parseAsU64 min,
                    parseAsU64 (((sec.splitOn '.').head?).getD ['0']) with
                  | some hour, some min, some sec =>
                      match (approximateDays year month day).bind
                        (epochMillis · hour min sec) with
                      | some millis => .ok millis
                      | none => .error .panicked
                  | _, _, _ => .error .notANumber
              | _ => .error (.rejected "invalid time in timestamp")
          | _, _, _ => .error .notANumber
      | _ => .error (.rejected "invalid date in timestamp")

section Parse

variable {year month day hours minutes seconds : Nat}

theorem trimEnd_concat {c : Char} {text : Text} (h : c ∉ text) :
    ((text ++ [c]).reverse.dropWhile (· = c)).reverse = text := by
  have hFirst : text.reverse.dropWhile (· = c) = text.reverse := by
    cases hText : text.reverse with
    | nil => rfl
    | cons d rest =>
        have hMem : d ∈ text := by
          rw [← List.mem_reverse, hText]
          exact List.mem_cons_self
        have hNe : ¬ d = c := by
          rintro rfl
          exact h hMem
        simp [hNe]
  rw [List.reverse_concat, List.dropWhile_cons_of_pos (by simp), hFirst, List.reverse_reverse]

/-- A timestamp falls apart into the numbers it was put together from. -/
theorem parseIso8601_timestampText (hYear : year < 2 ^ 64) (hMonth : month < 2 ^ 64)
    (hDay : day < 2 ^ 64) (hHours : hours < 2 ^ 64) (hMinutes : minutes < 2 ^ 64)
    (hSeconds : seconds < 2 ^ 64) :
    parseIso8601 (timestampText year month day hours minutes seconds) =
      match (approximateDays year month day).bind (epochMillis · hours minutes seconds) with
      | some millis => .ok millis
      | none => .error .panicked := by
  have hDigit : ∀ {c : Char} {width number : Nat}, c.isDigit = false → c ∉ padded width number :=
    not_mem_padded
  have hStrip : ((timestampText year month day hours minutes seconds).toList.reverse.dropWhile
      (· = 'Z')).reverse = padded 4 year ++ '-' :: (padded 2 month ++ '-' :: padded 2 day) ++
        'T' :: (padded 2 hours ++ ':' :: (padded 2 minutes ++ ':' :: padded 2 seconds)) := by
    rw [toList_timestampText]
    apply trimEnd_concat
    simp [hDigit (by decide : 'Z'.isDigit = false)]
  have hOnce : splitOnce 'T' (padded 4 year ++ '-' :: (padded 2 month ++ '-' :: padded 2 day) ++
      'T' :: (padded 2 hours ++ ':' :: (padded 2 minutes ++ ':' :: padded 2 seconds))) =
      some (padded 4 year ++ '-' :: (padded 2 month ++ '-' :: padded 2 day),
        padded 2 hours ++ ':' :: (padded 2 minutes ++ ':' :: padded 2 seconds)) := by
    apply splitOnce_append
    simp [hDigit (by decide : 'T'.isDigit = false)]
  have hDate : (padded 4 year ++ '-' :: (padded 2 month ++ '-' :: padded 2 day)).splitOn '-' =
      [padded 4 year, padded 2 month, padded 2 day] := by
    rw [List.splitOn_append_cons_self_of_not_mem (hDigit (by decide)),
      List.splitOn_append_cons_self_of_not_mem (hDigit (by decide)),
      List.splitOn_eq_singleton (hDigit (by decide))]
  have hTime : (padded 2 hours ++ ':' :: (padded 2 minutes ++ ':' :: padded 2 seconds)).splitOn
      ':' = [padded 2 hours, padded 2 minutes, padded 2 seconds] := by
    rw [List.splitOn_append_cons_self_of_not_mem (hDigit (by decide)),
      List.splitOn_append_cons_self_of_not_mem (hDigit (by decide)),
      List.splitOn_eq_singleton (hDigit (by decide))]
  have hSec : (((padded 2 seconds).splitOn '.').head?).getD ['0'] = padded 2 seconds := by
    rw [List.splitOn_eq_singleton (hDigit (by decide))]
    rfl
  simp only [parseIso8601, hStrip, hOnce, hDate, hTime, hSec, parseAsU64_padded _ hYear,
    parseAsU64_padded _ hMonth, parseAsU64_padded _ hDay, parseAsU64_padded _ hHours,
    parseAsU64_padded _ hMinutes, parseAsU64_padded _ hSeconds]

end Parse

section Days

/-- The table of the days before a month, without leap days. -/
theorem cumulativeDays_getElem? {month : Nat} (h : month < 12) :
    cumulativeDays[month]? = some (monthStart false month) := by
  have hAll : ∀ month : Fin 12, cumulativeDays[month.val]? = some (monthStart false month) := by
    decide
  exact hAll ⟨month, h⟩

theorem monthStart_le (leap : Bool) {month : Nat} (h : month < 12) :
    monthStart leap month ≤ 335 := by
  have hAll : ∀ leap, ∀ month : Fin 12, monthStart leap month.val ≤ 335 := by decide
  exact hAll leap ⟨month, h⟩

theorem toU64_eq_some_iff {number value : Nat} :
    toU64 number = some value ↔ number < 2 ^ 64 ∧ number = value := by
  rw [toU64, Option.ite_none_right_eq_some, Option.some_inj]

theorem toU64_of_lt {number : Nat} (h : number < 2 ^ 64) : toU64 number = some number := if_pos h

theorem subU64_eq_some_iff {first second value : Nat} :
    subU64 first second = some value ↔ second ≤ first ∧ first - second = value := by
  rw [subU64, Option.ite_none_right_eq_some, Option.some_inj]

theorem cumulativeDays_eq_some_iff {month value : Nat} :
    cumulativeDays[month]? = some value ↔ month < 12 ∧ monthStart false month = value := by
  by_cases hMonth : month < 12
  · simp [cumulativeDays_getElem? hMonth, hMonth]
  · have hLength : cumulativeDays.length ≤ month := Nat.le_of_not_lt hMonth
    simp [List.getElem?_eq_none hLength, hMonth]

/-- The days since 1970 by the approximate rule, counted from one. -/
def approximateDayNumber (year month day : Nat) : Nat :=
  (year - 1970) * 365 + (year - 1969) / 4 + monthStart false (month - 1) + day

/-- The sums are in range exactly when the last one is. -/
theorem approximateDays_eq_some_iff {year month day value : Nat} :
    approximateDays year month day = some value ↔
      (1970 ≤ year ∧ 1 ≤ month ∧ month ≤ 12 ∧ 1 ≤ approximateDayNumber year month day) ∧
        approximateDayNumber year month day < 2 ^ 64 ∧
        approximateDayNumber year month day - 1 = value := by
  unfold approximateDays approximateDayNumber
  simp only [Option.bind_eq_bind]
  constructor
  · intro h
    obtain ⟨_, hYear, h⟩ := Option.bind_eq_some_iff.mp h
    obtain ⟨hFrom, rfl⟩ := subU64_eq_some_iff.mp hYear
    obtain ⟨_, hWhole, h⟩ := Option.bind_eq_some_iff.mp h
    obtain ⟨-, rfl⟩ := toU64_eq_some_iff.mp hWhole
    obtain ⟨_, hLeap, h⟩ := Option.bind_eq_some_iff.mp h
    obtain ⟨-, rfl⟩ := subU64_eq_some_iff.mp hLeap
    obtain ⟨_, hDays, h⟩ := Option.bind_eq_some_iff.mp h
    obtain ⟨-, rfl⟩ := toU64_eq_some_iff.mp hDays
    obtain ⟨_, hMonth, h⟩ := Option.bind_eq_some_iff.mp h
    obtain ⟨hFirst, rfl⟩ := subU64_eq_some_iff.mp hMonth
    obtain ⟨_, hStart, h⟩ := Option.bind_eq_some_iff.mp h
    obtain ⟨hLast, rfl⟩ := cumulativeDays_eq_some_iff.mp hStart
    obtain ⟨_, hSum, h⟩ := Option.bind_eq_some_iff.mp h
    obtain ⟨-, rfl⟩ := toU64_eq_some_iff.mp hSum
    obtain ⟨_, hTotal, h⟩ := Option.bind_eq_some_iff.mp h
    obtain ⟨hFits, rfl⟩ := toU64_eq_some_iff.mp hTotal
    obtain ⟨hPositive, rfl⟩ := subU64_eq_some_iff.mp h
    exact ⟨⟨hFrom, hFirst, by omega, hPositive⟩, hFits, rfl⟩
  · rintro ⟨⟨hFrom, hFirst, hLast, hPositive⟩, hTotal, rfl⟩
    have hSub : ∀ {first second : Nat}, second ≤ first →
        subU64 first second = some (first - second) := fun h => if_pos h
    rw [hSub hFrom, hSub (show 1969 ≤ year by omega), hSub hFirst]
    simp only [Option.bind_some]
    rw [cumulativeDays_getElem? (show month - 1 < 12 by omega)]
    generalize (year - 1970) * 365 = whole at *
    generalize (year - 1969) / 4 = leap at *
    generalize monthStart false (month - 1) = start at *
    rw [toU64_of_lt (show whole < 2 ^ 64 by omega), Option.bind_some,
      toU64_of_lt (show whole + leap < 2 ^ 64 by omega), Option.bind_some, Option.bind_some,
      toU64_of_lt (show whole + leap + start < 2 ^ 64 by omega), Option.bind_some,
      toU64_of_lt hTotal, Option.bind_some, hSub hPositive]

/-- No sum on the way exceeds the last one. -/
theorem partialSums_lt {first second third fourth limit : Nat}
    (h : (first + second + third + fourth) * 1000 < limit) :
    first < limit ∧ second < limit ∧ first + second < limit ∧ third < limit ∧
      first + second + third < limit ∧ first + second + third + fourth < limit := by
  omega

theorem epochMillis_eq_some_iff {days hour min sec value : Nat} :
    epochMillis days hour min sec = some value ↔
      (days * 86400 + hour * 3600 + min * 60 + sec) * 1000 < 2 ^ 64 ∧
        (days * 86400 + hour * 3600 + min * 60 + sec) * 1000 = value := by
  unfold epochMillis
  simp only [Option.bind_eq_bind]
  constructor
  · intro h
    obtain ⟨_, hDays, h⟩ := Option.bind_eq_some_iff.mp h
    obtain ⟨-, rfl⟩ := toU64_eq_some_iff.mp hDays
    obtain ⟨_, hHour, h⟩ := Option.bind_eq_some_iff.mp h
    obtain ⟨-, rfl⟩ := toU64_eq_some_iff.mp hHour
    obtain ⟨_, hSum, h⟩ := Option.bind_eq_some_iff.mp h
    obtain ⟨-, rfl⟩ := toU64_eq_some_iff.mp hSum
    obtain ⟨_, hMin, h⟩ := Option.bind_eq_some_iff.mp h
    obtain ⟨-, rfl⟩ := toU64_eq_some_iff.mp hMin
    obtain ⟨_, hSum, h⟩ := Option.bind_eq_some_iff.mp h
    obtain ⟨-, rfl⟩ := toU64_eq_some_iff.mp hSum
    obtain ⟨_, hSum, h⟩ := Option.bind_eq_some_iff.mp h
    obtain ⟨-, rfl⟩ := toU64_eq_some_iff.mp hSum
    exact toU64_eq_some_iff.mp h
  · rintro ⟨hTotal, rfl⟩
    obtain ⟨hDays, hHour, hFirst, hMin, hSecond, hThird⟩ := partialSums_lt hTotal
    rw [toU64_of_lt hDays, Option.bind_some, toU64_of_lt hHour, Option.bind_some,
      toU64_of_lt hFirst, Option.bind_some, toU64_of_lt hMin, Option.bind_some,
      toU64_of_lt hSecond, Option.bind_some, toU64_of_lt hThird, Option.bind_some,
      toU64_of_lt hTotal]

/-- Nothing is out of range for a date from 1970 to 9999. -/
theorem approximateDays_eq {year month date : Nat} (hFrom : 1970 ≤ year) (hTo : year ≤ 9999)
    (hMonth : month < 12) (hDate : date < 31) :
    approximateDays year (month + 1) (date + 1) =
      some ((year - 1970) * 365 + (year - 1969) / 4 + monthStart false month + date) := by
  have hStart := monthStart_le false hMonth
  apply approximateDays_eq_some_iff.mpr
  unfold approximateDayNumber
  rw [Nat.add_sub_cancel]
  exact ⟨⟨hFrom, by omega, by omega, by omega⟩, by omega, by omega⟩

/-- Nor for a time of a day before the year 10000. -/
theorem epochMillis_eq {days hour min sec : Nat} (hDays : days < 5000000) (hHour : hour < 24)
    (hMin : min < 60) (hSec : sec < 60) :
    epochMillis days hour min sec =
      some ((days * 86400 + hour * 3600 + min * 60 + sec) * 1000) :=
  epochMillis_eq_some_iff.mpr ⟨by omega, rfl⟩

end Days

section Clock

/-- The first second of the year 10000. -/
def endOfYear9999 : Nat := 253402300800

/-- The date is past a leap day of its own year. -/
def PastLeapDay (secs : Nat) : Prop :=
  let days : Int := (secs / 86400 : Nat)
  let leap := inLeapYear (yearFromDay days)
  leap ∧ 2 ≤ monthOfDay leap (days - dayFromYear (yearFromDay days)).toNat

/-- The approximate rule has the leap days right: it counts every fourth year and
forgets the leap day of the current one, so up to 2100 the date must not be past
that day, and from then to 2200, with the year 2100 counted by mistake, it must. -/
def LeapDaysRight (secs : Nat) : Prop :=
  let year := yearFromDay (secs / 86400 : Nat)
  (year ≤ 2100 ∧ ¬ PastLeapDay secs) ∨ (2100 < year ∧ year ≤ 2200 ∧ PastLeapDay secs)

instance (secs : Nat) : Decidable (PastLeapDay secs) := inferInstanceAs (Decidable (_ ∧ _))

instance (secs : Nat) : Decidable (LeapDaysRight secs) := inferInstanceAs (Decidable (_ ∨ _))

theorem monthStart_eq (leap : Bool) (month : Nat) :
    monthStart leap month = monthStart false month + if leap ∧ 2 ≤ month then 1 else 0 := by
  simp [monthStart]

/-- The date of a second up to the year 9999. -/
theorem exists_date {secs : Nat} (h : secs < endOfYear9999) :
    ∃ year month date : Nat, 1970 ≤ year ∧ year ≤ 9999 ∧ month < 12 ∧ date < 31 ∧
      yearFromDay (secs / 86400 : Nat) = year ∧
      (secs / 86400 : Nat) = dayFromYear year + monthStart (inLeapYear year) month + date ∧
      (PastLeapDay secs ↔ inLeapYear year ∧ 2 ≤ month) ∧
      daysToYmd (secs / 86400) = (year, month + 1, date + 1) := by
  have hDays : secs / 86400 < 2932897 := by
    unfold endOfYear9999 at h
    omega
  have hYmd := daysToYmd_eq (secs / 86400)
  obtain ⟨hFrom, hTo⟩ := Calendar.yearFromDay_spec (secs / 86400 : Nat)
  unfold PastLeapDay
  generalize secs / 86400 = days at *
  obtain ⟨year, hYear⟩ : ∃ year : Nat, yearFromDay days = year := by
    refine ⟨(yearFromDay days).toNat, (Int.toNat_of_nonneg ?_).symm⟩
    by_contra hNegative
    have hMono := Calendar.dayFromYear_mono (show yearFromDay days + 1 ≤ 1970 by omega)
    have hEpoch : dayFromYear 1970 = 0 := by decide
    omega
  rw [hYear] at hFrom hTo hYmd ⊢
  have hLow : 1970 ≤ year := by
    by_contra hBelow
    have hMono := Calendar.dayFromYear_mono (show (year : Int) + 1 ≤ 1970 by omega)
    have hEpoch : dayFromYear 1970 = 0 := by decide
    omega
  have hHigh : year ≤ 9999 := by
    by_contra hAbove
    have hMono := Calendar.dayFromYear_mono (show (10000 : Int) ≤ year by omega)
    have hEnd : dayFromYear 10000 = 2932897 := by decide
    omega
  rw [Calendar.dayFromYear_succ] at hTo
  obtain ⟨dayInYear, hInYear⟩ : ∃ dayInYear, ((days : Int) - dayFromYear year).toNat = dayInYear :=
    ⟨_, rfl⟩
  obtain ⟨hMonth, hStart, hEnd⟩ := Calendar.monthOfDay_spec (inLeapYear year)
    (show dayInYear < Calendar.daysInYear (inLeapYear year) by omega)
  have hLength := Calendar.monthStart_succ_le (inLeapYear year) hMonth
  simp only [hYear, hInYear, Int.toNat_natCast] at hYmd ⊢
  exact ⟨year, monthOfDay (inLeapYear year) dayInYear,
    dayInYear - monthStart (inLeapYear year) (monthOfDay (inLeapYear year) dayInYear),
    hLow, hHigh, hMonth, by omega, rfl, by omega, Iff.rfl, hYmd⟩

/-- What the worker makes of the timestamp of a second. -/
theorem parseIso8601_iso8601 {secs : Nat} (h : secs < endOfYear9999) :
    parseIso8601 (iso8601 secs) = .ok (1000 * secs) ↔ LeapDaysRight secs := by
  obtain ⟨year, month, date, hFrom, hTo, hMonth, hDate, hYear, hDays, hPast, hYmd⟩ :=
    exists_date h
  have hFits : ∀ {number : Nat}, number < 10000 → number < 2 ^ 64 := fun hSmall =>
    Nat.lt_of_lt_of_le hSmall (by decide)
  have hStart := monthStart_le false hMonth
  have hLeap := monthStart_eq (inLeapYear year) month
  simp only [iso8601, hYmd]
  rw [parseIso8601_timestampText (hFits (by omega)) (hFits (by omega)) (hFits (by omega))
    (hFits (by omega)) (hFits (by omega)) (hFits (by omega)),
    approximateDays_eq hFrom hTo hMonth hDate, Option.bind_some,
    epochMillis_eq (by omega) (by omega) (by omega) (by omega)]
  simp only [LeapDaysRight, hYear, hPast, Except.ok.injEq]
  simp only [dayFromYear] at hDays
  split_ifs at hLeap with hPassed
  · simp only [hPassed, and_self, not_true_eq_false, and_false, false_or, and_true]
    omega
  · simp only [hPassed, not_false_eq_true, and_true, and_false, or_false]
    omega

end Clock

end Mxdx.Worker
