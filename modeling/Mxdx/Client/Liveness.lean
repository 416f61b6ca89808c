import Mathlib.Tactic.IntervalCases
import Mxdx.Worker.Timestamp

/-! The timestamps by which the client judges whether a worker is alive. Sums are
checked as in a build with overflow checks. -/
namespace Mxdx.Client

open Calendar (dayFromYear inLeapYear monthStart)
open Worker (Text parseDigits parseAsU64 toU64 toU64_eq_some_iff toU64_of_lt splitOnce padded
  timestampText iso8601 endOfYear9999)

/-- No value, or no return. -/
inductive ParseFailure where
  | rejected
  | panicked
deriving DecidableEq

/-- The parser returns an error. -/
def orRejected {α : Type} (value : Option α) : Except ParseFailure α :=
  value.elim (.error .rejected) .ok

/-- The parser panics. -/
def orPanicked {α : Type} (value : Option α) : Except ParseFailure α :=
  value.elim (.error .panicked) .ok

/-- Values of an `i64`. -/
def toI64 (number : Int) : Option Int :=
  if -2 ^ 63 ≤ number ∧ number < 2 ^ 63 then some number else none

/-- `str::parse::<i64>`: an optional sign, digits, and no overflow. -/
def parseI64 : Text → Option Int
  | '-' :: digits => (parseDigits digits).bind fun number => toI64 (-number)
  | '+' :: digits => (parseDigits digits).bind fun number => toI64 number
  | digits => (parseDigits digits).bind fun number => toI64 number

/-- `strip_suffix`. -/
def stripSuffix (suffix text : Text) : Option Text :=
  if suffix.isSuffixOf text then some (text.take (text.length - suffix.length)) else none

/-- `str::splitn`. -/
def splitN : Nat → Char → Text → List Text
  | 0, _, _ => []
  | 1, _, text => [text]
  | count + 2, separator, text =>
      match splitOnce separator text with
      | none => [text]
      | some (part, rest) => part :: splitN (count + 1) separator rest

/-- The first `count` bytes, or all; none where they end inside a character. -/
def sliceTo : Nat → Text → Option Text
  | 0, _ => some []
  | _, [] => some []
  | count + 1, c :: rest =>
      if c.utf8Size ≤ count + 1 then (sliceTo (count + 1 - c.utf8Size) rest).map (c :: ·) else none

/-- Days since 1970, counted in years that begin in March. Only a year far away
makes a sum too large. -/
def daysFromCivil (year month day : Int) : Option Int := do
  let y ← (if month ≤ 2 then toI64 (year - 1) else some year : Option Int)
  let shifted ← (if 0 ≤ y then some y else toI64 (y - 399) : Option Int)
  let era := shifted.tdiv 400
  let yoe := (y - era * 400).toNat
  let m := month.toNat
  let doy :=
    if 2 < m then (153 * (m - 3) + 2) / 5 + day.toNat - 1
    else (153 * (m + 9) + 2) / 5 + day.toNat - 1
  let doe := yoe * 365 + yoe / 4 - yoe / 100 + doy
  let days ← toI64 ((← toI64 (era * 146097)) + doe)
  toI64 (days - 719468)

def epochMs (days : Int) (hour minute second fracMs : Nat) : Option Nat := do
  let ms ← toU64 ((days % 2 ^ 64).toNat * 86400000)
  let ms ← toU64 (ms + hour * 3600000)
  let ms ← toU64 (ms + minute * 60000)
  let ms ← toU64 (ms + second * 1000)
  toU64 (ms + fracMs)

/-- The time without its fraction, and the fraction in milliseconds. -/
def splitFraction (timePart : Text) : Except ParseFailure (Text × Nat) :=
  match splitOnce '.' timePart with
  | some (main, frac) => do
      let fracStr ← orPanicked (sliceTo 3 frac)
      let ms ← orRejected (parseAsU64 (fracStr ++ List.replicate (3 - fracStr.length) '0'))
      return (main, ms)
  | none => return (timePart, 0)

/-- The client's own reading of a timestamp, by the civil calendar. -/
def parseIso8601ToEpochMs (s : String) : Except ParseFailure Nat := do
  let s ← orRejected ((stripSuffix ['Z'] s.toList).or (stripSuffix "+00:00".toList s.toList))
  let (datePart, timePart) ← orRejected (splitOnce 'T' s)
  match splitN 3 '-' datePart with
  | [year, month, day] =>
      let year ← orRejected (parseI64 year)
      let month ← orRejected (parseAsU64 month)
      let day ← orRejected (parseAsU64 day)
      if 1 ≤ month ∧ month ≤ 12 ∧ 1 ≤ day ∧ day ≤ 31 then
        let (timeMain, fracMs) ← splitFraction timePart
        match splitN 3 ':' timeMain with
        | [hour, minute, second] =>
            let hour ← orRejected (parseAsU64 hour)
            let minute ← orRejected (parseAsU64 minute)
            let second ← orRejected (parseAsU64 second)
            if hour ≤ 23 ∧ minute ≤ 59 ∧ second ≤ 60 then
              let days ← orPanicked (daysFromCivil year month day)
              orPanicked (epochMs days hour minute second fracMs)
            else .error .rejected
        | _ => .error .rejected
      else .error .rejected
  | _ => .error .rejected

section Parse

@[simp] theorem orRejected_some {α : Type} (value : α) : orRejected (some value) = .ok value := rfl

@[simp] theorem orPanicked_some {α : Type} (value : α) : orPanicked (some value) = .ok value := rfl

theorem parseI64_padded (width : Nat) {number : Nat} (h : number < 2 ^ 63) :
    parseI64 (padded width number) = some (number : Int) := by
  have hFits : toI64 number = some (number : Int) := if_pos (by omega)
  have hRead : (parseDigits (padded width number)).bind (fun number => toI64 number) =
      some (number : Int) := by
    rw [Worker.parseDigits_padded, Option.bind_some, hFits]
  have hSign : ∀ {c : Char} {digits : Text}, c.isDigit = false →
      padded width number ≠ c :: digits := by
    intro c digits hDigit hText
    have hMem : c ∉ padded width number := Worker.not_mem_padded hDigit
    rw [hText] at hMem
    exact hMem List.mem_cons_self
  unfold parseI64
  split
  · rename_i hText
    exact absurd hText (hSign (by decide))
  · rename_i hText
    exact absurd hText (hSign (by decide))
  · exact hRead

theorem splitN_three {separator : Char} {first second : Text} (third : Text)
    (hFirst : separator ∉ first) (hSecond : separator ∉ second) :
    splitN 3 separator (first ++ separator :: (second ++ separator :: third)) =
      [first, second, third] := by
  simp only [splitN, Worker.splitOnce_append _ hFirst, Worker.splitOnce_append _ hSecond]

theorem stripSuffix_append (suffix text : Text) :
    stripSuffix suffix (text ++ suffix) = some text := by
  have hSuffix : suffix.isSuffixOf (text ++ suffix) = true :=
    List.isSuffixOf_iff_suffix.mpr (List.suffix_append _ _)
  simp [stripSuffix, hSuffix]

variable {year month day hours minutes seconds : Nat}

/-- A timestamp falls apart into the numbers it was put together from. -/
theorem parseIso8601ToEpochMs_timestampText (hYear : year < 2 ^ 63)
    (hMonth : 1 ≤ month ∧ month ≤ 12) (hDay : 1 ≤ day ∧ day ≤ 31) (hHours : hours ≤ 23)
    (hMinutes : minutes ≤ 59) (hSeconds : seconds ≤ 60) {days : Int}
    (hDays : daysFromCivil year month day = some days) :
    parseIso8601ToEpochMs (timestampText year month day hours minutes seconds) =
      orPanicked (epochMs days hours minutes seconds 0) := by
  have hDigit : ∀ {c : Char} {width number : Nat}, c.isDigit = false → c ∉ padded width number :=
    Worker.not_mem_padded
  have hFits : ∀ {number : Nat}, number ≤ 60 → number < 2 ^ 64 := fun hSmall =>
    Nat.lt_of_le_of_lt hSmall (by decide)
  have hOnce : splitOnce 'T' (padded 4 year ++ '-' :: (padded 2 month ++ '-' :: padded 2 day) ++
      'T' :: (padded 2 hours ++ ':' :: (padded 2 minutes ++ ':' :: padded 2 seconds))) =
      some (padded 4 year ++ '-' :: (padded 2 month ++ '-' :: padded 2 day),
        padded 2 hours ++ ':' :: (padded 2 minutes ++ ':' :: padded 2 seconds)) := by
    apply Worker.splitOnce_append
    simp [hDigit (by decide : 'T'.isDigit = false)]
  have hFraction : splitOnce '.'
      (padded 2 hours ++ ':' :: (padded 2 minutes ++ ':' :: padded 2 seconds)) = none := by
    apply Worker.splitOnce_eq_none
    simp [hDigit (by decide : '.'.isDigit = false)]
  have hMonthFits := hFits (Nat.le_trans hMonth.2 (by decide))
  have hDayFits := hFits (Nat.le_trans hDay.2 (by decide))
  have hHoursFits := hFits (Nat.le_trans hHours (by decide))
  have hMinutesFits := hFits (Nat.le_trans hMinutes (by decide))
  have hRange : 1 ≤ month ∧ month ≤ 12 ∧ 1 ≤ day ∧ day ≤ 31 := ⟨hMonth.1, hMonth.2, hDay⟩
  have hClock : hours ≤ 23 ∧ minutes ≤ 59 ∧ seconds ≤ 60 := ⟨hHours, hMinutes, hSeconds⟩
  unfold parseIso8601ToEpochMs splitFraction
  rw [Worker.toList_timestampText, stripSuffix_append]
  simp only [Option.some_or, orRejected_some, bind, Except.bind, hOnce,
    splitN_three _ (hDigit (by decide : '-'.isDigit = false)) (hDigit (by decide)),
    parseI64_padded _ hYear, Worker.parseAsU64_padded _ hMonthFits,
    Worker.parseAsU64_padded _ hDayFits, if_pos hRange, hFraction, pure, Except.pure,
    splitN_three _ (hDigit (by decide : ':'.isDigit = false)) (hDigit (by decide)),
    Worker.parseAsU64_padded _ hHoursFits, Worker.parseAsU64_padded _ hMinutesFits,
    Worker.parseAsU64_padded _ (hFits hSeconds), if_pos hClock, hDays, orPanicked_some]

end Parse

section Days

variable {year : Int} {month day : Nat}

theorem toI64_eq_some_iff {number value : Int} :
    toI64 number = some value ↔ (-2 ^ 63 ≤ number ∧ number < 2 ^ 63) ∧ number = value := by
  rw [toI64, Option.ite_none_right_eq_some, Option.some_inj]

/-- The day of a date, counted from the first of January 1970. -/
def civilDay (year : Int) (month day : Nat) : Int :=
  dayFromYear year + monthStart (inLeapYear year) (month - 1) + day - 1

/-- The year of a date where years begin in March. -/
def marchYear (year : Int) (month : Nat) : Int := if month ≤ 2 then year - 1 else year

/-- The days of such a year before a date. -/
def marchDay (month day : Nat) : Nat :=
  if 2 < month then (153 * (month - 3) + 2) / 5 + day - 1
  else (153 * (month + 9) + 2) / 5 + day - 1

theorem marchDay_eq (hDate : 1 ≤ month ∧ month ≤ 12 ∧ 1 ≤ day ∧ day ≤ 31) :
    marchDay month day + 60 =
      monthStart false (month - 1) + day + if month ≤ 2 then 365 else 0 := by
  obtain ⟨hFirst, hLast, hDay⟩ := hDate
  unfold marchDay
  interval_cases month <;> simp [monthStart] <;> omega

theorem marchDay_lt (hDate : 1 ≤ month ∧ month ≤ 12 ∧ 1 ≤ day ∧ day ≤ 31) :
    marchDay month day < 400 := by
  unfold marchDay
  split_ifs <;> omega

/-- A year from January to December has the leap days of the year from March on. -/
theorem civilDay_eq_march (hDate : 1 ≤ month ∧ month ≤ 12 ∧ 1 ≤ day ∧ day ≤ 31) :
    civilDay year month day =
      marchYear year month * 365 + marchYear year month / 4 - marchYear year month / 100 +
        marchYear year month / 400 + marchDay month day - 719468 := by
  have hMarch := marchDay_eq hDate
  unfold civilDay marchYear dayFromYear
  rw [Worker.monthStart_eq]
  by_cases hEarly : month ≤ 2
  · rw [if_pos hEarly] at hMarch ⊢
    rw [if_neg (by omega)]
    omega
  · rw [if_neg hEarly] at hMarch ⊢
    unfold inLeapYear
    split_ifs with hLeap
    · have hYear : year % 4 = 0 ∧ (year % 100 ≠ 0 ∨ year % 400 = 0) := by simpa using hLeap.1
      omega
    · have hYear : ¬ (year % 4 = 0 ∧ (year % 100 ≠ 0 ∨ year % 400 = 0)) := fun hYear =>
        hLeap ⟨by simpa using hYear, by omega⟩
      omega

/-- The quotient is rounded towards zero, and what is taken off before makes it
round down. -/
theorem era_eq (year : Int) : (if 0 ≤ year then year else year - 399).tdiv 400 = year / 400 := by
  split_ifs with hSign
  · exact Int.tdiv_eq_ediv_of_nonneg hSign
  · rw [show year - 399 = -(399 - year) by omega, Int.neg_tdiv,
      Int.tdiv_eq_ediv_of_nonneg (by omega)]
    omega

/-- The days that the eras leave over. -/
def eraDay (year : Int) (month day : Nat) : Nat :=
  let yoe := (year - year / 400 * 400).toNat
  yoe * 365 + yoe / 4 - yoe / 100 + marchDay month day

theorem eras_add_eraDay (year : Int)
    (hDate : 1 ≤ month ∧ month ≤ 12 ∧ 1 ≤ day ∧ day ≤ 31) :
    marchYear year month / 400 * 146097 + eraDay (marchYear year month) month day - 719468 =
      civilDay year month day := by
  rw [civilDay_eq_march hDate]
  dsimp only [eraDay]
  generalize marchYear year month = y
  generalize marchDay month day = doy
  omega

/-- The days, if they come out at all, are those of the date. -/
theorem civilDay_of_daysFromCivil {days : Int}
    (hDate : 1 ≤ month ∧ month ≤ 12 ∧ 1 ≤ day ∧ day ≤ 31)
    (h : daysFromCivil year month day = some days) :
    civilDay year month day = days ∧ -2 ^ 63 ≤ days ∧ days < 2 ^ 63 := by
  simp only [daysFromCivil, Option.bind_eq_bind] at h
  obtain ⟨y, hYear, h⟩ := Option.bind_eq_some_iff.mp h
  obtain ⟨shifted, hShifted, h⟩ := Option.bind_eq_some_iff.mp h
  obtain ⟨_, hEras, h⟩ := Option.bind_eq_some_iff.mp h
  obtain ⟨-, rfl⟩ := toI64_eq_some_iff.mp hEras
  obtain ⟨_, hSum, h⟩ := Option.bind_eq_some_iff.mp h
  obtain ⟨-, rfl⟩ := toI64_eq_some_iff.mp hSum
  obtain ⟨hRange, hDays⟩ := toI64_eq_some_iff.mp h
  have hMarch : marchYear year month = y := by
    unfold marchYear
    split_ifs at hYear ⊢
    · exact (toI64_eq_some_iff.mp hYear).2
    · omega
    · omega
    · exact Option.some.inj hYear
  have hEra : shifted.tdiv 400 = y / 400 := by
    rw [← era_eq]
    split_ifs at hShifted ⊢
    · rw [Option.some.inj hShifted]
    · rw [(toI64_eq_some_iff.mp hShifted).2]
  have hSame := eras_add_eraDay year hDate
  rw [hMarch] at hSame
  have hTotal : y / 400 * 146097 + eraDay y month day - 719468 = days := by
    simpa only [hEra, eraDay, marchDay, Int.toNat_natCast] using hDays
  rw [hDays] at hRange
  exact ⟨hSame.symm.trans hTotal, hRange⟩

theorem marchYear_range (hDate : 1 ≤ month ∧ month ≤ 12 ∧ 1 ≤ day ∧ day ≤ 31)
    (hFrom : 0 ≤ civilDay year month day) (hTo : civilDay year month day < 2 ^ 40) :
    1900 ≤ marchYear year month ∧ marchYear year month < 2 ^ 40 := by
  rw [civilDay_eq_march hDate] at hFrom hTo
  have hDay := marchDay_lt hDate
  omega

/-- The sums that are left once the year, its number in the era and the day are known. -/
theorem daysFromCivil_of_year {year month day y era : Int} {yoe doy : Nat}
    (hY : (if month ≤ 2 then toI64 (year - 1) else some year : Option Int) = some y)
    (hNonneg : 0 ≤ y) (hEra : y.tdiv 400 = era) (hYoe : (y - era * 400).toNat = yoe)
    (hDoy : (if 2 < month.toNat then (153 * (month.toNat - 3) + 2) / 5 + day.toNat - 1
      else (153 * (month.toNat + 9) + 2) / 5 + day.toNat - 1) = doy) :
    daysFromCivil year month day =
      (toI64 (era * 146097)).bind fun days =>
        (toI64 (days + (yoe * 365 + yoe / 4 - yoe / 100 + doy : Nat))).bind fun days =>
          toI64 (days - 719468) := by
  subst hEra hYoe hDoy
  simp only [daysFromCivil, hY, Option.bind_eq_bind, Option.bind_some, if_pos hNonneg]

/-- Nothing overflows on the way to a day since 1970 that is not too far away. -/
theorem daysFromCivil_of_civilDay (hDate : 1 ≤ month ∧ month ≤ 12 ∧ 1 ≤ day ∧ day ≤ 31)
    (hFrom : 0 ≤ civilDay year month day) (hTo : civilDay year month day < 2 ^ 40) :
    daysFromCivil year month day = some (civilDay year month day) := by
  have hSame := eras_add_eraDay year hDate
  obtain ⟨hLow, hHigh⟩ := marchYear_range hDate hFrom hTo
  have hYear : (if (month : Int) ≤ 2 then toI64 (year - 1) else some year) =
      some (marchYear year month) := by
    unfold marchYear at hLow hHigh ⊢
    split_ifs at hLow hHigh ⊢
    · exact toI64_eq_some_iff.mpr ⟨by omega, rfl⟩
    · omega
    · omega
    · rfl
  have hEra := era_eq (marchYear year month)
  rw [if_pos (by omega)] at hEra
  have hFits : ∀ {number : Int}, 0 ≤ number → number < 2 ^ 41 → toI64 number = some number := by
    intro number hNonneg hBelow
    exact if_pos (by omega)
  rw [daysFromCivil_of_year hYear (by omega) hEra rfl rfl]
  change ((toI64 (marchYear year month / 400 * 146097)).bind fun days =>
    (toI64 (days + eraDay (marchYear year month) month day)).bind fun days =>
      toI64 (days - 719468)) = _
  generalize marchYear year month = y at *
  rw [hFits (by omega) (by omega), Option.bind_some, hFits (by omega) (by omega),
    Option.bind_some, hSame, hFits hFrom (by omega)]

theorem civilDay_nonneg_iff (hDate : 1 ≤ month ∧ month ≤ 12 ∧ 1 ≤ day ∧ day ≤ 31) :
    0 ≤ civilDay year month day ↔ 1970 ≤ year := by
  rw [civilDay_eq_march hDate]
  unfold marchYear marchDay
  split_ifs <;> omega

/-- The milliseconds of a time. -/
def civilMillis (days : Int) (hour minute second fracMs : Nat) : Int :=
  days * 86400000 + hour * 3600000 + minute * 60000 + second * 1000 + fracMs

/-- A day before 1970 becomes a number of days that is too large. -/
theorem epochMs_eq_some_iff {days : Int} {hour minute second fracMs value : Nat}
    (hRange : -2 ^ 63 ≤ days ∧ days < 2 ^ 63) :
    epochMs days hour minute second fracMs = some value ↔
      0 ≤ days ∧ civilMillis days hour minute second fracMs < 2 ^ 64 ∧
        civilMillis days hour minute second fracMs = value := by
  unfold epochMs civilMillis
  simp only [Option.bind_eq_bind]
  constructor
  · intro h
    obtain ⟨_, hDays, h⟩ := Option.bind_eq_some_iff.mp h
    obtain ⟨hFits, rfl⟩ := toU64_eq_some_iff.mp hDays
    obtain ⟨_, hHour, h⟩ := Option.bind_eq_some_iff.mp h
    obtain ⟨-, rfl⟩ := toU64_eq_some_iff.mp hHour
    obtain ⟨_, hMinute, h⟩ := Option.bind_eq_some_iff.mp h
    obtain ⟨-, rfl⟩ := toU64_eq_some_iff.mp hMinute
    obtain ⟨_, hSecond, h⟩ := Option.bind_eq_some_iff.mp h
    obtain ⟨-, rfl⟩ := toU64_eq_some_iff.mp hSecond
    obtain ⟨hTotal, rfl⟩ := toU64_eq_some_iff.mp h
    have hNonneg : 0 ≤ days := by omega
    rw [Int.emod_eq_of_lt hNonneg (by omega)] at hTotal ⊢
    exact ⟨hNonneg, by omega, by omega⟩
  · rintro ⟨hNonneg, hTotal, hValue⟩
    rw [Int.emod_eq_of_lt hNonneg (by omega)]
    rw [toU64_of_lt (by omega), Option.bind_some, toU64_of_lt (by omega), Option.bind_some,
      toU64_of_lt (by omega), Option.bind_some, toU64_of_lt (by omega), Option.bind_some,
      toU64_of_lt (by omega)]
    exact congrArg some (by omega)

theorem epochMs_eq {days hour minute second : Nat} (hDays : days < 5000000) (hHour : hour < 24)
    (hMinute : minute < 60) (hSecond : second < 60) :
    epochMs days hour minute second 0 =
      some ((days * 86400 + hour * 3600 + minute * 60 + second) * 1000) := by
  apply (epochMs_eq_some_iff ⟨by omega, by omega⟩).mpr
  unfold civilMillis
  exact ⟨Int.natCast_nonneg _, by omega, by omega⟩

end Days

/-- What the client makes of the timestamp of a second. -/
theorem parseIso8601ToEpochMs_iso8601 {secs : Nat} (h : secs < endOfYear9999) :
    parseIso8601ToEpochMs (iso8601 secs) = .ok (1000 * secs) := by
  obtain ⟨year, month, date, -, hTo, hMonth, hDate, -, hDay, -, hYmd⟩ := Worker.exists_date h
  have hDays : secs / 86400 < 2932897 := by
    unfold endOfYear9999 at h
    omega
  have hSame : civilDay year (month + 1) (date + 1) = (secs / 86400 : Nat) := by
    rw [civilDay, Nat.add_sub_cancel]
    omega
  have hGuard : 1 ≤ month + 1 ∧ month + 1 ≤ 12 ∧ 1 ≤ date + 1 ∧ date + 1 ≤ 31 := by omega
  have hCivil : daysFromCivil year (month + 1 : Nat) (date + 1 : Nat) =
      some ((secs / 86400 : Nat) : Int) := by
    rw [daysFromCivil_of_civilDay hGuard (by omega) (by omega), hSame]
  have hTotal : (secs / 86400 * 86400 + secs % 86400 / 3600 * 3600 +
      secs % 86400 % 3600 / 60 * 60 + secs % 86400 % 60) * 1000 = 1000 * secs := by omega
  have hEpoch : orPanicked (epochMs (secs / 86400 : Nat) (secs % 86400 / 3600)
      (secs % 86400 % 3600 / 60) (secs % 86400 % 60) 0) = .ok (1000 * secs) := by
    rw [epochMs_eq (by omega) (by omega) (by omega) (by omega), hTotal, orPanicked_some]
  simp only [iso8601, hYmd]
  rw [parseIso8601ToEpochMs_timestampText (Nat.lt_of_le_of_lt hTo (by decide)) (by omega)
    (by omega) (by omega) (by omega) (by omega) hCivil, hEpoch]

/-- Client and worker read one and the same time off a timestamp exactly where the
worker's rule has the leap days right. -/
theorem clocks_agree_iff (secs : Nat) (h : secs < endOfYear9999) :
    parseIso8601ToEpochMs (iso8601 secs) = .ok (1000 * secs) ∧
        Worker.parseIso8601 (iso8601 secs) = .ok (1000 * secs) ↔
      Worker.LeapDaysRight secs := by
  rw [Worker.parseIso8601_iso8601 h]
  exact and_iff_right (parseIso8601ToEpochMs_iso8601 h)

/-- The first second of the year 2025. -/
theorem clocks_agree_newYear :
    parseIso8601ToEpochMs (iso8601 1735689600) = .ok (1000 * 1735689600) ∧
      Worker.parseIso8601 (iso8601 1735689600) = .ok (1000 * 1735689600) :=
  (clocks_agree_iff 1735689600 (by decide)).mpr (by decide +kernel)

/-- On the first of March 2024 the worker is a day behind. -/
theorem not_clocks_agree :
    ¬ (parseIso8601ToEpochMs (iso8601 1709251200) = .ok (1000 * 1709251200) ∧
      Worker.parseIso8601 (iso8601 1709251200) = .ok (1000 * 1709251200)) := by
  rintro ⟨-, hWorker⟩
  have hRight := (Worker.parseIso8601_iso8601 (by decide)).mp hWorker
  exact absurd hRight (by decide +kernel)

end Mxdx.Client
