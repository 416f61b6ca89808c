import Mxdx.Worker.Tmux
import Mxdx.Foundations.Calendar

/-! The timestamp of the worker's telemetry, with the way Rust writes numbers and
reads them, and the calendar that the date is computed by. -/
namespace Mxdx.Worker

open Calendar (dayFromYear inLeapYear daysInYear yearFromDay monthOfDay monthStart)

section Numbers

/-- `{:0width}`. -/
def padded (width number : Nat) : Text := (Nat.toDigits 10 number).leftpad width '0'

/-- Values of a `u64`. -/
def toU64 (number : Nat) : Option Nat := if number < 2 ^ 64 then some number else none

/-- `str::parse::<u64>`: digits, perhaps after a plus sign. -/
def parseAsU64 : Text → Option Nat
  | '+' :: digits => (parseDigits digits).bind toU64
  | digits => (parseDigits digits).bind toU64

/-- `str::split_once`. -/
def splitOnce (separator : Char) (text : Text) : Option (Text × Text) :=
  match text.dropWhile (· ≠ separator) with
  | [] => none
  | _ :: rest => some (text.takeWhile (· ≠ separator), rest)

theorem isDigit_of_mem_padded {width number : Nat} {c : Char} (h : c ∈ padded width number) :
    c.isDigit = true := by
  rw [padded, List.leftpad, List.mem_append] at h
  rcases h with hPad | hDigit
  · rw [List.eq_of_mem_replicate hPad]
    rfl
  · exact isDigit_of_mem_toDigits hDigit

theorem not_mem_padded {width number : Nat} {c : Char} (h : c.isDigit = false) :
    c ∉ padded width number := by
  intro hMem
  rw [isDigit_of_mem_padded hMem] at h
  cases h

theorem parseDigits_padded (width number : Nat) :
    parseDigits (padded width number) = some number := by
  have hDigits : (padded width number).all Char.isDigit = true :=
    List.all_eq_true.mpr fun c hMem => isDigit_of_mem_padded hMem
  have hNonempty : padded width number ≠ [] := by
    simp [padded, List.leftpad, Nat.toDigits_ne_nil]
  rw [parseDigits, if_pos ⟨hNonempty, hDigits⟩, padded, List.leftpad, Nat.ofDigitChars_append,
    Nat.ofDigitChars_replicate_zero, Nat.mul_zero, Nat.ofDigitChars_ten_toDigits]

theorem parseAsU64_padded (width : Nat) {number : Nat} (h : number < 2 ^ 64) :
    parseAsU64 (padded width number) = some number := by
  have hRead : (parseDigits (padded width number)).bind toU64 = some number := by
    rw [parseDigits_padded, Option.bind_some, toU64, if_pos h]
  unfold parseAsU64
  split
  · rename_i digits hText
    have hPlus : '+' ∉ padded width number := not_mem_padded (by decide)
    rw [hText] at hPlus
    exact absurd List.mem_cons_self hPlus
  · exact hRead

theorem splitOnce_append {separator : Char} {front : Text} (back : Text)
    (h : separator ∉ front) :
    splitOnce separator (front ++ separator :: back) = some (front, back) := by
  have hFront : ∀ c ∈ front, decide (c ≠ separator) = true := by
    intro c hMem
    rw [decide_eq_true_eq]
    rintro rfl
    exact h hMem
  rw [splitOnce, List.dropWhile_append_of_pos hFront, List.takeWhile_append_of_pos hFront]
  simp

theorem splitOnce_eq_none {separator : Char} {text : Text} (h : separator ∉ text) :
    splitOnce separator text = none := by
  have hNone : text.dropWhile (· ≠ separator) = [] := by
    rw [List.dropWhile_eq_nil_iff]
    intro c hMem
    rw [decide_eq_true_eq]
    rintro rfl
    exact h hMem
  rw [splitOnce, hNone]

end Numbers

section Dates

/-- Year, month and day of the month, counted in years that begin in March. -/
def daysToYmd (days : Nat) : Nat × Nat × Nat :=
  let z : Int := days + 719468
  let era := (if 0 ≤ z then z else z - 146096).tdiv 146097
  let doe := (z - era * 146097).toNat
  let yoe := (doe - doe / 1460 + doe / 36524 - doe / 146096) / 365
  let y := (yoe : Int) + era * 400
  let doy := doe - (365 * yoe + yoe / 4 - yoe / 100)
  let mp := (5 * doy + 2) / 153
  let d := doy - (153 * mp + 2) / 5 + 1
  let m := if mp < 10 then mp + 3 else mp - 9
  let y := if m ≤ 2 then y + 1 else y
  (y.toNat, m, d)

/-- A timestamp to the second. -/
def timestampText (year month day hours minutes seconds : Nat) : String :=
  String.ofList (padded 4 year ++ '-' :: (padded 2 month ++ '-' :: (padded 2 day ++ 'T' ::
    (padded 2 hours ++ ':' :: (padded 2 minutes ++ ':' :: (padded 2 seconds ++ ['Z']))))))

/-- A date and a time, between their marks. -/
theorem toList_timestampText (year month day hours minutes seconds : Nat) :
    (timestampText year month day hours minutes seconds).toList =
      padded 4 year ++ '-' :: (padded 2 month ++ '-' :: padded 2 day) ++
        'T' :: (padded 2 hours ++ ':' :: (padded 2 minutes ++ ':' :: padded 2 seconds)) ++
          ['Z'] := by
  simp [timestampText]

/-- `iso8601_now` at a time that the clock shows as seconds since 1970. -/
def iso8601 (secs : Nat) : String :=
  let days := secs / 86400
  let timeOfDay := secs % 86400
  let hours := timeOfDay / 3600
  let minutes := timeOfDay % 3600 / 60
  let seconds := timeOfDay % 60
  let (year, month, day) := daysToYmd days
  timestampText year month day hours minutes seconds

/-- Years that begin in March, counted from zero: the days before one of them. -/
def marchStart (year : Nat) : Nat := 365 * year + year / 4 - year / 100 + year / 400

/-- The date of a day in a year that begins in March. -/
def civilOfMarch (year dayOfYear : Nat) : Nat × Nat × Nat :=
  let mp := (5 * dayOfYear + 2) / 153
  let m := if mp < 10 then mp + 3 else mp - 9
  (if m ≤ 2 then year + 1 else year, m, dayOfYear - (153 * mp + 2) / 5 + 1)

theorem marchStart_add_era (year era : Nat) :
    marchStart (year + era * 400) = era * 146097 + marchStart year := by
  have hFour : (year + era * 400) / 4 = year / 4 + era * 100 := by omega
  have hHundred : (year + era * 400) / 100 = year / 100 + era * 4 := by omega
  have hEra : (year + era * 400) / 400 = year / 400 + era := by omega
  simp only [marchStart, hFour, hHundred, hEra]
  omega

theorem marchStart_of_lt {year : Nat} (h : year < 400) :
    marchStart year = 365 * year + year / 4 - year / 100 := by
  simp only [marchStart, Nat.div_eq_of_lt h, Nat.add_zero]

/-- The guess for the year, within 400 years, is never off. -/
theorem yoe_spec {doe yoe : Nat} (h : doe < 146097)
    (hYoe : (doe - doe / 1460 + doe / 36524 - doe / 146096) / 365 = yoe) :
    yoe < 400 ∧ marchStart yoe ≤ doe ∧ doe < marchStart (yoe + 1) := by
  by_cases hLast : doe = 146096
  · subst hLast
    subst hYoe
    decide
  · have hNotLast : doe / 146096 = 0 := by omega
    obtain ⟨cycle, hCycle⟩ : ∃ cycle, doe / 1460 = cycle := ⟨_, rfl⟩
    obtain ⟨century, hCentury⟩ : ∃ century, doe / 36524 = century := ⟨_, rfl⟩
    rw [hCycle, hCentury, hNotLast] at hYoe
    have hCycles : yoe / 4 = cycle ∨ yoe / 4 + 1 = cycle := by omega
    have hCenturies : century = 0 ∨ century = 1 ∨ century = 2 ∨ century = 3 := by omega
    have hYears : 100 * century ≤ yoe ∧ yoe < 100 * century + 100 := by
      rcases hCenturies with rfl | rfl | rfl | rfl <;> omega
    have hYear : yoe < 400 := by omega
    have hHundred : yoe / 100 = century := by omega
    refine ⟨hYear, ?_, ?_⟩
    · rw [marchStart_of_lt hYear, hHundred]
      rcases hCenturies with rfl | rfl | rfl | rfl <;>
        rcases hCycles with hCycles | hCycles <;> omega
    · have hLeap : yoe / 4 ≤ (yoe + 1) / 4 := by omega
      have hNext : (yoe + 1) / 100 = century ∨ yoe + 1 = 100 * century + 100 := by omega
      simp only [marchStart]
      rcases hNext with hNext | hNext
      · have hNone : (yoe + 1) / 400 = 0 := by omega
        rw [hNext, hNone]
        rcases hCenturies with rfl | rfl | rfl | rfl <;>
          rcases hCycles with hCycles | hCycles <;> omega
      · rw [hNext]
        rcases hCenturies with rfl | rfl | rfl | rfl <;> omega

theorem toNat_civilYear (yoe era month : Nat) :
    (if month ≤ 2 then (yoe + era * 400 + 1 : Int) else yoe + era * 400).toNat =
      if month ≤ 2 then yoe + era * 400 + 1 else yoe + era * 400 := by
  split_ifs <;> omega

theorem exists_march (days : Nat) :
    ∃ year dayOfYear, days + 719468 = marchStart year + dayOfYear ∧
      days + 719468 < marchStart (year + 1) ∧ daysToYmd days = civilOfMarch year dayOfYear := by
  obtain ⟨era, doe, hDoe, hSplit⟩ : ∃ era doe, doe < 146097 ∧
      days + 719468 = era * 146097 + doe :=
    ⟨(days + 719468) / 146097, (days + 719468) % 146097, by omega, by omega⟩
  have hZ : (0 : Int) ≤ days + 719468 := by omega
  have hIntEra : ((days : Int) + 719468).tdiv 146097 = era := by
    rw [Int.tdiv_eq_ediv_of_nonneg hZ]
    omega
  have hIntDoe : ((days : Int) + 719468 - era * 146097).toNat = doe := by omega
  obtain ⟨yoe, hYoe⟩ : ∃ yoe, (doe - doe / 1460 + doe / 36524 - doe / 146096) / 365 = yoe :=
    ⟨_, rfl⟩
  obtain ⟨hYear, hFrom, hTo⟩ := yoe_spec hDoe hYoe
  refine ⟨yoe + era * 400, doe - marchStart yoe, ?_, ?_, ?_⟩
  · rw [hSplit, marchStart_add_era, Nat.add_assoc, Nat.add_sub_of_le hFrom]
  · rw [hSplit, Nat.add_right_comm, marchStart_add_era]
    exact Nat.add_lt_add_left hTo _
  · simp only [daysToYmd, civilOfMarch, if_pos hZ, hIntEra, hIntDoe, hYoe,
      ← marchStart_of_lt hYear, toNat_civilYear]

/-- A year ends with the February before the next March. -/
theorem marchStart_eq (year : Nat) :
    (marchStart year : Int) = dayFromYear (year + 1) + 719468 - 306 := by
  simp only [marchStart, dayFromYear]
  omega

/-- From March on a month begins where the rule of five months in 153 days says. -/
theorem monthStart_of_march (leap : Bool) {mp : Nat} (h : mp ≤ 10) :
    monthStart leap (mp + 2) = (153 * mp + 2) / 5 + 59 + leap.toNat := by
  have hAll : ∀ leap : Bool, ∀ mp : Fin 11,
      monthStart leap (mp + 2) = (153 * mp.val + 2) / 5 + 59 + leap.toNat := by decide
  exact hAll leap ⟨mp, Nat.lt_succ_of_le h⟩

/-- The months from March on, of a year of the calendar. -/
theorem month_of_march (leap : Bool) {dayOfYear : Nat} (h : dayOfYear < 306) :
    let dayInYear := dayOfYear + 59 + leap.toNat
    let mp := (5 * dayOfYear + 2) / 153
    mp < 10 ∧ monthOfDay leap dayInYear = mp + 2 ∧
      dayInYear - monthStart leap (mp + 2) = dayOfYear - (153 * mp + 2) / 5 := by
  intro dayInYear mp
  have hMp : mp < 10 := by omega
  have hFrom := monthStart_of_march leap (Nat.le_of_lt hMp)
  have hTo := monthStart_of_march leap (Nat.succ_le_of_lt hMp)
  refine ⟨hMp, Calendar.monthOfDay_eq (by omega) (by omega) ?_, by omega⟩
  rw [show mp + 2 + 1 = mp + 1 + 2 from rfl, hTo]
  omega

/-- January and February, which end the year that began in March. -/
theorem month_of_january (leap : Bool) {dayInYear : Nat} (h : dayInYear < 59 + leap.toNat) :
    let mp := (5 * (dayInYear + 306) + 2) / 153
    10 ≤ mp ∧ mp < 12 ∧ monthOfDay leap dayInYear = mp - 10 ∧
      dayInYear - monthStart leap (mp - 10) = dayInYear + 306 - (153 * mp + 2) / 5 := by
  intro mp
  have hLeap : leap.toNat ≤ 1 := Bool.toNat_le leap
  have hJanuary : monthStart leap 0 = 0 := by cases leap <;> rfl
  have hFebruary : monthStart leap 1 = 31 := by cases leap <;> rfl
  have hMarch : monthStart leap 2 = 59 + leap.toNat := by cases leap <;> rfl
  have hMp : mp = 10 ∧ dayInYear < 31 ∨ mp = 11 ∧ 31 ≤ dayInYear := by omega
  rcases hMp with ⟨hTen, hDay⟩ | ⟨hEleven, hDay⟩
  · rw [hTen]
    refine ⟨by omega, by omega, Calendar.monthOfDay_eq (by omega) ?_ ?_, ?_⟩
    · rw [hJanuary]
      exact Nat.zero_le _
    · rw [hFebruary]
      exact hDay
    · rw [hJanuary]
      omega
  · rw [hEleven]
    refine ⟨by omega, by omega, Calendar.monthOfDay_eq (by omega) ?_ ?_, ?_⟩
    · rw [hFebruary]
      exact hDay
    · rw [hMarch]
      exact h
    · rw [hFebruary]
      omega

theorem daysInYear_eq (leap : Bool) : daysInYear leap = 365 + leap.toNat := by
  cases leap <;> rfl

/-- The date is that of the calendar. -/
theorem daysToYmd_eq (days : Nat) :
    let year := yearFromDay days
    let dayInYear := (days - dayFromYear year).toNat
    let month := monthOfDay (inLeapYear year) dayInYear
    daysToYmd days =
      (year.toNat, month + 1, dayInYear - monthStart (inLeapYear year) month + 1) := by
  obtain ⟨year, dayOfYear, hDay, hNext, hYmd⟩ := exists_march days
  have hStart := marchStart_eq year
  have hStop := marchStart_eq (year + 1)
  have hThis := Calendar.dayFromYear_succ year
  have hThat := Calendar.dayFromYear_succ (year + 1)
  rw [daysInYear_eq] at hThis hThat
  push_cast at hStop
  by_cases hMarch : dayOfYear < 306
  · have hYear : yearFromDay days = year := by
      apply Calendar.yearFromDay_eq <;> omega
    have hInYear : (days - dayFromYear year).toNat =
        dayOfYear + 59 + (inLeapYear year).toNat := by omega
    obtain ⟨hMp, hMonth, hDate⟩ := month_of_march (inLeapYear year) hMarch
    simp only [hYear, hInYear, hMonth, hDate, hYmd, civilOfMarch, if_pos hMp, Int.toNat_natCast]
    rw [if_neg (by omega)]
  · have hYear : yearFromDay days = (year + 1 : Nat) := by
      push_cast
      apply Calendar.yearFromDay_eq <;> omega
    have hInYear : (days - dayFromYear (year + 1 : Nat)).toNat = dayOfYear - 306 := by
      push_cast
      omega
    have hShort : dayOfYear - 306 < 59 + (inLeapYear (year + 1 : Nat)).toNat := by
      push_cast
      omega
    obtain ⟨hLow, hHigh, hMonth, hDate⟩ := month_of_january _ hShort
    rw [Nat.sub_add_cancel (Nat.le_of_not_lt hMarch)] at hLow hHigh hMonth hDate
    simp only [hYear, hInYear, hMonth, hDate, hYmd, civilOfMarch, if_neg (Nat.not_lt.mpr hLow),
      Int.toNat_natCast]
    rw [if_pos (by omega)]
    simp only [Prod.mk.injEq, true_and, and_true]
    omega

end Dates

end Mxdx.Worker
