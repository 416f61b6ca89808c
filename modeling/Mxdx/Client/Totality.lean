import Mxdx.Client.Liveness

/-! Which texts the two timestamp parsers get through without a panic. A text is
taken apart into numbers first; whether the sums over them are in range is told of
the exact sums. -/
namespace Mxdx.Worker

/-- The six numbers of a timestamp. -/
structure Fields where
  year : Nat
  month : Nat
  day : Nat
  hour : Nat
  min : Nat
  sec : Nat
deriving DecidableEq

/-- None where the text does not fall apart into six numbers of a `u64`. -/
def readFields (ts : String) : Option Fields :=
  match splitOnce 'T' (ts.toList.reverse.dropWhile (· = 'Z')).reverse with
  | none => none
  | some (date, time) =>
      match date.splitOn '-', time.splitOn ':' with
      | [year, month, day], [hour, min, sec] => do
          let year ← parseAsU64 year
          let month ← parseAsU64 month
          let day ← parseAsU64 day
          let hour ← parseAsU64 hour
          let min ← parseAsU64 min
          let sec ← parseAsU64 (((sec.splitOn '.').head?).getD ['0'])
          return ⟨year, month, day, hour, min, sec⟩
      | _, _ => none

def Fields.dayNumber (fields : Fields) : Nat :=
  approximateDayNumber fields.year fields.month fields.day

def Fields.millis (fields : Fields) : Nat :=
  ((fields.dayNumber - 1) * 86400 + fields.hour * 3600 + fields.min * 60 + fields.sec) * 1000

/-- A month of the year, a date not before the first of January 1970, and a time
before 2^63 milliseconds. -/
structure Fields.InRange (fields : Fields) : Prop where
  year : 1970 ≤ fields.year
  month : 1 ≤ fields.month ∧ fields.month ≤ 12
  day : 1 ≤ fields.dayNumber
  millis : fields.millis < 2 ^ 63

def Fields.outcome (fields : Fields) : Except TimestampError Nat :=
  match (approximateDays fields.year fields.month fields.day).bind
      (epochMillis · fields.hour fields.min fields.sec) with
  | some millis => .ok millis
  | none => .error .panicked

theorem parseIso8601_of_fields {ts : String} {fields : Fields} (h : readFields ts = some fields) :
    parseIso8601 ts = fields.outcome := by
  unfold readFields at h
  split at h
  · cases h
  next date time hOnce =>
    split at h
    next year month day hour min sec hDate hTime =>
      obtain ⟨_, hYear, h⟩ := Option.bind_eq_some_iff.mp h
      obtain ⟨_, hMonth, h⟩ := Option.bind_eq_some_iff.mp h
      obtain ⟨_, hDay, h⟩ := Option.bind_eq_some_iff.mp h
      obtain ⟨_, hHour, h⟩ := Option.bind_eq_some_iff.mp h
      obtain ⟨_, hMin, h⟩ := Option.bind_eq_some_iff.mp h
      obtain ⟨_, hSec, h⟩ := Option.bind_eq_some_iff.mp h
      obtain rfl := Option.some.inj h
      simp only [parseIso8601, hOnce, hDate, hTime, hYear, hMonth, hDay, hHour, hMin, hSec]
      rfl
    · cases h

/-- A text that does not fall apart is rejected. -/
theorem parseIso8601_of_no_fields {ts : String} (h : readFields ts = none) :
    ∃ error, parseIso8601 ts = .error error ∧ error ≠ .panicked := by
  unfold parseIso8601
  dsimp only
  split
  · exact ⟨_, rfl, by simp⟩
  next date time hOnce =>
    split
    next year month day hDate =>
      split
      next yearNumber monthNumber dayNumber hYear hMonth hDay =>
        split
        next hour min sec hTime =>
          split
          next hHour hMin hSec =>
            rw [readFields, hOnce] at h
            simp [hDate, hTime, hYear, hMonth, hDay, hHour, hMin, hSec] at h
          · exact ⟨_, rfl, by simp⟩
        · exact ⟨_, rfl, by simp⟩
      · exact ⟨_, rfl, by simp⟩
    · exact ⟨_, rfl, by simp⟩

theorem Fields.dayNumber_lt {fields : Fields} (h : fields.millis < 2 ^ 64) :
    fields.dayNumber < 2 ^ 64 := by
  unfold Fields.millis at h
  have hDays := (partialSums_lt h).1
  have hScaled : fields.dayNumber - 1 ≤ (fields.dayNumber - 1) * 86400 :=
    Nat.le_mul_of_pos_right _ (by decide)
  have hThousand : (fields.dayNumber - 1) * 86400 ≤ (fields.dayNumber - 1) * 86400 +
      fields.hour * 3600 + fields.min * 60 + fields.sec := by
    rw [Nat.add_assoc, Nat.add_assoc]
    exact Nat.le_add_right ..
  have hLast := Nat.mul_le_mul_right 1000 hThousand
  omega

theorem Fields.outcome_eq_ok_iff {fields : Fields} {value : Nat} :
    fields.outcome = .ok value ↔
      (1970 ≤ fields.year ∧ (1 ≤ fields.month ∧ fields.month ≤ 12) ∧ 1 ≤ fields.dayNumber) ∧
        fields.millis < 2 ^ 64 ∧ fields.millis = value := by
  have hOutcome : fields.outcome = .ok value ↔
      (approximateDays fields.year fields.month fields.day).bind
        (epochMillis · fields.hour fields.min fields.sec) = some value := by
    unfold Fields.outcome
    split
    next millis hMillis => simp [hMillis]
    next hMillis => simp [hMillis]
  rw [hOutcome, Option.bind_eq_some_iff]
  constructor
  · rintro ⟨days, hDays, hMillis⟩
    obtain ⟨⟨hYear, hFirst, hLast, hDay⟩, -, rfl⟩ := approximateDays_eq_some_iff.mp hDays
    exact ⟨⟨hYear, ⟨hFirst, hLast⟩, hDay⟩, epochMillis_eq_some_iff.mp hMillis⟩
  · rintro ⟨⟨hYear, ⟨hFirst, hLast⟩, hDay⟩, hFits, hValue⟩
    exact ⟨fields.dayNumber - 1, approximateDays_eq_some_iff.mpr
      ⟨⟨hYear, hFirst, hLast, hDay⟩, Fields.dayNumber_lt hFits, rfl⟩,
      epochMillis_eq_some_iff.mpr ⟨hFits, hValue⟩⟩

/-- It returns, and what it returns lies below 2^63. -/
def Total (ts : String) : Prop :=
  parseIso8601 ts ≠ .error .panicked ∧ ∀ value, parseIso8601 ts = .ok value → value < 2 ^ 63

/-- The worker gets through a text exactly when its numbers, if it falls apart into
numbers, are in range. -/
theorem total_iff_inRange (ts : String) :
    Total ts ↔ ∀ fields, readFields ts = some fields → fields.InRange := by
  unfold Total
  cases hRead : readFields ts with
  | none =>
      obtain ⟨error, hError, hRejected⟩ := parseIso8601_of_no_fields hRead
      rw [hError]
      refine iff_of_true ⟨by simpa using hRejected, fun value h => by cases h⟩ fun fields h => ?_
      cases h
  | some fields =>
      rw [parseIso8601_of_fields hRead]
      constructor
      · rintro ⟨hReturns, hBelow⟩ _ hSame
        obtain rfl := Option.some.inj hSame
        cases hOutcome : fields.outcome with
        | error error =>
            refine absurd ?_ hReturns
            unfold Fields.outcome at hOutcome ⊢
            split at hOutcome
            · cases hOutcome
            · rfl
        | ok value =>
            obtain ⟨⟨hYear, hMonth, hDay⟩, -, hValue⟩ := Fields.outcome_eq_ok_iff.mp hOutcome
            exact ⟨hYear, hMonth, hDay, hValue ▸ hBelow value hOutcome⟩
      · intro hAll
        obtain ⟨hYear, hMonth, hDay, hMillis⟩ := hAll fields rfl
        have hOk : fields.outcome = .ok fields.millis :=
          Fields.outcome_eq_ok_iff.mpr
            ⟨⟨hYear, hMonth, hDay⟩, hMillis.trans (by decide), rfl⟩
        rw [hOk]
        refine ⟨by simp, fun value hValue => ?_⟩
        rwa [← Except.ok.inj hValue]

end Mxdx.Worker

namespace Mxdx.Client

open Worker (Text parseAsU64 splitOnce)

section Parse

/-- A year, a month, a day and the text after the date; none where the text does not
begin with a date. -/
def readDate (s : String) : Option ((Int × Nat × Nat) × Text) :=
  match ((stripSuffix ['Z'] s.toList).or (stripSuffix "+00:00".toList s.toList)).bind
      (splitOnce 'T') with
  | none => none
  | some (datePart, timePart) =>
      match splitN 3 '-' datePart with
      | [year, month, day] => do
          let year ← parseI64 year
          let month ← parseAsU64 month
          let day ← parseAsU64 day
          if 1 ≤ month ∧ month ≤ 12 ∧ 1 ≤ day ∧ day ≤ 31 then
            some ((year, month, day), timePart)
          else none
      | _ => none

/-- The third byte of the fraction falls inside a character. -/
def CutsCharacter (timePart : Text) : Prop :=
  ∃ timeMain frac, splitOnce '.' timePart = some (timeMain, frac) ∧ sliceTo 3 frac = none

/-- An hour, a minute, a second and the milliseconds of the fraction. -/
def readTime (timePart : Text) : Option (Nat × Nat × Nat × Nat) :=
  match splitFraction timePart with
  | .error _ => none
  | .ok (timeMain, fracMs) =>
      match splitN 3 ':' timeMain with
      | [hour, minute, second] => do
          let hour ← parseAsU64 hour
          let minute ← parseAsU64 minute
          let second ← parseAsU64 second
          if hour ≤ 23 ∧ minute ≤ 59 ∧ second ≤ 60 then some (hour, minute, second, fracMs)
          else none
      | _ => none

/-- What the parser does once it has a date. -/
def finish (year : Int) (month day : Nat) (timePart : Text) : Except ParseFailure Nat := do
  let (timeMain, fracMs) ← splitFraction timePart
  match splitN 3 ':' timeMain with
  | [hour, minute, second] =>
      let hour ← orRejected (parseAsU64 hour)
      let minute ← orRejected (parseAsU64 minute)
      let second ← orRejected (parseAsU64 second)
      if hour ≤ 23 ∧ minute ≤ 59 ∧ second ≤ 60 then
        let days ← orPanicked (daysFromCivil year month day)
        orPanicked (epochMs days hour minute second fracMs)
      else .error .rejected
  | _ => .error .rejected

@[simp] theorem orRejected_none {α : Type} : orRejected (none : Option α) = .error .rejected := rfl

@[simp] theorem error_bind {α β : Type} (failure : ParseFailure)
    (rest : α → Except ParseFailure β) :
    (Except.error failure >>= rest) = .error failure := rfl

@[simp] theorem ok_bind {α β : Type} (value : α) (rest : α → Except ParseFailure β) :
    (Except.ok value >>= rest) = rest value := rfl

theorem parseIso8601ToEpochMs_eq (s : String) :
    parseIso8601ToEpochMs s = match readDate s with
      | none => .error .rejected
      | some ((year, month, day), timePart) => finish year month day timePart := by
  unfold parseIso8601ToEpochMs readDate
  cases hStrip : (stripSuffix ['Z'] s.toList).or (stripSuffix "+00:00".toList s.toList) with
  | none => rfl
  | some text =>
      rw [orRejected_some, ok_bind, Option.bind_some]
      cases hOnce : splitOnce 'T' text with
      | none => rfl
      | some parts =>
          obtain ⟨datePart, timePart⟩ := parts
          rw [orRejected_some, ok_bind]
          dsimp only
          generalize splitN 3 '-' datePart = pieces
          split
          next year month day =>
            simp only [Option.bind_eq_bind]
            cases parseI64 year with
            | none => rfl
            | some year =>
                rw [orRejected_some, ok_bind, Option.bind_some]
                cases parseAsU64 month with
                | none => rfl
                | some month =>
                    rw [orRejected_some, ok_bind, Option.bind_some]
                    cases parseAsU64 day with
                    | none => rfl
                    | some day =>
                        rw [orRejected_some, ok_bind, Option.bind_some]
                        split_ifs
                        · rfl
                        · rfl
          next => simp

@[simp] theorem orPanicked_none {α : Type} : orPanicked (none : Option α) = .error .panicked := rfl

theorem finish_of_cutsCharacter {timePart : Text} (h : CutsCharacter timePart) (year : Int)
    (month day : Nat) : finish year month day timePart = .error .panicked := by
  obtain ⟨timeMain, frac, hOnce, hCut⟩ := h
  simp [finish, splitFraction, hOnce, hCut]

theorem splitFraction_error {timePart : Text} {failure : ParseFailure}
    (hCut : ¬ CutsCharacter timePart) (h : splitFraction timePart = .error failure) :
    failure = .rejected := by
  unfold splitFraction at h
  split at h
  next timeMain frac hOnce =>
    cases hSlice : sliceTo 3 frac with
    | none => exact absurd ⟨timeMain, frac, hOnce, hSlice⟩ hCut
    | some fracStr =>
        rw [hSlice, orPanicked_some, ok_bind] at h
        cases hRead : parseAsU64 (fracStr ++ List.replicate (3 - fracStr.length) '0') with
        | none =>
            rw [hRead, orRejected_none, error_bind] at h
            exact (Except.error.inj h).symm
        | some ms =>
            rw [hRead, orRejected_some, ok_bind] at h
            cases h
  · cases h

/-- A date whose time does not read is rejected. -/
theorem finish_of_no_time {timePart : Text} (hCut : ¬ CutsCharacter timePart)
    (h : readTime timePart = none) (year : Int) (month day : Nat) :
    finish year month day timePart = .error .rejected := by
  unfold finish
  unfold readTime at h
  cases hSplit : splitFraction timePart with
  | error failure => rw [splitFraction_error hCut hSplit, error_bind]
  | ok parts =>
      obtain ⟨timeMain, fracMs⟩ := parts
      rw [hSplit] at h
      rw [ok_bind]
      dsimp only at h ⊢
      generalize splitN 3 ':' timeMain = pieces at h ⊢
      split
      next hour minute second =>
        simp only [Option.bind_eq_bind] at h
        cases hHour : parseAsU64 hour with
        | none => rfl
        | some hour =>
            rw [hHour, Option.bind_some] at h
            rw [orRejected_some, ok_bind]
            cases hMinute : parseAsU64 minute with
            | none => rfl
            | some minute =>
                rw [hMinute, Option.bind_some] at h
                rw [orRejected_some, ok_bind]
                cases hSecond : parseAsU64 second with
                | none => rfl
                | some second =>
                    rw [hSecond, Option.bind_some] at h
                    rw [orRejected_some, ok_bind, if_neg]
                    intro hTime
                    rw [if_pos hTime] at h
                    cases h
      next => rfl

theorem finish_of_time {timePart : Text} {hour minute second fracMs : Nat}
    (h : readTime timePart = some (hour, minute, second, fracMs)) (year : Int) (month day : Nat) :
    finish year month day timePart =
      orPanicked ((daysFromCivil year month day).bind (epochMs · hour minute second fracMs)) := by
  unfold readTime at h
  split at h
  · cases h
  next timeMain millis hSplit =>
    split at h
    next hourText minuteText secondText hPieces =>
      obtain ⟨_, hHour, h⟩ := Option.bind_eq_some_iff.mp h
      obtain ⟨_, hMinute, h⟩ := Option.bind_eq_some_iff.mp h
      obtain ⟨_, hSecond, h⟩ := Option.bind_eq_some_iff.mp h
      obtain ⟨hTime, hNumbers⟩ := Option.ite_none_right_eq_some.mp h
      cases hNumbers
      unfold finish
      rw [hSplit, ok_bind]
      simp only [hPieces, hHour, hMinute, hSecond, orRejected_some, ok_bind, if_pos hTime]
      cases daysFromCivil year month day with
      | none => rw [orPanicked_none, error_bind, Option.bind_none, orPanicked_none]
      | some days => rw [orPanicked_some, ok_bind, Option.bind_some]
    · cases h

theorem readDate_guard {s : String} {year : Int} {month day : Nat} {timePart : Text}
    (h : readDate s = some ((year, month, day), timePart)) :
    1 ≤ month ∧ month ≤ 12 ∧ 1 ≤ day ∧ day ≤ 31 := by
  unfold readDate at h
  split at h
  · cases h
  · split at h
    · obtain ⟨_, hYear, h⟩ := Option.bind_eq_some_iff.mp h
      obtain ⟨_, hMonth, h⟩ := Option.bind_eq_some_iff.mp h
      obtain ⟨_, hDay, h⟩ := Option.bind_eq_some_iff.mp h
      obtain ⟨hDate, hSame⟩ := Option.ite_none_right_eq_some.mp h
      cases hSame
      exact hDate
    · cases h

end Parse

section Total

variable {year : Int} {month day hour minute second fracMs : Nat}

/-- The milliseconds come out exactly when the date is not before 1970 and there are
not too many of them. -/
theorem outcome_eq_some_iff {value : Nat} (hDate : 1 ≤ month ∧ month ≤ 12 ∧ 1 ≤ day ∧ day ≤ 31) :
    (daysFromCivil year month day).bind (epochMs · hour minute second fracMs) = some value ↔
      1970 ≤ year ∧ civilMillis (civilDay year month day) hour minute second fracMs < 2 ^ 64 ∧
        civilMillis (civilDay year month day) hour minute second fracMs = value := by
  rw [← civilDay_nonneg_iff hDate, Option.bind_eq_some_iff]
  constructor
  · rintro ⟨days, hDays, hMillis⟩
    obtain ⟨rfl, hRange⟩ := civilDay_of_daysFromCivil hDate hDays
    exact (epochMs_eq_some_iff hRange).mp hMillis
  · rintro ⟨hFrom, hFits, hValue⟩
    have hTo : civilDay year month day < 2 ^ 40 := by
      unfold civilMillis at hFits
      omega
    exact ⟨_, daysFromCivil_of_civilDay hDate hFrom hTo,
      (epochMs_eq_some_iff ⟨by omega, by omega⟩).mpr ⟨hFrom, hFits, hValue⟩⟩

/-- It returns, and what it returns lies below 2^63. -/
def Total (s : String) : Prop :=
  parseIso8601ToEpochMs s ≠ .error .panicked ∧
    ∀ value, parseIso8601ToEpochMs s = .ok value → value < 2 ^ 63

/-- After a date, the fraction of the second is cut between two characters, and a
time that reads is one since 1970 and before 2^63 milliseconds. -/
def InRange (s : String) : Prop :=
  ∀ year month day timePart, readDate s = some ((year, month, day), timePart) →
    ¬ CutsCharacter timePart ∧
      ∀ hour minute second fracMs, readTime timePart = some (hour, minute, second, fracMs) →
        1970 ≤ year ∧ civilMillis (civilDay year month day) hour minute second fracMs < 2 ^ 63

/-- The client gets through a text exactly when its fraction and its numbers, if it
has any, are in range. -/
theorem total_iff_inRange (s : String) : Total s ↔ InRange s := by
  unfold Total InRange
  rw [parseIso8601ToEpochMs_eq]
  cases hRead : readDate s with
  | none => simp
  | some parts =>
      obtain ⟨⟨year, month, day⟩, timePart⟩ := parts
      have hDate := readDate_guard hRead
      dsimp only
      constructor
      · rintro ⟨hReturns, hBelow⟩ _ _ _ _ hSame
        cases hSame
        refine ⟨fun hCut => hReturns (finish_of_cutsCharacter hCut ..), ?_⟩
        intro hour minute second fracMs hTime
        rw [finish_of_time hTime] at hReturns hBelow
        cases hOutcome : (daysFromCivil year month day).bind
            (epochMs · hour minute second fracMs) with
        | none => exact absurd (congrArg orPanicked hOutcome) hReturns
        | some value =>
            obtain ⟨hYear, -, hValue⟩ := (outcome_eq_some_iff hDate).mp hOutcome
            have hLess := hBelow value (congrArg orPanicked hOutcome)
            exact ⟨hYear, by omega⟩
      · intro hAll
        obtain ⟨hCut, hTimes⟩ := hAll year month day timePart rfl
        cases hTime : readTime timePart with
        | none =>
            rw [finish_of_no_time hCut hTime]
            simp
        | some time =>
            obtain ⟨hour, minute, second, fracMs⟩ := time
            obtain ⟨hYear, hMillis⟩ := hTimes hour minute second fracMs hTime
            have hFrom := (civilDay_nonneg_iff hDate).mpr hYear
            obtain ⟨value, hValue⟩ : ∃ value : Nat,
                civilMillis (civilDay year month day) hour minute second fracMs = value :=
              Int.eq_ofNat_of_zero_le (by unfold civilMillis; omega)
            have hOutcome := (outcome_eq_some_iff hDate).mpr ⟨hYear, by omega, hValue⟩
            rw [finish_of_time hTime, hOutcome, orPanicked_some]
            refine ⟨by simp, fun found hFound => ?_⟩
            rw [← Except.ok.inj hFound]
            omega

end Total

/-- Both parsers get through a text exactly when what it says is in range for both. -/
theorem timestampParsers_total_iff (s : String) :
    Worker.Total s ∧ Total s ↔
      (∀ fields, Worker.readFields s = some fields → fields.InRange) ∧ InRange s :=
  and_congr (Worker.total_iff_inRange s) (total_iff_inRange s)

/-- The worker looks a thirteenth month up in its table; the client takes three bytes
of a fraction whose third byte is the first half of a character. -/
theorem timestampParsers_panic :
    ¬ Worker.Total "2026-13-01T00:00:00Z" ∧ ¬ Total "2026-01-01T00:00:00.12éZ" :=
  ⟨fun h => h.1 (by decide +kernel), fun h => h.1 (by decide +kernel)⟩

end Mxdx.Client
