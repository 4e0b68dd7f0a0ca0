import Vasi.JsValue
import Mathlib.Tactic.NormNum

/-!
# Timestamps

A time is a number of milliseconds since the epoch, and its text is the one
Date.prototype.toISOString prints: the proleptic Gregorian date and the time of
day in UTC, with a sign and at least six digits for a year outside 0 to 9999.
A program accepts a timestamp by parsing it and comparing the printed text, so
the accepted texts are exactly the printed ones; `readTime` is the parser
restricted to that form and `readTime_isoText` says that it recovers the time.

Times that no JavaScript date can hold print here with more digits; a clock
never returns one.
-/
namespace Vasi.IsoTime

open JsValue

/-- Milliseconds since the epoch. -/
abbrev Time := ℤ

/-! ## Digits -/

/-- The decimal digits of a number, as many as asked for. -/
def digits : ℕ → ℕ → JsString
  | 0, _ => []
  | width + 1, value => digits width (value / 10) ++ [Fin.ofNat 65536 (48 + value % 10)]

/-- The number that a digit string denotes. -/
def number (text : JsString) : ℕ := text.foldl (fun total unit => total * 10 + (unit.val - 48)) 0

@[simp] theorem digits_length (width value : ℕ) : (digits width value).length = width := by
  induction width generalizing value with
  | zero => rfl
  | succ width inductionHypothesis => simp [digits, inductionHypothesis]

/-- Reading back as many digits as the number has recovers it. -/
theorem number_digits (width value : ℕ) (fits : value < 10 ^ width) :
    number (digits width value) = value := by
  induction width generalizing value with
  | zero =>
      obtain rfl : value = 0 := by simpa using fits
      rfl
  | succ width inductionHypothesis =>
      have smaller : value / 10 < 10 ^ width := by
        rw [Nat.div_lt_iff_lt_mul (by norm_num), ← pow_succ]
        exact fits
      have front := inductionHypothesis (value / 10) smaller
      have last : (Fin.ofNat 65536 (48 + value % 10)).val - 48 = value % 10 := by
        simp only [Fin.ofNat]
        omega
      rw [number] at front ⊢
      rw [digits, List.foldl_append, front, List.foldl_cons, List.foldl_nil, last]
      omega

/-! ## Calendar dates -/

/-- A date of the proleptic Gregorian calendar. -/
structure CivilDate where
  year : ℤ
  month : ℤ
  day : ℤ

/-- The year of its 400-year era that a day of the era falls in, with years
starting in March: whole centuries, then whole four-year cycles, then years. The
leap day at the end of a cycle belongs to its last year. -/
def yearOfEra (dayOfEra : ℤ) : ℤ :=
  let century := min 3 (dayOfEra / 36524)
  let dayOfCentury := dayOfEra - century * 36524
  let cycle := dayOfCentury / 1461
  let dayOfCycle := dayOfCentury - cycle * 1461
  100 * century + 4 * cycle + min 3 (dayOfCycle / 365)

/-- The days of an era before one of its years. -/
def daysBeforeYear (year : ℤ) : ℤ := 365 * year + year / 4 - year / 100

/-- The date of a day of a year that starts in March. -/
def marchDate (era year dayOfYear : ℤ) : CivilDate :=
  let month := (5 * dayOfYear + 2) / 153
  { year := year + era * 400 + (if month < 10 then 0 else 1)
    month := if month < 10 then month + 3 else month - 9
    day := dayOfYear - (153 * month + 2) / 5 + 1 }

/-- The date of a day, counted from the epoch. -/
def civilDate (days : ℤ) : CivilDate :=
  let dayOfEra := (days + 719468) % 146097
  let year := yearOfEra dayOfEra
  marchDate ((days + 719468) / 146097) year (dayOfEra - daysBeforeYear year)

/-- The day of a date, counted from the epoch. -/
def dayNumber (date : CivilDate) : ℤ :=
  let year := if date.month ≤ 2 then date.year - 1 else date.year
  let month := if date.month ≤ 2 then date.month + 9 else date.month - 3
  let era := year / 400
  let dayOfYear := (153 * month + 2) / 5 + date.day - 1
  era * 146097 + daysBeforeYear (year % 400) + dayOfYear - 719468

/-- Every day of an era lies in one of its 400 years, at most 366 days in. -/
theorem yearOfEra_bounds (dayOfEra : ℤ) (low : 0 ≤ dayOfEra) (high : dayOfEra < 146097) :
    0 ≤ yearOfEra dayOfEra ∧ yearOfEra dayOfEra < 400 ∧
      0 ≤ dayOfEra - daysBeforeYear (yearOfEra dayOfEra) ∧
      dayOfEra - daysBeforeYear (yearOfEra dayOfEra) < 366 := by
  simp only [yearOfEra]
  generalize centuryEq : min 3 (dayOfEra / 36524) = century
  generalize cycleEq : (dayOfEra - century * 36524) / 1461 = cycle
  generalize yearEq : min 3 ((dayOfEra - century * 36524 - cycle * 1461) / 365) = year
  have centuryBounds : 0 ≤ century ∧ century ≤ 3 ∧ 0 ≤ dayOfEra - century * 36524 ∧
      dayOfEra - century * 36524 ≤ 36524 := by omega
  have cycleBounds : 0 ≤ cycle ∧ cycle ≤ 24 ∧ 0 ≤ dayOfEra - century * 36524 - cycle * 1461 ∧
      dayOfEra - century * 36524 - cycle * 1461 < 1461 := by omega
  have yearBounds : 0 ≤ year ∧ year ≤ 3 := by omega
  have leapDays : (100 * century + 4 * cycle + year) / 4 = 25 * century + cycle := by omega
  have centuries : (100 * century + 4 * cycle + year) / 100 = century := by omega
  rw [daysBeforeYear, leapDays, centuries]
  omega

/-- A date of a year that starts in March has its month and day in range, and
determines the day. -/
theorem marchDate_spec (era year dayOfYear : ℤ) (inEra : 0 ≤ year ∧ year < 400)
    (inYear : 0 ≤ dayOfYear ∧ dayOfYear < 366) :
    (1 ≤ (marchDate era year dayOfYear).month ∧ (marchDate era year dayOfYear).month ≤ 12) ∧
      (1 ≤ (marchDate era year dayOfYear).day ∧ (marchDate era year dayOfYear).day ≤ 31) ∧
      dayNumber (marchDate era year dayOfYear) =
        era * 146097 + daysBeforeYear year + dayOfYear - 719468 := by
  have quotient : (year + era * 400) / 400 = era := by omega
  have remainder : (year + era * 400) % 400 = year := by omega
  have monthBounds : 0 ≤ (5 * dayOfYear + 2) / 153 ∧ (5 * dayOfYear + 2) / 153 ≤ 11 := by omega
  by_cases early : (5 * dayOfYear + 2) / 153 < 10
  · have march : ¬ (5 * dayOfYear + 2) / 153 + 3 ≤ 2 := by omega
    simp only [marchDate, dayNumber, early, if_true, march, if_false, add_zero, quotient,
      remainder]
    omega
  · have january : (5 * dayOfYear + 2) / 153 - 9 ≤ 2 := by omega
    simp only [marchDate, dayNumber, early, if_false, january, if_true, add_sub_cancel_right,
      quotient, remainder]
    omega

/-- The month and day numbers are in range, and the date determines the day. -/
theorem civilDate_spec (days : ℤ) :
    (1 ≤ (civilDate days).month ∧ (civilDate days).month ≤ 12) ∧
      (1 ≤ (civilDate days).day ∧ (civilDate days).day ≤ 31) ∧
      dayNumber (civilDate days) = days := by
  have bounds := yearOfEra_bounds ((days + 719468) % 146097) (Int.emod_nonneg _ (by norm_num))
    (Int.emod_lt_of_pos _ (by norm_num))
  have date := marchDate_spec ((days + 719468) / 146097) _ _ ⟨bounds.1, bounds.2.1⟩ bounds.2.2
  refine ⟨date.1, date.2.1, date.2.2.trans ?_⟩
  have split := Int.mul_ediv_add_emod (days + 719468) 146097
  omega

/-! ## Texts -/

/-- The text of a year: four digits from 0 to 9999, else a sign and at least six. -/
def yearText (year : ℤ) : JsString :=
  if 0 ≤ year ∧ year ≤ 9999 then digits 4 year.toNat
  else (if year < 0 then [45] else [43]) ++ digits (max 6 (year.natAbs + 1)) year.natAbs

/-- The text of a date without its time. -/
def dateText (date : CivilDate) : JsString :=
  yearText date.year ++ [45] ++ digits 2 date.month.toNat ++ [45] ++ digits 2 date.day.toNat

/-- The text of a time of day in milliseconds: a T, the clock and a Z. -/
def clockText (milliseconds : ℕ) : JsString :=
  [84] ++ digits 2 (milliseconds / 3600000) ++ [58] ++ digits 2 (milliseconds / 60000 % 60) ++
    [58] ++ digits 2 (milliseconds / 1000 % 60) ++ [46] ++ digits 3 (milliseconds % 1000) ++ [90]

/-- Date.prototype.toISOString. -/
def isoText (time : Time) : JsString :=
  dateText (civilDate (time / 86400000)) ++ clockText (time % 86400000).toNat

/-! ## Reading -/

/-- The year a text denotes. -/
def readYear : JsString → ℤ
  | [] => 0
  | first :: rest =>
      if first = 45 then -(number rest : ℤ)
      else if first = 43 then number rest
      else number (first :: rest)

/-- The units of a text from a position, counted from its end. -/
def field (text : JsString) (fromEnd width : ℕ) : ℕ :=
  number ((text.drop (text.length - fromEnd)).take width)

/-- The time that a printed timestamp denotes. -/
def readTime (text : JsString) : Time :=
  let date : CivilDate :=
    { year := readYear (text.take (text.length - 20))
      month := field text 19 2
      day := field text 16 2 }
  let milliseconds := field text 13 2 * 3600000 + field text 10 2 * 60000 +
    field text 7 2 * 1000 + field text 4 3
  dayNumber date * 86400000 + milliseconds

/-- Whether a text is the printed form of a time. -/
def isCanonicalTimestamp (text : JsString) : Bool := isoText (readTime text) == text

/-- The first digit of a number is a digit. -/
theorem digits_head (width value : ℕ) : ∃ first rest,
    digits (width + 1) value = first :: rest ∧ first ≠ 45 ∧ first ≠ 43 := by
  induction width generalizing value with
  | zero =>
      refine ⟨_, [], rfl, ?_, ?_⟩ <;> simp only [Fin.ofNat, ne_eq, Fin.ext_iff] <;>
        norm_num <;> omega
  | succ width inductionHypothesis =>
      obtain ⟨first, rest, same, apart⟩ := inductionHypothesis (value / 10)
      exact ⟨first, _, by rw [digits, same]; rfl, apart⟩

/-- A printed year reads back. -/
theorem readYear_yearText (year : ℤ) : readYear (yearText year) = year := by
  have fits : year.natAbs < 10 ^ max 6 (year.natAbs + 1) :=
    (Nat.lt_pow_self (by norm_num)).trans_le (Nat.pow_le_pow_right (by norm_num) (by omega))
  unfold yearText
  split_ifs with short negative
  · obtain ⟨first, rest, same, minus, plus⟩ := digits_head 3 year.toNat
    have value := number_digits 4 year.toNat (by norm_num; omega)
    rw [same] at value ⊢
    simp only [readYear, minus, plus, if_false, value]
    omega
  · simp only [List.singleton_append, readYear, if_true, number_digits _ _ fits]
    omega
  · simp only [List.singleton_append, readYear, number_digits _ _ fits, if_true,
      show (43 : CodeUnit) ≠ 45 by decide, if_false]
    omega

/-- The field of a text that stands between what comes before and after it. -/
theorem field_append (before middle after : JsString) (fromEnd width : ℕ)
    (position : fromEnd = middle.length + after.length) (size : width = middle.length) :
    field (before ++ (middle ++ after)) fromEnd width = number middle := by
  subst position size
  simp [field]

/-- The fields of a printed clock read back. -/
theorem field_clockText (before : JsString) (clock : ℕ) (bound : clock < 86400000) :
    field (before ++ clockText clock) 13 2 * 3600000 +
      field (before ++ clockText clock) 10 2 * 60000 +
      field (before ++ clockText clock) 7 2 * 1000 +
      field (before ++ clockText clock) 4 3 = clock := by
  have hours := field_append (before ++ [84]) (digits 2 (clock / 3600000))
    ([58] ++ (digits 2 (clock / 60000 % 60) ++ ([58] ++ (digits 2 (clock / 1000 % 60) ++
      ([46] ++ (digits 3 (clock % 1000) ++ [90])))))) 13 2 (by simp) (by simp)
  have minutes := field_append (before ++ ([84] ++ (digits 2 (clock / 3600000) ++ [58])))
    (digits 2 (clock / 60000 % 60)) ([58] ++ (digits 2 (clock / 1000 % 60) ++
      ([46] ++ (digits 3 (clock % 1000) ++ [90])))) 10 2 (by simp) (by simp)
  have seconds := field_append (before ++ ([84] ++ (digits 2 (clock / 3600000) ++ ([58] ++
      (digits 2 (clock / 60000 % 60) ++ [58])))))
    (digits 2 (clock / 1000 % 60)) ([46] ++ (digits 3 (clock % 1000) ++ [90])) 7 2
    (by simp) (by simp)
  have millis := field_append (before ++ ([84] ++ (digits 2 (clock / 3600000) ++ ([58] ++
      (digits 2 (clock / 60000 % 60) ++ ([58] ++ (digits 2 (clock / 1000 % 60) ++ [46])))))))
    (digits 3 (clock % 1000)) [90] 4 3 (by simp) (by simp)
  rw [number_digits _ _ (by norm_num; omega)] at hours minutes seconds millis
  simp only [List.append_assoc] at hours minutes seconds millis
  simp only [clockText, List.append_assoc]
  rw [hours, minutes, seconds, millis]
  omega

/-- A printed timestamp reads back. The time of day is split into its fields
and put together again; the date comes back by `civilDate_spec`. -/
theorem readTime_isoText (time : Time) : readTime (isoText time) = time := by
  obtain ⟨⟨monthLow, monthHigh⟩, ⟨dayLow, dayHigh⟩, day⟩ := civilDate_spec (time / 86400000)
  have split := Int.mul_ediv_add_emod time 86400000
  have clockLow := Int.emod_nonneg time (show (86400000 : ℤ) ≠ 0 by norm_num)
  have clockHigh := Int.emod_lt_of_pos time (show (0 : ℤ) < 86400000 by norm_num)
  generalize dateEq : civilDate (time / 86400000) = date at *
  generalize clockEq : (time % 86400000).toNat = milliseconds at *
  have clock := field_clockText (dateText date) milliseconds (by omega)
  have month := field_append (yearText date.year ++ [45]) (digits 2 date.month.toNat)
    ([45] ++ (digits 2 date.day.toNat ++ clockText milliseconds)) 19 2 (by simp [clockText])
    (by simp)
  have dayField := field_append (yearText date.year ++ ([45] ++ (digits 2 date.month.toNat ++ [45])))
    (digits 2 date.day.toNat) (clockText milliseconds) 16 2 (by simp [clockText]) (by simp)
  rw [number_digits _ _ (by norm_num; omega)] at month dayField
  have year : (dateText date ++ clockText milliseconds).take
      ((dateText date ++ clockText milliseconds).length - 20) = yearText date.year := by
    have size : (dateText date ++ clockText milliseconds).length - 20 =
        (yearText date.year).length := by
      simp [dateText, clockText]
    rw [size]
    simp [dateText]
  have text : isoText time = dateText date ++ clockText milliseconds := by
    rw [isoText, dateEq, clockEq]
  have monthText : field (dateText date ++ clockText milliseconds) 19 2 = date.month.toNat := by
    simpa only [dateText, List.append_assoc] using month
  have dayText : field (dateText date ++ clockText milliseconds) 16 2 = date.day.toNat := by
    simpa only [dateText, List.append_assoc] using dayField
  have same : (⟨date.year, date.month.toNat, date.day.toNat⟩ : CivilDate) = date := by
    rw [Int.toNat_of_nonneg (by omega), Int.toNat_of_nonneg (by omega)]
  rw [text, readTime]
  simp only [year, readYear_yearText, monthText, dayText, same, day, clock]
  rw [← clockEq, Int.toNat_of_nonneg clockLow, mul_comm]
  exact split

/-- Different times print differently. -/
theorem isoText_injective : Function.Injective isoText :=
  Function.LeftInverse.injective readTime_isoText

/-- Printed timestamps are accepted. -/
@[simp] theorem isCanonicalTimestamp_isoText (time : Time) :
    isCanonicalTimestamp (isoText time) = true := by
  simp [isCanonicalTimestamp, readTime_isoText]

/-- The printed epoch, by way of example. -/
example : isoText 0 = js "1970-01-01T00:00:00.000Z" := by decide +kernel

end Vasi.IsoTime
