import Tollgate.Proofs.Text.Decimal
import Tollgate.Time.Calendar

/-!
# The text of an instant tells its second

Dates are turned back into days: years and days are counted from March in eras of 400 years, and a
day of an era is found by its century, its cycle of four years and its year. Texts are taken apart
from their ends, where every part has its width. Only the year in front may be longer.
-/

namespace Tollgate

namespace Date

/-- The year of an era that a day of the era lies in. -/
def yearOfEra (dayOfEra : Nat) : Nat :=
  (dayOfEra - dayOfEra / 1460 + dayOfEra / 36524 - dayOfEra / 146096) / 365

/-- The first day of a year of an era. -/
def startOfYear (year : Nat) : Nat := 365 * year + year / 4 - year / 100

/-- A day of an era, by century, cycle and year. The leap day of a cycle ends its last year, and
three centuries of an era have no leap day at their ends. -/
structure EraDay where
  century : Nat
  cycle : Nat
  year : Nat
  day : Nat
  century_le : century ≤ 3
  cycle_le : cycle ≤ 24
  year_le : year ≤ 3
  day_le : day ≤ 365
  leap : day = 365 → year = 3 ∧ (cycle = 24 → century = 3)

namespace EraDay

def number (date : EraDay) : Nat :=
  36524 * date.century + 1461 * date.cycle + 365 * date.year + date.day

def yearNumber (date : EraDay) : Nat := 100 * date.century + 4 * date.cycle + date.year

/-- A day lies in its century, except for the last day of an era, which is one too many for it. -/
theorem number_lt (date : EraDay) :
    date.number < 36524 * (date.century + 1) ∨ date.century = 3 ∧ date.number = 146096 := by
  obtain ⟨century, cycle, year, day, century_le, cycle_le, year_le, day_le, leap⟩ := date
  simp only [number]
  omega

theorem yearNumber_lt (date : EraDay) : date.yearNumber < 400 := by
  have century_le := date.century_le
  have cycle_le := date.cycle_le
  have year_le := date.year_le
  rw [yearNumber]
  omega

theorem number_div_36524 (date : EraDay) :
    date.number / 36524 = date.century + date.number / 146096 := by
  have century_le := date.century_le
  have start_le : 36524 * date.century ≤ date.number := by
    rw [number]
    omega
  rcases date.number_lt with inside | ⟨last_century, last_day⟩
  · omega
  · rw [last_century, last_day]

/-- Counting a leap day for every 1460 days gives those before the day. Late in the last year of a
cycle the count is ahead by one. -/
theorem number_div_1460 (date : EraDay) :
    date.number / 1460 = 25 * date.century + date.cycle ∨
      date.number / 1460 = 25 * date.century + date.cycle + 1 ∧
        date.year = 3 ∧ 0 < date.day := by
  obtain ⟨century, cycle, year, day, century_le, cycle_le, year_le, day_le, leap⟩ := date
  simp only [number]
  omega

theorem yearOfEra_number (date : EraDay) : yearOfEra date.number = date.yearNumber := by
  have centuries := date.number_div_36524
  have leap_days := date.number_div_1460
  rw [yearOfEra]
  obtain ⟨century, cycle, year, day, century_le, cycle_le, year_le, day_le, leap⟩ := date
  simp only [number, yearNumber] at *
  omega

theorem startOfYear_add (date : EraDay) : startOfYear date.yearNumber + date.day = date.number := by
  obtain ⟨century, cycle, year, day, century_le, cycle_le, year_le, day_le, leap⟩ := date
  simp only [number, yearNumber, startOfYear]
  omega

theorem exists_number_eq (day : Nat) (inside : day < 146097) :
    ∃ date : EraDay, date.number = day := by
  obtain ⟨century, rest, century_le, rest_le, rfl⟩ :
      ∃ century rest, century ≤ 3 ∧ (rest < 36524 ∨ century = 3 ∧ rest = 36524) ∧
        day = 36524 * century + rest :=
    ⟨min (day / 36524) 3, day - 36524 * min (day / 36524) 3, by omega, by omega, by omega⟩
  refine ⟨{ century, cycle := rest / 1461, year := min (rest % 1461 / 365) 3
            day := rest % 1461 - 365 * min (rest % 1461 / 365) 3
            century_le, cycle_le := ?_, year_le := ?_, day_le := ?_, leap := ?_ }, ?_⟩
  · omega
  · omega
  · omega
  · omega
  · simp only [number]
    omega

end EraDay

/-! ## Dates and days -/

/-- The date of a day of a year of an era, both counted from March. -/
def ofMarch (era : Int) (year day : Nat) : Date :=
  let marchMonth := (5 * day + 2) / 153
  let month := if marchMonth < 10 then marchMonth + 3 else marchMonth - 9
  { year := if month ≤ 2 then year + era * 400 + 1 else year + era * 400
    month
    day := day - (153 * marchMonth + 2) / 5 + 1 }

theorem ofDays_eq (era : Int) (date : EraDay) :
    ofDays (era * 146097 + date.number - 719468) = ofMarch era date.yearNumber date.day := by
  have inside : date.number < 146097 := by
    have century_le := date.century_le
    have number_lt := date.number_lt
    omega
  have same_era : (era * 146097 + date.number - 719468 + 719468) / 146097 = era := by omega
  have same_day :
      ((era * 146097 + date.number - 719468 + 719468) % 146097).toNat = date.number := by omega
  have year := date.yearOfEra_number
  have start := date.startOfYear_add
  rw [yearOfEra] at year
  rw [startOfYear] at start
  have day : date.number -
      (365 * date.yearNumber + date.yearNumber / 4 - date.yearNumber / 100) = date.day := by omega
  simp only [ofDays, same_era, same_day, year, day]
  rfl

/-- Every day is a day of an era. -/
theorem exists_eraDay (days : Int) :
    ∃ (era : Int) (date : EraDay), days = era * 146097 + date.number - 719468 := by
  obtain ⟨date, number_eq⟩ :=
    EraDay.exists_number_eq ((days + 719468) % 146097).toNat (by omega)
  exact ⟨(days + 719468) / 146097, date, by omega⟩

/-- The days from the start of 1970 to a date. -/
def toDays (date : Date) : Int :=
  let year := if date.month ≤ 2 then date.year - 1 else date.year
  let marchMonth := if date.month ≤ 2 then date.month + 9 else date.month - 3
  let dayOfYear := (153 * marchMonth + 2) / 5 + date.day - 1
  year / 400 * 146097 + startOfYear (year % 400).toNat + dayOfYear - 719468

variable {year day : Nat}

theorem toDays_ofMarch (era : Int) (year_lt : year < 400) (day_le : day ≤ 365) :
    (ofMarch era year day).toDays = era * 146097 + startOfYear year + day - 719468 := by
  have month_le : (5 * day + 2) / 153 ≤ 11 := by omega
  have month_start_le : (153 * ((5 * day + 2) / 153) + 2) / 5 ≤ day := by omega
  -- January and February belong to the year before.
  by_cases same_year : (5 * day + 2) / 153 < 10
  · have late : ¬ (5 * day + 2) / 153 + 3 ≤ 2 := by omega
    have era_eq : (year + era * 400) / 400 = era := by omega
    have year_eq : ((year + era * 400) % 400).toNat = year := by omega
    simp only [toDays, ofMarch, same_year, if_true, late, if_false, era_eq, year_eq]
    omega
  · have early : (5 * day + 2) / 153 - 9 ≤ 2 := by omega
    have era_eq : (year + era * 400 + 1 - 1) / 400 = era := by omega
    have year_eq : ((year + era * 400 + 1 - 1) % 400).toNat = year := by omega
    simp only [toDays, ofMarch, same_year, if_false, early, if_true, era_eq, year_eq]
    omega

/-- Months and days of dates have two digits at most. -/
theorem fits_ofMarch (era : Int) (day_le : day ≤ 365) :
    (ofMarch era year day).month < 10 ^ 2 ∧ (ofMarch era year day).day < 10 ^ 2 := by
  have month_le : (5 * day + 2) / 153 ≤ 11 := by omega
  simp only [ofMarch]
  constructor
  · split <;> omega
  · omega

theorem toDays_ofDays (days : Int) : (ofDays days).toDays = days := by
  obtain ⟨era, date, rfl⟩ := exists_eraDay days
  rw [ofDays_eq, toDays_ofMarch era date.yearNumber_lt date.day_le, ← date.startOfYear_add]
  omega

theorem fits_ofDays (days : Int) :
    (ofDays days).month < 10 ^ 2 ∧ (ofDays days).day < 10 ^ 2 := by
  obtain ⟨era, date, rfl⟩ := exists_eraDay days
  rw [ofDays_eq]
  exact fits_ofMarch era date.day_le

/-! ## Texts of dates -/

/-- The sign tells years before year 0 and years beyond four digits from the others. -/
theorem mem_yearText {c : Char} (year : Int) (sign : c.isDigit = false) :
    c ∈ (yearText year).toList ↔ c = '-' ∧ year < 0 ∨ c = '+' ∧ 9999 < year := by
  have no_digit : c ∉ (Text.padded 4 year.natAbs).toList := by
    intro mem
    rw [Text.isDigit_of_mem_padded mem] at sign
    cases sign
  rw [yearText]
  split
  next negative =>
      have not_large : ¬ 9999 < year := by omega
      simp [no_digit, negative, not_large]
  next not_negative =>
      split
      next large => simp [no_digit, not_negative, large]
      next not_large => simp [no_digit, not_negative, not_large]

theorem yearText_injective : Function.Injective yearText := by
  intro a b same
  have negative : a < 0 ↔ b < 0 := by
    have minus := mem_yearText (c := '-') a rfl
    rw [same, mem_yearText b rfl] at minus
    simpa using minus.symm
  have large : 9999 < a ↔ 9999 < b := by
    have plus := mem_yearText (c := '+') a rfl
    rw [same, mem_yearText b rfl] at plus
    simpa using plus.symm
  have size : Text.padded 4 a.natAbs = Text.padded 4 b.natAbs := by
    simp only [yearText, negative, large] at same
    split at same
    next => exact (String.append_right_inj "-").mp same
    next =>
        split at same
        next => exact (String.append_right_inj "+").mp same
        next => exact same
  have size_eq := Text.padded_injective 4 size
  omega

theorem text_eq (date : Date) :
    date.text = yearText date.year ++ "-" ++ Text.padded 2 date.month ++ "-" ++
      Text.padded 2 date.day := rfl

/-- A date with months and days of two digits is told by its text. -/
theorem text_inj {a b : Date} (month_a : a.month < 10 ^ 2) (day_a : a.day < 10 ^ 2)
    (month_b : b.month < 10 ^ 2) (day_b : b.day < 10 ^ 2) : a.text = b.text ↔ a = b := by
  constructor
  · intro same
    rw [text_eq, text_eq] at same
    obtain ⟨front, day_eq⟩ := (Text.append_padded_inj (by decide) day_a day_b).mp same
    obtain ⟨year_text, month_eq⟩ := (Text.append_padded_inj (by decide) month_a month_b).mp
      ((String.append_left_inj "-").mp front)
    have year_eq := yearText_injective ((String.append_left_inj "-").mp year_text)
    cases a
    cases b
    cases year_eq
    cases month_eq
    cases day_eq
    rfl
  · intro same
    rw [same]

end Date

/-! ## Texts of instants -/

namespace Instant

def clockText (second : Nat) : String :=
  Text.padded 2 (second / 3600) ++ ":" ++ Text.padded 2 (second / 60 % 60) ++ ":" ++
    Text.padded 2 (second % 60)

theorem append_clockText_inj {s t : String} {a b : Nat} (a_lt : a < 86400) (b_lt : b < 86400) :
    s ++ clockText a = t ++ clockText b ↔ s = t ∧ a = b := by
  constructor
  · intro same
    simp only [clockText, ← String.append_assoc] at same
    obtain ⟨to_minutes, seconds⟩ :=
      (Text.append_padded_inj (by decide) (by omega) (by omega)).mp same
    obtain ⟨to_hours, minutes⟩ := (Text.append_padded_inj (by decide) (by omega) (by omega)).mp
      ((String.append_left_inj ":").mp to_minutes)
    obtain ⟨fronts, hours⟩ := (Text.append_padded_inj (by decide) (by omega) (by omega)).mp
      ((String.append_left_inj ":").mp to_hours)
    exact ⟨fronts, by omega⟩
  · rintro ⟨rfl, rfl⟩
    rfl

/-- The second that an instant lies in, counted from the start of 1970. -/
def second (instant : Instant) : Int := instant / 1000

/-- The text is made of the day of a second and of its place in that day. -/
theorem textToSeconds_eq (instant : Instant) :
    textToSeconds instant = (Date.ofDays (second instant / 86400)).text ++ "T" ++
      clockText (second instant % 86400).toNat ++ "Z" := by
  have day : ∀ n : Int, n / perDay = second n / 86400 := by
    intro n
    rw [perDay, second]
    omega
  have place : ∀ n : Int, n % perDay / 1000 = second n % 86400 := by
    intro n
    rw [perDay, second]
    omega
  have unfolded : textToSeconds instant =
      (Date.ofDays (instant / perDay)).text ++ "T" ++
        (Text.padded 2 ((instant % perDay / 1000).toNat / 3600) ++ ":" ++
          Text.padded 2 ((instant % perDay / 1000).toNat / 60 % 60)) ++ ":" ++
        Text.padded 2 ((instant % perDay / 1000).toNat % 60) ++ "Z" := rfl
  rw [unfolded, day, place, clockText]
  simp only [String.append_assoc]

/-- Instants have the same text exactly if they lie in the same second. -/
theorem textToSeconds_eq_iff {a b : Instant} :
    textToSeconds a = textToSeconds b ↔ second a = second b := by
  have day_a := Date.fits_ofDays (second a / 86400)
  have day_b := Date.fits_ofDays (second b / 86400)
  constructor
  · intro same
    rw [textToSeconds_eq, textToSeconds_eq, String.append_left_inj,
      append_clockText_inj (by omega) (by omega), String.append_left_inj,
      Date.text_inj day_a.1 day_a.2 day_b.1 day_b.2] at same
    obtain ⟨same_date, same_place⟩ := same
    have same_day : second a / 86400 = second b / 86400 := by
      rw [← Date.toDays_ofDays (second a / 86400), same_date, Date.toDays_ofDays]
    omega
  · intro same
    rw [textToSeconds_eq, textToSeconds_eq, same]

/-- The text of an instant is made of digits, letters and signs other than the `@`. -/
theorem not_mem_textToSeconds (instant : Instant) : '@' ∉ (textToSeconds instant).toList := by
  have no_digit : ∀ width n, '@' ∉ (Text.padded width n).toList := by
    intro width n mem
    have digit := Text.isDigit_of_mem_padded mem
    cases digit
  have no_year : ∀ year, '@' ∉ (Date.yearText year).toList := by
    intro year mem
    simp [Date.mem_yearText year (c := '@') rfl] at mem
  simp [textToSeconds_eq, clockText, Date.text_eq, no_digit, no_year]

end Instant

end Tollgate
