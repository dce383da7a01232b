import Mathlib.Algebra.Group.Nat.Hom
import Mathlib.Data.List.Basic
import Rosadmin.Foundation.Text

/-!
# The civil calendar

Days since the epoch as dates of the Gregorian calendar, and minutes as a text of
fixed width. Years are counted from March, so that a leap day is the last of its
year and the longer part comes last in every cycle.
-/

namespace Foundation

structure CivilDate where
  year : Nat
  month : Nat
  day : Nat
  deriving DecidableEq

/-- A day by the cycles it lies in: 400 years, centuries, four years, one year. -/
structure MarchDate where
  era : Nat
  century : Nat
  olympiad : Nat
  year : Nat
  dayOfYear : Nat

namespace MarchDate

/-- `days` is counted from the first of March of the year 0. -/
def ofDays (days : Nat) : MarchDate :=
  let era := days / 146097
  let century := min (days % 146097 / 36524) 3
  let dayOfCentury := days % 146097 - century * 36524
  let year := min (dayOfCentury % 1461 / 365) 3
  ⟨era, century, dayOfCentury / 1461, year, dayOfCentury % 1461 - year * 365⟩

def toDays (d : MarchDate) : Nat :=
  d.era * 146097 + d.century * 36524 + d.olympiad * 1461 + d.year * 365 + d.dayOfYear

structure Proper (d : MarchDate) : Prop where
  century : d.century < 4
  olympiad : d.olympiad < 25
  year : d.year < 4
  dayOfYear : d.dayOfYear < 366

theorem ofDays_proper (days : Nat) : (ofDays days).Proper := by
  constructor <;> simp only [ofDays] <;> omega

theorem toDays_ofDays (days : Nat) : (ofDays days).toDays = days := by
  simp only [ofDays, toDays]
  omega

/-- Months from March on are of 31 and 30 days in turn, five of them 153 days. -/
def civil (d : MarchDate) : CivilDate :=
  let month := (5 * d.dayOfYear + 2) / 153
  ⟨400 * d.era + 100 * d.century + 4 * d.olympiad + d.year + month / 10, (month + 2) % 12 + 1,
    d.dayOfYear - (153 * month + 2) / 5 + 1⟩

def ofCivil (d : CivilDate) : MarchDate :=
  let month := (d.month + 9) % 12
  let year := d.year - month / 10
  ⟨year / 400, year % 400 / 100, year % 100 / 4, year % 4, (153 * month + 2) / 5 + (d.day - 1)⟩

theorem month_lt {d : MarchDate} (proper : d.Proper) : (5 * d.dayOfYear + 2) / 153 < 12 := by
  have := proper.dayOfYear
  omega

theorem ofCivil_civil {d : MarchDate} (proper : d.Proper) : ofCivil d.civil = d := by
  have month := month_lt proper
  obtain ⟨era, century, olympiad, year, dayOfYear⟩ := d
  obtain ⟨century', olympiad', year', dayOfYear'⟩ := proper
  dsimp only at *
  simp only [civil, ofCivil, mk.injEq]
  have begun : (153 * ((5 * dayOfYear + 2) / 153) + 2) / 5 ≤ dayOfYear := by omega
  have same : (((5 * dayOfYear + 2) / 153 + 2) % 12 + 1 + 9) % 12 = (5 * dayOfYear + 2) / 153 :=
    by omega
  rw [same]
  generalize (5 * dayOfYear + 2) / 153 = month at *
  refine ⟨?_, ?_, ?_, ?_, ?_⟩ <;> omega

end MarchDate

/-- Days from the first of March of the year 0 to the epoch. -/
def epochDays : Nat := 719468

/-- The date of a day after the epoch. -/
def civilDate (days : Nat) : CivilDate := (MarchDate.ofDays (days + epochDays)).civil

theorem civilDate_injective {a b : Nat} (same : civilDate a = civilDate b) : a = b := by
  have back : ∀ days, (MarchDate.ofCivil (civilDate days)).toDays = days + epochDays := by
    intro days
    rw [civilDate, MarchDate.ofCivil_civil (MarchDate.ofDays_proper _), MarchDate.toDays_ofDays]
  have := (back a).symm.trans ((congrArg (fun d => (MarchDate.ofCivil d).toDays) same).trans
    (back b))
  omega

theorem civilDate_month (days : Nat) : (civilDate days).month ≤ 12 := by
  have := MarchDate.month_lt (MarchDate.ofDays_proper (days + epochDays))
  simp only [civilDate, MarchDate.civil]
  omega

theorem civilDate_day (days : Nat) : (civilDate days).day ≤ 31 := by
  have := (MarchDate.ofDays_proper (days + epochDays)).dayOfYear
  simp only [civilDate, MarchDate.civil]
  omega

theorem civilDate_year {days : Nat} (early : days < 2932897) : (civilDate days).year < 10000 := by
  have split := MarchDate.toDays_ofDays (days + epochDays)
  obtain ⟨century, olympiad, year, dayOfYear⟩ := MarchDate.ofDays_proper (days + epochDays)
  simp only [civilDate, MarchDate.civil, MarchDate.toDays, epochDays] at *
  omega

/-- The last `width` decimal digits. -/
def padded : Nat → Nat → Str
  | 0, _ => []
  | width + 1, n => padded width (n / 10) ++ [0x30 + n % 10]

@[simp] theorem padded_length (width n : Nat) : (padded width n).length = width := by
  induction width generalizing n with
  | zero => rfl
  | succ width ih => simp [padded, ih]

theorem padded_injective {width a b : Nat} (ha : a < 10 ^ width) (hb : b < 10 ^ width)
    (same : padded width a = padded width b) : a = b := by
  induction width generalizing a b with
  | zero => rw [Nat.lt_one_iff.mp ha, Nat.lt_one_iff.mp hb]
  | succ width ih =>
    rw [Nat.pow_succ] at ha hb
    obtain ⟨front, last⟩ := List.append_inj same (by simp)
    have higher : a / 10 = b / 10 := ih (by omega) (by omega) front
    have lowest := List.head_eq_of_cons_eq last
    omega

/-- `%Y-%m-%dT%H:%M` of a minute after the epoch. -/
def minuteText (minute : Nat) : Str :=
  let date := civilDate (minute / 1440)
  padded 4 date.year ++ str "-" ++ padded 2 date.month ++ str "-" ++ padded 2 date.day ++ str "T" ++
    padded 2 (minute % 1440 / 60) ++ str ":" ++ padded 2 (minute % 60)

/-- The minutes of the years that four digits can write. -/
def writtenMinutes : Nat := 2932897 * 1440

theorem minuteText_injective {a b : Nat} (ha : a < writtenMinutes) (hb : b < writtenMinutes)
    (same : minuteText a = minuteText b) : a = b := by
  have year : ∀ {m : Nat}, m < writtenMinutes → (civilDate (m / 1440)).year < 10 ^ 4 := by
    intro m written
    exact civilDate_year (by simp only [writtenMinutes] at written; omega)
  have month : ∀ m : Nat, (civilDate (m / 1440)).month < 10 ^ 2 :=
    fun m => by have := civilDate_month (m / 1440); omega
  have day : ∀ m : Nat, (civilDate (m / 1440)).day < 10 ^ 2 :=
    fun m => by have := civilDate_day (m / 1440); omega
  simp only [minuteText] at same
  -- the parts are of fixed width, so the texts agree part by part
  obtain ⟨same, minutes⟩ := List.append_inj' same (by simp)
  obtain ⟨same, -⟩ := List.append_inj' same rfl
  obtain ⟨same, hours⟩ := List.append_inj' same (by simp)
  obtain ⟨same, -⟩ := List.append_inj' same rfl
  obtain ⟨same, days⟩ := List.append_inj' same (by simp)
  obtain ⟨same, -⟩ := List.append_inj' same rfl
  obtain ⟨same, months⟩ := List.append_inj' same (by simp)
  obtain ⟨years, -⟩ := List.append_inj' same rfl
  have years := padded_injective (year ha) (year hb) years
  have months := padded_injective (month a) (month b) months
  have days := padded_injective (day a) (day b) days
  have date : civilDate (a / 1440) = civilDate (b / 1440) := by
    revert years months days
    generalize civilDate (a / 1440) = d
    generalize civilDate (b / 1440) = e
    cases d
    cases e
    rintro rfl rfl rfl
    rfl
  have onDay := civilDate_injective date
  have hours := padded_injective (by omega) (by omega) hours
  have minutes := padded_injective (by omega) (by omega) minutes
  omega

example : minuteText 28487519 = str "2024-02-29T23:59" := by decide

end Foundation
