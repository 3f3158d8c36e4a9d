import Keyspace.Time.Calendar
import Mathlib.Order.Monotone.Basic
import Mathlib.Tactic.IntervalCases

/-!
# The calendar and its count of days

Counting days up to a date undoes taking the date of a count of days, and every count stands
for a day that its month has. Both rest on the years of a cycle of 400: a year of the cycle
begins after `daysBefore` days, and the builder's formula finds the year a day lies in. The
formula grows with the day, so that it is enough to know it where years begin and end.
-/
namespace Keyspace.Date

/-- A date that its month has; the year may be any. -/
def IsDay (date : Date) : Prop :=
  1 ≤ date.month ∧ date.month ≤ 12 ∧ 1 ≤ date.day ∧ date.day ≤ daysInMonth date.year date.month

instance (date : Date) : Decidable date.IsDay := inferInstanceAs (Decidable (_ ∧ _))

theorem ofNumbers?_eq_some {date : Date} (hday : date.IsDay) (hmin : minYear ≤ date.year)
    (hmax : date.year ≤ maxYear) : ofNumbers? date.year date.month date.day = some date := by
  obtain ⟨hmonth, hmonth', hday, hday'⟩ := hday
  exact if_pos ⟨hmin, hmax, hmonth, hmonth', hday, hday'⟩

/-! ## Years of a cycle -/

/-- The days of a cycle before one of its years. -/
def daysBefore (year : Nat) : Nat := 365 * year + year / 4 - year / 100 + year / 400

theorem daysBefore_of_lt {year : Nat} (h : year < 400) :
    daysBefore year = 365 * year + year / 4 - year / 100 := by
  unfold daysBefore
  omega

theorem daysBefore_succ_le (year : Nat) : daysBefore (year + 1) ≤ daysBefore year + 366 := by
  unfold daysBefore
  omega

/-- The days of a cycle up to a day, without the leap days among them. -/
def commonDays (day : Nat) : Nat := day - day / 1460 + day / 36524 - day / 146096

theorem monotone_commonDays : Monotone commonDays := by
  refine monotone_nat_of_le_succ fun day => ?_
  unfold commonDays
  omega

theorem exists_year {day years : Nat} (h : day < daysBefore years) :
    ∃ year < years, daysBefore year ≤ day ∧ day < daysBefore (year + 1) := by
  induction years with
  | zero => exact absurd h (Nat.not_lt_zero day)
  | succ years ih =>
    by_cases hbefore : day < daysBefore years
    · obtain ⟨year, hyear, hbounds⟩ := ih hbefore
      exact ⟨year, by omega, hbounds⟩
    · exact ⟨years, by omega, by omega, h⟩

/-- The first and the last day of a year are in that year. -/
theorem commonDays_ends : ∀ year < 400, commonDays (daysBefore year) / 365 = year ∧
    commonDays (daysBefore (year + 1) - 1) / 365 = year := by decide +kernel

/-- The formula for the year finds the one that the day lies in. -/
theorem yearOfCycle_bounds {day : Nat} (h : day < 146097) :
    commonDays day / 365 < 400 ∧ daysBefore (commonDays day / 365) ≤ day ∧
      day < daysBefore (commonDays day / 365 + 1) := by
  have hcycle : day < daysBefore 400 := h
  obtain ⟨year, hyear, hfirst, hlast⟩ := exists_year hcycle
  obtain ⟨hlow, hhigh⟩ := commonDays_ends year hyear
  have hle : commonDays (daysBefore year) ≤ commonDays day := monotone_commonDays hfirst
  have hge : commonDays day ≤ commonDays (daysBefore (year + 1) - 1) :=
    monotone_commonDays (by omega)
  have hfound : commonDays day / 365 = year := by omega
  rw [hfound]
  exact ⟨hyear, hfirst, hlast⟩

/-! ## Dates of counts of days -/

/-- The days of a year before one of its months, both counted from 1 March. -/
def daysBeforeMonth (fromMarch : Nat) : Nat := (153 * fromMarch + 2) / 5

/-- The date of a day of a month, the month counted from 1 March of a year. -/
def ofMarch (year : Int) (fromMarch day : Nat) : Date :=
  if fromMarch < 10 then ⟨year, fromMarch + 3, day⟩ else ⟨year + 1, fromMarch - 9, day⟩

theorem toDays_ofMarch {cycle : Int} {year fromMarch day : Nat} (hyear : year < 400)
    (hmonth : fromMarch < 12) (hday : 1 ≤ day) :
    (ofMarch (year + cycle * 400) fromMarch day).toDays =
      cycle * 146097 + daysBefore year + daysBeforeMonth fromMarch + (day - 1 : Nat) - 719468 := by
  have hcycle : ((year : Int) + cycle * 400) / 400 = cycle := by omega
  have hrest : ((year : Int) + cycle * 400) % 400 = year := by omega
  unfold ofMarch toDays daysBefore daysBeforeMonth
  by_cases h : fromMarch < 10
  · have hearly : ¬ fromMarch + 3 ≤ 2 := by omega
    have hlate : fromMarch + 3 > 2 := by omega
    simp only [h, hearly, hlate, if_true, if_false, hcycle, hrest, Nat.add_sub_cancel]
    omega
  · have hearly : fromMarch - 9 ≤ 2 := by omega
    have hlate : ¬ fromMarch - 9 > 2 := by omega
    have hback : fromMarch - 9 + 9 = fromMarch := by omega
    simp only [h, hearly, hlate, if_true, if_false, Int.add_sub_cancel, hcycle, hrest, hback]
    omega

/-- A count of days is taken apart into its cycle, the year of the cycle, and the month and day
of that year, counted from 1 March; the last year of a cycle and every fourth has a leap day. -/
theorem exists_parts (days : Int) : ∃ (cycle : Int) (year fromMarch day : Nat),
    ofDays days = ofMarch (year + cycle * 400) fromMarch (day + 1) ∧ year < 400 ∧ fromMarch < 12 ∧
      daysBeforeMonth fromMarch + day < daysBeforeMonth (fromMarch + 1) ∧
      daysBefore year + daysBeforeMonth fromMarch + day < daysBefore (year + 1) ∧
      days + 719468 = cycle * 146097 + daysBefore year + daysBeforeMonth fromMarch + day := by
  obtain ⟨rest, hrest⟩ : ∃ rest, rest = ((days + 719468) % 146097).toNat := ⟨_, rfl⟩
  obtain ⟨year, hyear⟩ : ∃ year, year = commonDays rest / 365 := ⟨_, rfl⟩
  have hrange : rest < 146097 := by omega
  have hbounds := yearOfCycle_bounds hrange
  rw [← hyear] at hbounds
  obtain ⟨hcycle, hfirst, hlast⟩ := hbounds
  have hlength := daysBefore_succ_le year
  obtain ⟨dayOfYear, hdayOfYear⟩ : ∃ dayOfYear, dayOfYear = rest - daysBefore year := ⟨_, rfl⟩
  obtain ⟨fromMarch, hfromMarch⟩ : ∃ month, month = (5 * dayOfYear + 2) / 153 := ⟨_, rfl⟩
  have hmonth : daysBeforeMonth fromMarch ≤ dayOfYear ∧
      dayOfYear < daysBeforeMonth (fromMarch + 1) := by
    unfold daysBeforeMonth
    omega
  refine ⟨(days + 719468) / 146097, year, fromMarch, dayOfYear - daysBeforeMonth fromMarch,
    ?_, hcycle, ?_, ?_, ?_, ?_⟩
  · unfold ofDays ofMarch
    dsimp only
    rw [← hrest, ← commonDays, ← hyear, ← daysBefore_of_lt hcycle, ← hdayOfYear, ← hfromMarch, ← daysBeforeMonth]
    by_cases h : fromMarch < 10
    · have hearly : ¬ fromMarch + 3 ≤ 2 := by omega
      simp only [h, hearly, if_true, if_false]
    · have hearly : fromMarch - 9 ≤ 2 := by omega
      simp only [h, hearly, if_true, if_false]
  all_goals omega

theorem toDays_ofDays (days : Int) : (ofDays days).toDays = days := by
  obtain ⟨cycle, year, fromMarch, day, hdate, hyear, hmonth, -, -, hdays⟩ := exists_parts days
  rw [hdate, toDays_ofMarch hyear hmonth (by omega), Nat.add_sub_cancel]
  omega

/-- A year that ends on a leap day has one day more. -/
theorem daysBefore_succ (cycle : Int) {year : Nat} (h : year < 400) :
    daysBefore (year + 1) =
      daysBefore year + 365 + if isLeapYear (year + cycle * 400 + 1) then 1 else 0 := by
  unfold daysBefore isLeapYear
  by_cases hfour : ((year : Int) + cycle * 400 + 1) % 4 = 0
  · by_cases hhundred : ((year : Int) + cycle * 400 + 1) % 100 = 0
    · by_cases hcycle : ((year : Int) + cycle * 400 + 1) % 400 = 0
      · simp only [hfour, hhundred, hcycle, decide_true, Bool.or_true, Bool.and_true, if_true]
        omega
      · simp only [hfour, hhundred, hcycle, decide_true, decide_false, bne_self_eq_false,
          Bool.or_false, Bool.and_false, Bool.false_eq_true, if_false]
        omega
    · have hne : (((year : Int) + cycle * 400 + 1) % 100 != 0) = true := bne_iff_ne.mpr hhundred
      simp only [hfour, hne, decide_true, Bool.true_or, Bool.and_true, if_true]
      omega
  · simp only [hfour, decide_false, Bool.false_and, Bool.false_eq_true, if_false]
    omega

/-- Counted from 1 March, a month ends where the next one begins; February ends the year. -/
theorem daysInMonth_ofMarch {year : Int} {fromMarch day : Nat} (hmonth : fromMarch < 12) :
    daysInMonth (ofMarch year fromMarch day).year (ofMarch year fromMarch day).month =
      if fromMarch = 11 then (if isLeapYear (year + 1) then 29 else 28)
      else daysBeforeMonth (fromMarch + 1) - daysBeforeMonth fromMarch := by
  interval_cases fromMarch <;> rfl

theorem isDay_ofDays (days : Int) : (ofDays days).IsDay := by
  obtain ⟨cycle, year, fromMarch, day, hdate, hyear, hmonth, hday, hlast, -⟩ := exists_parts days
  rw [hdate]
  have hlength : day < daysInMonth (ofMarch (year + cycle * 400) fromMarch (day + 1)).year
      (ofMarch (year + cycle * 400) fromMarch (day + 1)).month := by
    rw [daysInMonth_ofMarch hmonth]
    by_cases hfebruary : fromMarch = 11
    · have hfirst : daysBeforeMonth 11 = 337 := rfl
      rw [daysBefore_succ cycle hyear, hfebruary, hfirst] at hlast
      rw [if_pos hfebruary]
      cases hleap : isLeapYear (year + cycle * 400 + 1) with
      | true =>
        rw [hleap, if_pos rfl] at hlast
        rw [if_pos rfl]
        omega
      | false =>
        rw [hleap, if_neg Bool.false_ne_true] at hlast
        rw [if_neg Bool.false_ne_true]
        omega
    · rw [if_neg hfebruary]
      omega
  unfold IsDay
  unfold ofMarch at hlength ⊢
  by_cases h : fromMarch < 10
  · simp only [h, if_true] at hlength ⊢
    omega
  · simp only [h, if_false] at hlength ⊢
    omega

end Keyspace.Date
