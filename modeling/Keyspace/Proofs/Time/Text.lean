import Keyspace.Proofs.Number.IntegerText
import Keyspace.Proofs.Text.Marks
import Keyspace.Proofs.Time.Calendar
import Keyspace.Time.Reading
import Mathlib.Data.List.TakeDrop
import Mathlib.Data.List.TakeWhile

/-!
# The texts of dates and times

A number with zeros in front is read back by a reader of its width, whatever follows it. The
texts of dates and of points in time are made of such numbers and of marks, so that a day of
the years 0 to 9999 is read back, and so is a point in time in whole milliseconds. A leap second
is written as a sixtieth second and read as one.
-/
namespace Keyspace

namespace Date

variable {width n : Nat}

theorem toList_padded (width n : Nat) : (padded width n).toList =
    List.replicate (width - (Nat.toDigits 10 n).length) '0' ++ Nat.toDigits 10 n := by
  unfold padded
  rw [String.toList_append, String.toList_ofList, Nat.toList_repr, ← String.length_toList,
    Nat.toList_repr]

theorem length_padded (hwidth : 0 < width) (h : n < 10 ^ width) :
    (padded width n).toList.length = width := by
  have hdigits : (Nat.toDigits 10 n).length ≤ width :=
    (Nat.length_toDigits_le_iff (by decide) hwidth).mpr h
  rw [toList_padded, List.length_append, List.length_replicate]
  omega

theorem isDigit_of_mem_padded {c : Char} (h : c ∈ (padded width n).toList) : c.isDigit = true := by
  rw [toList_padded, List.mem_append] at h
  rcases h with hzero | hdigit
  · rw [(List.mem_replicate.mp hzero).2]
    rfl
  · exact Nat.isDigit_of_mem_toDigits (by decide) (by decide) hdigit

theorem digitsValue_zeros (count : Nat) (digits : List Char) :
    digitsValue (List.replicate count '0' ++ digits) = digitsValue digits := by
  induction count with
  | zero => rfl
  | succ count ih => exact ih

theorem digitsValue_padded (width n : Nat) : digitsValue (padded width n).toList = n := by
  rw [toList_padded, digitsValue_zeros, digitsValue_toDigits]

/-- A padded number begins with a digit. -/
theorem exists_cons_padded (width n : Nat) :
    ∃ c rest, (padded width n).toList = c :: rest ∧ c.isDigit = true := by
  cases htext : (padded width n).toList with
  | nil =>
    rw [toList_padded, List.append_eq_nil_iff] at htext
    exact absurd htext.2 Nat.toDigits_ne_nil
  | cons c rest =>
    exact ⟨c, rest, rfl, isDigit_of_mem_padded (htext ▸ List.mem_cons_self)⟩

end Date

namespace Time

open Date

variable {width n : Nat}

/-- The digits that a reader of the width takes are those of the number. -/
theorem takeWhile_padded (hwidth : 0 < width) (h : n < 10 ^ width) (rest : List Char) :
    (((padded width n).toList ++ rest).take width).takeWhile Char.isDigit =
      (padded width n).toList := by
  rw [List.take_left' (length_padded hwidth h)]
  exact List.takeWhile_eq_self_iff.mpr fun c hc => isDigit_of_mem_padded hc

theorem exactNumber?_padded (hwidth : 0 < width) (h : n < 10 ^ width) (rest : List Char) :
    exactNumber? width ((padded width n).toList ++ rest) = some (n, rest) := by
  unfold exactNumber?
  dsimp only
  rw [takeWhile_padded hwidth h, if_pos (length_padded hwidth h), digitsValue_padded,
    List.drop_left' (length_padded hwidth h)]

theorem number?_padded (hwidth : 0 < width) (h : n < 10 ^ width) (rest : List Char) :
    number? width ((padded width n).toList ++ rest) = some (n, rest) := by
  obtain ⟨c, digits, htext, -⟩ := exists_cons_padded width n
  have hsome : (padded width n).toList ≠ [] := by
    rw [htext]
    exact List.cons_ne_nil c digits
  unfold number?
  dsimp only
  rw [takeWhile_padded hwidth h, if_neg hsome, digitsValue_padded, length_padded hwidth h,
    List.drop_left' (length_padded hwidth h)]

theorem trimStart_padded (width n : Nat) (rest : List Char) :
    Text.trimStart ((padded width n).toList ++ rest) = (padded width n).toList ++ rest := by
  obtain ⟨c, digits, htext, hc⟩ := exists_cons_padded width n
  have hblank : Text.isBlank c = false := Text.isBlank_of_isDigit hc
  rw [htext, List.cons_append, Text.trimStart,
    List.dropWhile_cons_of_neg (by rw [hblank]; exact Bool.false_ne_true)]

theorem looseNumber?_padded (hwidth : 0 < width) (h : n < 10 ^ width) (rest : List Char) :
    looseNumber? width ((padded width n).toList ++ rest) = some (n, rest) := by
  unfold looseNumber?
  rw [trimStart_padded, number?_padded hwidth h]

/-- A year without a sign has four digits. -/
theorem looseYear?_padded (h : n < 10000) (rest : List Char) :
    looseYear? ((padded 4 n).toList ++ rest) = some ((n : Int), rest) := by
  obtain ⟨c, digits, htext, hc⟩ := exists_cons_padded 4 n
  have hminus : c ≠ '-' := by
    rintro rfl
    exact absurd hc (by decide)
  have hplus : c ≠ '+' := by
    rintro rfl
    exact absurd hc (by decide)
  have hread : number? 4 ((padded 4 n).toList ++ rest) = some (n, rest) :=
    number?_padded (by decide) h rest
  unfold looseYear?
  rw [trimStart_padded]
  rw [htext, List.cons_append] at hread ⊢
  split
  · next hfirst => exact absurd (List.cons.inj hfirst).1 hminus
  · next hfirst => exact absurd (List.cons.inj hfirst).1 hplus
  · rw [hread]
    rfl

theorem within?_padded {low high : Nat} (hlow : low ≤ n) (hhigh : n ≤ high) (hwidth : 0 < width)
    (h : n < 10 ^ width) (rest : List Char) :
    within? low high (exactNumber? width) ((padded width n).toList ++ rest) = some (n, rest) := by
  unfold within?
  rw [exactNumber?_padded hwidth h, Option.filter_some_pos]
  exact Bool.and_eq_true_iff.mpr ⟨decide_eq_true hlow, decide_eq_true hhigh⟩

end Time

namespace Date

open Time

variable {date : Date}

theorem toList_toText (hmin : 0 ≤ date.year) (hmax : date.year ≤ 9999) : date.toText.toList =
    (padded 4 date.year.toNat).toList ++ '-' :: ((padded 2 date.month).toList ++
      '-' :: (padded 2 date.day).toList) := by
  have hdash : "-".toList = ['-'] := rfl
  unfold toText yearText
  rw [if_pos ⟨hmin, hmax⟩]
  simp only [String.toList_append, List.append_assoc, hdash, List.cons_append,
    List.nil_append]

theorem IsDay.month_lt (h : date.IsDay) : date.month < 10 ^ 2 := by
  obtain ⟨-, hmonth, -⟩ := h
  omega

theorem IsDay.day_lt (h : date.IsDay) : date.day < 10 ^ 2 := by
  obtain ⟨-, -, -, hday⟩ := h
  have hlength : daysInMonth date.year date.month ≤ 31 := by
    unfold daysInMonth
    repeat' split
    all_goals omega
  omega

/-- A date of four digits is read back. -/
theorem read?_toText (hday : date.IsDay) (hmin : 0 ≤ date.year) (hmax : date.year ≤ 9999) :
    Date.read? date.toText = some date := by
  have hyear : ((date.year.toNat : Nat) : Int) = date.year := by omega
  have hyears : date.year.toNat < 10000 := by omega
  have hnumbers : ofNumbers? (date.year.toNat : Int) date.month date.day = some date := by
    rw [hyear]
    exact ofNumbers?_eq_some hday (by unfold minYear; omega) (by unfold maxYear; omega)
  have hlast := looseNumber?_padded (by decide) hday.day_lt []
  rw [List.append_nil] at hlast
  unfold Date.read? looseDate?
  rw [toList_toText hmin hmax]
  simp only [looseYear?_padded hyears, mark?, if_true, looseNumber?_padded (by decide) hday.month_lt,
    hlast, hnumbers, Option.bind_eq_bind, Option.bind_some]

end Date

namespace Timestamp

open Date Time

variable {t : Timestamp}

/-- A point in time that is in range; only the last second of a minute has a leap second. -/
structure IsPoint (t : Timestamp) : Prop where
  inRange : inRange t.seconds = true
  nanos : t.nanos < 1000000000 ∨ t.nanos < 2000000000 ∧ t.seconds % 60 = 59

/-- A point in time that the stored form holds: of four digits and in whole milliseconds. -/
structure IsWholeMillis (t : Timestamp) : Prop where
  point : t.IsPoint
  minYear : 0 ≤ t.date.year
  maxYear : t.date.year ≤ 9999
  millis : t.nanos % 1000000 = 0

/-- The hour, minute and second that a point in time is written with. -/
def clock (t : Timestamp) : Nat × Nat × Nat :=
  let second := (t.seconds % 86400).toNat
  (second / 3600, second / 60 % 60,
    second % 60 + if t.nanos ≥ 1000000000 then 1 else 0)

theorem toList_toText (t : Timestamp) : (t.toText .millis).toList =
    t.date.toText.toList ++ 'T' :: ((padded 2 t.clock.1).toList ++ ':' ::
      ((padded 2 t.clock.2.1).toList ++ ':' :: ((padded 2 t.clock.2.2).toList ++
        '.' :: ((padded 3 (t.nanos % 1000000000 / 1000000)).toList ++ ['Z'])))) := by
  have hmark : ∀ c : Char, (String.ofList [c]).toList = [c] := fun c => String.toList_ofList
  have htime : "T" = String.ofList ['T'] := rfl
  have hcolon : ":" = String.ofList [':'] := rfl
  have hpoint : "." = String.ofList ['.'] := rfl
  have hzone : "Z" = String.ofList ['Z'] := rfl
  unfold toText clockText fractionText
  dsimp only
  rw [htime, hcolon, hpoint, hzone]
  simp only [String.toList_append, List.append_assoc, hmark, List.cons_append,
    List.nil_append, clock]

theorem fraction?_padded {n : Nat} (h : n < 1000) :
    fraction? ('.' :: ((padded 3 n).toList ++ ['Z'])) = some (n * 1000000, ['Z']) := by
  have hspan : spanDigits ((padded 3 n).toList ++ ['Z']) = ((padded 3 n).toList, ['Z']) :=
    spanDigits_append (fun c hc => isDigit_of_mem_padded hc) (by simp)
  obtain ⟨c, digits, htext, -⟩ := exists_cons_padded 3 n
  have hsome : (padded 3 n).toList ≠ [] := by
    rw [htext]
    exact List.cons_ne_nil c digits
  have hlength : (padded 3 n).toList.length = 3 := length_padded (by decide) h
  have hscale : tenTo (9 - 3) = 1000000 := by decide
  have hkept : (padded 3 n).toList.take 9 = (padded 3 n).toList :=
    List.take_of_length_le (by omega)
  simp only [fraction?, hspan, hsome, if_false, hkept, digitsValue_padded, hlength, hscale]

theorem clock?_padded {hour minute second millis : Nat} (hhour : hour < 24) (hminute : minute < 60)
    (hsecond : second ≤ 60) (hmillis : millis < 1000) :
    clock? ((padded 2 hour).toList ++ ':' :: ((padded 2 minute).toList ++
      ':' :: ((padded 2 second).toList ++ '.' :: ((padded 3 millis).toList ++ ['Z'])))) =
        some ((hour, minute, second, millis * 1000000), ['Z']) := by
  have hread (high : Nat) {n : Nat} (h : n ≤ high) (hn : n < 100) (rest : List Char) :
      within? 0 high (exactNumber? 2) ((padded 2 n).toList ++ rest) = some (n, rest) :=
    within?_padded (Nat.zero_le n) h (by decide) hn rest
  unfold clock?
  simp only [hread 23 (n := hour) (by omega) (by omega), hread 59 (n := minute) (by omega) (by omega),
    hread 60 hsecond (by omega), mark?, if_true, fraction?_padded hmillis, Option.bind_eq_bind,
    Option.bind_some]

theorem clock_bounds (t : Timestamp) : t.clock.1 < 24 ∧ t.clock.2.1 < 60 ∧ t.clock.2.2 ≤ 60 := by
  unfold clock
  dsimp only
  split <;> omega

/-- A point in time is put together from the parts it is written with. -/
theorem assemble?_clock (h : t.IsWholeMillis) :
    assemble? t.date t.clock.1 t.clock.2.1 t.clock.2.2
      (t.nanos % 1000000000 / 1000000 * 1000000) 0 = some t := by
  obtain ⟨⟨hrange, hvalid⟩, -, -, hmillis⟩ := h
  have hseconds : t.date.toDays * 86400 + (t.clock.1 * 3600 + t.clock.2.1 * 60
      + min t.clock.2.2 59 : Nat) - 0 = t.seconds := by
    unfold date clock
    rw [toDays_ofDays]
    dsimp only
    split <;> omega
  have hnanos : (if t.clock.2.2 = 60 then t.nanos % 1000000000 / 1000000 * 1000000 + 1000000000
      else t.nanos % 1000000000 / 1000000 * 1000000) = t.nanos := by
    unfold clock
    dsimp only
    by_cases hleap : t.nanos ≥ 1000000000
    · rw [if_pos hleap, if_pos (by omega)]
      omega
    · rw [if_neg hleap, if_neg (by omega)]
      omega
  unfold assemble?
  dsimp only
  rw [hseconds, if_pos hrange, hnanos]

/-- A point in time in whole milliseconds is read back. -/
theorem read?_toText (h : t.IsWholeMillis) : Timestamp.read? (t.toText .millis) = some t := by
  have hday : t.date.IsDay := isDay_ofDays _
  have hyear : ((t.date.year.toNat : Nat) : Int) = t.date.year := by
    have := h.minYear
    omega
  have hyears : t.date.year.toNat < 10 ^ 4 := by
    have := h.maxYear
    omega
  have hnumbers : ofNumbers? (t.date.year.toNat : Int) t.date.month t.date.day = some t.date := by
    rw [hyear]
    refine ofNumbers?_eq_some hday (le_trans (by decide) h.minYear) (le_trans h.maxYear (by decide))
  have hclock := t.clock_bounds
  unfold Timestamp.read?
  rw [toList_toText, Date.toList_toText h.minYear h.maxYear]
  simp only [List.append_assoc, List.cons_append, exactNumber?_padded (by decide) hyears, mark?,
    if_true, exactNumber?_padded (by decide) hday.month_lt,
    exactNumber?_padded (by decide) hday.day_lt, hnumbers, separator?, true_or,
    clock?_padded hclock.1 hclock.2.1 hclock.2.2 (show t.nanos % 1000000000 / 1000000 < 1000 by omega),
    zone?, assemble?_clock h, Option.bind_eq_bind, Option.bind_some]

end Timestamp

end Keyspace
