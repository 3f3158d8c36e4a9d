import Keyspace.Proofs.Time.Text

/-!
# What the readers of dates and times give

Whatever text a reader accepts, it gives a day that its month has, or a point in time in range.
A leap second is the last of a minute in every zone, since a zone is ahead by whole minutes.
-/
namespace Keyspace

/-- So many digits stand for a number below that power of ten. -/
theorem digitsValue_lt {digits : List Char} (h : ∀ c ∈ digits, c.isDigit = true) :
    digitsValue digits < 10 ^ digits.length := by
  have hfold : ∀ (digits : List Char) (n : Nat), (∀ c ∈ digits, c.isDigit = true) →
      digits.foldl (fun n c => n * 10 + (c.toNat - 48)) n < (n + 1) * 10 ^ digits.length := by
    intro digits
    induction digits with
    | nil => intro n _; simp
    | cons c rest ih =>
      intro n hdigits
      have hc : c.toNat ≤ 57 := by
        have hbounds := hdigits c List.mem_cons_self
        simp only [Char.isDigit, Bool.and_eq_true, decide_eq_true_eq] at hbounds
        exact hbounds.2
      have hrest := ih (n * 10 + (c.toNat - 48)) fun d hd => hdigits d (List.mem_cons_of_mem c hd)
      have hdigit : n * 10 + (c.toNat - 48) + 1 ≤ (n + 1) * 10 := by omega
      calc (c :: rest).foldl (fun n c => n * 10 + (c.toNat - 48)) n
          < (n * 10 + (c.toNat - 48) + 1) * 10 ^ rest.length := hrest
        _ ≤ (n + 1) * 10 * 10 ^ rest.length := Nat.mul_le_mul_right _ hdigit
        _ = (n + 1) * 10 ^ (c :: rest).length := by
          rw [List.length_cons, pow_succ, Nat.mul_comm (10 ^ rest.length), Nat.mul_assoc]
  simpa [digitsValue] using hfold digits 0 h

namespace Date

theorem isDay_of_ofNumbers? {year : Int} {month day : Nat} {date : Date}
    (h : ofNumbers? year month day = some date) : date.IsDay := by
  unfold ofNumbers? at h
  obtain ⟨⟨-, -, hmonth, hmonth', hday, hday'⟩, hdate⟩ := Option.ite_none_right_eq_some.mp h
  cases hdate
  exact ⟨hmonth, hmonth', hday, hday'⟩

/-- What is read as a date is a day. -/
theorem isDay_of_read? {text : String} {date : Date} (h : read? text = some date) :
    date.IsDay := by
  unfold read? at h
  obtain ⟨⟨found, rest⟩, hread, h⟩ := Option.bind_eq_some_iff.mp h
  unfold Time.looseDate? at hread
  obtain ⟨⟨year, afterYear⟩, -, hread⟩ := Option.bind_eq_some_iff.mp hread
  obtain ⟨beforeMonth, -, hread⟩ := Option.bind_eq_some_iff.mp hread
  obtain ⟨⟨month, afterMonth⟩, -, hread⟩ := Option.bind_eq_some_iff.mp hread
  obtain ⟨beforeDay, -, hread⟩ := Option.bind_eq_some_iff.mp hread
  obtain ⟨⟨day, afterDay⟩, -, hread⟩ := Option.bind_eq_some_iff.mp hread
  obtain ⟨built, hbuilt, hread⟩ := Option.bind_eq_some_iff.mp hread
  obtain ⟨-, hdate⟩ := Option.ite_none_right_eq_some.mp h
  cases hread
  cases hdate
  exact isDay_of_ofNumbers? hbuilt

end Date

namespace Time

/-- A fraction of a second is less than a second. -/
theorem fraction?_lt {text rest : List Char} {nanos : Nat}
    (h : fraction? text = some (nanos, rest)) : nanos < 1000000000 := by
  unfold fraction? at h
  split at h
  · next after =>
    dsimp only at h
    obtain ⟨-, hnanos⟩ := Option.ite_none_left_eq_some.mp h
    cases hnanos
    have hdigits : ∀ c ∈ (spanDigits after).1.take 9, c.isDigit = true := fun c hc =>
      (Text.span_eq_iff.mp rfl).2.1 c (List.mem_of_mem_take hc)
    have hlength : ((spanDigits after).1.take 9).length ≤ 9 := by simp
    calc digitsValue ((spanDigits after).1.take 9) * tenTo (9 - ((spanDigits after).1.take 9).length)
        < 10 ^ ((spanDigits after).1.take 9).length *
            tenTo (9 - ((spanDigits after).1.take 9).length) :=
          Nat.mul_lt_mul_of_pos_right (digitsValue_lt hdigits) (tenTo_pos _)
      _ = 10 ^ 9 := by
        show 10 ^ _ * 10 ^ _ = 10 ^ 9
        rw [← pow_add, Nat.add_sub_cancel' hlength]
  · cases h
    decide

theorem clock?_nanos_lt {text rest : List Char} {hour minute second nanos : Nat}
    (h : clock? text = some ((hour, minute, second, nanos), rest)) : nanos < 1000000000 := by
  unfold clock? at h
  obtain ⟨⟨hour', afterHour⟩, -, h⟩ := Option.bind_eq_some_iff.mp h
  obtain ⟨beforeMinute, -, h⟩ := Option.bind_eq_some_iff.mp h
  obtain ⟨⟨minute', afterMinute⟩, -, h⟩ := Option.bind_eq_some_iff.mp h
  obtain ⟨beforeSecond, -, h⟩ := Option.bind_eq_some_iff.mp h
  obtain ⟨⟨second', afterSecond⟩, -, h⟩ := Option.bind_eq_some_iff.mp h
  obtain ⟨⟨nanos', afterNanos⟩, hnanos, h⟩ := Option.bind_eq_some_iff.mp h
  cases h
  exact fraction?_lt hnanos

/-- A zone is ahead by whole minutes. -/
theorem zone?_minutes {between : List Char → Option (List Char)} {text rest : List Char}
    {zone : Int} (h : zone? between text = some (zone, rest)) : zone % 60 = 0 := by
  unfold zone? at h
  split at h
  · cases h; rfl
  · cases h; rfl
  · next sign after _ _ =>
    dsimp only at h
    -- The hours and minutes are read alike, whatever the sign.
    split_ifs at h
    all_goals
      obtain ⟨factor, -, h⟩ := Option.bind_eq_some_iff.mp h
      obtain ⟨⟨hours, afterHours⟩, -, h⟩ := Option.bind_eq_some_iff.mp h
      obtain ⟨beforeMinutes, -, h⟩ := Option.bind_eq_some_iff.mp h
      obtain ⟨⟨minutes, afterMinutes⟩, -, h⟩ := Option.bind_eq_some_iff.mp h
      obtain ⟨-, h⟩ := Option.ite_none_right_eq_some.mp h
      cases h
      have hminutes : (hours : Int) * 3600 + minutes * 60 = (hours * 60 + minutes) * 60 := by omega
      rw [hminutes, ← Int.mul_assoc]
      exact Int.mul_emod_left _ 60
  · cases h

theorem isPoint_of_assemble? {date : Date} {hour minute second nanos : Nat} {zone : Int}
    {t : Timestamp} (hnanos : nanos < 1000000000) (hzone : zone % 60 = 0)
    (h : assemble? date hour minute second nanos zone = some t) : t.IsPoint := by
  unfold assemble? at h
  dsimp only at h
  obtain ⟨hrange, hpoint⟩ := Option.ite_none_right_eq_some.mp h
  cases hpoint
  refine ⟨hrange, ?_⟩
  dsimp only
  by_cases hleap : second = 60
  · right
    rw [if_pos hleap]
    omega
  · left
    rwa [if_neg hleap]

end Time

namespace Timestamp

/-- What is read as a point in time is one. -/
theorem isPoint_of_read? {text : String} {t : Timestamp} (h : read? text = some t) :
    t.IsPoint := by
  unfold read? at h
  obtain ⟨⟨year, afterYear⟩, -, h⟩ := Option.bind_eq_some_iff.mp h
  obtain ⟨beforeMonth, -, h⟩ := Option.bind_eq_some_iff.mp h
  obtain ⟨⟨month, afterMonth⟩, -, h⟩ := Option.bind_eq_some_iff.mp h
  obtain ⟨beforeDay, -, h⟩ := Option.bind_eq_some_iff.mp h
  obtain ⟨⟨day, afterDay⟩, -, h⟩ := Option.bind_eq_some_iff.mp h
  obtain ⟨date, -, h⟩ := Option.bind_eq_some_iff.mp h
  obtain ⟨beforeClock, -, h⟩ := Option.bind_eq_some_iff.mp h
  obtain ⟨⟨⟨hour, minute, second, nanos⟩, afterClock⟩, hclock, h⟩ := Option.bind_eq_some_iff.mp h
  obtain ⟨⟨zone, afterZone⟩, hzone, h⟩ := Option.bind_eq_some_iff.mp h
  obtain ⟨-, hpoint⟩ := Option.ite_none_right_eq_some.mp h
  exact Time.isPoint_of_assemble? (Time.clock?_nanos_lt hclock) (Time.zone?_minutes hzone) hpoint

theorem isPoint_of_ofSeconds? {seconds : Int} {t : Timestamp} (h : ofSeconds? seconds = some t) :
    t.IsPoint := by
  obtain ⟨hrange, hpoint⟩ := Option.ite_none_right_eq_some.mp h
  cases hpoint
  exact ⟨hrange, Or.inl (by decide : 0 < 1000000000)⟩

end Timestamp

end Keyspace
