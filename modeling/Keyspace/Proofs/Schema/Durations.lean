import Keyspace.Proofs.Number.IntegerText
import Keyspace.Schema.Duration

/-!
# What durations are read

A text is read as a duration exactly if, between blanks, it is a run of digits, blanks again and
the letter of a unit, and neither the number nor its seconds reach 2 ^ 64. The seconds are exact:
words of 64 bits that refuse every sum and product that does not fit give the same answer. It is
the same, too, if the digits are first looked for among those of more scripts, since a number has
none of those.
-/
namespace Keyspace.Schema

open Text

/-- The seconds that the letter of a unit stands for. -/
inductive UnitLetter : Char → Nat → Prop
  | second : UnitLetter 's' 1
  | minute : UnitLetter 'm' 60
  | hour : UnitLetter 'h' 3600
  | day : UnitLetter 'd' 86400

namespace UnitLetter

variable {letter : Char} {unit : Nat} (h : UnitLetter letter unit)

include h

theorem not_blank : isBlank letter = false := by
  cases h <;> rfl

theorem not_digit : letter.isDigit = false := by
  cases h <;> rfl

theorem lt_size : unit < UInt64.size := by
  cases h <;> decide

end UnitLetter

theorem unitSeconds?_eq_some {text : List Char} {unit : Nat} :
    unitSeconds? text = some unit ↔ ∃ letter, text = [letter] ∧ UnitLetter letter unit := by
  constructor
  · intro h
    unfold unitSeconds? at h
    split at h
    · cases h; exact ⟨'s', rfl, .second⟩
    · cases h; exact ⟨'m', rfl, .minute⟩
    · cases h; exact ⟨'h', rfl, .hour⟩
    · cases h; exact ⟨'d', rfl, .day⟩
    · cases h
  · rintro ⟨letter, rfl, h⟩
    cases h <;> rfl

/-! ## The pattern -/

/-- A class of digits: those of ASCII and maybe others, but no blank and no letter of a unit. -/
structure DigitClass where
  has : Char → Bool
  has_digit {c : Char} : c.isDigit = true → has c = true
  not_blank {c : Char} : has c = true → isBlank c = false
  not_letter {letter : Char} {unit : Nat} : UnitLetter letter unit → has letter = false

namespace DigitClass

/-- The digits of ASCII alone. -/
def ascii : DigitClass where
  has := Char.isDigit
  has_digit := id
  not_blank := isBlank_of_isDigit
  not_letter := UnitLetter.not_digit

/-- The text is digits of the class and, behind blanks if any, the letter of a unit. -/
def Matches (d : DigitClass) (text digits : List Char) (unit : Nat) : Prop :=
  ∃ gap letter, text = digits ++ (gap ++ [letter]) ∧ digits ≠ [] ∧
    (∀ c ∈ digits, d.has c = true) ∧ (∀ c ∈ gap, isBlank c = true) ∧ UnitLetter letter unit

/-- The digits and the unit of a text. -/
def match? (d : DigitClass) (text : List Char) : Option (List Char × Nat) :=
  let (digits, rest) := text.span d.has
  if digits = [] then none else (unitSeconds? (rest.dropWhile isBlank)).map (digits, ·)

variable {d : DigitClass} {text digits : List Char} {unit : Nat}

/-- The digits end where the blanks or the letter begin, since neither is a digit. -/
theorem span_eq {gap : List Char} {letter : Char} (hdigits : ∀ c ∈ digits, d.has c = true)
    (hgap : ∀ c ∈ gap, isBlank c = true) (hletter : UnitLetter letter unit) :
    (digits ++ (gap ++ [letter])).span d.has = (digits, gap ++ [letter]) := by
  refine span_eq_iff.mpr ⟨rfl, hdigits, fun c hc => ?_⟩
  cases gap with
  | nil =>
    cases hc
    exact d.not_letter hletter
  | cons b gap =>
    cases hc
    by_contra hdigit
    have hblank := hgap c List.mem_cons_self
    rw [d.not_blank (by simpa using hdigit)] at hblank
    cases hblank

theorem match?_eq_some : d.match? text = some (digits, unit) ↔ d.Matches text digits unit := by
  constructor
  · intro h
    obtain ⟨first, rest, hspan⟩ : ∃ first rest, text.span d.has = (first, rest) := ⟨_, _, rfl⟩
    obtain ⟨htext, hdigits, -⟩ := span_eq_iff.mp hspan
    rw [match?, hspan] at h
    obtain ⟨hne, h⟩ := Option.ite_none_left_eq_some.mp h
    obtain ⟨seconds, hseconds, h⟩ := Option.map_eq_some_iff.mp h
    obtain ⟨letter, hrest, hletter⟩ := unitSeconds?_eq_some.mp hseconds
    obtain ⟨hsplit, hgap, -⟩ := span_eq_iff.mp (List.span_eq_takeWhile_dropWhile isBlank rest)
    rw [hrest] at hsplit
    cases h
    exact ⟨_, letter, by rw [htext, ← hsplit], hne, hdigits, hgap, hletter⟩
  · rintro ⟨gap, letter, rfl, hne, hdigits, hgap, hletter⟩
    have hrest : (gap ++ [letter]).dropWhile isBlank = [letter] :=
      dropWhile_append_of_head hgap fun c hc => by cases hc; exact hletter.not_blank
    have hunit : unitSeconds? [letter] = some unit :=
      unitSeconds?_eq_some.mpr ⟨letter, rfl, hletter⟩
    rw [match?, span_eq hdigits hgap hletter]
    dsimp only
    rw [if_neg hne, hrest, hunit, Option.map_some]

/-- A text with digits of ASCII matches in every class alike. -/
theorem matches_ascii_iff (hdigits : ∀ c ∈ digits, c.isDigit = true) :
    ascii.Matches text digits unit ↔ d.Matches text digits unit := by
  constructor
  · rintro ⟨gap, letter, htext, hne, -, hgap, hletter⟩
    exact ⟨gap, letter, htext, hne, fun c hc => d.has_digit (hdigits c hc), hgap, hletter⟩
  · rintro ⟨gap, letter, htext, hne, -, hgap, hletter⟩
    exact ⟨gap, letter, htext, hne, hdigits, hgap, hletter⟩

/-- What matches begins with a digit and ends with a letter, so it has no blank at its ends. -/
theorem Matches.trim_between {before after : List Char} (h : d.Matches text digits unit)
    (hbefore : ∀ c ∈ before, isBlank c = true) (hafter : ∀ c ∈ after, isBlank c = true) :
    trim (before ++ text ++ after) = text := by
  obtain ⟨gap, letter, rfl, hne, hdigits, -, hletter⟩ := h
  refine Text.trim_between hbefore hafter (fun c hc => ?_) (fun c hc => ?_)
  · rw [List.head?_append_of_ne_nil _ hne] at hc
    exact d.not_blank (hdigits c (List.mem_of_head? hc))
  · rw [← List.append_assoc, List.getLast?_concat] at hc
    cases hc
    exact hletter.not_blank

end DigitClass

/-! ## Numbers that words of 64 bits hold -/

/-- The number, if a word holds it. -/
def inWord? (n : Nat) : Option Nat := if n < UInt64.size then some n else none

theorem inWord?_eq_some {m n : Nat} : inWord? m = some n ↔ m < UInt64.size ∧ m = n := by
  rw [inWord?, Option.ite_none_right_eq_some, Option.some.injEq]

theorem inWord?_toNat (n : UInt64) : inWord? n.toNat = some n.toNat := if_pos n.toNat_lt_size

/-- What overflows stays too large when it grows. -/
theorem inWord?_of_le {m n : Nat} (h : inWord? m = none) (hle : m ≤ n) : inWord? n = none := by
  unfold inWord? at h ⊢
  split at h
  · cases h
  · rw [if_neg (by omega)]

/-- The seconds of digits and a unit, if the number and the seconds are words. -/
def secondsOf? (parts : List Char × Nat) : Option Nat :=
  ((readNat? parts.1).bind inWord?).bind fun amount => inWord? (amount * parts.2)

theorem secondsOf?_eq_some {digits : List Char} {unit n : Nat} :
    secondsOf? (digits, unit) = some n ↔
      ∃ amount, readNat? digits = some amount ∧ amount < UInt64.size ∧ amount * unit = n ∧
        n < UInt64.size := by
  unfold secondsOf?
  simp only [Option.bind_eq_some_iff, inWord?_eq_some]
  constructor
  · rintro ⟨amount, ⟨_, hread, hamount, rfl⟩, hseconds, rfl⟩
    exact ⟨_, hread, hamount, rfl, hseconds⟩
  · rintro ⟨amount, hread, hamount, rfl, hseconds⟩
    exact ⟨amount, ⟨amount, hread, hamount, rfl⟩, hseconds, rfl⟩

/-- The two bounds of a duration are those of words. -/
theorem ite_fits_eq (amount unit : Nat) :
    (if amount ≤ uint64Max ∧ amount * unit ≤ uint64Max then some (amount * unit) else none) =
      (inWord? amount).bind fun amount => inWord? (amount * unit) := by
  have hfits (n : Nat) : n ≤ uint64Max ↔ n < UInt64.size := by
    simp only [uint64Max, UInt64.size]
    omega
  simp only [hfits, inWord?]
  by_cases hamount : amount < UInt64.size <;> simp [hamount]

/-- The seconds of a duration are those of its digits and its unit. -/
theorem durationSeconds?_eq (text : List Char) :
    durationSeconds? text = (DigitClass.ascii.match? text).bind secondsOf? := by
  obtain ⟨digits, rest, hspan⟩ : ∃ digits rest, spanDigits text = (digits, rest) := ⟨_, _, rfl⟩
  have hsame : text.span DigitClass.ascii.has = (digits, rest) := hspan
  have hseconds (unit : Nat) : secondsOf? (digits, unit) = (readNat? digits).bind fun amount =>
      if amount ≤ uint64Max ∧ amount * unit ≤ uint64Max then some (amount * unit) else none := by
    simp only [secondsOf?, Option.bind_assoc, ite_fits_eq]
  rw [durationSeconds?, hspan, DigitClass.match?, hsame]
  simp only [Option.bind_eq_bind, ← hseconds]
  split
  · next hnil =>
    subst hnil
    have hnone (unit : Nat) : secondsOf? ([], unit) = none := rfl
    simp [hnone]
  · rw [Option.bind_map]
    rfl

/-! ## In words of 64 bits -/

/-- The sum of two words, unless it overflows. -/
def addWord? (a b : UInt64) : Option UInt64 :=
  if a.toNat + b.toNat < UInt64.size then some (a + b) else none

/-- The product of two words, unless it overflows. -/
def mulWord? (a b : UInt64) : Option UInt64 :=
  if a.toNat * b.toNat < UInt64.size then some (a * b) else none

/-- Appends a digit to the digits that a word stands for. -/
def appendDigit? (n : UInt64) (digit : Char) : Option UInt64 :=
  (mulWord? n 10).bind fun tens => addWord? tens (.ofNat (digit.toNat - 48))

/-- The word that a non-empty run of digits of ASCII stands for. -/
def readWord? (digits : List Char) : Option UInt64 :=
  if digits ≠ [] ∧ digits.all Char.isDigit then digits.foldlM appendDigit? 0 else none

/-- The seconds of a duration without blanks around it, in words: its digits are looked for in a
class, they are read as a number, and that is multiplied by the unit. -/
def wordSeconds? (d : DigitClass) (text : List Char) : Option UInt64 :=
  (d.match? text).bind fun parts =>
    (readWord? parts.1).bind fun amount => mulWord? amount (.ofNat parts.2)

theorem map_toNat_addWord? (a b : UInt64) :
    (addWord? a b).map UInt64.toNat = inWord? (a.toNat + b.toNat) := by
  unfold addWord? inWord?
  split
  · next h => rw [Option.map_some, UInt64.toNat_add, Nat.mod_eq_of_lt h]
  · rfl

theorem map_toNat_mulWord? (a b : UInt64) :
    (mulWord? a b).map UInt64.toNat = inWord? (a.toNat * b.toNat) := by
  unfold mulWord? inWord?
  split
  · next h => rw [Option.map_some, UInt64.toNat_mul, Nat.mod_eq_of_lt h]
  · rfl

/-- Appending a digit fails exactly if the longer number is no word; its tens may be too large
already. -/
theorem map_toNat_appendDigit? (n : UInt64) (c : Char) :
    (appendDigit? n c).map UInt64.toNat = inWord? (n.toNat * 10 + (c.toNat - 48)) := by
  have hdigit : (UInt64.ofNat (c.toNat - 48)).toNat = c.toNat - 48 := by
    have hc : c.toNat < UInt32.size := c.val.toNat_lt_size
    apply UInt64.toNat_ofNat_of_lt'
    simp only [UInt32.size, UInt64.size] at hc ⊢
    omega
  have htens : (mulWord? n 10).map UInt64.toNat = inWord? (n.toNat * 10) := map_toNat_mulWord? n 10
  unfold appendDigit?
  cases hmul : mulWord? n 10 with
  | none =>
    rw [hmul] at htens
    exact (inWord?_of_le htens.symm (Nat.le_add_right _ _)).symm
  | some tens =>
    rw [hmul] at htens
    rw [Option.bind_some, map_toNat_addWord?, hdigit, (inWord?_eq_some.mp htens.symm).2]

theorem le_foldl_digits (digits : List Char) (n : Nat) :
    n ≤ digits.foldl (fun n c => n * 10 + (c.toNat - 48)) n := by
  induction digits generalizing n with
  | nil => exact Nat.le_refl n
  | cons c digits ih =>
    have hrest := ih (n * 10 + (c.toNat - 48))
    rw [List.foldl_cons]
    omega

theorem map_toNat_foldlM (digits : List Char) (n : UInt64) :
    (digits.foldlM appendDigit? n).map UInt64.toNat =
      inWord? (digits.foldl (fun n c => n * 10 + (c.toNat - 48)) n.toNat) := by
  induction digits generalizing n with
  | nil => exact (inWord?_toNat n).symm
  | cons c digits ih =>
    have hfirst := map_toNat_appendDigit? n c
    rw [List.foldlM_cons, List.foldl_cons]
    cases happend : appendDigit? n c with
    | none =>
      -- The first digits are too many for a word already, and the others only add to them.
      rw [happend] at hfirst
      exact (inWord?_of_le hfirst.symm (le_foldl_digits digits _)).symm
    | some m =>
      rw [happend] at hfirst
      rw [(inWord?_eq_some.mp hfirst.symm).2]
      exact ih m

/-- A run of digits is read into a word exactly if its value is one. -/
theorem map_toNat_readWord? (digits : List Char) :
    (readWord? digits).map UInt64.toNat = (readNat? digits).bind inWord? := by
  unfold readWord? readNat?
  split
  · exact map_toNat_foldlM digits 0
  · rfl

/-- Counted in words, the seconds are those of the digits and the unit. -/
theorem map_toNat_wordSeconds? (d : DigitClass) (text : List Char) :
    (wordSeconds? d text).map UInt64.toNat = (d.match? text).bind secondsOf? := by
  unfold wordSeconds?
  cases hmatch : d.match? text with
  | none => rfl
  | some parts =>
    obtain ⟨digits, unit⟩ := parts
    obtain ⟨_, letter, -, -, -, -, hletter⟩ := DigitClass.match?_eq_some.mp hmatch
    have hunit : (UInt64.ofNat unit).toNat = unit := UInt64.toNat_ofNat_of_lt' hletter.lt_size
    calc ((readWord? digits).bind fun amount => mulWord? amount (.ofNat unit)).map UInt64.toNat
        = (readWord? digits).bind fun amount => inWord? (amount.toNat * unit) := by
          simp only [Option.map_bind, Function.comp_def, map_toNat_mulWord?, hunit]
      _ = ((readWord? digits).map UInt64.toNat).bind fun amount => inWord? (amount * unit) := by
          rw [Option.bind_map]
          rfl
      _ = secondsOf? (digits, unit) := by rw [map_toNat_readWord?, secondsOf?]

/-- Whatever other digits a class has, a text with one of them is no duration. -/
theorem bind_secondsOf?_eq (d : DigitClass) (text : List Char) :
    (d.match? text).bind secondsOf? = (DigitClass.ascii.match? text).bind secondsOf? := by
  ext n
  simp only [Option.bind_eq_some_iff, Prod.exists, DigitClass.match?_eq_some]
  -- Digits that are read as a number are those of ASCII, and these are in every class.
  refine exists_congr fun digits => exists_congr fun unit => and_congr_left fun hseconds => ?_
  obtain ⟨amount, hread, -⟩ := secondsOf?_eq_some.mp hseconds
  exact (DigitClass.matches_ascii_iff (isDigit_of_readNat? hread)).symm

/-- A text is read as so many seconds exactly if, between blanks, it is a number and a unit that
stand for them, both below 2 ^ 64. Nothing overflows on the way, since words give the same, and
digits of other scripts make no difference. -/
theorem durations_read_exactly (text : String) :
    (∀ n, parseDuration text = some n ↔
      ∃ before body after digits amount unit, text.toList = before ++ body ++ after ∧
        (∀ c ∈ before, isBlank c = true) ∧ (∀ c ∈ after, isBlank c = true) ∧
        DigitClass.ascii.Matches body digits unit ∧ Nat.ofDigitChars 10 digits 0 = amount ∧
        amount < UInt64.size ∧ amount * unit = n ∧ n < UInt64.size) ∧
      ∀ d, (wordSeconds? d (trim text.toList)).map UInt64.toNat = parseDuration text := by
  refine ⟨fun n => ?_, fun d => ?_⟩
  · rw [parseDuration, durationSeconds?_eq]
    simp only [Option.bind_eq_some_iff, Prod.exists, DigitClass.match?_eq_some, secondsOf?_eq_some]
    constructor
    · rintro ⟨digits, unit, hmatch, amount, hread, hfits⟩
      obtain ⟨-, -, before, after, htext, hbefore, hafter⟩ := exists_trim text.toList
      exact ⟨before, _, after, digits, amount, unit, htext, hbefore, hafter, hmatch,
        (readNat?_eq_some.mp hread).2.2, hfits⟩
    · rintro ⟨before, body, after, digits, amount, unit, htext, hbefore, hafter, hmatch, hvalue,
        hfits⟩
      have hbody : trim text.toList = body := by rw [htext, hmatch.trim_between hbefore hafter]
      have ⟨_, _, _, hne, hdigits, _⟩ := hmatch
      exact ⟨digits, unit, hbody ▸ hmatch, amount, readNat?_eq_some.mpr ⟨hne, hdigits, hvalue⟩,
        hfits⟩
  · rw [map_toNat_wordSeconds?, bind_secondsOf?_eq, ← durationSeconds?_eq, parseDuration]

/-- The last whole number of minutes that fits, written with blanks, and the next one. -/
example : parseDuration " 307445734561825860\u2003m" = some 18446744073709551600 ∧
    parseDuration "307445734561825861m" = none := by decide

end Keyspace.Schema
