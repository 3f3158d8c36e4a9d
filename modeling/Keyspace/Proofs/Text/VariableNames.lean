import Keyspace.Config.Basic
import Keyspace.Proofs.Text.WordStyles

/-!
# Names of variables in pascal case

Pascal case keeps the letters and digits of a variable's name, and a letter keeps its case where
a word begins. So of the underscores only those are kept in memory that stand before a letter and
behind something else, and names that differ in the others share one pascal case.
-/
namespace Keyspace.Text

/-- A capital letter or a digit. -/
def IsCapital (c : Char) : Prop := c.isUpper = true ∨ c.isDigit = true

/-- Drops every underscore that is not directly followed by a letter. -/
def dropIdle : List Char → List Char
  | [] => []
  | c :: rest =>
    if c = '_' ∧ rest.head?.any Char.isAlpha = false then dropIdle rest else c :: dropIdle rest

/-- What pascal case keeps of a name: without the underscores at the front and those that are
not directly followed by a letter. -/
def wordMarks (name : String) : List Char := dropIdle (name.toList.dropWhile (· = '_'))

/-- The pascal case of what is left of a name. -/
def pascalFrom : (atStart : Bool) → List Char → List Char
  | _, [] => []
  | atStart, c :: rest =>
    if c = '_' then pascalFrom true rest
    else (if atStart then c else c.toLower) :: pascalFrom false rest

/-- Reads the capitals of a pascal case as beginnings of words. -/
def markWords : List Char → List Char
  | [] => []
  | c :: rest => if c.isUpper then '_' :: c :: markWords rest else c.toUpper :: markWords rest

/-- Reads a pascal case whose first word begins with its first character. -/
def beginWords : List Char → List Char
  | [] => []
  | c :: rest => c :: markWords rest

/-! ## Characters -/

namespace IsCapital

variable {c : Char} (h : IsCapital c)
include h

theorem isAlphanum : c.isAlphanum = true := by
  unfold Char.isAlphanum Char.isAlpha
  rcases h with h | h <;> simp [h]

theorem ne_underscore : c ≠ '_' := by
  rintro rfl
  exact absurd h.isAlphanum (by decide)

theorem isLowercase : isLowercase c = false := by
  have hall : ∀ n < 128, (Char.ofNat n).isUpper = true ∨ (Char.ofNat n).isDigit = true →
      (Char.ofNat n).isLower = false := by decide
  have hcode := toNat_lt_of_isAlphanum h.isAlphanum
  have hchar := hall c.toNat hcode
  rw [Char.ofNat_toNat] at hchar
  rw [isLowercase_ascii hcode]
  exact hchar h

/-- The case of a capital can be changed back and forth. -/
theorem case : c.toUpper = c ∧ c.toLower.isUpper = false ∧ c.toLower.toUpper = c ∧
    c.isAlpha = c.isUpper ∧ (c.isUpper = false → c.toLower = c) := by
  have hall : ∀ n < 128, (Char.ofNat n).isUpper = true ∨ (Char.ofNat n).isDigit = true →
      (Char.ofNat n).toUpper = Char.ofNat n ∧ (Char.ofNat n).toLower.isUpper = false ∧
        (Char.ofNat n).toLower.toUpper = Char.ofNat n ∧
        (Char.ofNat n).isAlpha = (Char.ofNat n).isUpper ∧
        ((Char.ofNat n).isUpper = false → (Char.ofNat n).toLower = Char.ofNat n) := by decide
  have hchar := hall c.toNat (toNat_lt_of_isAlphanum h.isAlphanum)
  rw [Char.ofNat_toNat] at hchar
  exact hchar h

end IsCapital

theorem capitals_of_isVariableName {name : String} (h : Config.isVariableName name = true) :
    ∀ c ∈ name.toList, IsCapital c ∨ c = '_' := by
  intro c hc
  have hchar := List.all_eq_true.mp (Bool.and_eq_true_iff.mp h).2 c hc
  rcases Bool.or_eq_true_iff.mp hchar with hcapital | hunderscore
  · exact Or.inl (Bool.or_eq_true_iff.mp hcapital)
  · exact Or.inr (of_decide_eq_true hunderscore)

/-! ## Words -/

/-- A stretch without lower-case letters is one word. -/
theorem wordsFrom_capitals {mode : WordCase} {word text : List Char} (hmode : mode ≠ .lower)
    (hne : text ≠ []) (h : ∀ c ∈ text, isLowercase c = false) :
    wordsFrom mode word text = [word ++ text] := by
  have hfollowing {mode : WordCase} (hmode : mode ≠ .lower) {c : Char}
      (hc : isLowercase c = false) :
      (if isLowercase c then .lower else if isUppercase c then .upper else mode) ≠
        WordCase.lower := by
    rw [hc, if_neg Bool.false_ne_true]
    split_ifs
    · decide
    · exact hmode
  fun_induction wordsFrom mode word text with
  | case1 => exact absurd rfl hne
  | case2 => rfl
  | case3 mode word c next rest following hcut ih =>
    exact absurd hcut.1 (hfollowing hmode (h c List.mem_cons_self))
  | case4 mode word c next rest following hcut hrun ih =>
    have hnext := h next (List.mem_cons_of_mem _ List.mem_cons_self)
    rw [hrun.2.2] at hnext
    cases hnext
  | case5 mode word c next rest following hcut hrun ih =>
    rw [ih (hfollowing hmode (h c List.mem_cons_self)) (List.cons_ne_nil _ _)
      fun d hd => h d (List.mem_cons_of_mem _ hd), List.append_assoc, List.singleton_append]

section Pieces

variable {text : List Char} (h : ∀ c ∈ text, IsCapital c ∨ c = '_')
include h

/-- The pieces between the underscores are the words of the pascal case. -/
theorem splitWhere_capitals : ∃ piece pieces,
    splitWhere (fun c => !isAlphanumeric c) text = piece :: pieces ∧
      (∀ word ∈ piece :: pieces, ∀ c ∈ word, IsCapital c) ∧
      pascalFrom true text = (piece :: pieces).flatMap capitalWord ∧
      pascalFrom false text = piece.map Char.toLower ++ pieces.flatMap capitalWord := by
  induction text with
  | nil => exact ⟨[], [], rfl, by simp, rfl, rfl⟩
  | cons c rest ih =>
    rw [List.forall_mem_cons] at h
    obtain ⟨piece, pieces, hsplit, hcapital, htrue, hfalse⟩ := ih h.2
    rcases h.1 with hc | rfl
    · have halnum : isAlphanumeric c = true :=
        (isAlphanumeric_ascii (toNat_lt_of_isAlphanum hc.isAlphanum)).trans hc.isAlphanum
      have hword : ∀ d ∈ c :: piece, IsCapital d :=
        List.forall_mem_cons.mpr ⟨hc, hcapital piece List.mem_cons_self⟩
      refine ⟨c :: piece, pieces, ?_, ?_, ?_, ?_⟩
      · simp [splitWhere, halnum, hsplit]
      · exact List.forall_mem_cons.mpr ⟨hword, (List.forall_mem_cons.mp hcapital).2⟩
      · rw [pascalFrom, if_neg hc.ne_underscore, hfalse, List.flatMap_cons, capitalWord,
          upper_ascii (toNat_lt_of_isAlphanum hc.isAlphanum), hc.case.1,
          lowerWord_ascii fun d hd => (hword d (List.mem_cons_of_mem _ hd)).isAlphanum]
        rfl
      · rw [pascalFrom, if_neg hc.ne_underscore, hfalse]
        rfl
    · have hsep : isAlphanumeric '_' = false := by decide
      refine ⟨[], piece :: pieces, ?_, ?_, ?_, ?_⟩
      · simp [splitWhere, hsep, hsplit]
      · exact List.forall_mem_cons.mpr ⟨by simp, hcapital⟩
      · rw [pascalFrom, if_pos rfl, htrue]
        rfl
      · rw [pascalFrom, if_pos rfl, htrue]
        rfl

end Pieces

theorem pascalCase_eq_pascalFrom {name : String} (h : ∀ c ∈ name.toList, IsCapital c ∨ c = '_') :
    pascalCase name = String.ofList (pascalFrom true name.toList) := by
  obtain ⟨piece, pieces, hsplit, hcapital, htrue, -⟩ := splitWhere_capitals h
  rw [pascalCase, words, hsplit, htrue, List.flatMap_assoc]
  refine congrArg String.ofList (List.flatMap_congr fun word hword => ?_)
  by_cases hne : word = []
  · subst hne
    rfl
  · rw [wordsFrom_capitals (by decide) hne fun c hc => (hcapital word hword c hc).isLowercase]
    simp

/-! ## Underscores -/

theorem dropIdle_cons {c : Char} (hc : IsCapital c) (rest : List Char) :
    dropIdle (c :: rest) = c :: dropIdle rest := by
  rw [dropIdle, if_neg fun h => hc.ne_underscore h.1]

/-- Before a letter an underscore stays, before a digit it goes. -/
theorem dropIdle_underscore_cons {c : Char} (hc : IsCapital c) (rest : List Char) :
    dropIdle ('_' :: c :: rest) =
      if c.isUpper then '_' :: c :: dropIdle rest else c :: dropIdle rest := by
  rw [dropIdle, List.head?_cons, Option.any_some, hc.case.2.2.2.1, dropIdle_cons hc]
  cases c.isUpper <;> simp

theorem dropIdle_underscores (rest : List Char) :
    dropIdle ('_' :: '_' :: rest) = dropIdle ('_' :: rest) := by
  rw [dropIdle, if_pos ⟨rfl, rfl⟩]

section Marks

variable {text : List Char} (h : ∀ c ∈ text, IsCapital c ∨ c = '_')
include h

/-- The marks of words can be read off the pascal case. -/
theorem markWords_pascalFrom : markWords (pascalFrom false text) = dropIdle text ∧
    markWords (pascalFrom true text) = dropIdle ('_' :: text) := by
  -- Both modes at once: an underscore leads to the second, the next letter or digit back.
  induction text with
  | nil => exact ⟨rfl, by decide⟩
  | cons c rest ih =>
    rw [List.forall_mem_cons] at h
    obtain ⟨hfalse, htrue⟩ := ih h.2
    rcases h.1 with hc | rfl
    · obtain ⟨hupper, hlower, hback, -⟩ := hc.case
      constructor
      · rw [pascalFrom, if_neg hc.ne_underscore, if_neg Bool.false_ne_true, markWords, hlower,
          if_neg Bool.false_ne_true, hback, hfalse, dropIdle_cons hc]
      · rw [pascalFrom, if_neg hc.ne_underscore, if_pos rfl, markWords, hupper, hfalse,
          dropIdle_underscore_cons hc]
    · rw [pascalFrom, if_pos rfl, pascalFrom, if_pos rfl, dropIdle_underscores]
      exact ⟨htrue, htrue⟩

/-- Dropping the other underscores leaves the pascal case as it is. -/
theorem pascalFrom_dropIdle : pascalFrom false (dropIdle text) = pascalFrom false text ∧
    pascalFrom false (dropIdle ('_' :: text)) = pascalFrom true text := by
  induction text with
  | nil => exact ⟨rfl, by decide⟩
  | cons c rest ih =>
    rw [List.forall_mem_cons] at h
    obtain ⟨hfalse, htrue⟩ := ih h.2
    rcases h.1 with hc | rfl
    · constructor
      · rw [dropIdle_cons hc, pascalFrom, pascalFrom, if_neg hc.ne_underscore,
          if_neg hc.ne_underscore, hfalse]
      · rw [dropIdle_underscore_cons hc]
        cases hletter : c.isUpper with
        | true =>
          rw [if_pos rfl, pascalFrom, if_pos rfl, pascalFrom, pascalFrom, if_neg hc.ne_underscore,
            if_neg hc.ne_underscore, hfalse]
        | false =>
          rw [if_neg Bool.false_ne_true, pascalFrom, pascalFrom, if_neg hc.ne_underscore,
            if_neg hc.ne_underscore, if_neg Bool.false_ne_true, if_pos rfl, hfalse,
            hc.case.2.2.2.2 hletter]
    · rw [pascalFrom, if_pos rfl, pascalFrom, if_pos rfl, dropIdle_underscores]
      exact ⟨htrue, htrue⟩

theorem beginWords_pascalFrom :
    beginWords (pascalFrom true text) = dropIdle (text.dropWhile (· = '_')) := by
  induction text with
  | nil => rfl
  | cons c rest ih =>
    rw [List.forall_mem_cons] at h
    rcases h.1 with hc | rfl
    · rw [List.dropWhile_cons_of_neg (by simpa using hc.ne_underscore), pascalFrom,
        if_neg hc.ne_underscore, if_pos rfl, beginWords, (markWords_pascalFrom h.2).1,
        dropIdle_cons hc]
    · rw [List.dropWhile_cons_of_pos (by simp), pascalFrom, if_pos rfl]
      exact ih h.2

theorem pascalFrom_wordMarks :
    pascalFrom true (dropIdle (text.dropWhile (· = '_'))) = pascalFrom true text := by
  induction text with
  | nil => rfl
  | cons c rest ih =>
    rw [List.forall_mem_cons] at h
    rcases h.1 with hc | rfl
    · rw [List.dropWhile_cons_of_neg (by simpa using hc.ne_underscore), dropIdle_cons hc,
        pascalFrom, pascalFrom, if_neg hc.ne_underscore, if_neg hc.ne_underscore,
        (pascalFrom_dropIdle h.2).1]
    · rw [List.dropWhile_cons_of_pos (by simp), pascalFrom, if_pos rfl]
      exact ih h.2

end Marks

/-- Two names of variables share a pascal case if they agree up to the underscores that stand at
the front or are not directly followed by a letter. -/
theorem pascalCase_eq_iff {name name' : String}
    (h : ∀ c ∈ name.toList, IsCapital c ∨ c = '_')
    (h' : ∀ c ∈ name'.toList, IsCapital c ∨ c = '_') :
    pascalCase name = pascalCase name' ↔ wordMarks name = wordMarks name' := by
  rw [pascalCase_eq_pascalFrom h, pascalCase_eq_pascalFrom h', String.ofList_inj]
  constructor
  · intro hsame
    rw [wordMarks, wordMarks, ← beginWords_pascalFrom h, ← beginWords_pascalFrom h', hsame]
  · intro hsame
    rw [← pascalFrom_wordMarks h, ← pascalFrom_wordMarks h']
    exact congrArg (pascalFrom true) hsame

end Keyspace.Text
