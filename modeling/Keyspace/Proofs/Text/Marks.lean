import Keyspace.Text.Basic
import Mathlib.Data.List.DropRight
import Mathlib.Data.List.TakeDrop

/-!
# Marks and blanks

Splitting at a mark finds its first place, and trimming drops the blanks around a text and no
other. The cut at the characters of a class is that of the library: no piece has one of these
characters, and all that is lost is these characters.
-/
namespace Keyspace.Text

/-- No part is split off where the mark stands nowhere. -/
theorem splitAtMark?_eq_none {mark text : List Char} :
    splitAtMark? mark text = none ↔ ∀ before after, text ≠ before ++ mark ++ after := by
  induction text with
  | nil =>
    unfold splitAtMark?
    by_cases h : mark = []
    · subst h
      simp
    · simp only [h, if_false, true_iff]
      intro before after heq
      simp_all
  | cons c rest ih =>
    unfold splitAtMark?
    constructor
    · intro h before after heq
      split at h
      · cases h
      · next hnot =>
        rw [Option.map_eq_none_iff] at h
        cases before with
        | nil =>
          rw [List.nil_append] at heq
          have hfound := dropBeginning?_eq_some.mpr heq
          rw [hnot] at hfound
          cases hfound
        | cons d before =>
          rw [List.cons_append, List.cons_append] at heq
          exact ih.mp h before after (List.cons.inj heq).2
    · intro h
      split
      · next found =>
        exact absurd (dropBeginning?_eq_some.mp found) (h [] _)
      · rw [Option.map_eq_none_iff]
        refine ih.mpr fun before after heq => h (c :: before) after ?_
        rw [heq]
        rfl

/-- The part before a mark is as short as it can be. -/
theorem splitAtMark?_least {mark text before after before' after' : List Char}
    (h : splitAtMark? mark text = some (before, after))
    (hother : text = before' ++ mark ++ after') : before.length ≤ before'.length := by
  induction text generalizing before before' with
  | nil =>
    unfold splitAtMark? at h
    split at h
    · cases h
      exact Nat.zero_le _
    · cases h
  | cons c rest ih =>
    unfold splitAtMark? at h
    split at h
    · cases h
      exact Nat.zero_le _
    · next hnot =>
      obtain ⟨⟨b, a⟩, hb, heq⟩ := Option.map_eq_some_iff.mp h
      cases heq
      cases before' with
      | nil =>
        rw [List.nil_append] at hother
        have hfound := dropBeginning?_eq_some.mpr hother
        rw [hnot] at hfound
        cases hfound
      | cons d before' =>
        rw [List.cons_append, List.cons_append] at hother
        exact Nat.succ_le_succ (ih hb (List.cons.inj hother).2)

/-- The part before a mark does not have the mark. -/
theorem ne_of_splitAtMark? {mark text before after : List Char}
    (h : splitAtMark? mark text = some (before, after)) (hmark : mark ≠ [])
    (before' after' : List Char) : before ≠ before' ++ mark ++ after' := by
  rintro rfl
  have hother : text = before' ++ mark ++ (after' ++ mark ++ after) := by
    rw [splitAtMark?_append h]
    simp
  have hleast := splitAtMark?_least h hother
  have hlength := List.length_pos_iff.mpr hmark
  simp only [List.length_append] at hleast
  omega

/-- A text is split at the place of a mark before which it has none. -/
theorem splitAtMark?_eq_some_of_least {mark before after : List Char}
    (hleast : ∀ before' after', before ++ mark ++ after = before' ++ mark ++ after' →
      before.length ≤ before'.length) :
    splitAtMark? mark (before ++ mark ++ after) = some (before, after) := by
  cases h : splitAtMark? mark (before ++ mark ++ after) with
  | none => exact absurd rfl (splitAtMark?_eq_none.mp h before after)
  | some parts =>
    obtain ⟨before', after'⟩ := parts
    have htext := splitAtMark?_append h
    have hlength := Nat.le_antisymm (splitAtMark?_least h rfl) (hleast _ _ htext)
    rw [List.append_assoc, List.append_assoc] at htext
    obtain ⟨rfl, hrest⟩ := List.append_inj htext hlength.symm
    rw [List.append_cancel_left hrest]

/-- The first place of a one-character mark is where the character has not stood before. -/
theorem splitAtMark?_singleton {c : Char} {before after : List Char} (h : c ∉ before) :
    splitAtMark? [c] (before ++ c :: after) = some (before, after) := by
  induction before with
  | nil => simp [splitAtMark?, dropBeginning?]
  | cons d before ih =>
    rw [List.mem_cons, not_or] at h
    rw [List.cons_append, splitAtMark?, dropBeginning?, if_neg h.1]
    dsimp only
    rw [ih h.2]
    rfl

/-- Two cuts at the first place of a character are one. -/
theorem append_cons_inj {c : Char} {before before' after after' : List Char}
    (hbefore : c ∉ before) (hbefore' : c ∉ before')
    (h : before ++ c :: after = before' ++ c :: after') : before = before' ∧ after = after' := by
  have hsplit : splitAtMark? [c] (before ++ c :: after) = some (before, after) :=
    splitAtMark?_singleton hbefore
  rw [h, splitAtMark?_singleton hbefore'] at hsplit
  cases hsplit
  exact ⟨rfl, rfl⟩

theorem splitAtMark?_singleton_eq_none {c : Char} {text : List Char} :
    splitAtMark? [c] text = none ↔ c ∉ text := by
  rw [splitAtMark?_eq_none]
  constructor
  · intro h hmem
    obtain ⟨before, after, rfl⟩ := List.append_of_mem hmem
    exact h before after (by simp)
  · intro h before after heq
    exact h (by rw [heq]; simp)

theorem not_mem_of_splitAtMark?_singleton {c : Char} {text before after : List Char}
    (h : splitAtMark? [c] text = some (before, after)) : c ∉ before := by
  intro hmem
  obtain ⟨before', rest, hbefore⟩ := List.append_of_mem hmem
  exact ne_of_splitAtMark? h (List.cons_ne_nil c []) before' rest (by rw [hbefore]; simp)

/-! ## Pieces -/

theorem splitWhere_eq_splitOnP (separates : Char → Bool) (text : List Char) :
    splitWhere separates text = text.splitOnP separates := by
  induction text with
  | nil => rfl
  | cons c rest ih =>
    rw [splitWhere, List.splitOnP_cons_eq_if_modifyHead, ih]
    cases hpieces : rest.splitOnP separates with
    | nil => exact absurd hpieces (List.splitOnP_ne_nil separates rest)
    | cons piece pieces => rfl

theorem splitWhere_eq_splitOn (c : Char) (text : List Char) :
    splitWhere (fun d => decide (d = c)) text = text.splitOn c := by
  rw [splitWhere_eq_splitOnP, List.splitOn_eq_splitOnP]
  rfl

theorem flatten_splitWhere (separates : Char → Bool) (text : List Char) :
    (splitWhere separates text).flatten = text.filter fun c => !separates c := by
  induction text with
  | nil => rfl
  | cons c rest ih =>
    unfold splitWhere
    by_cases h : separates c = true
    · simpa [h] using ih
    · cases hpieces : splitWhere separates rest with
      | nil =>
        rw [hpieces] at ih
        simp [h, ← ih]
      | cons piece pieces =>
        rw [hpieces] at ih
        simp [h, ← ih]

theorem not_separates_of_mem_splitWhere {separates : Char → Bool} {text piece : List Char}
    (h : piece ∈ splitWhere separates text) {c : Char} (hc : c ∈ piece) :
    separates c = false := by
  have hmem : c ∈ (splitWhere separates text).flatten := List.mem_flatten_of_mem h hc
  rw [flatten_splitWhere, List.mem_filter] at hmem
  simpa using hmem.2

/-! ## Beginnings -/

section Span

variable {p : Char → Bool} {first rest : List Char}

theorem takeWhile_append_of_head (hfirst : ∀ c ∈ first, p c = true)
    (hrest : ∀ c ∈ rest.head?, p c = false) : (first ++ rest).takeWhile p = first := by
  rw [List.takeWhile_append_of_pos hfirst]
  cases rest with
  | nil => simp
  | cons c rest => simp [hrest c rfl]

theorem dropWhile_append_of_head (hfirst : ∀ c ∈ first, p c = true)
    (hrest : ∀ c ∈ rest.head?, p c = false) : (first ++ rest).dropWhile p = rest := by
  rw [List.dropWhile_append_of_pos hfirst]
  cases rest with
  | nil => rfl
  | cons c rest => simp [hrest c rfl]

/-- A text is cut behind its first characters of a class, in front of the first other one. -/
theorem span_eq_iff {text : List Char} :
    text.span p = (first, rest) ↔
      text = first ++ rest ∧ (∀ c ∈ first, p c = true) ∧ ∀ c ∈ rest.head?, p c = false := by
  rw [List.span_eq_takeWhile_dropWhile, Prod.mk.injEq]
  constructor
  · rintro ⟨rfl, rfl⟩
    refine ⟨List.takeWhile_append_dropWhile.symm, fun c hc => List.mem_takeWhile_imp hc, ?_⟩
    intro c hc
    have hhead := List.head?_dropWhile_not p text
    rw [Option.mem_def.mp hc] at hhead
    simpa using hhead
  · rintro ⟨rfl, hfirst, hrest⟩
    exact ⟨takeWhile_append_of_head hfirst hrest, dropWhile_append_of_head hfirst hrest⟩

end Span

/-! ## Blanks -/

/-- What trimming leaves has no blank at its ends, and stands between blanks. -/
theorem exists_trim (text : List Char) :
    (∀ c ∈ (trim text).head?, isBlank c = false) ∧
      (∀ c ∈ (trim text).getLast?, isBlank c = false) ∧
        ∃ before after, text = before ++ trim text ++ after ∧
          (∀ c ∈ before, isBlank c = true) ∧ ∀ c ∈ after, isBlank c = true := by
  have htrim : trim text = (text.dropWhile isBlank).rdropWhile isBlank := rfl
  obtain ⟨-, hbefore, hhead⟩ := span_eq_iff.mp (List.span_eq_takeWhile_dropWhile isBlank text)
  rw [htrim]
  refine ⟨?_, ?_, text.takeWhile isBlank, (text.dropWhile isBlank).rtakeWhile isBlank, ?_, hbefore,
    fun c hc => List.mem_rtakeWhile_imp hc⟩
  · intro c hc
    obtain ⟨dropped, hprefix⟩ := List.rdropWhile_prefix isBlank (l := text.dropWhile isBlank)
    refine hhead c ?_
    rw [← hprefix, List.head?_append, Option.mem_def.mp hc]
    rfl
  · intro c hc
    have hne : (text.dropWhile isBlank).rdropWhile isBlank ≠ [] := by
      intro hnil
      rw [hnil] at hc
      cases hc
    have hlast := List.rdropWhile_last_not isBlank _ hne
    rw [List.getLast?_eq_some_getLast hne] at hc
    rw [Option.some.inj hc] at hlast
    simpa using hlast
  · rw [List.append_assoc, List.rdropWhile_append_rtakeWhile, List.takeWhile_append_dropWhile]

/-- Trimming keeps every character that is no blank. -/
theorem mem_trim {c : Char} (h : isBlank c = false) {text : List Char} :
    c ∈ trim text ↔ c ∈ text := by
  obtain ⟨-, -, before, after, htext, hbefore, hafter⟩ := exists_trim text
  have hnot {blanks : List Char} (hblanks : ∀ d ∈ blanks, isBlank d = true) : c ∉ blanks :=
    fun hc => by simpa [h] using hblanks c hc
  have hmem : c ∈ text ↔ c ∈ before ++ trim text ++ after := by rw [← htext]
  rw [hmem, List.mem_append, List.mem_append]
  simp only [hnot hbefore, hnot hafter, false_or, or_false]

/-- Trimming leaves nothing of a text of blanks, and something of any other. -/
theorem trim_eq_nil_iff {text : List Char} : trim text = [] ↔ ∀ c ∈ text, isBlank c = true := by
  constructor
  · intro h c hc
    by_contra hblank
    have hmem := (mem_trim (Bool.eq_false_iff.mpr hblank)).mpr hc
    rw [h] at hmem
    cases hmem
  · intro h
    have hstart : trimStart text = [] := List.dropWhile_eq_nil_iff.mpr h
    rw [trim, hstart]
    rfl

/-- Between blanks, trimming leaves a text that has no blank at its ends. -/
theorem trim_between {before body after : List Char} (hbefore : ∀ c ∈ before, isBlank c = true)
    (hafter : ∀ c ∈ after, isBlank c = true) (hhead : ∀ c ∈ body.head?, isBlank c = false)
    (hlast : ∀ c ∈ body.getLast?, isBlank c = false) : trim (before ++ body ++ after) = body := by
  cases body with
  | nil =>
    refine trim_eq_nil_iff.mpr fun c hc => ?_
    rcases List.mem_append.mp (by simpa using hc) with hc | hc
    · exact hbefore c hc
    · exact hafter c hc
  | cons d body =>
    have hstart : trimStart (before ++ (d :: body) ++ after) = d :: body ++ after := by
      rw [List.append_assoc]
      exact dropWhile_append_of_head hbefore hhead
    have hend : (d :: body ++ after).reverse.dropWhile isBlank = (d :: body).reverse := by
      rw [List.reverse_append]
      refine dropWhile_append_of_head (fun c hc => hafter c (List.mem_reverse.mp hc)) ?_
      rwa [List.head?_reverse]
    rw [trim, hstart, trimEnd, hend, List.reverse_reverse]

/-- A trimmed text has no blank at its ends, so trimming it again changes nothing. -/
theorem trim_trim (text : List Char) : trim (trim text) = trim text := by
  obtain ⟨hhead, hlast, -⟩ := exists_trim text
  have hsame : trim ([] ++ trim text ++ []) = trim text :=
    trim_between (by simp) (by simp) hhead hlast
  rwa [List.nil_append, List.append_nil] at hsame

theorem trim_eq_self {text : List Char} (h : ∀ c ∈ text, isBlank c = false) : trim text = text := by
  have hsame : trim ([] ++ text ++ []) = text := trim_between (by simp) (by simp)
    (fun c hc => h c (List.mem_of_head? hc)) (fun c hc => h c (List.mem_of_getLast? hc))
  rwa [List.nil_append, List.append_nil] at hsame

theorem code_of_isAlphanum {c : Char} (h : c.isAlphanum = true) :
    ((65 ≤ c.toNat ∧ c.toNat ≤ 90) ∨ (97 ≤ c.toNat ∧ c.toNat ≤ 122)) ∨
      (48 ≤ c.toNat ∧ c.toNat ≤ 57) := by
  have hands {p q : Prop} [Decidable p] [Decidable q] (h : (decide p && decide q) = true) :
      p ∧ q := by simpa using h
  rcases Bool.or_eq_true_iff.mp h with h | h
  · rcases Bool.or_eq_true_iff.mp h with h | h
    · exact Or.inl (Or.inl (of_decide_eq_true h))
    · exact Or.inl (Or.inr (hands h))
  · exact Or.inr (hands h)

theorem isBlank_of_isAlphanum {c : Char} (h : c.isAlphanum = true) : isBlank c = false := by
  have hcode := code_of_isAlphanum h
  unfold isBlank
  simp only [Bool.or_eq_false_iff, Bool.and_eq_false_iff, decide_eq_false_iff_not]
  omega

theorem isBlank_of_isDigit {c : Char} (h : c.isDigit = true) : isBlank c = false :=
  isBlank_of_isAlphanum (by simp [Char.isAlphanum, h])

end Keyspace.Text
