import Keyspace.Proofs.Text.Marks
import Keyspace.Text.Words

/-!
# Names in ASCII

Cutting a name into words keeps its letters and numbers and drops the rest, and joining the
words changes case only. So a name derived from an ASCII name is made of ASCII letters and
digits, and it is empty only if there were none.
-/
namespace Keyspace.Text

def IsAscii (text : List Char) : Prop := ∀ c ∈ text, c.toNat < 128

instance (text : List Char) : Decidable (IsAscii text) :=
  decidable_of_iff (text.all fun c => decide (c.toNat < 128)) (by simp [IsAscii])

theorem flatten_wordsFrom (mode : WordCase) (word text : List Char) (h : text ≠ []) :
    (wordsFrom mode word text).flatten = word ++ text := by
  fun_induction wordsFrom mode word text with
  | case1 => exact absurd rfl h
  | case2 => simp
  | case3 mode word c next rest following hcut ih => simp [ih]
  | case4 mode word c next rest following hcut hrun ih => simp [ih]
  | case5 mode word c next rest following hcut hrun ih => simp [ih]

/-- The words of a name are made of its letters and numbers, in their order. -/
theorem flatten_words (name : String) :
    (words name).flatten = name.toList.filter isAlphanumeric := by
  have hpiece (piece : List Char) : (wordsFrom .open [] piece).flatten = piece := by
    cases piece with
    | nil => rfl
    | cons c rest => exact flatten_wordsFrom .open [] _ (List.cons_ne_nil c rest)
  unfold words
  rw [List.flatMap_def, List.flatten_flatten, List.map_map]
  have hsame : List.flatten ∘ wordsFrom .open [] = id := funext hpiece
  rw [hsame, List.map_id, flatten_splitWhere]
  simp

theorem isAlphanum_of_mem_words {name : String} (hascii : IsAscii name.toList) {word : List Char}
    (hword : word ∈ words name) {c : Char} (hc : c ∈ word) : c.isAlphanum = true := by
  have hmem : c ∈ (words name).flatten := List.mem_flatten.mpr ⟨word, hword, hc⟩
  rw [flatten_words, List.mem_filter] at hmem
  rw [← isAlphanumeric_ascii (hascii c hmem.1)]
  exact hmem.2

theorem toNat_lt_of_isAlphanum {c : Char} (h : c.isAlphanum = true) : c.toNat < 128 := by
  have hcode := code_of_isAlphanum h
  omega

/-- Changing the case of an ASCII character keeps it among letters and digits. -/
theorem isAlphanum_case {c : Char} (h : c.isAlphanum = true) :
    c.toUpper.isAlphanum = true ∧ c.toLower.isAlphanum = true := by
  have hall : ∀ n < 128, (Char.ofNat n).isAlphanum = true →
      (Char.ofNat n).toUpper.isAlphanum = true ∧ (Char.ofNat n).toLower.isAlphanum = true := by
    decide
  have hchar := hall c.toNat (toNat_lt_of_isAlphanum h)
  rw [Char.ofNat_toNat] at hchar
  exact hchar h

theorem isAlphanum_of_mem_upper {c d : Char} (h : c.isAlphanum = true) (hd : d ∈ upper c) :
    d.isAlphanum = true := by
  rw [upper_ascii (toNat_lt_of_isAlphanum h), List.mem_singleton] at hd
  rw [hd]
  exact (isAlphanum_case h).1

theorem isAlphanum_of_mem_lower {c d : Char} (h : c.isAlphanum = true) (hd : d ∈ lower c) :
    d.isAlphanum = true := by
  rw [lower_ascii (toNat_lt_of_isAlphanum h), List.mem_singleton] at hd
  rw [hd]
  exact (isAlphanum_case h).2

/-- A final sigma is no ASCII letter, so only the lower case of letters is left. -/
theorem isAlphanum_of_mem_lowerWord {word : List Char} (h : ∀ c ∈ word, c.isAlphanum = true)
    {d : Char} (hd : d ∈ lowerWord word) : d.isAlphanum = true := by
  fun_induction lowerWord word with
  | case1 => cases hd
  | case2 => exact absurd (h 'Σ' (List.mem_singleton_self _)) (by decide)
  | case3 c hsigma => exact isAlphanum_of_mem_lower (h c (List.mem_singleton_self _)) hd
  | case4 c rest hrest ih =>
    rcases List.mem_append.mp hd with hd | hd
    · exact isAlphanum_of_mem_lower (h c List.mem_cons_self) hd
    · exact ih (fun c hc => h c (List.mem_cons_of_mem _ hc)) hd

theorem isAlphanum_of_mem_capitalWord {word : List Char} (h : ∀ c ∈ word, c.isAlphanum = true)
    {d : Char} (hd : d ∈ capitalWord word) : d.isAlphanum = true := by
  cases word with
  | nil => cases hd
  | cons c rest =>
    rcases List.mem_append.mp hd with hd | hd
    · exact isAlphanum_of_mem_upper (h c List.mem_cons_self) hd
    · exact isAlphanum_of_mem_lowerWord (fun c hc => h c (List.mem_cons_of_mem _ hc)) hd

/-- A name in pascal case has letters and digits only. -/
theorem all_isAlphanum_pascalCase {name : String} (hascii : IsAscii name.toList) :
    (pascalCase name).toList.all Char.isAlphanum = true := by
  rw [pascalCase, String.toList_ofList, List.all_eq_true]
  intro d hd
  obtain ⟨word, hword, hd⟩ := List.mem_flatMap.mp hd
  exact isAlphanum_of_mem_capitalWord (fun c hc => isAlphanum_of_mem_words hascii hword hc) hd

/-- A name in camel case has letters and digits only. -/
theorem isAlphanum_of_mem_camelCase {name : String} (hascii : IsAscii name.toList) {d : Char}
    (hd : d ∈ (camelCase name).toList) : d.isAlphanum = true := by
  have hwords : ∀ word ∈ words name, ∀ c ∈ word, c.isAlphanum = true :=
    fun word hword c hc => isAlphanum_of_mem_words hascii hword hc
  unfold camelCase at hd
  split at hd
  · cases hd
  · next first rest hsplit =>
    rw [hsplit, List.forall_mem_cons] at hwords
    rw [String.toList_ofList] at hd
    rcases List.mem_append.mp hd with hd | hd
    · exact isAlphanum_of_mem_lowerWord hwords.1 hd
    · obtain ⟨word, hword, hd⟩ := List.mem_flatMap.mp hd
      exact isAlphanum_of_mem_capitalWord (hwords.2 word hword) hd

theorem pascalCase_isEmpty {name : String} (hascii : IsAscii name.toList)
    (h : ∃ c ∈ name.toList, c.isAlphanum = true) : (pascalCase name).isEmpty = false := by
  obtain ⟨c, hc, halnum⟩ := h
  have hmem : c ∈ (words name).flatten := by
    rw [flatten_words, List.mem_filter]
    exact ⟨hc, (isAlphanumeric_ascii (hascii c hc)).trans halnum⟩
  obtain ⟨word, hword, hc⟩ := List.mem_flatten.mp hmem
  cases word with
  | nil => cases hc
  | cons first rest =>
    have hfirst := isAlphanum_of_mem_words hascii hword List.mem_cons_self
    have hcapital : first.toUpper ∈ capitalWord (first :: rest) := by
      refine List.mem_append_left _ ?_
      rw [upper_ascii (toNat_lt_of_isAlphanum hfirst)]
      exact List.mem_singleton_self _
    have hletter : first.toUpper ∈ (pascalCase name).toList := by
      rw [pascalCase, String.toList_ofList]
      exact List.mem_flatMap.mpr ⟨_, hword, hcapital⟩
    rw [Bool.eq_false_iff]
    intro hempty
    rw [String.isEmpty_iff.mp hempty] at hletter
    cases hletter

theorem mem_joinWith {separator : List Char} {pieces : List (List Char)} {d : Char}
    (hd : d ∈ joinWith separator pieces) : d ∈ separator ∨ ∃ piece ∈ pieces, d ∈ piece := by
  unfold joinWith at hd
  induction pieces with
  | nil => cases hd
  | cons piece rest ih =>
    cases rest with
    | nil =>
      rw [List.intercalate_singleton] at hd
      exact Or.inr ⟨piece, List.mem_singleton_self _, hd⟩
    | cons next rest =>
      rw [List.intercalate_cons_cons, List.append_assoc, List.mem_append, List.mem_append] at hd
      rcases hd with hd | hd | hd
      · exact Or.inr ⟨piece, List.mem_cons_self, hd⟩
      · exact Or.inl hd
      · exact (ih hd).imp_right fun ⟨piece, hpiece, hd⟩ =>
          ⟨piece, List.mem_cons_of_mem _ hpiece, hd⟩

/-- A name in screaming snake case has letters, digits and underscores only. -/
theorem mem_screamingSnakeCase {name : String} (hascii : IsAscii name.toList) {d : Char}
    (hd : d ∈ (screamingSnakeCase name).toList) : d.isAlphanum = true ∨ d = '_' := by
  rw [screamingSnakeCase, String.toList_ofList] at hd
  rcases mem_joinWith hd with hd | ⟨piece, hpiece, hd⟩
  · exact Or.inr (List.mem_singleton.mp hd)
  · obtain ⟨word, hword, rfl⟩ := List.mem_map.mp hpiece
    obtain ⟨c, hc, hd⟩ := List.mem_flatMap.mp hd
    exact Or.inl (isAlphanum_of_mem_upper (isAlphanum_of_mem_words hascii hword hc) hd)

end Keyspace.Text
