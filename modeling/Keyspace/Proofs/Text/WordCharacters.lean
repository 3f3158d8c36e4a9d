import Keyspace.Proofs.Text.AsciiNames

/-!
# The characters of derived names

Names in pascal case are made of the letters and numbers of any script, and of what their case
mappings give. Within ASCII that leaves letters and digits, and above it no blank. The tables of
the character classes and of the case mappings are checked interval by interval.
-/
namespace Keyspace.Text

/-- A letter or digit of ASCII, or a character above ASCII that is no blank. -/
def IsWordChar (c : Char) : Prop :=
  c.isAlphanum = true ∨ 128 ≤ c.toNat ∧ isBlank c = false

instance (c : Char) : Decidable (IsWordChar c) := inferInstanceAs (Decidable (_ ∨ _))

/-- The blanks above ASCII, as intervals of code points. -/
def highBlanks : List (Nat × Nat) :=
  [(0x85, 0x85), (0xa0, 0xa0), (0x1680, 0x1680), (0x2000, 0x200a), (0x2028, 0x2029),
   (0x202f, 0x202f), (0x205f, 0x205f), (0x3000, 0x3000)]

/-- The interval lies above ASCII and holds no blank. -/
def IsHighRange (first last : Nat) : Prop :=
  128 ≤ first ∧ ∀ blanks ∈ highBlanks, last < blanks.1 ∨ blanks.2 < first

instance (first last : Nat) : Decidable (IsHighRange first last) :=
  inferInstanceAs (Decidable (_ ∧ _))

theorem isWordChar_of_isHighRange {first last : Nat} (h : IsHighRange first last) {c : Char}
    (hfirst : first ≤ c.toNat) (hlast : c.toNat ≤ last) : IsWordChar c := by
  obtain ⟨hhigh, hblanks⟩ := h
  simp only [highBlanks, List.forall_mem_cons, List.not_mem_nil, false_imp_iff,
    implies_true] at hblanks
  refine Or.inr ⟨by omega, ?_⟩
  unfold isBlank
  simp only [Bool.or_eq_false_iff, Bool.and_eq_false_iff, decide_eq_false_iff_not]
  omega

theorem toNat_ofNat {n : Nat} (h : n < 0xd800 ∨ 0xdfff < n ∧ n < 0x110000) :
    (Char.ofNat n).toNat = n := by
  have hvalid : n.isValidChar := h
  rw [Char.ofNat, dif_pos hvalid]
  rfl

/-- What a case mapping may give: an interval of characters above ASCII, or one ASCII letter. -/
def IsImageRange (first last : Nat) : Prop :=
  IsHighRange first last ∧ (last < 0xd800 ∨ 0xdfff < first ∧ last < 0x110000) ∨
    first = last ∧ IsWordChar (Char.ofNat first)

instance (first last : Nat) : Decidable (IsImageRange first last) :=
  inferInstanceAs (Decidable (_ ∨ _))

theorem isWordChar_of_isImageRange {first last n : Nat} (h : IsImageRange first last)
    (hfirst : first ≤ n) (hlast : n ≤ last) : IsWordChar (Char.ofNat n) := by
  rcases h with ⟨hhigh, hvalid⟩ | ⟨rfl, hword⟩
  · have hcode := toNat_ofNat (n := n) (by omega)
    exact isWordChar_of_isHighRange hhigh (by omega) (by omega)
  · rwa [Nat.le_antisymm hlast hfirst]

/-- Every image in the tables of a case mapping is a word character. -/
structure MapsToWords (runs : List (Nat × Nat × Nat × Int)) (expansions : List (Nat × List Nat)) :
    Prop where
  runs : ∀ run ∈ runs, 0 ≤ (run.1 : Int) + run.2.2.2 ∧
    IsImageRange ((run.1 : Int) + run.2.2.2).toNat ((run.2.1 : Int) + run.2.2.2).toNat
  expansions : ∀ entry ∈ expansions, ∀ n ∈ entry.2, IsWordChar (Char.ofNat n)

theorem mapsToWords_upper : MapsToWords uppercaseRuns uppercaseExpansions where
  runs := by decide +kernel
  expansions := by decide +kernel

theorem mapsToWords_lower : MapsToWords lowercaseRuns lowercaseExpansions where
  runs := by decide +kernel
  expansions := by decide +kernel

/-- A case mapping gives the image of a run, a part of an expansion, or the character itself. -/
theorem mem_mapCase {runs : List (Nat × Nat × Nat × Int)} {expansions : List (Nat × List Nat)}
    {c d : Char} (hd : d ∈ mapCase runs expansions c) :
    (∃ run ∈ runs, ∃ n : Nat, run.1 ≤ n ∧ n ≤ run.2.1 ∧
        d = Char.ofNat ((n : Int) + run.2.2.2).toNat) ∨
      (∃ entry ∈ expansions, ∃ n ∈ entry.2, d = Char.ofNat n) ∨ d = c := by
  unfold mapCase at hd
  split at hd
  · next image himage =>
    obtain ⟨⟨first, last, step, distance⟩, hrun, hsome⟩ := List.exists_of_findSome?_eq_some himage
    rw [List.mem_singleton.mp hd]
    unfold runImage? at hsome
    dsimp only at hsome
    split at hsome
    · next hmember =>
      cases hsome
      exact Or.inl ⟨_, hrun, c.toNat, hmember.1, hmember.2.1, rfl⟩
    · cases hsome
  · split at hd
    · next images himages =>
      obtain ⟨n, hn, rfl⟩ := List.mem_map.mp hd
      obtain ⟨before, after, hsplit, -⟩ := List.lookup_eq_some_iff.mp himages
      exact Or.inr (Or.inl ⟨(c.toNat, images), by simp [hsplit], n, hn, rfl⟩)
    · exact Or.inr (Or.inr (List.mem_singleton.mp hd))

theorem isWordChar_of_mem_mapCase {runs : List (Nat × Nat × Nat × Int)}
    {expansions : List (Nat × List Nat)} (h : MapsToWords runs expansions) {c d : Char}
    (hc : IsWordChar c) (hd : d ∈ mapCase runs expansions c) : IsWordChar d := by
  rcases mem_mapCase hd with ⟨run, hrun, n, hfirst, hlast, rfl⟩ | ⟨entry, hentry, n, hn, rfl⟩ | rfl
  · obtain ⟨hpositive, hrange⟩ := h.runs run hrun
    exact isWordChar_of_isImageRange hrange (by omega) (by omega)
  · exact h.expansions entry hentry n hn
  · exact hc

theorem isWordChar_of_isAlphanumeric {c : Char} (h : isAlphanumeric c = true) : IsWordChar c := by
  have hranges : ∀ range ∈ alphanumericRanges, IsHighRange range.1 range.2 := by decide +kernel
  unfold isAlphanumeric inClass at h
  split at h
  · exact Or.inl h
  · obtain ⟨range, hrange, hmember⟩ := List.any_eq_true.mp h
    simp only [Bool.and_eq_true, decide_eq_true_eq] at hmember
    exact isWordChar_of_isHighRange (hranges range hrange) hmember.1 hmember.2

theorem isAlphanum_of_isWordChar {c : Char} (h : IsWordChar c) (hascii : c.toNat < 128) :
    c.isAlphanum = true := by
  rcases h with h | ⟨hhigh, -⟩
  · exact h
  · omega

theorem isWordChar_of_mem_upper {c d : Char} (h : IsWordChar c) (hd : d ∈ upper c) :
    IsWordChar d := by
  by_cases hascii : c.toNat < 128
  · exact Or.inl (isAlphanum_of_mem_upper (isAlphanum_of_isWordChar h hascii) hd)
  · rw [upper, if_neg hascii] at hd
    exact isWordChar_of_mem_mapCase mapsToWords_upper h hd

theorem isWordChar_of_mem_lower {c d : Char} (h : IsWordChar c) (hd : d ∈ lower c) :
    IsWordChar d := by
  by_cases hascii : c.toNat < 128
  · exact Or.inl (isAlphanum_of_mem_lower (isAlphanum_of_isWordChar h hascii) hd)
  · rw [lower, if_neg hascii] at hd
    exact isWordChar_of_mem_mapCase mapsToWords_lower h hd

theorem isWordChar_of_mem_lowerWord {word : List Char} (h : ∀ c ∈ word, IsWordChar c) {d : Char}
    (hd : d ∈ lowerWord word) : IsWordChar d := by
  fun_induction lowerWord word with
  | case1 => cases hd
  | case2 =>
    rw [List.mem_singleton.mp hd]
    decide
  | case3 c hsigma => exact isWordChar_of_mem_lower (h c (List.mem_singleton_self _)) hd
  | case4 c rest hrest ih =>
    rcases List.mem_append.mp hd with hd | hd
    · exact isWordChar_of_mem_lower (h c List.mem_cons_self) hd
    · exact ih (fun c hc => h c (List.mem_cons_of_mem _ hc)) hd

theorem isWordChar_of_mem_capitalWord {word : List Char} (h : ∀ c ∈ word, IsWordChar c) {d : Char}
    (hd : d ∈ capitalWord word) : IsWordChar d := by
  cases word with
  | nil => cases hd
  | cons c rest =>
    rcases List.mem_append.mp hd with hd | hd
    · exact isWordChar_of_mem_upper (h c List.mem_cons_self) hd
    · exact isWordChar_of_mem_lowerWord (fun c hc => h c (List.mem_cons_of_mem _ hc)) hd

theorem isWordChar_of_mem_words {name : String} {word : List Char} (hword : word ∈ words name) :
    ∀ c ∈ word, IsWordChar c := by
  intro c hc
  have hmem : c ∈ (words name).flatten := List.mem_flatten.mpr ⟨word, hword, hc⟩
  rw [flatten_words, List.mem_filter] at hmem
  exact isWordChar_of_isAlphanumeric hmem.2

/-- A name in pascal case is made of word characters, whatever the name was made of. -/
theorem isWordChar_of_mem_pascalCase {name : String} {d : Char}
    (hd : d ∈ (pascalCase name).toList) : IsWordChar d := by
  rw [pascalCase, String.toList_ofList] at hd
  obtain ⟨word, hword, hd⟩ := List.mem_flatMap.mp hd
  exact isWordChar_of_mem_capitalWord (isWordChar_of_mem_words hword) hd

theorem isWordChar_of_mem_lead_pascalCase {lead name : String}
    (hlead : lead.toList.all Char.isAlphanum = true) {c : Char}
    (hc : c ∈ (lead ++ pascalCase name).toList) : IsWordChar c := by
  rw [String.toList_append] at hc
  rcases List.mem_append.mp hc with hc | hc
  · exact Or.inl (List.all_eq_true.mp hlead c hc)
  · exact isWordChar_of_mem_pascalCase hc

/-- A name in snake case is made of word characters and underscores. -/
theorem isWordChar_of_mem_snakeCase {name : String} {d : Char} (hd : d ∈ (snakeCase name).toList) :
    d = '_' ∨ IsWordChar d := by
  rw [snakeCase, String.toList_ofList] at hd
  rcases mem_joinWith hd with hd | ⟨piece, hpiece, hd⟩
  · exact Or.inl (List.mem_singleton.mp hd)
  · obtain ⟨word, hword, rfl⟩ := List.mem_map.mp hpiece
    exact Or.inr (isWordChar_of_mem_lowerWord (isWordChar_of_mem_words hword) hd)

theorem IsWordChar.ne_slash {c : Char} (h : IsWordChar c) : c ≠ '/' := by
  rintro rfl
  exact absurd h (by decide)

/-- A word character is no blank. -/
theorem IsWordChar.not_blank {c : Char} (h : IsWordChar c) : isBlank c = false := by
  rcases h with h | ⟨-, h⟩
  · exact isBlank_of_isAlphanum h
  · exact h

end Keyspace.Text
