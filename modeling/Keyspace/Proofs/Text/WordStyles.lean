import Keyspace.Proofs.Text.AsciiNames

/-!
# One style of names read off another

In snake case, screaming or not, the words of a name stay apart and lose nothing but their case.
So for ASCII names the pascal case can be read off it, and two names that agree in snake case agree
in pascal case.
-/
namespace Keyspace.Text

/-- What the two cases of an ASCII letter or digit have in common. -/
theorem case_case {c : Char} (h : c.isAlphanum = true) :
    c.toUpper.toLower = c.toLower ∧ c.toLower.toLower = c.toLower ∧
      c.toLower.toUpper = c.toUpper := by
  have hall : ∀ n < 128, (Char.ofNat n).toUpper.toLower = (Char.ofNat n).toLower ∧
      (Char.ofNat n).toLower.toLower = (Char.ofNat n).toLower ∧
      (Char.ofNat n).toLower.toUpper = (Char.ofNat n).toUpper := by decide
  have hchar := hall c.toNat (toNat_lt_of_isAlphanum h)
  rwa [Char.ofNat_toNat] at hchar

section Word

variable {word : List Char} (h : ∀ c ∈ word, c.isAlphanum = true)
include h

theorem upperWord_ascii : upperWord word = word.map Char.toUpper := by
  unfold upperWord
  rw [List.flatMap_congr fun c hc => upper_ascii (toNat_lt_of_isAlphanum (h c hc))]
  exact List.flatMap_pure_eq_map Char.toUpper word

theorem lowerWord_ascii : lowerWord word = word.map Char.toLower := by
  fun_induction lowerWord word with
  | case1 => rfl
  | case2 => exact absurd (h 'Σ' (List.mem_singleton_self _)) (by decide)
  | case3 c hsigma => exact lower_ascii (toNat_lt_of_isAlphanum (h c (List.mem_singleton_self _)))
  | case4 c rest hrest ih =>
    rw [lower_ascii (toNat_lt_of_isAlphanum (h c List.mem_cons_self)),
      ih fun c hc => h c (List.mem_cons_of_mem _ hc)]
    rfl

omit h in
theorem capitalWord_cons {c : Char} {rest : List Char}
    (h : ∀ d ∈ c :: rest, d.isAlphanum = true) :
    capitalWord (c :: rest) = c.toUpper :: rest.map Char.toLower := by
  rw [List.forall_mem_cons] at h
  rw [capitalWord, upper_ascii (toNat_lt_of_isAlphanum h.1), lowerWord_ascii h.2]
  rfl

/-- A word has one capital form, however it was written. -/
theorem capitalWord_congr {word' : List Char} (h' : ∀ c ∈ word', c.isAlphanum = true)
    (hsame : word'.map Char.toLower = word.map Char.toLower) :
    capitalWord word' = capitalWord word := by
  cases word with
  | nil => rw [List.map_eq_nil_iff.mp hsame]
  | cons c rest =>
    cases word' with
    | nil => cases hsame
    | cons c' rest' =>
      obtain ⟨hfirst, hrest⟩ := List.cons.inj hsame
      rw [capitalWord_cons h, capitalWord_cons h', hrest,
        ← (case_case (h' c' List.mem_cons_self)).2.2, hfirst,
        (case_case (h c List.mem_cons_self)).2.2]

end Word

/-- A way to write words that changes the case of their letters only. -/
structure IsCasing (style : List Char → List Char) : Prop where
  alphanum : ∀ word, (∀ c ∈ word, c.isAlphanum = true) → ∀ c ∈ style word, c.isAlphanum = true
  lower : ∀ word, (∀ c ∈ word, c.isAlphanum = true) →
    (style word).map Char.toLower = word.map Char.toLower

theorem isCasing_upperWord : IsCasing upperWord where
  alphanum word h c hc := by
    obtain ⟨d, hd, hc⟩ := List.mem_flatMap.mp hc
    exact isAlphanum_of_mem_upper (h d hd) hc
  lower word h := by
    rw [upperWord_ascii h, List.map_map]
    exact List.map_congr_left fun c hc => (case_case (h c hc)).1

theorem isCasing_lowerWord : IsCasing lowerWord where
  alphanum word h c hc := isAlphanum_of_mem_lowerWord h hc
  lower word h := by
    rw [lowerWord_ascii h, List.map_map]
    exact List.map_congr_left fun c hc => (case_case (h c hc)).2.1

section Joined

variable {style : List Char → List Char} (hstyle : IsCasing style) {name : String}
  (hascii : IsAscii name.toList)
include hstyle hascii

/-- The words of a name, joined by underscores, are found again between them. -/
theorem splitWhere_joinWith (hne : words name ≠ []) :
    splitWhere (fun c => decide (c = '_')) (joinWith ['_'] ((words name).map style)) =
      (words name).map style := by
  have hunderscore : ∀ piece ∈ (words name).map style, '_' ∉ piece := by
    intro piece hpiece hmem
    obtain ⟨word, hword, rfl⟩ := List.mem_map.mp hpiece
    have halnum := hstyle.alphanum word (fun c hc => isAlphanum_of_mem_words hascii hword hc) _ hmem
    exact absurd halnum (by decide)
  rw [joinWith, splitWhere_eq_splitOn,
    List.splitOn_intercalate '_' hunderscore (by simpa using hne)]

/-- The pascal case of an ASCII name can be read off its words in any case. -/
theorem pascalCase_eq : pascalCase name = String.ofList
    ((splitWhere (fun c => decide (c = '_')) (joinWith ['_'] ((words name).map style))).flatMap
      capitalWord) := by
  have hwords : ((words name).map style).flatMap capitalWord =
      (words name).flatMap capitalWord := by
    rw [List.flatMap_map]
    refine List.flatMap_congr fun word hword => ?_
    have halnum : ∀ c ∈ word, c.isAlphanum = true :=
      fun c hc => isAlphanum_of_mem_words hascii hword hc
    exact capitalWord_congr halnum (hstyle.alphanum word halnum) (hstyle.lower word halnum)
  cases hpieces : words name with
  | nil =>
    rw [pascalCase, hpieces]
    rfl
  | cons word rest =>
    have hne : words name ≠ [] := by rw [hpieces]; exact List.cons_ne_nil word rest
    rw [← hpieces, splitWhere_joinWith hstyle hascii hne, hwords, pascalCase]

/-- ASCII names whose words agree in some case agree in pascal case. -/
theorem pascalCase_congr_style {name' : String} (hascii' : IsAscii name'.toList)
    (h : joinWith ['_'] ((words name).map style) = joinWith ['_'] ((words name').map style)) :
    pascalCase name = pascalCase name' := by
  rw [pascalCase_eq hstyle hascii, pascalCase_eq hstyle hascii', h]

end Joined

section Names

variable {name name' : String} (hascii : IsAscii name.toList) (hascii' : IsAscii name'.toList)
include hascii hascii'

/-- ASCII names that agree in screaming snake case agree in pascal case. -/
theorem pascalCase_congr (h : screamingSnakeCase name = screamingSnakeCase name') :
    pascalCase name = pascalCase name' :=
  pascalCase_congr_style isCasing_upperWord hascii hascii' (String.ofList_inj.mp h)

/-- ASCII names that agree in snake case agree in pascal case. -/
theorem pascalCase_congr_snakeCase (h : snakeCase name = snakeCase name') :
    pascalCase name = pascalCase name' :=
  pascalCase_congr_style isCasing_lowerWord hascii hascii' (String.ofList_inj.mp h)

end Names

end Keyspace.Text
