import Keyspace.Proofs.Text.WordCharacters
import Keyspace.Proofs.Text.WordStyles

/-!
# Where derived names begin and end

No word of a name is empty. So a derived name begins with the first letter or digit of its name,
and a name in snake case has no underscore at its ends. No name in pascal case begins with a small
letter of ASCII, whatever script it was written in. The words have no mark in them either, so they
are found again where a mark joins them: two names agree in snake case, and in kebab case, if and
only if they have the same words in lower case.
-/
namespace Keyspace.Text

/-! ## Words -/

/-- A run of upper-case letters has been read only if the word has begun. -/
theorem ne_nil_of_mem_wordsFrom {mode : WordCase} {word text : List Char}
    (hmode : mode = .upper → word ≠ []) {found : List Char}
    (hfound : found ∈ wordsFrom mode word text) : found ≠ [] := by
  fun_induction wordsFrom mode word text with
  | case1 => cases hfound
  | case2 mode word c =>
    rw [List.mem_singleton.mp hfound]
    simp
  | case3 mode word c next rest following hcut ih =>
    rcases List.mem_cons.mp hfound with rfl | hfound
    · simp
    · exact ih (fun hopen => by cases hopen) hfound
  | case4 mode word c next rest following hcut hrun ih =>
    rcases List.mem_cons.mp hfound with rfl | hfound
    · exact hmode hrun.1
    · exact ih (fun hopen => by cases hopen) hfound
  | case5 mode word c next rest following hcut hrun ih => exact ih (fun _ => by simp) hfound

theorem words_ne_nil {name : String} {word : List Char} (h : word ∈ words name) : word ≠ [] := by
  obtain ⟨piece, -, hword⟩ := List.mem_flatMap.mp h
  exact ne_nil_of_mem_wordsFrom (fun hopen => by cases hopen) hword

theorem mapCase_ne_nil {runs : List (Nat × Nat × Nat × Int)} {expansions : List (Nat × List Nat)}
    (hexpansions : ∀ entry ∈ expansions, entry.2 ≠ []) (c : Char) :
    mapCase runs expansions c ≠ [] := by
  unfold mapCase
  split
  · simp
  · split
    · next images himages =>
      obtain ⟨before, after, hsplit, -⟩ := List.lookup_eq_some_iff.mp himages
      simpa using hexpansions (c.toNat, images) (by simp [hsplit])
    · simp

theorem upper_ne_nil (c : Char) : upper c ≠ [] := by
  unfold upper
  split
  · simp
  · exact mapCase_ne_nil (by decide +kernel) c

theorem lower_ne_nil (c : Char) : lower c ≠ [] := by
  unfold lower
  split
  · simp
  · exact mapCase_ne_nil (by decide +kernel) c

theorem lowerWord_ne_nil {word : List Char} (h : word ≠ []) : lowerWord word ≠ [] := by
  fun_cases lowerWord word with
  | case1 => exact absurd rfl h
  | case2 => simp
  | case3 c => exact lower_ne_nil c
  | case4 c rest => simp [lower_ne_nil c]

theorem lowerWords_ne_nil {name : String} : ∀ piece ∈ (words name).map lowerWord, piece ≠ [] := by
  intro piece hpiece
  obtain ⟨word, hword, rfl⟩ := List.mem_map.mp hpiece
  exact lowerWord_ne_nil (words_ne_nil hword)

section Pieces

variable {separator : List Char} {pieces : List (List Char)} (h : ∀ piece ∈ pieces, piece ≠ [])
include h

theorem head?_joinWith : (joinWith separator pieces).head? = pieces.flatten.head? := by
  unfold joinWith
  cases pieces with
  | nil => rfl
  | cons piece rest =>
    have hpiece := h piece List.mem_cons_self
    cases rest with
    | nil => simp
    | cons next rest =>
      rw [List.intercalate_cons_cons, List.append_assoc, List.flatten_cons,
        List.head?_append_of_ne_nil _ hpiece, List.head?_append_of_ne_nil _ hpiece]

theorem getLast?_joinWith : (joinWith separator pieces).getLast? = pieces.flatten.getLast? := by
  unfold joinWith
  induction pieces with
  | nil => rfl
  | cons piece rest ih =>
    cases rest with
    | nil => simp
    | cons next rest =>
      have hlast := ih fun other hother => h other (List.mem_cons_of_mem _ hother)
      have hne : (next :: rest).flatten ≠ [] := by
        simp [h next (List.mem_cons_of_mem _ List.mem_cons_self)]
      have hjoined : separator.intercalate (next :: rest) ≠ [] := by
        intro hnil
        rw [hnil, List.getLast?_nil, eq_comm, List.getLast?_eq_none_iff] at hlast
        exact hne hlast
      rw [List.intercalate_cons_cons, List.flatten_cons, List.getLast?_append_of_ne_nil _ hjoined,
        List.getLast?_append_of_ne_nil _ hne, hlast]

end Pieces

/-- What a way to write words makes of their first characters, it makes of the first of all. -/
theorem head?_flatMap_style {style : List Char → List Char} {f : Char → Char}
    (hstyle : ∀ word, (∀ c ∈ word, c.isAlphanum = true) → (style word).head? = word.head?.map f)
    {pieces : List (List Char)} (h : ∀ word ∈ pieces, ∀ c ∈ word, c.isAlphanum = true) :
    (pieces.flatMap style).head? = pieces.flatten.head?.map f := by
  induction pieces with
  | nil => rfl
  | cons word rest ih =>
    rw [List.forall_mem_cons] at h
    rw [List.flatMap_cons, List.flatten_cons, List.head?_append, List.head?_append, Option.map_or,
      hstyle word h.1, ih h.2]

/-! ## ASCII names -/

section Ascii

variable {name : String} (hascii : IsAscii name.toList)
include hascii

theorem head?_flatMap_words {style : List Char → List Char} {f : Char → Char}
    (hstyle : ∀ word, (∀ c ∈ word, c.isAlphanum = true) → (style word).head? = word.head?.map f) :
    ((words name).flatMap style).head? = (name.toList.find? isAlphanumeric).map f := by
  rw [head?_flatMap_style hstyle fun word hword c hc => isAlphanum_of_mem_words hascii hword hc,
    flatten_words, List.head?_filter]

theorem head?_pascalCase :
    (pascalCase name).toList.head? = (name.toList.find? isAlphanumeric).map Char.toUpper := by
  rw [pascalCase, String.toList_ofList]
  refine head?_flatMap_words hascii fun word h => ?_
  cases word with
  | nil => rfl
  | cons c rest =>
    rw [capitalWord_cons h]
    rfl

theorem head?_snakeCase :
    (snakeCase name).toList.head? = (name.toList.find? isAlphanumeric).map Char.toLower := by
  rw [snakeCase, String.toList_ofList, head?_joinWith lowerWords_ne_nil,
    ← List.flatMap_def]
  refine head?_flatMap_words hascii fun word h => ?_
  rw [lowerWord_ascii h, List.head?_map]

/-- A name in snake case does not begin with a capital letter. -/
theorem head?_snakeCase_ne_upper {c : Char} (hc : c.isUpper = true) :
    (snakeCase name).toList.head? ≠ some c := by
  have hall : ∀ n < 128, (Char.ofNat n).toLower.isUpper = false := by decide
  rw [head?_snakeCase hascii]
  intro hhead
  obtain ⟨d, hd, rfl⟩ := Option.map_eq_some_iff.mp hhead
  have hlower := hall d.toNat (hascii d (List.mem_of_find?_eq_some hd))
  rw [Char.ofNat_toNat, hc] at hlower
  cases hlower

theorem isAlphanum_of_mem_lowerWords {c : Char}
    (hc : c ∈ ((words name).map lowerWord).flatten) : c.isAlphanum = true := by
  obtain ⟨piece, hpiece, hmem⟩ := List.mem_flatten.mp hc
  obtain ⟨word, hword, rfl⟩ := List.mem_map.mp hpiece
  exact isAlphanum_of_mem_lowerWord (fun d hd => isAlphanum_of_mem_words hascii hword hd) hmem

/-- A name in snake case has no underscore at its ends. -/
theorem snakeCase_ends : (snakeCase name).toList.head? ≠ some '_' ∧
    (snakeCase name).toList.getLast? ≠ some '_' := by
  rw [snakeCase, String.toList_ofList, head?_joinWith lowerWords_ne_nil,
    getLast?_joinWith lowerWords_ne_nil]
  constructor
  · intro hhead
    exact absurd (isAlphanum_of_mem_lowerWords hascii (List.mem_of_head? hhead)) (by decide)
  · intro hlast
    exact absurd (isAlphanum_of_mem_lowerWords hascii (List.mem_of_getLast? hlast)) (by decide)

/-- A name in snake case has letters, digits and underscores only. -/
theorem mem_snakeCase {d : Char} (hd : d ∈ (snakeCase name).toList) :
    d.isAlphanum = true ∨ d = '_' := by
  rw [snakeCase, String.toList_ofList] at hd
  rcases mem_joinWith hd with hd | ⟨piece, hpiece, hd⟩
  · exact Or.inr (List.mem_singleton.mp hd)
  · obtain ⟨word, hword, rfl⟩ := List.mem_map.mp hpiece
    exact Or.inl (isAlphanum_of_mem_lowerWord
      (fun c hc => isAlphanum_of_mem_words hascii hword hc) hd)

end Ascii

/-! ## Names of every script -/

theorem code_of_isLower {n : Nat} (h : (Char.ofNat n).isLower = true) : 97 ≤ n ∧ n ≤ 122 := by
  obtain ⟨hlow, hhigh⟩ := Bool.and_eq_true_iff.mp h
  have hcode : 97 ≤ (Char.ofNat n).toNat ∧ (Char.ofNat n).toNat ≤ 122 :=
    ⟨of_decide_eq_true hlow, of_decide_eq_true hhigh⟩
  by_cases hvalid : n.isValidChar
  · rwa [toNat_ofNat hvalid] at hcode
  · rw [Char.ofNat, dif_neg hvalid] at hcode
    exact absurd hcode (by decide)

/-- No upper case is a small letter of ASCII. -/
theorem not_isLower_of_mem_upper {c d : Char} (hd : d ∈ upper c) : d.isLower = false := by
  have hascii : ∀ n < 128, (Char.ofNat n).toUpper.isLower = false := by decide
  have hruns : ∀ run ∈ uppercaseRuns, (run.2.1 : Int) + run.2.2.2 < 97 ∨
      122 < (run.1 : Int) + run.2.2.2 := by decide +kernel
  have hexpansions : ∀ entry ∈ uppercaseExpansions, ∀ n ∈ entry.2,
      (Char.ofNat n).isLower = false := by decide +kernel
  unfold upper at hd
  split at hd
  · next hsmall =>
    rw [List.mem_singleton.mp hd, ← Char.ofNat_toNat c]
    exact hascii c.toNat hsmall
  · next hlarge =>
    rw [Bool.eq_false_iff]
    intro hlower
    obtain ⟨run, hrun, n, hfirst, hlast, rfl⟩ | ⟨entry, hentry, n, hn, rfl⟩ | rfl := mem_mapCase hd
    · have hfree := hruns run hrun
      have hcode := code_of_isLower hlower
      omega
    · rw [hexpansions entry hentry n hn] at hlower
      cases hlower
    · rw [← Char.ofNat_toNat d] at hlower
      have hcode := code_of_isLower hlower
      omega

/-- A name in pascal case begins with no small letter of ASCII and no underscore. -/
theorem head?_pascalCase_ne {name : String} {c : Char}
    (h : (pascalCase name).toList.head? = some c) : c.isLower = false ∧ c ≠ '_' := by
  refine ⟨?_, fun hunderscore => ?_⟩
  · rw [pascalCase, String.toList_ofList, List.head?_flatMap] at h
    obtain ⟨word, -, hword⟩ := List.exists_of_findSome?_eq_some h
    cases word with
    | nil => cases hword
    | cons d rest =>
      rw [capitalWord, List.head?_append_of_ne_nil _ (upper_ne_nil d)] at hword
      exact not_isLower_of_mem_upper (List.mem_of_head? hword)
  · rw [hunderscore] at h
    exact absurd (isWordChar_of_mem_pascalCase (List.mem_of_head? h)) (by decide)

/-! ## Names told apart -/

/-- The words of a name in lower case. -/
def lowerWords (name : String) : List (List Char) := (words name).map lowerWord

theorem joinWith_eq_nil_iff {separator : List Char} {pieces : List (List Char)}
    (h : ∀ piece ∈ pieces, piece ≠ []) : joinWith separator pieces = [] ↔ pieces = [] := by
  rw [← List.head?_eq_none_iff, head?_joinWith h, List.head?_eq_none_iff, List.flatten_eq_nil_iff]
  constructor
  · intro hempty
    exact List.eq_nil_iff_forall_not_mem.mpr fun piece hpiece =>
      h piece hpiece (hempty piece hpiece)
  · rintro rfl
    simp

/-- Pieces that are joined with a mark none of them has can be told from the whole. -/
theorem joinWith_inj {mark : Char} {pieces pieces' : List (List Char)}
    (h : ∀ piece ∈ pieces, piece ≠ [] ∧ mark ∉ piece)
    (h' : ∀ piece ∈ pieces', piece ≠ [] ∧ mark ∉ piece) :
    joinWith [mark] pieces = joinWith [mark] pieces' ↔ pieces = pieces' := by
  refine ⟨fun heq => ?_, congrArg _⟩
  by_cases hnil : pieces = []
  · have hempty : joinWith [mark] pieces = [] :=
      (joinWith_eq_nil_iff fun piece hpiece => (h piece hpiece).1).mpr hnil
    rw [heq, joinWith_eq_nil_iff fun piece hpiece => (h' piece hpiece).1] at hempty
    rw [hnil, hempty]
  · have hnil' : pieces' ≠ [] := by
      intro hempty
      rw [hempty] at heq
      exact hnil ((joinWith_eq_nil_iff fun piece hpiece => (h piece hpiece).1).mp heq)
    have hsplit := congrArg (List.splitOn mark) heq
    rwa [joinWith, joinWith, List.splitOn_intercalate mark (fun piece hpiece => (h piece hpiece).2)
      hnil, List.splitOn_intercalate mark (fun piece hpiece => (h' piece hpiece).2) hnil'] at hsplit

/-- No word in lower case is empty or has a mark in it. -/
theorem mem_lowerWords {mark : Char} (hmark : ¬IsWordChar mark) {name : String} :
    ∀ piece ∈ lowerWords name, piece ≠ [] ∧ mark ∉ piece := by
  intro piece hpiece
  refine ⟨lowerWords_ne_nil piece hpiece, fun hmem => hmark ?_⟩
  obtain ⟨word, hword, rfl⟩ := List.mem_map.mp hpiece
  exact isWordChar_of_mem_lowerWord (isWordChar_of_mem_words hword) hmem

theorem kebabCase_eq_iff {name name' : String} :
    kebabCase name = kebabCase name' ↔ lowerWords name = lowerWords name' :=
  String.ofList_inj.trans (joinWith_inj (mem_lowerWords (by decide)) (mem_lowerWords (by decide)))

theorem snakeCase_eq_iff {name name' : String} :
    snakeCase name = snakeCase name' ↔ lowerWords name = lowerWords name' :=
  String.ofList_inj.trans (joinWith_inj (mem_lowerWords (by decide)) (mem_lowerWords (by decide)))

end Keyspace.Text
