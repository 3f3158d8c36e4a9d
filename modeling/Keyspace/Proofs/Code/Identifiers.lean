import Keyspace.Code.Models
import Keyspace.Proofs.Schema.Names
import Keyspace.Proofs.Text.NameEnds

/-!
# Identifiers made from names

A readable name gives an identifier if and only if it begins with a letter, underscores at its
front aside. In pascal case the only keyword is `Self`. The field identifiers stay clear of all
keywords, and the snake case of a name can be read off its field identifier.
-/
namespace Keyspace

open Schema (IsReadableName)

namespace Text

/-- Whether the first character of a name that is no underscore is a letter. -/
def startsWithLetter (name : String) : Bool := (name.toList.find? (· ≠ '_')).any Char.isAlpha

theorem isAscii_of_isReadableName {name : String} (h : IsReadableName name) :
    IsAscii name.toList := by
  intro c hc
  rcases Bool.or_eq_true_iff.mp (h c hc) with halnum | hunderscore
  · exact toNat_lt_of_isAlphanum halnum
  · rw [of_decide_eq_true hunderscore]
    decide

/-- The letters and digits of a readable name are all that is no underscore. -/
theorem find?_isAlphanumeric {name : String} (h : IsReadableName name) :
    name.toList.find? isAlphanumeric = name.toList.find? (· ≠ '_') := by
  rw [← List.head?_filter, ← List.head?_filter]
  congr 1
  refine List.filter_congr fun c hc => ?_
  rw [isAlphanumeric_ascii (isAscii_of_isReadableName h c hc)]
  rcases Bool.or_eq_true_iff.mp (h c hc) with halnum | hunderscore
  · have hne : c ≠ '_' := by
      rintro rfl
      exact absurd halnum (by decide)
    rw [halnum, decide_eq_true hne]
  · rw [of_decide_eq_true hunderscore]
    decide

/-- A change of case keeps letters apart from digits. -/
theorem isAlpha_case {c : Char} (h : c.toNat < 128) :
    c.toUpper.isAlpha = c.isAlpha ∧ c.toLower.isAlpha = c.isAlpha := by
  have hall : ∀ n < 128, (Char.ofNat n).toUpper.isAlpha = (Char.ofNat n).isAlpha ∧
      (Char.ofNat n).toLower.isAlpha = (Char.ofNat n).isAlpha := by decide
  have hchar := hall c.toNat h
  rwa [Char.ofNat_toNat] at hchar

section Derived

variable {name : String} (h : IsReadableName name)
include h

theorem isReadableName_pascalCase : IsReadableName (pascalCase name) := fun _ hc =>
  Bool.or_eq_true_iff.mpr
    (Or.inl (List.all_eq_true.mp (all_isAlphanum_pascalCase (isAscii_of_isReadableName h)) _ hc))

theorem isReadableName_snakeCase : IsReadableName (snakeCase name) := fun _ hc =>
  Bool.or_eq_true_iff.mpr
    ((mem_snakeCase (isAscii_of_isReadableName h) hc).imp id fun heq => decide_eq_true heq)

theorem isAlpha_head?_pascalCase :
    (pascalCase name).toList.head?.any Char.isAlpha = startsWithLetter name := by
  have hascii := isAscii_of_isReadableName h
  rw [head?_pascalCase hascii, find?_isAlphanumeric h, startsWithLetter]
  cases hfirst : name.toList.find? (· ≠ '_') with
  | none => rfl
  | some c => exact (isAlpha_case (hascii c (List.mem_of_find?_eq_some hfirst))).1

theorem isAlpha_head?_snakeCase :
    (snakeCase name).toList.head?.any Char.isAlpha = startsWithLetter name := by
  have hascii := isAscii_of_isReadableName h
  rw [head?_snakeCase hascii, find?_isAlphanumeric h, startsWithLetter]
  cases hfirst : name.toList.find? (· ≠ '_') with
  | none => rfl
  | some c => exact (isAlpha_case (hascii c (List.mem_of_find?_eq_some hfirst))).2

end Derived

end Text

namespace Code

open Text

/-- What a program may use as a name: an identifier that is no keyword, or a raw identifier, which
may be any but those a path begins with. -/
def IsLegal (text : String) : Prop :=
  isIdentifier text = true ∧ text ∉ keywords ∨
    text = "r#" ++ plainName text ∧ isIdentifier (plainName text) = true ∧ plainName text ≠ "_" ∧
      plainName text ∉ pathKeywords

instance (text : String) : Decidable (IsLegal text) := inferInstanceAs (Decidable (_ ∨ _))

/-- A readable text is an identifier if and only if it begins with no digit. -/
theorem isIdentifier_iff {text : String} (h : IsReadableName text) : isIdentifier text = true ↔
    text.toList.head?.any Char.isAlpha = true ∨ text.toList.head? = some '_' := by
  unfold isIdentifier IsReadableName at *
  cases htext : text.toList with
  | nil => simp
  | cons c rest =>
    have hascii := isAscii_of_isReadableName h
    rw [htext] at h
    unfold Text.IsAscii at hascii
    rw [htext] at hascii
    rw [List.forall_mem_cons] at h hascii
    have hrest : rest.all isIdentifierContinue = true := by
      refine List.all_eq_true.mpr fun d hd => ?_
      rw [isIdentifierContinue, inClass, if_pos (hascii.2 d hd)]
      exact h.2 d hd
    dsimp only
    rw [hrest, isIdentifierStart, inClass, if_pos hascii.1]
    simp [or_comm]

section Derived

variable {name : String} (h : IsReadableName name)
include h

theorem isIdentifier_pascalCase : isIdentifier (pascalCase name) = startsWithLetter name := by
  rw [Bool.eq_iff_iff, isIdentifier_iff (isReadableName_pascalCase h), isAlpha_head?_pascalCase h]
  exact or_iff_left fun hhead => (head?_pascalCase_ne hhead).2 rfl

theorem isIdentifier_snakeCase : isIdentifier (snakeCase name) = startsWithLetter name := by
  rw [Bool.eq_iff_iff, isIdentifier_iff (isReadableName_snakeCase h), isAlpha_head?_snakeCase h]
  exact or_iff_left (snakeCase_ends (isAscii_of_isReadableName h)).1

end Derived

/-- The only keyword in pascal case. -/
theorem pascalCase_mem_keywords_iff {name : String} :
    pascalCase name ∈ keywords ↔ pascalCase name = "Self" := by
  have hheads : ∀ word ∈ keywords, word = "Self" ∨
      word.toList.head?.any (fun c => c.isLower || c = '_') = true := by decide
  constructor
  · intro hmem
    refine (hheads _ hmem).resolve_right fun hhead => ?_
    obtain ⟨c, hc, hsmall⟩ := (Option.any_eq_true _ _).mp hhead
    obtain ⟨hlower, hne⟩ := head?_pascalCase_ne hc
    rw [hlower, Bool.false_or, decide_eq_true_eq] at hsmall
    exact hne hsmall
  · intro heq
    rw [heq]
    decide

/-! ## Fields -/

/-- A type, an enum value or a handler may have the name. -/
def NamesType (name : String) : Prop := isIdentifier (pascalCase name) = true

/-- A field may have the name: its snake case is an identifier, and one that can be escaped. -/
def NamesField (name : String) : Prop :=
  isIdentifier (snakeCase name) = true ∧ snakeCase name ≠ "super"

instance (name : String) : Decidable (NamesType name) := inferInstanceAs (Decidable (_ = _))

instance (name : String) : Decidable (NamesField name) := inferInstanceAs (Decidable (_ ∧ _))

/-- A name in snake case, with the marks that set it apart from keywords. -/
def escaped (snake : String) : String :=
  if fieldKeywords.contains snake then "r#" ++ snake
  else if snake = "self" ∨ snake = "crate" ∨ snake = "meta" then snake ++ "_"
  else snake

/-- A field identifier without the marks that set it apart from keywords. -/
def unescaped (text : String) : String :=
  String.ofList ((plainName text).toList.rdropWhile (· = '_'))

theorem identifier_eq_ok {text found : String} :
    identifier text = .ok found ↔ isIdentifier text = true ∧ found = text := by
  unfold identifier
  split
  · next h => simp [h, eq_comm]
  · next h => simp [h]

theorem fieldIdentifier_eq_ok {name text : String} :
    fieldIdentifier name = .ok text ↔ NamesField name ∧ text = escaped (snakeCase name) := by
  have hkeywords : ∀ word ∈ fieldKeywords, isIdentifier word = true ∧ word ≠ "_" ∧
      (pathKeywords.contains word = true ↔ word = "super") := by decide
  have hself : ∀ word ∈ ["self", "crate", "meta"], isIdentifier word = true ∧
      isIdentifier (word ++ "_") = true ∧ word ≠ "super" := by decide
  unfold fieldIdentifier NamesField escaped
  generalize snakeCase name = snake
  dsimp only
  split
  · next hkeyword =>
    obtain ⟨hidentifier, hne, hpath⟩ := hkeywords snake (List.contains_iff_mem.mp hkeyword)
    unfold rawIdentifier
    by_cases hsuper : snake = "super"
    · rw [if_neg fun hraw => hraw.2.2 (hpath.mpr hsuper)]
      exact ⟨(nomatch ·), fun h => absurd hsuper h.1.2⟩
    · rw [if_pos ⟨hidentifier, hne, mt hpath.mp hsuper⟩]
      exact ⟨fun h => ⟨⟨hidentifier, hsuper⟩, (Except.ok.inj h).symm⟩, fun h => congrArg _ h.2.symm⟩
  · next hkeyword =>
    split
    · next hword =>
      obtain ⟨hidentifier, hmarked, hne⟩ := hself snake (by simpa using hword)
      simp [identifier_eq_ok, hidentifier, hmarked, hne]
    · have hne : snake ≠ "super" := by
        rintro rfl
        exact hkeyword (by decide)
      simp [identifier_eq_ok, hne]

theorem plainName_raw (text : String) : plainName ("r#" ++ text) = text := by
  unfold plainName
  rw [String.toList_append]
  exact String.ofList_toList

/-- A readable text bears no mark of a raw identifier. -/
theorem plainName_of_readable {text : String} (h : IsReadableName text) :
    plainName text = text := by
  unfold plainName
  split
  · next rest hraw =>
    have hmark := h '#' (by rw [hraw]; simp)
    exact absurd hmark (by decide)
  · rfl

section Readable

variable {name : String} (h : IsReadableName name)
include h

/-- An escaped name is legal. -/
theorem isLegal_escaped (hnames : NamesField name) : IsLegal (escaped (snakeCase name)) := by
  have hraw : ∀ word ∈ fieldKeywords, isIdentifier word = true ∧ word ≠ "_" ∧
      (word ≠ "super" → word ∉ pathKeywords) := by decide
  have hmarked : ∀ word ∈ ["self", "crate", "meta"], IsLegal (word ++ "_") := by decide
  have hkeywords : ∀ word ∈ keywords, word ∈ fieldKeywords ∨ word = "self" ∨ word = "crate" ∨
      word.toList.head? = some 'S' ∨ word.toList.head? = some '_' := by decide
  obtain ⟨hidentifier, hsuper⟩ := hnames
  have hascii := isAscii_of_isReadableName h
  unfold escaped
  split
  · next hkeyword =>
    obtain ⟨hword, hne, hpath⟩ := hraw _ (List.contains_iff_mem.mp hkeyword)
    refine Or.inr ?_
    rw [plainName_raw]
    exact ⟨rfl, hword, hne, hpath hsuper⟩
  · next hkeyword =>
    split
    · next hword => exact hmarked _ (by simpa using hword)
    · next hword =>
      refine Or.inl ⟨hidentifier, fun hmem => ?_⟩
      rcases hkeywords _ hmem with hfield | heq | heq | hhead | hhead
      · exact hkeyword (List.contains_iff_mem.mpr hfield)
      · exact hword (Or.inl heq)
      · exact hword (Or.inr (Or.inl heq))
      · exact head?_snakeCase_ne_upper hascii (by decide) hhead
      · exact (snakeCase_ends hascii).1 hhead

/-- The snake case of a name is read off its field identifier. -/
theorem unescaped_escaped : unescaped (escaped (snakeCase name)) = snakeCase name := by
  have hmarked : ∀ word ∈ ["self", "crate", "meta"], unescaped (word ++ "_") = word := by decide
  have hreadable := isReadableName_snakeCase h
  have hend : (snakeCase name).toList.rdropWhile (· = '_') = (snakeCase name).toList := by
    refine List.rdropWhile_eq_self_iff.mpr fun hne hlast => ?_
    refine (snakeCase_ends (isAscii_of_isReadableName h)).2 ?_
    rw [List.getLast?_eq_getLast_of_ne_nil hne, of_decide_eq_true hlast]
  unfold escaped
  split
  · rw [unescaped, plainName_raw, hend, String.ofList_toList]
  · split
    · next hword => exact hmarked _ (by simpa using hword)
    · rw [unescaped, plainName_of_readable hreadable, hend, String.ofList_toList]

/-- No field has the identifier of the data that every record carries. -/
theorem escaped_ne_meta : escaped (snakeCase name) ≠ "meta" := by
  intro heq
  have hsnake := unescaped_escaped h
  rw [heq] at hsnake
  rw [← hsnake] at heq
  exact absurd heq (by decide)

end Readable

/-- Fields have one identifier if and only if their names agree in snake case. -/
theorem escaped_inj {name name' : String} (h : IsReadableName name) (h' : IsReadableName name') :
    escaped (snakeCase name) = escaped (snakeCase name') ↔ snakeCase name = snakeCase name' := by
  refine ⟨fun heq => ?_, congrArg escaped⟩
  rw [← unescaped_escaped h, heq, unescaped_escaped h']

/-! ## Store methods -/

/-- The verbs that the methods of the store begin with. -/
def storeVerbs : List String := ["create", "get", "find", "delete", "update"]

def methodName (verb name : String) : String := verb ++ "_" ++ snakeCase name

theorem isLegal_methodName {verb name : String} (hverb : verb ∈ storeVerbs)
    (h : IsReadableName name) :
    isIdentifier (methodName verb name) = true ∧ methodName verb name ∉ keywords := by
  have hverbs : ∀ verb ∈ storeVerbs, IsReadableName verb ∧
      ∃ c, verb.toList.head? = some c ∧ c.isAlpha = true := by
    simp [storeVerbs, IsReadableName, Schema.isNameChar]
  have hkeywords : ∀ word ∈ keywords, '_' ∈ word.toList → word.toList.head? = some '_' := by
    decide
  obtain ⟨hreadable, c, hc, halpha⟩ := hverbs verb hverb
  have htext : (methodName verb name).toList = verb.toList ++ '_' :: (snakeCase name).toList := by
    simp [methodName]
  have hhead : (methodName verb name).toList.head? = some c := by
    rw [htext, List.head?_append, hc]
    rfl
  constructor
  · refine (isIdentifier_iff fun d hd => ?_).mpr (Or.inl (by rw [hhead]; exact halpha))
    rw [htext] at hd
    rcases List.mem_append.mp hd with hd | hd
    · exact hreadable d hd
    · rcases List.mem_cons.mp hd with rfl | hd
      · decide
      · exact isReadableName_snakeCase h d hd
  · intro hmem
    have hunderscore := hkeywords _ hmem (by rw [htext]; simp)
    rw [hhead] at hunderscore
    cases hunderscore
    exact absurd halpha (by decide)

/-- The verb is read off the front of a method, and the model off the rest. -/
theorem methodName_inj {verb verb' name name' : String} (hverb : verb ∈ storeVerbs)
    (hverb' : verb' ∈ storeVerbs) (h : methodName verb name = methodName verb' name') :
    verb = verb' ∧ snakeCase name = snakeCase name' := by
  have hverbs : ∀ verb ∈ storeVerbs, '_' ∉ verb.toList := by decide
  have hlists : verb.toList ++ '_' :: (snakeCase name).toList =
      verb'.toList ++ '_' :: (snakeCase name').toList := by
    simpa [methodName] using congrArg String.toList h
  obtain ⟨hsame, hrest⟩ := append_cons_inj (hverbs verb hverb) (hverbs verb' hverb') hlists
  exact ⟨String.toList_injective hsame, String.toList_injective hrest⟩

end Code

end Keyspace
