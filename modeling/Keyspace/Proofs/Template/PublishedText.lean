import Keyspace.Proofs.Template.Scope
import Keyspace.Proofs.Text.AsciiNames
import Keyspace.Template.Wiring
import Mathlib.Data.String.Basic

/-!
# Variables of published texts

A text put together from variables of a given kind and from text without a dollar names no
variable of another kind. The JSON objects that publish table names and configured values to
functions are such texts.
-/
namespace Keyspace

open Text Stacks

/-- A text in which a dollar stands only where a variable of the given kind is written. -/
inductive NamesOnly (allowed : String → Prop) : List Char → Prop
  | nil : NamesOnly allowed []
  | cons {c : Char} {rest : List Char} (hc : c ≠ '$') (hrest : NamesOnly allowed rest) :
      NamesOnly allowed (c :: rest)
  | written {name : String} {rest : List Char} (hname : allowed name)
      (hrest : NamesOnly allowed rest) : NamesOnly allowed (writtenVariable name ++ rest)

namespace NamesOnly

variable {allowed : String → Prop}

theorem append {text rest : List Char} (h : NamesOnly allowed text)
    (hrest : NamesOnly allowed rest) : NamesOnly allowed (text ++ rest) := by
  induction h with
  | nil => exact hrest
  | cons hc _ ih => exact ih.cons hc
  | written hname _ ih =>
    rw [List.append_assoc]
    exact ih.written hname

theorem of_plain {text : List Char} (h : '$' ∉ text) : NamesOnly allowed text := by
  induction text with
  | nil => exact nil
  | cons c rest ih =>
    rw [List.mem_cons, not_or] at h
    exact cons (Ne.symm h.1) (ih h.2)

theorem intercalate {separator : List Char} {pieces : List (List Char)}
    (hseparator : '$' ∉ separator) (h : ∀ piece ∈ pieces, NamesOnly allowed piece) :
    NamesOnly allowed (separator.intercalate pieces) := by
  induction pieces with
  | nil => exact nil
  | cons piece rest ih =>
    have hpiece := h piece List.mem_cons_self
    have hrest := ih fun piece hpiece => h piece (List.mem_cons_of_mem _ hpiece)
    cases rest with
    | nil => rwa [List.intercalate_singleton]
    | cons next rest =>
      rw [List.intercalate_cons_cons, List.append_assoc]
      exact hpiece.append ((of_plain hseparator).append hrest)

end NamesOnly

theorem variablesFrom_cons {c : Char} (hc : c ≠ '$') (fuel : Nat) (rest : List Char) :
    variablesFrom fuel (c :: rest) = variablesFrom fuel rest := by
  cases fuel with
  | zero => rfl
  | succ fuel =>
    unfold variablesFrom
    rw [splitAtMark?, dropBeginning?, if_neg (Ne.symm hc)]
    cases splitAtMark? ['$', '\x7b'] rest <;> rfl

/-- The first hole of a text that begins with a variable is that variable. -/
theorem variablesFrom_written {name : String} (hname : name.toList.all Char.isAlphanum = true)
    (hne : name.isEmpty = false) (fuel : Nat) (rest : List Char) :
    variablesFrom (fuel + 1) (writtenVariable name ++ rest) =
      name.toList :: variablesFrom fuel rest := by
  rw [List.all_eq_true] at hname
  have hnot {c : Char} (hc : c.isAlphanum = false) : c ∉ name.toList := fun hmem => by
    rw [hname c hmem] at hc
    cases hc
  have hsplit : splitAtMark? ['$', '\x7b'] (writtenVariable name ++ rest) =
      some ([], name.toList ++ '\x7d' :: rest) := by
    simp [writtenVariable, splitAtMark?, dropBeginning?]
  have htrim : trim name.toList = name.toList :=
    trim_eq_self fun c hc => isBlank_of_isAlphanum (hname c hc)
  have hwritten : ¬(name.toList = [] ∨ name.toList.head? = some '!') := by
    rintro (hempty | hhead)
    · rw [String.toList_eq_nil_iff] at hempty
      rw [hempty] at hne
      cases hne
    · exact hnot (by decide) (List.mem_of_head? hhead)
  conv_lhs => unfold variablesFrom
  rw [hsplit]
  dsimp only
  rw [splitAtMark?_singleton (hnot (by decide))]
  dsimp only
  rw [htrim, if_neg hwritten]

/-- A parameter that a template may declare. -/
def IsParameterName (name : String) : Prop :=
  name.isEmpty = false ∧ name.toList.all Char.isAlphanum = true

theorem mem_variablesFrom {allowed : String → Prop}
    (hallowed : ∀ name, allowed name → IsParameterName name) {text : List Char} (h : NamesOnly allowed text) (fuel : Nat) {name : List Char}
    (hname : name ∈ variablesFrom fuel text) : allowed (String.ofList name) := by
  induction h generalizing fuel with
  | nil => cases fuel <;> cases hname
  | cons hc _ ih =>
    rw [variablesFrom_cons hc] at hname
    exact ih fuel hname
  | @written first rest hfirst _ ih =>
    cases fuel with
    | zero => cases hname
    | succ fuel =>
      obtain ⟨hne, halnum⟩ := hallowed first hfirst
      rw [variablesFrom_written halnum hne] at hname
      rcases List.mem_cons.mp hname with rfl | hname
      · rwa [String.ofList_toList]
      · exact ih fuel hname

theorem mem_subVariables {allowed : String → Prop}
    (hallowed : ∀ name, allowed name → IsParameterName name) {text : String} (h : NamesOnly allowed text.toList) :
    ∀ name ∈ subVariables text, allowed name := by
  intro name hname
  obtain ⟨inside, hinside, rfl⟩ := List.mem_map.mp hname
  exact mem_variablesFrom hallowed h _ hinside

/-- A parameter's name has no dot, so the variable is a reference to the parameter. -/
theorem ofVariable_of_isParameterName {name : String} (h : IsParameterName name) :
    Reference.ofVariable name = .ref name := by
  have hdot : '.' ∉ name.toList := fun hmem => by
    have halnum := List.all_eq_true.mp h.2 '.' hmem
    exact absurd halnum (by decide)
  unfold Reference.ofVariable
  rw [splitAtMark?_singleton_eq_none.mpr hdot]

section Published

/-- Characters that stand for themselves inside a JSON string. -/
def StandsForItself (c : Char) : Prop := c.isAlphanum = true ∨ c ∈ ['_', '$', '\x7b', '\x7d']

theorem escapeChar_eq {c : Char} (h : StandsForItself c) : Json.escapeChar c = [c] := by
  rcases h with h | h
  · have hcode := code_of_isAlphanum h
    have hne {d : Char} (hd : d.isAlphanum = false) : c ≠ d := by
      rintro rfl
      rw [h] at hd
      cases hd
    unfold Json.escapeChar
    rw [if_neg (hne (by decide)), if_neg (hne (by decide)), if_neg (hne (by decide)),
      if_neg (hne (by decide)), if_neg (hne (by decide)), if_neg (hne (by decide)),
      if_neg (hne (by decide)), if_neg (by omega)]
  · simp only [List.mem_cons, List.not_mem_nil, or_false] at h
    rcases h with rfl | rfl | rfl | rfl <;> decide

theorem toList_quote {text : String} (h : ∀ c ∈ text.toList, StandsForItself c) :
    (Json.quote text).toList = '"' :: text.toList ++ ['"'] := by
  have hsame : text.toList.flatMap Json.escapeChar = text.toList := by
    rw [List.flatMap_congr fun c hc => escapeChar_eq (h c hc)]
    exact List.flatMap_singleton' _
  rw [Json.quote, String.toList_ofList, hsame]

variable {allowed : String → Prop}

theorem namesOnly_compactMember {key parameter : String}
    (hkey : ∀ c ∈ key.toList, c.isAlphanum = true ∨ c = '_') (hparameter : allowed parameter)
    (hname : IsParameterName parameter) :
    NamesOnly allowed (Json.quote key ++ ":" ++
      Json.compact (.str (String.ofList (writtenVariable parameter)))).toList := by
  have hquote := toList_quote fun c hc => (hkey c hc).imp_right fun heq => by simp [heq]
  have hdollar : '$' ∉ key.toList := fun hmem => by
    rcases hkey '$' hmem with h | h
    · exact absurd h (by decide)
    · exact absurd h (by decide)
  have hwritten : (Json.compact (.str (String.ofList (writtenVariable parameter)))).toList =
      '"' :: (writtenVariable parameter ++ ['"']) := by
    have hplain : ∀ c ∈ (String.ofList (writtenVariable parameter)).toList, StandsForItself c := by
      intro c hc
      rw [String.toList_ofList] at hc
      simp only [writtenVariable, List.cons_append, List.mem_cons, List.mem_append,
        List.not_mem_nil, or_false] at hc
      rcases hc with rfl | rfl | hc | rfl
      · exact Or.inr (by decide)
      · exact Or.inr (by decide)
      · exact Or.inl (List.all_eq_true.mp hname.2 c hc)
      · exact Or.inr (by decide)
    have htext := toList_quote hplain
    rwa [String.toList_ofList] at htext
  rw [String.toList_append, String.toList_append, hquote, hwritten]
  refine NamesOnly.append (NamesOnly.of_plain ?_) (NamesOnly.cons (by decide) ?_)
  · simp [hdollar]
  · exact NamesOnly.written hparameter (NamesOnly.of_plain (by decide))

theorem compactMembers_eq (members : List (String × Json)) :
    Json.compactMembers members =
      members.map fun member => Json.quote member.1 ++ ":" ++ member.2.compact := by
  induction members with
  | nil => rfl
  | cons member rest ih =>
    rw [List.map_cons, ← ih]
    rfl

/-- A variable that publishes a map refers to the parameters in it and to nothing else. -/
theorem refersWithin_mapVariable {scope : Reference → Prop} {entries : List (String × String)}
    (hkeys : ∀ entry ∈ entries, ∀ c ∈ entry.1.toList, c.isAlphanum = true ∨ c = '_')
    (hnames : ∀ entry ∈ entries, IsParameterName entry.2)
    (h : ∀ entry ∈ entries, scope (.ref entry.2)) :
    Json.RefersWithin scope (mapVariable entries) := by
  let allowed (name : String) : Prop := ∃ entry ∈ entries, entry.2 = name
  have hallowed (name : String) (h : allowed name) : IsParameterName name := by
    obtain ⟨entry, hentry, rfl⟩ := h
    exact hnames entry hentry
  have htext : NamesOnly allowed (Json.object (entries.map fun entry =>
      (entry.1, .str (String.ofList (writtenVariable entry.2))))).compact.toList := by
    show NamesOnly allowed (("\x7b" ++ String.intercalate "," (Json.compactMembers _)) ++
      "\x7d").toList
    rw [String.toList_append, String.toList_append, String.toList_intercalate, compactMembers_eq]
    refine ((NamesOnly.of_plain (by decide)).append (NamesOnly.intercalate (by decide) ?_)).append
      (NamesOnly.of_plain (by decide))
    rw [List.map_map, List.forall_mem_map]
    intro member hmember
    obtain ⟨entry, hentry, rfl⟩ := List.mem_map.mp (Dict.mem_of_mem_ofList hmember)
    exact namesOnly_compactMember (hkeys entry hentry) ⟨entry, hentry, rfl⟩ (hnames entry hentry)
  refine (Json.refersWithin_sub _).mpr fun name hname => ?_
  obtain ⟨entry, hentry, rfl⟩ := mem_subVariables hallowed htext name hname
  rw [ofVariable_of_isParameterName (hnames entry hentry)]
  exact h entry hentry

end Published

end Keyspace
