import Keyspace.Proofs.Template.LocalizedText

/-!
# The search for variables

A text of `Fn::Sub` is literals and holes in turn, and may break off in a hole that nothing
closes. The search for its variables ends, and finds the names in its holes in their order: a
hole gives its text without the blanks around it, unless that is empty or begins with `!`. Every
text is such a text, so this says what the search gives for any.
-/
namespace Keyspace

open Text CutText

/-! ## The search without a bound -/

/-- How the search goes on from a text, with no bound on its rounds: it ends where no hole opens or
the next one is not closed, and else it goes on behind the hole. -/
inductive SearchEnds : List Char → List String → Prop
  | noOpening {text : List Char} (hnone : splitAtMark? opening text = none) : SearchEnds text []
  | unclosed {text before after : List Char}
      (hopening : splitAtMark? opening text = some (before, after))
      (hnone : splitAtMark? ['\x7d'] after = none) : SearchEnds text []
  | hole {text before after inside rest : List Char} {names : List String}
      (hopening : splitAtMark? opening text = some (before, after))
      (hclosing : splitAtMark? ['\x7d'] after = some (inside, rest))
      (hrest : SearchEnds rest names) : SearchEnds text ((holeName? inside).toList ++ names)

/-- The search ends for every text, since each round leaves less of it. -/
theorem exists_searchEnds (text : List Char) : ∃ names, SearchEnds text names := by
  induction hlength : text.length using Nat.strong_induction_on generalizing text with
  | _ length ih =>
    cases hopening : splitAtMark? opening text with
    | none => exact ⟨[], .noOpening hopening⟩
    | some parts =>
      cases hclosing : splitAtMark? ['\x7d'] parts.2 with
      | none => exact ⟨[], .unclosed hopening hclosing⟩
      | some hole =>
        have hless := length_lt_of_hole hopening hclosing
        obtain ⟨names, hrest⟩ := ih hole.2.length (hlength ▸ hless) hole.2 rfl
        exact ⟨_, .hole hopening hclosing hrest⟩

/-- A bound above the length of the text is never reached. -/
theorem SearchEnds.map_variablesFrom {text : List Char} {names : List String}
    (h : SearchEnds text names) {fuel : Nat} (hfuel : text.length < fuel) :
    (variablesFrom fuel text).map String.ofList = names := by
  -- Each round takes one from the bound and more than one character from the text.
  obtain ⟨fuel, rfl⟩ : ∃ n, fuel = n + 1 := ⟨fuel - 1, by omega⟩
  induction h generalizing fuel with
  | noOpening hnone =>
    unfold opening at hnone
    simp [variablesFrom, hnone]
  | unclosed hopening hnone =>
    unfold opening at hopening
    simp [variablesFrom, hopening, hnone]
  | hole hopening hclosing hrest ih =>
    have hless := length_lt_of_hole hopening hclosing
    obtain ⟨fuel, rfl⟩ : ∃ n, fuel = n + 1 := ⟨fuel - 1, by omega⟩
    have hlater := ih fuel (by omega)
    unfold opening at hopening
    rw [variablesFrom, hopening]
    dsimp only
    rw [hclosing]
    dsimp only
    unfold holeName?
    split
    · exact hlater
    · rw [List.map_cons, hlater]
      rfl

theorem searchEnds_iff {text : String} {names : List String} :
    SearchEnds text.toList names ↔ names = subVariables text := by
  have heq {names : List String} (h : SearchEnds text.toList names) : subVariables text = names :=
    h.map_variablesFrom (Nat.lt_succ_self _)
  constructor
  · exact fun h => (heq h).symm
  · rintro rfl
    obtain ⟨names, hnames⟩ := exists_searchEnds text.toList
    rwa [heq hnames]

/-! ## Texts in pieces -/

/-- A text in pieces: literals that open no hole, each with the hole behind it, the last literal,
and what stands behind the opening of a hole that is never closed, if there is one. -/
structure PiecedText where
  holes : List (List Char × List Char)
  last : List Char
  unclosed : Option (List Char)
  literals_plain : ∀ hole ∈ holes, ¬opening <:+: hole.1
  not_mem_inside : ∀ hole ∈ holes, '\x7d' ∉ hole.2
  last_plain : ¬opening <:+: last
  not_mem_unclosed : ∀ tail ∈ unclosed, '\x7d' ∉ tail

namespace PiecedText

/-- What stands behind the last hole. -/
def ending (p : PiecedText) : List Char := p.last ++ (p.unclosed.map (opening ++ ·)).getD []

/-- The text itself. -/
def text (p : PiecedText) : String :=
  String.ofList <|
    p.holes.foldr (fun hole rest => hole.1 ++ opening ++ hole.2 ++ '\x7d' :: rest) p.ending

/-- The names in the holes: no empty name, and none that begins with `!`. -/
def names (p : PiecedText) : List String :=
  ((p.holes.map fun hole => trim hole.2).filter fun name => name ≠ [] ∧ name.head? ≠ some '!').map
    String.ofList

/-- The pieces as a cut text, which has what stands behind the last hole in one. -/
def cut (p : PiecedText) : CutText := ⟨p.holes, p.ending⟩

theorem toList_text (p : PiecedText) : p.text.toList = p.cut.join := by
  simp [text, CutText.join, cut, written]

/-- Cutting the text finds these pieces. -/
theorem isCut_cut (p : PiecedText) : IsCut p.cut where
  before hole hhole before after heq := p.literals_plain hole hhole ⟨before, after, heq.symm⟩
  inside := p.not_mem_inside
  rest := by
    intro before after (heq : p.ending = before ++ opening ++ after)
    have hlast : ∀ text after, p.last ≠ text ++ opening ++ after :=
      fun text after heq => p.last_plain ⟨text, after, heq.symm⟩
    cases hunclosed : p.unclosed with
    | none =>
      have hending : p.ending = p.last := by simp [ending, hunclosed]
      exact absurd (hending.symm.trans heq) (hlast before after)
    | some tail =>
      have hending : p.last ++ opening ++ tail = p.ending := by simp [ending, hunclosed]
      have hopening : splitAtMark? opening (p.last ++ opening ++ tail) = some (p.last, tail) :=
        splitAtMark?_opening hlast
      exact not_mem_of_unclosed hopening (p.not_mem_unclosed tail hunclosed) (hending.trans heq)

theorem names_eq (p : PiecedText) : p.names = p.holes.filterMap fun hole => holeName? hole.2 := by
  unfold names
  induction p.holes with
  | nil => rfl
  | cons hole holes ih =>
    rw [List.map_cons, List.filterMap_cons]
    unfold holeName?
    by_cases h : trim hole.2 = [] ∨ (trim hole.2).head? = some '!'
    · rw [List.filter_cons_of_neg (by simpa [or_iff_not_imp_left] using h), if_pos h]
      exact ih
    · rw [List.filter_cons_of_pos (by simpa using not_or.mp h), if_neg h, List.map_cons, ih]
      rfl

theorem text_eq_of_cut_eq {p : PiecedText} {text : String} (h : p.cut = ofText text.toList) :
    p.text = text := by
  rw [← String.ofList_toList (s := p.text), p.toList_text, h, join_ofText, String.ofList_toList]

/-- Every text is in pieces, which cutting finds. -/
theorem exists_text_eq (text : String) : ∃ p : PiecedText, p.text = text := by
  have hcut := isCut_ofText text.toList
  have hliterals : ∀ hole ∈ (ofText text.toList).holes, ¬opening <:+: hole.1 := by
    rintro hole hhole ⟨before, after, heq⟩
    exact hcut.before hole hhole before after heq.symm
  -- The rest of the cut text may open one more hole, which is the one that is never closed.
  cases hrest : splitAtMark? opening (ofText text.toList).rest with
  | none =>
    have hlast : ¬opening <:+: (ofText text.toList).rest := by
      rintro ⟨before, after, heq⟩
      exact splitAtMark?_eq_none.mp hrest before after heq.symm
    refine ⟨⟨_, _, none, hliterals, hcut.inside, hlast, by simp⟩, text_eq_of_cut_eq ?_⟩
    simp [cut, ending]
  | some parts =>
    obtain ⟨last, tail⟩ := parts
    have hlast : ¬opening <:+: last := by
      rintro ⟨before, after, heq⟩
      exact ne_of_splitAtMark? hrest (by simp [opening]) before after heq.symm
    have htail : '\x7d' ∉ tail := hcut.rest last tail (splitAtMark?_append hrest)
    have hending : last ++ (opening ++ tail) = (ofText text.toList).rest := by
      rw [splitAtMark?_append hrest, List.append_assoc]
    refine ⟨⟨_, last, some tail, hliterals, hcut.inside, hlast, by simpa using htail⟩,
      text_eq_of_cut_eq ?_⟩
    simp [cut, ending, hending]

end PiecedText

/-- The search ends for every text in pieces with the names in its holes, in order, and with
nothing else; and every text is in pieces. -/
theorem variables_of_pieces :
    (∀ p : PiecedText, (∀ names, SearchEnds p.text.toList names ↔ names = p.names) ∧
      subVariables p.text = p.names) ∧
      ∀ text : String, ∃ p : PiecedText, p.text = text := by
  refine ⟨fun p => ?_, PiecedText.exists_text_eq⟩
  have hnames : subVariables p.text = p.names := by
    rw [subVariables_eq, p.toList_text, ofText_join p.isCut_cut, p.names_eq]
    rfl
  exact ⟨fun names => by rw [searchEnds_iff, hnames], hnames⟩

/-- A dollar sign in front of a hole, a brace behind it, an escape, blanks, and a hole left open. -/
example : subVariables "$$\x7bA\x7d\x7d$\x7b!B\x7d$\x7b é \x7d$$\x7bC" = ["A", "é"] := by decide

end Keyspace
