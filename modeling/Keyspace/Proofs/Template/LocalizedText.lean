import Keyspace.Proofs.Template.CutText
import Keyspace.Template.Reference
import Mathlib.Data.String.Basic

/-!
# Texts whose attributes became parameters

The variables of a text are the names in its holes. Making parameters of the attributes among
them renames a hole if it is the variable exactly as it is written: a hole with blanks around
the name of an attribute stays as it is.
-/
namespace Keyspace

open Text CutText Stacks

/-- The variable that a hole names, if it names one. -/
def holeName? (inside : List Char) : Option String :=
  if trim inside = [] ∨ (trim inside).head? = some '!' then none
  else some (String.ofList (trim inside))

theorem holeName?_eq_some {inside : List Char} {name : String} :
    holeName? inside = some name ↔
      name.toList = trim inside ∧ name.toList ≠ [] ∧ name.toList.head? ≠ some '!' := by
  unfold holeName?
  constructor
  · intro h
    split at h
    · cases h
    · next hnot =>
      obtain rfl := Option.some.inj h
      rw [String.toList_ofList]
      exact ⟨rfl, not_or.mp hnot⟩
  · rintro ⟨htrim, hne, hhead⟩
    rw [← htrim, if_neg (not_or.mpr ⟨hne, hhead⟩), String.ofList_toList]

/-- The name of a variable names itself. -/
theorem holeName?_toList {inside : List Char} {name : String} (h : holeName? inside = some name) :
    holeName? name.toList = some name := by
  obtain ⟨htrim, hwritten⟩ := holeName?_eq_some.mp h
  refine holeName?_eq_some.mpr ⟨?_, hwritten⟩
  rw [htrim, trim_trim]

theorem variablesFrom_eq (fuel : Nat) (text : List Char) :
    (variablesFrom fuel text).map String.ofList =
      (cutFrom fuel text).holes.filterMap fun hole => holeName? hole.2 := by
  induction fuel generalizing text with
  | zero => rfl
  | succ fuel ih =>
    unfold variablesFrom cutFrom opening
    cases splitAtMark? ['$', '\x7b'] text with
    | none => rfl
    | some parts =>
      dsimp only
      cases splitAtMark? ['\x7d'] parts.2 with
      | none => rfl
      | some hole =>
        dsimp only
        rw [List.filterMap_cons, ← ih]
        unfold holeName?
        split <;> rfl

/-- The variables of a text are the names in its holes. -/
theorem subVariables_eq (text : String) :
    subVariables text = (ofText text.toList).holes.filterMap fun hole => holeName? hole.2 :=
  variablesFrom_eq _ _

theorem mem_subVariables_iff {text name : String} :
    name ∈ subVariables text ↔
      ∃ hole ∈ (ofText text.toList).holes, holeName? hole.2 = some name := by
  rw [subVariables_eq, List.mem_filterMap]

/-! ## The parameter of a variable -/

/-- The parameter that carries what a variable refers to. -/
def variableParameter (name : String) : String := (Reference.ofVariable name).parameterName

/-- The variable names an attribute. -/
def IsDotted (name : String) : Prop := '.' ∈ name.toList

instance (name : String) : Decidable (IsDotted name) :=
  inferInstanceAs (Decidable ('.' ∈ name.toList))

theorem ofVariable_of_not_isDotted {name : String} (h : ¬IsDotted name) :
    Reference.ofVariable name = .ref name := by
  unfold Reference.ofVariable
  rw [splitAtMark?_singleton_eq_none.mpr h]

theorem exists_ofVariable_of_isDotted {name : String} (h : IsDotted name) :
    ∃ resource attributeName, Reference.ofVariable name = .getAtt resource attributeName := by
  unfold Reference.ofVariable
  cases hsplit : splitAtMark? ['.'] name.toList with
  | none => exact absurd h (splitAtMark?_singleton_eq_none.mp hsplit)
  | some parts => exact ⟨_, _, rfl⟩

theorem variableParameter_of_not_isDotted {name : String} (h : ¬IsDotted name) :
    variableParameter name = name := by
  rw [variableParameter, ofVariable_of_not_isDotted h]
  rfl

theorem isAlphanum_of_mem_parameterName {resource attributeName : String} {c : Char}
    (hc : c ∈ (Reference.getAtt resource attributeName).parameterName.toList) :
    c.isAlphanum = true := by
  rw [Reference.parameterName, String.toList_ofList] at hc
  exact (List.mem_filter.mp hc).2

theorem isAlphanum_of_mem_variableParameter {name : String} (h : IsDotted name) {c : Char}
    (hc : c ∈ (variableParameter name).toList) : c.isAlphanum = true := by
  obtain ⟨resource, attributeName, hreference⟩ := exists_ofVariable_of_isDotted h
  rw [variableParameter, hreference] at hc
  exact isAlphanum_of_mem_parameterName hc

theorem not_isDotted_variableParameter (name : String) : ¬IsDotted (variableParameter name) := by
  by_cases h : IsDotted name
  · intro hdot
    exact absurd (isAlphanum_of_mem_variableParameter h hdot) (by decide)
  · rwa [variableParameter_of_not_isDotted h]

/-- An attribute's parameter is a variable by itself, unless no character is left for it. -/
theorem holeName?_variableParameter {name : String} (h : IsDotted name) :
    holeName? (variableParameter name).toList =
      if variableParameter name = "" then none else some (variableParameter name) := by
  have halnum : ∀ c ∈ (variableParameter name).toList, c.isAlphanum = true :=
    fun c hc => isAlphanum_of_mem_variableParameter h hc
  have htrim : trim (variableParameter name).toList = (variableParameter name).toList :=
    trim_eq_self fun c hc => isBlank_of_isAlphanum (halnum c hc)
  split
  · next hempty =>
    rw [hempty]
    rfl
  · next hne =>
    refine holeName?_eq_some.mpr ⟨htrim.symm, ?_, fun hhead => ?_⟩
    · rwa [Ne, String.toList_eq_nil_iff]
    · exact absurd (halnum _ (List.mem_of_head? hhead)) (by decide)

/-! ## Holes that become parameters -/

/-- What is inside a hole once the attributes are parameters. -/
def localizeHole (inside : List Char) : List Char :=
  if holeName? inside = some (String.ofList inside) then
    (variableParameter (String.ofList inside)).toList
  else inside

/-- Renames a hole to the parameter of a variable. -/
def renameTo (inside : List Char) (name : String) : List Char :=
  rename name.toList (variableParameter name).toList inside

theorem renameTo_eq_self {inside : List Char} (h : '.' ∉ inside) (name : String) :
    renameTo inside name = inside := by
  unfold renameTo rename
  split
  · next heq =>
    have hname : ¬IsDotted name := by rwa [IsDotted, ← heq]
    rw [variableParameter_of_not_isDotted hname, heq]
  · rfl

/-- A renamed hole is as it was, or made of letters and digits. -/
theorem renameTo_cases (inside : List Char) (name : String) :
    renameTo inside name = inside ∨ ∀ c ∈ renameTo inside name, c.isAlphanum = true := by
  by_cases hname : IsDotted name
  · unfold renameTo rename
    split
    · exact Or.inr fun c hc => isAlphanum_of_mem_variableParameter hname hc
    · exact Or.inl rfl
  · refine Or.inl ?_
    unfold renameTo rename
    rw [variableParameter_of_not_isDotted hname]
    split
    · next heq => exact heq.symm
    · rfl

theorem foldl_renameTo_eq_self {inside : List Char} (h : '.' ∉ inside) (names : List String) :
    names.foldl renameTo inside = inside := by
  induction names with
  | nil => rfl
  | cons name rest ih => rw [List.foldl_cons, renameTo_eq_self h, ih]

/-- Of several variables the one that a hole is renames it, since a parameter's name has no
dot and is none of the attributes. -/
theorem foldl_renameTo (names : List String) (inside : List Char) :
    names.foldl renameTo inside =
      if String.ofList inside ∈ names then (variableParameter (String.ofList inside)).toList
      else inside := by
  induction names with
  | nil => rfl
  | cons name rest ih =>
    rw [List.foldl_cons]
    by_cases heq : String.ofList inside = name
    · have hinside : inside = name.toList := by rw [← heq, String.toList_ofList]
      have hrename : renameTo inside name = (variableParameter name).toList := by
        rw [renameTo, rename, if_pos hinside]
      rw [if_pos (heq ▸ List.mem_cons_self), heq, hrename,
        foldl_renameTo_eq_self (not_isDotted_variableParameter name)]
    · have hne : inside ≠ name.toList := fun h => heq (by rw [h, String.ofList_toList])
      have hkept : renameTo inside name = inside := by rw [renameTo, rename, if_neg hne]
      have hmem : String.ofList inside ∈ name :: rest ↔ String.ofList inside ∈ rest := by
        simp [heq]
      rw [hkept, ih]
      simp only [hmem]

/-- A hole of a text is among the variables of the text if it is one as it is written. -/
theorem ofList_mem_subVariables {text : String} {hole : List Char × List Char}
    (hhole : hole ∈ (ofText text.toList).holes) :
    String.ofList hole.2 ∈ subVariables text ↔ holeName? hole.2 = some (String.ofList hole.2) := by
  rw [mem_subVariables_iff]
  constructor
  · rintro ⟨other, -, hname⟩
    have hself := holeName?_toList hname
    rwa [String.toList_ofList] at hself
  · exact fun h => ⟨hole, hhole, h⟩

theorem foldl_renameTo_subVariables {text : String} {hole : List Char × List Char}
    (hhole : hole ∈ (ofText text.toList).holes) :
    (subVariables text).foldl renameTo hole.2 = localizeHole hole.2 := by
  rw [foldl_renameTo, localizeHole]
  simp only [ofList_mem_subVariables hhole]

/-! ## Texts -/

/-- One round of making parameters of the attributes in a text. -/
def localizeVariable (out : String) (name : String) : String :=
  match Reference.ofVariable name with
  | .getAtt resource attributeName =>
    let parameter := (Reference.getAtt resource attributeName).parameterName
    String.ofList (replaceMark (writtenVariable name) (writtenVariable parameter)
      (out.length + 1) out.toList)
  | .ref _ => out

theorem localizeText_eq (text : String) :
    localizeText text = (subVariables text).foldl localizeVariable text := rfl

theorem mapHoles_eq_self {c : CutText} {f : List Char → List Char}
    (h : ∀ hole ∈ c.holes, f hole.2 = hole.2) : c.mapHoles f = c := by
  obtain ⟨holes, rest⟩ := c
  unfold mapHoles
  congr 1
  conv_rhs => rw [← List.map_id holes]
  exact List.map_congr_left fun hole hhole => Prod.ext rfl (h hole hhole)

theorem localizeVariable_join {name : String} (hname : '\x7d' ∉ name.toList) {c : CutText}
    (hc : IsCut c) (hplain : c.IsPlain) {out : String} (hout : out.toList = c.join) :
    (localizeVariable out name).toList = (c.mapHoles (renameTo · name)).join := by
  by_cases hdotted : IsDotted name
  · obtain ⟨resource, attributeName, hreference⟩ := exists_ofVariable_of_isDotted hdotted
    have hlength : c.holes.length < out.length + 1 := by
      have hholes := length_holes_le c
      rw [← hout, String.length_toList] at hholes
      omega
    have hround : localizeVariable out name = String.ofList
        (replaceMark (written name.toList) (written (variableParameter name).toList)
          (out.length + 1) out.toList) := by
      unfold localizeVariable variableParameter
      rw [hreference]
      rfl
    rw [hround, String.toList_ofList, hout, replaceMark_join hname _ hc hplain hlength]
    rfl
  · have hround : localizeVariable out name = out := by
      unfold localizeVariable
      rw [ofVariable_of_not_isDotted hdotted]
    rw [hround, hout, mapHoles_eq_self fun hole _ => ?_]
    unfold renameTo rename
    rw [variableParameter_of_not_isDotted hdotted]
    split
    · next heq => exact heq.symm
    · rfl

theorem isCut_mapHoles_renameTo {c : CutText} (hc : IsCut c) (name : String) :
    IsCut (c.mapHoles (renameTo · name)) := by
  refine hc.mapHoles fun hole hhole hmem => ?_
  rcases renameTo_cases hole.2 name with hsame | halnum
  · rw [hsame] at hmem
    exact hc.inside hole hhole hmem
  · exact absurd (halnum _ hmem) (by decide)

theorem isPlain_mapHoles_renameTo {c : CutText} (hplain : c.IsPlain) (name : String) :
    (c.mapHoles (renameTo · name)).IsPlain := by
  refine IsPlain.mapHoles fun hole hhole => ?_
  rcases renameTo_cases hole.2 name with hsame | halnum
  · rw [hsame]
    exact hplain hole hhole
  · refine splitAtMark?_eq_none.mpr fun before after heq => ?_
    have hdollar : '$' ∈ renameTo hole.2 name := by
      rw [heq]
      simp [opening]
    exact absurd (halnum _ hdollar) (by decide)

theorem foldl_localizeVariable {names : List String} (hnames : ∀ name ∈ names, '\x7d' ∉ name.toList)
    {c : CutText} (hc : IsCut c) (hplain : c.IsPlain) {out : String} (hout : out.toList = c.join) :
    (names.foldl localizeVariable out).toList =
      (c.mapHoles fun inside => names.foldl renameTo inside).join := by
  induction names generalizing c out with
  | nil => rw [List.foldl_nil, hout, mapHoles_eq_self fun _ _ => rfl]
  | cons name rest ih =>
    obtain ⟨hname, hrest⟩ := List.forall_mem_cons.mp hnames
    rw [List.foldl_cons, ih hrest (isCut_mapHoles_renameTo hc name)
      (isPlain_mapHoles_renameTo hplain name) (localizeVariable_join hname hc hplain hout),
      mapHoles_mapHoles]
    rfl

theorem not_mem_of_mem_subVariables {text name : String} (h : name ∈ subVariables text) :
    '\x7d' ∉ name.toList := by
  obtain ⟨hole, hhole, hname⟩ := mem_subVariables_iff.mp h
  rw [(holeName?_eq_some.mp hname).1, mem_trim (by decide)]
  exact (isCut_ofText _).inside hole hhole

/-- A text whose attributes became parameters has the same holes, each of them made a
parameter. -/
theorem ofText_localizeText {text : String} (hplain : (ofText text.toList).IsPlain) :
    ofText (localizeText text).toList = (ofText text.toList).mapHoles localizeHole := by
  have hcut := isCut_ofText text.toList
  have hsame : (ofText text.toList).mapHoles (fun inside => (subVariables text).foldl renameTo inside)
      = (ofText text.toList).mapHoles localizeHole := by
    unfold mapHoles
    congr 1
    exact List.map_congr_left fun hole hhole =>
      Prod.ext rfl (foldl_renameTo_subVariables hhole)
  have hlocal : IsCut ((ofText text.toList).mapHoles localizeHole) := by
    refine hcut.mapHoles fun hole hhole hmem => ?_
    unfold localizeHole at hmem
    split at hmem
    · by_cases hdotted : IsDotted (String.ofList hole.2)
      · exact absurd (isAlphanum_of_mem_variableParameter hdotted hmem) (by decide)
      · rw [variableParameter_of_not_isDotted hdotted, String.toList_ofList] at hmem
        exact hcut.inside hole hhole hmem
    · exact hcut.inside hole hhole hmem
  rw [localizeText_eq, foldl_localizeVariable (fun name hname => not_mem_of_mem_subVariables hname)
    hcut hplain (join_ofText _).symm, hsame, ofText_join hlocal]

end Keyspace
