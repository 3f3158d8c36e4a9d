import Keyspace.Proofs.Storage.Expressions

/-!
# Conditions that are read as what they are

Placeholders leave out characters of the names they stand for, so two attributes can share one, and
the one entered last is tested in place of both. An expression is read as the condition it was made
of exactly if this does not happen.
-/
namespace Keyspace

namespace Condition

/-! ## What the clauses are read as -/

theorem test?_absent (e : Expression) (attributeName : String) :
    e.test? (absent attributeName).words =
      (e.names.get? (placeholder attributeName)).map (⟨·, .absent⟩) := by
  have hother : Expression.argument? "attribute_exists"
      (call "attribute_not_exists" attributeName) = none := rfl
  unfold words Expression.test?
  dsimp only
  rw [hother, argument?_call]
  rfl

theorem test?_present (e : Expression) (attributeName : String) :
    e.test? (present attributeName).words =
      (e.names.get? (placeholder attributeName)).map (⟨·, .present⟩) := by
  unfold words Expression.test?
  dsimp only
  rw [argument?_call]

theorem test?_version {e : Expression} {attributeName text : String} {number : ℚ}
    (hname : e.names.get? "#version" = some attributeName)
    (hvalue : e.values.get? ":version" = some (.number text)) (hnumber : decimal? text = some number)
    (expected : Int) :
    e.test? (version expected).words = some ⟨attributeName, .number number⟩ := by
  unfold words Expression.test?
  simp [hname, hvalue, hnumber, AttributeValue.asNumber?]

end Condition

namespace Condition

/-- The versions asked for are numbers of 64 bits. -/
def Fits (c : Condition) : Prop := ∀ expected, version expected ∈ c.clauses → fitsInt64 expected = true

/-- The placeholders of a condition stand for one attribute or number each, and no conjunction in
it is empty. -/
structure IsUnambiguous (c : Condition) : Prop where
  complete : all [] ∉ c.clauses
  oneAttribute : ∀ name attributeName other, (name, attributeName) ∈ c.subjects →
    (name, other) ∈ c.subjects → other = attributeName
  oneVersion : ∀ expected other, version expected ∈ c.clauses → version other ∈ c.clauses →
    other = expected

theorem mem_values {c : Condition} {entry : String × AttributeValue} :
    entry ∈ c.values ↔
      ∃ expected, version expected ∈ c.clauses ∧ entry = (":version", .number (toString expected)) := by
  unfold Condition.values
  rw [List.mem_filterMap]
  constructor
  · rintro ⟨clause, hclause, hvalue⟩
    cases clause with
    | version expected =>
      cases hvalue
      exact ⟨expected, hclause, rfl⟩
    | _ => cases hvalue
  · rintro ⟨expected, hclause, rfl⟩
    exact ⟨_, hclause, rfl⟩

theorem decimal?_toString {n : Int} (h : fitsInt64 n = true) : decimal? (toString n) = some (n : ℚ) :=
  decimal?_of_readInt64? (by rw [readInt64?_toString, if_pos h])

/-- A clause whose placeholders stand for one thing each is read as what it says. -/
theorem IsUnambiguous.test?_eq {c : Condition} (h : c.IsUnambiguous) (hfits : c.Fits)
    {clause : Condition} (hclause : clause ∈ c.clauses) {t : Test} (ht : clause.test? = some t) :
    c.expression.test? clause.words = some t := by
  have hname : ∀ name attributeName, clause.subject? = some (name, attributeName) →
      c.expression.names.get? name = some attributeName := by
    intro name attributeName hsubject
    have hmem : (name, attributeName) ∈ c.subjects := List.mem_filterMap.mpr ⟨_, hclause, hsubject⟩
    rw [names_expression]
    exact Dict.get?_ofList_of_agree hmem fun other => h.oneAttribute name attributeName other hmem
  cases clause with
  | absent attributeName =>
    cases ht
    rw [test?_absent, hname _ _ rfl]
    rfl
  | present attributeName =>
    cases ht
    rw [test?_present, hname _ _ rfl]
    rfl
  | version expected =>
    cases ht
    have hvalue : c.expression.values.get? ":version" = some (.number (toString expected)) := by
      rw [values_expression]
      refine Dict.get?_ofList_of_agree (mem_values.mpr ⟨_, hclause, rfl⟩) fun other hother => ?_
      obtain ⟨expected', hclause', heq⟩ := mem_values.mp hother
      cases heq
      rw [h.oneVersion expected expected' hclause hclause']
    exact test?_version (hname _ _ rfl) hvalue (decimal?_toString (hfits _ hclause)) expected
  | all conditions => cases ht

/-! ## What the clauses say -/

theorem storedVersion?_eq_some {current : Option Item} {n : Int} :
    storedVersion? current = some n ↔ ∃ text,
      storedValue? current versionAttribute = some (.number text) ∧ readInt64? text = some n := by
  unfold storedVersion? storedValue?
  cases current with
  | none => simp
  | some item =>
    cases hvalue : item.get? versionAttribute with
    | none => simp [hvalue]
    | some value => cases value <;> simp [hvalue, AttributeValue.asNumber?]

/-- A clause holds in memory where its test does. -/
theorem holds_iff_of_test? {clause : Condition} {t : Test} (ht : clause.test? = some t)
    (hfits : ∀ expected, clause = version expected → fitsInt64 expected = true)
    {current : Option Item} (hplain : PlainVersion current) :
    clause.holds current = true ↔ t.Holds current := by
  cases clause with
  | absent attributeName =>
    cases ht
    cases current <;> simp [holds, Test.Holds, Demand.Admits, storedValue?, Dict.contains]
  | present attributeName =>
    cases ht
    cases current <;> simp [holds, Test.Holds, Demand.Admits, storedValue?, Dict.contains]
  | version expected =>
    cases ht
    unfold holds Test.Holds Demand.Admits
    rw [beq_iff_eq, storedVersion?_eq_some]
    constructor
    · rintro ⟨text, hvalue, hread⟩
      exact ⟨text, hvalue, decimal?_of_readInt64? hread⟩
    · rintro ⟨text, hvalue, hnumber⟩
      exact ⟨text, hvalue, hplain text expected hvalue hnumber (hfits expected rfl)⟩
  | all conditions => cases ht

end Condition

/-! ## Tests that do not follow from others -/

theorem Demand.Implies.admits {d d' : Demand} (h : d.Implies d') {value : Option AttributeValue}
    (hd : d.Admits value) : d'.Admits value := by
  cases h with
  | refl => exact hd
  | present q =>
    obtain ⟨text, hvalue, -⟩ := hd
    exact Option.isSome_iff_exists.mpr ⟨_, hvalue⟩

/-- A demand can be refused by an absent value or null, where all those are met that were met
before and do not imply it. -/
theorem Demand.exists_refused {d : Demand} {value : Option AttributeValue} (hd : d.Admits value) :
    ∃ value', (∀ text, value' ≠ some (.number text)) ∧ ¬d.Admits value' ∧
      ∀ d' : Demand, d'.Admits value → ¬d'.Implies d → d'.Admits value' := by
  cases d with
  | present =>
    refine ⟨none, by simp, by simp [Admits], fun d' hd' hnot => ?_⟩
    cases d' with
    | present => exact absurd (.refl _) hnot
    | absent => rfl
    | number q => exact absurd (.present q) hnot
  | absent =>
    refine ⟨some (.null true), by simp, by simp [Admits], fun d' hd' hnot => ?_⟩
    cases d' with
    | present => rfl
    | absent => exact absurd (.refl _) hnot
    | number q =>
      obtain ⟨text, hvalue, -⟩ := hd'
      cases hvalue.symm.trans hd
  | number q =>
    refine ⟨some (.null true), by simp, by simp [Admits], fun d' hd' hnot => ?_⟩
    obtain ⟨text, hvalue, hnumber⟩ := hd
    cases d' with
    | present => rfl
    | absent => cases hvalue.symm.trans hd'
    | number q' =>
      obtain ⟨text', hvalue', hnumber'⟩ := hd'
      cases hvalue.symm.trans hvalue'
      cases hnumber.symm.trans hnumber'
      exact absurd (.refl _) hnot

theorem get?_filter_ne (item : Item) (attributeName other : String) :
    Dict.get? (item.filter fun entry => entry.1 ≠ attributeName) other =
      if other = attributeName then none else item.get? other := by
  induction item with
  | nil => simp
  | cons entry rest ih =>
    obtain ⟨name, value⟩ := entry
    by_cases hname : name = attributeName
    · rw [List.filter_cons_of_neg (by simpa using hname), ih]
      by_cases hother : other = attributeName
      · simp [hother]
      · have hne : name ≠ other := fun heq => hother (heq ▸ hname)
        simp [hother, Dict.get?, hne]
    · rw [List.filter_cons_of_pos (by simpa using hname), Dict.get?, ih, Dict.get?]
      by_cases hother : name = other
      · have hne : other ≠ attributeName := fun heq => hname (hother.trans heq)
        simp [hother, hne]
      · simp [hother]

/-- One attribute of an item can be given any value, or taken away. -/
theorem exists_item (item : Item) (attributeName : String) (value : Option AttributeValue) :
    ∃ item' : Item, ∀ other, storedValue? (some item') other =
      if other = attributeName then value else storedValue? (some item) other := by
  cases value with
  | some value =>
    exact ⟨item.insert attributeName value, fun other => Dict.get?_insert item attributeName other _⟩
  | none =>
    exact ⟨item.filter fun entry => entry.1 ≠ attributeName, get?_filter_ne item attributeName⟩

/-- A test can fail where all those hold that held before and do not imply it. -/
theorem Test.exists_fails {item : Item} (hplain : PlainVersion (some item)) {t : Test}
    (ht : t.Holds (some item)) :
    ∃ item', PlainVersion (some item') ∧ ¬t.Holds (some item') ∧
      ∀ s : Test, s.Holds (some item) → ¬s.Implies t → s.Holds (some item') := by
  obtain ⟨value, hnumber, hrefused, hkept⟩ := Demand.exists_refused ht
  obtain ⟨item', hitem⟩ := exists_item item t.attributeName value
  refine ⟨item', fun text n hvalue => ?_, ?_, fun s hs hnot => ?_⟩
  · rw [hitem] at hvalue
    split at hvalue
    · exact absurd hvalue (hnumber text)
    · exact hplain text n hvalue
  · unfold Holds
    rwa [hitem, if_pos rfl]
  · unfold Holds at hs ⊢
    rw [hitem]
    split
    · next hsame =>
      rw [hsame] at hs
      exact hkept s.demand hs fun himplies => hnot ⟨hsame, himplies⟩
    · exact hs

/-! ## Reading an expression as its condition -/

namespace Condition

mutual

theorem exists_test?_of_mem_clauses (c : Condition) {clause : Condition}
    (h : clause ∈ c.clauses) : clause = all [] ∨ ∃ t, clause.test? = some t := by
  cases c with
  | all conditions =>
    cases conditions with
    | nil => exact Or.inl (List.mem_singleton.mp h)
    | cons c cs => exact exists_test?_of_mem_clausesOf (c :: cs) h
  | absent attributeName => exact Or.inr ⟨_, by rw [List.mem_singleton.mp h]; rfl⟩
  | present attributeName => exact Or.inr ⟨_, by rw [List.mem_singleton.mp h]; rfl⟩
  | version expected => exact Or.inr ⟨_, by rw [List.mem_singleton.mp h]; rfl⟩

theorem exists_test?_of_mem_clausesOf (cs : List Condition) {clause : Condition}
    (h : clause ∈ clausesOf cs) : clause = all [] ∨ ∃ t, clause.test? = some t := by
  cases cs with
  | nil => cases h
  | cons c cs =>
    rcases List.mem_append.mp h with h | h
    · exact exists_test?_of_mem_clauses c h
    · exact exists_test?_of_mem_clausesOf cs h

end

variable {c : Condition} {current : Option Item}

theorem expression_holds_iff :
    c.expression.Holds current ↔
      ∀ clause ∈ c.clauses, ∃ t, c.expression.test? clause.words = some t ∧ t.Holds current := by
  unfold Expression.Holds
  rw [clausesIn_expression, List.forall_mem_map]

/-- An unambiguous condition is read as what it is. -/
theorem IsUnambiguous.holds_iff (h : c.IsUnambiguous) (hfits : c.Fits)
    (hplain : PlainVersion current) : c.expression.Holds current ↔ c.holds current = true := by
  rw [expression_holds_iff, holds_iff_clauses]
  refine forall₂_congr fun clause hclause => ?_
  rcases exists_test?_of_mem_clauses c hclause with rfl | ⟨t, ht⟩
  · exact absurd hclause h.complete
  · have hread := h.test?_eq hfits hclause ht
    have hsame := holds_iff_of_test? ht
      (fun expected heq => hfits expected (heq ▸ hclause)) hplain
    constructor
    · rintro ⟨t', ht', hholds⟩
      cases hread.symm.trans ht'
      exact hsame.mpr hholds
    · intro hholds
      exact ⟨t, hread, hsame.mp hholds⟩

/-- A placeholder is that of the attribute it was made for, unless it stands for the version. -/
theorem eq_placeholder_of_mem_subjects {name attributeName : String}
    (h : (name, attributeName) ∈ c.subjects) :
    (name = placeholder attributeName ∧
        (absent attributeName ∈ c.clauses ∨ present attributeName ∈ c.clauses)) ∨
      (name = "#version" ∧ attributeName = versionAttribute ∧
        ∃ expected, version expected ∈ c.clauses) := by
  obtain ⟨clause, hclause, hsubject⟩ := List.mem_filterMap.mp h
  cases clause with
  | absent a =>
    cases hsubject
    exact Or.inl ⟨rfl, Or.inl hclause⟩
  | present a =>
    cases hsubject
    exact Or.inl ⟨rfl, Or.inr hclause⟩
  | version expected =>
    cases hsubject
    exact Or.inr ⟨rfl, rfl, expected, hclause⟩
  | all conditions => cases hsubject

/-- If a placeholder is found to stand for an attribute, it was entered for it. -/
theorem mem_subjects_of_names {name attributeName : String}
    (h : c.expression.names.get? name = some attributeName) : (name, attributeName) ∈ c.subjects := by
  rw [names_expression] at h
  exact Dict.mem_of_mem_ofList (Dict.mem_of_get? h)

/-- The attribute that a clause is read to test is one that its placeholder was found to stand
for; only the version's placeholder is compared with a number. -/
theorem exists_name_of_test? {e : Expression} {clause : Condition} {s : Test}
    (h : e.test? clause.words = some s) : ∃ name, e.names.get? name = some s.attributeName ∧
      ∀ q, s.demand = .number q → name = "#version" := by
  cases clause with
  | absent attributeName =>
    rw [test?_absent] at h
    obtain ⟨found, hfound, rfl⟩ := Option.map_eq_some_iff.mp h
    exact ⟨_, hfound, fun q hq => by cases hq⟩
  | present attributeName =>
    rw [test?_present] at h
    obtain ⟨found, hfound, rfl⟩ := Option.map_eq_some_iff.mp h
    exact ⟨_, hfound, fun q hq => by cases hq⟩
  | version expected =>
    unfold words Expression.test? at h
    simp only [String.ofList_toList] at h
    obtain ⟨found, hfound, h⟩ := Option.bind_eq_some_iff.mp h
    obtain ⟨value, -, h⟩ := Option.bind_eq_some_iff.mp h
    obtain ⟨text, -, h⟩ := Option.bind_eq_some_iff.mp h
    obtain ⟨q, -, h⟩ := Option.bind_eq_some_iff.mp h
    cases h
    exact ⟨_, hfound, fun _ _ => rfl⟩
  | all conditions => cases h

/-- The expression holds just if the condition does, of any item and of none, as long as a version
that is stored is a plain one. -/
def IsReadRight (c : Condition) : Prop := ∀ current, PlainVersion current →
  (c.expression.Holds current ↔ c.holds current = true)

/-- Where an expression is read right, each test of the condition follows from one of the tests
that the expression is read as. -/
theorem IsReadRight.exists_implies (h : c.IsReadRight) (hfits : c.Fits) {item : Item}
    (hplain : PlainVersion (some item)) (hholds : c.holds (some item) = true)
    {clause : Condition} (hclause : clause ∈ c.clauses) {t : Test} (ht : clause.test? = some t) :
    ∃ other ∈ c.clauses, ∃ s, c.expression.test? other.words = some s ∧ s.Implies t := by
  have hsame : ∀ {current}, PlainVersion current →
      (clause.holds current = true ↔ t.Holds current) :=
    holds_iff_of_test? ht fun expected heq => hfits expected (heq ▸ hclause)
  have hread := expression_holds_iff.mp ((h _ hplain).mpr hholds)
  by_contra hnone
  -- Otherwise an item could fail this test alone, and the expression would hold of it still.
  obtain ⟨item', hplain', hfails, hkept⟩ := Test.exists_fails hplain
    ((hsame hplain).mp ((holds_iff_clauses c _).mp hholds clause hclause))
  have hholds' : c.expression.Holds (some item') := by
    refine expression_holds_iff.mpr fun other hother => ?_
    obtain ⟨s, hs, hsholds⟩ := hread other hother
    exact ⟨s, hs, hkept s hsholds fun himplies => hnone ⟨other, hother, s, hs, himplies⟩⟩
  have hclause' := (holds_iff_clauses c _).mp ((h _ hplain').mp hholds') clause hclause
  exact hfails ((hsame hplain').mp hclause')

/-- Where an expression is read right, a placeholder is found for each attribute tested, and that
of the version for one compared with a number. -/
theorem IsReadRight.exists_name (h : c.IsReadRight) (hfits : c.Fits) {item : Item}
    (hplain : PlainVersion (some item)) (hholds : c.holds (some item) = true)
    {clause : Condition} (hclause : clause ∈ c.clauses) {t : Test} (ht : clause.test? = some t) :
    ∃ name, c.expression.names.get? name = some t.attributeName ∧
      ∀ q, t.demand = .number q → name = "#version" := by
  obtain ⟨other, -, s, hs, hname, hdemand⟩ := h.exists_implies hfits hplain hholds hclause ht
  obtain ⟨name, hfound, hnumber⟩ := exists_name_of_test? hs
  refine ⟨name, hname ▸ hfound, fun q hq => ?_⟩
  rw [hq] at hdemand
  cases hs : s.demand with
  | number q' => exact hnumber q' hs
  | _ =>
    rw [hs] at hdemand
    cases hdemand

/-- No item has a version and lacks it. -/
theorem absent_version_not_mem {item : Item} (hplain : PlainVersion (some item))
    (hholds : c.holds (some item) = true) {expected : Int} (hclause : version expected ∈ c.clauses) :
    absent versionAttribute ∉ c.clauses := by
  intro habsent
  have hclauses := (holds_iff_clauses c _).mp hholds
  obtain ⟨text, hvalue, -⟩ := storedVersion?_eq_some.mp (beq_iff_eq.mp (hclauses _ hclause))
  have hnone := (holds_iff_of_test? rfl (fun _ heq => by cases heq) hplain).mp (hclauses _ habsent)
  cases hvalue.symm.trans hnone

/-- Where an expression is read right, a placeholder stands for each attribute it was made for. -/
theorem IsReadRight.names_get? (h : c.IsReadRight) (hfits : c.Fits) {item : Item}
    (hplain : PlainVersion (some item)) (hholds : c.holds (some item) = true)
    (hversion : present versionAttribute ∉ c.clauses) {name attributeName : String}
    (hmem : (name, attributeName) ∈ c.subjects) :
    c.expression.names.get? name = some attributeName := by
  rcases eq_placeholder_of_mem_subjects hmem with ⟨rfl, hclause⟩ | ⟨rfl, rfl, expected, hclause⟩
  · -- Some placeholder stands for the attribute: its own, or else that of the version.
    obtain ⟨name', hname'⟩ : ∃ name', c.expression.names.get? name' = some attributeName := by
      rcases hclause with hclause | hclause
      · exact (h.exists_name hfits hplain hholds hclause rfl).imp fun _ => And.left
      · exact (h.exists_name hfits hplain hholds hclause rfl).imp fun _ => And.left
    rcases eq_placeholder_of_mem_subjects (mem_subjects_of_names hname') with
      ⟨rfl, -⟩ | ⟨-, rfl, expected, hexpected⟩
    · exact hname'
    · have hnot := absent_version_not_mem hplain hholds hexpected
      exact absurd hclause (not_or.mpr ⟨hnot, hversion⟩)
  · obtain ⟨name', hname', hnumber⟩ := h.exists_name hfits hplain hholds hclause rfl
    rwa [hnumber _ rfl] at hname'

/-- An expression is read right if and only if the condition is unambiguous. This is said of
conditions that some item meets and that ask for the version by its number only. -/
theorem isReadRight_iff_isUnambiguous (hfits : c.Fits)
    (hmet : ∃ item, PlainVersion (some item) ∧ c.holds (some item) = true)
    (hversion : present versionAttribute ∉ c.clauses) : c.IsReadRight ↔ c.IsUnambiguous := by
  refine ⟨fun h => ?_, fun h current hplain => h.holds_iff hfits hplain⟩
  obtain ⟨item, hplain, hholds⟩ := hmet
  have hclauses := (holds_iff_clauses c _).mp hholds
  constructor
  case complete =>
    intro hempty
    obtain ⟨t, ht, -⟩ := expression_holds_iff.mp ((h _ hplain).mpr hholds) _ hempty
    cases ht
  case oneAttribute =>
    intro name attributeName other hmem hmem'
    have hname := h.names_get? hfits hplain hholds hversion hmem
    have hname' := h.names_get? hfits hplain hholds hversion hmem'
    exact Option.some.inj (hname'.symm.trans hname)
  case oneVersion =>
    intro expected other hmem hmem'
    have hstored := beq_iff_eq.mp (hclauses _ hmem)
    have hstored' := beq_iff_eq.mp (hclauses _ hmem')
    exact Option.some.inj (hstored'.symm.trans hstored)

/-- Presence and version are read right together, as the attribute's placeholder is its own. -/
theorem present_at_version_isReadRight : (all [present "pk", version 4]).IsReadRight := by
  have hstored : storedValue? (some [("pk", .text "A#1"), ("_v", .number "4")]) versionAttribute =
      some (.number "4") := rfl
  have hplain : PlainVersion (some [("pk", .text "A#1"), ("_v", .number "4")]) := by
    intro text n hvalue hnumber _
    cases hstored.symm.trans hvalue
    have hfour : decimal? "4" = some ((4 : Int) : ℚ) := decimal?_of_readInt64? (by decide)
    have hn : ((4 : Int) : ℚ) = (n : ℚ) := Option.some.inj (hfour.symm.trans hnumber)
    rw [← Rat.intCast_inj.mp hn]
    decide
  refine (isReadRight_iff_isUnambiguous (fun expected hmem => ?_) ⟨_, hplain, by decide⟩ ?_).mpr
    ⟨?_, ?_, ?_⟩
  · simp [clauses, clausesOf] at hmem
    subst hmem
    decide
  · simp [clauses, clausesOf, versionAttribute]
  · simp [clauses, clausesOf]
  · have hsubjects : (all [present "pk", version 4]).subjects =
        [("#pk", "pk"), ("#version", versionAttribute)] := by decide
    rw [hsubjects]
    intro name attributeName other hmem hmem'
    grind
  · simp [clauses, clausesOf]

/-- The placeholder of an attribute named `version` is that of the version itself, which is then
tested for its presence in the attribute's place. -/
theorem version_tested_for_attribute :
    (all [present "version", version 1]).expression.Holds (some [("_v", .number "1")]) ∧
      (all [present "version", version 1]).holds (some [("_v", .number "1")]) = false := by
  have hname : (all [present "version", version 1]).expression.names.get? "#version" =
      some versionAttribute := by decide
  have hvalue : (all [present "version", version 1]).expression.values.get? ":version" =
      some (.number "1") := rfl
  have hone : decimal? "1" = some ((1 : Int) : ℚ) := decimal?_of_readInt64? (by decide)
  refine ⟨expression_holds_iff.mpr fun clause hclause => ?_, by decide⟩
  have hcases : clause = present "version" ∨ clause = version 1 := by
    simpa [clauses, clausesOf] using hclause
  rcases hcases with rfl | rfl
  · refine ⟨⟨versionAttribute, .present⟩, ?_, rfl⟩
    have hplaceholder : placeholder "version" = "#version" := by decide
    rw [test?_present, hplaceholder, hname]
    rfl
  · exact ⟨_, test?_version hname hvalue hone 1, "1", rfl, hone⟩

end Condition

end Keyspace
