import Keyspace.Proofs.Dict
import Keyspace.Proofs.Number.IntegerText
import Keyspace.Proofs.Text.Marks
import Keyspace.Storage.Condition
import Mathlib.Algebra.Field.Rat
import Mathlib.Data.List.TakeDrop

/-!
# Expressions as the service reads them

The service reads a condition from the text of its expression: tests joined by `AND`, in which
placeholders stand for attributes and numbers. Cut at its blanks and its `AND`s, the text of a
condition is made of the words of its clauses, in order, and each clause has entered its
placeholders.
-/
namespace Keyspace

/-! ## Numbers -/

/-- The value of a decimal number: digits with an optional sign, point and exponent. -/
def decimal? (text : String) : Option ℚ :=
  let (negative, body) := readSign text.toList
  let (whole, afterWhole) := spanDigits body
  let (fraction, afterFraction) := match afterWhole with
    | '.' :: rest => spanDigits rest
    | rest => ([], rest)
  if whole = [] ∧ fraction = [] then none
  else (Double.readExponent? afterFraction).map fun (e : Int) =>
    (if negative then -1 else 1) * (digitsValue (whole ++ fraction) : ℚ) *
      (10 : ℚ) ^ (e - fraction.length)

/-- The text of a whole number of 64 bits is a decimal number of the same value. -/
theorem decimal?_of_readInt64? {text : String} {n : Int} (h : readInt64? text = some n) :
    decimal? text = some (n : ℚ) := by
  unfold readInt64? at h
  unfold decimal?
  generalize readSign text.toList = signed at h ⊢
  obtain ⟨negative, digits⟩ := signed
  obtain ⟨m, hm, h⟩ := Option.bind_eq_some_iff.mp h
  obtain ⟨hne, hdigits, hm⟩ := readNat?_eq_some.mp hm
  have hvalue := (Option.ite_none_right_eq_some.mp h).2
  dsimp only at hvalue ⊢
  rw [spanDigits_of_forall hdigits, ← Option.some.inj hvalue]
  cases negative <;> simp [Double.readExponent?, hne, digitsValue_eq, hm]

/-! ## What the service tests -/

/-- What a test asks of an attribute. -/
inductive Demand where
  | present
  | absent
  /-- It is a number of this value. -/
  | number (value : ℚ)
deriving DecidableEq

/-- A test of an attribute of the stored item. -/
structure Test where
  attributeName : String
  demand : Demand
deriving DecidableEq

/-- An attribute of the item stored, if there is one. -/
def storedValue? (current : Option Item) (attributeName : String) : Option AttributeValue :=
  current.bind (·.get? attributeName)

/-- A version that is a whole number of 64 bits is written as one, without point or exponent. -/
def PlainVersion (current : Option Item) : Prop := ∀ text (n : Int),
  storedValue? current versionAttribute = some (.number text) → decimal? text = some (n : ℚ) →
    fitsInt64 n = true → readInt64? text = some n

namespace Demand

def Admits : Demand → Option AttributeValue → Prop
  | present, value => value.isSome = true
  | absent, value => value = none
  | number q, value => ∃ text, value = some (.number text) ∧ decimal? text = some q

/-- What the one admits, the other does. -/
inductive Implies : Demand → Demand → Prop
  | refl (d : Demand) : Implies d d
  | present (q : ℚ) : Implies (number q) present

end Demand

namespace Test

def Holds (t : Test) (current : Option Item) : Prop :=
  t.demand.Admits (storedValue? current t.attributeName)

/-- Where the one test holds, the other does. -/
def Implies (t t' : Test) : Prop :=
  t.attributeName = t'.attributeName ∧ t.demand.Implies t'.demand

end Test

namespace Expression

/-- The clauses of the text, each cut into words. -/
def clausesIn (text : List Char) : List (List (List Char)) :=
  (text.splitOn ' ').splitOn "AND".toList

/-- The argument of a function's call. -/
def argument? (function : String) (word : List Char) : Option String :=
  (Text.dropBeginning? (function.toList ++ ['(']) word).bind fun rest =>
    if rest.getLast? = some ')' then some (String.ofList rest.dropLast) else none

/-- The test that a clause stands for, its placeholders looked up. -/
def test? (e : Expression) : List (List Char) → Option Test
  | [call] => match argument? "attribute_exists" call with
    | some name => (e.names.get? name).map (⟨·, .present⟩)
    | none => ((argument? "attribute_not_exists" call).bind e.names.get?).map (⟨·, .absent⟩)
  | [name, ['='], value] => do
    let attributeName ← e.names.get? (String.ofList name)
    let number ← (← e.values.get? (String.ofList value)).asNumber?
    some ⟨attributeName, .number (← decimal? number)⟩
  | _ => none

/-- Every clause is a test that holds. -/
def Holds (e : Expression) (current : Option Item) : Prop :=
  ∀ clause ∈ clausesIn e.text.toList, ∃ t, e.test? clause = some t ∧ t.Holds current

end Expression

/-! ## The clauses of a condition -/

namespace Condition

mutual

/-- The conditions that a condition is made of; an empty conjunction counts as one. -/
def clauses : Condition → List Condition
  | all conditions => if conditions.isEmpty then [all []] else clausesOf conditions
  | c => [c]

def clausesOf : List Condition → List Condition
  | [] => []
  | c :: cs => clauses c ++ clausesOf cs

end

mutual

theorem holds_iff_clauses (c : Condition) (current : Option Item) :
    c.holds current = true ↔ ∀ clause ∈ c.clauses, clause.holds current = true := by
  cases c with
  | all conditions =>
    cases conditions with
    | nil => simp [clauses]
    | cons c cs => simpa [clauses, holds] using holdAll_iff_clauses (c :: cs) current
  | absent attributeName => simp [clauses]
  | present attributeName => simp [clauses]
  | version expected => simp [clauses]

theorem holdAll_iff_clauses (cs : List Condition) (current : Option Item) :
    holdAll cs current = true ↔ ∀ clause ∈ clausesOf cs, clause.holds current = true := by
  cases cs with
  | nil => simp [clausesOf, holdAll]
  | cons c cs =>
    simp [clausesOf, holdAll, holds_iff_clauses c current, holdAll_iff_clauses cs current,
      or_imp, forall_and]

end

/-- The call of a function with a placeholder. -/
def call (function attributeName : String) : List Char :=
  function.toList ++ '(' :: ((placeholder attributeName).toList ++ [')'])

/-- A clause in words. -/
def words : Condition → List (List Char)
  | absent attributeName => [call "attribute_not_exists" attributeName]
  | present attributeName => [call "attribute_exists" attributeName]
  | version _ => ["#version".toList, ['='], ":version".toList]
  | all _ => [[]]

/-- A clause's placeholder for an attribute, and the attribute. -/
def subject? : Condition → Option (String × String)
  | absent attributeName => some (placeholder attributeName, attributeName)
  | present attributeName => some (placeholder attributeName, attributeName)
  | version _ => some ("#version", versionAttribute)
  | all _ => none

def value? : Condition → Option (String × AttributeValue)
  | version expected => some (":version", .number (toString expected))
  | _ => none

/-- The placeholders of a condition, each with an attribute that it was made for. -/
def subjects (c : Condition) : List (String × String) := c.clauses.filterMap subject?

/-- The placeholders of its numbers, each with a number that it was made for. -/
def values (c : Condition) : List (String × AttributeValue) := c.clauses.filterMap value?

/-- The test that a clause stands for. -/
def test? : Condition → Option Test
  | absent attributeName => some ⟨attributeName, .absent⟩
  | present attributeName => some ⟨attributeName, .present⟩
  | version expected => some ⟨versionAttribute, .number expected⟩
  | all _ => none

/-! ## The text of a condition, cut into clauses -/

theorem clausesIn_append (before after : List Char) :
    Expression.clausesIn (before ++ " AND ".toList ++ after) =
      Expression.clausesIn before ++ Expression.clausesIn after := by
  have hand : " AND ".toList = ' ' :: ("AND".toList ++ ' ' :: []) := by decide
  have hword : "AND".toList.splitOn ' ' = ["AND".toList] := List.splitOn_eq_singleton (by decide)
  unfold Expression.clausesIn
  rw [hand, List.append_assoc, List.cons_append, List.splitOn_append_cons_self, List.append_assoc,
    List.cons_append, List.nil_append, List.splitOn_append_cons_self, hword, List.singleton_append,
    List.splitOn_append_cons_self]

theorem not_mem_placeholder {attributeName : String} {c : Char} (h : c.isAlphanum = false)
    (hmark : c ≠ '#') : c ∉ (placeholder attributeName).toList := by
  unfold placeholder
  rw [String.toList_append, String.toList_ofList, List.mem_append]
  rintro (hc | hc)
  · exact hmark (List.mem_singleton.mp hc)
  · rw [String.toList_ofList] at hc
    have halphanum := (List.mem_filter.mp hc).2
    rw [h] at halphanum
    cases halphanum

/-- A text without blanks is one clause of one word. -/
theorem clausesIn_word {word : List Char} (h : ' ' ∉ word) (hand : word ≠ "AND".toList) :
    Expression.clausesIn word = [[word]] := by
  unfold Expression.clausesIn
  rw [List.splitOn_eq_singleton h, List.splitOn_eq_singleton]
  simpa using hand.symm

theorem clausesIn_call {function : String} (h : ' ' ∉ function.toList) (attributeName : String) :
    Expression.clausesIn (call function attributeName) = [[call function attributeName]] := by
  refine clausesIn_word ?_ fun heq => ?_
  · have hblank : ' ' ∉ (placeholder attributeName).toList :=
      not_mem_placeholder (by decide) (by decide)
    simp [call, h, hblank]
  · have hparen : '(' ∈ "AND".toList := by
      rw [← heq]
      simp [call]
    exact absurd hparen (by decide)

theorem argument?_call (function attributeName : String) :
    Expression.argument? function (call function attributeName) =
      some (placeholder attributeName) := by
  have hdrop : Text.dropBeginning? (function.toList ++ ['(']) (call function attributeName) =
      some ((placeholder attributeName).toList ++ [')']) :=
    Text.dropBeginning?_eq_some.mpr (by simp [call])
  simp [Expression.argument?, hdrop]

theorem clausesIn_intercalate {texts : List String} (h : texts ≠ []) :
    Expression.clausesIn (" AND ".intercalate texts).toList =
      texts.flatMap fun text => Expression.clausesIn text.toList := by
  rw [String.toList_intercalate]
  induction texts with
  | nil => exact absurd rfl h
  | cons text rest ih =>
    cases rest with
    | nil => simp
    | cons next rest =>
      rw [List.map_cons, List.map_cons, List.intercalate_cons_cons, clausesIn_append,
        ← List.map_cons, ih (List.cons_ne_nil _ _)]
      simp only [List.flatMap_cons]

theorem clausesOf_eq_flatMap (cs : List Condition) : clausesOf cs = cs.flatMap clauses := by
  induction cs with
  | nil => rfl
  | cons c cs ih => rw [clausesOf, ih, List.flatMap_cons]

theorem toList_call {opening function : String}
    (hopening : opening.toList = function.toList ++ ['(']) (attributeName : String) :
    (opening ++ placeholder attributeName ++ ")").toList = call function attributeName := by
  have hclose : ")".toList = [')'] := by decide
  unfold call
  simp only [String.toList_append, hopening, hclose, List.append_assoc, List.cons_append,
    List.nil_append]

mutual

/-- The text of a condition is made of the words of its clauses. -/
theorem clausesIn_expressionFrom (c : Condition) (names : Dict String)
    (values : Dict AttributeValue) :
    Expression.clausesIn (c.expressionFrom names values).text.toList = c.clauses.map words := by
  cases c with
  | absent attributeName =>
    have hblank : ' ' ∉ "attribute_not_exists".toList := by decide
    have htext : ((absent attributeName).expressionFrom names values).text.toList =
        call "attribute_not_exists" attributeName := toList_call (by decide) attributeName
    rw [htext, clausesIn_call hblank]
    rfl
  | present attributeName =>
    have hblank : ' ' ∉ "attribute_exists".toList := by decide
    have htext : ((present attributeName).expressionFrom names values).text.toList =
        call "attribute_exists" attributeName := toList_call (by decide) attributeName
    rw [htext, clausesIn_call hblank]
    rfl
  | version expected =>
    have htext : Expression.clausesIn "#version = :version".toList =
        [["#version".toList, ['='], ":version".toList]] := by decide +kernel
    exact htext
  | all conditions =>
    cases conditions with
    | nil => rfl
    | cons c cs =>
      have htexts := clausesIn_expressionsFrom (c :: cs) names values
      have hne : (expressionsFrom (c :: cs) names values).1 ≠ [] := List.cons_ne_nil _ _
      show Expression.clausesIn
        (" AND ".intercalate (expressionsFrom (c :: cs) names values).1).toList = _
      rw [clausesIn_intercalate hne, List.flatMap_def, htexts, ← List.flatMap_def]
      show _ = (clausesOf (c :: cs)).map words
      rw [clausesOf_eq_flatMap, List.map_flatMap]

theorem clausesIn_expressionsFrom (cs : List Condition) (names : Dict String)
    (values : Dict AttributeValue) :
    (expressionsFrom cs names values).1.map (fun text => Expression.clausesIn text.toList) =
      cs.map fun c => c.clauses.map words := by
  cases cs with
  | nil => rfl
  | cons c cs =>
    have hfirst := clausesIn_expressionFrom c names values
    have hrest := clausesIn_expressionsFrom cs (c.expressionFrom names values).names
      (c.expressionFrom names values).values
    rw [List.map_cons, ← hfirst, ← hrest]
    rfl

end

mutual

/-- Every clause enters its placeholder and its number, in order. -/
theorem entries_expressionFrom (c : Condition) (names : Dict String)
    (values : Dict AttributeValue) :
    (c.expressionFrom names values).names = names.union c.subjects ∧
      (c.expressionFrom names values).values = values.union c.values := by
  cases c with
  | all conditions =>
    cases conditions with
    | nil => exact ⟨rfl, rfl⟩
    | cons c cs => exact entries_expressionsFrom (c :: cs) names values
  | _ => exact ⟨rfl, rfl⟩

theorem entries_expressionsFrom (cs : List Condition) (names : Dict String)
    (values : Dict AttributeValue) :
    (expressionsFrom cs names values).2.1 = names.union ((clausesOf cs).filterMap subject?) ∧
      (expressionsFrom cs names values).2.2 = values.union ((clausesOf cs).filterMap value?) := by
  cases cs with
  | nil => exact ⟨rfl, rfl⟩
  | cons c cs =>
    obtain ⟨hnames, hvalues⟩ := entries_expressionFrom c names values
    obtain ⟨hrest, hrest'⟩ := entries_expressionsFrom cs (c.expressionFrom names values).names
      (c.expressionFrom names values).values
    unfold subjects at hnames
    unfold Condition.values at hvalues
    rw [clausesOf, List.filterMap_append, List.filterMap_append, Dict.union_append,
      Dict.union_append, ← hnames, ← hvalues]
    exact ⟨hrest, hrest'⟩

end

theorem clausesIn_expression (c : Condition) :
    Expression.clausesIn c.expression.text.toList = c.clauses.map words :=
  clausesIn_expressionFrom c .empty .empty

theorem names_expression (c : Condition) : c.expression.names = Dict.ofList c.subjects :=
  (entries_expressionFrom c .empty .empty).1

theorem values_expression (c : Condition) : c.expression.values = Dict.ofList c.values :=
  (entries_expressionFrom c .empty .empty).2

end Condition

end Keyspace
