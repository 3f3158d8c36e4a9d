import Keyspace.Proofs.Json.TextObjects

/-!
# Unpacking once

A process may try to unpack its variables again and again, and a try may look up other texts than
the one before. The environment changes in one call at most: the first that finds both variables
absent, blank or with an object of texts. A failed call leaves no trace, also if only its second
variable is bad, and after the one that succeeds no variable is looked up any more.
-/
namespace Keyspace.Environment

/-! ## The text of a variable -/

/-- The texts that the text of a process variable stands for: none if it is absent or blank, and
else those of a JSON object whose members are texts. -/
inductive StandsFor : Option String → Dict String → Prop
  | absent : StandsFor none []
  | blank {text : String} (h : ∀ c ∈ text.toList, Text.isBlank c = true) : StandsFor (some text) []
  | object {text : String} {texts : Dict String} (hmark : ∃ c ∈ text.toList, Text.isBlank c = false)
      (h : Json.parse text = .ok (.obj (texts.mapValues .str))) : StandsFor (some text) texts

/-- A variable is read with success if and only if its text stands for texts. -/
theorem readTexts_eq_ok_iff {name : String} {raw : Option String} {texts : Dict String} :
    readTexts name raw = .ok texts ↔ StandsFor raw texts := by
  cases raw with
  | none =>
    constructor
    · intro h
      cases h
      exact .absent
    · intro h
      cases h
      rfl
  | some text =>
    by_cases hblank : ∀ c ∈ text.toList, Text.isBlank c = true
    · rw [readTexts_of_blank hblank]
      constructor
      · intro h
        cases h
        exact .blank hblank
      · intro h
        cases h with
        | blank => rfl
        | object hmark =>
          obtain ⟨c, hmem, hc⟩ := hmark
          exact absurd (hblank c hmem) (by simp [hc])
    · have hmark : ∃ c ∈ text.toList, Text.isBlank c = false := by
        simpa using hblank
      rw [readTexts_of_mark hmark]
      constructor
      · exact .object hmark
      · intro h
        cases h with
        | blank h => exact absurd h hblank
        | object _ h => exact h

/-- The texts of a variable are a dictionary. -/
theorem StandsFor.ordered {raw : Option String} {texts : Dict String} (h : StandsFor raw texts) :
    Dict.Ordered texts := by
  cases h with
  | absent | blank => exact Dict.ordered_nil
  | object _ h =>
    have hordered := Json.ordered_of_parse h
    rwa [Dict.ordered_iff_keys, Dict.keys_mapValues, ← Dict.ordered_iff_keys] at hordered

/-! ## One call -/

/-- How one call looks up a process variable. -/
abbrev Lookup := String → Option String

/-- Both process variables stand for texts. -/
def Lookup.IsReadable (lookup : Lookup) : Prop :=
  ∃ tables values, StandsFor (lookup tableNamesVariable) tables ∧
    StandsFor (lookup variablesVariable) values

variable {m : Type → Type} [Monad m] {e : Environment} {lookup : Lookup}

/-- The texts of a variable, by a lookup that may have effects of its own. -/
def readVariable (lookup : String → m (Option String)) (name : String) :
    ExceptT Error (StateT Environment m) (Dict String) := do
  readTexts name (← lookup name)

/-- Unpacks an environment in place. -/
def unpackInPlace (lookup : String → m (Option String)) :
    ExceptT Error (StateT Environment m) Bool := do
  if (← get).isUnpacked then return false
  let tables ← readVariable lookup tableNamesVariable
  let values ← readVariable lookup variablesVariable
  modify fun e => { e with tables := Dict.union e.tables tables }
  modify fun e => { e with values := Dict.union e.values values }
  modify fun e => { e with isUnpacked := true }
  return true

/-- A lookup that keeps a record of the variables it is asked for. -/
def Lookup.recorded (lookup : Lookup) (name : String) : StateM (List String) (Option String) :=
  fun consulted => (lookup name, consulted ++ [name])

/-- What a call gives, the environment it leaves and the variables it looked up. -/
structure Call where
  result : Result Bool
  environment : Environment
  consulted : List String

def call (e : Environment) (lookup : Lookup) : Call :=
  let ((result, left), consulted) := (unpackInPlace lookup.recorded).run.run e []
  ⟨result, left, consulted⟩

theorem readVariable_recorded (name : String) {α : Type}
    (next : Dict String → ExceptT Error (StateT Environment (StateM (List String))) α)
    (e : Environment) (consulted : List String) :
    (readVariable lookup.recorded name >>= next).run.run e consulted =
      match readTexts name (lookup name) with
      | .error err => ((.error err, e), consulted ++ [name])
      | .ok texts => (next texts).run.run e (consulted ++ [name]) := by
  show ((liftM (readTexts name (lookup name)) :
    ExceptT Error (StateT Environment (StateM (List String))) _) >>= next).run.run e
      (consulted ++ [name]) = _
  cases readTexts name (lookup name) <;> rfl

theorem call_of_unpacked (h : e.isUnpacked = true) (lookup : Lookup) :
    e.call lookup = ⟨.ok false, e, []⟩ := by
  obtain ⟨tables, values, isUnpacked⟩ := e
  cases h
  rfl

theorem call_eq (h : e.isUnpacked = false) (lookup : Lookup) :
    e.call lookup =
      match readTexts tableNamesVariable (lookup tableNamesVariable) with
      | .error err => ⟨.error err, e, [tableNamesVariable]⟩
      | .ok tables =>
        match readTexts variablesVariable (lookup variablesVariable) with
        | .error err => ⟨.error err, e, [tableNamesVariable, variablesVariable]⟩
        | .ok values => ⟨.ok true, ⟨Dict.union e.tables tables, Dict.union e.values values, true⟩,
          [tableNamesVariable, variablesVariable]⟩ := by
  obtain ⟨tables, values, isUnpacked⟩ := e
  cases h
  unfold call unpackInPlace
  show (let ((result, left), consulted) :=
      (readVariable lookup.recorded tableNamesVariable >>= _).run.run _ []
    (⟨result, left, consulted⟩ : Call)) = _
  rw [readVariable_recorded]
  cases readTexts tableNamesVariable (lookup tableNamesVariable) with
  | error err => rfl
  | ok tables =>
    dsimp only
    rw [readVariable_recorded]
    cases readTexts variablesVariable (lookup variablesVariable) with
    | error err => rfl
    | ok values => rfl

/-- A call that finds both variables readable adds their texts. -/
theorem call_of_standsFor (h : e.isUnpacked = false) {tables values : Dict String}
    (htables : StandsFor (lookup tableNamesVariable) tables)
    (hvalues : StandsFor (lookup variablesVariable) values) :
    e.call lookup = ⟨.ok true, ⟨Dict.union e.tables tables, Dict.union e.values values, true⟩,
      [tableNamesVariable, variablesVariable]⟩ := by
  rw [call_eq h, readTexts_eq_ok_iff.mpr htables]
  dsimp only
  rw [readTexts_eq_ok_iff.mpr hvalues]

/-- A call that finds one of them bad fails and leaves the environment alone. -/
theorem call_of_not_isReadable (h : e.isUnpacked = false) (hbad : ¬lookup.IsReadable) :
    (∃ err, (e.call lookup).result = .error err) ∧ (e.call lookup).environment = e := by
  rw [call_eq h]
  cases htables : readTexts tableNamesVariable (lookup tableNamesVariable) with
  | error err => exact ⟨⟨err, rfl⟩, rfl⟩
  | ok tables =>
    dsimp only
    cases hvalues : readTexts variablesVariable (lookup variablesVariable) with
    | error err => exact ⟨⟨err, rfl⟩, rfl⟩
    | ok values =>
      exact absurd ⟨tables, values, readTexts_eq_ok_iff.mp htables,
        readTexts_eq_ok_iff.mp hvalues⟩ hbad

/-- Unpacking in place does what unpacking does, and leaves the environment alone if it fails. -/
theorem unpack_eq_call (e : Environment) (lookup : Lookup) :
    e.unpack lookup =
      (e.call lookup).result.map fun changed => (changed, (e.call lookup).environment) := by
  cases h : e.isUnpacked with
  | true =>
    rw [call_of_unpacked h, unpack, if_pos h]
    rfl
  | false =>
    rw [call_eq h, unpack, if_neg (Bool.eq_false_iff.mp h)]
    cases readTexts tableNamesVariable (lookup tableNamesVariable) with
    | error err => rfl
    | ok tables =>
      cases readTexts variablesVariable (lookup variablesVariable) with
      | error err => rfl
      | ok values => rfl

/-! ## A run of calls -/

/-- The environment that a run of calls leaves. -/
def afterCalls (e : Environment) (lookups : List Lookup) : Environment :=
  lookups.foldl (fun e lookup => (e.call lookup).environment) e

/-- A new environment with variables preset. -/
def preset (entries : List (String × String)) : Environment :=
  entries.foldl (fun e entry => e.withVariable entry.1 entry.2) new

theorem isUnpacked_preset (entries : List (String × String)) :
    (preset entries).isUnpacked = false := by
  unfold preset
  induction entries using List.reverseRecOn with
  | nil => rfl
  | append_singleton entries entry ih =>
    rw [List.foldl_append]
    exact ih

variable {lookups : List Lookup}

theorem afterCalls_of_unpacked (h : e.isUnpacked = true) (lookups : List Lookup) :
    e.afterCalls lookups = e := by
  unfold afterCalls
  induction lookups with
  | nil => rfl
  | cons lookup lookups ih => rwa [List.foldl_cons, call_of_unpacked h]

/-- Calls that fail leave the environment alone. -/
theorem afterCalls_of_not_isReadable (h : e.isUnpacked = false)
    (hbad : ∀ lookup ∈ lookups, ¬lookup.IsReadable) : e.afterCalls lookups = e := by
  unfold afterCalls
  induction lookups with
  | nil => rfl
  | cons lookup lookups ih =>
    rw [List.forall_mem_cons] at hbad
    rw [List.foldl_cons, (call_of_not_isReadable h hbad.1).2]
    exact ih hbad.2

/-- After a call that found both variables readable, the environment is unpacked. -/
theorem isUnpacked_afterCalls (h : ∃ lookup ∈ lookups, lookup.IsReadable) (e : Environment) :
    (e.afterCalls lookups).isUnpacked = true := by
  obtain ⟨lookup, hmem, tables, values, htables, hvalues⟩ := h
  obtain ⟨before, after, rfl⟩ := List.append_of_mem hmem
  have hcalled : ((e.afterCalls before).call lookup).environment.isUnpacked = true := by
    cases hbefore : (e.afterCalls before).isUnpacked with
    | true => rwa [call_of_unpacked hbefore]
    | false => rw [call_of_standsFor hbefore htables hvalues]
  have hafter : e.afterCalls (before ++ lookup :: after) =
      ((e.afterCalls before).call lookup).environment.afterCalls after := by
    unfold afterCalls
    rw [List.foldl_append, List.foldl_cons]
  rwa [hafter, afterCalls_of_unpacked hcalled]

/-- What a call does that follows `earlier` ones. -/
structure UnpacksOnce (start : Environment) (earlier : List Lookup) (lookup : Lookup) : Prop where
  /-- Only the first call changes the environment that finds both variables readable. -/
  changes : ((start.afterCalls earlier).call lookup).environment ≠ start.afterCalls earlier ↔
    lookup.IsReadable ∧ ∀ before ∈ earlier, ¬before.IsReadable
  refuses : (∀ before ∈ earlier, ¬before.IsReadable) → ¬lookup.IsReadable →
    (∃ err, ((start.afterCalls earlier).call lookup).result = .error err) ∧
      ((start.afterCalls earlier).call lookup).environment = start
  unpacks : (∀ before ∈ earlier, ¬before.IsReadable) → ∀ tables values,
    StandsFor (lookup tableNamesVariable) tables → StandsFor (lookup variablesVariable) values →
    ((start.afterCalls earlier).call lookup).result = .ok true ∧
      ((start.afterCalls earlier).call lookup).environment.isUnpacked = true ∧
      ∀ name,
        ((start.afterCalls earlier).call lookup).environment.tables.get? name =
          (tables.get? name).or (start.tables.get? name) ∧
        ((start.afterCalls earlier).call lookup).environment.values.get? name =
          (values.get? name).or (start.values.get? name)
  ignores : (∃ before ∈ earlier, before.IsReadable) →
    (start.afterCalls earlier).call lookup = ⟨.ok false, start.afterCalls earlier, []⟩
  agrees : (start.afterCalls earlier).unpack lookup =
    ((start.afterCalls earlier).call lookup).result.map fun changed =>
      (changed, ((start.afterCalls earlier).call lookup).environment)

/-- From a new environment, whatever is preset, the calls of a process unpack it once. -/
theorem unpacksOnce (entries : List (String × String)) (earlier : List Lookup) (lookup : Lookup) :
    UnpacksOnce (preset entries) earlier lookup := by
  have hstart := isUnpacked_preset entries
  have hunread (hearlier : ∀ before ∈ earlier, ¬before.IsReadable) :=
    afterCalls_of_not_isReadable hstart hearlier
  have hread (hearlier : ∃ before ∈ earlier, before.IsReadable) :=
    call_of_unpacked (isUnpacked_afterCalls hearlier (preset entries)) lookup
  refine ⟨⟨fun hchanged => ?_, ?_⟩, ?_, ?_, hread, unpack_eq_call _ _⟩
  · have hearlier : ∀ before ∈ earlier, ¬before.IsReadable := by
      intro before hmem hbefore
      rw [hread ⟨before, hmem, hbefore⟩] at hchanged
      exact hchanged rfl
    refine ⟨?_, hearlier⟩
    by_contra hbad
    rw [hunread hearlier] at hchanged
    exact hchanged (call_of_not_isReadable hstart hbad).2
  · rintro ⟨⟨tables, values, htables, hvalues⟩, hearlier⟩ hsame
    rw [hunread hearlier, call_of_standsFor hstart htables hvalues] at hsame
    rw [← hsame] at hstart
    cases hstart
  · intro hearlier hbad
    rw [hunread hearlier]
    exact call_of_not_isReadable hstart hbad
  · intro hearlier tables values htables hvalues
    rw [hunread hearlier, call_of_standsFor hstart htables hvalues]
    exact ⟨rfl, rfl, fun name =>
      ⟨htables.ordered.get?_union _ name, hvalues.ordered.get?_union _ name⟩⟩

/-- The second variable is bad in the first call, and the third call comes too late. -/
example :
    ((preset [("REGION", "north"), ("STAGE", "test")]).afterCalls
      [fun name => some (if name = variablesVariable then "[]" else "\x7b\"A\": \"a\"\x7d"),
       fun name => if name = variablesVariable then some "\x7b\"STAGE\": \"live\"\x7d" else none,
       fun _ => some "\x7b\"STAGE\": \"late\"\x7d"]) =
      ⟨[], [("REGION", "north"), ("STAGE", "live")], true⟩ := by decide +kernel

end Keyspace.Environment
