import Keyspace.Proofs.Code.Names

/-!
# Legal names

An accepted schema need not have names that make identifiers. Names of types, fields and values may
begin with a digit after their underscores, a field may be called `super`, and a handler may be
called anything. Where none of this is the case the generator never faults, and all names in its
code are legal. A keyword for the module of a handler passes the generator unnoticed.
-/
namespace Keyspace

namespace Code

open Text Blueprint

theorem isLegal_pascalCase {name : String} (h : NamesType name) (hself : pascalCase name ≠ "Self") :
    IsLegal (pascalCase name) :=
  Or.inl ⟨h, fun hkeyword => hself (pascalCase_mem_keywords_iff.mp hkeyword)⟩

/-- All names in the code of an accepted schema are legal, except those of handler modules. -/
theorem isLegal_casedNames_iff {config : Config} {text : String} {b : Blueprint}
    {paths : PathReader} {code : RuntimeCode} (hb : ofSchema config text = .ok b)
    (hcode : Code.ofBlueprint b paths = .ok code) :
    (∀ name ∈ (casedNames b code).all, IsLegal name) ↔
      ∀ h ∈ b.handlers, IsLegal (handlerModuleName h.name) := by
  have hsettled := ofSchema_namesSettled hb
  obtain ⟨hnames, haccepted, hhandlers, hmodules⟩ := of_ofBlueprint_eq_ok hb hcode
  obtain ⟨henums, hmodels⟩ := (isNameable_iff hsettled).mp hnames
  have hdeclared {name : String} (hname : name ∈ b.declared) (htype : NamesType name) :
      IsLegal (pascalCase name) :=
    isLegal_pascalCase htype fun heq => haccepted (Or.inl ⟨name, hname, heq⟩)
  have henum {e : EnumType} (he : e ∈ b.enums) {name : String} (hname : name ∈ e.name :: e.values) :
      name ∈ b.declared := List.mem_append_left _ (List.mem_flatMap.mpr ⟨e, he, hname⟩)
  have htypes : ∀ name ∈ (casedNames b code).types, IsLegal name := by
    intro text htext
    obtain ⟨name, hname, rfl⟩ := List.mem_map.mp htext
    rcases List.mem_append.mp hname with hname | hname
    · obtain ⟨e, he, rfl⟩ := List.mem_map.mp hname
      exact hdeclared (henum he List.mem_cons_self) (henums e he).1
    · obtain ⟨m, hm, rfl⟩ := List.mem_map.mp hname
      exact hdeclared (List.mem_append_right _ (List.mem_map_of_mem hm)) (hmodels m hm).type
  have hvariants : ∀ name ∈ (casedNames b code).variants.flatten, IsLegal name := by
    intro text htext
    obtain ⟨variants, hmem, htext⟩ := List.mem_flatten.mp htext
    obtain ⟨e, he, rfl⟩ := List.mem_map.mp hmem
    obtain ⟨value, hvalue, rfl⟩ := List.mem_map.mp htext
    exact hdeclared (henum he (List.mem_cons_of_mem _ hvalue)) ((henums e he).2 value hvalue)
  have hfields : ∀ name ∈ (casedNames b code).fields.flatten, IsLegal name := by
    intro text htext
    obtain ⟨fields, hmem, htext⟩ := List.mem_flatten.mp htext
    obtain ⟨m, hm, rfl⟩ := List.mem_map.mp hmem
    rcases List.mem_append.mp htext with htext | hmeta
    · obtain ⟨f, hf, rfl⟩ := List.mem_map.mp htext
      exact isLegal_escaped (hsettled.fields m hm f hf) ((hmodels m hm).fields f hf)
    · rw [List.mem_singleton.mp hmeta]
      decide
  have hmethods : ∀ name ∈ (casedNames b code).methods, IsLegal name := by
    intro text htext
    obtain ⟨methods, hmem, htext⟩ := List.mem_flatten.mp htext
    obtain ⟨m, hm, rfl⟩ := List.mem_map.mp hmem
    obtain ⟨verb, hverb, rfl⟩ := List.mem_map.mp htext
    exact Or.inl (isLegal_methodName (mem_storeVerbs hverb) (hsettled.models m hm))
  have hstructs : ∀ name ∈ (casedNames b code).handlers, IsLegal name := by
    intro text htext
    obtain ⟨h, hh, rfl⟩ := List.mem_map.mp htext
    exact isLegal_pascalCase (hhandlers h hh).1 (hhandlers h hh).2
  unfold Names.all
  simp only [List.forall_mem_append]
  constructor
  · intro hall h hh
    exact hall.2 _ ((hmodules _).mpr ⟨h, hh, rfl⟩)
  · intro hall
    have hmodule : ∀ name ∈ (casedNames b code).modules, IsLegal name := by
      intro name hname
      obtain ⟨h, hh, rfl⟩ := (hmodules name).mp hname
      exact hall h hh
    exact ⟨⟨⟨⟨⟨htypes, hvariants⟩, hfields⟩, hmethods⟩, hstructs⟩, hmodule⟩

end Code

namespace Blueprint

open Code Result Text

/-- Generation gives code or an error but no fault, and all names in the code are legal. -/
def WritesLegalNames (b : Blueprint) (paths : PathReader) : Prop :=
  ¬Faults (Code.ofBlueprint b paths) ∧ ∀ code, Code.ofBlueprint b paths = .ok code →
    ∃ names, namesOf b code = .ok names ∧ ∀ name ∈ names.all, IsLegal name

/-- The names of a blueprint can be written: those it declares begin with letters, and so do those
of the handlers it reaches; unless generation ends with an error, the module of every handler has a
legal name. -/
structure HasLegalNames (b : Blueprint) (paths : PathReader) : Prop extends IsNameable b where
  handlers : b.IsRefused paths ∨ ∀ h ∈ b.reached, NamesType h.name
  modules : b.IsRefused paths ∨ (∃ h ∈ b.handlers, isSelf h = true) ∨
    ∀ h ∈ b.handlers, IsLegal (handlerModuleName h.name)

/-- Generation from an accepted schema ends without a fault and with legal names alone if and only
if the names of the schema can be written. -/
theorem writesLegalNames_iff {config : Config} {text : String} {b : Blueprint}
    (hb : ofSchema config text = .ok b) (paths : PathReader) :
    b.WritesLegalNames paths ↔ b.HasLegalNames paths := by
  have hfaults : Faults (Code.ofBlueprint b paths) ↔ _ := ofBlueprint_faults_iff hb
  constructor
  · rintro ⟨hgiven, hlegal⟩
    rw [hfaults, not_not] at hgiven
    obtain ⟨hnames, hhandlers⟩ := hgiven
    refine ⟨hnames, hhandlers, ?_⟩
    by_contra hnot
    rw [not_or, not_or] at hnot
    obtain ⟨haccepted, hapart, hmodules⟩ := hnot
    have hreached : b.reached = b.handlers := by
      refine List.takeWhile_eq_self_iff.mpr fun h hh => ?_
      rw [Bool.not_eq_true', Bool.eq_false_iff]
      exact fun hstop => hapart ⟨h, hh, hstop⟩
    have hall : ∀ h ∈ b.handlers, NamesType h.name ∧ handlerStructName h.name ≠ "Self" := by
      refine fun h hh => ⟨hhandlers.resolve_left haccepted h (hreached ▸ hh), fun heq => ?_⟩
      exact hapart ⟨h, hh, decide_eq_true heq⟩
    obtain ⟨code, hcode⟩ := exists_ofBlueprint hb hnames haccepted hall
    obtain ⟨names, hnamed, hlegal⟩ := hlegal code hcode
    rw [namesOf_eq hb hcode] at hnamed
    cases hnamed
    exact hmodules ((isLegal_casedNames_iff hb hcode).mp hlegal)
  · rintro ⟨hnames, hhandlers, hmodules⟩
    refine ⟨by rw [hfaults, not_not]; exact ⟨hnames, hhandlers⟩, fun code hcode => ?_⟩
    obtain ⟨-, haccepted, hall, -⟩ := of_ofBlueprint_eq_ok hb hcode
    refine ⟨casedNames b code, namesOf_eq hb hcode, (isLegal_casedNames_iff hb hcode).mpr ?_⟩
    refine (hmodules.resolve_left haccepted).resolve_left ?_
    rintro ⟨h, hh, hstop⟩
    exact (hall h hh).2 (of_decide_eq_true hstop)

open TicketExample in
theorem tickets_have_legal_names : ofSchema .default (schema "owner") = .ok (blueprint "owner") ∧
    (blueprint "owner").WritesLegalNames functionPath? := by
  have hschema : ofSchema .default (schema "owner") = .ok (blueprint "owner") := by decide +kernel
  have hnameable : (blueprint "owner").IsNameable :=
    ⟨by decide, by decide, by decide, by decide⟩
  refine ⟨hschema, (writesLegalNames_iff hschema _).mpr ⟨hnameable, Or.inr ?_, Or.inr (Or.inr ?_)⟩⟩
  · decide
  · decide

open TicketExample in
/-- The keyword `super` is to be escaped as a raw identifier, which it cannot be. -/
theorem field_called_super_faults : ofSchema .default (schema "super") = .ok (blueprint "super") ∧
    Faults (Code.ofBlueprint (blueprint "super") functionPath?) ∧
    ¬(blueprint "super").WritesLegalNames functionPath? := by
  have hfault : Faults (Code.ofBlueprint (blueprint "super") functionPath?) :=
    ⟨"`super` is no raw identifier", by decide +kernel⟩
  exact ⟨by decide +kernel, hfault, fun h => h.1 hfault⟩

end Blueprint

end Keyspace
