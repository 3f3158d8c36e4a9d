import Keyspace.Proofs.Code.Names

/-!
# Names that do not clash

The builder keeps the names of types apart, and the columns of fields; the generator changes the
case of names before it writes them. So names clash in code where they agree once the case of their
place is taken on, and escaping a keyword never makes two names clash. Every record carries `meta`:
a field of this name gets another identifier, but keeps its name in JSON.
-/
namespace Keyspace

/-- Values that differ in what a second one determines differ in that one too. -/
theorem nodup_map_of_determines {α β γ : Type} {f : α → β} {g : α → γ} {xs : List α}
    (h : ∀ x ∈ xs, ∀ y ∈ xs, g x = g y → f x = f y) (hnodup : (xs.map f).Nodup) :
    (xs.map g).Nodup := by
  rw [List.Nodup, List.pairwise_map] at hnodup ⊢
  exact hnodup.imp_of_mem fun hx hy hne heq => hne (h _ hx _ hy heq)

namespace Code

open Result Text Blueprint

/-- No two names clash in the code. -/
structure Names.Apart (names : Names) : Prop where
  types : names.types.Nodup
  variants : ∀ variants ∈ names.variants, variants.Nodup
  fields : ∀ fields ∈ names.fields, fields.Nodup
  serials : ∀ serials ∈ names.serials, serials.Nodup
  methods : names.methods.Nodup

/-- Fields get different identifiers if and only if their names differ in snake case. -/
theorem fields_nodup_iff {m : Model} (h : ∀ f ∈ m.fields, Schema.IsReadableName f.name) :
    (m.fields.map (fun f => escaped (snakeCase f.name)) ++ ["meta"]).Nodup ↔
      (m.fields.map fun f => snakeCase f.name).Nodup := by
  have hmeta : List.Disjoint (m.fields.map fun f => escaped (snakeCase f.name)) ["meta"] := by
    intro text htext hmeta
    obtain ⟨f, hf, rfl⟩ := List.mem_map.mp htext
    exact escaped_ne_meta (h f hf) (List.mem_singleton.mp hmeta)
  constructor
  · intro hnodup
    refine nodup_map_of_determines (fun f _ f' _ heq => ?_) (List.nodup_append.mp hnodup).1
    rw [heq]
  · intro hnodup
    refine List.Nodup.append ?_ (List.nodup_singleton _) hmeta
    exact nodup_map_of_determines
      (fun f hf f' hf' => (escaped_inj (h f hf) (h f' hf')).mp) hnodup

theorem serials_nodup {m : Model} (hnodup : (m.fields.map fun f => snakeCase f.name).Nodup)
    (hmeta : ∀ f ∈ m.fields, f.name ≠ "meta") : (m.fields.map (·.name) ++ ["meta"]).Nodup := by
  refine List.Nodup.append ?_ (List.nodup_singleton _) fun name hname hlast => ?_
  · exact nodup_map_of_determines (fun f _ f' _ heq => congrArg snakeCase heq) hnodup
  · obtain ⟨f, hf, rfl⟩ := List.mem_map.mp hname
    exact hmeta f hf (List.mem_singleton.mp hlast)

theorem nodup_methodVerbs (m : Model) : (methodVerbs m).Nodup := by
  unfold methodVerbs
  cases m.isLedger <;> decide

/-- Structs of different names have different methods. -/
theorem methods_nodup {models : List Model} (h : ∀ m ∈ models, Schema.IsReadableName m.name)
    (hnodup : (models.map fun m => pascalCase m.name).Nodup) :
    (models.map fun m => (methodVerbs m).map (methodName · m.name)).flatten.Nodup := by
  rw [List.nodup_flatten]
  constructor
  · intro methods hmethods
    obtain ⟨m, hm, rfl⟩ := List.mem_map.mp hmethods
    exact (nodup_methodVerbs m).map_on fun verb hverb verb' hverb' heq =>
      (methodName_inj (mem_storeVerbs hverb) (mem_storeVerbs hverb') heq).1
  · rw [List.Nodup, List.pairwise_map] at hnodup
    rw [List.pairwise_map]
    refine hnodup.imp_of_mem fun {m m'} hm hm' hne text htext htext' => hne ?_
    obtain ⟨verb, hverb, rfl⟩ := List.mem_map.mp htext
    obtain ⟨verb', hverb', heq⟩ := List.mem_map.mp htext'
    exact pascalCase_congr_snakeCase (isAscii_of_isReadableName (h m hm))
      (isAscii_of_isReadableName (h m' hm'))
      (methodName_inj (mem_storeVerbs hverb') (mem_storeVerbs hverb) heq).2.symm

end Code

namespace Blueprint

open Code Text

/-- The names of a blueprint differ once they take on the case of their places, and no field is
called `meta`. -/
structure KeepsNamesApart (b : Blueprint) : Prop where
  types : ((b.enums.map (·.name) ++ b.models.map (·.name)).map pascalCase).Nodup
  values : ∀ e ∈ b.enums, (e.values.map pascalCase).Nodup
  fields : ∀ m ∈ b.models, (m.fields.map fun f => snakeCase f.name).Nodup
  noMeta : ∀ m ∈ b.models, ∀ f ∈ m.fields, f.name ≠ "meta"

/-- No two names clash in the code of an accepted schema if and only if its names differ in the case
of their places and no field is called `meta`. -/
theorem namesApart_iff {config : Config} {text : String} {b : Blueprint} {paths : PathReader}
    {code : RuntimeCode} (hb : ofSchema config text = .ok b)
    (hcode : Code.ofBlueprint b paths = .ok code) :
    (∃ names, namesOf b code = .ok names ∧ names.Apart) ↔ b.KeepsNamesApart := by
  have hsettled := ofSchema_namesSettled hb
  constructor
  · rintro ⟨names, hnames, hapart⟩
    rw [namesOf_eq hb hcode] at hnames
    cases hnames
    constructor
    case types => exact hapart.types
    case values => exact fun e he => hapart.variants _ (List.mem_map_of_mem he)
    case fields =>
      exact fun m hm => (fields_nodup_iff (hsettled.fields m hm)).mp
        (hapart.fields _ (List.mem_map_of_mem hm))
    case noMeta =>
      intro m hm f hf heq
      have hserials : (m.fields.map (·.name) ++ ["meta"]).Nodup :=
        hapart.serials _ (List.mem_map_of_mem hm)
      exact List.disjoint_of_nodup_append hserials (heq ▸ List.mem_map_of_mem hf)
        (List.mem_singleton_self _)
  · intro h
    refine ⟨casedNames b code, namesOf_eq hb hcode, ?_⟩
    constructor
    case types => exact h.types
    case variants => exact List.forall_mem_map.mpr h.values
    case fields =>
      exact List.forall_mem_map.mpr fun m hm =>
        (fields_nodup_iff (hsettled.fields m hm)).mpr (h.fields m hm)
    case serials =>
      exact List.forall_mem_map.mpr fun m hm => serials_nodup (h.fields m hm) (h.noMeta m hm)
    case methods =>
      refine methods_nodup hsettled.models ?_
      have htypes := h.types
      rw [List.map_append, List.map_map, List.map_map] at htypes
      exact (List.nodup_append.mp htypes).2.1

namespace TicketExample

theorem exists_code {field : String}
    (hschema : ofSchema .default (schema field) = .ok (blueprint field))
    (hnames : (blueprint field).IsNameable)
    (haccepted : ¬(blueprint field).IsRefused functionPath?) :
    ∃ code, Code.ofBlueprint (blueprint field) functionPath? = .ok code := by
  refine exists_ofBlueprint hschema hnames haccepted fun h hh => ?_
  have hname : h.name = "notifyOwner" := congrArg ChangeHandler.name (List.mem_singleton.mp hh)
  rw [hname]
  decide

end TicketExample

open TicketExample in
theorem tickets_keep_names_apart :
    ofSchema .default (schema "owner") = .ok (blueprint "owner") ∧
      ∃ code, Code.ofBlueprint (blueprint "owner") functionPath? = .ok code ∧
        ∃ names, namesOf (blueprint "owner") code = .ok names ∧ names.Apart := by
  have hschema : ofSchema .default (schema "owner") = .ok (blueprint "owner") := by decide +kernel
  obtain ⟨code, hcode⟩ := exists_code hschema
    ⟨by decide, by decide, by decide, by decide⟩ (by decide)
  refine ⟨hschema, code, hcode, (namesApart_iff hschema hcode).mpr ?_⟩
  constructor <;> decide

open TicketExample in
/-- A field called `meta` is renamed in the struct and named back in JSON, where every record has
another field of this name. -/
theorem field_called_meta_clashes :
    ofSchema .default (schema "meta") = .ok (blueprint "meta") ∧
      ∃ code, Code.ofBlueprint (blueprint "meta") functionPath? = .ok code ∧
        ∃ names, namesOf (blueprint "meta") code = .ok names ∧
          ["id", "type", "meta", "meta"] ∈ names.serials ∧ ¬names.Apart := by
  have hschema : ofSchema .default (schema "meta") = .ok (blueprint "meta") := by decide +kernel
  obtain ⟨code, hcode⟩ := exists_code hschema
    ⟨by decide, by decide, by decide, by decide⟩ (by decide)
  have hserials : ["id", "type", "meta", "meta"] ∈ (casedNames (blueprint "meta") code).serials :=
    List.mem_singleton_self _
  refine ⟨hschema, code, hcode, _, namesOf_eq hschema hcode, hserials, fun hapart => ?_⟩
  exact absurd (hapart.serials _ hserials) (by decide)

end Blueprint

end Keyspace
