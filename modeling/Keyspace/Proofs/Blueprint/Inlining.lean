import Keyspace.Proofs.Blueprint.Accepted
import Keyspace.Proofs.Blueprint.Declarations
import Keyspace.Proofs.Schema.FieldDirectives

/-!
# Inlining the directives of interfaces

What the fields of an object type inherit from its interfaces can be written out at the fields.
The builder goes through the fields twice, for their columns and for the time to live, and it
finds the same directives each time, so the blueprint is the same.
-/
namespace Keyspace.Blueprint

open Schema Directive DirectiveUse Result

/-- What is written at the field of a name in an interface. -/
def inheritedUses (interfaces : Dict TypeDeclaration) (field interface : String) :
    List DirectiveUse :=
  match (interfaces.get? interface).bind fun type => type.fields.find? (·.name = field) with
  | none => []
  | some inherited => inherited.directives

/-- The places where directives of a field are written: the field, then each interface. -/
def directiveSources (interfaces : Dict TypeDeclaration) (type : TypeDeclaration)
    (f : FieldDeclaration) : List (List DirectiveUse) :=
  f.directives :: type.interfaces.map (inheritedUses interfaces f.name)

/-- A field that carries what it inherits too. -/
def inlinedField (interfaces : Dict TypeDeclaration) (type : TypeDeclaration)
    (f : FieldDeclaration) : FieldDeclaration where
  name := f.name
  type := f.type
  directives :=
    (type.interfaces.map (inheritedUses interfaces f.name)).foldl addMissing f.directives

def inlinedType (interfaces : Dict TypeDeclaration) (type : TypeDeclaration) : TypeDeclaration :=
  { type with fields := type.fields.map (inlinedField interfaces type) }

/-- The document in which every field of an object type carries what it inherits. -/
def inlined (document : Document) : Document :=
  document.map fun
    | .object type => .object (inlinedType (interfacesOf document) type)
    | d => d

/-! ## The directives of a field -/

section Fields

variable {ds : Declarations} {type : TypeDeclaration} {f : FieldDeclaration}
  {effective : List Directive}

theorem inheritFrom_eq_ok {field interface : String} {directives out : List Directive}
    (h : inheritFrom ds field directives interface = .ok out) :
    ∃ more, AreFieldDirectives more (inheritedUses ds.interfaces field interface) ∧
      ∀ own, inheritFrom ds field own interface = .ok (withMissing own more) := by
  unfold inheritFrom at h
  unfold inheritFrom inheritedUses
  cases hfound : (ds.interfaces.get? interface).bind
      fun type => type.fields.find? (·.name = field) with
  | none => exact ⟨[], ⟨.nil, by simp, by simp⟩, fun own => rfl⟩
  | some inherited =>
    rw [hfound] at h
    obtain ⟨more, hmore, -⟩ := bind_eq_ok.mp h
    exact ⟨more, readAll_field hmore, fun own => bind_eq_ok.mpr ⟨more, hmore, rfl⟩⟩

/-- Interface by interface, a field gets the directives that inlining writes out at it. -/
theorem inheritAll_eq_ok {field : String} {interfaces : List String} {directives : List Directive}
    {uses : List DirectiveUse} (hown : AreFieldDirectives directives uses)
    (h : interfaces.foldlM (inheritFrom ds field) directives = .ok effective) :
    AreFieldDirectives effective
      ((interfaces.map (inheritedUses ds.interfaces field)).foldl addMissing uses) := by
  induction interfaces generalizing directives uses with
  | nil =>
    cases pure_eq_ok.mp h
    exact hown
  | cons interface interfaces ih =>
    rw [List.foldlM_cons, bind_eq_ok] at h
    obtain ⟨out, hout, h⟩ := h
    obtain ⟨more, hmore, hinherit⟩ := inheritFrom_eq_ok hout
    cases (hinherit directives).symm.trans hout
    exact ih (hown.withMissing hmore) h

theorem fieldDirectives_eq_ok (h : fieldDirectives ds type f = .ok effective) :
    AreFieldDirectives effective (inlinedField ds.interfaces type f).directives := by
  obtain ⟨own, hown, h⟩ := bind_eq_ok.mp h
  exact inheritAll_eq_ok (readAll_field hown) h

/-- Once they are written out at a field, its directives are read there, and the interfaces have
nothing to add. -/
theorem fieldDirectives_inlined (h : fieldDirectives ds type f = .ok effective) :
    fieldDirectives ds (inlinedType ds.interfaces type) (inlinedField ds.interfaces type f) =
      .ok (effective.map (relocated s!"{type.name}.{f.name}")) := by
  have heffective := fieldDirectives_eq_ok h
  obtain ⟨own, -, h⟩ := bind_eq_ok.mp h
  refine bind_eq_ok.mpr ⟨_, heffective.readAll_eq _, ?_⟩
  have hnothing : ∀ interface ∈ type.interfaces, inheritFrom ds f.name
      (effective.map (relocated s!"{type.name}.{f.name}")) interface =
        .ok (effective.map (relocated s!"{type.name}.{f.name}")) := by
    intro interface hinterface
    obtain ⟨before, after, hstep⟩ := foldlM_visits h hinterface
    obtain ⟨more, hmore, hinherit⟩ := inheritFrom_eq_ok hstep
    rw [hinherit, withMissing_of_known fun d hd => ?_]
    have hdeclared : declares (inheritedUses ds.interfaces f.name interface) d.kind = true := by
      rw [hmore.declares_eq]
      exact List.any_eq_true.mpr ⟨d, hd, decide_eq_true rfl⟩
    have hknown : declares (inlinedField ds.interfaces type f).directives d.kind = true := by
      rw [inlinedField, declares_foldl, Bool.or_eq_true, List.any_eq_true]
      exact Or.inr ⟨_, List.mem_map_of_mem hinterface, hdeclared⟩
    rw [heffective.declares_eq] at hknown
    rw [List.any_map]
    exact hknown
  exact foldlM_fixed hnothing

end Fields

/-! ## Computations that go on to succeed -/

/-- A computation that gives what another one gives wherever that succeeds. -/
def ExtendsTo {α : Type} (x x' : Result α) : Prop := ∀ a, x = .ok a → x' = .ok a

namespace ExtendsTo

variable {α β γ : Type} {x x' : Result α} {f f' : α → Result β}

theorem refl (x : Result α) : ExtendsTo x x := fun _ h => h

theorem throw (e : Error) (x' : Result α) : ExtendsTo (throw e) x' :=
  fun _ h => absurd h throw_ne_ok

theorem throw_bind (e : Error) (f : α → Result β) (y : Result β) :
    ExtendsTo (MonadExcept.throw e >>= f) y := by
  intro b hb
  obtain ⟨a, ha, -⟩ := bind_eq_ok.mp hb
  exact absurd ha throw_ne_ok

theorem bind_of (h : ∀ a, x = .ok a → ∃ a', x' = .ok a' ∧ ExtendsTo (f a) (f' a')) :
    ExtendsTo (x >>= f) (x' >>= f') := by
  intro b hb
  obtain ⟨a, ha, hfa⟩ := bind_eq_ok.mp hb
  obtain ⟨a', ha', hextends⟩ := h a ha
  exact bind_eq_ok.mpr ⟨a', ha', hextends b hfa⟩

theorem bind (hx : ExtendsTo x x') (hf : ∀ a, ExtendsTo (f a) (f' a)) :
    ExtendsTo (x >>= f) (x' >>= f') :=
  bind_of fun a ha => ⟨a, hx a ha, hf a⟩

theorem map {g : α → β} (hx : ExtendsTo x x') : ExtendsTo (g <$> x) (g <$> x') := by
  intro b hb
  obtain ⟨a, ha, rfl⟩ := map_eq_ok.mp hb
  exact map_eq_ok.mpr ⟨a, hx a ha, rfl⟩

/-- A check that fails may do so with another error. -/
theorem check {c : Prop} [Decidable c] {e e' : Error} {f f' : PUnit → Result β}
    (h : ExtendsTo (f ⟨⟩) (f' ⟨⟩)) :
    ExtendsTo (if c then MonadExcept.throw e >>= f else f ⟨⟩)
      (if c then MonadExcept.throw e' >>= f' else f' ⟨⟩) := by
  intro b hb
  obtain ⟨hpassed, hb⟩ := check_eq_ok.mp hb
  exact check_eq_ok.mpr ⟨hpassed, h b hb⟩

theorem foldlM {step : β → α → Result β} {step' : β → γ → Result β} {change : α → γ} {xs : List α}
    {acc : β} (h : ∀ acc x, ExtendsTo (step acc x) (step' acc (change x))) :
    ExtendsTo (xs.foldlM step acc) ((xs.map change).foldlM step' acc) :=
  fun _ => foldlM_map_eq_ok fun acc x => h acc x

theorem mapM {step : α → Result β} {step' : γ → Result β} {change : α → γ} {xs : List α}
    (h : ∀ x, ExtendsTo (step x) (step' (change x))) :
    ExtendsTo (xs.mapM step) ((xs.map change).mapM step') := by
  intro ys hys
  rw [mapM_eq_ok] at hys ⊢
  exact List.forall₂_map_left_iff.mpr (hys.imp fun x y => h x y)

end ExtendsTo

/-! ## The models of a document -/

/-- The declarations of the document in which all is inlined. -/
def inlinedDeclarations (ds : Declarations) : Declarations :=
  { ds with objects := ds.objects.mapValues (inlinedType ds.interfaces) }

section Builder

variable {ds : Declarations} {type : TypeDeclaration}

theorem contains_mapValues {α β : Type} (change : α → β) (d : Dict α) (key : String) :
    (d.mapValues change).contains key = d.contains key := by
  rw [Dict.contains, Dict.get?_mapValues, Option.isSome_map, Dict.contains]

theorem fieldKind_inlined : (inlinedDeclarations ds).fieldKind = ds.fieldKind := by
  funext location typeName
  unfold Declarations.fieldKind inlinedDeclarations
  dsimp only
  rw [contains_mapValues]

theorem computeFunction?_relocated (location : String) (directives : List Directive) :
    ExtendsTo (computeFunction? directives)
      (computeFunction? (directives.map (relocated location))) := by
  unfold computeFunction?
  rw [find?_relocated]
  cases directives.find? (·.kind = .computed) with
  | none => exact .refl _
  | some d =>
    exact .bind (fun _ => requiredString_relocated location "function" d) fun text =>
      .check (.refl _)

theorem buildField_inlined (owners : Dict String) (f : FieldDeclaration) :
    ExtendsTo (buildField ds type owners f)
      (buildField (inlinedDeclarations ds) (inlinedType ds.interfaces type) owners
        (inlinedField ds.interfaces type f)) := by
  unfold buildField
  refine .bind_of fun effective heffective => ⟨_, fieldDirectives_inlined heffective, ?_⟩
  rw [fieldKind_inlined]
  refine .bind (.refl _) fun kind => ?_
  dsimp only
  rw [find?_relocated]
  cases effective.find? (·.kind = .column) with
  | none =>
    exact .bind (.refl _) fun column => .bind (.refl _) fun claimed =>
      .bind (computeFunction?_relocated _ _) fun computed => .refl _
  | some d =>
    exact .bind (fun _ => requiredString_relocated _ "name" d) fun column =>
      .bind (.refl _) fun claimed =>
        .bind (computeFunction?_relocated _ _) fun computed => .refl _

theorem buildFields_inlined : ExtendsTo (buildFields ds type)
    (buildFields (inlinedDeclarations ds) (inlinedType ds.interfaces type)) := by
  have hdeclared : (inlinedType ds.interfaces type).fields.filter
      (fun f => !systemFields.contains f.name) =
        (type.fields.filter fun f => !systemFields.contains f.name).map
          (inlinedField ds.interfaces type) := by
    rw [inlinedType, List.filter_map]
    rfl
  unfold buildFields
  rw [hdeclared]
  refine .bind (.foldlM fun ⟨owners, fields⟩ f => ?_) fun built => .refl _
  exact .bind (buildField_inlined owners f) fun claimed => .refl _

theorem addTtl_inlined (fields : List Field) (ttl : Option TimeToLive) (f : FieldDeclaration) :
    ExtendsTo (addTtl ds type fields ttl f)
      (addTtl (inlinedDeclarations ds) (inlinedType ds.interfaces type) fields ttl
        (inlinedField ds.interfaces type f)) := by
  have hname : (fields.find? fun field => field.name = (inlinedField ds.interfaces type f).name) =
      fields.find? (·.name = f.name) := rfl
  unfold addTtl
  refine .bind_of fun effective heffective => ⟨_, fieldDirectives_inlined heffective, ?_⟩
  rw [find?_relocated, hname]
  cases effective.find? (·.kind = .ttl) with
  | none => exact .refl _
  | some d =>
    refine .check ?_
    dsimp only
    cases fields.find? (·.name = f.name) with
    | none => exact .throw _ _
    | some field =>
      refine .check ?_
      rw [string?_relocated]
      cases d.string? "duration" with
      | none => exact .refl _
      | some text =>
        dsimp only
        cases parseDuration text with
        | none => exact .throw_bind _ _ _
        | some seconds => exact .refl _

theorem buildModel_inlined (config : Config) : ExtendsTo (buildModel config ds type)
    (buildModel config (inlinedDeclarations ds) (inlinedType ds.interfaces type)) := by
  unfold buildModel
  refine .bind (.refl _) fun directives => .bind buildFields_inlined fun fields => ?_
  dsimp only
  cases directives.find? (·.kind.isPrimaryKey) with
  | none => exact .throw_bind _ _ _
  | some keyDirective =>
    refine .bind (.refl _) fun keyDirective => .bind (.refl _) fun key =>
      .bind (.refl _) fun indexes => ?_
    cases directives.find? (·.kind = .table) <;>
      exact .bind (.refl _) fun tableName =>
        .bind (.foldlM (addTtl_inlined fields)) fun ttl => .refl _

theorem buildModels_inlined (config : Config) :
    ExtendsTo (buildModels config ds) (buildModels config (inlinedDeclarations ds)) := by
  unfold buildModels
  have hmodels : (inlinedDeclarations ds).models = ds.models := rfl
  rw [hmodels]
  refine .bind (.mapM fun ⟨name, type⟩ => ?_) fun built => .refl _
  dsimp only
  by_cases hmodel : ds.models.contains name = true
  · rw [if_pos hmodel, if_pos hmodel]
    exact .map (buildModel_inlined config)
  · rw [if_neg hmodel, if_neg hmodel]
    exact .refl _

end Builder

/-! ## The document -/

section Document

variable {document : Document}

theorem filterMap_inlined {α : Type} {declared? : Definition → Option α}
    (h : ∀ type, declared? (.object (inlinedType (interfacesOf document) type)) =
      declared? (.object type)) :
    (inlined document).filterMap declared? = document.filterMap declared? := by
  rw [inlined, List.filterMap_map]
  refine List.filterMap_congr fun d _ => ?_
  cases d with
  | object type => exact h type
  | _ => rfl

theorem objectsOf_inlined : objectsOf (inlined document) =
    (objectsOf document).mapValues (inlinedType (interfacesOf document)) := by
  unfold objectsOf
  rw [← Dict.ofList_map, inlined, List.filterMap_map, List.map_filterMap]
  congr 1
  refine List.filterMap_congr fun d _ => ?_
  cases d <;> rfl

theorem declarations_inlined :
    declarations (inlined document) = inlinedDeclarations (declarations document) := by
  have hmodels : ((objectsOf (inlined document) : List _).filter fun entry =>
      primaryKeyCount entry.2 = 1).map (·.1) = (declarations document).models := by
    rw [objectsOf_inlined, Dict.mapValues, List.filter_map, List.map_map]
    rfl
  unfold declarations at hmodels ⊢
  rw [hmodels, objectsOf_inlined]
  unfold interfacesOf enumsOf scalarsOf
  rw [filterMap_inlined fun _ => rfl, filterMap_inlined fun _ => rfl,
    filterMap_inlined fun _ => rfl]
  rfl

theorem DeclaresApart.inlined (h : DeclaresApart document) :
    DeclaresApart (Blueprint.inlined document) := by
  refine ⟨?_, ?_, ?_⟩
  · unfold typeNames
    rw [filterMap_inlined fun _ => rfl]
    exact h.distinct
  · rw [objectsOf_inlined]
    intro entry hentry
    obtain ⟨own, hown, rfl⟩ := List.mem_map.mp hentry
    exact h.oneKey own hown
  · unfold interfacesOf
    rw [filterMap_inlined fun _ => rfl]
    exact h.noKey

theorem ofDocument_inlined (config : Config) (document : Document) :
    ExtendsTo (ofDocument config document) (ofDocument config (inlined document)) := by
  unfold ofDocument
  refine .bind_of fun ds hds => ⟨inlinedDeclarations ds, ?_, ?_⟩
  · obtain ⟨hapart, rfl⟩ := ofDocument_eq_ok_iff.mp hds
    exact ofDocument_eq_ok_iff.mpr ⟨hapart.inlined, declarations_inlined.symm⟩
  · exact .bind (buildModels_inlined config) fun built => .refl _

/-- The builder has read the directives of all fields of a model. -/
theorem fieldDirectives_of_buildModel {config : Config} {ds : Declarations} {type : TypeDeclaration}
    {built : Model × TableOptions} (h : buildModel config ds type = .ok built)
    {f : FieldDeclaration} (hf : f ∈ type.fields) :
    ∃ effective, fieldDirectives ds type f = .ok effective := by
  obtain ⟨directives, hbuilt⟩ := exists_isBuiltFrom h
  obtain ⟨before, after, hstep⟩ := foldlM_visits hbuilt.expiryBuilt hf
  obtain ⟨effective, heffective, -⟩ := bind_eq_ok.mp hstep
  exact ⟨effective, heffective⟩

theorem exists_fieldDirectives {config : Config} {b : Blueprint}
    (h : ofDocument config document = .ok b) {type : TypeDeclaration}
    (htype : Definition.object type ∈ document) (hkey : primaryKeyCount type = 1)
    {f : FieldDeclaration} (hf : f ∈ type.fields) :
    ∃ effective, fieldDirectives (declarations document) type f = .ok effective := by
  obtain ⟨ds, hds, h⟩ := bind_eq_ok.mp h
  obtain ⟨hapart, rfl⟩ := ofDocument_eq_ok_iff.mp hds
  obtain ⟨built, hbuilt, -⟩ := bind_eq_ok.mp h
  obtain ⟨found, hfound, -⟩ := bind_eq_ok.mp hbuilt
  have hentry : (type.name, type) ∈ (objectsOf document : List _) :=
    (mem_objectsOf hapart.distinct).mpr ⟨htype, rfl⟩
  have hmodel : (declarations document).models.contains type.name = true := by
    rw [List.contains_iff_mem]
    exact List.mem_map.mpr ⟨_, List.mem_filter.mpr ⟨hentry, decide_eq_true hkey⟩, rfl⟩
  obtain ⟨m, -, hm⟩ := mapM_reads_mem hfound hentry
  dsimp only at hm
  rw [if_pos hmodel] at hm
  obtain ⟨member, hmember, -⟩ := map_eq_ok.mp hm
  exact fieldDirectives_of_buildModel hmember hf

/-- A document may as well carry at the fields of its object types what they inherit from their
interfaces: it is built into the same blueprint. A field of a model has at most one directive of a
kind, which is the field's own if it has one, and else that of the first interface with one. -/
theorem inlining_keeps_blueprint {config : Config} {b : Blueprint}
    (h : ofDocument config document = .ok b) :
    ofDocument config (inlined document) = .ok b ∧
      ∀ type, Definition.object type ∈ document → primaryKeyCount type = 1 → ∀ f ∈ type.fields,
        ∃ effective, fieldDirectives (declarations document) type f = .ok effective ∧
          (effective.map (·.kind)).Nodup ∧
          (∀ d ∈ effective, ∃ use, d.IsReadFrom use ∧
            Prevails d.kind use (directiveSources (interfacesOf document) type f)) ∧
          ∀ kind use, Prevails kind use (directiveSources (interfacesOf document) type f) →
            ∃ d ∈ effective, d.kind = kind ∧ d.IsReadFrom use := by
  refine ⟨ofDocument_inlined config document b h, fun type htype hkey f hf => ?_⟩
  obtain ⟨effective, heffective⟩ := exists_fieldDirectives h htype hkey hf
  have hread := fieldDirectives_eq_ok heffective
  refine ⟨effective, heffective, hread.distinct, fun d hd => ?_, fun kind use hprevails => ?_⟩
  · obtain ⟨use, huse, hfrom⟩ := exists_of_mem_forall₂ hread.inOrder hd
    have hwritten := (List.mem_filter.mp huse).1
    exact ⟨use, hfrom, (mem_foldl_addMissing hfrom.ofName?_eq _).mp hwritten⟩
  · have hkind := hprevails.kind_eq
    have hwritten : use ∈ (inlinedField (interfacesOf document) type f).directives :=
      (mem_foldl_addMissing hkind _).mpr hprevails
    obtain ⟨d, hd, hfrom⟩ := exists_of_mem_forall₂ hread.inOrder.flip
      (List.mem_filter.mpr ⟨hwritten, isKnown_of_kind? hkind⟩)
    have hsame : use.kind? = some d.kind := IsReadFrom.ofName?_eq hfrom
    exact ⟨d, hd, Option.some.inj (hsame.symm.trans hkind), hfrom⟩

end Document

namespace OrdersDocument

/-- An order as its interface has it: the column of one field is written at the field. -/
def inlinedOrder : TypeDeclaration :=
  { order with fields := [required "customer" "ID" [], required "id" "ID" [],
      required "placedAt" "DateTime" [⟨"column", [("name", .string "placed_at")]⟩],
      ⟨"status", .named "Status", []⟩, ⟨"total", .named "Money", []⟩,
      ⟨"expiresAt", .named "DateTime", [⟨"ttl", [("duration", .string "90d")]⟩]⟩] }

theorem inlined_order_is_built : ∃ b, ofDocument .default document = .ok b ∧
    ofDocument .default [.enum ⟨"Status", ["PENDING", "SHIPPED"]⟩, .interface placed,
      .scalar "Money", .object inlinedOrder, .object summary, .object customer] = .ok b := by
  obtain ⟨b, hb, -⟩ := exists_blueprint
  exact ⟨b, hb, (inlining_keeps_blueprint hb).1⟩

end OrdersDocument

end Keyspace.Blueprint
