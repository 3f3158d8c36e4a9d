import Keyspace.Blueprint.Build
import Keyspace.Proofs.Action
import Keyspace.Proofs.Dict

/-!
# The declarations of a document

The builder goes on only with a document that declares every type once. Its declarations can
then be looked up by name, and a name leads to the one definition that declares it.
-/
namespace Keyspace.Blueprint

open Schema Result

theorem repeated?_eq_none_iff {seen names : List String} :
    repeated? seen names = none ↔ names.Nodup ∧ ∀ name ∈ names, name ∉ seen := by
  induction names generalizing seen with
  | nil => simp [repeated?]
  | cons name rest ih =>
    unfold repeated?
    by_cases hseen : name ∈ seen
    · simp [hseen]
    · simp only [List.contains_eq_mem, hseen, decide_false, Bool.false_eq_true, if_false, ih,
        List.nodup_cons, List.mem_cons, not_or]
      constructor
      · rintro ⟨hdistinct, hfresh⟩
        refine ⟨⟨fun hmem => (hfresh name hmem).1 rfl, hdistinct⟩, fun other hother => ?_⟩
        rcases hother with rfl | hother
        · exact hseen
        · exact (hfresh other hother).2
      · rintro ⟨⟨hnew, hdistinct⟩, hfresh⟩
        exact ⟨hdistinct, fun other hother =>
          ⟨fun heq => hnew (heq ▸ hother), hfresh other (Or.inr hother)⟩⟩

/-- The names of the types a document declares. -/
def typeNames (document : Document) : List String := document.filterMap Definition.typeName?

/-- All that a document declares, by kind and name. -/
def declarations (document : Document) : Declarations where
  objects := objectsOf document
  interfaces := interfacesOf document
  enums := enumsOf document
  scalars := scalarsOf document
  models := ((objectsOf document).filter fun entry => primaryKeyCount entry.2 = 1).map (·.1)

/-- No type is declared twice, no object type has two keys, and no interface has one. -/
structure DeclaresApart (document : Document) : Prop where
  distinct : (typeNames document).Nodup
  oneKey : ∀ entry ∈ (objectsOf document : List _), primaryKeyCount entry.2 ≤ 1
  noKey : ∀ entry ∈ (interfacesOf document : List _), primaryKeyCount entry.2 = 0

/-- Exactly such a document passes the three checks the builder begins with. -/
theorem declaresApart_iff {document : Document} : DeclaresApart document ↔
    repeated? [] (typeNames document) = none ∧
      ((objectsOf document : List (String × TypeDeclaration)).find? fun entry =>
        primaryKeyCount entry.2 > 1) = none ∧
      ((interfacesOf document : List (String × TypeDeclaration)).find? fun entry =>
        primaryKeyCount entry.2 > 0) = none := by
  rw [repeated?_eq_none_iff, List.find?_eq_none, List.find?_eq_none]
  constructor
  · rintro ⟨hdistinct, hone, hno⟩
    refine ⟨⟨hdistinct, fun _ _ => List.not_mem_nil⟩, fun entry hentry => ?_,
      fun entry hentry => ?_⟩
    · simpa using hone entry hentry
    · simpa using hno entry hentry
  · rintro ⟨⟨hdistinct, -⟩, hone, hno⟩
    refine ⟨hdistinct, fun entry hentry => ?_, fun entry hentry => ?_⟩
    · simpa using hone entry hentry
    · simpa using hno entry hentry

theorem ofDocument_eq_ok_iff {document : Document} {ds : Declarations} :
    Declarations.ofDocument document = .ok ds ↔
      DeclaresApart document ∧ ds = declarations document := by
  rw [declaresApart_iff]
  unfold Declarations.ofDocument typeNames
  dsimp only
  cases repeated? [] (document.filterMap Definition.typeName?) with
  | some name => exact ⟨(nomatch ·), (nomatch ·.1.1)⟩
  | none =>
    cases (objectsOf document : List (String × TypeDeclaration)).find? fun entry =>
        primaryKeyCount entry.2 > 1 with
    | some entry => exact ⟨(nomatch ·), (nomatch ·.1.2.1)⟩
    | none =>
      cases (interfacesOf document : List (String × TypeDeclaration)).find? fun entry =>
          primaryKeyCount entry.2 > 0 with
      | some entry => exact ⟨(nomatch ·), (nomatch ·.1.2.2)⟩
      | none => exact pure_eq_ok.trans ⟨fun hds => ⟨⟨rfl, rfl, rfl⟩, hds.symm⟩, fun h => h.2.symm⟩

theorem objects_ofDocument {document : Document} {ds : Declarations}
    (h : Declarations.ofDocument document = .ok ds) : ds.objects = objectsOf document := by
  rw [(ofDocument_eq_ok_iff.mp h).2]
  rfl

section Names

variable {α : Type} {declared? : Definition → Option (String × α)} {document : Document}

/-- What definitions of one kind declare is listed under distinct names if all types have
names of their own. -/
theorem nodup_entryNames (hname : ∀ d entry, declared? d = some entry → d.typeName? = some entry.1)
    (h : (typeNames document).Nodup) : ((document.filterMap declared?).map (·.1)).Nodup := by
  refine List.Nodup.sublist ?_ h
  unfold typeNames
  clear h
  induction document with
  | nil => exact List.Sublist.slnil
  | cons d rest ih =>
    cases hentry : declared? d with
    | none =>
      rw [List.filterMap_cons_none hentry]
      exact ih.trans ((List.sublist_cons_self d rest).filterMap _)
    | some entry =>
      rw [List.filterMap_cons_some hentry, List.filterMap_cons_some (hname d entry hentry),
        List.map_cons]
      exact ih.cons_cons _

end Names

section Objects

variable {document : Document}

theorem ordered_objectsOf (document : Document) : Dict.Ordered (objectsOf document) :=
  Dict.ordered_ofList _

/-- The object types of a document, under their names. -/
theorem mem_objectsOf (h : (typeNames document).Nodup) {entry : String × TypeDeclaration} :
    entry ∈ (objectsOf document : List _) ↔
      Definition.object entry.2 ∈ document ∧ entry.1 = entry.2.name := by
  refine (Dict.mem_ofList_iff (nodup_entryNames (fun d entry hentry => ?_) h)).trans ?_
  · cases d <;> cases hentry
    rfl
  rw [List.mem_filterMap]
  constructor
  · rintro ⟨d, hd, hentry⟩
    cases d <;> cases hentry
    exact ⟨hd, rfl⟩
  · rintro ⟨hd, hname⟩
    exact ⟨_, hd, congrArg some (Prod.ext hname.symm rfl)⟩

/-- An object type is found by its name alone. -/
theorem object_inj (h : (typeNames document).Nodup) {type type' : TypeDeclaration}
    (htype : Definition.object type ∈ document) (htype' : Definition.object type' ∈ document)
    (hname : type.name = type'.name) : type = type' := by
  have hentry : (type.name, type) ∈ objectsOf document := (mem_objectsOf h).mpr ⟨htype, rfl⟩
  have hentry' : (type'.name, type') ∈ objectsOf document := (mem_objectsOf h).mpr ⟨htype', rfl⟩
  have hdistinct := (ordered_objectsOf document).keys_nodup
  exact congrArg Prod.snd (List.inj_on_of_nodup_map hdistinct hentry hentry' hname)

end Objects

/-! ## A document with a shared table -/

namespace OrdersDocument

def strings (texts : List String) : Value := .list (texts.map .string)

/-- A non-null field. -/
def required (name type : String) (directives : List DirectiveUse) : FieldDeclaration :=
  ⟨name, .nonNull (.named type), directives⟩

/-- Both halves of the key are fields of their own. -/
def customerAndId : DirectiveUse :=
  ⟨"compositeKey", [("pkFields", strings ["customer"]), ("skFields", strings ["id"])]⟩

def placed : TypeDeclaration where
  name := "Placed"
  interfaces := []
  directives := []
  fields := [required "placedAt" "DateTime" [⟨"column", [("name", .string "placed_at")]⟩]]

def order : TypeDeclaration where
  name := "Order"
  interfaces := ["Placed"]
  directives := [
    ⟨"table", [("name", .string "Orders"), ("enablePointInTimeRecovery", .boolean true)]⟩,
    customerAndId,
    ⟨"secondaryIndex", [("name", .string "byDay"), ("type", .enum "LSI"),
      ("skFields", strings ["placedAt"])]⟩,
    ⟨"reacts", [("event", .enum "INSERT"), ("handler", .string "notifyCustomer")]⟩]
  fields := [required "customer" "ID" [], required "id" "ID" [], required "placedAt" "DateTime" [],
    ⟨"status", .named "Status", []⟩, ⟨"total", .named "Money", []⟩,
    ⟨"expiresAt", .named "DateTime", [⟨"ttl", [("duration", .string "90d")]⟩]⟩]

def summary : TypeDeclaration where
  name := "Summary"
  interfaces := []
  directives := [⟨"table", [("name", .string "Orders")]⟩, customerAndId]
  fields := [required "customer" "ID" [], required "id" "ID" [], required "orders" "Int" []]

def customer : TypeDeclaration where
  name := "Customer"
  interfaces := []
  directives := [
    ⟨"partitionKey", [("pkFields", strings ["id"])]⟩,
    ⟨"enriches", [("event", .enum "UPSERT"), ("targetModel", .string "Summary"),
      ("readsFrom", strings ["Order"])]⟩]
  fields := [required "id" "ID" []]

/-- Orders and their summaries share a table; an enricher of customers works on it. -/
def document : Document :=
  [.enum ⟨"Status", ["PENDING", "SHIPPED"]⟩, .interface placed, .scalar "Money", .object order,
    .object summary, .object customer]

theorem exists_blueprint : ∃ b, ofDocument .default document = .ok b ∧
    b.models.map (·.name) = ["Customer", "Order", "Summary"] ∧
    b.tables.map (·.name) = ["Customer", "Orders"] := by
  have hnames : ((ofDocument .default document).map fun b =>
      (b.models.map (·.name), b.tables.map (·.name))) =
        .ok (["Customer", "Order", "Summary"], ["Customer", "Orders"]) := by decide +kernel
  cases hb : ofDocument .default document with
  | error e =>
    rw [hb] at hnames
    cases hnames
  | ok b =>
    rw [hb] at hnames
    have hboth := Except.ok.inj hnames
    exact ⟨b, rfl, congrArg Prod.fst hboth, congrArg Prod.snd hboth⟩

end OrdersDocument

end Keyspace.Blueprint
