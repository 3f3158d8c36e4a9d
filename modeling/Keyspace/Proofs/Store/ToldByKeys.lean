import Keyspace.Proofs.Blueprint.SchemaNames
import Keyspace.Proofs.Record.KeyTexts
import Keyspace.Proofs.Store.CreateFind
import Mathlib.Algebra.Order.BigOperators.Group.List

/-!
# What a key tells of a record

An attribute that is one field by itself tells the field. One that joins several texts tells them
if it is known how many marks each of them has, and no other type than text has values with marks.
So the key of a record tells all key fields unless an attribute joins two free texts, or joins JSON,
where for instance a number and its text look alike.
-/
namespace Keyspace

open Text Blueprint

namespace RecordType

variable {t : RecordType} {r r' : Record}

/-- The type of the field of a name. -/
def typeOf? (t : RecordType) (name : String) : Option ValueType :=
  (t.model.fields.find? (·.name = name)).map t.valueType

/-- The text of a field in a key. -/
def keyTextOf (r : Record) (name : String) : String := (keyComponent (r.attribute? name)).keyText

/-- Records of the type with the same key have the same attributes in all key fields. -/
def KeyInjective (t : RecordType) : Prop :=
  ∀ r r', t.IsTyped r → t.IsTyped r' → t.key r = t.key r' → t.keyArguments r = t.keyArguments r'

/-- Two records have as many marks in the free texts that their keys join, and the same values in
the JSON there. -/
structure SameMarks (t : RecordType) (r r' : Record) : Prop where
  text : ∀ part ∈ t.model.primaryKey.parts, part.isSingleField = false → ∀ name ∈ part.fields,
    t.typeOf? name = some .text → markCount (keyTextOf r name) = markCount (keyTextOf r' name)
  json : ∀ part ∈ t.model.primaryKey.parts, part.isSingleField = false → ∀ name ∈ part.fields,
    t.typeOf? name = some .json → r.attribute? name = r'.attribute? name

/-- A part of the key is one field by itself, or it joins no JSON and at most one free text. -/
structure TellsFields (t : RecordType) (part : KeyPart) : Prop where
  text : part.isSingleField = false → ∀ name ∈ part.fields, ∀ name' ∈ part.fields,
    t.typeOf? name = some .text → t.typeOf? name' = some .text → name = name'
  json : part.isSingleField = false → ∀ name ∈ part.fields, t.typeOf? name ≠ some .json

/-- What is known of the fields of the key. -/
def HasKeyTypes (t : RecordType) : Prop :=
  ∀ part ∈ t.model.primaryKey.parts, ∀ name ∈ part.fields,
    ∃ f, t.model.fields.find? (·.name = name) = some f ∧ f.isRequired = true ∧
      (t.valueType f).IsKeyType

/-! ## The attributes of a key -/

theorem keyPartValue_joined {part : KeyPart} (h : part.isSingleField = false) (r : Record) :
    keyPartValue r part = .text (joined (part.lead.toList ++ part.fields.map (keyTextOf r))) := by
  unfold keyPartValue Model.keyAttribute
  rw [h]
  dsimp only
  rw [keyValue, List.map_map]
  rfl

theorem keyPartValue_single (h : t.model.ColumnsApart) {part : KeyPart}
    (hpart : part ∈ t.model.primaryKey.parts) (hsingle : part.isSingleField = true) :
    ∃ name, part.fields = [name] ∧ ∀ r, keyPartValue r part = keyComponent (r.attribute? name) := by
  obtain ⟨role, -, hbuilt⟩ := h.part_isBuilt hpart
  cases hbuilt with
  | @single name f _ _ _ => exact ⟨name, rfl, fun r => rfl⟩
  | joined names lead => cases hsingle

/-- Keys are the same if their attributes are. -/
theorem key_eq_iff (h : t.model.ColumnsApart) : t.key r = t.key r' ↔
    ∀ part ∈ t.model.primaryKey.parts, keyPartValue r part = keyPartValue r' part := by
  constructor
  · intro hkey part hpart
    have hvalue := get?_key (r := r) h hpart
    rw [hkey, get?_key h hpart] at hvalue
    exact (Option.some.inj hvalue).symm
  · exact fun hparts => Model.keyOf_congr_parts hparts

theorem keyArguments_eq_iff : t.keyArguments r = t.keyArguments r' ↔
    ∀ part ∈ t.model.primaryKey.parts, ∀ name ∈ part.fields,
      keyComponent (r.attribute? name) = keyComponent (r'.attribute? name) := by
  unfold keyArguments
  rw [List.map_inj_left]
  simp only [Model.mem_keyFields_iff]
  exact ⟨fun h part hpart name hname => h name ⟨part, hpart, hname⟩,
    fun h name ⟨part, hpart, hname⟩ => h part hpart name hname⟩

/-! ## Fields that are told -/

section Told

variable (htypes : t.HasKeyTypes) {part : KeyPart} (hpart : part ∈ t.model.primaryKey.parts)
  {name : String} (hname : name ∈ part.fields)
include htypes hpart hname

/-- A typed record has a value of the type of each key field. -/
theorem exists_keyValue (hr : t.IsTyped r) : ∃ type value, t.typeOf? name = some type ∧
    type.IsKeyType ∧ r.attribute? name = some value.toAttribute ∧ type.Has value := by
  obtain ⟨f, hfind, hrequired, hkey⟩ := htypes part hpart name hname
  obtain ⟨hf, hown⟩ := Field.of_find? hfind
  obtain ⟨value, hvalue⟩ := Option.isSome_iff_exists.mp (hr.required f hf hrequired)
  refine ⟨t.valueType f, value, by rw [typeOf?, hfind, Option.map_some], hkey, ?_,
    hr.values f hf value hvalue⟩
  rw [← hown, Record.attribute?, hvalue, Option.map_some]

/-- Values of other types than text and JSON have no marks. -/
theorem markCount_keyTextOf (hr : t.IsTyped r) (htext : t.typeOf? name ≠ some .text)
    (hjson : t.typeOf? name ≠ some .json) : markCount (keyTextOf r name) = 0 := by
  obtain ⟨type, value, htype, rfl | rfl | hmarkless, hattribute, hvalue⟩ :=
    exists_keyValue htypes hpart hname hr
  · exact absurd htype htext
  · exact absurd htype hjson
  · rw [keyTextOf, hattribute]
    exact hmarkless.markCount_eq hvalue

/-- Except for JSON, the text of a key field tells its attribute. -/
theorem attribute_eq_of_keyTextOf (hr : t.IsTyped r) (hr' : t.IsTyped r')
    (hjson : t.typeOf? name ≠ some .json) (h : keyTextOf r name = keyTextOf r' name) :
    keyComponent (r.attribute? name) = keyComponent (r'.attribute? name) := by
  obtain ⟨type, value, htype, hkey, hattribute, hvalue⟩ := exists_keyValue htypes hpart hname hr
  obtain ⟨type', value', htype', -, hattribute', hvalue'⟩ :=
    exists_keyValue htypes hpart hname hr'
  obtain rfl : type = type' := Option.some.inj (htype.symm.trans htype')
  rw [keyTextOf, keyTextOf, hattribute, hattribute'] at h
  rw [hattribute, hattribute']
  exact ValueType.toAttribute_inj hkey (fun heq => hjson (heq ▸ htype)) hvalue hvalue' h

end Told

/-- Where the marks are the same, the key tells all key fields. -/
theorem keyArguments_eq (h : t.model.ColumnsApart) (htypes : t.HasKeyTypes) (hr : t.IsTyped r)
    (hr' : t.IsTyped r') (hkey : t.key r = t.key r') (hmarks : t.SameMarks r r') :
    t.keyArguments r = t.keyArguments r' := by
  rw [keyArguments_eq_iff]
  intro part hpart
  have hvalue := (key_eq_iff h).mp hkey part hpart
  cases hsingle : part.isSingleField with
  | true =>
    obtain ⟨name, hfields, hown⟩ := keyPartValue_single h hpart hsingle
    rw [hown, hown] at hvalue
    simpa [hfields] using hvalue
  | false =>
    have hcount : ∀ name ∈ part.fields,
        markCount (keyTextOf r name) = markCount (keyTextOf r' name) := by
      intro name hname
      by_cases htext : t.typeOf? name = some .text
      · exact hmarks.text part hpart hsingle name hname htext
      by_cases hjson : t.typeOf? name = some .json
      · rw [keyTextOf, keyTextOf, hmarks.json part hpart hsingle name hname hjson]
      · rw [markCount_keyTextOf htypes hpart hname hr htext hjson,
          markCount_keyTextOf htypes hpart hname hr' htext hjson]
    rw [keyPartValue_joined hsingle, keyPartValue_joined hsingle, AttributeValue.text.injEq]
      at hvalue
    have hlead : List.Forall₂ (fun text text' => markCount text = markCount text')
        part.lead.toList part.lead.toList := List.forall₂_same.mpr fun _ _ => rfl
    have hfields : List.Forall₂ (fun text text' => markCount text = markCount text')
        (part.fields.map (keyTextOf r)) (part.fields.map (keyTextOf r')) := by
      rw [List.forall₂_map_left_iff, List.forall₂_map_right_iff, List.forall₂_same]
      exact hcount
    have htexts := List.map_inj_left.mp
      (List.append_cancel_left (joined_inj (List.rel_append hlead hfields) hvalue))
    intro name hname
    by_cases hjson : t.typeOf? name = some .json
    · rw [hmarks.json part hpart hsingle name hname hjson]
    · exact attribute_eq_of_keyTextOf htypes hpart hname hr hr' hjson (htexts name hname)

/-- In two sums that are the same, one term is if all others are. -/
theorem eq_of_sum_eq {α : Type} {f g : α → Nat} {xs : List α} {x : α} (hx : x ∈ xs)
    (hothers : ∀ y ∈ xs, y ≠ x → f y = g y) (hsum : (xs.map f).sum = (xs.map g).sum) :
    f x = g x := by
  have hlt {f g : α → Nat} (hothers : ∀ y ∈ xs, y ≠ x → f y = g y) (hless : f x < g x) :
      (xs.map f).sum < (xs.map g).sum := by
    refine List.sum_lt_sum f g (fun y hy => ?_) ⟨x, hx, hless⟩
    by_cases hsame : y = x
    · exact hsame ▸ hless.le
    · exact (hothers y hy hsame).le
  rcases Nat.lt_trichotomy (f x) (g x) with hless | heq | hless
  · exact absurd hsum (hlt hothers hless).ne
  · exact heq
  · exact absurd hsum (hlt (fun y hy hne => (hothers y hy hne).symm) hless).ne'

/-- If each part joins at most one free text, the number of marks in it is told by the key. -/
theorem SameMarks.of_key_eq (h : t.model.ColumnsApart) (htypes : t.HasKeyTypes)
    (hr : t.IsTyped r) (hr' : t.IsTyped r') (hkey : t.key r = t.key r')
    (htells : ∀ part ∈ t.model.primaryKey.parts, t.TellsFields part) : t.SameMarks r r' := by
  constructor
  case json =>
    intro part hpart hjoined name hname hjson
    exact absurd hjson ((htells part hpart).json hjoined name hname)
  case text =>
    intro part hpart hjoined name hname htext
    have hvalue := (key_eq_iff h).mp hkey part hpart
    rw [keyPartValue_joined hjoined, keyPartValue_joined hjoined, AttributeValue.text.injEq]
      at hvalue
    have hcount := congrArg markCount hvalue
    simp only [markCount_joined, List.map_append, List.sum_append, List.map_map, List.length_append,
      List.length_map] at hcount
    refine eq_of_sum_eq (f := markCount ∘ keyTextOf r) (g := markCount ∘ keyTextOf r') hname
      (fun other hother hne => ?_) (by omega)
    have hjson := (htells part hpart).json hjoined other hother
    have hother_text : t.typeOf? other ≠ some .text := fun htext' =>
      hne ((htells part hpart).text hjoined other hother name hname htext' htext)
    rw [Function.comp_apply, Function.comp_apply,
      markCount_keyTextOf htypes hpart hother hr hother_text hjson,
      markCount_keyTextOf htypes hpart hother hr' hother_text hjson]

/-! ## Fields that are not told -/

/-- Where no functions compute fields, a field can be set to any value of its type. -/
theorem IsTyped.set (hr : t.IsTyped r) (hdistinct : (t.model.fields.map (·.name)).Nodup)
    (hplain : t.functions = .empty) {name : String} {type : ValueType}
    (htype : t.typeOf? name = some type) {value : Value} (hvalue : type.Has value) :
    t.IsTyped (r.set name value) := by
  obtain ⟨f, hfind, rfl⟩ := Option.map_eq_some_iff.mp htype
  obtain ⟨hf, hown⟩ := Field.of_find? hfind
  constructor
  case values =>
    intro f' hf' value' hvalue'
    rw [Record.get?_set, Option.mem_def] at hvalue'
    split at hvalue'
    · next hname =>
      cases hvalue'
      rwa [List.inj_on_of_nodup_map hdistinct hf' hf (hname.trans hown.symm)]
    · exact hr.values f' hf' value' hvalue'
  case required =>
    intro f' hf' hrequired
    rw [Record.get?_set]
    split
    · rfl
    · exact hr.required f' hf' hrequired
  case computed =>
    intro f' hf' c hc value' hvalue'
    rw [compute, hplain] at hvalue'
    cases hvalue'

/-- The record with texts in two of its fields. -/
def withTexts (r : Record) (first last atFirst atLast : String) : Record :=
  (r.set first (.text atFirst)).set last (.text atLast)

theorem attribute?_withTexts (r : Record) (first last atFirst atLast name : String) :
    (withTexts r first last atFirst atLast).attribute? name =
      if name = last then some (.text atLast)
      else if name = first then some (.text atFirst) else r.attribute? name := by
  rw [withTexts, Record.attribute?_set, Record.attribute?_set]
  rfl

theorem map_keyTextOf_withTexts (r : Record) {first last : String}
    {before between after : List String}
    (hnodup : (before ++ first :: (between ++ last :: after)).Nodup) (atFirst atLast : String) :
    (before ++ first :: (between ++ last :: after)).map
        (keyTextOf (withTexts r first last atFirst atLast)) =
      before.map (keyTextOf r) ++
        atFirst :: (between.map (keyTextOf r) ++ atLast :: after.map (keyTextOf r)) := by
  have hfirst : first ∉ before ++ (between ++ last :: after) :=
    (List.nodup_cons.mp (List.nodup_middle.mp hnodup)).1
  have hlast : last ∉ before ++ first :: between ++ after := by
    refine (List.nodup_cons.mp (List.nodup_middle.mp ?_)).1
    simpa using hnodup
  simp only [List.mem_append, List.mem_cons, not_or] at hfirst hlast
  have hkept {names : List String} (hfirst : first ∉ names) (hlast : last ∉ names) :
      names.map (keyTextOf (withTexts r first last atFirst atLast)) = names.map (keyTextOf r) := by
    refine List.map_congr_left fun name hname => ?_
    rw [keyTextOf, attribute?_withTexts, if_neg (ne_of_mem_of_not_mem hname hlast),
      if_neg (ne_of_mem_of_not_mem hname hfirst), keyTextOf]
  have hatFirst : keyTextOf (withTexts r first last atFirst atLast) first = atFirst := by
    rw [keyTextOf, attribute?_withTexts, if_neg hfirst.2.2.1, if_pos rfl]
    rfl
  have hatLast : keyTextOf (withTexts r first last atFirst atLast) last = atLast := by
    rw [keyTextOf, attribute?_withTexts, if_pos rfl]
    rfl
  rw [List.map_append, List.map_cons, List.map_append, List.map_cons, hatFirst, hatLast,
    hkept hfirst.1 hlast.1.1, hkept hfirst.2.1 hlast.1.2.2, hkept hfirst.2.2.2 hlast.2]

section NotTold

variable (h : t.model.ColumnsApart) (honce : (t.model.primaryKey.parts.flatMap (·.fields)).Nodup)
  {part : KeyPart} (hpart : part ∈ t.model.primaryKey.parts) (hjoined : part.isSingleField = false)
include h honce hpart hjoined

/-- Records that differ in the fields of one part have the same key if the texts of these fields
are joined to the same text. -/
theorem key_eq_of_joined_eq
    (hsame : joined (part.lead.toList ++ part.fields.map (keyTextOf r)) =
      joined (part.lead.toList ++ part.fields.map (keyTextOf r')))
    (hothers : ∀ name, name ∉ part.fields → r.attribute? name = r'.attribute? name) :
    t.key r = t.key r' := by
  rw [key_eq_iff h]
  intro other hother
  by_cases hown : other = part
  · rw [hown, keyPartValue_joined hjoined, keyPartValue_joined hjoined, hsame]
  · have hsymm : Std.Symm (Function.onFun List.Disjoint KeyPart.fields) :=
      ⟨fun _ _ hdisjoint => List.disjoint_symm hdisjoint⟩
    have hdisjoint := (List.nodup_flatMap.mp honce).2.forall hother hpart hown
    refine Model.keyAttribute_congr fun name hname => ?_
    rw [hothers name fun hmem => hdisjoint hname hmem]

variable (hdistinct : (t.model.fields.map (·.name)).Nodup) (hplain : t.functions = .empty)
  (hinjective : t.KeyInjective) (hr : t.IsTyped r)
include hdistinct hplain hinjective hr

/-- In a joined part, the JSON text `"1"` looks like the number. -/
theorem typeOf?_ne_json {name : String} (hname : name ∈ part.fields) :
    t.typeOf? name ≠ some .json := by
  intro hjson
  have htyped (content : Json) : t.IsTyped (r.set name (.json content)) :=
    hr.set hdistinct hplain hjson trivial
  have hkey : t.key (r.set name (.json (.str "1"))) = t.key (r.set name (.json (.int 1))) := by
    refine key_eq_of_joined_eq h honce hpart hjoined ?_ fun other hother => ?_
    · have htexts : keyTextOf (r.set name (.json (.str "1"))) =
          keyTextOf (r.set name (.json (.int 1))) := by
        funext other
        rw [keyTextOf, keyTextOf, Record.attribute?_set, Record.attribute?_set]
        split <;> rfl
      rw [htexts]
    · have hne : other ≠ name := (ne_of_mem_of_not_mem hname hother).symm
      rw [Record.attribute?_set, Record.attribute?_set, if_neg hne, if_neg hne]
  have hsame := keyArguments_eq_iff.mp (hinjective _ _ (htyped _) (htyped _) hkey) part hpart
    name hname
  rw [Record.attribute?_set, Record.attribute?_set, if_pos rfl, if_pos rfl] at hsame
  cases hsame

/-- In a joined part, what stands between two texts can belong to either. -/
theorem not_text_and_text {first last : String} {before between after : List String}
    (hfields : part.fields = before ++ first :: (between ++ last :: after)) :
    ¬ (t.typeOf? first = some .text ∧ t.typeOf? last = some .text) := by
  rintro ⟨hfirst, hlast⟩
  have hfree (content : String) : ValueType.text.Has (.text content) := trivial
  have htyped (atFirst atLast : String) : t.IsTyped (withTexts r first last atFirst atLast) :=
    (hr.set hdistinct hplain hfirst (hfree atFirst)).set hdistinct hplain hlast (hfree atLast)
  have hnodup := (List.nodup_flatMap.mp honce).1 part hpart
  rw [hfields] at hnodup
  have htexts := map_keyTextOf_withTexts r hnodup
  let gap : String := flanked (between.map (keyTextOf r))
  have hkey : t.key (withTexts r first last "" gap) = t.key (withTexts r first last gap "") := by
    refine key_eq_of_joined_eq h honce hpart hjoined ?_ fun other hother => ?_
    · rw [hfields, htexts, htexts, ← List.append_assoc, ← List.append_assoc]
      exact joined_shift ..
    · have hne {name : String} (hname : name ∈ part.fields) : other ≠ name :=
        (ne_of_mem_of_not_mem hname hother).symm
      simp [attribute?_withTexts, hne, hfields]
  have hsame := keyArguments_eq_iff.mp (hinjective _ _ (htyped _ _) (htyped _ _) hkey) part hpart
    last (by simp [hfields])
  rw [attribute?_withTexts, attribute?_withTexts, if_pos rfl, if_pos rfl] at hsame
  exact flanked_ne_empty _ (AttributeValue.text.inj hsame)

/-- So a part that joins fields tells them only if at most one of them is a free text. -/
theorem TellsFields.of_keyInjective : t.TellsFields part := by
  constructor
  case json =>
    intro _ name hname
    exact typeOf?_ne_json h honce hpart hjoined hdistinct hplain hinjective hr hname
  case text =>
    intro _ first hfirst last hlast htext htext'
    by_contra hne
    have hnot {first last : String} {before between after : List String}
        (hfields : part.fields = before ++ first :: (between ++ last :: after)) :=
      not_text_and_text h honce hpart hjoined hdistinct hplain hinjective hr hfields
    obtain ⟨before, after, hfields⟩ := List.append_of_mem hfirst
    rw [hfields, List.mem_append, List.mem_cons] at hlast
    rcases hlast with hbefore | heq | hafter
    · obtain ⟨before, between, rfl⟩ := List.append_of_mem hbefore
      exact hnot (by simpa using hfields) ⟨htext', htext⟩
    · exact hne heq.symm
    · obtain ⟨between, after, rfl⟩ := List.append_of_mem hafter
      exact hnot hfields ⟨htext, htext'⟩

end NotTold

end RecordType

namespace Blueprint

open RecordType

variable {config : Config} {text : String} {b : Blueprint} {m : Model}

theorem ofSchema_hasKeyTypes (hb : ofSchema config text = .ok b) (hm : m ∈ b.models)
    (paths : Code.PathReader) (functions : Dict Computation) :
    (b.recordType paths m functions).HasKeyTypes := by
  intro part hpart name hname
  obtain ⟨f, hfind, hf⟩ := ofSchema_keyFields hb hm hpart hname
  refine ⟨f, hfind, hf.required, ?_⟩
  rw [valueType, hf.scalar]
  cases f.kind with
  | scalar => exact ValueType.isKeyType_ofScalar f.typeName
  | embedded => exact Or.inr (Or.inl rfl)
  | enum =>
    refine Or.inr (Or.inr (.choice fun value hvalue => ?_))
    cases hfound : b.enums.find? (·.name = f.typeName) with
    | none =>
      rw [show (b.recordType paths m functions).enums = b.enums from rfl, hfound] at hvalue
      cases hvalue
    | some e =>
      rw [show (b.recordType paths m functions).enums = b.enums from rfl, hfound] at hvalue
      have hreadable := ((ofSchema_namesSettled hb).enums e (List.mem_of_find?_eq_some hfound)).2
        value hvalue
      exact markCount_eq_zero.mpr fun hmark => absurd (hreadable _ hmark) (by decide)

/-- The key of an accepted model tells the key fields of records that have as many marks in the
free texts it joins, and the same JSON there. It tells them of all records if no attribute joins
JSON or two free texts; and where no field is in the key twice, only then. -/
theorem keys_tell_fields (hb : ofSchema config text = .ok b) (hm : m ∈ b.models)
    (paths : Code.PathReader) :
    (∀ functions r r', (b.recordType paths m functions).IsTyped r →
      (b.recordType paths m functions).IsTyped r' →
        (b.recordType paths m functions).SameMarks r r' →
          (b.recordType paths m functions).key r = (b.recordType paths m functions).key r' →
            (b.recordType paths m functions).keyArguments r =
              (b.recordType paths m functions).keyArguments r') ∧
    ((∀ part ∈ m.primaryKey.parts, (b.recordType paths m .empty).TellsFields part) →
      ∀ functions, (b.recordType paths m functions).KeyInjective) ∧
    ((m.fields.map (·.name)).Nodup → (m.primaryKey.parts.flatMap (·.fields)).Nodup →
      (∃ functions r, (b.recordType paths m functions).IsTyped r) →
        (∀ functions, (b.recordType paths m functions).KeyInjective) →
          ∀ part ∈ m.primaryKey.parts, (b.recordType paths m .empty).TellsFields part) := by
  have h := ofSchema_columnsApart hb hm
  have htypes := ofSchema_hasKeyTypes hb hm paths
  refine ⟨fun functions r r' hr hr' hmarks hkey => ?_, fun htells functions r r' hr hr' hkey => ?_,
    fun hdistinct honce ⟨functions, r, hr⟩ hinjective part hpart => ?_⟩
  · exact keyArguments_eq (t := b.recordType paths m functions) h (htypes functions) hr hr' hkey
      hmarks
  · have hmarks := SameMarks.of_key_eq (t := b.recordType paths m functions) h (htypes functions) hr
      hr' hkey fun part hpart => ⟨(htells part hpart).text, (htells part hpart).json⟩
    exact keyArguments_eq (t := b.recordType paths m functions) h (htypes functions) hr hr' hkey
      hmarks
  · cases hjoined : part.isSingleField with
    | true =>
      have hsingle : ¬ part.isSingleField = false := by simp [hjoined]
      exact ⟨fun hnot => absurd hnot hsingle, fun hnot => absurd hnot hsingle⟩
    | false =>
      have hplain : (b.recordType paths m .empty).IsTyped r :=
        ⟨hr.values, hr.required, fun f _ c _ value hvalue => by cases hvalue⟩
      exact TellsFields.of_keyInjective (t := b.recordType paths m .empty) h honce hpart hjoined
        hdistinct rfl (hinjective .empty) hplain

namespace ChapterExample

/-- A key of a field by itself and of a number joined with a free text. -/
def schema : String :=
  "type Chapter
    @compositeKey(pkFields: [\"book\"], skFields: [\"number\", \"title\"], skPrefix: \"C\")
    \x7b book: ID! number: Int! title: String! \x7d"

def key : PrimaryKey :=
  .composite ⟨"book", ["book"], none, true⟩ ⟨"sk", ["number", "title"], some "C", false⟩

def chapter : Model :=
  ⟨"Chapter", "Chapter",
    [.scalar "book" "ID" true, .scalar "number" "Int" true, .scalar "title" "String" true], key, [],
    none, false, false, false, []⟩

def blueprint : Blueprint := ⟨[chapter], [⟨"Chapter", key, [], false, false, none, none⟩], []⟩

end ChapterExample

open ChapterExample in
theorem chapters_are_told : ofSchema .default schema = .ok blueprint ∧
    chapter ∈ blueprint.models ∧
      ∀ functions, (blueprint.recordType Code.functionPath? chapter functions).KeyInjective := by
  have hschema : ofSchema .default schema = .ok blueprint := by decide +kernel
  have hmem : chapter ∈ blueprint.models := List.mem_singleton_self _
  have htext : ∀ part ∈ key.parts, part.isSingleField = false → ∀ name ∈ part.fields,
      (blueprint.recordType Code.functionPath? chapter .empty).typeOf? name = some .text →
        name = "title" := by
    decide
  have hjson : ∀ part ∈ key.parts, part.isSingleField = false → ∀ name ∈ part.fields,
      (blueprint.recordType Code.functionPath? chapter .empty).typeOf? name ≠ some .json := by
    decide
  refine ⟨hschema, hmem, (keys_tell_fields hschema hmem _).2.1 fun part hpart => ?_⟩
  refine ⟨fun hjoined name hname name' hname' htype htype' => ?_, hjson part hpart⟩
  rw [htext part hpart hjoined name hname htype, htext part hpart hjoined name' hname' htype']

namespace PageExample

/-- A key of two joined texts. -/
def schema : String :=
  "type Page @partitionKey(pkFields: [\"book\", \"title\"]) \x7b book: ID! title: String! \x7d"

def key : PrimaryKey := .simple ⟨"pk", ["book", "title"], none, false⟩

def page : Model :=
  ⟨"Page", "Page", [.scalar "book" "ID" true, .scalar "title" "String" true], key, [], none, false,
    false, false, []⟩

def blueprint : Blueprint := ⟨[page], [⟨"Page", key, [], false, false, none, none⟩], []⟩

def pages : RecordType := blueprint.recordType Code.functionPath? page .empty

/-- A page in a book. -/
def record (book title : String) : Record :=
  ⟨[("book", .text book), ("title", .text title)], .unwritten⟩

theorem record_isTyped (book title : String) : pages.IsTyped (record book title) := by
  refine (isFull_of_plain (by decide) ?_).toIsTyped
  have hbook : (record book title).get? "book" = some (.text book) := rfl
  have htitle : (record book title).get? "title" = some (.text title) := rfl
  intro f hf
  rcases List.mem_pair.mp hf with rfl | rfl
  · exact ⟨.text book, hbook, trivial⟩
  · exact ⟨.text title, htitle, trivial⟩

end PageExample

open PageExample in
/-- The mark in a text is not told from the one between the texts. -/
theorem pages_share_a_key : ofSchema .default schema = .ok blueprint ∧ page ∈ blueprint.models ∧
    pages.IsTyped (record "a#b" "c") ∧ pages.IsTyped (record "a" "b#c") ∧
    pages.keyArguments (record "a#b" "c") ≠ pages.keyArguments (record "a" "b#c") ∧
    pages.key (record "a#b" "c") = pages.key (record "a" "b#c") := by
  refine ⟨by decide +kernel, List.mem_singleton_self _, record_isTyped _ _, record_isTyped _ _, ?_,
    ?_⟩
  · decide
  · decide

end Blueprint

end Keyspace
