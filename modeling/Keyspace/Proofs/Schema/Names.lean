import Keyspace.Schema.Document

/-!
# The names a schema declares

A name token is made of letters, digits and underscores. Parsers take tokens and never make
any, so the names of declared object types and enums, of their fields and of their values are too.
-/
namespace Keyspace.Schema

def IsReadableName (name : String) : Prop := ∀ c ∈ name.toList, isNameChar c = true

/-- What the scanner keeps of every token. -/
def Token.IsReadable (token : Token) : Prop := token.kind = .name → IsReadableName token.text

theorem isReadableName_word {c : Char} (h : isNameStart c = true) (rest : List Char) :
    IsReadableName (String.ofList (c :: rest.takeWhile isNameChar)) := by
  have hstart : isNameChar c = true := by
    rcases Bool.or_eq_true_iff.mp h with halpha | hunderscore
    · have halnum : c.isAlphanum = true := Bool.or_eq_true_iff.mpr (Or.inl halpha)
      exact Bool.or_eq_true_iff.mpr (Or.inl halnum)
    · exact Bool.or_eq_true_iff.mpr (Or.inr hunderscore)
  intro d hd
  rw [String.toList_ofList] at hd
  rcases List.mem_cons.mp hd with rfl | hd
  · exact hstart
  · exact List.all_eq_true.mp List.all_takeWhile d hd

theorem kind_of_numberKind? {text : List Char} {kind : Token.Kind}
    (h : numberKind? text = some kind) : kind ≠ .name := by
  rintro rfl
  unfold numberKind? at h
  repeat' split at h
  all_goals simp at h

theorem isReadable_of_nextToken? {p p' : Position} {room room' : Nat} {text rest : List Char}
    {token : Token} (h : nextToken? p room text = some (token, p', room', rest)) :
    token.IsReadable := by
  intro hname
  unfold nextToken? at h
  split at h
  · cases h
  · cases h
    cases hname
  · obtain ⟨raw, -, hsome⟩ := Option.bind_eq_some_iff.mp h
    cases hsome
    cases hname
  · obtain ⟨raw, -, h⟩ := Option.bind_eq_some_iff.mp h
    obtain ⟨value, -, hsome⟩ := Option.bind_eq_some_iff.mp h
    cases hsome
    cases hname
  · next c rest' _ _ _ =>
    dsimp only at h
    split at h
    · split at h <;> cases h
      cases hname
    · split at h
      · cases h
        cases hname
      · split at h
        · cases h
          cases hname
        · split at h
          · next hstart =>
            cases h
            exact isReadableName_word hstart rest'
          · split at h
            · obtain ⟨kind, hkind, hsome⟩ := Option.map_eq_some_iff.mp h
              cases hsome
              exact absurd hname (kind_of_numberKind? hkind)
            · cases h

theorem isReadable_of_mem_scanFrom {fuel : Nat} {p : Position} {room : Nat} {text : List Char} :
    ∀ token ∈ (scanFrom fuel p room text).tokens, token.IsReadable := by
  induction fuel generalizing p room text with
  | zero => exact fun token htoken => by cases htoken
  | succ fuel ih =>
    unfold scanFrom
    split
    · exact fun token htoken => by cases htoken
    · split
      · exact fun token htoken => by cases htoken
      · next token p room rest hnext =>
        intro other hother
        rcases List.mem_cons.mp hother with rfl | hother
        · exact isReadable_of_nextToken? hnext
        · exact ih other hother

namespace Parser

variable {α β : Type}

/-- From readable tokens, a parser leaves readable tokens and gives a value of a kind. -/
def Yields (p : Parser α) (post : α → Prop) : Prop :=
  ∀ tokens a rest, p tokens = .ok (a, rest) → (∀ token ∈ tokens, token.IsReadable) →
    (∀ token ∈ rest, token.IsReadable) ∧ post a

/-- A parser that gives values of any kind. -/
abbrev KeepsReadable (p : Parser α) : Prop := p.Yields fun _ => True

section Combinators

variable {p : Parser α} {post : α → Prop}

theorem yields_pure {a : α} (h : post a) : (pure a : Parser α).Yields post := by
  intro tokens b rest hok hreadable
  cases hok
  exact ⟨hreadable, h⟩

theorem yields_bind {q : α → Parser β} {post' : β → Prop} (hp : p.Yields post)
    (hq : ∀ a, post a → (q a).Yields post') : (p >>= q).Yields post' := by
  intro tokens b rest hok hreadable
  change (p tokens >>= fun result => q result.1 result.2) = .ok (b, rest) at hok
  cases hfirst : p tokens with
  | error left =>
    rw [hfirst] at hok
    cases hok
  | ok result =>
    rw [hfirst] at hok
    obtain ⟨hrest, ha⟩ := hp tokens result.1 result.2 hfirst hreadable
    exact hq result.1 ha result.2 b rest hok hrest

theorem yields_map {f : α → β} {post' : β → Prop} (hp : p.Yields post)
    (hf : ∀ a, post a → post' (f a)) : (f <$> p).Yields post' :=
  yields_bind hp fun a ha => yields_pure (hf a ha)

theorem Yields.weaken {post' : α → Prop} (hp : p.Yields post) (h : ∀ a, post a → post' a) :
    p.Yields post' := fun tokens a rest hok hreadable =>
  ⟨(hp tokens a rest hok hreadable).1, h a (hp tokens a rest hok hreadable).2⟩

theorem yields_refuse : (refuse : Parser α).Yields post := fun _ _ _ hok => by cases hok

theorem yields_take {wanted : Token → Option α}
    (h : ∀ token a, token.IsReadable → wanted token = some a → post a) :
    (take wanted).Yields post := by
  intro tokens a rest hok hreadable
  cases tokens with
  | nil => cases hok
  | cons token tokens =>
    unfold take at hok
    dsimp only at hok
    cases hwanted : wanted token with
    | none =>
      rw [hwanted] at hok
      cases hok
    | some b =>
      rw [hwanted] at hok
      cases hok
      exact ⟨fun other hother => hreadable other (List.mem_cons_of_mem _ hother),
        h token a (hreadable token List.mem_cons_self) hwanted⟩

theorem keepsReadable_take (wanted : Token → Option α) : (take wanted).KeepsReadable :=
  yields_take fun _ _ _ _ => trivial

theorem keepsReadable_next (wanted : Token → Bool) : (next wanted).KeepsReadable := by
  intro tokens a rest hok hreadable
  cases tokens with
  | nil =>
    cases hok
    exact ⟨hreadable, trivial⟩
  | cons token tokens =>
    cases hok
    exact ⟨hreadable, trivial⟩

theorem yields_name : name.Yields IsReadableName := by
  refine yields_take fun token a htoken hname => ?_
  split at hname
  · next hkind =>
    cases hname
    exact htoken hkind
  · cases hname

theorem keepsReadable_name : name.KeepsReadable := yields_name.weaken fun _ _ => trivial

theorem keepsReadable_mark (m : String) : (mark m).KeepsReadable := keepsReadable_take _

theorem keepsReadable_word (w : String) : (word w).KeepsReadable := keepsReadable_take _

theorem keepsReadable_mark? (m : String) : (mark? m).KeepsReadable := by
  refine yields_bind (keepsReadable_next _) fun found _ => ?_
  cases found with
  | true => exact yields_bind (keepsReadable_mark m) fun _ _ => yields_pure trivial
  | false => exact yields_pure trivial

theorem keepsReadable_description : description.KeepsReadable := by
  refine yields_bind (keepsReadable_next _) fun found _ => ?_
  cases found with
  | true => exact keepsReadable_take fun _ => some ()
  | false => exact yields_pure trivial

/-- A list of items is made of what the parser of items gives. -/
theorem yields_manyUntil (close : String) (hp : p.Yields post) (fuel : Nat) :
    (Parser.manyUntil close p fuel).Yields fun items => ∀ a ∈ items, post a := by
  induction fuel with
  | zero => exact yields_refuse
  | succ fuel ih =>
    refine yields_bind (keepsReadable_mark? close) fun found _ => ?_
    cases found with
    | true => exact yields_pure fun _ hnone => absurd hnone List.not_mem_nil
    | false =>
      exact yields_bind hp fun _ hfirst => yields_bind ih fun _ hrest =>
        yields_pure (List.forall_mem_cons.mpr ⟨hfirst, hrest⟩)

theorem yields_someUntil (close : String) (hp : p.Yields post) (fuel : Nat) :
    (someUntil close p fuel).Yields fun items => ∀ a ∈ items, post a :=
  yields_bind hp fun _ hfirst => yields_bind (yields_manyUntil close hp fuel) fun _ hrest =>
    yields_pure (List.forall_mem_cons.mpr ⟨hfirst, hrest⟩)

theorem yields_optionalBlock (opening close : String) (hp : p.Yields post) (fuel : Nat) :
    (optionalBlock opening close p fuel).Yields fun items => ∀ a ∈ items, post a := by
  refine yields_bind (keepsReadable_mark? opening) fun found _ => ?_
  cases found with
  | true => exact yields_someUntil close hp fuel
  | false => exact yields_pure fun _ hnone => absurd hnone List.not_mem_nil

theorem keepsReadable_manyUntil (close : String) (hp : p.KeepsReadable) (fuel : Nat) :
    (Parser.manyUntil close p fuel).KeepsReadable :=
  (yields_manyUntil close hp fuel).weaken fun _ _ => trivial

theorem keepsReadable_someUntil (close : String) (hp : p.KeepsReadable) (fuel : Nat) :
    (someUntil close p fuel).KeepsReadable :=
  (yields_someUntil close hp fuel).weaken fun _ _ => trivial

theorem keepsReadable_optionalBlock (opening close : String) (hp : p.KeepsReadable) (fuel : Nat) :
    (optionalBlock opening close p fuel).KeepsReadable :=
  (yields_optionalBlock opening close hp fuel).weaken fun _ _ => trivial

theorem keepsReadable_separated (separator : String) (hp : p.KeepsReadable) (fuel : Nat) :
    (separated separator p fuel).KeepsReadable := by
  induction fuel with
  | zero => exact yields_refuse
  | succ fuel ih =>
    refine yields_bind hp fun _ _ => yields_bind (keepsReadable_mark? separator) fun found _ => ?_
    cases found with
    | true => exact yields_bind ih fun _ _ => yields_pure trivial
    | false => exact yields_pure trivial

end Combinators

section Grammar

variable {p : Parser α} {q : α → Parser β}

theorem keepsReadable_pure (a : α) : (pure a : Parser α).KeepsReadable := yields_pure trivial

theorem keepsReadable_bind (hp : p.KeepsReadable) (hq : ∀ a, (q a).KeepsReadable) :
    (p >>= q).KeepsReadable := yields_bind hp fun a _ => hq a

theorem keepsReadable_map {f : α → β} (hp : p.KeepsReadable) : (f <$> p).KeepsReadable :=
  yields_map hp fun _ _ => trivial

theorem keepsReadable_value (allowsVariables : Bool) (fuel : Nat) :
    (value allowsVariables fuel).KeepsReadable := by
  induction fuel with
  | zero => exact yields_refuse
  | succ fuel ih =>
    have hmember : (do
        let key ← name
        mark ":"
        let v ← value allowsVariables fuel
        pure (key, v) : Parser (String × Value)).KeepsReadable :=
      keepsReadable_bind keepsReadable_name fun _ => keepsReadable_bind (keepsReadable_mark _)
        fun _ => keepsReadable_bind ih fun _ => keepsReadable_pure _
    refine keepsReadable_bind (keepsReadable_next _) fun dollar => ?_
    split
    · exact keepsReadable_bind (keepsReadable_mark _) fun _ => keepsReadable_map keepsReadable_name
    · refine keepsReadable_bind (keepsReadable_mark? "[") fun found => ?_
      split
      · exact keepsReadable_map (keepsReadable_manyUntil _ ih fuel)
      · refine keepsReadable_bind (keepsReadable_mark? "\x7b") fun found => ?_
        split
        · exact keepsReadable_map (keepsReadable_manyUntil _ hmember fuel)
        · exact keepsReadable_take _

theorem keepsReadable_argument (fuel : Nat) : (argument fuel).KeepsReadable :=
  keepsReadable_bind keepsReadable_name fun _ => keepsReadable_bind (keepsReadable_mark _) fun _ =>
    keepsReadable_bind (keepsReadable_value true fuel) fun _ => keepsReadable_pure _

theorem keepsReadable_directives (fuel : Nat) : (directives fuel).KeepsReadable := by
  induction fuel with
  | zero => exact yields_refuse
  | succ fuel ih =>
    refine keepsReadable_bind (keepsReadable_mark? "@") fun found => ?_
    cases found with
    | true =>
      exact keepsReadable_bind keepsReadable_name fun _ =>
        keepsReadable_bind (keepsReadable_optionalBlock _ _ (keepsReadable_argument fuel) fuel)
          fun _ => keepsReadable_bind ih fun _ => keepsReadable_pure _
    | false => exact keepsReadable_pure _

theorem keepsReadable_typeRef (fuel : Nat) : (typeRef fuel).KeepsReadable := by
  induction fuel with
  | zero => exact yields_refuse
  | succ fuel ih =>
    have hend (inner : TypeRef) : (do if ← mark? "!" then pure (.nonNull inner) else
        pure inner : Parser TypeRef).KeepsReadable := by
      refine keepsReadable_bind (keepsReadable_mark? "!") fun found => ?_
      cases found <;> exact keepsReadable_pure _
    refine keepsReadable_bind (keepsReadable_mark? "[") fun found => ?_
    cases found with
    | true =>
      exact keepsReadable_bind ih fun _ => keepsReadable_bind (keepsReadable_mark "]") fun _ =>
        keepsReadable_bind (keepsReadable_pure _) hend
    | false => exact keepsReadable_bind (keepsReadable_map keepsReadable_name) hend

theorem keepsReadable_inputValue (fuel : Nat) : (inputValue fuel).KeepsReadable := by
  have hend : (do let _ ← directives fuel : Parser Unit).KeepsReadable :=
    keepsReadable_bind (keepsReadable_directives fuel) fun _ => keepsReadable_pure _
  refine keepsReadable_bind keepsReadable_description fun _ =>
    keepsReadable_bind keepsReadable_name fun _ => keepsReadable_bind (keepsReadable_mark ":")
      fun _ => keepsReadable_bind (keepsReadable_typeRef fuel) fun _ =>
        keepsReadable_bind (keepsReadable_mark? "=") fun found => ?_
  cases found with
  | true => exact keepsReadable_bind (keepsReadable_value false fuel) fun _ => hend
  | false => exact hend

/-- A declared field has the name that was read. -/
theorem yields_field (fuel : Nat) : (field fuel).Yields fun f => IsReadableName f.name :=
  yields_bind keepsReadable_description fun _ _ => yields_bind yields_name fun _ hname =>
    yields_bind (keepsReadable_optionalBlock _ _ (keepsReadable_inputValue fuel) fuel) fun _ _ =>
      yields_bind (keepsReadable_mark ":") fun _ _ =>
        yields_bind (keepsReadable_typeRef fuel) fun _ _ =>
          yields_bind (keepsReadable_directives fuel) fun _ _ => yields_pure hname

theorem keepsReadable_interfaces (fuel : Nat) : (interfaces fuel).KeepsReadable := by
  refine keepsReadable_bind (keepsReadable_next _) fun found => ?_
  cases found with
  | true =>
    exact keepsReadable_bind (keepsReadable_word _) fun _ =>
      keepsReadable_bind (keepsReadable_mark? _) fun _ =>
        keepsReadable_separated _ keepsReadable_name fuel
  | false => exact keepsReadable_pure _

/-- A declared type and its fields have the names that were read. -/
theorem yields_typeDeclaration (fuel : Nat) : (typeDeclaration fuel).Yields fun type =>
    IsReadableName type.name ∧ ∀ f ∈ type.fields, IsReadableName f.name :=
  yields_bind yields_name fun _ hname => yields_bind (keepsReadable_interfaces fuel) fun _ _ =>
    yields_bind (keepsReadable_directives fuel) fun _ _ =>
      yields_bind (yields_optionalBlock _ _ (yields_field fuel) fuel) fun _ hfields =>
        yields_pure ⟨hname, hfields⟩

/-- A declared enum and its values have the names that were read. -/
theorem yields_enumDeclaration (fuel : Nat) : (enumDeclaration fuel).Yields fun type =>
    IsReadableName type.name ∧ ∀ value ∈ type.values, IsReadableName value := by
  have hvalue : (do
      description
      let valueName ← name
      let _ ← directives fuel
      pure valueName : Parser String).Yields IsReadableName :=
    yields_bind keepsReadable_description fun _ _ => yields_bind yields_name fun _ hname =>
      yields_bind (keepsReadable_directives fuel) fun _ _ => yields_pure hname
  exact yields_bind yields_name fun _ hname =>
    yields_bind (keepsReadable_directives fuel) fun _ _ =>
      yields_bind (yields_optionalBlock _ _ hvalue fuel) fun _ hvalues =>
        yields_pure ⟨hname, hvalues⟩

theorem keepsReadable_directiveDefinition (fuel : Nat) :
    (directiveDefinition fuel).KeepsReadable := by
  have hend : (do
      word "on"
      let _ ← mark? "|"
      let location := take fun token =>
        if token.kind = .name && directiveLocations.contains token.text then some () else none
      let _ ← separated "|" location fuel : Parser Unit).KeepsReadable :=
    keepsReadable_bind (keepsReadable_word _) fun _ => keepsReadable_bind (keepsReadable_mark? _)
      fun _ => keepsReadable_bind (keepsReadable_separated _ (keepsReadable_take _) fuel) fun _ =>
        keepsReadable_pure _
  refine keepsReadable_bind (keepsReadable_mark _) fun _ => keepsReadable_bind keepsReadable_name
    fun _ => keepsReadable_bind
      (keepsReadable_optionalBlock _ _ (keepsReadable_inputValue fuel) fuel) fun _ =>
        keepsReadable_bind (keepsReadable_next _) fun found => ?_
  cases found with
  | true => exact keepsReadable_bind (keepsReadable_word _) fun _ => hend
  | false => exact hend

/-- The names that the definition of a type declares: its own and those of its fields or values. -/
def NamesReadable : Definition → Prop
  | .object type => IsReadableName type.name ∧ ∀ f ∈ type.fields, IsReadableName f.name
  | .enum type => IsReadableName type.name ∧ ∀ value ∈ type.values, IsReadableName value
  | _ => True

theorem yields_typeDefinition (fuel : Nat) : (typeDefinition fuel).Yields NamesReadable := by
  refine yields_bind (keepsReadable_take _) fun keyword _ => ?_
  split
  · exact yields_map (yields_typeDeclaration fuel) fun _ hnames => hnames
  · exact yields_map (yields_typeDeclaration fuel) fun _ _ => trivial
  · exact yields_map (yields_enumDeclaration fuel) fun _ hnames => hnames
  · exact yields_bind keepsReadable_name fun _ _ => yields_bind (keepsReadable_directives fuel)
      fun _ _ => yields_pure trivial
  · refine yields_bind keepsReadable_name fun typeName _ =>
      yields_bind (keepsReadable_directives fuel) fun _ _ =>
        yields_bind (keepsReadable_mark? "=") fun found _ => ?_
    have hend : (pure (.union typeName) : Parser Definition).Yields NamesReadable :=
      yields_pure trivial
    cases found with
    | true =>
      exact yields_bind (keepsReadable_mark? _) fun _ _ =>
        yields_bind (keepsReadable_separated _ keepsReadable_name fuel) fun _ _ => hend
    | false => exact hend
  · exact yields_bind keepsReadable_name fun _ _ => yields_bind (keepsReadable_directives fuel)
      fun _ _ => yields_bind (keepsReadable_optionalBlock _ _ (keepsReadable_inputValue fuel) fuel)
        fun _ _ => yields_pure trivial

theorem keepsReadable_schemaDefinition (fuel : Nat) : (schemaDefinition fuel).KeepsReadable := by
  have hbody : (do
      word "schema"
      let _ ← directives fuel
      mark "\x7b"
      someUntil "\x7d" (do
        let kind ← take fun token =>
          if token.kind = .name && ["query", "mutation", "subscription"].contains token.text then
            some token.text
          else none
        mark ":"
        let _ ← name
        pure kind) fuel : Parser (List String)).KeepsReadable :=
    keepsReadable_bind (keepsReadable_word _) fun _ =>
      keepsReadable_bind (keepsReadable_directives fuel) fun _ =>
        keepsReadable_bind (keepsReadable_mark _) fun _ => keepsReadable_someUntil _
          (keepsReadable_bind (keepsReadable_take _) fun _ => keepsReadable_bind
            (keepsReadable_mark _) fun _ => keepsReadable_bind keepsReadable_name fun _ =>
              keepsReadable_pure _) fuel
  have hcheck (tokens : List Token) (kinds : List String) : Parser.KeepsReadable
      (fun rest => if kinds.Nodup then .ok ((), rest) else .error tokens : Parser Unit) := by
    intro rest a left hok hreadable
    dsimp only at hok
    split at hok
    · cases hok
      exact ⟨hreadable, trivial⟩
    · cases hok
  intro tokens
  exact keepsReadable_bind hbody (hcheck tokens) tokens

theorem yields_definition (fuel : Nat) : (definition fuel).Yields NamesReadable := by
  have hother : NamesReadable .other := trivial
  refine yields_bind (keepsReadable_next _) fun isSchema _ => ?_
  split
  · exact yields_bind (keepsReadable_schemaDefinition fuel) fun _ _ => yields_pure hother
  · refine yields_bind (keepsReadable_next _) fun isExtension _ => ?_
    split
    · exact yields_bind (keepsReadable_word _) fun _ _ =>
        yields_bind (yields_typeDefinition fuel) fun _ _ => yields_pure hother
    · refine yields_bind keepsReadable_description fun _ _ =>
        yields_bind (keepsReadable_next _) fun isDirective _ => ?_
      split
      · exact yields_bind (keepsReadable_word _) fun _ _ =>
          yields_bind (keepsReadable_directiveDefinition fuel) fun _ _ => yields_pure hother
      · exact yields_typeDefinition fuel

theorem yields_definitions (fuel : Nat) :
    (definitions fuel).Yields fun document => ∀ d ∈ document, NamesReadable d := by
  induction fuel with
  | zero => exact yields_refuse
  | succ fuel ih =>
    have hget : Parser.KeepsReadable (get : Parser (List Token)) := by
      intro tokens a rest hok hreadable
      cases hok
      exact ⟨hreadable, trivial⟩
    refine yields_bind (yields_definition fuel) fun first hfirst =>
      yields_bind hget fun tokens _ => ?_
    split
    · exact yields_pure fun d hd => List.mem_singleton.mp hd ▸ hfirst
    · refine yields_bind ih fun rest hrest => yields_pure fun d hd => ?_
      rcases List.mem_cons.mp hd with rfl | hd
      · exact hfirst
      · exact hrest d hd

end Grammar

end Parser

/-- Every type is declared under a readable name, and so are its fields or values. -/
theorem namesReadable_of_parse {text : String} {document : Document}
    (h : parse text = .ok document) {d : Definition} (hd : d ∈ document) :
    Parser.NamesReadable d := by
  unfold parse at h
  dsimp only at h
  split at h
  · cases h
  · next document' rest hparsed =>
    split at h
    · cases h
      exact (Parser.yields_definitions _ _ _ _ hparsed isReadable_of_mem_scanFrom).2 d hd
    · cases h

theorem isReadableName_of_parse {text : String} {document : Document}
    (h : parse text = .ok document) {type : TypeDeclaration} (htype : .object type ∈ document) :
    IsReadableName type.name :=
  (namesReadable_of_parse h htype).1

end Keyspace.Schema
