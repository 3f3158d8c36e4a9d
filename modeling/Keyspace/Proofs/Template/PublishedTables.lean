import Keyspace.Proofs.Json.TextObjects
import Keyspace.Proofs.Template.FilledText
import Keyspace.Proofs.Template.FunctionVariables
import Keyspace.Proofs.Template.RootNames
import Keyspace.Proofs.Text.WordStyles
import Keyspace.Store
import Mathlib.Data.List.Nodup

/-!
# Tables told to functions

A nested stack is given the physical names of its tables as parameters, and publishes them to
its functions as one text. The parameters are derived from the tables' names in pascal case, the
keys of the text in screaming snake case; only the former are refused when they are taken. For
ASCII names the latter decide the former, so no two tables share a key, and every function
reads exactly the physical names of its tables.
-/
namespace Keyspace

open Text CutText Stacks Template

/-- A character of a physical table name. -/
def IsPhysicalChar (c : Char) : Prop := c.isAlphanum = true ∨ c ∈ ['_', '.', '-']

theorem IsPhysicalChar.isPlainChar {c : Char} (h : IsPhysicalChar c) : Json.IsPlainChar c := by
  rcases h with h | h
  · have hcode := code_of_isAlphanum h
    have hne {d : Char} (hd : d.isAlphanum = false) : c ≠ d := by
      rintro rfl
      rw [h] at hd
      cases hd
    exact ⟨hne (by decide), hne (by decide), by omega⟩
  · simp only [List.mem_cons, List.not_mem_nil, or_false] at h
    rcases h with rfl | rfl | rfl <;> exact ⟨by decide, by decide, by decide⟩

/-! ## The text that is published -/

/-- The text in which variables are published under keys. -/
def publishedText (entries : List (String × String)) : String :=
  (Json.object (entries.map fun (key, parameter) =>
    (key, .str (String.ofList (writtenVariable parameter))))).compact

theorem tableNames_eq (tables : List String) : tableNames tables =
    .sub (publishedText (tables.map fun table => (tableVariable table, tableParameter table))) := rfl

/-- An object of texts is written as the text of its members. -/
theorem toList_compact_textObject {d : Dict String}
    (h : ∀ entry ∈ d, (∀ c ∈ entry.1.toList, StandsForItself c) ∧
      ∀ c ∈ entry.2.toList, StandsForItself c) :
    (Json.obj (d.mapValues Json.str)).compact.toList = Json.textObject d := by
  have hmembers : (Json.compactMembers (d.mapValues Json.str)).map String.toList =
      d.map Json.textMember := by
    rw [compactMembers_eq, Dict.mapValues, List.map_map, List.map_map]
    refine List.map_congr_left fun entry hentry => ?_
    obtain ⟨hkey, htext⟩ := h entry hentry
    show (Json.quote entry.1 ++ ":" ++ Json.quote entry.2).toList = _
    rw [String.toList_append, String.toList_append, toList_quote hkey, toList_quote htext]
    simp [Json.textMember]
  show ("\x7b" ++ String.intercalate "," (Json.compactMembers _) ++ "\x7d").toList = _
  rw [String.toList_append, String.toList_append, String.toList_intercalate, hmembers]
  rfl

section Published

variable {entries : List (String × String)}

theorem toList_publishedText
    (hkeys : ∀ entry ∈ entries, ∀ c ∈ entry.1.toList, c.isAlphanum = true ∨ c = '_')
    (hnames : ∀ entry ∈ entries, ∀ c ∈ entry.2.toList, c.isAlphanum = true) :
    (publishedText entries).toList = Json.textObject
      ((Dict.ofList entries).mapValues fun parameter => String.ofList (writtenVariable parameter)) := by
  have hmembers : (Dict.ofList (entries.map fun (key, parameter) =>
      (key, Json.str (String.ofList (writtenVariable parameter))))) =
      ((Dict.ofList entries).mapValues fun parameter =>
        String.ofList (writtenVariable parameter)).mapValues Json.str := by
    rw [Dict.ofList_map fun parameter => Json.str (String.ofList (writtenVariable parameter))]
    simp only [Dict.mapValues, List.map_map]
    rfl
  rw [publishedText, Json.object, hmembers, toList_compact_textObject]
  intro member hmember
  obtain ⟨entry, hentry, rfl⟩ := List.mem_map.mp hmember
  have hentry := Dict.mem_of_mem_ofList hentry
  refine ⟨fun c hc => (hkeys entry hentry c hc).imp_right fun heq => (by simp [heq]), ?_⟩
  intro c hc
  simp only [String.toList_ofList, writtenVariable, List.cons_append, List.mem_cons,
    List.mem_append, List.not_mem_nil, or_false] at hc
  rcases hc with rfl | rfl | hc | rfl
  · exact Or.inr (by decide)
  · exact Or.inr (by decide)
  · exact Or.inl (hnames entry hentry c hc)
  · exact Or.inr (by decide)

theorem fills_textMember {value : String → String} {entry : String × String}
    (hkey : '$' ∉ entry.1.toList) (hname : NamesItself entry.2) :
    Fills value (Json.textMember (entry.1, String.ofList (writtenVariable entry.2)))
      (Json.textMember (entry.1, value entry.2)) := by
  have hbefore : Fills value ['"', ':', '"'] ['"', ':', '"'] := Fills.of_plain (by decide)
  have hafter : Fills value ['"'] ['"'] := Fills.of_plain (by decide)
  have hquoted : Fills value ('"' :: entry.1.toList) ('"' :: entry.1.toList) :=
    Fills.of_plain (by simpa using hkey)
  simpa [Json.textMember] using hquoted.append ((hbefore.append (Fills.lone hname)).append hafter)

/-- With values in place of the parameters the published text is the object of the values. -/
theorem fillText_publishedText {value : String → String}
    (hkeys : ∀ entry ∈ entries, ∀ c ∈ entry.1.toList, c.isAlphanum = true ∨ c = '_')
    (hnames : ∀ entry ∈ entries, entry.2 ≠ "" ∧ ∀ c ∈ entry.2.toList, c.isAlphanum = true) :
    fillText value (publishedText entries) =
      String.ofList (Json.textObject ((Dict.ofList entries).mapValues value)) := by
  have hfills : Fills value (publishedText entries).toList
      (Json.textObject ((Dict.ofList entries).mapValues value)) := by
    rw [toList_publishedText hkeys fun entry hentry => (hnames entry hentry).2]
    unfold Json.textObject
    rw [Dict.mapValues, Dict.mapValues, List.map_map, List.map_map]
    refine (Fills.cons (by decide) (Fills.intercalate (by decide) fun entry hentry => ?_)).append
      (Fills.of_plain (by decide))
    have hentry := Dict.mem_of_mem_ofList hentry
    obtain ⟨hne, halnum⟩ := hnames entry hentry
    refine fills_textMember (fun hmem => ?_)
      (namesItself_of_isWordChar hne fun c hc => Or.inl (halnum c hc))
    exact absurd (hkeys entry hentry '$' hmem) (by decide)
  rw [← String.toList_inj, toList_fillText hfills, String.toList_ofList]

/-- With plain values in place of the parameters the published text is read back. -/
theorem readTexts_publishedText {value : String → String}
    (hkeys : ∀ entry ∈ entries, ∀ c ∈ entry.1.toList, c.isAlphanum = true ∨ c = '_')
    (hnames : ∀ entry ∈ entries, entry.2 ≠ "" ∧ ∀ c ∈ entry.2.toList, c.isAlphanum = true)
    (hvalues : ∀ entry ∈ entries, ∀ c ∈ (value entry.2).toList, Json.IsPlainChar c)
    (variableName : String) :
    Environment.readTexts variableName (some (fillText value (publishedText entries))) =
      .ok ((Dict.ofList entries).mapValues value) := by
  have hplain : ∀ e ∈ (Dict.ofList entries).mapValues value, Json.IsPlainMember e := by
    intro e he
    obtain ⟨entry, hentry, rfl⟩ := List.mem_map.mp he
    have hentry := Dict.mem_of_mem_ofList hentry
    refine ⟨fun c hc => IsPhysicalChar.isPlainChar ?_, hvalues entry hentry⟩
    exact (hkeys entry hentry c hc).imp_right fun heq => by simp [heq]
  have hordered : Dict.Ordered ((Dict.ofList entries).mapValues value) := by
    rw [Dict.ordered_iff_keys, Dict.keys_mapValues, ← Dict.ordered_iff_keys]
    exact Dict.ordered_ofList entries
  rw [fillText_publishedText hkeys hnames, Environment.readTexts_textObject hplain,
    hordered.ofList_eq]

end Published

/-- A process that has not yet read its variables reads both. -/
theorem Environment.unpack_eq {e : Environment} {lookup : String → Option String}
    {tables values : Dict String} (h : e.isUnpacked = false)
    (htables : readTexts tableNamesVariable (lookup tableNamesVariable) = .ok tables)
    (hvalues : readTexts variablesVariable (lookup variablesVariable) = .ok values) :
    e.unpack lookup =
      .ok (true, ⟨Dict.union e.tables tables, Dict.union e.values values, true⟩) := by
  unfold unpack
  rw [if_neg (by simp [h]), htables, hvalues]
  rfl

/-! ## No two tables share a key -/

theorem tableLogicalId_of_tableVariable {table table' : String} (hascii : IsAscii table.toList)
    (hascii' : IsAscii table'.toList) (h : tableVariable table = tableVariable table') :
    tableLogicalId table = tableLogicalId table' :=
  pascalCase_congr hascii hascii' ((String.append_right_inj _).mp h)

/-- In a stack set that is built the logical ids of tables are distinct. -/
theorem nodup_tableLogicalId {config : Config} {b : Blueprint} {s : Stacks}
    (h : Stacks.ofBlueprint config b = .ok s) :
    (b.tables.map fun t => tableLogicalId t.name).Nodup := by
  obtain ⟨root, htables, -⟩ := ofBlueprint_stages h
  obtain ⟨-, -, hdistinct⟩ := addTables_eq_none htables rfl
  rw [List.map_flatMap, List.nodup_flatMap] at hdistinct
  refine List.pairwise_map.mpr (hdistinct.2.imp fun hdisjoint heq => ?_)
  refine hdisjoint (List.mem_cons_of_mem _ (List.mem_singleton_self _)) ?_
  rw [heq]
  exact List.mem_cons_of_mem _ (List.mem_singleton_self _)

section Told

variable {config : Config} {b : Blueprint} {s : Stacks}

/-- A nested stack lists tables of the blueprint, each one once. -/
theorem tables_nested (hwired : b.IsWired) (hsound : b.IsSound) (hsettled : b.HandlersSettled)
    (hs : Stacks.ofBlueprint config b = .ok s) {name : String} {n : NestedStack}
    (hn : s.nested.get? name = some n) :
    n.tables.Nodup ∧ (∀ table ∈ n.tables, ∃ t ∈ b.tables, t.name = table) ∧
      ∀ id r, n.template.resources.get? id = some r → r.type = functionType →
        r.published? "TABLE_NAMES" = some (tableNames n.tables) := by
  have hname : name ∈ s.nested.keys := Dict.mem_keys_iff.mpr (by rw [hn]; rfl)
  obtain ⟨f, hf, rfl⟩ := (keys_ofBlueprint hs name).mp hname
  obtain ⟨n', hn', htables, hresources⟩ := exists_nested hsound hwired hs hf
  cases hn.symm.trans hn'
  rw [htables]
  refine ⟨?_, fun table htable => FunctionStack.exists_table hwired hsettled hf htable,
    fun id r hr hfunction => ?_⟩
  · obtain ⟨t, -, d, -, rfl | ⟨m, -, -, h, -, rfl⟩⟩ := FunctionStack.mem_ofBlueprint.mp hf
    · exact List.nodup_singleton _
    · exact sortedDistinct_nodup _
  · rw [hresources] at hr
    obtain ⟨r', -, rfl⟩ := Option.map_eq_some_iff.mp hr
    rw [type_wiredResource] at hfunction
    exact published?_wiredResource config _ hfunction

/-- The variables of a stack's tables with their physical names. -/
def physicalTables (n : NestedStack) (physical : String → String) : Dict String :=
  Dict.ofList (n.tables.map fun table => (tableVariable table, physical table))

/-- A process whose variable has the text of a function's tables finds exactly these tables, and
a store there finds the table of every model on one of them. -/
structure FindsTables (n : NestedStack) (physical : String → String) (text : String) : Prop where
  read : Environment.readTexts Environment.tableNamesVariable (some text) =
    .ok (physicalTables n physical)
  unpacked : ∀ lookup values, lookup Environment.tableNamesVariable = some text →
    Environment.readTexts Environment.variablesVariable
      (lookup Environment.variablesVariable) = .ok values →
    ∃ e, Environment.new.unpack lookup = .ok (true, e) ∧ e.tables = physicalTables n physical ∧
      ∀ (σ : Type) (service : StorageService σ) (t : RecordType), t.model.table ∈ n.tables →
        Store.table ⟨service, e⟩ t = .ok (physical t.model.table)

/-- The functions of a nested stack are told its tables, whatever their physical names are. -/
structure TellsTables (n : NestedStack) (physical : String → String) : Prop where
  variablesDistinct : (n.tables.map tableVariable).Nodup
  parametersDistinct : (n.tables.map tableParameter).Nodup
  told : ∀ id r, n.template.resources.get? id = some r → r.type = functionType →
    ∃ text, r.published? Environment.tableNamesVariable = some (.sub text) ∧
      ∀ value : String → String,
        (∀ table ∈ n.tables, value (tableParameter table) = physical table) →
        FindsTables n physical (fillText value text)

theorem findsTables_of_read {n : NestedStack} {physical : String → String} {text : String}
    (hdistinct : (n.tables.map tableVariable).Nodup)
    (hread : Environment.readTexts Environment.tableNamesVariable (some text) =
      .ok (physicalTables n physical)) : FindsTables n physical text := by
  refine ⟨hread, fun lookup values htext hvalues => ?_⟩
  have htables : Dict.union Environment.new.tables (physicalTables n physical) =
      physicalTables n physical := (Dict.ordered_ofList _).ofList_eq
  have hunpacked := Environment.unpack_eq (e := .new) rfl (by rw [htext]; exact hread) hvalues
  refine ⟨_, hunpacked, htables, fun σ service t ht => ?_⟩
  have hfound : Dict.get? (physicalTables n physical) (tableVariable t.model.table) =
      some (physical t.model.table) := by
    refine Dict.get?_ofList_of_mem ?_ (List.mem_map_of_mem ht)
    rwa [List.map_map]
  unfold Store.table Environment.tableName
  dsimp only
  rw [htables, hfound]

/-- With physical names in place of the parameters the text of tables is read back. -/
theorem readTexts_publishedTables {tables : List String} {value physical : String → String}
    (hascii : ∀ table ∈ tables, IsAscii table.toList)
    (hphysical : ∀ table ∈ tables, ∀ c ∈ (physical table).toList, IsPhysicalChar c)
    (hvalue : ∀ table ∈ tables, value (tableParameter table) = physical table)
    (variableName : String) :
    Environment.readTexts variableName (some (fillText value (publishedText
      (tables.map fun table => (tableVariable table, tableParameter table))))) =
      .ok (Dict.ofList (tables.map fun table => (tableVariable table, physical table))) := by
  have hkeys : ∀ entry ∈ tables.map fun table => (tableVariable table, tableParameter table),
      ∀ c ∈ entry.1.toList, c.isAlphanum = true ∨ c = '_' := by
    intro entry hentry c hc
    obtain ⟨table, htable, rfl⟩ := List.mem_map.mp hentry
    exact mem_tableVariable (hascii table htable) hc
  have hnames : ∀ entry ∈ tables.map fun table => (tableVariable table, tableParameter table),
      entry.2 ≠ "" ∧ ∀ c ∈ entry.2.toList, c.isAlphanum = true := by
    intro entry hentry
    obtain ⟨table, htable, rfl⟩ := List.mem_map.mp hentry
    obtain ⟨hne, halnum⟩ := isParameterName_tableParameter (hascii table htable)
    exact ⟨by simpa using hne, List.all_eq_true.mp halnum⟩
  have hmembers : (Dict.ofList (tables.map fun table =>
      (tableVariable table, tableParameter table))).mapValues value =
      Dict.ofList (tables.map fun table => (tableVariable table, physical table)) := by
    rw [← Dict.ofList_map, List.map_map]
    exact congrArg Dict.ofList (List.map_congr_left fun table htable => by simp [hvalue table htable])
  have hvalues : ∀ entry ∈ tables.map fun table => (tableVariable table, tableParameter table),
      ∀ c ∈ (value entry.2).toList, Json.IsPlainChar c := by
    intro entry hentry c hc
    obtain ⟨table, htable, rfl⟩ := List.mem_map.mp hentry
    rw [hvalue table htable] at hc
    exact (hphysical table htable c hc).isPlainChar
  rw [readTexts_publishedText hkeys hnames hvalues, hmembers]

/-- In the stack set of an accepted schema with ASCII table names, every function of a nested
stack is told exactly the physical names of the stack's tables. -/
theorem tellsTables {text : String} (hb : Blueprint.ofSchema config text = .ok b)
    (hascii : ∀ t ∈ b.tables, IsAscii t.name.toList) (hs : Stacks.ofBlueprint config b = .ok s)
    {name : String} {n : NestedStack} (hn : s.nested.get? name = some n)
    {physical : String → String}
    (hphysical : ∀ table ∈ n.tables, ∀ c ∈ (physical table).toList, IsPhysicalChar c) :
    TellsTables n physical := by
  obtain ⟨hnodup, hlisted, hfunctions⟩ := tables_nested (Blueprint.ofSchema_isWired hb)
    (Blueprint.ofSchema_isSound hb) (Blueprint.ofSchema_handlersSettled hb) hs hn
  have hdistinct := nodup_tableLogicalId hs
  have htable : ∀ table ∈ n.tables, IsAscii table.toList := fun table htable => by
    obtain ⟨t, ht, rfl⟩ := hlisted table htable
    exact hascii t ht
  have hinj {table table' : String} (h : table ∈ n.tables) (h' : table' ∈ n.tables)
      (hid : tableLogicalId table = tableLogicalId table') : table = table' := by
    obtain ⟨t, ht, rfl⟩ := hlisted table h
    obtain ⟨t', ht', rfl⟩ := hlisted table' h'
    rw [List.inj_on_of_nodup_map hdistinct ht ht' hid]
  have hvariables : (n.tables.map tableVariable).Nodup :=
    hnodup.map_on fun table h table' h' heq =>
      hinj h h' (tableLogicalId_of_tableVariable (htable table h) (htable table' h') heq)
  refine ⟨hvariables, hnodup.map_on fun table h table' h' heq =>
    hinj h h' (tableLogicalId_of_tableParameter heq), fun id r hr hfunction => ?_⟩
  refine ⟨_, (hfunctions id r hr hfunction).trans (congrArg some (tableNames_eq n.tables)),
    fun value hvalue => findsTables_of_read hvariables ?_⟩
  exact readTexts_publishedTables htable hphysical hvalue _

end Told

open ReactorExample in
/-- The function of a reactor is told its table under a name with a dot. -/
theorem reactor_told_its_table : ∃ s n,
    Stacks.ofBlueprint (withVariable "STAGE") blueprint = .ok s ∧
      s.nested.get? "FnHStack" = some n ∧ n.tables = ["A"] ∧ TellsTables n fun _ => "prod.A" := by
  obtain ⟨s, hs⟩ := exists_stacks.2
  have hschema := ofSchema_schema "STAGE"
  have hf : FunctionStack.ofHandler (withVariable "STAGE") table handler ∈
      FunctionStack.ofBlueprint blueprint (withVariable "STAGE") :=
    FunctionStack.mem_ofBlueprint.mpr ⟨table, List.mem_singleton_self _, dispatcher, rfl,
      Or.inr ⟨model, List.mem_singleton_self _, rfl, handler, List.mem_singleton_self _, rfl⟩⟩
  obtain ⟨n, hn, htables, -⟩ := exists_nested (Blueprint.ofSchema_isSound hschema)
    (Blueprint.ofSchema_isWired hschema) hs hf
  have hphysical : ∀ c ∈ "prod.A".toList, IsPhysicalChar c := by simp [IsPhysicalChar]
  have hascii : ∀ c ∈ "A".toList, c.toNat < 128 := by simp
  exact ⟨s, n, hs, hn, htables.trans (by decide), tellsTables hschema
    (fun t ht => List.mem_singleton.mp ht ▸ hascii) hs hn fun _ _ => hphysical⟩

end Keyspace
