import Keyspace.Blueprint.Json
import Keyspace.CommandLine.Run
import Keyspace.Proofs.Json.Members
import Keyspace.Proofs.Json.PrintedText

/-!
# Blueprints read back

Every record of a blueprint is read back from its JSON form: its members are found under their
names, and one that is null was unset. A key or an index is told by its tag. The form nests seven
containers deep at most, so that its text is read back too, and a blueprint is known from what is
shown of it.
-/
namespace Keyspace

open Json

/-- The tag of a record comes off, and leaves the other members. -/
theorem Json.tagged?_object {entries : List (String × Json)} (h : "type" ∉ entries.map (·.1))
    (tag : String) :
    tagged? (object (("type", str tag) :: entries)) = some (tag, object entries) := by
  have hnone : Dict.get? (Dict.ofList entries) "type" = none :=
    Dict.get?_eq_none_iff.mpr fun hmem => h (Dict.mem_keys_ofList.mp hmem)
  have htag : Dict.get? (Dict.ofList (("type", str tag) :: entries)) "type" = some (str tag) := by
    rw [Dict.get?_ofList_cons, hnone, if_pos rfl, Option.none_or]
  have herased : Dict.erase (Dict.ofList (("type", str tag) :: entries)) "type" =
      Dict.ofList entries := by
    refine ((Dict.ordered_ofList _).erase "type").ext (Dict.ordered_ofList entries) fun key => ?_
    rw [Dict.get?_erase (Dict.ordered_ofList _)]
    split
    · next hkey => rw [hkey, hnone]
    · next hkey => rw [Dict.get?_ofList_cons, if_neg (Ne.symm hkey), Option.or_none]
  unfold tagged? object
  dsimp only
  rw [htag, herased]
  rfl

theorem Json.optional_ofOption_str (text : Option String) :
    Json.optional decodeString (some (ofOption str text)) = some text :=
  optional_ofOption (fun _ _ => rfl) fun _ _ h => nomatch h

/-! ## Records without numbers -/

theorem EnumType.ofJson?_toJson (e : EnumType) : ofJson? e.toJson = some e := by
  unfold ofJson? toJson
  rw [members?_object_of_nodup rfl (by decide)]
  simp [decodeList_ofStrings]

theorem ComputeFunction.ofJson?_toJson (c : ComputeFunction) : ofJson? c.toJson = some c := by
  unfold ofJson? toJson
  rw [members?_object_of_nodup rfl (by decide)]
  simp

theorem ComputeFunction.optional_toJson (c : Option ComputeFunction) :
    Json.optional ofJson? (some (ofOption toJson c)) = some c :=
  optional_ofOption (fun c _ => c.ofJson?_toJson) fun _ _ h => nomatch h

theorem FieldKind.decodeChoice_name (k : FieldKind) : decodeChoice names (str k.name) = some k := by
  cases k <;> decide

theorem Field.ofJson?_toJson (f : Field) : ofJson? f.toJson = some f := by
  unfold ofJson? toJson
  rw [members?_object_of_nodup rfl (by decide)]
  simp [decodeList_ofStrings, FieldKind.decodeChoice_name, ComputeFunction.optional_toJson]

theorem KeyPart.ofJson?_toJson (p : KeyPart) : ofJson? p.toJson = some p := by
  unfold ofJson? toJson
  rw [members?_object_of_nodup rfl (by decide)]
  simp [decodeList_ofStrings, optional_ofOption_str]

theorem KeyPart.optional_toJson (p : Option KeyPart) :
    Json.optional ofJson? (some (ofOption toJson p)) = some p :=
  optional_ofOption (fun p _ => p.ofJson?_toJson) fun _ _ h => nomatch h

theorem PrimaryKey.ofJson?_toJson (key : PrimaryKey) : ofJson? key.toJson = some key := by
  cases key with
  | simple p =>
    unfold ofJson? toJson
    rw [tagged?_object (by simp), Option.bind_eq_bind, Option.bind_some]
    show (members? _ (object _) >>= _) = _
    rw [members?_object_of_nodup rfl (by decide)]
    simp [KeyPart.ofJson?_toJson]
  | composite p s =>
    unfold ofJson? toJson
    rw [tagged?_object (by simp), Option.bind_eq_bind, Option.bind_some]
    show (members? _ (object _) >>= _) = _
    rw [members?_object_of_nodup rfl (by decide)]
    simp [KeyPart.ofJson?_toJson]

theorem Projection.decodeChoice_name (p : Projection) :
    decodeChoice names (str p.name) = some p := by
  cases p <;> decide

theorem SecondaryIndex.ofJson?_toJson (index : SecondaryIndex) :
    ofJson? index.toJson = some index := by
  cases index with
  | global name p s projection =>
    unfold ofJson? toJson
    rw [tagged?_object (by simp), Option.bind_eq_bind, Option.bind_some]
    show (members? _ (object _) >>= _) = _
    rw [members?_object_of_nodup rfl (by decide)]
    simp [KeyPart.ofJson?_toJson, KeyPart.optional_toJson, Projection.decodeChoice_name]
  | «local» name s projection =>
    unfold ofJson? toJson
    rw [tagged?_object (by simp), Option.bind_eq_bind, Option.bind_some]
    show (members? _ (object _) >>= _) = _
    rw [members?_object_of_nodup rfl (by decide)]
    simp [KeyPart.ofJson?_toJson, Projection.decodeChoice_name]

/-! ## Records with numbers -/

/-- The sizes have 32 bits. -/
structure Sizing.Fits (s : Sizing) : Prop where
  memorySize : s.memorySize ≤ uint32Max
  timeout : s.timeout ≤ uint32Max

structure Dispatcher.Fits (d : Dispatcher) : Prop where
  batchSize : d.batchSize ≤ uint32Max
  maximumRetryAttempts : d.maximumRetryAttempts ≤ uint32Max
  sizing : d.sizing.Fits

structure Model.Fits (m : Model) : Prop where
  ttl : ∀ t ∈ m.ttl, ∀ n ∈ t.seconds, n ≤ uint64Max
  handlers : ∀ h ∈ m.handlers, h.sizing.Fits

/-- Every number has the bits that its place in the blueprint has. -/
structure Blueprint.Fits (b : Blueprint) : Prop where
  models : ∀ m ∈ b.models, m.Fits
  tables : ∀ t ∈ b.tables, ∀ d ∈ t.dispatcher, d.Fits

instance (s : Sizing) : Decidable s.Fits :=
  decidable_of_iff (s.memorySize ≤ uint32Max ∧ s.timeout ≤ uint32Max)
    ⟨fun h => ⟨h.1, h.2⟩, fun h => ⟨h.memorySize, h.timeout⟩⟩

instance (d : Dispatcher) : Decidable d.Fits :=
  decidable_of_iff (d.batchSize ≤ uint32Max ∧ d.maximumRetryAttempts ≤ uint32Max ∧ d.sizing.Fits)
    ⟨fun h => ⟨h.1, h.2.1, h.2.2⟩, fun h => ⟨h.batchSize, h.maximumRetryAttempts, h.sizing⟩⟩

instance (m : Model) : Decidable m.Fits :=
  decidable_of_iff
    ((∀ t ∈ m.ttl, ∀ n ∈ t.seconds, n ≤ uint64Max) ∧ ∀ h ∈ m.handlers, h.sizing.Fits)
    ⟨fun h => ⟨h.1, h.2⟩, fun h => ⟨h.ttl, h.handlers⟩⟩

instance (b : Blueprint) : Decidable b.Fits :=
  decidable_of_iff ((∀ m ∈ b.models, m.Fits) ∧ ∀ t ∈ b.tables, ∀ d ∈ t.dispatcher, d.Fits)
    ⟨fun h => ⟨h.1, h.2⟩, fun h => ⟨h.models, h.tables⟩⟩

theorem TimeToLive.ofJson?_toJson {t : TimeToLive} (h : ∀ n ∈ t.seconds, n ≤ uint64Max) :
    ofJson? t.toJson = some t := by
  have hseconds : Json.optional decodeUInt64 (some (ofOption (fun n : Nat => .int n) t.seconds)) =
      some t.seconds :=
    optional_ofOption (fun n hn => decodeNatTo_int (h n hn)) fun _ _ h => nomatch h
  unfold ofJson? toJson
  rw [members?_object_of_nodup rfl (by decide)]
  simp [hseconds]

theorem decodeUInt32_int {n : Nat} (h : n ≤ uint32Max) : decodeUInt32 (.int n) = some n :=
  decodeNatTo_int h

theorem Sizing.ofJson?_toJson {s : Sizing} (h : s.Fits) : ofJson? s.toJson = some s := by
  unfold ofJson? toJson
  rw [members?_object_of_nodup rfl (by decide)]
  simp [decodeUInt32_int h.memorySize, decodeUInt32_int h.timeout]

theorem HandlerKind.decodeChoice_name (k : HandlerKind) :
    decodeChoice names (str k.name) = some k := by
  cases k <;> decide

theorem ChangeEvent.decodeChoice_name (e : ChangeEvent) :
    decodeChoice names (str e.name) = some e := by
  cases e <;> decide

theorem ChangeHandler.ofJson?_toJson {h : ChangeHandler} (hsizing : h.sizing.Fits) :
    ofJson? h.toJson = some h := by
  unfold ofJson? toJson
  rw [members?_object_of_nodup rfl (by decide)]
  simp [HandlerKind.decodeChoice_name, ChangeEvent.decodeChoice_name, optional_ofOption_str,
    decodeList_ofStrings, Sizing.ofJson?_toJson hsizing]

theorem Dispatcher.ofJson?_toJson {d : Dispatcher} (h : d.Fits) : ofJson? d.toJson = some d := by
  unfold ofJson? toJson
  rw [members?_object_of_nodup rfl (by decide)]
  simp [decodeUInt32_int h.batchSize, decodeUInt32_int h.maximumRetryAttempts,
    Sizing.ofJson?_toJson h.sizing]

theorem Model.ofJson?_toJson {m : Model} (h : m.Fits) : ofJson? m.toJson = some m := by
  have hfields : decodeList Field.ofJson? (arr (m.fields.map Field.toJson)) = some m.fields :=
    decodeList_map fun f _ => f.ofJson?_toJson
  have hindexes : decodeList SecondaryIndex.ofJson? (arr (m.indexes.map SecondaryIndex.toJson)) =
      some m.indexes := decodeList_map fun index _ => index.ofJson?_toJson
  have httl : Json.optional TimeToLive.ofJson? (some (ofOption TimeToLive.toJson m.ttl)) =
      some m.ttl :=
    optional_ofOption (fun t ht => TimeToLive.ofJson?_toJson (h.ttl t ht)) fun _ _ h => nomatch h
  have hhandlers : decodeList ChangeHandler.ofJson? (arr (m.handlers.map ChangeHandler.toJson)) =
      some m.handlers :=
    decodeList_map fun handler hhandler =>
      ChangeHandler.ofJson?_toJson (h.handlers handler hhandler)
  unfold ofJson? toJson
  rw [members?_object_of_nodup rfl (by decide)]
  simp [hfields, PrimaryKey.ofJson?_toJson, hindexes, httl, hhandlers]

theorem Table.ofJson?_toJson {t : Table} (h : ∀ d ∈ t.dispatcher, d.Fits) :
    ofJson? t.toJson = some t := by
  have hindexes : decodeList SecondaryIndex.ofJson? (arr (t.indexes.map SecondaryIndex.toJson)) =
      some t.indexes := decodeList_map fun index _ => index.ofJson?_toJson
  have hdispatcher : Json.optional Dispatcher.ofJson?
      (some (ofOption Dispatcher.toJson t.dispatcher)) = some t.dispatcher :=
    optional_ofOption (fun d hd => Dispatcher.ofJson?_toJson (h d hd)) fun _ _ h => nomatch h
  unfold ofJson? toJson
  rw [members?_object_of_nodup rfl (by decide)]
  simp [PrimaryKey.ofJson?_toJson, hindexes, optional_ofOption_str, hdispatcher]

theorem Blueprint.ofJson?_toJson {b : Blueprint} (h : b.Fits) : ofJson? b.toJson = some b := by
  have hmodels : decodeList Model.ofJson? (arr (b.models.map Model.toJson)) = some b.models :=
    decodeList_map fun m hm => Model.ofJson?_toJson (h.models m hm)
  have htables : decodeList Table.ofJson? (arr (b.tables.map Table.toJson)) = some b.tables :=
    decodeList_map fun t ht => Table.ofJson?_toJson (h.tables t ht)
  have henums : decodeList EnumType.ofJson? (arr (b.enums.map EnumType.toJson)) = some b.enums :=
    decodeList_map fun e _ => e.ofJson?_toJson
  unfold ofJson? toJson
  rw [members?_object_of_nodup rfl (by decide)]
  simp [hmodels, htables, orDefault, henums]

/-! ## Depth -/

section Portable

variable {depth : Nat}

theorem EnumType.isPortable (e : EnumType) : IsPortable (depth + 2) e.toJson :=
  isPortable_object (by simp)

theorem ComputeFunction.isPortable (c : ComputeFunction) : IsPortable (depth + 1) c.toJson :=
  isPortable_object (by simp)

theorem Field.isPortable (f : Field) : IsPortable (depth + 2) f.toJson :=
  isPortable_object (by simp [isPortable_ofOption fun c _ => ComputeFunction.isPortable c])

theorem KeyPart.isPortable (p : KeyPart) : IsPortable (depth + 2) p.toJson :=
  isPortable_object (by simp [isPortable_ofOption fun text _ => IsPortable.str text])

theorem PrimaryKey.isPortable (key : PrimaryKey) : IsPortable (depth + 3) key.toJson := by
  cases key with
  | simple p => exact isPortable_object (by simp [KeyPart.isPortable])
  | composite p s => exact isPortable_object (by simp [KeyPart.isPortable])

theorem SecondaryIndex.isPortable (index : SecondaryIndex) :
    IsPortable (depth + 3) index.toJson := by
  cases index with
  | global name p s projection =>
    exact isPortable_object
      (by simp [KeyPart.isPortable, isPortable_ofOption fun s _ => KeyPart.isPortable s])
  | «local» name s projection => exact isPortable_object (by simp [KeyPart.isPortable])

theorem TimeToLive.isPortable {t : TimeToLive} (h : ∀ n ∈ t.seconds, n ≤ uint64Max) :
    IsPortable (depth + 1) t.toJson :=
  isPortable_object (by simp [isPortable_ofOption fun n hn => isPortable_nat.mpr (h n hn)])

theorem le_uint64Max {n : Nat} (h : n ≤ uint32Max) : n ≤ uint64Max := Nat.le_trans h (by decide)

theorem Sizing.isPortable {s : Sizing} (h : s.Fits) : IsPortable (depth + 1) s.toJson :=
  isPortable_object (by simp [le_uint64Max h.memorySize, le_uint64Max h.timeout])

theorem ChangeHandler.isPortable {h : ChangeHandler} (hsizing : h.sizing.Fits) :
    IsPortable (depth + 2) h.toJson :=
  isPortable_object
    (by simp [isPortable_ofOption fun text _ => IsPortable.str text, Sizing.isPortable hsizing])

theorem Dispatcher.isPortable {d : Dispatcher} (h : d.Fits) : IsPortable (depth + 2) d.toJson :=
  isPortable_object (by
    simp [le_uint64Max h.batchSize, le_uint64Max h.maximumRetryAttempts,
      Sizing.isPortable h.sizing])

theorem Model.isPortable {m : Model} (h : m.Fits) : IsPortable (depth + 5) m.toJson := by
  have hfields : IsPortable (depth + 4) (arr (m.fields.map Field.toJson)) :=
    isPortable_map fun f _ => f.isPortable
  have hindexes : IsPortable (depth + 4) (arr (m.indexes.map SecondaryIndex.toJson)) :=
    isPortable_map fun index _ => index.isPortable
  have httl : IsPortable (depth + 4) (ofOption TimeToLive.toJson m.ttl) :=
    isPortable_ofOption fun t ht => TimeToLive.isPortable (h.ttl t ht)
  have hhandlers : IsPortable (depth + 4) (arr (m.handlers.map ChangeHandler.toJson)) :=
    isPortable_map fun handler hhandler => ChangeHandler.isPortable (h.handlers handler hhandler)
  exact isPortable_object (by simp [hfields, PrimaryKey.isPortable, hindexes, httl, hhandlers])

theorem Table.isPortable {t : Table} (h : ∀ d ∈ t.dispatcher, d.Fits) :
    IsPortable (depth + 5) t.toJson := by
  have hindexes : IsPortable (depth + 4) (arr (t.indexes.map SecondaryIndex.toJson)) :=
    isPortable_map fun index _ => index.isPortable
  have hdispatcher : IsPortable (depth + 4) (ofOption Dispatcher.toJson t.dispatcher) :=
    isPortable_ofOption fun d hd => Dispatcher.isPortable (h d hd)
  exact isPortable_object (by
    simp [PrimaryKey.isPortable, hindexes, isPortable_ofOption fun text _ => IsPortable.str text,
      hdispatcher])

theorem Blueprint.isPortable {b : Blueprint} (h : b.Fits) : IsPortable (depth + 7) b.toJson := by
  have hmodels : IsPortable (depth + 6) (arr (b.models.map Model.toJson)) :=
    isPortable_map fun m hm => Model.isPortable (h.models m hm)
  have htables : IsPortable (depth + 6) (arr (b.tables.map Table.toJson)) :=
    isPortable_map fun t ht => Table.isPortable (h.tables t ht)
  have henums : IsPortable (depth + 6) (arr (b.enums.map EnumType.toJson)) :=
    isPortable_map fun e _ => e.isPortable
  exact isPortable_object (by simp [hmodels, htables, henums])

end Portable

namespace Blueprint

/-- A blueprint whose numbers have their bits is read back from its JSON form, which in turn is
read back from the text that is shown of it. -/
theorem read_shown {b : Blueprint} (h : b.Fits) :
    Json.parse (CommandLine.shown .json b) = .ok b.toJson ∧ ofJson? b.toJson = some b :=
  ⟨parse_pretty (isPortable h), ofJson?_toJson h⟩

/-- Sensors that expire and are dispatched, and a log of their alarms that has neither. -/
def sensors : Blueprint :=
  let site : KeyPart := ⟨"site", ["site"], none, true⟩
  let day : KeyPart := ⟨"sk", ["day", "id"], some "DAY", false⟩
  let state : KeyPart := ⟨"state", ["state"], none, true⟩
  let indexes : List SecondaryIndex := [.global "byState" state none .all,
    .global "byStateAndDay" state (some day) .keysOnly, .local "local" state .all]
  { models := [
      { name := "Reading", table := "Sensors"
        fields := [⟨"site", "site", [], "ID", .scalar, false, true, false, none, "#site", ":site"⟩,
          ⟨"label", "label", ["old", "\"older\"\n"], "String", .scalar, false, false, false,
            some ⟨"crate::label", true⟩, "#label", ":label"⟩,
          ⟨"state", "state", [], "State", .enum, true, false, false, none, "#state", ":state"⟩]
        primaryKey := .composite site day, indexes := indexes
        ttl := some ⟨"until", "until", some uint64Max⟩
        isConsistent := false, isLedger := false, isPublic := true
        handlers := [⟨.reducer, .upsert, "Reading", some "Alarm", "count", "FnCount", ["Sensors"],
          ["Alarms"], ⟨uint32Max, 30⟩⟩, ⟨.reactor, .remove, "Reading", none, "drop", "FnDrop", [],
          [], ⟨128, 3⟩⟩] },
      { name := "Alarm", table := "Alarms", fields := [], primaryKey := .simple site
        indexes := [], ttl := some ⟨"until", "until", none⟩, isConsistent := true
        isLedger := true, isPublic := false, handlers := [] }]
    tables := [⟨"Sensors", .composite site day, indexes, true, true, some "until",
        some ⟨100, uint32Max, ⟨256, 60⟩, "DispatcherSensors"⟩⟩,
      ⟨"Alarms", .simple site, [], false, false, none, none⟩]
    enums := [⟨"State", ["ON", "OFF"]⟩, ⟨"None", []⟩] }

theorem sensors_are_read : sensors.Fits ∧
    Json.parse (CommandLine.shown .json sensors) = .ok sensors.toJson ∧
      ofJson? sensors.toJson = some sensors := by
  have hfits : sensors.Fits := by decide
  exact ⟨hfits, read_shown hfits⟩

end Blueprint

end Keyspace
