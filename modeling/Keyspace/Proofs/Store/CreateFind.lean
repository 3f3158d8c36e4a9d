import Keyspace.Proofs.Record.ReadBack
import Keyspace.Proofs.Store.Requests

/-!
# A created record is found

A record that is created over the storage in memory and looked up by its key fields is the
record that creation gave, as far as attributes hold its values exactly. Creation may set the
expiry field, which is kept in whole seconds, so that the clock has to show whole seconds too
where a model has such a field.
-/
namespace Keyspace

namespace Model

theorem lookup_zip_map {argument : String → AttributeValue} {fields : List String} {field : String}
    (h : field ∈ fields) : (fields.zip (fields.map argument)).lookup field = some (argument field) := by
  induction fields with
  | nil => cases h
  | cons first rest ih =>
    rw [List.map_cons, List.zip_cons_cons, List.lookup_cons]
    by_cases hfirst : field = first
    · subst hfirst
      rw [beq_self_eq_true]
    · have hrest := ih ((List.mem_cons.mp h).resolve_left hfirst)
      rw [beq_false_of_ne hfirst]
      exact hrest

/-- Arguments listed for the key fields make the key that they make by name. -/
theorem keyOfList_map (m : Model) (argument : String → AttributeValue) :
    m.keyOfList (m.keyFields.map argument) = m.keyOf argument := by
  refine keyOf_congr fun part hpart field hfield => ?_
  rw [lookup_zip_map (mem_keyFields_iff.mpr ⟨part, hpart, hfield⟩)]
  rfl

end Model

namespace RecordType

variable {t : RecordType} {now : Timestamp} {r prepared : Record}

/-- The attributes of a record's key fields, in the order that finding a record takes them. -/
def keyArguments (t : RecordType) (r : Record) : List AttributeValue :=
  t.model.keyFields.map fun field => keyComponent (r.attribute? field)

theorem keyOfList_keyArguments (t : RecordType) (r : Record) :
    t.model.keyOfList (t.keyArguments r) = t.key r :=
  t.model.keyOfList_map _

/-- A record at a point in time that creation stores exactly: it has values for fields of its
model and for all that are never unset, each of the type of its field and held exactly by its
attribute, and the clock shows whole milliseconds. If the items expire, the clock shows whole
seconds and so does the expiry field; a leap second, being a second and as many nanoseconds
again, does not count as whole. -/
structure IsStorable (t : RecordType) (now : Timestamp) (r : Record) : Prop where
  ordered : r.values.Ordered
  known : ∀ name ∈ r.values.keys, ∃ f ∈ t.model.fields, f.name = name
  complete : ∀ f ∈ t.model.fields, f.isList = true ∨ f.isRequired = true → (r.get? f.name).isSome
  values : ∀ f ∈ t.model.fields, ∀ value ∈ r.get? f.name, (t.valueType f).Stores value
  clock : now.IsWholeMillis
  seconds : ∀ ttl ∈ t.model.ttl, now.nanos = 0 ∧
    ∀ time, r.get? ttl.field = some (.timestamp time) → time.nanos = 0

theorem exists_ttl {f : Field} (h : t.model.isExpiry f = true) :
    ∃ ttl, t.model.ttl = some ttl ∧ ttl.field = f.name := by
  unfold Model.isExpiry at h
  cases httl : t.model.ttl with
  | none =>
    rw [httl] at h
    cases h
  | some ttl =>
    rw [httl] at h
    exact ⟨ttl, rfl, of_decide_eq_true h⟩

theorem IsStorable.storesExactly (h : t.IsStorable now r)
    (hexpiry : ∀ f ∈ t.model.fields, t.model.isExpiry f = true → t.valueType f = .timestamp) :
    t.StoresExactly r := by
  refine ⟨h.ordered, h.known, h.complete, fun f hf _ => h.values f hf, fun f hf hexpires => ?_⟩
  obtain ⟨ttl, httl, hname⟩ := exists_ttl hexpires
  have htype := hexpiry f hf hexpires
  refine ⟨htype, fun value hvalue => ?_⟩
  have hstores := h.values f hf value hvalue
  rw [htype] at hstores
  cases value with
  | timestamp time =>
    have hwhole := (h.seconds ttl httl).2 time (hname ▸ hvalue)
    exact ⟨time, rfl, hstores.point.inRange, hwhole⟩
  | _ => cases hstores

/-- The default of the expiry field is in range, and in whole seconds if the clock is. -/
theorem plusSeconds?_whole {later : Timestamp} {seconds : Nat}
    (h : now.plusSeconds? seconds = some later) :
    Timestamp.inRange later.seconds = true ∧ (now.nanos = 0 → later.nanos = 0) := by
  unfold Timestamp.plusSeconds? at h
  dsimp only at h
  split at h
  · next hrange =>
    cases h
    refine ⟨hrange, fun hnow => ?_⟩
    rw [hnow]
    exact ite_self 0
  · cases h

theorem exists_of_expiryDefault? {m : Model} {field : String} {seconds : Nat}
    (h : m.expiryDefault? = some (field, seconds)) :
    (∃ ttl, m.ttl = some ttl ∧ ttl.field = field) ∧ ∃ f ∈ m.fields, f.name = field := by
  obtain ⟨ttl, f, httl, hfield, -, hfound, -, -⟩ := Model.expiryDefault?_eq_some.mp h
  exact ⟨⟨ttl, httl, hfield⟩, f, Field.of_find? hfound⟩

/-- Creation leaves a record as it is, or sets its expiry field, which was unset. -/
theorem beforeCreate_eq_ok (h : t.beforeCreate now r = .ok prepared) : prepared = r ∨
    ∃ ttl later, t.model.ttl = some ttl ∧ (∃ f ∈ t.model.fields, f.name = ttl.field) ∧
      r.get? ttl.field = none ∧ (∃ seconds, now.plusSeconds? seconds = some later) ∧
        prepared = r.set ttl.field (.timestamp later) := by
  unfold RecordType.beforeCreate at h
  split at h
  · exact Or.inl (Except.ok.inj h).symm
  · next field seconds hdefault =>
    split at h
    · exact Or.inl (Except.ok.inj h).symm
    · next hunset =>
      split at h
      · next later hlater =>
        obtain ⟨⟨ttl, httl, rfl⟩, hfield⟩ := exists_of_expiryDefault? hdefault
        exact Or.inr ⟨ttl, later, httl, hfield, by simpa using hunset, ⟨seconds, hlater⟩,
          (Except.ok.inj h).symm⟩
      · cases h

/-- Setting the expiry field before creation keeps a record exact. -/
theorem StoresExactly.set_expiry (h : t.StoresExactly r) {ttl : TimeToLive} {time : Timestamp}
    (httl : t.model.ttl = some ttl) (hfield : ∃ f ∈ t.model.fields, f.name = ttl.field)
    (hrange : Timestamp.inRange time.seconds = true) (hwhole : time.nanos = 0) :
    t.StoresExactly (r.set ttl.field (.timestamp time)) := by
  have hisExpiry {f : Field} (hname : f.name = ttl.field) : t.model.isExpiry f = true := by
    unfold Model.isExpiry
    rw [httl]
    exact decide_eq_true hname.symm
  constructor
  case ordered => exact h.ordered.insert _ _
  case known =>
    intro name hname
    rcases Dict.mem_keys_insert.mp hname with rfl | hold
    · exact hfield
    · exact h.known name hold
  case complete =>
    intro f hf hset
    by_cases hname : f.name = ttl.field
    · rw [Record.get?_set, if_pos hname]
      rfl
    · rw [Record.get?_set, if_neg hname]
      exact h.complete f hf hset
  case plain =>
    intro f hf hplain value hvalue
    have hne : f.name ≠ ttl.field := by
      intro hname
      rw [hisExpiry hname] at hplain
      cases hplain
    rw [Record.get?_set, if_neg hne] at hvalue
    exact h.plain f hf hplain value hvalue
  case expiry =>
    intro f hf hexpires
    obtain ⟨htype, htimes⟩ := h.expiry f hf hexpires
    refine ⟨htype, fun value hvalue => ?_⟩
    by_cases hname : f.name = ttl.field
    · rw [Record.get?_set, if_pos hname] at hvalue
      cases hvalue
      exact ⟨time, rfl, hrange, hwhole⟩
    · rw [Record.get?_set, if_neg hname] at hvalue
      exact htimes value hvalue

/-- A storable record is still held exactly when creation has prepared it. -/
theorem IsStorable.beforeCreate (h : t.IsStorable now r)
    (hexpiry : ∀ f ∈ t.model.fields, t.model.isExpiry f = true → t.valueType f = .timestamp)
    (hprepared : t.beforeCreate now r = .ok prepared) : t.StoresExactly prepared := by
  have hexact := h.storesExactly hexpiry
  obtain rfl | ⟨ttl, later, httl, hfield, -, ⟨seconds, hlater⟩, rfl⟩ :=
    beforeCreate_eq_ok hprepared
  · exact hexact
  · obtain ⟨hrange, hwhole⟩ := plusSeconds?_whole hlater
    exact hexact.set_expiry httl hfield hrange (hwhole (h.seconds ttl httl).1)

/-- Creation changes the revision of a record only. -/
theorem StoresExactly.created (h : t.StoresExactly r) (now : Timestamp) :
    t.StoresExactly (r.created now) :=
  ⟨h.ordered, h.known, h.complete, h.plain, h.expiry⟩

end RecordType

namespace Store

variable {e : Environment} {t : RecordType} {now : Timestamp} {r created : Record}
  {s s' : MemoryStorage}

/-- What a creation that succeeds went through. -/
theorem create_eq_ok (h : (inMemory e).create t now r s = (.ok created, s')) :
    IsBound e t ∧ ∃ prepared, t.beforeCreate now r = .ok prepared ∧
      created = prepared.created now ∧ s' = s.write (slotOf e t (t.key created)) (t.toItem created) := by
  cases hprepared : t.beforeCreate now r with
  | error err =>
    rw [create_unprepared hprepared] at h
    cases h
  | ok prepared =>
    have hbound : IsBound e t := by
      by_contra hunbound
      obtain ⟨err, herr⟩ := create_unbound hunbound now r
      rw [herr] at h
      cases h
    rw [create_apply hbound hprepared] at h
    split at h
    · cases h
    · cases h
      exact ⟨hbound, prepared, rfl, rfl, rfl⟩

/-- What an update that succeeds went through. -/
theorem update_eq_ok {updated : Record} (h : (inMemory e).update t now r s = (.ok updated, s')) :
    IsBound e t ∧ fitsInt64 (r.revision.version + 1) = true ∧ updated = r.updated now ∧
      s' = s.write (slotOf e t (t.key r)) (t.toItem (r.updated now)) := by
  have hbound : IsBound e t := by
    by_contra hunbound
    obtain ⟨err, herr⟩ := update_unbound hunbound now r
    rw [herr] at h
    cases h
  cases hledger : t.model.isLedger with
  | true =>
    rw [update_ledger hledger] at h
    cases h
  | false =>
    cases hfits : fitsInt64 (r.revision.version + 1) with
    | false =>
      rw [update_last_version hledger hfits] at h
      cases h
    | true =>
      rw [update_apply hbound hledger hfits] at h
      split at h
      · cases h
        exact ⟨hbound, rfl, rfl, rfl⟩
      · cases h

/-- Whatever creation succeeds with is found by its key fields afterwards, if attributes hold
the record exactly. -/
theorem find_created {config : Config} {text : String} {b : Blueprint}
    (hb : Blueprint.ofSchema config text = .ok b) (hm : t.model ∈ b.models)
    (hplain : ∀ f ∈ t.model.fields, f.computed = none)
    (hexpiry : ∀ f ∈ t.model.fields, t.model.isExpiry f = true → t.valueType f = .timestamp)
    (hr : t.IsStorable now r) (h : (inMemory e).create t now r s = (.ok created, s')) :
    (inMemory e).find t (t.model.keyOfList (t.keyArguments created)) s' =
      (.ok (some created), s') := by
  obtain ⟨hbound, prepared, hprepared, rfl, rfl⟩ := create_eq_ok h
  have hmodel : RecordType.IsStoredPlainly t.model :=
    ⟨Blueprint.ofSchema_columnsApart hb hm,
      (Blueprint.ofSchema_isSound hb).keyFieldsRequired t.model hm, hplain⟩
  have hexact : t.StoresExactly (prepared.created now) :=
    (hr.beforeCreate hexpiry hprepared).created now
  have hrevision : (prepared.created now).revision.IsExact :=
    ⟨(by decide : fitsInt64 1 = true), ⟨now, rfl, hr.clock⟩, now, rfl, hr.clock⟩
  rw [RecordType.keyOfList_keyArguments, find_apply hbound, MemoryStorage.itemAt?_write, if_pos rfl,
    Option.mapM_some, RecordType.unmarshal_toItem hmodel hexact hrevision]
  rfl

namespace LoanExample

/-- A key of two fields, an enum, a list, and an expiry with a default. -/
def schema : String :=
  "enum LoanState \x7b OPEN DONE \x7d
type Loan @partitionKey(pkFields: [\"book\", \"day\"]) \x7b
book: Int! day: Date! state: LoanState! notes: [ID] until: DateTime @ttl(duration: \"14d\") \x7d"

def key : PrimaryKey := .simple ⟨"pk", ["book", "day"], none, false⟩

def fields : List Field :=
  [.scalar "book" "Int" true, { Field.scalar "day" "Date" true with isDateType := true },
    { Field.scalar "state" "LoanState" true with kind := .enum },
    { Field.scalar "notes" "ID" false with isList := true },
    { Field.scalar "until" "DateTime" false with isDateType := true }]

def states : List EnumType := [⟨"LoanState", ["OPEN", "DONE"]⟩]

def loan : RecordType :=
  ⟨⟨"Loan", "Loan", fields, key, [], some ⟨"until", "until", some 1209600⟩, false, false, false, []⟩,
    states, .empty, Code.functionPath?⟩

def blueprint : Blueprint :=
  ⟨[loan.model], [⟨"Loan", key, [], false, false, some "until", none⟩], states⟩

/-- A loan whose end is left to the default. -/
def record : Record :=
  ⟨[("book", .int 42), ("day", .date ⟨2024, 2, 29⟩), ("notes", .list [.text "worn", .text "late"]),
    ("state", .text "OPEN")], .unwritten⟩

/-- The loan with the end that creation gives it. -/
def prepared : Record := record.set "until" (.timestamp ⟨1209600, 0⟩)

def bindings : Environment := .detached [(tableVariable "Loan", "loans")]

theorem record_isStorable : loan.IsStorable .epoch record := by
  constructor
  case ordered => exact Dict.ordered_ofList [("book", Value.int 42), ("day", .date ⟨2024, 2, 29⟩),
    ("notes", .list [.text "worn", .text "late"]), ("state", .text "OPEN")]
  case known => decide
  case complete => decide
  case values =>
    have hday : (⟨2024, 2, 29⟩ : Date).HasFourDigits := ⟨by decide, by decide, by decide⟩
    have hnotes : ∀ value ∈ [Value.text "worn", .text "late"], ValueType.text.Stores value := by
      intro value hvalue
      rcases List.mem_pair.mp hvalue with rfl | rfl <;> exact trivial
    show ∀ f ∈ fields, _
    rw [fields]
    simp only [List.forall_mem_cons]
    refine ⟨?book, ?day, ?state, ?notes, ?due, List.forall_mem_nil _⟩
    all_goals
      intro value hvalue
      cases hvalue
    case book => exact (by decide : fitsInt64 42 = true)
    case day => exact hday
    case state => exact (by decide : "OPEN" ∈ ["OPEN", "DONE"])
    case notes => exact hnotes
  case clock => exact ⟨⟨rfl, Or.inl (by decide)⟩, by decide, by decide, rfl⟩
  case seconds =>
    intro ttl httl
    cases httl
    exact ⟨rfl, fun time htime => by cases htime⟩

end LoanExample

open LoanExample in
theorem created_loan_is_found : Blueprint.ofSchema .default schema = .ok blueprint ∧
    loan.model ∈ blueprint.models ∧ ∃ s,
      (inMemory bindings).create loan .epoch record .empty = (.ok (prepared.created .epoch), s) ∧
      (inMemory bindings).find loan
        (loan.model.keyOfList (loan.keyArguments (prepared.created .epoch))) s =
          (.ok (some (prepared.created .epoch)), s) := by
  have hschema : Blueprint.ofSchema .default schema = .ok blueprint := by decide +kernel
  have hmem : loan.model ∈ blueprint.models := List.mem_singleton_self _
  have hplain : ∀ f ∈ loan.model.fields, f.computed = none := by decide
  have hexpiry : ∀ f ∈ loan.model.fields, loan.model.isExpiry f = true →
      loan.valueType f = .timestamp := by decide
  have hbound : IsBound bindings loan := rfl
  have hprepared : loan.beforeCreate .epoch record = .ok prepared := rfl
  have hcreated : (inMemory bindings).create loan .epoch record .empty =
      (.ok (prepared.created .epoch), MemoryStorage.empty.write
        (slotOf bindings loan (loan.key prepared)) (loan.toItem (prepared.created .epoch))) := by
    rw [create_apply hbound hprepared, MemoryStorage.itemAt?_empty]
    rfl
  exact ⟨hschema, hmem, _, hcreated, find_created hschema hmem hplain hexpiry record_isStorable
    hcreated⟩

end Store

end Keyspace
