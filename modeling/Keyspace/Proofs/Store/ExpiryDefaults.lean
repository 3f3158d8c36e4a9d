import Keyspace.Proofs.Blueprint.Expiry
import Keyspace.Proofs.Store.Requests

/-!
# The default of an expiry

Creation sets an expiry field that is unset to the time of the clock and the duration of the model.
A duration may be any number of seconds below 2 ^ 64. One that no signed number holds is passed
over, and the field stays unset; one that leads beyond the last point in time makes the creation
give up. Over the years 1970 to 9999 the default is what the schema says if the duration is at most
7956864576000 seconds, and only then.
-/
namespace Keyspace

namespace Timestamp

/-- A number of seconds later. A leap second is over once time goes on. -/
def after (t : Timestamp) (seconds : Nat) : Timestamp :=
  ⟨t.seconds + seconds, if seconds = 0 then t.nanos else t.nanos % 1000000000⟩

theorem plusSeconds?_eq (t : Timestamp) (seconds : Nat) : t.plusSeconds? seconds =
    if inRange (t.seconds + seconds) then some (t.after seconds) else none := rfl

/-- The clock is in one of the years 1970 to 9999. -/
def IsClock (now : Timestamp) : Prop := 0 ≤ now.seconds ∧ now.seconds ≤ 253402300799

theorem IsClock.inRange_iff {now : Timestamp} (h : now.IsClock) (seconds : Nat) :
    inRange (now.seconds + seconds) = true ↔ now.seconds + seconds ≤ maxSeconds := by
  obtain ⟨hstart, -⟩ := h
  rw [inRange, Bool.and_eq_true, decide_eq_true_eq, decide_eq_true_eq, and_iff_right_iff_imp]
  intro _
  unfold minSeconds
  omega

end Timestamp

open Timestamp

/-- The default is given by the duration if it fits a signed number. -/
theorem Model.expiryDefault?_eq {m : Model} {f : Field} {column : String} {n : Nat}
    (httl : m.ttl = some ⟨f.name, column, some n⟩) (hfound : m.field? f.name = some f)
    (hoptional : f.isRequired = false) :
    m.expiryDefault? = if n ≤ int64Max.toNat then some (f.name, n) else none := by
  unfold expiryDefault?
  rw [httl]
  simp [hfound, hoptional]

namespace RecordType

variable {t : RecordType} {now : Timestamp} {r : Record} {field : String} {n : Nat}

theorem beforeCreate_of_none (hdefault : t.model.expiryDefault? = none) :
    t.beforeCreate now r = .ok r := by
  unfold beforeCreate
  rw [hdefault]

theorem beforeCreate_of_unset (hdefault : t.model.expiryDefault? = some (field, n))
    (hunset : r.get? field = none) : t.beforeCreate now r =
      if inRange (now.seconds + n) then .ok (r.set field (.timestamp (now.after n)))
      else .error (.fault "expiry out of range") := by
  unfold beforeCreate
  rw [hdefault]
  dsimp only
  rw [hunset, Option.isSome_none, if_neg Bool.false_ne_true, plusSeconds?_eq]
  by_cases hrange : inRange (now.seconds + n) = true
  · rw [if_pos hrange, if_pos hrange]
  · rw [if_neg hrange, if_neg hrange]

end RecordType

namespace Store

variable {t : RecordType} {now : Timestamp} {r r' : Record} {e : Environment}

/-- Writing a new record may fail, but it does not give up. -/
theorem insert_ne_fault {σ : Type} (store : Store σ) (t : RecordType) (r : Record) (s : σ)
    (detail : String) : (store.insert t r s).1 ≠ .error (.fault detail) := by
  unfold insert
  rw [Action.bind_apply, Action.lift_apply]
  cases htable : store.table t with
  | error err =>
    intro hfault
    cases hfault
    unfold table Environment.tableName at htable
    split at htable <;> cases htable
  | ok table =>
    dsimp only
    rw [Action.bind_apply]
    unfold request
    generalize store.service.put _ s = answered
    obtain ⟨answer, s'⟩ := answered
    cases answer with
    | ok _ => exact nofun
    | error err => cases err <;> exact nofun

/-- What is written where nothing is stored is the record that was given. -/
theorem eq_of_insert_eq (hbound : IsBound e t)
    (h : (inMemory e).insert t r = (inMemory e).insert t r') : r = r' := by
  have hempty (r : Record) : ((inMemory e).insert t r .empty).1 = .ok r := by
    rw [insert_apply hbound, MemoryStorage.itemAt?_empty]
    rfl
  have hsame := hempty r
  rw [h, hempty r'] at hsame
  exact (Except.ok.inj hsame).symm

theorem exists_isBound (t : RecordType) : ∃ e, IsBound e t := by
  refine ⟨.detached [(tableVariable t.model.table, "table")], ?_⟩
  simp [IsBound, Environment.detached, Dict.get?]

/-- Creation sets a field that is unset to a number of seconds after the clock, writes the record
with it, and does not give up, whatever the storage service and whatever is stored. -/
structure GivesExpiry (t : RecordType) (field : String) (n : Nat) (now : Timestamp) : Prop where
  written : ∀ {σ : Type} (store : Store σ) (r : Record), r.get? field = none →
    store.create t now r = store.insert t ((r.set field (.timestamp (now.after n))).created now)
  goesOn : ∀ {σ : Type} (store : Store σ) (r : Record) (s : σ), r.get? field = none →
    ∀ detail, (store.create t now r s).1 ≠ .error (.fault detail)

theorem GivesExpiry.of_inRange {field : String} {n : Nat}
    (hdefault : t.model.expiryDefault? = some (field, n))
    (hrange : inRange (now.seconds + n) = true) : GivesExpiry t field n now := by
  have hwritten {σ : Type} (store : Store σ) (r : Record) (hunset : r.get? field = none) :
      store.create t now r =
        store.insert t ((r.set field (.timestamp (now.after n))).created now) := by
    refine create_prepared ?_
    rw [RecordType.beforeCreate_of_unset hdefault hunset, if_pos hrange]
  refine ⟨hwritten, fun store r s hunset detail => ?_⟩
  rw [hwritten store r hunset]
  exact insert_ne_fault store t _ s detail

/-- A blank record shows what creation does without a default, and what it does out of range. -/
theorem GivesExpiry.inRange {field : String} {n : Nat} (h : GivesExpiry t field n now)
    (hdefault : t.model.expiryDefault? = if n ≤ int64Max.toNat then some (field, n) else none) :
    n ≤ int64Max.toNat ∧ Timestamp.inRange (now.seconds + n) = true := by
  obtain ⟨e, hbound⟩ := exists_isBound t
  let blank : Record := ⟨.empty, .unwritten⟩
  have hunset : blank.get? field = none := rfl
  by_cases hfits : n ≤ int64Max.toNat
  · rw [if_pos hfits] at hdefault
    refine ⟨hfits, ?_⟩
    by_contra hrange
    have hprepared : t.beforeCreate now blank = .error (.fault "expiry out of range") := by
      rw [RecordType.beforeCreate_of_unset hdefault hunset, if_neg hrange]
    refine h.goesOn (inMemory e) blank .empty hunset "expiry out of range" ?_
    rw [create_unprepared hprepared]
  · rw [if_neg hfits] at hdefault
    have hcreate := h.written (inMemory e) blank hunset
    rw [create_prepared (RecordType.beforeCreate_of_none hdefault)] at hcreate
    have hsame : blank.get? field = (blank.set field (.timestamp (now.after n))).get? field :=
      congrArg (·.values.get? field) (eq_of_insert_eq hbound hcreate)
    rw [Record.get?_set, if_pos rfl, hunset] at hsame
    cases hsame

end Store

namespace Blueprint

open Schema Store

/-- The default of an optional expiry field of an accepted schema is the duration of the schema
after the clock wherever that is a point in time, and only there. So it holds over all clocks of the
years 1970 to 9999 exactly for durations up to 7956864576000 seconds. -/
theorem expiry_defaults_iff {config : Config} {document : Document} {b : Blueprint}
    (hb : ofDocument config document = .ok b) {m : Model} (hm : m ∈ b.models) {f : Field}
    (hfound : m.field? f.name = some f) (hoptional : f.isRequired = false) {duration : String}
    (hcarries : CarriesDuration document m.name f.name duration) :
    ∃ n, parseDuration duration = some n ∧ ∀ t : RecordType, t.model = m →
      (∀ now, now.IsClock → (GivesExpiry t f.name n now ↔ now.seconds + n ≤ maxSeconds)) ∧
      ((∀ now, now.IsClock → GivesExpiry t f.name n now) ↔ n ≤ 7956864576000) := by
  obtain ⟨type, directives, horigin⟩ := exists_origin hb hm
  obtain ⟨n, hn, httl⟩ := horigin.ttl_of_duration hb hcarries hfound
  have hdefault := Model.expiryDefault?_eq httl hfound hoptional
  refine ⟨n, hn, ?_⟩
  rintro t rfl
  have hclock (now : Timestamp) (hnow : now.IsClock) :
      GivesExpiry t f.name n now ↔ now.seconds + n ≤ maxSeconds := by
    rw [← hnow.inRange_iff n]
    refine ⟨fun h => (h.inRange hdefault).2, fun hrange => .of_inRange ?_ hrange⟩
    have hlast := (hnow.inRange_iff n).mp hrange
    have hfits : n ≤ int64Max.toNat := by
      obtain ⟨hstart, -⟩ := hnow
      unfold maxSeconds at hlast
      have hmax : int64Max.toNat = 9223372036854775807 := rfl
      omega
    rw [hdefault, if_pos hfits]
  refine ⟨hclock, fun hall => ?_, fun hn now hnow => (hclock now hnow).mpr ?_⟩
  · have hlatest : Timestamp.IsClock ⟨253402300799, 0⟩ := ⟨by decide, le_refl _⟩
    have hlast := (hclock _ hlatest).mp (hall _ hlatest)
    unfold maxSeconds at hlast
    dsimp only at hlast
    omega
  · obtain ⟨-, hend⟩ := hnow
    unfold maxSeconds
    omega

namespace VoucherExample

/-- Vouchers that end some time after they are created. -/
def type (duration : String) : TypeDeclaration where
  name := "Voucher"
  interfaces := []
  directives := [⟨"partitionKey", [("pkFields", .list [.string "id"])]⟩]
  fields := [⟨"id", .nonNull (.named "ID"), []⟩,
    ⟨"until", .named "DateTime", [⟨"ttl", [("duration", .string duration)]⟩]⟩]

def document (duration : String) : Document := [.object (type duration)]

def key : PrimaryKey := .simple ⟨"id", ["id"], none, true⟩

def ending : Field := { Field.scalar "until" "DateTime" false with isDateType := true }

def voucher (seconds : Nat) : Model :=
  ⟨"Voucher", "Voucher", [.scalar "id" "ID" true, ending], key, [],
    some ⟨"until", "until", some seconds⟩, false, false, false, []⟩

def blueprint (seconds : Nat) : Blueprint :=
  ⟨[voucher seconds], [⟨"Voucher", key, [], false, false, some "until", none⟩], []⟩

theorem voucher_mem (seconds : Nat) : voucher seconds ∈ (blueprint seconds).models :=
  List.mem_singleton_self _

theorem carriesDuration (duration : String) :
    CarriesDuration (document duration) "Voucher" "until" duration :=
  ⟨type duration, List.mem_singleton_self _, rfl, _, List.mem_cons_of_mem _ List.mem_cons_self, rfl,
    _, List.mem_singleton_self _, rfl, List.mem_singleton_self _⟩

def vouchers (seconds : Nat) : RecordType :=
  ⟨voucher seconds, [], .empty, Code.functionPath?⟩

def record : Record := ⟨[("id", .text "7")], .unwritten⟩

def bindings : Environment := .detached [("TABLE_VOUCHER", "vouchers")]

end VoucherExample

open VoucherExample in
theorem vouchers_end_in_thirty_days :
    ofDocument .default (document "30d") = .ok (blueprint 2592000) ∧
    voucher 2592000 ∈ (blueprint 2592000).models ∧
    (voucher 2592000).field? ending.name = some ending ∧ ending.isRequired = false ∧
    CarriesDuration (document "30d") "Voucher" ending.name "30d" ∧
    ∀ now, now.IsClock → GivesExpiry (vouchers 2592000) "until" 2592000 now := by
  have hb : ofDocument .default (document "30d") = .ok (blueprint 2592000) := by decide +kernel
  have hfound : (voucher 2592000).field? ending.name = some ending := rfl
  obtain ⟨n, hn, hall⟩ :=
    expiry_defaults_iff hb (voucher_mem _) hfound rfl (carriesDuration "30d")
  have hseconds : parseDuration "30d" = some 2592000 := by decide +kernel
  cases hseconds.symm.trans hn
  exact ⟨hb, voucher_mem _, hfound, rfl, carriesDuration _,
    (hall (vouchers _) rfl).2.mpr (by decide)⟩

open VoucherExample in
/-- Both durations are accepted. With one the field of a new voucher stays unset, and with the other
no voucher can be created in the last second of the year 9999. -/
theorem long_durations_give_no_expiry :
    ofDocument .default (document "9223372036854775808s") = .ok (blueprint 9223372036854775808) ∧
    parseDuration "9223372036854775808s" = some 9223372036854775808 ∧
    (ending.typeName = "DateTime" ∧ ending.isRequired = false ∧ ending.computed = none) ∧
    Timestamp.epoch.IsClock ∧ record.get? "until" = none ∧
    ((inMemory bindings).create (vouchers 9223372036854775808) .epoch record .empty).1 =
      .ok (record.created .epoch) ∧
    (record.created .epoch).get? "until" = none ∧
    ofDocument .default (document "7956864576001s") = .ok (blueprint 7956864576001) ∧
    parseDuration "7956864576001s" = some 7956864576001 ∧
    Timestamp.IsClock ⟨253402300799, 0⟩ ∧
    (inMemory bindings).create (vouchers 7956864576001) ⟨253402300799, 0⟩ record .empty =
      (.error (.fault "expiry out of range"), .empty) := by
  have hbound : IsBound bindings (vouchers 9223372036854775808) := rfl
  have hprepared : (vouchers 9223372036854775808).beforeCreate .epoch record = .ok record := rfl
  have hcreated : ((inMemory bindings).create (vouchers 9223372036854775808) .epoch record
      .empty).1 = .ok (record.created .epoch) := by
    rw [create_prepared hprepared, insert_apply hbound, MemoryStorage.itemAt?_empty]
    rfl
  have hunprepared : (vouchers 7956864576001).beforeCreate ⟨253402300799, 0⟩ record =
      .error (.fault "expiry out of range") := rfl
  exact ⟨by decide +kernel, by decide +kernel, ⟨rfl, rfl, rfl⟩, ⟨by decide, by decide⟩, rfl,
    hcreated, rfl, by decide +kernel, by decide +kernel, ⟨by decide, le_refl _⟩,
    create_unprepared hunprepared⟩

end Blueprint

end Keyspace
