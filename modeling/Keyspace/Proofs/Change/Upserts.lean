import Keyspace.Change.Consumer
import Keyspace.Proofs.Change.Attempts
import Keyspace.Proofs.Record.Reading
import Keyspace.Proofs.Store.Operation

/-!
# Enrichment creates or updates

An enricher's run reads what is stored under the key of the derived record and then takes one of
two ways of writing. The version it read is the one that the condition of the update tests, so
without another client the first attempt settles the run: the derived record is stored at the
next version, or at the first where nothing was stored. A run that derives nothing, fails, or
meets an item it cannot read leaves the storage as it was, however often it tries.
-/
namespace Keyspace

open Result

namespace RetryPolicy

variable {α σ : Type} {policy : RetryPolicy} {sleep : Nat → σ → σ} {operation : Nat → Action σ α}
  {s : σ}

/-- What the first attempt settles ends the run. -/
theorem retry_of_settled (h : ¬IsConflict (operation 0 s).1) :
    policy.retry sleep operation s = operation 0 s := retryFrom_of_settled h

/-- Attempts that fail and change nothing make a run that fails and changes nothing. -/
theorem retryFrom_of_failing (hsleep : ∀ nanos, sleep nanos s = s)
    (hfails : ∀ attempt, ∃ err, operation attempt s = (.error err, s)) (left attempt : Nat) :
    ∃ err, policy.retryFrom sleep operation left attempt s = (.error err, s) := by
  induction left generalizing attempt with
  | zero => exact hfails attempt
  | succ left ih =>
    obtain ⟨err, hfail⟩ := hfails attempt
    unfold retryFrom
    rw [hfail]
    by_cases htransient : err.isTransient = true
    · simp only [htransient, if_true]
      cases policy.delay attempt with
      | error fault => exact ⟨fault, rfl⟩
      | ok nanos =>
        dsimp only
        rw [hsleep nanos]
        exact ih (attempt + 1)
    · simp only [htransient, Bool.false_eq_true, if_false]
      exact ⟨err, rfl⟩

end RetryPolicy

/-- The record that is stored in place of another: its own values at the next version, and
created when the other was. -/
def Record.inPlaceOf (derived stored : Record) (now : Timestamp) : Record :=
  { derived with revision := ⟨stored.revision.version + 1, stored.revision.createdAt, some now⟩ }

namespace MemoryStorage

/-- No stored version is the last one that 64 bits hold. -/
def VersionsBelowLast (s : MemoryStorage) : Prop :=
  ∀ slot version, Condition.storedVersion? (s.itemAt? slot) = some version → version < int64Max

/-- One slot holds an item, and every other what it held before. -/
def IsAfterPut (s : MemoryStorage) (slot : Slot) (item : Item) (s' : MemoryStorage) : Prop :=
  s'.itemAt? slot = some item ∧ ∀ other, other ≠ slot → s'.itemAt? other = s.itemAt? other

theorem isAfterPut_write (s : MemoryStorage) (slot : Slot) (item : Item) :
    s.IsAfterPut slot item (s.write slot item) :=
  ⟨by rw [itemAt?_write, if_pos rfl], fun other hother => by rw [itemAt?_write, if_neg hother]⟩

/-- The version after a stored one is still within 64 bits. -/
theorem VersionsBelowLast.fits_next {s : MemoryStorage} (h : s.VersionsBelowLast) {slot : Slot}
    {version : Int} (hversion : Condition.storedVersion? (s.itemAt? slot) = some version) :
    fitsInt64 (version + 1) = true := by
  have hbelow := h slot version hversion
  have hfits := Condition.fitsInt64_of_storedVersion? hversion
  simp only [fitsInt64, Bool.and_eq_true, decide_eq_true_eq] at hfits ⊢
  omega

end MemoryStorage

/-- The slot of a record that an enricher derives. -/
def Enricher.slotOf (h : Enricher MemoryStorage) (e : Environment) (derived : Record) : Slot :=
  Store.slotOf e h.target (h.target.key derived)

/-- What a run of an enricher comes to that starts in `s`, by what its handler gives and what is
stored under the key of the derived record. What is created is the derived record, and an expiry
field that it leaves unset is set to `now` and the default of the model. -/
structure Enricher.Upserts (h : Enricher MemoryStorage) (e : Environment) (now : Timestamp)
    (s : MemoryStorage) (given : Result (Option Record)) (answer : Result Unit)
    (s' : MemoryStorage) : Prop where
  creates : ∀ derived, given = .ok (some derived) → s.itemAt? (h.slotOf e derived) = none →
    h.target.beforeCreate now derived = .ok (h.target.withExpiry now derived) ∧ answer = .ok () ∧
      s.IsAfterPut (h.slotOf e derived) (h.target.toItem
        { h.target.withExpiry now derived with revision := ⟨1, some now, some now⟩ }) s'
  updates : ∀ derived item stored, given = .ok (some derived) →
    s.itemAt? (h.slotOf e derived) = some item → h.target.unmarshal item = .ok stored →
    answer = .ok () ∧
      s.IsAfterPut (h.slotOf e derived) (h.target.toItem (derived.inPlaceOf stored now)) s'
  unreadable : ∀ derived item err, given = .ok (some derived) →
    s.itemAt? (h.slotOf e derived) = some item → h.target.unmarshal item = .error err →
    answer = .error err ∧ s' = s
  skips : given = .ok none → answer = .ok () ∧ s' = s
  fails : ∀ err, given = .error err → answer.isOk = false ∧ s' = s

namespace HandlerContext

variable {ctx : HandlerContext MemoryStorage} {h : Enricher MemoryStorage} {e : Environment}
  {change : Change} {derived : Record} {now : Timestamp} {s : MemoryStorage}

/-! ## One attempt -/

theorem enrichOnce_of_error {err : Error} (hgiven : h.enrich change s = (.error err, s)) :
    ctx.enrichOnce h change now s = (.error err, s) := by
  unfold enrichOnce
  rw [Action.bind_apply, hgiven]

theorem enrichOnce_of_none (hgiven : h.enrich change s = (.ok none, s)) :
    ctx.enrichOnce h change now s = (.ok (), s) := by
  unfold enrichOnce
  rw [Action.bind_apply, hgiven]
  rfl

section Derived

variable (hgiven : h.enrich change s = (.ok (some derived), s))
  (hstore : ctx.store = Store.inMemory e) (hbound : Store.IsBound e h.target)
include hgiven hstore hbound

/-- An attempt that derives a record looks at the slot of its key. -/
theorem enrichOnce_of_some :
    ctx.enrichOnce h change now s =
      match s.itemAt? (h.slotOf e derived) with
      | none => (discard ((Store.inMemory e).create h.target now derived) : Action _ Unit) s
      | some item =>
        match h.target.unmarshal item with
        | .ok stored => (discard ((Store.inMemory e).update h.target now
            { derived with revision := stored.revision }) : Action _ Unit) s
        | .error err => (.error err, s) := by
  unfold enrichOnce Enricher.slotOf
  rw [Action.bind_apply, hgiven]
  dsimp only
  rw [Action.bind_apply, hstore, Store.find_apply hbound]
  cases s.itemAt? (Store.slotOf e h.target (h.target.key derived)) with
  | none => rfl
  | some item =>
    rw [Option.mapM_some]
    cases hread : h.target.unmarshal item <;> simp [hread]

/-- Where nothing is stored the derived record is created; its expiry is no part of its key. -/
theorem enrichOnce_creates (hkeys : Blueprint.KeyFieldsRequired h.target.model)
    (hnone : s.itemAt? (h.slotOf e derived) = none) {prepared : Record}
    (hprepared : h.target.beforeCreate now derived = .ok prepared) :
    ctx.enrichOnce h change now s = (.ok (),
      s.write (h.slotOf e derived) (h.target.toItem (prepared.created now))) := by
  have hkey : Store.slotOf e h.target (h.target.key prepared) = h.slotOf e derived := by
    rw [RecordType.key_beforeCreate hkeys hprepared]
    rfl
  rw [enrichOnce_of_some hgiven hstore hbound, hnone]
  dsimp only
  rw [Action.discard_apply, Store.create_apply hbound hprepared, hkey, hnone]
  rfl

/-- The version that was read is the one that the condition of the update tests. -/
theorem enrichOnce_updates (hledger : h.target.model.isLedger = false)
    (hversions : s.VersionsBelowLast) {item : Item} {stored : Record}
    (hitem : s.itemAt? (h.slotOf e derived) = some item)
    (hstored : h.target.unmarshal item = .ok stored) :
    ctx.enrichOnce h change now s = (.ok (),
      s.write (h.slotOf e derived) (h.target.toItem (derived.inPlaceOf stored now))) := by
  have hversion : Condition.storedVersion? (s.itemAt? (h.slotOf e derived)) =
      some stored.revision.version := by
    rw [hitem]
    exact RecordType.storedVersion?_of_unmarshal hstored
  have hupdate : (Store.inMemory e).update h.target now
      { derived with revision := stored.revision } s = (.ok (derived.inPlaceOf stored now),
        s.write (h.slotOf e derived) (h.target.toItem (derived.inPlaceOf stored now))) :=
    (@Store.update_apply e h.target now { derived with revision := stored.revision } s hbound
      hledger (hversions.fits_next hversion)).trans (if_pos hversion)
  rw [enrichOnce_of_some hgiven hstore hbound, hitem]
  dsimp only
  rw [hstored]
  dsimp only
  rw [Action.discard_apply, hupdate]
  rfl

theorem enrichOnce_unreadable {item : Item} {err : Error}
    (hitem : s.itemAt? (h.slotOf e derived) = some item)
    (hunreadable : h.target.unmarshal item = .error err) :
    ctx.enrichOnce h change now s = (.error err, s) := by
  rw [enrichOnce_of_some hgiven hstore hbound, hitem]
  dsimp only
  rw [hunreadable]

end Derived

/-! ## The whole run -/

variable {event : BrokerEvent}

/-- The run of an event whose images can be read is the attempts to enrich its change. -/
theorem enrich_apply (hevent : Change.ofEvent h.source event = .ok change) :
    ctx.enrich h event s =
      ctx.policy.retry ctx.sleep (fun attempt => ctx.enrichOnce h change (ctx.clock attempt)) s := by
  unfold enrich
  rw [Action.bind_apply, Action.lift_apply, hevent]
  rfl

/-- The first attempt ends the run unless it meets a conflict. -/
theorem enrich_of_settled (hevent : Change.ofEvent h.source event = .ok change)
    {answer : Result Unit} {s' : MemoryStorage}
    (hfirst : ctx.enrichOnce h change (ctx.clock 0) s = (answer, s'))
    (hsettled : ¬RetryPolicy.IsConflict answer) : ctx.enrich h event s = (answer, s') := by
  rw [enrich_apply hevent, RetryPolicy.retry_of_settled (by rwa [hfirst]), hfirst]

/-- A run of an enricher stores the derived record at the version after the stored one, or
creates it, and touches no other slot. One that derives nothing, fails or cannot read what is
stored leaves the storage as it was. Key fields are required in every accepted schema. -/
theorem enrich_upserts (hstore : ctx.store = Store.inMemory e)
    (halone : ∀ nanos s, ctx.sleep nanos s = s) (hbound : Store.IsBound e h.target)
    (hledger : h.target.model.isLedger = false)
    (hkeys : Blueprint.KeyFieldsRequired h.target.model)
    (hexpiry : h.target.HasExpiryInRange (ctx.clock 0)) (hversions : s.VersionsBelowLast)
    (hevent : Change.ofEvent h.source event = .ok change) {given : Result (Option Record)}
    (hgiven : h.enrich change s = (given, s)) :
    h.Upserts e (ctx.clock 0) s given (ctx.enrich h event s).1 (ctx.enrich h event s).2 where
  creates := by
    rintro derived rfl hnone
    have hprepared := RecordType.beforeCreate_eq_withExpiry hexpiry derived
    refine ⟨hprepared, ?_⟩
    rw [enrich_of_settled hevent (enrichOnce_creates hgiven hstore hbound hkeys hnone hprepared)
      RetryPolicy.not_isConflict_ok]
    exact ⟨rfl, s.isAfterPut_write _ _⟩
  updates := by
    rintro derived item stored rfl hitem hstored
    rw [enrich_of_settled hevent
      (enrichOnce_updates hgiven hstore hbound hledger hversions hitem hstored)
      RetryPolicy.not_isConflict_ok]
    exact ⟨rfl, s.isAfterPut_write _ _⟩
  unreadable := by
    rintro derived item err rfl hitem hunreadable
    have hsettled : ¬RetryPolicy.IsConflict (.error err : Result Unit) := by
      obtain ⟨column, detail, rfl⟩ := RecordType.unmarshal_error hunreadable
      simp [Error.isTransient_iff]
    rw [enrich_of_settled hevent (enrichOnce_unreadable hgiven hstore hbound hitem hunreadable)
      hsettled]
    exact ⟨rfl, rfl⟩
  skips := by
    rintro rfl
    rw [enrich_of_settled hevent (enrichOnce_of_none hgiven) RetryPolicy.not_isConflict_ok]
    exact ⟨rfl, rfl⟩
  fails := by
    rintro err rfl
    -- The failure may be a conflict: then the attempts go on, and each fails like the first.
    obtain ⟨last, hlast⟩ : ∃ last, ctx.policy.retry ctx.sleep
        (fun attempt => ctx.enrichOnce h change (ctx.clock attempt)) s = (.error last, s) :=
      RetryPolicy.retryFrom_of_failing (fun nanos => halone nanos s)
        (fun _ => ⟨err, enrichOnce_of_error hgiven⟩) _ 0
    rw [enrich_apply hevent, hlast]
    exact ⟨rfl, rfl⟩

end HandlerContext

namespace FrontPageExample

/-- Pages, kept by their path. -/
def page : RecordType :=
  ⟨⟨"Page", "Page", [.scalar "path" "ID" true, .scalar "title" "String" false],
    .simple ⟨"path", ["path"], none, true⟩, [], none, false, false, false, []⟩, [], .empty,
    Code.functionPath?⟩

def frontPage : Record := ⟨[("path", .text "/"), ("title", .text "Start")], .unwritten⟩

/-- Whatever page changes, the front page is written anew. -/
def publisher : Enricher MemoryStorage := ⟨page, page, fun _ s => (.ok (some frontPage), s)⟩

def bindings : Environment := .detached [("TABLE_PAGE", "pages")]

def context : HandlerContext MemoryStorage :=
  ⟨Store.inMemory bindings, fun _ => ⟨9, 0⟩, .default, fun _ s => s⟩

/-- A page without a title, at its second version. -/
def image : Item :=
  [("_ct", .text "1970-01-01T00:00:00Z"), ("_et", .text "Page"),
    ("_md", .text "1970-01-01T00:00:00Z"), ("_v", .number "2"), ("path", .text "/")]

def event : BrokerEvent where
  id := none
  detailType := "MODIFY"
  source := "Page.Page"
  time := none
  detail := {
    id := none
    mutation := .modify
    source := "arn:aws:dynamodb:eu:1:table/Page/stream/1"
    payload := ⟨none, [], some image, none, none, none⟩ }

def slot : Slot := ⟨"pages", "path=/"⟩

def storage : MemoryStorage := MemoryStorage.empty.write slot image

theorem versionsBelowLast_storage : storage.VersionsBelowLast := by
  intro other version hversion
  rw [storage, MemoryStorage.itemAt?_write] at hversion
  split at hversion
  · have htwo : Condition.storedVersion? (some image) = some 2 := by decide +kernel
    rw [htwo] at hversion
    cases hversion
    decide
  · cases hversion

end FrontPageExample

open FrontPageExample in
theorem front_page_updated :
    (∃ change, Change.ofEvent publisher.source event = .ok change) ∧ storage.VersionsBelowLast ∧
    (context.enrich publisher event storage).1 = .ok () ∧
    (context.enrich publisher event storage).2.itemAt? slot = some (page.toItem
      { frontPage with revision := ⟨3, some .epoch, some ⟨9, 0⟩⟩ }) := by
  have hexpiry : page.HasExpiryInRange ⟨9, 0⟩ := by
    have hnone : page.model.expiryDefault? = none := by decide
    intro field seconds hdefault
    rw [hnone] at hdefault
    cases hdefault
  have hkeys : Blueprint.KeyFieldsRequired page.model := by
    intro part hpart name hname
    cases List.mem_singleton.mp hpart
    cases List.mem_singleton.mp hname
    exact ⟨.scalar "path" "ID" true, by decide, rfl⟩
  have hbound : Store.IsBound bindings page := by
    unfold Store.IsBound
    decide +kernel
  have hreads : (Change.ofEvent publisher.source event).isOk = true := by decide +kernel
  have hrevision : (page.unmarshal image).map (·.revision) = .ok ⟨2, some .epoch, some .epoch⟩ := by
    decide +kernel
  have hslot : publisher.slotOf bindings frontPage = slot := by decide +kernel
  have hitem : storage.itemAt? (publisher.slotOf bindings frontPage) = some image := by
    decide +kernel
  obtain ⟨stored, hstored, hversion⟩ := map_eq_ok.mp hrevision
  cases hevent : Change.ofEvent publisher.source event with
  | error err => rw [hevent] at hreads; cases hreads
  | ok change =>
    have hgiven : publisher.enrich change storage = (.ok (some frontPage), storage) := rfl
    have hupserts := HandlerContext.enrich_upserts (h := publisher) (s := storage)
      (rfl : context.store = Store.inMemory bindings) (fun _ _ => rfl) hbound rfl hkeys hexpiry
      versionsBelowLast_storage hevent hgiven
    obtain ⟨hanswer, hputs, -⟩ := hupserts.updates frontPage image stored rfl hitem hstored
    rw [hslot, Record.inPlaceOf, hversion] at hputs
    exact ⟨⟨change, rfl⟩, versionsBelowLast_storage, hanswer, hputs⟩

end Keyspace
