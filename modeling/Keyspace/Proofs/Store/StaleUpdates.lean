import Keyspace.Proofs.Example.OrderTotals
import Keyspace.Proofs.Record.Reading
import Keyspace.Proofs.Store.Calls

/-!
# Updates of stale records

An update succeeds where the stored version is the one that its record was read at. Every
change of a slot moves the stored version: an update adds one, a removal takes it away, and a
creation starts again with one. So the version of a record that a client got is stored still
or again in two cases only: nothing has changed the slot since, or the record was created anew
and then updated until it got to that version.
-/
namespace Keyspace.Store

section Counting

variable (e : Environment) (slot : Slot)

/-- No turn changed the slot. -/
def Untouched (log : List Turn) : Prop := ∀ turn ∈ log, turn.changes e slot = false

/-- Whatever changed the slot was an update. -/
def OnlyUpdates (log : List Turn) : Prop :=
  ∀ turn ∈ log, turn.changes e slot = true → turn.call.isUpdate = true

/-- How often the slot was changed. -/
def changes (log : List Turn) : Nat := log.countP (Turn.changes e slot)

/-- The record in the slot was created anew, and since then updated up to this version. -/
def Recreated (log : List Turn) (version : Int) : Prop :=
  ∃ newer creation older, log = newer ++ creation :: older ∧
    creation.changes e slot = true ∧ creation.call.isCreation = true ∧
    OnlyUpdates e slot newer ∧ version = 1 + (changes e slot newer : Int)

/-- The version that a slot holds after a turn, from the one before. -/
def Turn.nextVersion (turn : Turn) (stored : Option Int) : Option Int :=
  if turn.changes e slot then
    if turn.call.isCreation then some 1
    else if turn.call.isUpdate then stored.map (· + 1)
    else none
  else stored

end Counting

variable {e : Environment} {slot : Slot} {start s : MemoryStorage} {log : List Turn}

section Versions

variable {turn : Turn} {stored : Option Int}

theorem nextVersion_unchanged (h : turn.changes e slot = false) :
    turn.nextVersion e slot stored = stored := by
  rw [Turn.nextVersion, if_neg (by simp [h])]

theorem nextVersion_creation (h : turn.changes e slot = true)
    (hkind : turn.call.isCreation = true) : turn.nextVersion e slot stored = some 1 := by
  rw [Turn.nextVersion, if_pos h, if_pos hkind]

theorem nextVersion_update (h : turn.changes e slot = true) (hkind : turn.call.isUpdate = true) :
    turn.nextVersion e slot stored = stored.map (· + 1) := by
  have hother := Call.isCreation_of_isUpdate hkind
  rw [Turn.nextVersion, if_pos h, if_neg (by simp [hother]), if_pos hkind]

theorem nextVersion_removal (h : turn.changes e slot = true)
    (hkind : turn.call.isCreation = false ∧ turn.call.isUpdate = false) :
    turn.nextVersion e slot stored = none := by
  rw [Turn.nextVersion, if_pos h, if_neg (by simp [hkind.1]), if_neg (by simp [hkind.2])]

end Versions

/-- One turn leaves behind the version that its kind says. -/
theorem storedVersion?_turn (hs : s.Sorted) (client : Nat) (call : Call) :
    Condition.storedVersion? ((call.run e s).2.itemAt? slot) =
      (turn e client call s).nextVersion e slot (Condition.storedVersion? (s.itemAt? slot)) := by
  have hstep := slotStep_turn (e := e) hs client call slot
  have hcall : (turn e client call s).call = call := rfl
  generalize turn e client call s = turn at hstep hcall ⊢
  generalize hchanges : turn.changes e slot = changed at hstep
  subst hcall
  generalize (turn.call.run e s).2.itemAt? slot = after at hstep ⊢
  generalize s.itemAt? slot = before at hstep ⊢
  cases hstep with
  | kept => rw [nextVersion_unchanged hchanges]
  | created hkind _ hfirst =>
    rw [nextVersion_creation hchanges hkind,
      RecordType.storedVersion?_toItem _ _ (by rw [hfirst]; decide), hfirst]
  | updated hkind _ hexpected hnext hfits =>
    rw [nextVersion_update hchanges hkind, RecordType.storedVersion?_toItem _ _ hfits, hexpected,
      hnext]
    rfl
  | removed hkind =>
    rw [nextVersion_removal hchanges (Call.isRemoval_other hkind)]
    rfl

/-- The stored version is what the turns make of the one at the start. -/
theorem Trace.storedVersion? {P : Call → Prop} (h : Trace P e start log s)
    (hstart : start.Sorted) (slot : Slot) :
    Condition.storedVersion? (s.itemAt? slot) =
      log.foldr (Turn.nextVersion e slot) (Condition.storedVersion? (start.itemAt? slot)) := by
  induction h with
  | start => rfl
  | next before client call _ ih =>
    rw [List.foldr_cons, ← ih]
    exact storedVersion?_turn (before.sorted hstart) client call

theorem onlyUpdates_cons {turn : Turn} : OnlyUpdates e slot (turn :: log) ↔
    (turn.changes e slot = true → turn.call.isUpdate = true) ∧ OnlyUpdates e slot log :=
  List.forall_mem_cons

theorem changes_eq_zero : changes e slot log = 0 ↔ Untouched e slot log := by
  rw [changes, List.countP_eq_zero]
  simp only [Untouched, Bool.not_eq_true]

theorem not_recreated_nil {version : Int} : ¬Recreated e slot [] version := by
  rintro ⟨newer, creation, older, hlog, -⟩
  cases newer <;> cases hlog

/-- The last creation is the newest turn, or the turn is none or an update and the creation
lies before it. -/
theorem recreated_cons {turn : Turn} {version : Int} :
    Recreated e slot (turn :: log) version ↔
      (turn.changes e slot = true ∧ turn.call.isCreation = true ∧ version = 1) ∨
      (turn.changes e slot = false ∧ Recreated e slot log version) ∨
      (turn.changes e slot = true ∧ turn.call.isUpdate = true ∧
        Recreated e slot log (version - 1)) := by
  constructor
  · rintro ⟨newer, creation, older, hlog, hchanges, hkind, honly, hversion⟩
    cases newer with
    | nil =>
      obtain ⟨rfl, rfl⟩ := List.cons.inj hlog
      exact Or.inl ⟨hchanges, hkind, by simpa [changes] using hversion⟩
    | cons last newer =>
      obtain ⟨rfl, rfl⟩ := List.cons.inj hlog
      obtain ⟨hlast, hnewer⟩ := onlyUpdates_cons.mp honly
      cases hturn : turn.changes e slot with
      | false =>
        rw [changes, List.countP_cons_of_neg (by simp [hturn])] at hversion
        exact Or.inr (Or.inl ⟨rfl, newer, creation, older, rfl, hchanges, hkind, hnewer, hversion⟩)
      | true =>
        rw [changes, List.countP_cons_of_pos hturn] at hversion
        refine Or.inr (Or.inr ⟨rfl, hlast hturn, newer, creation, older, rfl, hchanges, hkind,
          hnewer, ?_⟩)
        unfold changes
        omega
  · rintro (⟨hturn, hkind, rfl⟩ | ⟨hturn, hrest⟩ | ⟨hturn, hupdate, hrest⟩)
    · exact ⟨[], turn, log, rfl, hturn, hkind, List.forall_mem_nil _, rfl⟩
    · obtain ⟨newer, creation, older, rfl, hchanges, hkind, honly, hversion⟩ := hrest
      refine ⟨turn :: newer, creation, older, rfl, hchanges, hkind,
        onlyUpdates_cons.mpr ⟨fun h => ?_, honly⟩, ?_⟩
      · rw [hturn] at h
        cases h
      · rw [changes, List.countP_cons_of_neg (by simp [hturn])]
        exact hversion
    · obtain ⟨newer, creation, older, rfl, hchanges, hkind, honly, hversion⟩ := hrest
      refine ⟨turn :: newer, creation, older, rfl, hchanges, hkind,
        onlyUpdates_cons.mpr ⟨fun _ => hupdate, honly⟩, ?_⟩
      rw [changes, List.countP_cons_of_pos hturn]
      unfold changes at hversion
      omega

/-- Which turns lead from one stored version to another: updates only, or a creation and
updates after it. -/
theorem nextVersions_eq_some {before after : Int} :
    log.foldr (Turn.nextVersion e slot) (some before) = some after ↔
      (OnlyUpdates e slot log ∧ after = before + (changes e slot log : Int)) ∨
      Recreated e slot log after := by
  -- The newest turn says how the version after it comes from the one before, so the induction
  -- is over all versions after.
  induction log generalizing after with
  | nil =>
    have hnone : ¬Recreated e slot [] after := not_recreated_nil
    have honly : OnlyUpdates e slot [] := List.forall_mem_nil _
    simp only [List.foldr_nil, Option.some.injEq, hnone, honly, or_false, true_and]
    exact ⟨fun h => by simp [changes, h], fun h => by simpa [changes] using h.symm⟩
  | cons turn log ih =>
    rw [List.foldr_cons, onlyUpdates_cons, recreated_cons]
    cases hturn : turn.changes e slot with
    | false =>
      have hcount : changes e slot (turn :: log) = changes e slot log :=
        List.countP_cons_of_neg (by simp [hturn])
      rw [nextVersion_unchanged hturn, ih, hcount]
      simp
    | true =>
      have hcount : changes e slot (turn :: log) = changes e slot log + 1 :=
        List.countP_cons_of_pos hturn
      rw [hcount]
      cases hupdate : turn.call.isUpdate with
      | true =>
        have hcreation := Call.isCreation_of_isUpdate hupdate
        rw [nextVersion_update hturn hupdate, Option.map_eq_some_iff]
        simp only [hcreation, Bool.false_eq_true, false_and, and_false, Bool.true_eq_false,
          false_or, true_and, forall_const]
        constructor
        · rintro ⟨middle, hmiddle, rfl⟩
          rw [Int.add_sub_cancel]
          exact (ih.mp hmiddle).imp_left fun ⟨honly, h⟩ => ⟨honly, by omega⟩
        · intro h
          refine ⟨after - 1, ih.mpr ?_, by omega⟩
          exact h.imp_left fun ⟨honly, h⟩ => ⟨honly, by omega⟩
      | false =>
        cases hcreation : turn.call.isCreation with
        | true =>
          rw [nextVersion_creation hturn hcreation]
          simp [eq_comm]
        | false =>
          rw [nextVersion_removal hturn ⟨hcreation, hupdate⟩]
          simp

/-- The version of a record that a call answered with, unless it removed it, is the one stored
after the call. -/
theorem storedVersion?_of_answer (client : Nat) {call : Call} {r : Record}
    (hanswer : (turn e client call s).answer = .ok (some r)) (hkind : call.isRemoval = false) :
    Condition.storedVersion? ((call.run e s).2.itemAt? (call.slot e)) = some r.revision.version := by
  have houtcome := call.run_outcome e s
  change (call.run e s).1 = _ at hanswer
  generalize call.run e s = outcome at houtcome hanswer ⊢
  obtain ⟨answer, s'⟩ := outcome
  dsimp only at houtcome hanswer ⊢
  cases houtcome with
  | failed err => cases hanswer
  | missed => cases hanswer
  | read hfound hreads =>
    cases hanswer
    rw [hfound]
    exact RecordType.storedVersion?_of_unmarshal hreads
  | created _ _ hfirst =>
    cases hanswer
    rw [MemoryStorage.itemAt?_write, if_pos rfl]
    exact RecordType.storedVersion?_toItem _ _ (by rw [hfirst]; decide)
  | updated _ _ _ _ hfits =>
    cases hanswer
    rw [MemoryStorage.itemAt?_write, if_pos rfl]
    exact RecordType.storedVersion?_toItem _ _ hfits
  | removed hremoval _ _ =>
    rw [hremoval] at hkind
    cases hkind

/-- After a call that answered with a record, the version of that record is stored as long as
nothing changes the slot, and again once a new record in the slot was updated up to it. -/
theorem Trace.version_kept_iff {P : Call → Prop} (h : Trace P e start log s)
    (hstart : start.Sorted) {between older : List Turn} {got : Turn}
    (hlog : log = between ++ got :: older) {r : Record} (hgot : got.answer = .ok (some r))
    (hkind : got.call.isRemoval = false) :
    IsBound e got.call.type ∧
    (Condition.storedVersion? (s.itemAt? (got.call.slot e)) = some r.revision.version ↔
      Untouched e (got.call.slot e) between ∨
        Recreated e (got.call.slot e) between r.revision.version) := by
  subst hlog
  obtain ⟨after, holder, hnewer⟩ := h.split
  cases holder with
  | @next _ before hbefore client call _ =>
    have hsorted : before.Sorted := hbefore.sorted hstart
    have hbound : IsBound e call.type := call.isBound_of_run (Prod.ext hgot rfl)
    refine ⟨hbound, ?_⟩
    rw [hnewer.storedVersion? (call.sorted_run hsorted)]
    change List.foldr _ (Condition.storedVersion? ((call.run e before).2.itemAt? (call.slot e))) _ =
      _ ↔ _
    rw [storedVersion?_of_answer client hgot hkind, nextVersions_eq_some, ← changes_eq_zero]
    -- Updates alone lead back to the version they started from only if there were none.
    refine or_congr_left ⟨fun ⟨_, hsame⟩ => by omega, fun hzero => ⟨?_, by omega⟩⟩
    intro turn hturn hchanges
    rw [changes_eq_zero.mp hzero turn hturn] at hchanges
    cases hchanges

/-- Whatever clients do in between, the update of a record that a client got succeeds if
nothing has changed its slot since or a new record there was updated up to its version, as
far as the model is no ledger and there is a next version. In all other cases it changes
nothing, and the version is what it fails for. -/
theorem update_of_got {P : Call → Prop} (h : Trace P e start log s) (hstart : start.Sorted)
    {between older : List Turn} {got : Turn} (hlog : log = between ++ got :: older)
    {r₀ : Record} (hgot : got.answer = .ok (some r₀)) (hkind : got.call.isRemoval = false)
    {t : RecordType} (htype : got.call.type = t) {r : Record} (hkey : t.key r = got.call.key)
    (hversion : r.revision.version = r₀.revision.version) (now : Timestamp) :
    (((inMemory e).update t now r s).1.isOk = true ↔
      t.model.isLedger = false ∧ fitsInt64 (r.revision.version + 1) = true ∧
      (Untouched e (slotOf e t (t.key r)) between ∨
        Recreated e (slotOf e t (t.key r)) between r.revision.version)) ∧
    (((inMemory e).update t now r s).1.isOk = false → ((inMemory e).update t now r s).2 = s ∧
      (t.model.isLedger = false → fitsInt64 (r.revision.version + 1) = true →
        ((inMemory e).update t now r s).1 =
          .error (.optimisticLocking t.model.name (describeKey (t.key r)) r.revision.version))) := by
  obtain ⟨hbound, hkept⟩ := h.version_kept_iff hstart hlog hgot hkind
  subst htype
  rw [Call.slot, ← hkey, ← hversion] at hkept
  cases hledger : got.call.type.model.isLedger with
  | true =>
    rw [update_ledger hledger]
    simp [Except.isOk, Except.toBool]
  | false =>
    cases hfits : fitsInt64 (r.revision.version + 1) with
    | false =>
      rw [update_last_version hledger hfits]
      simp [Except.isOk, Except.toBool]
    | true =>
      rw [update_apply hbound hledger hfits, ← hkept]
      split
      · next hstored => exact ⟨iff_of_true rfl ⟨rfl, rfl, hstored⟩, fun h => by cases h⟩
      · next hstored =>
        exact ⟨iff_of_false (by simp [Except.isOk, Except.toBool]) fun h => hstored h.2.2,
          fun _ => ⟨rfl, fun _ _ => rfl⟩⟩

namespace TotalsExample

open Example.Orders

def place : Slot := ⟨"Orders", "pk=CUSTOMER#c1, sk=TOTALS#c1"⟩

def creating (count : Int) : Call := .perform (.create totals .epoch (draft count))

/-- An update of totals that were created, with another count. -/
def updating (count : Int) : Call := .perform (.update totals .epoch ((draft count).created .epoch))

theorem answer_creation (client : Nat) (count : Int) :
    (turn bindings client (creating count) .empty).answer =
      .ok (some ((draft count).created .epoch)) := by
  have hbound : IsBound bindings totals := rfl
  have hprepared : totals.beforeCreate .epoch (draft count) = .ok (draft count) := rfl
  show ((creating count).run bindings .empty).1 = _
  rw [creating, Call.run_perform]
  show ((inMemory bindings).create totals .epoch (draft count) .empty).1.map some = _
  rw [create_apply hbound hprepared, MemoryStorage.itemAt?_empty]
  rfl

/-- A client created totals. -/
def first : Turn := turn bindings 1 (creating 1) .empty

def created : MemoryStorage := ((creating 1).run bindings .empty).2

/-- Another client updates them. -/
def overtaking : Turn := turn bindings 2 (updating 5) created

end TotalsExample

open TotalsExample Example.Orders in
theorem overtaken_totals_are_stale :
    Trace (fun _ => True) bindings .empty [overtaking, first] ((updating 5).run bindings created).2 ∧
    ((inMemory bindings).update totals .epoch ((draft 2).created .epoch)
      ((updating 5).run bindings created).2).1 =
        .error (.optimisticLocking "CustomerTotals" "pk=CUSTOMER#c1, sk=TOTALS#c1" 1) := by
  have htrace : Trace (fun _ => True) bindings .empty [overtaking, first]
      ((updating 5).run bindings created).2 :=
    (Trace.start.next 1 (creating 1) trivial).next 2 (updating 5) trivial
  refine ⟨htrace, ?_⟩
  have hlog : [overtaking, first] = [overtaking] ++ first :: [] := rfl
  obtain ⟨hok, herror⟩ := update_of_got htrace MemoryStorage.sorted_empty hlog
    (answer_creation 1 1) rfl (t := totals) rfl (r := (draft 2).created .epoch) rfl rfl .epoch
  have hplace : slotOf bindings totals (totals.key ((draft 2).created .epoch)) = place := by
    decide +kernel
  have hchanges : overtaking.changes bindings place = true := by decide +kernel
  have htouched : ¬Untouched bindings place [overtaking] := fun h => by
    have hsame := h overtaking List.mem_cons_self
    rw [hchanges] at hsame
    cases hsame
  have hkept : ¬Recreated bindings place [overtaking] 1 := by
    rw [recreated_cons]
    rintro (⟨-, hcreation, -⟩ | ⟨hunchanged, -⟩ | ⟨-, -, hearlier⟩)
    · cases hcreation
    · rw [hchanges] at hunchanged
      cases hunchanged
    · exact not_recreated_nil hearlier
  rw [hplace] at hok
  have hfailed := Bool.eq_false_iff.mpr fun h => (hok.mp h).2.2.elim htouched hkept
  have hledger : totals.model.isLedger = false := rfl
  have hkey : describeKey (totals.key ((draft 2).created .epoch)) =
      "pk=CUSTOMER#c1, sk=TOTALS#c1" := congrArg Slot.key hplace
  rw [(herror hfailed).2 hledger (by decide), hkey]
  rfl

open TotalsExample Example.Orders in
/-- A client that created totals overwrites those that another client created after removing
them: the guard takes the first version of the new ones for the one it knows. -/
theorem recreated_totals_are_overwritten :
    ∃ (removal creation : Turn) (s : MemoryStorage),
      Trace (fun _ => True) bindings .empty [creation, removal, first] s ∧
      first.client = 1 ∧ first.answer = .ok (some ((draft 1).created .epoch)) ∧
      removal.client = 2 ∧ removal.call = removing ∧ removal.changes bindings place = true ∧
      creation.client = 2 ∧ creation.call = creating 7 ∧ creation.changes bindings place = true ∧
      ((inMemory bindings).update totals .epoch ((draft 2).created .epoch) s).1.isOk = true :=
  let removed := (removing.run bindings created).2
  ⟨turn bindings 2 removing created, turn bindings 2 (creating 7) removed,
    ((creating 7).run bindings removed).2,
    ((Trace.start.next 1 (creating 1) trivial).next 2 removing trivial).next 2 (creating 7) trivial,
    rfl, answer_creation 1 1, rfl, rfl, by decide +kernel, rfl, rfl, by decide +kernel,
    by decide +kernel⟩

end Keyspace.Store
