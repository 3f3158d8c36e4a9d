import Keyspace.Proofs.Change.ReducerRun
import Keyspace.Proofs.Record.Reading
import Keyspace.Proofs.Store.Requests
import Mathlib.Logic.Function.Basic

/-!
# Runs that share a summary

Any number of runs of one reducer, whose seeds have one key, over one storage. Their steps
interleave freely, and the rest of the storage may change at any time. The invariant ties what
a run has loaded to what is stored: a loaded version is never ahead of the stored one, and
where the two agree the run holds the stored summary itself. A save is therefore refused, or
folds its change into exactly what the commits before it have left.
-/
namespace Keyspace

open Result

/-- The runs of a reducer over one storage, and which of them have put a summary so far. -/
structure Reductions (ι : Type) where
  storage : MemoryStorage
  progress : ι → ReducerRun.Progress
  /-- In the order of the puts. -/
  committed : List ι

namespace Reductions

variable {ι : Type} (h : Reducer) (runs : ι → ReducerRun)

def start (s : MemoryStorage) : Reductions ι := ⟨s, fun i => (runs i).start h, []⟩

/-- One run takes its next step. -/
def advance [DecidableEq ι] (st : Reductions ι) (i : ι) : Reductions ι :=
  let taken := (runs i).step h (st.progress i) st.storage
  let commits := (runs i).commits h (st.progress i) st.storage
  ⟨taken.2, Function.update st.progress i taken.1,
    if commits then st.committed ++ [i] else st.committed⟩

/-- The states that the runs can come to. No one else touches the slot of the summary. -/
inductive Reachable [DecidableEq ι] (slot : Slot) : Reductions ι → Prop
  | start (s : MemoryStorage) (isNew : s.itemAt? slot = none) : Reachable slot (start h runs s)
  | advance {st : Reductions ι} (before : Reachable slot st) (i : ι) :
      Reachable slot (advance h runs st i)
  | elsewhere {st : Reductions ι} (before : Reachable slot st) (s : MemoryStorage)
      (isKept : s.itemAt? slot = st.storage.itemAt? slot) :
      Reachable slot { st with storage := s }

/-- The changes that some runs were started with. -/
def changesOf (is : List ι) : Result (List Change) :=
  is.mapM fun i => Change.ofEvent h.source (runs i).event

end Reductions

/-- All runs work on the storage in memory, in one table, and their pauses leave the slot of
the summary alone. -/
structure ReducerRun.Share {ι : Type} (h : Reducer) (runs : ι → ReducerRun) (slot : Slot) :
    Prop where
  inMemory : ∀ i, ∃ e, (runs i).context.store = Store.inMemory e ∧ Store.IsBound e h.target ∧
    Store.physicalTable e h.target = slot.table
  keepsSlot : ∀ i nanos s, ((runs i).context.sleep nanos s).itemAt? slot = s.itemAt? slot

/-- What a reducer keeps to, for the changes that the runs are started with: one key, summaries
that `admits` holds of, and no word about revisions. -/
structure Reducer.Accumulates {ι : Type} (h : Reducer) (runs : ι → ReducerRun) (key : Item)
    (admits : Dict Value → Prop) : Prop where
  notLedger : h.target.model.isLedger = false
  noExpiry : h.target.model.expiryDefault? = none
  seeds : ∀ i c seed, Change.ofEvent h.source (runs i).event = .ok c → h.initial c = .ok seed →
    h.target.key seed = key ∧ seed.revision.isPersisted = false ∧ admits seed.values
  reduces : ∀ i c r r', Change.ofEvent h.source (runs i).event = .ok c → admits r.values →
    h.target.key r = key → h.reduce r c = .ok r' →
    h.target.key r' = key ∧ r'.revision = r.revision ∧ admits r'.values
  readsBack : ∀ r r', admits r.values → h.target.key r = key →
    h.target.unmarshal (h.target.toItem r) = .ok r' → r'.values = r.values

/-- The summaries that folding changes into a seed, one after another, leads to. Only their
values count: the store sets the revision. -/
inductive Reducer.FoldsFrom (h : Reducer) (seed : Record) : List Change → Record → Prop
  | nil {r : Record} (same : r.values = seed.values) : FoldsFrom h seed [] r
  | next {cs : List Change} {r reduced r' : Record} {c : Change} (before : FoldsFrom h seed cs r)
      (reduced_eq : h.reduce r c = .ok reduced) (same : r'.values = reduced.values) :
      FoldsFrom h seed (cs ++ [c]) r'

theorem Reducer.FoldsFrom.congr {h : Reducer} {seed : Record} {cs : List Change} {r r' : Record}
    (hfolds : h.FoldsFrom seed cs r) (hsame : r'.values = r.values) : h.FoldsFrom seed cs r' := by
  cases hfolds with
  | nil same => exact .nil (hsame.trans same)
  | next before reduced_eq same => exact .next before reduced_eq (hsame.trans same)

theorem Reductions.changesOf_length {ι : Type} {h : Reducer} {runs : ι → ReducerRun}
    {is : List ι} {cs : List Change} (hcs : changesOf h runs is = .ok cs) :
    cs.length = is.length :=
  (mapM_eq_ok.mp hcs).length_eq.symm

section Steps

variable {h : Reducer} {ctx : HandlerContext MemoryStorage} {e : Environment} {c : Change}
  {s : MemoryStorage}

/-- The summary to start from: what is stored, or else the seed. -/
def Reducer.summaryFrom (h : Reducer) (seed : Record) : Option Item → Result Record
  | none => .ok seed
  | some item => h.target.unmarshal item

/-- Loading looks at the slot of the seed. -/
theorem loadSummary_apply (hstore : ctx.store = Store.inMemory e)
    (hbound : Store.IsBound e h.target) :
    ctx.loadSummary h c s = (do
      let seed ← h.initial c
      h.summaryFrom seed (s.itemAt? (Store.slotOf e h.target (h.target.key seed))), s) := by
  unfold HandlerContext.loadSummary
  simp only [Action.bind_apply, Action.lift_apply]
  cases h.initial c with
  | error err => rfl
  | ok seed =>
    simp only [hstore, Store.find_apply hbound]
    show _ = (h.summaryFrom seed (s.itemAt? (Store.slotOf e h.target (h.target.key seed))), s)
    generalize s.itemAt? (Store.slotOf e h.target (h.target.key seed)) = item
    cases item with
    | none => rfl
    | some item =>
      rw [Option.mapM_some]
      show _ = (h.target.unmarshal item, s)
      cases h.target.unmarshal item <;> rfl

/-- All that saving can do: it fails and changes nothing, it creates the summary where no item
has the partition attribute, or it updates the summary at its version. -/
theorem saveSummary_cases (hstore : ctx.store = Store.inMemory e)
    (hbound : Store.IsBound e h.target) (hledger : h.target.model.isLedger = false)
    (hexpiry : h.target.model.expiryDefault? = none) (now : Timestamp) (current : Record) :
    (∃ err, ctx.saveSummary h c now current s = (.error err, s)) ∨
    ∃ reduced, h.reduce current c = .ok reduced ∧
      ((reduced.revision.isPersisted = false ∧
        (s.itemAt? (Store.slotOf e h.target (h.target.key reduced))).any
          (·.contains h.target.model.primaryKey.partitionKey.attributeName) = false ∧
        ctx.saveSummary h c now current s =
          (.ok (), s.write (Store.slotOf e h.target (h.target.key reduced))
            (h.target.toItem (reduced.created now)))) ∨
      (reduced.revision.isPersisted = true ∧
        Condition.storedVersion?
          (s.itemAt? (Store.slotOf e h.target (h.target.key reduced))) =
            some reduced.revision.version ∧
        fitsInt64 (reduced.revision.version + 1) = true ∧
        ctx.saveSummary h c now current s =
          (.ok (), s.write (Store.slotOf e h.target (h.target.key reduced))
            (h.target.toItem (reduced.updated now))))) := by
  unfold HandlerContext.saveSummary
  simp only [Action.bind_apply, Action.lift_apply, Action.discard_apply, hstore]
  cases hreduce : h.reduce current c with
  | error err => exact Or.inl ⟨err, rfl⟩
  | ok reduced =>
    dsimp only
    rw [Store.save_apply]
    by_cases hpersisted : reduced.revision.isPersisted = true
    · rw [if_pos hpersisted]
      by_cases hfits : fitsInt64 (reduced.revision.version + 1) = true
      · rw [Store.update_apply hbound hledger hfits]
        by_cases hversion : Condition.storedVersion?
            (s.itemAt? (Store.slotOf e h.target (h.target.key reduced))) =
              some reduced.revision.version
        · rw [if_pos hversion]
          exact Or.inr ⟨reduced, rfl, Or.inr ⟨hpersisted, hversion, hfits, rfl⟩⟩
        · rw [if_neg hversion]
          exact Or.inl ⟨_, rfl⟩
      · rw [Store.update_last_version hledger (by simpa using hfits)]
        exact Or.inl ⟨_, rfl⟩
    · rw [if_neg hpersisted]
      have hprepared : h.target.beforeCreate now reduced = .ok reduced := by
        unfold RecordType.beforeCreate
        rw [hexpiry]
      rw [Store.create_apply hbound hprepared]
      by_cases hany : (s.itemAt? (Store.slotOf e h.target (h.target.key reduced))).any
          (·.contains h.target.model.primaryKey.partitionKey.attributeName) = true
      · rw [if_pos hany]
        exact Or.inl ⟨_, rfl⟩
      · rw [if_neg hany]
        exact Or.inr ⟨reduced, rfl, Or.inl
          ⟨by simpa using hpersisted, by simpa using hany, rfl⟩⟩

end Steps

namespace Reductions

section Invariant

variable {ι : Type} (h : Reducer) (runs : ι → ReducerRun) (key : Item)
  (admits : Dict Value → Prop)

/-- What is stored after some commits: nothing after none, and otherwise the changes folded
together, at the number of commits as the version. -/
def Holds (committed : List ι) : Option Item → Prop
  | none => committed = []
  | some item => ∃ c cs seed r, changesOf h runs committed = .ok (c :: cs) ∧
    h.initial c = .ok seed ∧ h.FoldsFrom seed (c :: cs) r ∧ admits r.values ∧
    h.target.key r = key ∧ item = h.target.toItem r ∧ r.revision.version = committed.length ∧
    fitsInt64 r.revision.version = true

/-- What a run that is about to save has in hand: its seed, or a summary read at a version
not ahead of the commits. At the version of the last commit it is what is stored now. -/
def Loaded (committed : List ι) (stored : Option Item) (c : Change) (current : Record) : Prop :=
  admits current.values ∧ h.target.key current = key ∧
  ((current.revision.isPersisted = false ∧ h.initial c = .ok current) ∨
    (0 < current.revision.version ∧ current.revision.version ≤ committed.length ∧
      (current.revision.version = committed.length →
        ∃ item, stored = some item ∧ h.target.unmarshal item = .ok current)))

/-- How the progress of a run fits what was committed and is stored. -/
def Fits (committed : List ι) (stored : Option Item) (i : ι) : ReducerRun.Progress → Prop
  | .loading c _ _ => i ∉ committed ∧ Change.ofEvent h.source (runs i).event = .ok c
  | .saving c _ _ current => i ∉ committed ∧ Change.ofEvent h.source (runs i).event = .ok c ∧
    Loaded h key admits committed stored c current
  | .finished result => i ∈ committed ↔ result = .ok ()

/-- What every reachable state keeps. -/
structure Consistent (slot : Slot) (st : Reductions ι) : Prop where
  holds : Holds h runs key admits st.committed (st.storage.itemAt? slot)
  nodup : st.committed.Nodup
  fits : ∀ i, Fits h runs key admits st.committed (st.storage.itemAt? slot) i (st.progress i)

end Invariant

section Preservation

variable {ι : Type} {h : Reducer} {runs : ι → ReducerRun} {key : Item}
  {admits : Dict Value → Prop} {committed : List ι} {i : ι} {c : Change} {table : String}

/-- A commit by another run makes what a run has loaded outdated, at worst. -/
theorem Fits.of_commit {stored stored' : Option Item} {p : ReducerRun.Progress} {j : ι}
    (hp : Fits h runs key admits committed stored i p) (hne : i ≠ j) :
    Fits h runs key admits (committed ++ [j]) stored' i p := by
  have hmem : i ∈ committed ++ [j] ↔ i ∈ committed := by simp [hne]
  cases p with
  | loading c left attempt => exact ⟨by rw [hmem]; exact hp.1, hp.2⟩
  | finished result => exact hmem.trans hp
  | saving c left attempt current =>
    obtain ⟨hnot, hchange, hadmits, hkey, hcurrent⟩ := hp
    refine ⟨by rw [hmem]; exact hnot, hchange, hadmits, hkey, hcurrent.imp_right ?_⟩
    rintro ⟨hpos, hle, -⟩
    have hlength : (committed ++ [j]).length = committed.length + 1 := by simp
    refine ⟨hpos, by omega, fun heq => ?_⟩
    exfalso
    omega

theorem fits_afterFailure (hshare : ReducerRun.Share h runs ⟨table, describeKey key⟩)
    (hnot : i ∉ committed) (hchange : Change.ofEvent h.source (runs i).event = .ok c)
    (left attempt : Nat) (err : Error) (s : MemoryStorage) :
    ((runs i).afterFailure c left attempt err s).2.itemAt? ⟨table, describeKey key⟩ =
        s.itemAt? ⟨table, describeKey key⟩ ∧
      ∀ stored, Fits h runs key admits committed stored i
        ((runs i).afterFailure c left attempt err s).1 := by
  have hfailed (err : Error) (stored : Option Item) :
      Fits h runs key admits committed stored i (.finished (.error err)) :=
    iff_of_false hnot (by simp)
  unfold ReducerRun.afterFailure
  cases left with
  | zero => exact ⟨rfl, hfailed err⟩
  | succ left =>
    dsimp only
    split
    · split
      · exact ⟨hshare.keepsSlot i _ _, fun _ => ⟨hnot, hchange⟩⟩
      · exact ⟨rfl, hfailed _⟩
    · exact ⟨rfl, hfailed err⟩

/-- What a run loads fits what is stored at that moment. -/
theorem loaded_of_load (hacc : h.Accumulates runs key admits)
    (hchange : Change.ofEvent h.source (runs i).event = .ok c) {stored : Option Item}
    (hholds : Holds h runs key admits committed stored) {seed current : Record}
    (hseed : h.initial c = .ok seed) (hcurrent : h.summaryFrom seed stored = .ok current) :
    Loaded h key admits committed stored c current := by
  obtain ⟨hkey, hnew, hadmits⟩ := hacc.seeds i c seed hchange hseed
  cases stored with
  | none =>
    cases hcurrent
    exact ⟨hadmits, hkey, Or.inl ⟨hnew, hseed⟩⟩
  | some item =>
    obtain ⟨c', cs, seed', r, hcs, -, -, hr, hrkey, rfl, hversion, hfits⟩ := hholds
    have hvalues := hacc.readsBack r current hr hrkey hcurrent
    have hread : current.revision.version = committed.length := by
      rw [← hversion]
      exact RecordType.unmarshal_version hcurrent (RecordType.storedVersion?_toItem _ _ hfits)
    have hlength := changesOf_length hcs
    rw [List.length_cons] at hlength
    refine ⟨by rw [hvalues]; exact hr, ?_, Or.inr ⟨by omega, by omega, fun _ => ⟨_, rfl, hcurrent⟩⟩⟩
    rw [← hrkey]
    exact h.target.key_congr fun _ _ field _ => by rw [Record.get?, Record.get?, hvalues]

/-- A creation that goes through is the first commit, from the run's own seed. -/
theorem holds_created (hacc : h.Accumulates runs key admits)
    (hchange : Change.ofEvent h.source (runs i).event = .ok c) {stored : Option Item}
    (hholds : Holds h runs key admits committed stored) {current reduced : Record}
    (hloaded : Loaded h key admits committed stored c current)
    (hreduce : h.reduce current c = .ok reduced)
    (habsent : stored.any (·.contains h.target.model.primaryKey.partitionKey.attributeName) = false)
    (now : Timestamp) :
    Holds h runs key admits (committed ++ [i]) (some (h.target.toItem (reduced.created now))) := by
  obtain ⟨hadmits, hkey, hcurrent⟩ := hloaded
  obtain ⟨hrkey, hrevision, hradmits⟩ := hacc.reduces i c current reduced hchange hadmits hkey hreduce
  have hempty : committed = [] := by
    cases stored with
    | none => exact hholds
    | some item =>
      obtain ⟨_, _, _, r, -, -, -, -, -, rfl, -⟩ := hholds
      rw [Option.any_some, RecordType.toItem_contains_partition] at habsent
      cases habsent
  have hseed : h.initial c = .ok current := by
    rcases hcurrent with ⟨-, hseed⟩ | ⟨hpos, hle, -⟩
    · exact hseed
    · rw [hempty] at hle
      simp only [List.length_nil] at hle
      omega
  subst hempty
  have hfits : fitsInt64 1 = true := by decide
  have hfolds : h.FoldsFrom current ([] ++ [c]) (reduced.created now) := .next (.nil rfl) hreduce rfl
  refine ⟨c, [], current, reduced.created now, ?_, hseed, hfolds, hradmits, hrkey, rfl, rfl, hfits⟩
  unfold changesOf
  rw [List.nil_append, mapM_eq_ok]
  exact .cons hchange .nil

/-- An update that goes through folds the change into what is stored. -/
theorem holds_updated (hacc : h.Accumulates runs key admits)
    (hchange : Change.ofEvent h.source (runs i).event = .ok c) {stored : Option Item}
    (hholds : Holds h runs key admits committed stored) {current reduced : Record}
    (hloaded : Loaded h key admits committed stored c current)
    (hreduce : h.reduce current c = .ok reduced)
    (hpersisted : reduced.revision.isPersisted = true)
    (hversion : Condition.storedVersion? stored = some reduced.revision.version)
    (hfits : fitsInt64 (reduced.revision.version + 1) = true) (now : Timestamp) :
    Holds h runs key admits (committed ++ [i]) (some (h.target.toItem (reduced.updated now))) := by
  obtain ⟨hadmits, hkey, hcurrent⟩ := hloaded
  obtain ⟨hrkey, hrevision, hradmits⟩ := hacc.reduces i c current reduced hchange hadmits hkey hreduce
  cases stored with
  | none => cases hversion
  | some item =>
    obtain ⟨c₁, cs, seed, old, hcs, hseed, hfolds, hold, holdkey, rfl, hcount, holdfits⟩ := hholds
    rw [RecordType.storedVersion?_toItem _ _ holdfits, hcount, hrevision] at hversion
    have hcurrentVersion := (Option.some.inj hversion).symm
    have hread : h.target.unmarshal (h.target.toItem old) = .ok current := by
      rcases hcurrent with ⟨hnew, -⟩ | ⟨-, -, hlatest⟩
      · rw [hrevision, hnew] at hpersisted
        cases hpersisted
      · obtain ⟨item, hitem, hread⟩ := hlatest hcurrentVersion
        cases hitem
        exact hread
    have hnext : (reduced.updated now).revision.version = ((committed ++ [i]).length : Int) := by
      show reduced.revision.version + 1 = _
      rw [hrevision, hcurrentVersion, List.length_append]
      rfl
    have hfolds' : h.FoldsFrom seed (c₁ :: cs ++ [c]) (reduced.updated now) :=
      .next (hfolds.congr (hacc.readsBack old current hold holdkey hread)) hreduce rfl
    refine ⟨c₁, cs ++ [c], seed, reduced.updated now, ?_, hseed, hfolds', hradmits, hrkey, rfl,
      hnext, hfits⟩
    unfold changesOf at hcs ⊢
    rw [mapM_eq_ok] at hcs ⊢
    exact List.rel_append hcs (.cons hchange .nil)

/-- One step of a run commits nothing and leaves the summary as it is, or commits once and
ends the run. -/
theorem step_cases (hshare : ReducerRun.Share h runs ⟨table, describeKey key⟩)
    (hacc : h.Accumulates runs key admits) {s : MemoryStorage} {p : ReducerRun.Progress}
    (hholds : Holds h runs key admits committed (s.itemAt? ⟨table, describeKey key⟩))
    (hp : Fits h runs key admits committed (s.itemAt? ⟨table, describeKey key⟩) i p) :
    ((runs i).commits h p s = false ∧
      ((runs i).step h p s).2.itemAt? ⟨table, describeKey key⟩ =
        s.itemAt? ⟨table, describeKey key⟩ ∧
      Fits h runs key admits committed (s.itemAt? ⟨table, describeKey key⟩) i
        ((runs i).step h p s).1) ∨
    ((runs i).commits h p s = true ∧ i ∉ committed ∧
      ((runs i).step h p s).1 = .finished (.ok ()) ∧
      Holds h runs key admits (committed ++ [i])
        (((runs i).step h p s).2.itemAt? ⟨table, describeKey key⟩)) := by
  obtain ⟨e, hstore, hbound, htable⟩ := hshare.inMemory i
  have hslot (k : Item) : Store.slotOf e h.target k = ⟨table, describeKey k⟩ := by
    rw [Store.slotOf, htable]
  cases p with
  | finished result => exact Or.inl ⟨rfl, rfl, hp⟩
  | loading c left attempt =>
    obtain ⟨hnot, hchange⟩ := hp
    refine Or.inl ⟨rfl, ?_⟩
    simp only [ReducerRun.step]
    rw [loadSummary_apply hstore hbound]
    generalize hresult : (do
      let seed ← h.initial c
      h.summaryFrom seed (s.itemAt? (Store.slotOf e h.target (h.target.key seed))) :
        Result Record) = result
    cases result with
    | error err =>
      obtain ⟨hkept, hfits⟩ := fits_afterFailure hshare hnot hchange left attempt err s
      exact ⟨hkept, hfits _⟩
    | ok current =>
      obtain ⟨seed, hseed, hcurrent⟩ := bind_eq_ok.mp hresult
      rw [hslot, (hacc.seeds i c seed hchange hseed).1] at hcurrent
      exact ⟨rfl, hnot, hchange, loaded_of_load hacc hchange hholds hseed hcurrent⟩
  | saving c left attempt current =>
    obtain ⟨hnot, hchange, hloaded⟩ := hp
    rcases saveSummary_cases (c := c) (s := s) hstore hbound hacc.notLedger hacc.noExpiry
        ((runs i).context.clock attempt) current with
      ⟨err, hsave⟩ | ⟨reduced, hreduce, hsaved⟩
    · obtain ⟨hkept, hfits⟩ := fits_afterFailure hshare hnot hchange left attempt err s
      refine Or.inl ⟨?_, ?_⟩
      · simp [ReducerRun.commits, hsave]
      · simp only [ReducerRun.step, hsave]
        exact ⟨hkept, hfits _⟩
    · have hkey : h.target.key reduced = key :=
        (hacc.reduces i c current reduced hchange hloaded.1 hloaded.2.1 hreduce).1
      rw [hslot, hkey] at hsaved
      refine Or.inr ?_
      rcases hsaved with ⟨-, habsent, hsave⟩ | ⟨hpersisted, hversion, hfits, hsave⟩
      · refine ⟨?_, hnot, ?_, ?_⟩
        · simp [ReducerRun.commits, hsave, MemoryStorage.write]
        · simp [ReducerRun.step, hsave]
        · simp only [ReducerRun.step, hsave]
          rw [MemoryStorage.itemAt?_write, if_pos rfl]
          exact holds_created hacc hchange hholds hloaded hreduce habsent _
      · refine ⟨?_, hnot, ?_, ?_⟩
        · simp [ReducerRun.commits, hsave, MemoryStorage.write]
        · simp [ReducerRun.step, hsave]
        · simp only [ReducerRun.step, hsave]
          rw [MemoryStorage.itemAt?_write, if_pos rfl]
          exact holds_updated hacc hchange hholds hloaded hreduce hpersisted hversion hfits _

theorem consistent_start {s : MemoryStorage}
    (hnew : s.itemAt? ⟨table, describeKey key⟩ = none) :
    Consistent h runs key admits ⟨table, describeKey key⟩ (start h runs s) where
  holds := by
    show Holds h runs key admits [] (s.itemAt? _)
    rw [hnew]
    rfl
  nodup := List.nodup_nil
  fits := by
    intro i
    show Fits h runs key admits [] _ i ((runs i).start h)
    unfold ReducerRun.start
    cases hchange : Change.ofEvent h.source (runs i).event with
    | error err => exact iff_of_false List.not_mem_nil (by simp)
    | ok c => exact ⟨List.not_mem_nil, hchange⟩

/-- A step of one run keeps the state consistent. -/
theorem Consistent.advance [DecidableEq ι]
    (hshare : ReducerRun.Share h runs ⟨table, describeKey key⟩)
    (hacc : h.Accumulates runs key admits) {st : Reductions ι}
    (hst : Consistent h runs key admits ⟨table, describeKey key⟩ st) (i : ι) :
    Consistent h runs key admits ⟨table, describeKey key⟩ (advance h runs st i) := by
  unfold Reductions.advance
  rcases step_cases hshare hacc hst.holds (hst.fits i) with
    ⟨hcommits, hkept, hfits⟩ | ⟨hcommits, hnot, hfinished, hholds⟩
  · simp only [hcommits, Bool.false_eq_true, if_false]
    refine ⟨by rw [hkept]; exact hst.holds, hst.nodup, fun j => ?_⟩
    dsimp only
    rw [hkept]
    by_cases hj : j = i
    · subst hj
      rw [Function.update_self]
      exact hfits
    · rw [Function.update_of_ne hj]
      exact hst.fits j
  · simp only [hcommits, if_true]
    refine ⟨hholds, ?_, fun j => ?_⟩
    · refine List.nodup_append.mpr ⟨hst.nodup, List.pairwise_singleton _ i, fun j hj k hk => ?_⟩
      rw [List.mem_singleton.mp hk]
      rintro rfl
      exact hnot hj
    · by_cases hj : j = i
      · subst hj
        simp only [Function.update_self, hfinished]
        exact iff_of_true (by simp) rfl
      · simp only [Function.update_of_ne hj]
        exact (hst.fits j).of_commit hj

/-- Every reachable state is consistent. -/
theorem Reachable.consistent [DecidableEq ι]
    (hshare : ReducerRun.Share h runs ⟨table, describeKey key⟩)
    (hacc : h.Accumulates runs key admits) {st : Reductions ι}
    (hst : Reachable h runs ⟨table, describeKey key⟩ st) :
    Consistent h runs key admits ⟨table, describeKey key⟩ st := by
  induction hst with
  | start s hnew => exact consistent_start hnew
  | advance _ i ih => exact ih.advance hshare hacc i
  | elsewhere _ s hkept ih =>
    refine ⟨?_, ih.nodup, fun i => ?_⟩
    · show Holds h runs key admits _ (s.itemAt? _)
      rw [hkept]
      exact ih.holds
    · show Fits h runs key admits _ (s.itemAt? _) i _
      rw [hkept]
      exact ih.fits i

end Preservation

end Reductions

end Keyspace
