import Keyspace.Proofs.Artifacts.Outputs
import Keyspace.Proofs.Artifacts.Writes

/-!
# Writing twice

The artifacts of an accepted schema are written into an empty directory, and written again. The
second write leaves every file as it is and skips the handlers. For this no handler's module may be
called `mod`, no name may be too long once it is staged, and no directory may be in the place of a
file.
-/
namespace Keyspace

namespace Artifacts

variable {a : Artifacts} {infraDir runtimeDir : String} {files files' : Files}

/-- A first write into an empty directory succeeds and leaves the outputs, each with its content,
and a second one succeeds, changes no file, and skips just the handlers. -/
def WritesTwice (a : Artifacts) (infraDir runtimeDir : String) : Prop := ∃ files files',
  write Files.system a infraDir runtimeDir .empty =
      (.ok ⟨(a.outputFiles infraDir runtimeDir).map (·.path), []⟩, files) ∧
    files.HasExactly (a.outputFiles infraDir runtimeDir) ∧
    write Files.system a infraDir runtimeDir files =
      (.ok ⟨(a.regenerated infraDir runtimeDir).map (·.path),
        (a.handlerFiles runtimeDir).map (·.path)⟩, files') ∧
    ∀ p, files'.text? p = files.text? p

/-- What keeps the outputs apart from each other and from their directories. -/
structure IsWritable (a : Artifacts) (infraDir runtimeDir : String) : Prop where
  /-- No handler has the module that declares the handlers. -/
  noModule : "mod" ∉ a.code.handlers.keys
  /-- No name is too long for a file system, once it is staged. -/
  names : ∀ file ∈ a.outputFiles infraDir runtimeDir,
    ∀ step ∈ Path.steps file.stagedPath, isFileName step = true
  /-- No directory that a file needs is in the place of a file. -/
  ways : ∀ file ∈ a.outputFiles infraDir runtimeDir, ∀ other ∈ a.outputFiles infraDir runtimeDir,
    ∀ p ∈ other.way, p ≠ file.place ∧ p ≠ file.stagedPlace

instance : Decidable (a.IsWritable infraDir runtimeDir) :=
  decidable_of_iff ("mod" ∉ a.code.handlers.keys ∧
      (∀ file ∈ a.outputFiles infraDir runtimeDir,
        ∀ step ∈ Path.steps file.stagedPath, isFileName step = true) ∧
      ∀ file ∈ a.outputFiles infraDir runtimeDir, ∀ other ∈ a.outputFiles infraDir runtimeDir,
        ∀ p ∈ other.way, p ≠ file.place ∧ p ≠ file.stagedPlace)
    ⟨fun ⟨hmod, hnames, hways⟩ => ⟨hmod, hnames, hways⟩,
      fun ⟨hmod, hnames, hways⟩ => ⟨hmod, hnames, hways⟩⟩

theorem pendingIn_of_handlers (hthere : ∀ file ∈ a.handlerFiles runtimeDir,
      (files.kind? file.path).isSome = true) :
    a.pendingIn infraDir runtimeDir files = a.regenerated infraDir runtimeDir ∧
      a.keptIn runtimeDir files = a.handlerFiles runtimeDir := by
  constructor
  · unfold pendingIn
    rw [List.filter_eq_nil_iff.mpr fun file hfile => ?_, List.append_nil]
    have hsome := hthere file hfile
    cases hkind : files.kind? file.path with
    | none =>
      rw [hkind] at hsome
      cases hsome
    | some kind => simp
  · exact List.filter_eq_self.mpr hthere

namespace HasNames

variable (h : a.HasNames)
include h

theorem exists_endsIn {file : PendingFile} (hfile : file ∈ a.outputFiles infraDir runtimeDir) :
    ∃ ps name, file.EndsIn ps name := by
  obtain ⟨dir, entry, rfl, hplain, -⟩ := h.exists_fileIn hfile
  obtain ⟨ps, name, hpieces⟩ := Path.exists_pieces_eq entry.1
  have hname := hplain name (by simp [hpieces])
  refine ⟨Path.directoryPieces dir ++ ps, name, ?_, hname.1, hname.2.1⟩
  show Path.pieces (Path.join dir entry.1) = _
  rw [Path.pieces_join hplain.not_absolute, hpieces, List.append_assoc]

theorem isFixed_places {file : PendingFile} (hfile : file ∈ a.outputFiles infraDir runtimeDir) :
    file.place.isFixed = false ∧ file.stagedPlace.isFixed = false := by
  obtain ⟨dir, entry, rfl, hplain, -⟩ := h.exists_fileIn hfile
  rw [place_fileIn hplain, stagedPlace_fileIn hplain]
  exact ⟨isFixed_below hplain _, isFixed_below (isPlain_staged hplain) _⟩

theorem pendingIn_empty (infraDir runtimeDir : String) :
    a.pendingIn infraDir runtimeDir .empty = a.outputFiles infraDir runtimeDir ∧
      a.keptIn runtimeDir .empty = [] := by
  have hnone : ∀ file ∈ a.handlerFiles runtimeDir, Files.kind? .empty file.path = none := by
    intro file hfile
    have houtput : file ∈ a.outputFiles infraDir runtimeDir := List.mem_append_right _ hfile
    exact Files.kind?_eq_none (h.isFixed_places houtput).1 rfl
  constructor
  · unfold pendingIn outputFiles
    rw [List.filter_eq_self.mpr fun file hfile => by rw [hnone file hfile, Option.isNone_none]]
  · exact List.filter_eq_nil_iff.mpr fun file hfile => by simp [hnone file hfile]

/-! ## Only where the files are apart -/

/-- The file of a handler called `mod` would have the content of the module's file. -/
theorem mod_not_mem (hexact : files.HasExactly (a.outputFiles infraDir runtimeDir)) :
    "mod" ∉ a.code.handlers.keys := by
  intro hmod
  obtain ⟨entry, hentry, hname⟩ := List.mem_map.mp hmod
  have hhandler : ⟨Path.join (Path.join runtimeDir "handlers") "mod.rs", entry.2⟩ ∈
      a.outputFiles infraDir runtimeDir := by
    refine List.mem_append_right _ (List.mem_map.mpr ⟨entry, hentry, ?_⟩)
    dsimp only
    rw [hname]
    rfl
  have hmodule : ⟨Path.join (Path.join runtimeDir "handlers") "mod.rs", a.code.handlersModule⟩ ∈
      a.outputFiles infraDir runtimeDir := by
    refine List.mem_append_left _ (List.mem_append_right _ ?_)
    have hempty : a.code.handlers.isEmpty = false :=
      List.isEmpty_eq_false_iff_exists_mem.mpr ⟨_, hentry⟩
    rw [hempty]
    exact List.mem_singleton_self _
  have htext := (hexact _ _).mpr ⟨_, hhandler, rfl, rfl⟩
  have htext' := (hexact _ _).mpr ⟨_, hmodule, rfl, rfl⟩
  exact h.moduleOwn entry hentry (Option.some.inj (htext.symm.trans htext'))

theorem isWritable_of_writesTwice (hwrites : a.WritesTwice infraDir runtimeDir) :
    a.IsWritable infraDir runtimeDir := by
  obtain ⟨files, files', hfirst, hexact, -, -⟩ := hwrites
  have hmod := h.mod_not_mem hexact
  have hapart := h.apart hmod infraDir runtimeDir
  rw [write_apply, (h.pendingIn_empty infraDir runtimeDir).1] at hfirst
  split at hfirst
  · cases hfirst
  · next staged hstage =>
    have hall := allStaged_of_stageAll_ok hstage
    have htext := hall.text hapart.stagedPlaces
    obtain ⟨r, placed, hplace, hr, -⟩ :=
      place_spec hapart fun file hfile => ⟨hall.locate file hfile, htext file hfile⟩
    -- The write has moved every file, so no place was that of a directory on the way to another.
    have hadmits : ∀ file ∈ a.outputFiles infraDir runtimeDir, staged.admits file.path = true := by
      refine hr.mp ?_
      rw [hplace] at hfirst
      cases r with
      | error e => cases hfirst
      | ok => rfl
    refine ⟨hmod, fun file hfile => Files.isFileName_of_locate? (hall.locate file hfile),
      fun file hfile other hother p hp => ?_⟩
    have hdirectory := (hall.isDirectory_iff p).mpr (Or.inr ⟨other, hother, hp⟩)
    constructor
    · rintro rfl
      have hnot : staged.isDirectory file.place = false :=
        (Files.admits_iff.mp (hadmits file hfile)).2
      cases hnot.symm.trans hdirectory
    · rintro rfl
      cases (hall.apart file hfile).symm.trans hdirectory

/-! ## Wherever the files are apart -/

variable (hwritable : a.IsWritable infraDir runtimeDir)
include hwritable

theorem ready_empty : Ready (a.outputFiles infraDir runtimeDir) .empty where
  named _ hfile := h.exists_endsIn hfile
  names := hwritable.names
  waysApart := hwritable.ways
  waysFree _ _ _ _ := Or.inr rfl
  placesFree file hfile := by
    obtain ⟨hplace, hstaged⟩ := h.isFixed_places hfile
    unfold Files.isDirectory
    rw [hplace, hstaged]
    exact ⟨rfl, rfl⟩

variable (hwritten : Written (a.outputFiles infraDir runtimeDir) .empty files)
include hwritten

theorem ready_again : Ready (a.regenerated infraDir runtimeDir) files := by
  have hsub : a.regenerated infraDir runtimeDir ⊆ a.outputFiles infraDir runtimeDir :=
    List.subset_append_left _ _
  have hready := h.ready_empty hwritable
  constructor
  case named => exact fun file hfile => hready.named file (hsub hfile)
  case names => exact fun file hfile => hready.names file (hsub hfile)
  case waysApart => exact fun file hfile other hother =>
    hready.waysApart file (hsub hfile) other (hsub hother)
  case waysFree =>
    intro file hfile p hp
    exact Or.inl ((hwritten.isDirectory_iff p).mpr (Or.inr ⟨file, hsub hfile, hp⟩))
  case placesFree =>
    intro file hfile
    have hfree := hready.placesFree file (hsub hfile)
    constructor
    · rw [Bool.eq_false_iff, Ne, hwritten.isDirectory_iff, hfree.1]
      rintro (hfalse | ⟨other, hother, hp⟩)
      · cases hfalse
      · exact (hwritable.ways file (hsub hfile) other hother _ hp).1 rfl
    · rw [Bool.eq_false_iff, Ne, hwritten.isDirectory_iff, hfree.2]
      rintro (hfalse | ⟨other, hother, hp⟩)
      · cases hfalse
      · exact (hwritable.ways file (hsub hfile) other hother _ hp).2 rfl

theorem handlers_there {file : PendingFile} (hfile : file ∈ a.handlerFiles runtimeDir) :
    (files.kind? file.path).isSome = true := by
  have houtput : file ∈ a.outputFiles infraDir runtimeDir := List.mem_append_right _ hfile
  obtain ⟨ps, name, hends⟩ := h.exists_endsIn houtput
  have hway : ∀ p ∈ file.way, files.isDirectory p = true :=
    fun p hp => (hwritten.isDirectory_iff p).mpr (Or.inr ⟨file, houtput, hp⟩)
  have hplace := hends.locate? hway hends.pieces hends.ne_empty
    (hends.isFileName_of_staged (hwritable.names file houtput))
  exact Files.isSome_kind? hplace (hwritten.arrived file houtput)

omit hwritten in
theorem writesTwice_of_isWritable : a.WritesTwice infraDir runtimeDir := by
  obtain ⟨hpending, hkept⟩ := h.pendingIn_empty infraDir runtimeDir
  have hapart := h.apart hwritable.noModule infraDir runtimeDir
  have hready := h.ready_empty hwritable
  rw [← hpending] at hapart hready
  obtain ⟨files, hrun, hwritten⟩ := hready.write_done hapart
  rw [hpending] at hapart hwritten
  rw [hpending, hkept] at hrun
  have hthere : ∀ file ∈ a.handlerFiles runtimeDir, (files.kind? file.path).isSome = true :=
    fun file hfile => h.handlers_there hwritable hwritten hfile
  obtain ⟨hpending', hkept'⟩ : a.pendingIn infraDir runtimeDir files =
      a.regenerated infraDir runtimeDir ∧ a.keptIn runtimeDir files = a.handlerFiles runtimeDir :=
    pendingIn_of_handlers hthere
  have hsub : (a.regenerated infraDir runtimeDir).Sublist (a.outputFiles infraDir runtimeDir) :=
    List.sublist_append_left _ _
  have hapart' := hapart.sublist hsub
  have hready' := h.ready_again hwritable hwritten
  rw [← hpending'] at hapart' hready'
  obtain ⟨files', hrun', hwritten'⟩ := hready'.write_done hapart'
  rw [hpending'] at hwritten'
  rw [hpending', hkept'] at hrun'
  exact ⟨files, files', hrun, hwritten.hasExactly, hrun',
    hwritten.text?_again hwritten' hsub.subset⟩

end HasNames

section Accepted

variable {config : Config} {schema : String} {b : Blueprint} {paths : Code.PathReader}

/-- The artifacts of an accepted schema can be written twice if and only if their names keep the
files apart. -/
theorem writesTwice_iff_isWritable (hb : Blueprint.ofSchema config schema = .ok b)
    (ha : ofBlueprint config b paths = .ok a) (infraDir runtimeDir : String) :
    a.WritesTwice infraDir runtimeDir ↔ a.IsWritable infraDir runtimeDir := by
  have h := hasNames hb ha
  constructor
  · exact h.isWritable_of_writesTwice
  · exact h.writesTwice_of_isWritable

end Accepted

namespace AlarmExample

/-- A type whose creation is handled. -/
def schema (handler : String) : String :=
  "type Alarm @partitionKey(pkFields: [\"id\"]) @reacts(event: INSERT, handler: \"" ++ handler ++
    "\") \x7b id: ID! \x7d"

def key : PrimaryKey := .simple ⟨"id", ["id"], none, true⟩

def reactor (handler function : String) : ChangeHandler :=
  ⟨.reactor, .insert, "Alarm", none, handler, function, ["Alarm"], [], ⟨256, 30⟩⟩

def blueprint (handler function : String) : Blueprint :=
  ⟨[⟨"Alarm", "Alarm", [Field.scalar "id" "ID" true], key, [], none, false, false, false,
      [reactor handler function]⟩],
    [⟨"Alarm", key, [], true, false, none, some ⟨10, 3, ⟨384, 60⟩, "DispatcherAlarm"⟩⟩], []⟩

end AlarmExample

open AlarmExample in
theorem notifications_are_written_twice :
    Blueprint.ofSchema .default (schema "notify") = .ok (blueprint "notify" "FnNotify") ∧
      ∃ a, ofBlueprint .default (blueprint "notify" "FnNotify") = .ok a ∧
        a.WritesTwice "infra" "gen" := by
  have hschema : Blueprint.ofSchema .default (schema "notify") =
      .ok (blueprint "notify" "FnNotify") := by decide +kernel
  have hchecked : (fun a => decide (IsWritable a "infra" "gen")) <$>
      ofBlueprint .default (blueprint "notify" "FnNotify") = .ok true := by decide +kernel
  obtain ⟨a, ha, hwritable⟩ := Result.map_eq_ok.mp hchecked
  exact ⟨hschema, a, ha,
    (writesTwice_iff_isWritable hschema ha "infra" "gen").mpr (of_decide_eq_true hwritable)⟩

open AlarmExample in
/-- A handler called `mod` is staged where the module of handlers was, and is not there any more
once that one has moved. -/
theorem handler_called_mod_fails_the_write :
    Blueprint.ofSchema .default (schema "mod") = .ok (blueprint "mod" "FnMod") ∧
      ∃ a, ofBlueprint .default (blueprint "mod" "FnMod") = .ok a ∧
        (write Files.system a "infra" "gen" .empty).1 =
          .error (.io "gen/handlers/mod.rs.dynaform-tmp: no such file or directory") ∧
        ¬a.WritesTwice "infra" "gen" := by
  have hrun : (fun a => (write Files.system a "infra" "gen" .empty).1) <$>
      ofBlueprint .default (blueprint "mod" "FnMod") =
        .ok (.error (.io "gen/handlers/mod.rs.dynaform-tmp: no such file or directory")) := by
    decide +kernel
  obtain ⟨a, ha, herror⟩ := Result.map_eq_ok.mp hrun
  refine ⟨by decide +kernel, a, ha, herror, ?_⟩
  rintro ⟨files, files', hfirst, -⟩
  rw [hfirst] at herror
  cases herror

end Artifacts

end Keyspace
