import Keyspace.Artifacts.Writing
import Keyspace.Proofs.Files.Trees

/-!
# Staging and placing

What the two loops of a write do to the tree. Staging makes the ways and puts every content beside
its place; if one file cannot be staged, those before it are taken back. Placing moves the contents
file by file, up to the first place that takes no file. A write stages and places all files but the
handlers that are there.
-/
namespace Keyspace

namespace PendingFile

def place (file : PendingFile) : Place := .ofPath file.path

def stagedPlace (file : PendingFile) : Place := .ofPath file.stagedPath

def wayStart (file : PendingFile) : Place := (Path.parent? file.path).elim [] Place.start

def waySteps (file : PendingFile) : List String := (Path.parent? file.path).elim [] Path.steps

/-- The directories that are made for a file. -/
def way (file : PendingFile) : List Place := file.wayStart.passed file.waySteps

/-- The tree in which the way of a file was made, and whether it could be. -/
def makeWay (file : PendingFile) (files : Files) : Bool × Files :=
  files.makeWay file.wayStart file.waySteps

theorem text?_makeWay (file : PendingFile) (files : Files) (p : Place) :
    (file.makeWay files).2.text? p = files.text? p :=
  (files.makeWay_keeps _ _).1 p

theorem isDirectory_makeWay_of (file : PendingFile) {files : Files} {p : Place}
    (h : files.isDirectory p = true) : (file.makeWay files).2.isDirectory p = true :=
  (files.makeWay_keeps _ _).2 p h

end PendingFile

namespace Artifacts

variable {files files' : Files} {file : PendingFile} {staged pending : List PendingFile} {e : Error}

/-! ## Staging -/

theorem stage_of_way (h : (file.makeWay files).1 = true) :
    stage Files.system file files =
      Files.write file.stagedPath file.contents (file.makeWay files).2 := by
  unfold PendingFile.makeWay PendingFile.wayStart PendingFile.waySteps at h ⊢
  unfold stage
  cases hparent : Path.parent? file.path with
  | none => rfl
  | some directory =>
    rw [hparent] at h
    obtain ⟨r, hrun, hr⟩ := Files.createDirectories_apply directory files
    rw [hr.mpr h] at hrun
    show (Files.createDirectories directory >>= fun _ => _) files = _
    rw [Action.bind_apply, hrun]
    rfl

theorem stage_of_no_way (h : (file.makeWay files).1 = false) :
    ∃ e, stage Files.system file files = (.error e, (file.makeWay files).2) := by
  unfold PendingFile.makeWay PendingFile.wayStart PendingFile.waySteps at h ⊢
  unfold stage
  cases hparent : Path.parent? file.path with
  | none =>
    rw [hparent] at h
    cases h
  | some directory =>
    rw [hparent] at h
    obtain ⟨r, hrun, hr⟩ := Files.createDirectories_apply directory files
    cases r with
    | ok =>
      rw [Option.elim_some, Option.elim_some, hr.mp rfl] at h
      cases h
    | error e =>
      refine ⟨e, ?_⟩
      show (Files.createDirectories directory >>= fun _ => _) files = _
      rw [Action.bind_apply, hrun]
      rfl

/-- A file is staged if its way can be made and leads to a place that takes it; otherwise just the
way is there, as far as it could be made. -/
theorem stage_cases (file : PendingFile) (files : Files) :
    (∃ e, stage Files.system file files = (.error e, (file.makeWay files).2)) ∨
      (file.makeWay files).1 = true ∧ (file.makeWay files).2.admits file.stagedPath = true ∧
        stage Files.system file files =
          (.ok (), (file.makeWay files).2.put file.stagedPlace (.file file.contents)) := by
  cases hway : (file.makeWay files).1 with
  | false => exact Or.inl (stage_of_no_way hway)
  | true =>
    rw [stage_of_way hway]
    cases hadmits : (file.makeWay files).2.admits file.stagedPath with
    | false =>
      obtain ⟨e, he⟩ := Files.write_of_not_admits hadmits file.contents
      exact Or.inl ⟨e, he⟩
    | true => exact Or.inr ⟨rfl, rfl, Files.write_of_admits hadmits file.contents⟩

/-- A file that was staged has its way, and its content beside its place. -/
structure Staged (file : PendingFile) (files files' : Files) : Prop where
  isDirectory_iff : ∀ p, files'.isDirectory p = true ↔ files.isDirectory p = true ∨ p ∈ file.way
  locate : files'.locate? file.stagedPath = some file.stagedPlace
  apart : files'.isDirectory file.stagedPlace = false
  text : ∀ p, files'.text? p = if p = file.stagedPlace then some file.contents else files.text? p

theorem staged_of_stage_ok (h : stage Files.system file files = (.ok (), files')) :
    Staged file files files' := by
  rcases stage_cases file files with ⟨e, he⟩ | ⟨hway, hadmits, hrun⟩
  · cases he.symm.trans h
  · cases hrun.symm.trans h
    obtain ⟨hplace, hdirectory⟩ := Files.admits_iff.mp hadmits
    have hsame := Files.isDirectory_put_file hdirectory file.contents
    exact {
      isDirectory_iff := fun p => (Bool.eq_iff_iff.mp (hsame p)).trans
        (Files.isDirectory_makeWay hway p)
      locate := Files.locate?_mono (fun p hp => (hsame p).trans hp) hplace
      apart := (hsame _).trans hdirectory
      text := fun p => by rw [Files.text?_put_file, PendingFile.text?_makeWay] }

/-- Where a file cannot be staged, there may be new directories, but the files are as they were. -/
theorem kept_of_stage_error (h : stage Files.system file files = (.error e, files')) :
    (∀ p, files'.text? p = files.text? p) ∧
      ∀ p, files.isDirectory p = true → files'.isDirectory p = true := by
  rcases stage_cases file files with ⟨e', he⟩ | ⟨-, -, hrun⟩
  · cases he.symm.trans h
    exact ⟨file.text?_makeWay files, fun p => file.isDirectory_makeWay_of⟩
  · cases hrun.symm.trans h

/-- What is taken back leaves no file, where its path leads on. -/
theorem unstage_spec {files : Files} (staged : List PendingFile)
    (hlocate : ∀ file ∈ staged, files.locate? file.stagedPath = some file.stagedPlace) (p : Place) :
    (unstage Files.system staged files).2.text? p =
      if p ∈ staged.map PendingFile.stagedPlace then none else files.text? p := by
  induction staged generalizing files with
  | nil => rfl
  | cons file staged ih =>
    rw [List.forall_mem_cons] at hlocate
    obtain ⟨htext, hsame⟩ := Files.remove_of_locate? hlocate.1
    have hlocate' : ∀ other ∈ staged, (Files.remove file.stagedPath files).2.locate?
        other.stagedPath = some other.stagedPlace := fun other hother =>
      Files.locate?_mono (fun p hp => (hsame p).trans hp) (hlocate.2 other hother)
    have hrest := ih hlocate'
    show (unstage Files.system staged (Files.remove file.stagedPath files).2).2.text? p = _
    rw [hrest, htext]
    grind

theorem stageAll_cons (staged : List PendingFile) (file : PendingFile) (rest : List PendingFile)
    (files : Files) : stageAll Files.system staged (file :: rest) files =
      match stage Files.system file files with
      | (.ok (), files') => stageAll Files.system (staged ++ [file]) rest files'
      | (.error e, files') => (.error e, (unstage Files.system staged files').2) := by
  rw [stageAll, Action.bind_apply, Action.tryCatch_apply]
  split
  · next h =>
    split at h
    · next hstage => rw [hstage]; cases h; rfl
    · next hstage => cases h
  · next h =>
    split at h
    · cases h
    · next hstage => rw [hstage]; cases h; rfl

/-- Files that were staged, one after the other. -/
structure AllStaged (pending : List PendingFile) (files files' : Files) : Prop where
  isDirectory_iff : ∀ p, files'.isDirectory p = true ↔
    files.isDirectory p = true ∨ ∃ file ∈ pending, p ∈ file.way
  locate : ∀ file ∈ pending, files'.locate? file.stagedPath = some file.stagedPlace
  apart : ∀ file ∈ pending, files'.isDirectory file.stagedPlace = false
  text_of_not_mem : ∀ p ∉ pending.map PendingFile.stagedPlace, files'.text? p = files.text? p
  text : (pending.map PendingFile.stagedPlace).Nodup →
    ∀ file ∈ pending, files'.text? file.stagedPlace = some file.contents

theorem AllStaged.nil (files : Files) : AllStaged [] files files where
  isDirectory_iff p := by simp
  locate _ h := nomatch h
  apart _ h := nomatch h
  text_of_not_mem _ _ := rfl
  text _ _ h := nomatch h

theorem AllStaged.cons {mid : Files} (hfirst : Staged file files mid)
    (hrest : AllStaged pending mid files') : AllStaged (file :: pending) files files' where
  isDirectory_iff p := by
    rw [hrest.isDirectory_iff, hfirst.isDirectory_iff, List.exists_mem_cons_iff, or_assoc]
  locate := List.forall_mem_cons.mpr
    ⟨Files.locate?_mono (fun p hp => (hrest.isDirectory_iff p).mpr (Or.inl hp)) hfirst.locate,
      hrest.locate⟩
  apart := by
    refine List.forall_mem_cons.mpr ⟨?_, hrest.apart⟩
    by_cases hmem : file.stagedPlace ∈ pending.map PendingFile.stagedPlace
    · obtain ⟨other, hother, heq⟩ := List.mem_map.mp hmem
      rw [← heq]
      exact hrest.apart other hother
    · have htext := hrest.text_of_not_mem _ hmem
      rw [hfirst.text, if_pos rfl] at htext
      exact Files.isDirectory_of_text? htext (Files.isFixed_of_isDirectory hfirst.apart)
  text_of_not_mem p hp := by
    rw [List.map_cons, List.mem_cons, not_or] at hp
    rw [hrest.text_of_not_mem p hp.2, hfirst.text, if_neg hp.1]
  text hdistinct := by
    rw [List.map_cons, List.nodup_cons] at hdistinct
    refine List.forall_mem_cons.mpr ⟨?_, hrest.text hdistinct.2⟩
    rw [hrest.text_of_not_mem _ hdistinct.1, hfirst.text, if_pos rfl]

theorem allStaged_of_stageAll_ok (h : stageAll Files.system staged pending files = (.ok (), files')) :
    AllStaged pending files files' := by
  induction pending generalizing staged files with
  | nil =>
    cases h
    exact .nil _
  | cons file rest ih =>
    rw [stageAll_cons] at h
    split at h
    · next hstage => exact (ih h).cons (staged_of_stage_ok hstage)
    · cases h

/-- Where staging fails, no file is left of those staged so far, and the others are as they were. -/
theorem text?_of_stageAll_error
    (hlocate : ∀ file ∈ staged, files.locate? file.stagedPath = some file.stagedPlace)
    (h : stageAll Files.system staged pending files = (.error e, files')) :
    ∃ before, before <+: pending ∧ ∀ p, files'.text? p =
      if p ∈ (staged ++ before).map PendingFile.stagedPlace then none else files.text? p := by
  -- The induction is on the files to come; those staged so far are what is taken back.
  induction pending generalizing staged files with
  | nil => cases h
  | cons file rest ih =>
    rw [stageAll_cons] at h
    split at h
    · next mid hstage =>
      have hstaged := staged_of_stage_ok hstage
      have hlocate' : ∀ other ∈ staged ++ [file],
          mid.locate? other.stagedPath = some other.stagedPlace := by
        intro other hother
        rcases List.mem_append.mp hother with hother | hother
        · exact Files.locate?_mono (fun p hp => (hstaged.isDirectory_iff p).mpr (Or.inl hp))
            (hlocate other hother)
        · rw [List.mem_singleton.mp hother]
          exact hstaged.locate
      obtain ⟨before, hbefore, htext⟩ := ih hlocate' h
      refine ⟨file :: before, List.cons_prefix_cons.mpr ⟨rfl, hbefore⟩, fun p => ?_⟩
      rw [htext, hstaged.text]
      grind
    · next mid hstage =>
      cases h
      obtain ⟨htext, hmore⟩ := kept_of_stage_error hstage
      refine ⟨[], List.nil_prefix, fun p => ?_⟩
      rw [List.append_nil, unstage_spec staged fun other hother =>
        Files.locate?_mono hmore (hlocate other hother), htext]

/-! ## Placing -/

/-- The places of files and those beside them are all different. -/
structure Apart (pending : List PendingFile) : Prop where
  places : (pending.map PendingFile.place).Nodup
  stagedPlaces : (pending.map PendingFile.stagedPlace).Nodup
  disjoint : ∀ file ∈ pending, ∀ other ∈ pending, file.place ≠ other.stagedPlace

theorem Apart.sublist {moved : List PendingFile} (h : Apart pending) (hsub : moved.Sublist pending) :
    Apart moved where
  places := h.places.sublist (hsub.map _)
  stagedPlaces := h.stagedPlaces.sublist (hsub.map _)
  disjoint file hfile other hother := h.disjoint file (hsub.subset hfile) other (hsub.subset hother)

/-- Files that were moved are at their places, and nothing else has changed. -/
structure Moved (moved : List PendingFile) (files files' : Files) : Prop where
  isDirectory : ∀ p, files'.isDirectory p = files.isDirectory p
  arrived : ∀ file ∈ moved, files'.text? file.place = some file.contents
  left : ∀ file ∈ moved, files'.text? file.stagedPlace = none
  other : ∀ p, (∀ file ∈ moved, p ≠ file.place ∧ p ≠ file.stagedPlace) →
    files'.text? p = files.text? p

theorem Moved.nil (files : Files) : Moved [] files files where
  isDirectory _ := rfl
  arrived _ h := nomatch h
  left _ h := nomatch h
  other _ _ := rfl

theorem Moved.cons {moved : List PendingFile} {mid : Files} (hapart : Apart (file :: moved))
    (hsame : ∀ p, mid.isDirectory p = files.isDirectory p)
    (htext : ∀ p, mid.text? p = if p = file.place then some file.contents
      else if p = file.stagedPlace then none else files.text? p)
    (h : Moved moved mid files') : Moved (file :: moved) files files' where
  isDirectory p := (h.isDirectory p).trans (hsame p)
  arrived := by
    refine List.forall_mem_cons.mpr ⟨?_, h.arrived⟩
    have hlater : ∀ other ∈ moved, file.place ≠ other.place ∧ file.place ≠ other.stagedPlace := by
      intro other hother
      refine ⟨fun heq => (List.nodup_cons.mp hapart.places).1 ?_,
        hapart.disjoint file List.mem_cons_self other (List.mem_cons_of_mem _ hother)⟩
      exact heq ▸ List.mem_map_of_mem hother
    rw [h.other _ hlater, htext, if_pos rfl]
  left := by
    refine List.forall_mem_cons.mpr ⟨?_, h.left⟩
    have hlater : ∀ other ∈ moved,
        file.stagedPlace ≠ other.place ∧ file.stagedPlace ≠ other.stagedPlace := by
      intro other hother
      refine ⟨(hapart.disjoint other (List.mem_cons_of_mem _ hother) file List.mem_cons_self).symm,
        fun heq => (List.nodup_cons.mp hapart.stagedPlaces).1 ?_⟩
      exact heq ▸ List.mem_map_of_mem hother
    have hown := hapart.disjoint file List.mem_cons_self file List.mem_cons_self
    rw [h.other _ hlater, htext, if_neg hown.symm, if_pos rfl]
  other p hp := by
    rw [List.forall_mem_cons] at hp
    rw [h.other p hp.2, htext, if_neg hp.1.1, if_neg hp.1.2]

/-- One file is moved. -/
theorem rename_spec (hlocate : files.locate? file.stagedPath = some file.stagedPlace)
    (htext : files.text? file.stagedPlace = some file.contents)
    (hadmits : files.admits file.path = true) :
    ∃ files', Files.rename file.stagedPath file.path files = (.ok (), files') ∧
      (∀ p, files'.isDirectory p = files.isDirectory p) ∧
      ∀ p, files'.text? p = if p = file.place then some file.contents
        else if p = file.stagedPlace then none else files.text? p := by
  refine ⟨_, Files.rename_of_admits hlocate htext hadmits, fun p => ?_, fun p => ?_⟩
  · have herase := Files.isDirectory_erase htext
    rw [Files.isDirectory_put_file ((herase _).trans (Files.admits_iff.mp hadmits).2), herase]
  · rw [Files.text?_put_file, Files.text?_erase]
    rfl

/-- A file that is moved leaves the others where they were staged. -/
theorem staged_of_renamed {moved : List PendingFile} {mid : Files} (hapart : Apart (file :: moved))
    (hsame : ∀ p, mid.isDirectory p = files.isDirectory p)
    (htext : ∀ p, mid.text? p = if p = file.place then some file.contents
      else if p = file.stagedPlace then none else files.text? p)
    (hready : ∀ other ∈ moved, files.locate? other.stagedPath = some other.stagedPlace ∧
      files.text? other.stagedPlace = some other.contents) :
    ∀ other ∈ moved, mid.locate? other.stagedPath = some other.stagedPlace ∧
      mid.text? other.stagedPlace = some other.contents := by
  intro other hother
  obtain ⟨hplace, hcontents⟩ := hready other hother
  refine ⟨Files.locate?_mono (fun p hp => (hsame p).trans hp) hplace, ?_⟩
  have hplaces : other.stagedPlace ≠ file.place :=
    (hapart.disjoint file List.mem_cons_self other (List.mem_cons_of_mem _ hother)).symm
  have hstaged : other.stagedPlace ≠ file.stagedPlace := fun heq =>
    (List.nodup_cons.mp hapart.stagedPlaces).1 (heq ▸ List.mem_map_of_mem hother)
  rw [htext, if_neg hplaces, if_neg hstaged, hcontents]

/-- Staged files are moved up to the first place that takes no file. -/
theorem place_spec (hapart : Apart pending) (hready : ∀ file ∈ pending,
      files.locate? file.stagedPath = some file.stagedPlace ∧
        files.text? file.stagedPlace = some file.contents) :
    ∃ r files', place Files.system pending files = (r, files') ∧
      (r = .ok () ↔ ∀ file ∈ pending, files.admits file.path = true) ∧
      Moved (pending.takeWhile fun file => files.admits file.path) files files' := by
  induction pending generalizing files with
  | nil => exact ⟨_, files, rfl, by simp, .nil files⟩
  | cons file rest ih =>
    rw [List.forall_mem_cons] at hready
    obtain ⟨⟨hlocate, htext⟩, hready⟩ := hready
    have hrun : place Files.system (file :: rest) files =
        (Files.rename file.stagedPath file.path >>= fun _ => place Files.system rest) files := rfl
    rw [hrun, Action.bind_apply]
    cases hadmits : files.admits file.path with
    | false =>
      obtain ⟨e, he⟩ := Files.rename_of_not_admits hlocate htext hadmits
      rw [he]
      refine ⟨_, files, rfl, ?_, ?_⟩
      · simp [hadmits]
      · rw [List.takeWhile_cons_of_neg (by simp [hadmits])]
        exact .nil files
    | true =>
      obtain ⟨mid, hmid, hsame, htext'⟩ := rename_spec hlocate htext hadmits
      -- The tree has changed at the two places of this file only, which no later file has.
      have hready' := staged_of_renamed hapart hsame htext' hready
      obtain ⟨r, files', hrest, hr, hmoved⟩ :=
        ih (hapart.sublist (List.sublist_cons_self file rest)) hready'
      have hadmits' := Files.admits_congr hsame
      simp only [hadmits'] at hr hmoved
      rw [hmid]
      refine ⟨r, files', hrest, ?_, ?_⟩
      · rw [hr, List.forall_mem_cons]
        simp [hadmits]
      · simp only [List.takeWhile_cons, hadmits, if_true]
        exact .cons (hapart.sublist ((List.takeWhile_sublist _).cons_cons file)) hsame htext' hmoved

/-! ## Writing -/

variable {a : Artifacts} {infraDir runtimeDir : String}

/-- Every file that a write can be for. -/
def outputFiles (a : Artifacts) (infraDir runtimeDir : String) : List PendingFile :=
  a.regenerated infraDir runtimeDir ++ a.handlerFiles runtimeDir

/-- The handlers' files that are there already. -/
def keptIn (a : Artifacts) (runtimeDir : String) (files : Files) : List PendingFile :=
  (a.handlerFiles runtimeDir).filter fun file => (files.kind? file.path).isSome

/-- The files that a write is for in a tree. -/
def pendingIn (a : Artifacts) (infraDir runtimeDir : String) (files : Files) : List PendingFile :=
  a.regenerated infraDir runtimeDir ++
    (a.handlerFiles runtimeDir).filter fun file => (files.kind? file.path).isNone

theorem mem_outputFiles_of_mem_pendingIn {file : PendingFile}
    (h : file ∈ a.pendingIn infraDir runtimeDir files) : file ∈ a.outputFiles infraDir runtimeDir := by
  rcases List.mem_append.mp h with h | h
  · exact List.mem_append_left _ h
  · exact List.mem_append_right _ (List.mem_of_mem_filter h)

theorem splitByPresence_apply (pending : List PendingFile) (files : Files) :
    splitByPresence Files.system pending files =
      ((pending.filter fun file => (files.kind? file.path).isSome,
        pending.filter fun file => (files.kind? file.path).isNone), files) := by
  induction pending with
  | nil => rfl
  | cons file rest ih =>
    have hrun : splitByPresence Files.system (file :: rest) files =
        (if (files.kind? file.path).isSome then
          (file :: (splitByPresence Files.system rest files).1.1,
            (splitByPresence Files.system rest files).1.2)
        else ((splitByPresence Files.system rest files).1.1,
          file :: (splitByPresence Files.system rest files).1.2),
          (splitByPresence Files.system rest files).2) := rfl
    rw [hrun, ih]
    cases h : files.kind? file.path <;> simp [h]

theorem write_apply (a : Artifacts) (infraDir runtimeDir : String) (files : Files) :
    write Files.system a infraDir runtimeDir files =
      match stageAll Files.system [] (a.pendingIn infraDir runtimeDir files) files with
      | (.error e, staged) => (.error e, staged)
      | (.ok (), staged) => match place Files.system (a.pendingIn infraDir runtimeDir files) staged with
        | (.error e, placed) => (.error e, placed)
        | (.ok (), placed) => (.ok ⟨(a.pendingIn infraDir runtimeDir files).map (·.path),
            (a.keptIn runtimeDir files).map (·.path)⟩, placed) := by
  have hsplit : (ExceptT.lift (splitByPresence Files.system (a.handlerFiles runtimeDir)) :
      Action Files (List PendingFile × List PendingFile)) files =
        (.ok (splitByPresence Files.system (a.handlerFiles runtimeDir) files).1,
          (splitByPresence Files.system (a.handlerFiles runtimeDir) files).2) := rfl
  unfold write
  rw [Action.bind_apply, hsplit, splitByPresence_apply]
  show (stageAll Files.system [] (a.pendingIn infraDir runtimeDir files) >>= fun _ =>
    place Files.system (a.pendingIn infraDir runtimeDir files) >>= fun _ => pure _ :
      Action Files WriteReport) files = _
  rw [Action.bind_apply]
  cases stageAll Files.system [] (a.pendingIn infraDir runtimeDir files) files with
  | mk r staged =>
    cases r with
    | error e => rfl
    | ok =>
      dsimp only
      rw [Action.bind_apply]
      cases place Files.system (a.pendingIn infraDir runtimeDir files) staged with
      | mk r placed => cases r <;> rfl

end Artifacts

end Keyspace
