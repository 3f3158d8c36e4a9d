import Keyspace.Proofs.Artifacts.Staging
import Keyspace.Proofs.Files.Paths
import Mathlib.Data.List.TakeWhile

/-!
# Writes that succeed

A tree is ready for files if no file is in their ways and no directory in their places. Then all of
them are staged and moved, and the tree has each of them at its place and none beside it.
-/
namespace Keyspace

theorem isFileName_of_append {name rest : String} (h : isFileName (name ++ rest) = true) :
    isFileName name = true := by
  unfold isFileName at h ⊢
  simp only [Bool.and_eq_true, decide_eq_true_eq, Bool.not_eq_true', String.utf8ByteSize_append,
    String.toList_append, List.contains_eq_mem, decide_eq_false_iff_not, List.mem_append] at h ⊢
  exact ⟨by omega, fun hmem => h.2 (Or.inl hmem)⟩

/-- The tree has these files and no others. -/
def Files.HasExactly (files : Files) (outputs : List PendingFile) : Prop := ∀ p text,
  files.text? p = some text ↔ ∃ file ∈ outputs, file.place = p ∧ file.contents = text

namespace PendingFile

variable {file : PendingFile} {files : Files} {ps : List String} {name : String}

/-- The path of a file ends in a name, after some pieces. -/
structure EndsIn (file : PendingFile) (ps : List String) (name : String) : Prop where
  pieces : Path.pieces file.path = ps ++ [name]
  ne_empty : name ≠ ""
  ne_dot : name ≠ "."

theorem EndsIn.staged (h : file.EndsIn ps name) :
    Path.pieces file.stagedPath = ps ++ [name ++ ".dynaform-tmp"] :=
  Path.pieces_append h.pieces (by decide)

theorem EndsIn.exists_way (h : file.EndsIn ps name) :
    ∃ dir, file.way = (Place.start dir).passed (Path.steps dir) ∧
      file.wayStart = .start dir ∧ file.waySteps = Path.steps dir ∧
      Path.isAbsolute dir = Path.isAbsolute file.path ∧
      Path.named (Path.steps dir) = Path.named ps ∧
      ∀ step ∈ Path.steps dir, step = "." ∨ step ∈ ps.filter (· ≠ "") := by
  obtain ⟨dir, hparent, habsolute, hnamed⟩ := Path.parent?_of_pieces h.pieces h.ne_empty h.ne_dot
  refine ⟨dir, ?_, ?_, ?_, habsolute, hnamed,
    fun _ => Path.mem_steps_of_parent? h.pieces h.ne_empty h.ne_dot hparent⟩
  · rw [way, wayStart, waySteps, hparent]
    rfl
  · rw [wayStart, hparent]
    rfl
  · rw [waySteps, hparent]
    rfl

theorem EndsIn.start_eq (h : file.EndsIn ps name) {path name' dir : String}
    (hpath : Path.pieces path = ps ++ [name']) (hname' : name' ≠ "")
    (habsolute : Path.isAbsolute dir = Path.isAbsolute file.path) :
    Place.start path = Place.start dir := by
  unfold Place.start
  rw [habsolute, Path.isAbsolute_congr h.pieces hpath h.ne_empty hname']

/-- Where the way of a file was made, the way to what is beside its place is. -/
theorem EndsIn.isDirectory_passed (h : file.EndsIn ps name)
    (hway : ∀ p ∈ file.way, files.isDirectory p = true) {path name' : String}
    (hpath : Path.pieces path = ps ++ [name']) (hname' : name' ≠ "") :
    ∀ p ∈ (Place.start path).passed (ps.filter (· ≠ "")), files.isDirectory p = true := by
  obtain ⟨dir, hpassed, -, -, habsolute, hnamed, -⟩ := h.exists_way
  intro p hp
  rcases Place.mem_passed_named (by simp) hp with rfl | hp
  · exact Files.isDirectory_start files path
  · rw [Path.named_filter, ← hnamed, h.start_eq hpath hname' habsolute] at hp
    have hmem := Place.mem_passed_of_mem_named (fun hmem => Path.ne_empty_of_mem_steps hmem rfl) hp
    exact hway p (hpassed ▸ hmem)

/-- Where the way of a file was made, what is beside its place can be located. -/
theorem EndsIn.locate? (h : file.EndsIn ps name)
    (hway : ∀ p ∈ file.way, files.isDirectory p = true) {path name' : String}
    (hpath : Path.pieces path = ps ++ [name']) (hname' : name' ≠ "")
    (hnames : ∀ step ∈ Path.steps path, isFileName step = true) :
    files.locate? path = some (.ofPath path) := by
  have hsteps := Path.steps_of_pieces hpath hname'
  have hfixed : files.isDirectory (.start path) = true := Files.isDirectory_start files path
  have hdirectories := h.isDirectory_passed hway hpath hname'
  have hplace : files.isDirectory ((Place.start path).follow (ps.filter (· ≠ ""))) = true := by
    rcases Place.follow_mem (.start path) (ps.filter (· ≠ "")) with heq | hmem
    · rw [heq, hfixed]
    · exact hdirectories _ hmem
  have hne : path ≠ "" := by
    rintro rfl
    have hends := congrArg List.getLast? hpath
    rw [List.getLast?_concat] at hends
    exact hname' (Option.some.inj hends).symm
  rw [hsteps] at hnames
  unfold Files.locate? Place.ofPath
  rw [if_neg hne, hsteps, Files.follow?_append, Files.follow?_of_passed hfixed
    (fun step hstep => hnames step (List.mem_append_left _ hstep)) hdirectories, Option.bind_some,
    Place.follow_append, Files.follow?, hplace, hnames name' (by simp)]
  rfl

/-- A file whose way can be made is staged, if there is no directory in its place. -/
theorem EndsIn.makeWay_done (h : file.EndsIn ps name)
    (hnames : ∀ step ∈ Path.steps file.stagedPath, isFileName step = true)
    (hfree : ∀ p ∈ file.way, files.isDirectory p = true ∨ files.text? p = none) :
    (file.makeWay files).1 = true := by
  obtain ⟨dir, -, -, hsteps, -, -, hlead⟩ := h.exists_way
  refine Files.makeWay_done (fun step hstep => ?_) hfree
  rw [hsteps] at hstep
  rcases hlead step hstep with rfl | hmem
  · decide
  · rw [Path.steps_of_pieces h.staged (by simp)] at hnames
    exact hnames step (List.mem_append_left _ hmem)

theorem EndsIn.isFileName_of_staged (h : file.EndsIn ps name)
    (hnames : ∀ step ∈ Path.steps file.stagedPath, isFileName step = true) :
    ∀ step ∈ Path.steps file.path, isFileName step = true := by
  rw [Path.steps_of_pieces h.staged (by simp)] at hnames
  rw [Path.steps_of_pieces h.pieces h.ne_empty]
  intro step hstep
  rcases List.mem_append.mp hstep with hstep | hstep
  · exact hnames step (List.mem_append_left _ hstep)
  · rw [List.mem_singleton.mp hstep]
    exact isFileName_of_append (hnames (name ++ ".dynaform-tmp") (by simp))

end PendingFile

namespace Artifacts

variable {files files' : Files} {file : PendingFile} {staged pending : List PendingFile}

/-- A tree in which files can be staged and moved to their places. -/
structure Ready (pending : List PendingFile) (files : Files) : Prop where
  named : ∀ file ∈ pending, ∃ ps name, file.EndsIn ps name
  names : ∀ file ∈ pending, ∀ step ∈ Path.steps file.stagedPath, isFileName step = true
  waysApart : ∀ file ∈ pending, ∀ other ∈ pending, ∀ p ∈ other.way,
    p ≠ file.place ∧ p ≠ file.stagedPlace
  waysFree : ∀ file ∈ pending, ∀ p ∈ file.way, files.isDirectory p = true ∨ files.text? p = none
  placesFree : ∀ file ∈ pending,
    files.isDirectory file.place = false ∧ files.isDirectory file.stagedPlace = false

/-- A file that is staged is in no other file's way. -/
theorem Ready.tail (h : Ready (file :: pending) files) (hstaged : Staged file files files') :
    Ready pending files' where
  named other hother := h.named other (List.mem_cons_of_mem _ hother)
  names other hother := h.names other (List.mem_cons_of_mem _ hother)
  waysApart other hother third hthird :=
    h.waysApart other (List.mem_cons_of_mem _ hother) third (List.mem_cons_of_mem _ hthird)
  waysFree other hother p hp := by
    have hapart := h.waysApart file List.mem_cons_self other (List.mem_cons_of_mem _ hother) p hp
    rcases h.waysFree other (List.mem_cons_of_mem _ hother) p hp with hfree | hfree
    · exact Or.inl ((hstaged.isDirectory_iff p).mpr (Or.inl hfree))
    · rw [hstaged.text, if_neg hapart.2]
      exact Or.inr hfree
  placesFree other hother := by
    have hmem := List.mem_cons_of_mem file hother
    have hfree := h.placesFree other hmem
    have hway : ∀ p, p = other.place ∨ p = other.stagedPlace → files.isDirectory p = false →
        files'.isDirectory p = false := by
      intro p hp hnot
      rw [Bool.eq_false_iff, Ne, hstaged.isDirectory_iff, hnot]
      rintro (hfalse | hmem')
      · cases hfalse
      · have hapart := h.waysApart other hmem file List.mem_cons_self p hmem'
        rcases hp with hp | hp
        · exact hapart.1 hp
        · exact hapart.2 hp
    exact ⟨hway _ (Or.inl rfl) hfree.1, hway _ (Or.inr rfl) hfree.2⟩

theorem Ready.stage_done (h : Ready (file :: pending) files) :
    ∃ files', stage Files.system file files = (.ok (), files') := by
  obtain ⟨ps, name, hends⟩ := h.named file List.mem_cons_self
  have hnames := h.names file List.mem_cons_self
  have hway := hends.makeWay_done hnames (h.waysFree file List.mem_cons_self)
  have hdirectory : ∀ p, (file.makeWay files).2.isDirectory p = true ↔
      files.isDirectory p = true ∨ p ∈ file.way := Files.isDirectory_makeWay hway
  have hadmits : (file.makeWay files).2.admits file.stagedPath = true := by
    refine Files.admits_iff.mpr ⟨hends.locate? (fun p hp => (hdirectory p).mpr (Or.inr hp))
      hends.staged (by simp) hnames, ?_⟩
    rw [Bool.eq_false_iff, Ne, hdirectory]
    rintro (hthere | hthere)
    · have hfree := (h.placesFree file List.mem_cons_self).2
      cases hfree.symm.trans hthere
    · exact (h.waysApart file List.mem_cons_self file List.mem_cons_self _ hthere).2 rfl
  exact ⟨_, (stage_of_way hway).trans (Files.write_of_admits hadmits file.contents)⟩

theorem Ready.stageAll_done (h : Ready pending files) :
    ∃ files', stageAll Files.system staged pending files = (.ok (), files') := by
  induction pending generalizing staged files with
  | nil => exact ⟨files, rfl⟩
  | cons file rest ih =>
    obtain ⟨mid, hmid⟩ := h.stage_done
    rw [stageAll_cons, hmid]
    exact ih (h.tail (staged_of_stage_ok hmid))

/-- Where all files are staged, every place takes its file. -/
theorem Ready.admits (h : Ready pending files) (hall : AllStaged pending files files')
    (hfile : file ∈ pending) : files'.admits file.path = true := by
  obtain ⟨ps, name, hends⟩ := h.named file hfile
  have hway : ∀ p ∈ file.way, files'.isDirectory p = true :=
    fun p hp => (hall.isDirectory_iff p).mpr (Or.inr ⟨file, hfile, hp⟩)
  refine Files.admits_iff.mpr ⟨hends.locate? hway hends.pieces hends.ne_empty
    (hends.isFileName_of_staged (h.names file hfile)), ?_⟩
  rw [Bool.eq_false_iff, Ne, hall.isDirectory_iff]
  rintro (hthere | ⟨other, hother, hthere⟩)
  · cases (h.placesFree file hfile).1.symm.trans hthere
  · exact (h.waysApart file hfile other hother _ hthere).1 rfl

/-- What a write has done that succeeds. -/
structure Written (pending : List PendingFile) (files files' : Files) : Prop where
  isDirectory_iff : ∀ p, files'.isDirectory p = true ↔
    files.isDirectory p = true ∨ ∃ file ∈ pending, p ∈ file.way
  arrived : ∀ file ∈ pending, files'.text? file.place = some file.contents
  left : ∀ file ∈ pending, files'.text? file.stagedPlace = none
  other : ∀ p, (∀ file ∈ pending, p ≠ file.place ∧ p ≠ file.stagedPlace) →
    files'.text? p = files.text? p

variable {a : Artifacts} {infraDir runtimeDir : String}

/-- A write succeeds in a tree that is ready for its files. -/
theorem Ready.write_done (hready : Ready (a.pendingIn infraDir runtimeDir files) files)
    (hapart : Apart (a.pendingIn infraDir runtimeDir files)) :
    ∃ files', write Files.system a infraDir runtimeDir files =
        (.ok ⟨(a.pendingIn infraDir runtimeDir files).map (·.path),
          (a.keptIn runtimeDir files).map (·.path)⟩, files') ∧
      Written (a.pendingIn infraDir runtimeDir files) files files' := by
  obtain ⟨staged, hstage⟩ : ∃ staged, stageAll Files.system []
      (a.pendingIn infraDir runtimeDir files) files = (.ok (), staged) := hready.stageAll_done
  have hall := allStaged_of_stageAll_ok hstage
  have htext := hall.text hapart.stagedPlaces
  obtain ⟨r, files', hplace, hr, hmoved⟩ :=
    place_spec hapart fun file hfile => ⟨hall.locate file hfile, htext file hfile⟩
  have hadmits : ∀ file ∈ a.pendingIn infraDir runtimeDir files, staged.admits file.path = true :=
    fun file hfile => hready.admits hall hfile
  rw [List.takeWhile_eq_self_iff.mpr hadmits] at hmoved
  refine ⟨files', ?_, fun p => ?_, hmoved.arrived, hmoved.left, fun p hp => ?_⟩
  · rw [write_apply, hstage]
    dsimp only
    rw [hplace, hr.mpr hadmits]
  · rw [hmoved.isDirectory, hall.isDirectory_iff]
  · have hbeside : p ∉ (a.pendingIn infraDir runtimeDir files).map PendingFile.stagedPlace := by
      intro hmem
      obtain ⟨file, hfile, heq⟩ := List.mem_map.mp hmem
      exact (hp file hfile).2 heq.symm
    rw [hmoved.other p hp, hall.text_of_not_mem p hbeside]

/-- A write into an empty directory leaves its files and no others. -/
theorem Written.hasExactly (h : Written pending .empty files) : files.HasExactly pending := by
  intro p text
  constructor
  · intro htext
    by_cases hplaces : ∀ file ∈ pending, p ≠ file.place ∧ p ≠ file.stagedPlace
    · cases (h.other p hplaces).symm.trans htext
    · push Not at hplaces
      obtain ⟨file, hfile, hplace⟩ := hplaces
      by_cases heq : p = file.place
      · have harrived := h.arrived file hfile
        rw [← heq] at harrived
        exact ⟨file, hfile, heq.symm, Option.some.inj (harrived.symm.trans htext)⟩
      · have hleft := h.left file hfile
        rw [← hplace heq] at hleft
        cases hleft.symm.trans htext
  · rintro ⟨file, hfile, rfl, rfl⟩
    exact h.arrived file hfile

/-- Files written again leave every file as it was. -/
theorem Written.text?_again {again : List PendingFile} (h : Written pending files files')
    {files'' : Files} (h' : Written again files' files'') (hsub : again ⊆ pending) (p : Place) :
    files''.text? p = files'.text? p := by
  by_cases hplaces : ∀ file ∈ again, p ≠ file.place ∧ p ≠ file.stagedPlace
  · exact h'.other p hplaces
  · push Not at hplaces
    obtain ⟨file, hfile, hplace⟩ := hplaces
    by_cases heq : p = file.place
    · rw [heq, h'.arrived file hfile, h.arrived file (hsub hfile)]
    · rw [hplace heq, h'.left file hfile, h.left file (hsub hfile)]

end Artifacts

end Keyspace
