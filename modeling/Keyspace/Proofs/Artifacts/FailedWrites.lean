import Keyspace.Proofs.Artifacts.Staging

/-!
# Writes that fail

A write that fails while staging leaves every file as it was. One that fails while placing has moved
the files before the failing one already, and nothing takes them back: it leaves the tree untouched
only if they were there before, with the same contents.
-/
namespace Keyspace

namespace Artifacts

variable {a : Artifacts} {infraDir runtimeDir : String} {files files' : Files} {e : Error}

/-- Every old file has its content, and none is new at the places a write can be for. -/
structure Untouched (outputs : List PendingFile) (files files' : Files) : Prop where
  kept : ∀ p text, files.text? p = some text → files'.text? p = some text
  noneCreated : ∀ file ∈ outputs, files.text? file.place = none → files'.text? file.place = none

/-- What a failed write leaves: the tree without the files staged so far, or with those moved before
the first place that takes no file. -/
theorem write_error_cases (hapart : Apart (a.pendingIn infraDir runtimeDir files))
    (h : write Files.system a infraDir runtimeDir files = (.error e, files')) :
    (stageAll Files.system [] (a.pendingIn infraDir runtimeDir files) files = (.error e, files') ∧
      ∃ before, before <+: a.pendingIn infraDir runtimeDir files ∧ ∀ p, files'.text? p =
        if p ∈ before.map PendingFile.stagedPlace then none else files.text? p) ∨
    ∃ staged, stageAll Files.system [] (a.pendingIn infraDir runtimeDir files) files =
        (.ok (), staged) ∧ AllStaged (a.pendingIn infraDir runtimeDir files) files staged ∧
      Moved ((a.pendingIn infraDir runtimeDir files).takeWhile fun file => staged.admits file.path)
        staged files' := by
  rw [write_apply] at h
  split at h
  · next hstage =>
    cases h
    exact Or.inl ⟨hstage, text?_of_stageAll_error (by simp) hstage⟩
  · next staged hstage =>
    have hall := allStaged_of_stageAll_ok hstage
    have htext := hall.text hapart.stagedPlaces
    obtain ⟨r, placed, hplace, -, hmoved⟩ :=
      place_spec hapart fun file hfile => ⟨hall.locate file hfile, htext file hfile⟩
    refine Or.inr ⟨staged, hstage, hall, ?_⟩
    rw [hplace] at h
    cases r with
    | error e' =>
      cases h
      exact hmoved
    | ok => cases h

/-- What is neither beside a staged file nor at the place of a moved one is as it was. -/
theorem text?_of_moved {pending moved : List PendingFile} {staged : Files}
    (hall : AllStaged pending files staged) (hmoved : Moved moved staged files')
    (hsub : moved ⊆ pending) {p : Place} (hbeside : ∀ file ∈ pending, p ≠ file.stagedPlace)
    (hplaces : ∀ file ∈ moved, p ≠ file.place) : files'.text? p = files.text? p := by
  have hnot : p ∉ pending.map PendingFile.stagedPlace := by
    intro hmem
    obtain ⟨file, hfile, heq⟩ := List.mem_map.mp hmem
    exact hbeside file hfile heq.symm
  rw [hmoved.other p fun file hfile => ⟨hplaces file hfile, hbeside file (hsub hfile)⟩,
    hall.text_of_not_mem p hnot]

/-- A file beside whose place one was staged was not there, even if none is written to its place. -/
theorem ne_stagedPlace_of_output (hapart : Apart (a.pendingIn infraDir runtimeDir files))
    {staged : Files} (hall : AllStaged (a.pendingIn infraDir runtimeDir files) files staged)
    {output file : PendingFile} (houtput : output ∈ a.outputFiles infraDir runtimeDir)
    (hnone : files.text? output.place = none)
    (hfile : file ∈ a.pendingIn infraDir runtimeDir files) : output.place ≠ file.stagedPlace := by
  intro heq
  by_cases hpending : output ∈ a.pendingIn infraDir runtimeDir files
  · exact hapart.disjoint output hpending file hfile heq
  · -- Otherwise a handler was found there: a directory, in whose place no file is staged.
    have hthere : (files.kind? output.path).isSome = true := by
      rcases List.mem_append.mp houtput with houtput | houtput
      · exact absurd (List.mem_append_left _ houtput) hpending
      · by_contra hnone
        refine hpending (List.mem_append_right _ (List.mem_filter.mpr ⟨houtput, ?_⟩))
        simpa using hnone
    have hdirectory : files.isDirectory output.place = true :=
      Files.isDirectory_of_kind? hthere hnone
    have hnot := hall.apart file hfile
    rw [← heq, (hall.isDirectory_iff _).mpr (Or.inl hdirectory)] at hnot
    cases hnot

section Fresh

variable (hfresh : ∀ file ∈ a.pendingIn infraDir runtimeDir files,
  files.text? file.stagedPlace = none)
include hfresh

theorem untouched_of_unstaged {before : List PendingFile}
    (hbefore : before <+: a.pendingIn infraDir runtimeDir files)
    (htext : ∀ p, files'.text? p =
      if p ∈ before.map PendingFile.stagedPlace then none else files.text? p) :
    Untouched (a.outputFiles infraDir runtimeDir) files files' := by
  refine ⟨fun p text hp => ?_, fun file _ hnone => ?_⟩
  · have hnot : p ∉ before.map PendingFile.stagedPlace := by
      intro hmem
      obtain ⟨file, hfile, rfl⟩ := List.mem_map.mp hmem
      cases (hfresh file (hbefore.subset hfile)).symm.trans hp
    rw [htext, if_neg hnot, hp]
  · rw [htext, hnone, ite_self]

theorem untouched_iff_of_moved (hapart : Apart (a.pendingIn infraDir runtimeDir files))
    {staged : Files} (hall : AllStaged (a.pendingIn infraDir runtimeDir files) files staged)
    {moved : List PendingFile} (hsub : moved ⊆ a.pendingIn infraDir runtimeDir files)
    (hmoved : Moved moved staged files') :
    Untouched (a.outputFiles infraDir runtimeDir) files files' ↔
      ∀ file ∈ moved, files.text? file.place = some file.contents := by
  constructor
  · intro huntouched file hfile
    have harrived := hmoved.arrived file hfile
    cases htext : files.text? file.place with
    | none =>
      have houtput := mem_outputFiles_of_mem_pendingIn (hsub hfile)
      cases harrived.symm.trans (huntouched.noneCreated file houtput htext)
    | some text => exact (huntouched.kept _ _ htext).symm.trans harrived
  · intro hthere
    refine ⟨fun p text hp => ?_, fun output houtput hnone => ?_⟩
    · by_cases hplaces : ∀ file ∈ moved, p ≠ file.place
      · have hbeside : ∀ file ∈ a.pendingIn infraDir runtimeDir files, p ≠ file.stagedPlace := by
          rintro file hfile rfl
          cases (hfresh file hfile).symm.trans hp
        rw [text?_of_moved hall hmoved hsub hbeside hplaces, hp]
      · push Not at hplaces
        obtain ⟨file, hfile, rfl⟩ := hplaces
        rw [hmoved.arrived file hfile, ← hthere file hfile, hp]
    · have hbeside : ∀ file ∈ a.pendingIn infraDir runtimeDir files,
          output.place ≠ file.stagedPlace :=
        fun _ => ne_stagedPlace_of_output hapart hall houtput hnone
      have hplaces : ∀ file ∈ moved, output.place ≠ file.place := by
        intro file hfile heq
        rw [heq, hthere file hfile] at hnone
        cases hnone
      rw [text?_of_moved hall hmoved hsub hbeside hplaces, hnone]

/-- A write that fails leaves the tree untouched if and only if each file that it moved was there
before with the same content: those before the first place that takes no file, if staging was
done. -/
theorem write_error_untouched_iff (hapart : Apart (a.pendingIn infraDir runtimeDir files))
    (h : write Files.system a infraDir runtimeDir files = (.error e, files')) :
    Untouched (a.outputFiles infraDir runtimeDir) files files' ↔
      ∀ staged, stageAll Files.system [] (a.pendingIn infraDir runtimeDir files) files =
          (.ok (), staged) →
        ∀ file ∈ (a.pendingIn infraDir runtimeDir files).takeWhile fun file =>
          staged.admits file.path, files.text? file.place = some file.contents := by
  rcases write_error_cases hapart h with
    ⟨hstage, before, hbefore, htext⟩ | ⟨staged, hstage, hall, hmoved⟩
  · refine iff_of_true (untouched_of_unstaged hfresh hbefore htext) fun staged hstaged => ?_
    cases hstage.symm.trans hstaged
  · rw [untouched_iff_of_moved hfresh hapart hall (List.takeWhile_sublist _).subset hmoved]
    constructor
    · intro hthere staged' hstaged'
      cases hstage.symm.trans hstaged'
      exact hthere
    · intro hthere
      exact hthere staged hstage

end Fresh

namespace BlockedExample

def artifacts : Artifacts where
  infrastructure := [("template.yml", "Resources")]
  code := ⟨"struct", []⟩

def template : PendingFile := ⟨"infra/template.yml", "Resources"⟩

/-- A file stands where the directory of the code should be. -/
def fileForDirectory : Files := ⟨[(["gen"], .file "old")]⟩

/-- A directory stands where the models should be. -/
def directoryForFile : Files :=
  ⟨[(["gen"], .directory), (["gen", "models.rs"], .directory),
    (["gen", "models.rs", "x"], .file "old")]⟩

end BlockedExample

open BlockedExample in
/-- Where a file stands in the way, staging fails and nothing is touched. -/
theorem blocked_write_touches_nothing :
    ∃ e files', write Files.system artifacts "infra" "gen" fileForDirectory = (.error e, files') ∧
      Untouched (artifacts.outputFiles "infra" "gen") fileForDirectory files' := by
  have herror : (write Files.system artifacts "infra" "gen" fileForDirectory).1 =
      .error (.io "gen: cannot be created") := by decide +kernel
  have hstage : (stageAll Files.system [] (artifacts.pendingIn "infra" "gen" fileForDirectory)
      fileForDirectory).1 = .error (.io "gen: cannot be created") := by decide +kernel
  have hrun : write Files.system artifacts "infra" "gen" fileForDirectory =
      (.error (.io "gen: cannot be created"),
        (write Files.system artifacts "infra" "gen" fileForDirectory).2) := by
    rw [← herror, Prod.eta]
  have hapart : Apart (artifacts.pendingIn "infra" "gen" fileForDirectory) :=
    ⟨by decide +kernel, by decide +kernel, by decide +kernel⟩
  refine ⟨_, _, hrun, (write_error_untouched_iff (by decide +kernel) hapart hrun).mpr ?_⟩
  intro staged hstaged
  rw [hstaged] at hstage
  cases hstage

open BlockedExample in
/-- Where a directory stands in the place of the models, the template has been moved to its place
before. -/
theorem template_is_placed_before_models_fail :
    (write Files.system artifacts "infra" "gen" directoryForFile).1 =
        .error (.io "gen/models.rs: is a directory") ∧
      ¬Untouched (artifacts.outputFiles "infra" "gen") directoryForFile
        (write Files.system artifacts "infra" "gen" directoryForFile).2 := by
  refine ⟨by decide +kernel, fun h => ?_⟩
  have hmem : template ∈ artifacts.outputFiles "infra" "gen" := by decide +kernel
  have hbefore : directoryForFile.text? template.place = none := by decide +kernel
  have hafter : (write Files.system artifacts "infra" "gen" directoryForFile).2.text?
      template.place = some "Resources" := by decide +kernel
  have hnone := h.noneCreated template hmem hbefore
  rw [hafter] at hnone
  cases hnone

end Artifacts

end Keyspace
