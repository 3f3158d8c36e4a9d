import Keyspace.Files.Tree
import Keyspace.Proofs.Action

/-!
# What file operations change

A tree is looked at through its directories and the contents of its files. A path names the same
place in every tree where it leads on, so an operation is told by the places it works on: making a
way adds directories and leaves the files alone, and writing, moving and removing change the files
at their places and no directory.
-/
namespace Keyspace

namespace Place

/-- The places passed on the way along some steps. -/
def passed : (place : Place) → (steps : List String) → List Place
  | _, [] => []
  | place, step :: steps => place.next step :: passed (place.next step) steps

/-- Where some steps lead. -/
def follow (place : Place) (steps : List String) : Place := steps.foldl next place

/-- The place that a path names, whatever is there. -/
def ofPath (path : String) : Place := (start path).follow (Path.steps path)

@[simp] theorem follow_nil (place : Place) : place.follow [] = place := rfl

@[simp] theorem follow_cons (place : Place) (step : String) (steps : List String) :
    place.follow (step :: steps) = (place.next step).follow steps := rfl

theorem follow_append (place : Place) (steps more : List String) :
    place.follow (steps ++ more) = (place.follow steps).follow more := List.foldl_append

theorem isFixed_start (path : String) : (start path).isFixed = true := by
  unfold start
  split <;> rfl

end Place

namespace Files

variable {files files' : Files} {place goal other : Place} {steps : List String} {path : String}

/-- The content of the file at a place, if there is one. -/
def text? (files : Files) (place : Place) : Option String :=
  match files.node? place with
  | some (.file text) => some text
  | _ => none

theorem text?_eq_some {text : String} :
    files.text? place = some text ↔ files.node? place = some (.file text) := by
  unfold text?
  split
  · next h => simp [h]
  · next h =>
    constructor
    · rintro ⟨⟩
    · intro h'
      exact absurd h' (h text)

theorem node?_put (files : Files) (place other : Place) (node : FileNode) :
    (files.put place node).node? other = if other = place then some node else files.node? other := by
  split
  · next h => rw [h, node?_put_self]
  · next h => exact node?_put_ne files node h

theorem node?_erase (files : Files) (place other : Place) :
    (files.erase place).node? other = if other = place then none else files.node? other := by
  split
  · next h => rw [h, node?_erase_self]
  · next h => exact node?_erase_ne files h

theorem text?_put_file (files : Files) (place other : Place) (text : String) :
    (files.put place (.file text)).text? other =
      if other = place then some text else files.text? other := by
  unfold text?
  rw [node?_put]
  by_cases h : other = place
  · rw [if_pos h, if_pos h]
  · rw [if_neg h, if_neg h]

/-- A new directory changes no file. -/
theorem text?_put_directory (h : files.node? place = none) (other : Place) :
    (files.put place .directory).text? other = files.text? other := by
  unfold text?
  rw [node?_put]
  by_cases hother : other = place
  · rw [if_pos hother, hother, h]
  · rw [if_neg hother]

theorem isDirectory_put_directory (files : Files) (place other : Place) :
    (files.put place .directory).isDirectory other = true ↔
      files.isDirectory other = true ∨ other = place := by
  unfold isDirectory
  rw [node?_put]
  by_cases h : other = place
  · simp [h]
  · simp [h]

theorem text?_erase (files : Files) (place other : Place) :
    (files.erase place).text? other = if other = place then none else files.text? other := by
  unfold text?
  rw [node?_erase]
  by_cases h : other = place
  · rw [if_pos h, if_pos h]
  · rw [if_neg h, if_neg h]

/-- A file in the place of none leaves the directories as they are. -/
theorem isDirectory_put_file (h : files.isDirectory place = false) (text : String) (other : Place) :
    (files.put place (.file text)).isDirectory other = files.isDirectory other := by
  unfold isDirectory at h ⊢
  rw [node?_put]
  by_cases hother : other = place
  · subst hother
    rw [Bool.or_eq_false_iff] at h
    simp [h.1, h.2]
  · rw [if_neg hother]

/-- A file that is gone leaves the directories as they are. -/
theorem isDirectory_erase {text : String} (h : files.text? place = some text) (other : Place) :
    (files.erase place).isDirectory other = files.isDirectory other := by
  unfold isDirectory
  rw [node?_erase]
  by_cases hother : other = place
  · subst hother
    simp [text?_eq_some.mp h]
  · rw [if_neg hother]

/-- Where a file is, there is no directory. -/
theorem isDirectory_of_text? {text : String} (h : files.text? place = some text)
    (hfixed : place.isFixed = false) : files.isDirectory place = false := by
  unfold isDirectory
  rw [hfixed, text?_eq_some.mp h]
  rfl

theorem isDirectory_start (files : Files) (path : String) :
    files.isDirectory (.start path) = true := by
  unfold isDirectory
  rw [Place.isFixed_start]
  rfl

theorem isFixed_of_isDirectory (h : files.isDirectory place = false) : place.isFixed = false :=
  (Bool.or_eq_false_iff.mp h).1

/-! ## Paths lead on from directories -/

theorem follow?_eq_some (h : files.follow? place steps = some goal) : goal = place.follow steps := by
  induction steps generalizing place with
  | nil => exact (Option.some.inj h).symm
  | cons step steps ih =>
    unfold follow? at h
    split at h
    · exact ih h
    · cases h

theorem locate?_eq_some (h : files.locate? path = some goal) : goal = .ofPath path := by
  unfold locate? at h
  split at h
  · cases h
  · exact follow?_eq_some h

theorem follow?_mono (hmore : ∀ p, files.isDirectory p = true → files'.isDirectory p = true)
    (h : files.follow? place steps = some goal) : files'.follow? place steps = some goal := by
  induction steps generalizing place with
  | nil => exact h
  | cons step steps ih =>
    unfold follow? at h ⊢
    split at h
    · next hstep =>
      rw [Bool.and_eq_true] at hstep
      rw [if_pos (by rw [hmore _ hstep.1, hstep.2]; rfl)]
      exact ih h
    · cases h

theorem locate?_mono (hmore : ∀ p, files.isDirectory p = true → files'.isDirectory p = true)
    (h : files.locate? path = some goal) : files'.locate? path = some goal := by
  unfold locate? at h ⊢
  split at h
  · cases h
  · next hpath =>
    rw [if_neg hpath]
    exact follow?_mono hmore h

theorem follow?_congr (hsame : ∀ p, files'.isDirectory p = files.isDirectory p) :
    files'.follow? place steps = files.follow? place steps := by
  induction steps generalizing place with
  | nil => rfl
  | cons step steps ih =>
    unfold follow?
    rw [hsame, ih]

theorem follow?_append (files : Files) (place : Place) (steps more : List String) :
    files.follow? place (steps ++ more) =
      (files.follow? place steps).bind fun goal => files.follow? goal more := by
  induction steps generalizing place with
  | nil => rfl
  | cons step steps ih =>
    rw [List.cons_append, follow?, follow?]
    split
    · exact ih _
    · rfl

/-- Steps lead on along directories. -/
theorem follow?_of_passed (hplace : files.isDirectory place = true)
    (hnames : ∀ step ∈ steps, isFileName step = true)
    (hpassed : ∀ p ∈ place.passed steps, files.isDirectory p = true) :
    files.follow? place steps = some (place.follow steps) := by
  induction steps generalizing place with
  | nil => rfl
  | cons step steps ih =>
    rw [List.forall_mem_cons] at hnames
    rw [Place.passed, List.forall_mem_cons] at hpassed
    rw [follow?, hplace, hnames.1]
    exact ih hpassed.1 hnames.2 hpassed.2

/-- Where steps lead on, they are file names. -/
theorem isFileName_of_follow? (h : files.follow? place steps = some goal) :
    ∀ step ∈ steps, isFileName step = true := by
  induction steps generalizing place with
  | nil => exact fun _ hmem => nomatch hmem
  | cons step steps ih =>
    rw [follow?] at h
    split at h
    · next hstep =>
      rw [Bool.and_eq_true] at hstep
      exact List.forall_mem_cons.mpr ⟨hstep.2, ih h⟩
    · cases h

theorem isFileName_of_locate? (h : files.locate? path = some place) :
    ∀ step ∈ Path.steps path, isFileName step = true := by
  unfold locate? at h
  split at h
  · cases h
  · exact isFileName_of_follow? h

/-! ## Ways -/

/-- A step of a way: from a directory it goes on, into a new one where there is nothing. -/
theorem makeWay_cons (files : Files) (place : Place) (step : String) (steps : List String) :
    files.makeWay place (step :: steps) =
      if isFileName step = true then
        if files.isDirectory (place.next step) = true then files.makeWay (place.next step) steps
        else if files.node? (place.next step) = none then
          (files.put (place.next step) .directory).makeWay (place.next step) steps
        else (false, files)
      else (false, files) := by
  rw [makeWay]
  cases isFileName step with
  | false => rfl
  | true => cases files.node? (place.next step) <;> rfl

/-- Making a way leaves the files as they are, and the directories that were there. -/
theorem makeWay_keeps (files : Files) (place : Place) (steps : List String) :
    (∀ p, (files.makeWay place steps).2.text? p = files.text? p) ∧
      ∀ p, files.isDirectory p = true → (files.makeWay place steps).2.isDirectory p = true := by
  induction steps generalizing files place with
  | nil => exact ⟨fun _ => rfl, fun _ => id⟩
  | cons step steps ih =>
    rw [makeWay_cons]
    split
    · split
      · exact ih files _
      · split
        · next hnode =>
          obtain ⟨htext, hmore⟩ := ih (files.put (place.next step) .directory) (place.next step)
          refine ⟨fun p => (htext p).trans (text?_put_directory hnode p), fun p hp => hmore p ?_⟩
          exact (isDirectory_put_directory files _ p).mpr (Or.inl hp)
        · exact ⟨fun _ => rfl, fun _ => id⟩
    · exact ⟨fun _ => rfl, fun _ => id⟩

/-- A way that was made consists of directories, and there are no other new ones. -/
theorem isDirectory_makeWay (h : (files.makeWay place steps).1 = true) (p : Place) :
    (files.makeWay place steps).2.isDirectory p = true ↔
      files.isDirectory p = true ∨ p ∈ place.passed steps := by
  induction steps generalizing files place with
  | nil => simp [makeWay, Place.passed]
  | cons step steps ih =>
    rw [makeWay_cons] at h ⊢
    rw [Place.passed, List.mem_cons]
    split at h
    · split at h
      · next hname hthere =>
        rw [if_pos hname, if_pos hthere, ih h]
        constructor
        · rintro (hp | hp)
          · exact Or.inl hp
          · exact Or.inr (Or.inr hp)
        · rintro (hp | rfl | hp)
          · exact Or.inl hp
          · exact Or.inl hthere
          · exact Or.inr hp
      · split at h
        · next hname hthere hnode =>
          rw [if_pos hname, if_neg hthere, if_pos hnode, ih h, isDirectory_put_directory, or_assoc]
        · cases h
    · cases h

/-- A way can be made if its steps are file names and no file is in the way. -/
theorem makeWay_done (hnames : ∀ step ∈ steps, isFileName step = true)
    (hfree : ∀ p ∈ place.passed steps, files.isDirectory p = true ∨ files.text? p = none) :
    (files.makeWay place steps).1 = true := by
  induction steps generalizing files place with
  | nil => rfl
  | cons step steps ih =>
    rw [List.forall_mem_cons] at hnames
    rw [Place.passed, List.forall_mem_cons] at hfree
    rw [makeWay_cons, if_pos hnames.1]
    split
    · exact ih hnames.2 hfree.2
    · next hthere =>
      have hnode : files.node? (place.next step) = none := by
        have htext := hfree.1.resolve_left hthere
        cases hnode : files.node? (place.next step) with
        | none => rfl
        | some node =>
          cases node with
          | file text =>
            rw [text?_eq_some.mpr hnode] at htext
            cases htext
          | directory => exact absurd (by simp [isDirectory, hnode]) hthere
      rw [if_pos hnode]
      refine ih hnames.2 fun p hp => ?_
      rcases hfree.2 p hp with hp | hp
      · exact Or.inl ((isDirectory_put_directory files _ p).mpr (Or.inl hp))
      · exact Or.inr ((text?_put_directory hnode p).trans hp)

/-- What a path names is a file or a directory. -/
theorem isDirectory_of_kind? (h : (files.kind? path).isSome = true)
    (htext : files.text? (.ofPath path) = none) : files.isDirectory (.ofPath path) = true := by
  unfold kind? at h
  obtain ⟨place, hplace⟩ : ∃ place, files.locate? path = some place := by
    cases hplace : files.locate? path with
    | none =>
      rw [hplace] at h
      cases h
    | some place => exact ⟨place, rfl⟩
  rw [hplace, Option.bind_some, locate?_eq_some hplace] at h
  unfold kindAt? at h
  unfold isDirectory
  by_cases hfixed : (Place.ofPath path).isFixed = true
  · rw [hfixed]
    rfl
  · rw [if_neg hfixed, Option.isSome_map] at h
    unfold text? at htext
    cases hnode : files.node? (.ofPath path) with
    | none =>
      rw [hnode] at h
      cases h
    | some node => cases node <;> simp_all

theorem kind?_eq_none (hfixed : (Place.ofPath path).isFixed = false)
    (hnode : files.node? (.ofPath path) = none) : files.kind? path = none := by
  unfold kind?
  cases hplace : files.locate? path with
  | none => rfl
  | some place =>
    rw [Option.bind_some, locate?_eq_some hplace]
    unfold kindAt?
    rw [hfixed, hnode]
    rfl

theorem isSome_kind? {text : String} (hplace : files.locate? path = some place)
    (htext : files.text? place = some text) : (files.kind? path).isSome = true := by
  unfold kind?
  rw [hplace, Option.bind_some]
  unfold kindAt?
  rw [text?_eq_some.mp htext]
  split <;> rfl

/-! ## Operations -/

/-- Whether a path leads to a place that can take a file. -/
def admits (files : Files) (path : String) : Bool :=
  (files.locate? path).any fun place => !files.isDirectory place

theorem admits_iff : files.admits path = true ↔
    files.locate? path = some (.ofPath path) ∧ files.isDirectory (.ofPath path) = false := by
  unfold admits
  rw [Option.any_eq_true]
  constructor
  · rintro ⟨place, hplace, hdirectory⟩
    rw [← locate?_eq_some hplace]
    exact ⟨hplace, by simpa using hdirectory⟩
  · rintro ⟨hplace, hdirectory⟩
    exact ⟨_, hplace, by simpa using hdirectory⟩

theorem admits_congr (hsame : ∀ p, files'.isDirectory p = files.isDirectory p) (path : String) :
    files'.admits path = files.admits path := by
  unfold admits locate?
  rw [follow?_congr hsame]
  split
  · rfl
  · cases files.follow? (.start path) (Path.steps path) with
    | none => rfl
    | some place => rw [Option.any_some, Option.any_some, hsame]

theorem createDirectories_apply (path : String) (files : Files) :
    ∃ r, createDirectories path files = (r, (files.makeWay (.start path) (Path.steps path)).2) ∧
      (r = .ok () ↔ (files.makeWay (.start path) (Path.steps path)).1 = true) := by
  unfold createDirectories
  split
  · next h => exact ⟨_, by rw [h], by rw [h]; simp⟩
  · next h => exact ⟨_, by rw [h], by rw [h]; simp⟩

/-- A file is written where its path leads to a place for one. -/
theorem write_of_admits (h : files.admits path = true) (contents : String) :
    write path contents files = (.ok (), files.put (.ofPath path) (.file contents)) := by
  obtain ⟨hplace, hdirectory⟩ := admits_iff.mp h
  unfold write
  rw [hplace]
  simp [hdirectory]

theorem write_of_not_admits (h : files.admits path = false) (contents : String) :
    ∃ e, write path contents files = (.error e, files) := by
  unfold admits at h
  unfold write
  cases hplace : files.locate? path with
  | none => exact ⟨_, rfl⟩
  | some place =>
    rw [hplace, Option.any_some, Bool.not_eq_false'] at h
    exact ⟨_, if_pos h⟩

/-- A file is moved where a path leads to a place for one. -/
theorem rename_of_admits {source target contents : String} (hplace : files.locate? source = some place)
    (htext : files.text? place = some contents) (h : files.admits target = true) :
    rename source target files =
      (.ok (), (files.erase place).put (.ofPath target) (.file contents)) := by
  obtain ⟨hgoal, hdirectory⟩ := admits_iff.mp h
  unfold rename
  simp [hplace, text?_eq_some.mp htext, hgoal, hdirectory]

theorem rename_of_not_admits {source target contents : String}
    (hplace : files.locate? source = some place) (htext : files.text? place = some contents)
    (h : files.admits target = false) : ∃ e, rename source target files = (.error e, files) := by
  unfold admits at h
  unfold rename
  simp only [hplace, Option.map_some, text?_eq_some.mp htext]
  cases hgoal : files.locate? target with
  | none => exact ⟨_, rfl⟩
  | some goal =>
    rw [hgoal, Option.any_some, Bool.not_eq_false'] at h
    exact ⟨_, if_pos h⟩

theorem text?_eq_if_of_none (h : files.text? place = none) (p : Place) :
    files.text? p = if p = place then none else files.text? p := by
  split
  · next hp => rw [hp, h]
  · rfl

/-- Where a path leads on, no file is left at its place. -/
theorem remove_of_locate? (h : files.locate? path = some place) :
    (∀ p, (remove path files).2.text? p = if p = place then none else files.text? p) ∧
      ∀ p, (remove path files).2.isDirectory p = files.isDirectory p := by
  unfold remove
  rw [h, Option.map_some]
  cases hnode : files.node? place with
  | some node =>
    cases node with
    | file text => exact ⟨text?_erase files place, isDirectory_erase (text?_eq_some.mpr hnode)⟩
    | directory => exact ⟨text?_eq_if_of_none (by simp [text?, hnode]), fun _ => rfl⟩
  | none => exact ⟨text?_eq_if_of_none (by simp [text?, hnode]), fun _ => rfl⟩

end Files

end Keyspace
