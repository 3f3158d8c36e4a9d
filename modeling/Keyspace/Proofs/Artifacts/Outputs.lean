import Keyspace.Proofs.Artifacts.Staging
import Keyspace.Proofs.Blueprint.Handlers
import Keyspace.Proofs.Blueprint.Merging
import Keyspace.Proofs.Code.Outcome
import Keyspace.Proofs.Files.Paths
import Keyspace.Proofs.Template.FunctionStacks
import Keyspace.Proofs.Text.WordCharacters

/-!
# The files of an accepted schema

Templates are named after functions and handlers after themselves, both in words. So every file lies
at a place of its own, and what is staged beside it too, unless a handler's module is called `mod`:
its file is that of the module that declares the handlers.
-/
namespace Keyspace

namespace Path

/-- An ending is more than dots. -/
theorem ne_dots_of_append {stem ending : String} (h : 3 ≤ ending.length) :
    stem ++ ending ≠ "" ∧ stem ++ ending ≠ "." ∧ stem ++ ending ≠ ".." := by
  have hlength : 3 ≤ (stem ++ ending).length := by
    rw [String.length_append]
    omega
  refine ⟨?_, ?_, ?_⟩ <;>
  · intro heq
    rw [heq] at hlength
    exact absurd hlength (by decide)

theorem IsPlain.append {rel rest : String} (h : IsPlain rel) (hslash : '/' ∉ rest.toList)
    (hlength : 3 ≤ rest.length) : IsPlain (rel ++ rest) := by
  obtain ⟨ps, name, hpieces⟩ := exists_pieces_eq rel
  unfold IsPlain at h ⊢
  rw [pieces_append hpieces hslash]
  rw [hpieces] at h
  intro p hp
  rcases List.mem_append.mp hp with hp | hp
  · exact h p (List.mem_append_left _ hp)
  · rw [List.mem_singleton.mp hp]
    exact ne_dots_of_append hlength

/-- A file with an ending in a directory. -/
theorem pieces_in {dir name ending : String} (hdir : '/' ∉ dir.toList) (hname : '/' ∉ name.toList)
    (hending : '/' ∉ ending.toList) :
    pieces (dir ++ "/" ++ name ++ ending) = [dir, name ++ ending] := by
  rw [String.append_assoc, pieces_append_slash, pieces_of_not_mem hdir,
    pieces_of_not_mem (by simp [hname, hending])]
  rfl

theorem isPlain_in {dir name ending : String} (hdir : '/' ∉ dir.toList)
    (hplain : dir ≠ "" ∧ dir ≠ "." ∧ dir ≠ "..") (hname : '/' ∉ name.toList)
    (hending : '/' ∉ ending.toList) (hlength : 3 ≤ ending.length) :
    IsPlain (dir ++ "/" ++ name ++ ending) := by
  unfold IsPlain
  rw [pieces_in hdir hname hending, List.forall_mem_cons, List.forall_mem_singleton]
  exact ⟨hplain, ne_dots_of_append hlength⟩

end Path

namespace Blueprint

open Result

variable {config : Config} {text : String} {b : Blueprint}

theorem ofSchema_handlerFunction (hb : ofSchema config text = .ok b) {h : ChangeHandler}
    (hh : h ∈ b.handlers) : h.functionName = "Fn" ++ Text.pascalCase h.name := by
  obtain ⟨document, -, hdocument⟩ := ofSchema_eq_ok hb
  obtain ⟨ds, built, -, hbuilt, hmodels, -⟩ := ofDocument_eq_ok hdocument
  obtain ⟨m', hm', hh'⟩ := List.mem_flatMap.mp hh
  obtain ⟨m, hm, -, h', hh', hresolved⟩ := mem_handlers_resolved hmodels hm' hh'
  obtain ⟨readable, writable, -, -, rfl⟩ := resolveHandler_eq_ok hresolved
  obtain ⟨member, hmember, rfl⟩ := List.mem_map.mp hm
  obtain ⟨type, -, hmodel⟩ := buildModels_eq_ok hbuilt hmember
  obtain ⟨declared, hdeclared⟩ := hmodel.handlersBuilt
  obtain ⟨⟨kind, d⟩, -, hmade⟩ := exists_of_mem_mapM hdeclared hh'
  obtain ⟨event, target, sizing, -, rfl⟩ := exists_of_buildHandler hmade
  rfl

theorem ofSchema_dispatcherFunction (hb : ofSchema config text = .ok b) {t : Table}
    (ht : t ∈ b.tables) {d : Dispatcher} (hd : t.dispatcher = some d) :
    d.functionName = "Dispatcher" ++ Text.pascalCase t.name := by
  obtain ⟨document, -, hdocument⟩ := ofSchema_eq_ok hb
  obtain ⟨ds, built, -, -, -, htables, -⟩ := ofDocument_eq_ok hdocument
  obtain ⟨first, -, hbuild⟩ := exists_of_mem_buildTables htables ht
  unfold buildTable at hbuild
  obtain ⟨⟨indexes, ttl⟩, -, hbuild⟩ := bind_eq_ok.mp hbuild
  rw [← pure_eq_ok.mp hbuild] at hd
  dsimp only at hd
  split at hd
  · cases hd
    rfl
  · cases hd

end Blueprint

/-! ## Templates and handlers -/

namespace Template

variable {config : Config} {b : Blueprint} {text : String}

/-- Functions are named in words. -/
theorem isWordChar_of_mem_function (hb : Blueprint.ofSchema config text = .ok b)
    {f : FunctionStack} (hf : f ∈ FunctionStack.ofBlueprint b config) {c : Char}
    (hc : c ∈ f.function.toList) : Text.IsWordChar c := by
  obtain ⟨t, ht, d, hd, hfunction⟩ := FunctionStack.mem_ofBlueprint.mp hf
  rcases hfunction with rfl | ⟨m, hm, -, h, hh, rfl⟩
  · have hname : (FunctionStack.ofDispatcher config t d).function =
        "Dispatcher" ++ Text.pascalCase t.name := Blueprint.ofSchema_dispatcherFunction hb ht hd
    rw [hname] at hc
    exact Text.isWordChar_of_mem_lead_pascalCase (by decide) hc
  · have hname : (FunctionStack.ofHandler config t h).function = "Fn" ++ Text.pascalCase h.name :=
      Blueprint.ofSchema_handlerFunction hb (List.mem_flatMap.mpr ⟨m, hm, hh⟩)
    rw [hname] at hc
    exact Text.isWordChar_of_mem_lead_pascalCase (by decide) hc

end Template

namespace Stacks

theorem render_eq (s : Stacks) : s.render =
    Dict.union [("template.yml", header ++ s.root.toYaml)] (s.nested.map fun entry =>
      (nestedLocation entry.1, header ++ entry.2.template.toYaml)) := by
  unfold render Dict.union
  rw [List.foldl_map]

theorem mem_keys_render {s : Stacks} {path : String} : path ∈ s.render.keys ↔
    path = "template.yml" ∨ ∃ name ∈ s.nested.keys, path = nestedLocation name := by
  rw [render_eq, Dict.union, Dict.mem_keys_foldl_insert, List.map_map]
  simp [Dict.keys, or_comm, eq_comm]

theorem ordered_render (s : Stacks) : s.render.Ordered := by
  rw [render_eq]
  exact Dict.ordered_foldl_insert (List.pairwise_singleton _ _)

end Stacks

namespace Artifacts

/-- What the names of artifacts are like. -/
structure HasNames (a : Artifacts) : Prop where
  templates : ∀ path ∈ a.infrastructure.keys, Path.IsPlain path ∧ ∃ stem, path = stem ++ ".yml"
  templatesDistinct : a.infrastructure.keys.Nodup
  handlers : ∀ name ∈ a.code.handlers.keys, '/' ∉ name.toList
  handlersDistinct : a.code.handlers.keys.Nodup
  moduleOwn : ∀ entry ∈ a.code.handlers, entry.2 ≠ a.code.handlersModule

theorem handlersModule_head (c : RuntimeCode) : c.handlersModule.toList.head? = some '/' := by
  unfold RuntimeCode.handlersModule
  rw [String.toList_append]
  rfl

end Artifacts

namespace Code

/-- A line begins with its first piece. -/
theorem exists_line_eq {first : String} (h : first ≠ "") (rest : List String) :
    ∃ more, line (first :: rest) = first ++ more := by
  unfold line
  rw [List.filter_cons_of_pos (by simpa using h)]
  cases rest.filter fun piece => !piece.isEmpty with
  | nil => exact ⟨"", by rw [String.intercalate_singleton, String.append_empty]⟩
  | cons next pieces => exact ⟨_, by rw [String.intercalate_cons_cons, String.append_assoc]⟩

/-- The code of a handler begins with what it uses. -/
theorem handlerCode_head {h : ChangeHandler} {code : String} (hcode : handlerCode h = .ok code) :
    code.toList.head? = some 'u' := by
  unfold handlerCode at hcode
  obtain ⟨handler, -, hcode⟩ := Result.bind_eq_ok.mp hcode
  obtain ⟨source, -, hcode⟩ := Result.bind_eq_ok.mp hcode
  obtain ⟨target, -, hcode⟩ := Result.bind_eq_ok.mp hcode
  rw [← Result.pure_eq_ok.mp hcode]
  have hword : "use" ≠ "" := by decide
  obtain ⟨more, huse⟩ : ∃ more, useModel source = "use" ++ more := exists_line_eq hword _
  have hne : useModel source ≠ "" := by
    rw [huse]
    simp
  obtain ⟨more', hline⟩ := exists_line_eq hne _
  rw [hline, huse, String.toList_append, String.toList_append]
  rfl

end Code

namespace Artifacts

variable {config : Config} {text : String} {b : Blueprint} {a : Artifacts}

theorem contain_eq_ok {α : Type} {backend : String} {r : Result α} {x : α}
    (h : contain backend r = .ok x) : r = .ok x := by
  unfold contain at h
  split at h
  · cases h
  · exact h

theorem isPlain_nestedLocation {name : String} (h : '/' ∉ name.toList) :
    Path.IsPlain (nestedLocation name) := by
  have hdirectory : "nested/" = "nested" ++ "/" := rfl
  unfold nestedLocation
  rw [hdirectory]
  exact Path.isPlain_in (by decide) (by decide) h (by decide) (by decide)

theorem ofBlueprint_eq_ok {paths : Code.PathReader} (ha : ofBlueprint config b paths = .ok a) :
    ∃ s code, Stacks.ofBlueprint config b = .ok s ∧ Code.ofBlueprint b paths = .ok code ∧
      a = ⟨s.render, code⟩ := by
  unfold ofBlueprint at ha
  obtain ⟨s, hs, ha⟩ := Result.bind_eq_ok.mp ha
  obtain ⟨code, hcode, ha⟩ := Result.bind_eq_ok.mp ha
  exact ⟨s, code, contain_eq_ok hs, contain_eq_ok hcode, (Result.pure_eq_ok.mp ha).symm⟩

theorem isPlain_of_mem_render (hb : Blueprint.ofSchema config text = .ok b) {s : Stacks}
    (hs : Stacks.ofBlueprint config b = .ok s) {path : String} (hpath : path ∈ s.render.keys) :
    Path.IsPlain path ∧ ∃ stem, path = stem ++ ".yml" := by
  rcases Stacks.mem_keys_render.mp hpath with rfl | ⟨name, hname, rfl⟩
  · exact ⟨by decide, "template", rfl⟩
  · obtain ⟨f, hf, rfl⟩ := (Template.keys_ofBlueprint hs name).mp hname
    refine ⟨isPlain_nestedLocation fun hslash => ?_, _, rfl⟩
    rw [stackName, String.toList_append] at hslash
    rcases List.mem_append.mp hslash with hslash | hslash
    · exact (Template.isWordChar_of_mem_function hb hf hslash).ne_slash rfl
    · exact absurd hslash (by decide)

/-- Every handler's module is that of a handler, under its name. -/
theorem handlers_of_code {paths : Code.PathReader} {code : RuntimeCode}
    (hcode : Code.ofBlueprint b paths = .ok code) :
    code.handlers.Ordered ∧ ∀ entry ∈ code.handlers, ∃ h : ChangeHandler,
      entry.1 = handlerModuleName h.name ∧ Code.handlerCode h = .ok entry.2 := by
  unfold Code.ofBlueprint at hcode
  obtain ⟨models, -, hcode⟩ := Result.bind_eq_ok.mp hcode
  obtain ⟨handlers, hhandlers, hcode⟩ := Result.bind_eq_ok.mp hcode
  obtain rfl := Result.pure_eq_ok.mp hcode
  refine ⟨Dict.ordered_ofList handlers, fun entry hentry => ?_⟩
  obtain ⟨h, -, hmodule⟩ := Result.exists_of_mem_mapM hhandlers (Dict.mem_of_mem_ofList hentry)
  exact ⟨h, Code.handlerModule_eq_ok hmodule⟩

/-- The artifacts of an accepted schema are named as they should be. -/
theorem hasNames {paths : Code.PathReader} (hb : Blueprint.ofSchema config text = .ok b)
    (ha : ofBlueprint config b paths = .ok a) : a.HasNames := by
  obtain ⟨s, code, hs, hcode, rfl⟩ := ofBlueprint_eq_ok ha
  obtain ⟨hordered, hmade⟩ := handlers_of_code hcode
  constructor
  case templates => exact fun path hpath => isPlain_of_mem_render hb hs hpath
  case templatesDistinct => exact (Stacks.ordered_render s).keys_nodup
  case handlers =>
    intro name hname hslash
    obtain ⟨entry, hentry, rfl⟩ := List.mem_map.mp hname
    obtain ⟨h, hmodule, -⟩ := hmade entry hentry
    rw [hmodule, handlerModuleName] at hslash
    rcases Text.isWordChar_of_mem_snakeCase hslash with heq | hword
    · exact absurd heq (by decide)
    · exact hword.ne_slash rfl
  case handlersDistinct => exact hordered.keys_nodup
  case moduleOwn =>
    intro entry hentry heq
    obtain ⟨h, -, htext⟩ := hmade entry hentry
    have hhead := Code.handlerCode_head htext
    rw [heq, handlersModule_head] at hhead
    cases hhead

/-! ## Places -/

/-- A file below a directory. -/
def fileIn (dir : String) (entry : String × String) : PendingFile := ⟨Path.join dir entry.1, entry.2⟩

/-- The path of a handler in the directory of the code. -/
def handlerPath (name : String) : String := "handlers" ++ "/" ++ name ++ ".rs"

/-- The files of the code by their paths in its directory. -/
def codeFiles (a : Artifacts) : List (String × String) :=
  ("models.rs", a.code.models) ::
    ((if a.code.handlers.isEmpty then [] else [("handlers/mod.rs", a.code.handlersModule)]) ++
      a.code.handlers.map fun entry => (handlerPath entry.1, entry.2))

theorem place_fileIn {entry : String × String} (h : Path.IsPlain entry.1) (dir : String) :
    (fileIn dir entry).place = Place.below dir ++ Path.pieces entry.1 :=
  Path.ofPath_join h dir

theorem isPlain_staged {path : String} (h : Path.IsPlain path) :
    Path.IsPlain (path ++ ".dynaform-tmp") :=
  h.append (by decide) (by decide)

theorem stagedPlace_fileIn {entry : String × String} (h : Path.IsPlain entry.1) (dir : String) :
    (fileIn dir entry).stagedPlace =
      Place.below dir ++ Path.pieces (entry.1 ++ ".dynaform-tmp") := by
  have hne : entry.1 ≠ "" := by
    intro heq
    rw [heq] at h
    exact (h "" (by decide)).1 rfl
  unfold PendingFile.stagedPlace PendingFile.stagedPath fileIn
  rw [Path.join_append h.not_absolute hne, Path.ofPath_join (isPlain_staged h)]

/-- A name below a directory is no place that is there in every tree. -/
theorem isFixed_below {path : String} (h : Path.IsPlain path) (place : Place) :
    (place ++ Path.pieces path).isFixed = false := by
  obtain ⟨ps, name, hpieces⟩ := Path.exists_pieces_eq path
  have hname : name ∈ Path.pieces path := by simp [hpieces]
  unfold Place.isFixed
  rw [Bool.or_eq_false_iff, decide_eq_false_iff_not, List.all_eq_false]
  refine ⟨fun heq => ?_, name, List.mem_append_right _ hname, by simpa using (h name hname).2.2⟩
  rw [hpieces, ← List.append_assoc] at heq
  have hlast := congrArg List.getLast? heq
  rw [List.getLast?_concat] at hlast
  have hslash := Path.not_mem_of_mem_pieces hname
  rw [Option.some.inj hlast] at hslash
  exact hslash (by decide)

namespace HasNames

variable (h : a.HasNames)
include h

theorem outputFiles_eq (infraDir runtimeDir : String) : a.outputFiles infraDir runtimeDir =
    a.infrastructure.map (fileIn infraDir) ++ a.codeFiles.map (fileIn runtimeDir) := by
  have hjoin {name : String} (hname : '/' ∉ name.toList) :
      Path.join (Path.join runtimeDir "handlers") name =
        Path.join runtimeDir ("handlers" ++ "/" ++ name) := by
    refine Path.join_join (by decide) (by decide) (by decide) ?_ runtimeDir
    unfold Path.isAbsolute
    cases hchars : name.toList with
    | nil => simp
    | cons c text =>
      rw [hchars, List.mem_cons, not_or] at hname
      simpa using Ne.symm hname.1
  have hmodule : Path.join (Path.join runtimeDir "handlers") "mod.rs" =
      Path.join runtimeDir "handlers/mod.rs" := hjoin (by decide)
  have hhandlers : a.handlerFiles runtimeDir =
      (a.code.handlers.map fun entry => (handlerPath entry.1, entry.2)).map
        (fileIn runtimeDir) := by
    unfold handlerFiles
    rw [List.map_map]
    refine List.map_congr_left fun entry hentry => ?_
    have hname := h.handlers entry.1 (List.mem_map_of_mem hentry)
    have hfile : '/' ∉ (entry.1 ++ ".rs").toList := by simp [hname]
    show PendingFile.mk (Path.join (Path.join runtimeDir "handlers") (entry.1 ++ ".rs")) entry.2 = _
    rw [hjoin hfile, ← String.append_assoc]
    rfl
  unfold outputFiles regenerated codeFiles
  rw [hhandlers, hmodule]
  cases a.code.handlers.isEmpty <;> simp [fileIn]

theorem codeFiles_spec : ∀ entry ∈ a.codeFiles,
    Path.IsPlain entry.1 ∧ ∃ stem, entry.1 = stem ++ ".rs" := by
  intro entry hentry
  have hmodels : Path.IsPlain "models.rs" := by decide
  have hmodule : Path.IsPlain "handlers/mod.rs" := by decide
  rcases List.mem_cons.mp hentry with rfl | hentry
  · exact ⟨hmodels, "models", rfl⟩
  · rcases List.mem_append.mp hentry with hentry | hentry
    · split at hentry
      · cases hentry
      · rw [List.mem_singleton.mp hentry]
        exact ⟨hmodule, "handlers/mod", rfl⟩
    · obtain ⟨handler, hhandler, rfl⟩ := List.mem_map.mp hentry
      have hname := h.handlers handler.1 (List.mem_map_of_mem hhandler)
      exact ⟨Path.isPlain_in (by decide) (by decide) hname (by decide) (by decide), _, rfl⟩

omit h in
theorem handlerPath_injective : Function.Injective handlerPath := by
  intro name name' heq
  have hchars := congrArg String.toList heq
  simp only [handlerPath, String.toList_append] at hchars
  exact String.toList_injective (List.append_cancel_left (List.append_cancel_right hchars))

omit h in
theorem handlerPath_ne_models (name : String) : handlerPath name ≠ "models.rs" := by
  intro heq
  have hhead := congrArg (fun path => path.toList.head?) heq
  simp [handlerPath] at hhead

theorem codeFiles_nodup (hmod : "mod" ∉ a.code.handlers.keys) :
    (a.codeFiles.map (·.1)).Nodup := by
  have hcode : a.codeFiles.map (·.1) = "models.rs" ::
      ((if a.code.handlers.isEmpty then [] else ["mod"]) ++ a.code.handlers.keys).map
        handlerPath := by
    have hmodule : handlerPath "mod" = "handlers/mod.rs" := rfl
    unfold codeFiles Dict.keys
    cases a.code.handlers.isEmpty <;> simp [Function.comp_def, hmodule]
  rw [hcode, List.nodup_cons, List.nodup_map_iff handlerPath_injective]
  constructor
  · intro hmem
    obtain ⟨name, -, heq⟩ := List.mem_map.mp hmem
    exact handlerPath_ne_models name heq
  · split
    · exact h.handlersDistinct
    · exact List.nodup_cons.mpr ⟨hmod, h.handlersDistinct⟩

/-- An output lies below its directory, and has the ending of a template or of code. -/
theorem exists_fileIn {infraDir runtimeDir : String} {file : PendingFile}
    (hfile : file ∈ a.outputFiles infraDir runtimeDir) :
    ∃ dir entry, file = fileIn dir entry ∧ Path.IsPlain entry.1 ∧
      ∃ stem ending, entry.1 = stem ++ ending ∧ (ending = ".yml" ∨ ending = ".rs") := by
  rw [h.outputFiles_eq] at hfile
  rcases List.mem_append.mp hfile with hfile | hfile
  · obtain ⟨entry, hentry, rfl⟩ := List.mem_map.mp hfile
    obtain ⟨hplain, stem, hstem⟩ := h.templates entry.1 (List.mem_map_of_mem hentry)
    exact ⟨_, entry, rfl, hplain, stem, _, hstem, Or.inl rfl⟩
  · obtain ⟨entry, hentry, rfl⟩ := List.mem_map.mp hfile
    obtain ⟨hplain, stem, hstem⟩ := h.codeFiles_spec entry hentry
    exact ⟨_, entry, rfl, hplain, stem, _, hstem, Or.inr rfl⟩

omit h in
theorem places_nodup_of {entries : List (String × String)} (hdistinct : (entries.map (·.1)).Nodup)
    (hplain : ∀ entry ∈ entries, Path.IsPlain entry.1) (dir : String) :
    ((entries.map (fileIn dir)).map PendingFile.place).Nodup := by
  unfold List.Nodup at hdistinct ⊢
  rw [List.pairwise_map] at hdistinct
  rw [List.pairwise_map, List.pairwise_map]
  refine hdistinct.imp_of_mem fun {entry other} hentry hother hne heq => hne ?_
  rw [place_fileIn (hplain entry hentry), place_fileIn (hplain other hother)] at heq
  exact Path.pieces_injective (List.append_cancel_left heq)

theorem places_nodup (hmod : "mod" ∉ a.code.handlers.keys) (infraDir runtimeDir : String) :
    ((a.outputFiles infraDir runtimeDir).map PendingFile.place).Nodup := by
  have htemplates : ∀ entry ∈ a.infrastructure,
      Path.IsPlain entry.1 ∧ ∃ stem, entry.1 = stem ++ ".yml" :=
    fun entry hentry => h.templates entry.1 (List.mem_map_of_mem hentry)
  rw [h.outputFiles_eq, List.map_append, List.nodup_append]
  have hcode : ∀ entry ∈ a.codeFiles, Path.IsPlain entry.1 :=
    fun entry hentry => (h.codeFiles_spec entry hentry).1
  refine ⟨places_nodup_of h.templatesDistinct (fun entry hentry => (htemplates entry hentry).1) _,
    places_nodup_of (h.codeFiles_nodup hmod) hcode _, ?_⟩
  intro p hp p' hp'
  simp only [List.map_map, List.mem_map, Function.comp_apply] at hp hp'
  obtain ⟨entry, hentry, rfl⟩ := hp
  obtain ⟨entry', hentry', rfl⟩ := hp'
  obtain ⟨hplain, stem, hstem⟩ := htemplates entry hentry
  obtain ⟨hplain', stem', hstem'⟩ := h.codeFiles_spec entry' hentry'
  -- The two directories may be one, so it is the endings that keep templates and code apart.
  rw [place_fileIn hplain, place_fileIn hplain', hstem, hstem']
  exact Path.append_pieces_ne (by decide) (by decide) (by decide) (by decide) (by decide) _ _ _ _

/-- The outputs and what is staged beside them are at places of their own. -/
theorem apart (hmod : "mod" ∉ a.code.handlers.keys) (infraDir runtimeDir : String) :
    Apart (a.outputFiles infraDir runtimeDir) := by
  have hplaces := h.places_nodup hmod infraDir runtimeDir
  refine ⟨hplaces, ?_, fun file hfile other hother => ?_⟩
  · unfold List.Nodup at hplaces ⊢
    rw [List.pairwise_map] at hplaces ⊢
    refine hplaces.imp_of_mem fun {file other} hfile hother hne heq => hne ?_
    obtain ⟨dir, entry, rfl, hplain, -⟩ := h.exists_fileIn hfile
    obtain ⟨dir', entry', rfl, hplain', -⟩ := h.exists_fileIn hother
    rw [stagedPlace_fileIn hplain, stagedPlace_fileIn hplain'] at heq
    rw [place_fileIn hplain, place_fileIn hplain']
    exact Path.append_pieces_inj (by decide) heq
  · obtain ⟨dir, entry, rfl, hplain, stem, ending, hstem, hending⟩ := h.exists_fileIn hfile
    obtain ⟨dir', entry', rfl, hplain', -⟩ := h.exists_fileIn hother
    rw [place_fileIn hplain, stagedPlace_fileIn hplain', hstem]
    rcases hending with rfl | rfl
    · exact Path.append_pieces_ne (by decide) (by decide) (by decide) (by decide) (by decide) _ _ _ _
    · exact Path.append_pieces_ne (by decide) (by decide) (by decide) (by decide) (by decide) _ _ _ _

end HasNames

end Artifacts

end Keyspace
