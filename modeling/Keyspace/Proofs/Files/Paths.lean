import Keyspace.Proofs.Files.Trees
import Keyspace.Proofs.Text.Marks

/-!
# Paths cut into pieces

A path joined from a directory and names below it is cut into the pieces of both, so it leads to the
place that the names have below the directory; what its parent names is the directory on the way
there.
-/
namespace Keyspace

namespace Path

variable {path dir rel name : String} {ps : List String}

theorem pieces_eq_splitOn (path : String) :
    pieces path = (path.toList.splitOn '/').map String.ofList := by
  unfold pieces
  rw [Text.splitWhere_eq_splitOn]

theorem pieces_ne_nil (path : String) : pieces path ≠ [] := by
  simp [pieces_eq_splitOn, List.splitOn_ne_nil]

theorem pieces_append_slash (path rest : String) :
    pieces (path ++ "/" ++ rest) = pieces path ++ pieces rest := by
  have htext : (path ++ "/" ++ rest).toList = path.toList ++ '/' :: rest.toList := by
    simp
  simp only [pieces_eq_splitOn]
  rw [htext, List.splitOn_append_cons_self, List.map_append]

theorem pieces_of_not_mem (h : '/' ∉ name.toList) : pieces name = [name] := by
  rw [pieces_eq_splitOn, List.splitOn_eq_singleton h, List.map_singleton, String.ofList_toList]

theorem not_mem_of_mem_pieces (h : name ∈ pieces path) : '/' ∉ name.toList := by
  obtain ⟨piece, hpiece, rfl⟩ := List.mem_map.mp h
  intro hslash
  rw [String.toList_ofList] at hslash
  have hnot := Text.not_separates_of_mem_splitWhere hpiece hslash
  simp at hnot

/-- The pieces tell the path. -/
theorem ofPieces_pieces (path : String) : ofPieces (pieces path) = path := by
  unfold ofPieces
  apply String.toList_injective
  rw [pieces_eq_splitOn, String.toList_intercalate, List.map_map]
  simp [Function.comp_def]

theorem pieces_injective : Function.Injective pieces :=
  Function.LeftInverse.injective ofPieces_pieces

theorem pieces_ofPieces (hne : ps ≠ []) (h : ∀ p ∈ ps, '/' ∉ p.toList) :
    pieces (ofPieces ps) = ps := by
  unfold ofPieces
  induction ps with
  | nil => exact absurd rfl hne
  | cons first rest ih =>
    rw [List.forall_mem_cons] at h
    cases rest with
    | nil => simpa using pieces_of_not_mem h.1
    | cons second rest =>
      rw [String.intercalate_cons_cons, pieces_append_slash, pieces_of_not_mem h.1,
        ih (List.cons_ne_nil _ _) h.2]
      rfl

theorem ofPieces_append (ps : List String) (name rest : String) :
    ofPieces (ps ++ [name]) ++ rest = ofPieces (ps ++ [name ++ rest]) := by
  unfold ofPieces
  induction ps with
  | nil => rw [List.nil_append, List.nil_append, String.intercalate_singleton,
      String.intercalate_singleton]
  | cons first ps ih =>
    have hcut (last : String) : "/".intercalate (first :: (ps ++ [last])) =
        first ++ "/" ++ "/".intercalate (ps ++ [last]) := by
      cases ps with
      | nil => rfl
      | cons second ps => rw [List.cons_append, String.intercalate_cons_cons]
    rw [List.cons_append, List.cons_append, hcut, hcut, String.append_assoc, ih]

/-- A text without slashes lengthens the last piece. -/
theorem pieces_append (h : pieces path = ps ++ [name]) {rest : String} (hrest : '/' ∉ rest.toList) :
    pieces (path ++ rest) = ps ++ [name ++ rest] := by
  have hname : ∀ p ∈ ps ++ [name], '/' ∉ p.toList := by
    intro p hp
    exact not_mem_of_mem_pieces (h ▸ hp)
  rw [← ofPieces_pieces path, h, ofPieces_append]
  refine pieces_ofPieces (by simp) fun p hp => ?_
  rcases List.mem_append.mp hp with hp | hp
  · exact hname p (List.mem_append_left _ hp)
  · rw [List.mem_singleton.mp hp, String.toList_append, List.mem_append, not_or]
    exact ⟨hname name (by simp), hrest⟩

/-! ## Joined paths -/

/-- The pieces of a directory's path; an empty one at the end leads nowhere. -/
def directoryPieces (dir : String) : List String :=
  if dir.toList.getLast?.all (· = '/') then (pieces dir).dropLast else pieces dir

theorem pieces_of_getLast? (h : path.toList.getLast? = some '/') :
    ∃ before, path = before ++ "/" ∧ pieces path = pieces before ++ [""] := by
  obtain ⟨before, hbefore⟩ := List.getLast?_eq_some_iff.mp h
  have hpath : path = String.ofList before ++ "/" := by
    apply String.toList_injective
    rw [hbefore, String.toList_append, String.toList_ofList]
    rfl
  refine ⟨_, hpath, ?_⟩
  have hend : pieces "" = [""] := by decide
  rw [← hend, ← pieces_append_slash, String.append_empty, ← hpath]

theorem pieces_join (h : isAbsolute rel = false) (dir : String) :
    pieces (join dir rel) = directoryPieces dir ++ pieces rel := by
  unfold join directoryPieces
  rw [if_neg (by simp [h])]
  split
  · next hend =>
    cases hlast : dir.toList.getLast? with
    | none =>
      have hdir : dir = "" := String.toList_injective (List.getLast?_eq_none_iff.mp hlast)
      have hpieces : (pieces "").dropLast = [] := by decide
      rw [hdir, hpieces, String.empty_append, List.nil_append]
    | some c =>
      rw [hlast, Option.all_some, decide_eq_true_eq] at hend
      obtain ⟨before, hdir, hpieces⟩ := pieces_of_getLast? (hend ▸ hlast)
      rw [hpieces, List.dropLast_concat, hdir, pieces_append_slash]
  · rw [pieces_append_slash]

theorem isAbsolute_iff : isAbsolute path = true ↔ ∃ rest, rest ≠ [] ∧ pieces path = "" :: rest := by
  unfold isAbsolute
  rw [decide_eq_true_eq, pieces_eq_splitOn]
  cases path.toList with
  | nil => simp [List.splitOn_nil]
  | cons c text =>
    rw [List.head?_cons, List.splitOn_cons_eq_if_modifyHead]
    have hne := List.splitOn_ne_nil '/' text
    by_cases hc : c = '/'
    · simp [hc, hne]
    · rw [if_neg (by simpa using hc)]
      cases hpieces : text.splitOn '/' with
      | nil => exact absurd hpieces hne
      | cons first pieces => simp [hc]

/-- What the last piece is has no say in where a path starts. -/
theorem isAbsolute_congr {path' name' : String} (h : pieces path = ps ++ [name])
    (h' : pieces path' = ps ++ [name']) (hname : name ≠ "") (hname' : name' ≠ "") :
    isAbsolute path = isAbsolute path' := by
  rw [Bool.eq_iff_iff, isAbsolute_iff, isAbsolute_iff, h, h']
  cases ps with
  | nil => simp [hname, hname']
  | cons first rest => simp

theorem isAbsolute_join (h : isAbsolute rel = false) (dir : String) :
    isAbsolute (join dir rel) = isAbsolute dir := by
  unfold join
  rw [if_neg (by simp [h])]
  unfold isAbsolute at h ⊢
  split
  · cases hdir : dir.toList with
    | nil => simpa [hdir] using h
    | cons c text => simp [hdir]
  · next hend =>
    cases hdir : dir.toList with
    | nil => simp [hdir] at hend
    | cons c text => simp [hdir]

/-! ## The way to a path's end -/

theorem steps_of_pieces (h : pieces path = ps ++ [name]) (hname : name ≠ "") :
    steps path = ps.filter (· ≠ "") ++ [name] := by
  have hlast : path.toList.getLast? ≠ some '/' := by
    intro hlast
    obtain ⟨before, -, hpieces⟩ := pieces_of_getLast? hlast
    have hends := congrArg List.getLast? (h.symm.trans hpieces)
    rw [List.getLast?_concat, List.getLast?_concat] at hends
    exact hname (Option.some.inj hends)
  unfold steps
  dsimp only
  rw [if_neg hlast, h, List.filter_append, List.filter_singleton, decide_eq_true hname]
  rfl

theorem trimEnd_of_last (hname : name ≠ "") (hdot : name ≠ ".") :
    trimEnd (ps ++ [name]) = ps ++ [name] := by
  cases ps with
  | nil => rfl
  | cons first rest =>
    rw [List.cons_append, trimEnd, List.reverse_append, List.reverse_singleton,
      List.singleton_append, List.dropWhile_cons_of_neg (by simp [hname, hdot]), List.reverse_cons,
      List.reverse_reverse]

/-- The names among pieces, which lead on. -/
def named (ps : List String) : List String := ps.filter fun p => p ≠ "" ∧ p ≠ "."

theorem mem_named {p : String} : p ∈ named ps ↔ p ∈ ps ∧ p ≠ "" ∧ p ≠ "." := by
  simp [named]

/-- What is cut off at the end leads nowhere. -/
theorem named_trimEnd (ps : List String) : named (trimEnd ps) = named ps := by
  cases ps with
  | nil => rfl
  | cons first rest =>
    -- The first piece always stays; of the others an end of empty pieces and dots is cut off.
    have hrest : rest = (rest.reverse.dropWhile fun p => p = "" || p = ".").reverse ++
        (rest.reverse.takeWhile fun p => p = "" || p = ".").reverse := by
      rw [← List.reverse_append, List.takeWhile_append_dropWhile, List.reverse_reverse]
    have hcut : named (rest.reverse.takeWhile fun p => p = "" || p = ".").reverse = [] := by
      refine List.filter_eq_nil_iff.mpr fun p hp => ?_
      have hlead := List.all_eq_true.mp List.all_takeWhile p (List.mem_reverse.mp hp)
      simp at hlead ⊢
      tauto
    have hall : named rest = named (rest.reverse.dropWhile fun p => p = "" || p = ".").reverse := by
      conv_lhs => rw [hrest]
      rw [named, List.filter_append, ← named, ← named, hcut, List.append_nil]
    rw [trimEnd]
    unfold named at hall ⊢
    rw [List.filter_cons, List.filter_cons, hall]

theorem parent?_eq (h : pieces path = ps ++ [name]) (hname : name ≠ "") (hdot : name ≠ ".") :
    parent? path = some (if ps = [] then "" else if trimEnd ps = [""] then "/"
      else ofPieces (trimEnd ps)) := by
  unfold parent?
  rw [h, trimEnd_of_last hname hdot]
  cases ps with
  | nil =>
    rw [List.nil_append]
    split <;> simp_all
  | cons first rest =>
    rw [if_neg (List.cons_ne_nil _ _)]
    split
    · next heq => cases heq
    · next heq => simp at heq
    · next heq => simp at heq
    · rw [List.dropLast_concat]
      split
      · next heq => rw [if_pos heq]
      · next hne => rw [if_neg fun heq => hne heq]

theorem trimEnd_cons (first : String) (rest : List String) :
    ∃ kept, trimEnd (first :: rest) = first :: kept ∧ kept ⊆ rest := by
  refine ⟨_, rfl, fun p hp => ?_⟩
  exact List.mem_reverse.mp ((List.dropWhile_sublist _).subset (List.mem_reverse.mp hp))

theorem named_filter (ps : List String) : named (ps.filter (· ≠ "")) = named ps := by
  unfold named
  rw [List.filter_filter]
  refine List.filter_congr fun p _ => ?_
  by_cases hp : p = "" <;> simp [hp]

theorem named_steps (path : String) : named (steps path) = named (pieces path) := by
  unfold steps
  dsimp only
  split
  · have hdot : named ["."] = [] := rfl
    rw [named, List.filter_append, ← named, ← named, named_filter, hdot, List.append_nil]
  · exact named_filter _

theorem pieces_ofPieces_trimEnd (h : pieces path = ps ++ [name]) (hne : ps ≠ []) :
    pieces (ofPieces (trimEnd ps)) = trimEnd ps := by
  obtain ⟨first, rest, rfl⟩ := List.exists_cons_of_ne_nil hne
  obtain ⟨kept, hkept, hsub⟩ := trimEnd_cons first rest
  rw [hkept]
  refine pieces_ofPieces (List.cons_ne_nil _ _) fun p hp => ?_
  have hmem : p ∈ first :: rest := List.cons_subset_cons first hsub hp
  exact not_mem_of_mem_pieces (h ▸ List.mem_append_left _ hmem)

/-- What a path's parent names is on the way to the end of the path. -/
theorem parent?_of_pieces (h : pieces path = ps ++ [name]) (hname : name ≠ "") (hdot : name ≠ ".") :
    ∃ dir, parent? path = some dir ∧ isAbsolute dir = isAbsolute path ∧
      named (steps dir) = named ps := by
  refine ⟨_, parent?_eq h hname hdot, ?_⟩
  cases ps with
  | nil =>
    rw [if_pos rfl]
    refine ⟨Bool.eq_iff_iff.mpr ?_, rfl⟩
    rw [isAbsolute_iff, isAbsolute_iff, h, pieces_of_not_mem (by decide)]
    simp [hname]
  | cons first rest =>
    rw [if_neg (List.cons_ne_nil _ _)]
    obtain ⟨kept, hkept, -⟩ := trimEnd_cons first rest
    have hnamed := named_trimEnd (first :: rest)
    have hpath : isAbsolute path = true ↔ first = "" := by
      rw [isAbsolute_iff, h]
      simp
    split
    · next heq =>
      rw [heq] at hkept hnamed
      obtain ⟨hfirst, -⟩ := List.cons.inj hkept
      refine ⟨?_, hnamed⟩
      rw [hpath.mpr hfirst.symm]
      rfl
    · next hne =>
      have hpieces := pieces_ofPieces_trimEnd h (List.cons_ne_nil first rest)
      have hmore : first = "" → kept ≠ [] := by
        rintro rfl rfl
        exact hne hkept
      refine ⟨Bool.eq_iff_iff.mpr ?_, by rw [named_steps, hpieces, hnamed]⟩
      rw [hpath, isAbsolute_iff, hpieces, hkept]
      constructor
      · rintro ⟨more, -, heq⟩
        exact (List.cons.inj heq).1
      · intro hfirst
        exact ⟨kept, hmore hfirst, by rw [hfirst]⟩

theorem ne_empty_of_mem_steps {p : String} (h : p ∈ steps path) : p ≠ "" := by
  unfold steps at h
  dsimp only at h
  split at h
  · rcases List.mem_append.mp h with h | h
    · exact of_decide_eq_true (List.mem_filter.mp h).2
    · rw [List.mem_singleton.mp h]
      decide
  · exact of_decide_eq_true (List.mem_filter.mp h).2

/-- The steps of a path's parent are steps of the path, but for those that stay. -/
theorem mem_steps_of_parent? (h : pieces path = ps ++ [name]) (hname : name ≠ "") (hdot : name ≠ ".")
    (hparent : parent? path = some dir) {p : String} (hp : p ∈ steps dir) :
    p = "." ∨ p ∈ ps.filter (· ≠ "") := by
  obtain ⟨dir', hdir, -, hnamed⟩ := parent?_of_pieces h hname hdot
  cases hparent.symm.trans hdir
  by_cases hstays : p = "."
  · exact Or.inl hstays
  · have hmem : p ∈ named (steps dir) := mem_named.mpr ⟨hp, ne_empty_of_mem_steps hp, hstays⟩
    rw [hnamed, mem_named] at hmem
    exact Or.inr (List.mem_filter.mpr ⟨hmem.1, decide_eq_true hmem.2.1⟩)

end Path

namespace Place

variable {place : Place} {steps : List String}

/-- Steps that stay lead nowhere new. -/
theorem mem_passed_of_mem_named (hne : "" ∉ steps) {p : Place}
    (h : p ∈ place.passed (Path.named steps)) : p ∈ place.passed steps := by
  induction steps generalizing place with
  | nil => exact h
  | cons step steps ih =>
    rw [List.mem_cons, not_or] at hne
    by_cases hdot : step = "."
    · subst hdot
      exact List.mem_cons_of_mem _ (ih hne.2 h)
    · have hnamed : Path.named (step :: steps) = step :: Path.named steps :=
        List.filter_cons_of_pos (by simp [hdot, Ne.symm hne.1])
      rw [hnamed] at h
      rcases List.mem_cons.mp h with h | h
      · exact h ▸ List.mem_cons_self
      · exact List.mem_cons_of_mem _ (ih hne.2 h)

theorem mem_passed_named (hne : "" ∉ steps) {p : Place} (h : p ∈ place.passed steps) :
    p = place ∨ p ∈ place.passed (Path.named steps) := by
  induction steps generalizing place with
  | nil => cases h
  | cons step steps ih =>
    rw [List.mem_cons, not_or] at hne
    by_cases hdot : step = "."
    · subst hdot
      rcases List.mem_cons.mp h with h | h
      · exact Or.inl h
      · exact ih hne.2 h
    · have hnamed : Path.named (step :: steps) = step :: Path.named steps :=
        List.filter_cons_of_pos (by simp [hdot, Ne.symm hne.1])
      rw [hnamed]
      rcases List.mem_cons.mp h with h | h
      · exact Or.inr (h ▸ List.mem_cons_self)
      · rcases ih hne.2 h with h | h
        · exact Or.inr (h ▸ List.mem_cons_self)
        · exact Or.inr (List.mem_cons_of_mem _ h)

/-- A way ends where its steps lead. -/
theorem follow_mem (place : Place) (steps : List String) :
    place.follow steps = place ∨ place.follow steps ∈ place.passed steps := by
  induction steps generalizing place with
  | nil => exact Or.inl rfl
  | cons step steps ih =>
    rw [follow_cons, passed]
    rcases ih (place.next step) with h | h
    · rw [h]
      exact Or.inr List.mem_cons_self
    · exact Or.inr (List.mem_cons_of_mem _ h)

/-- Names lead further down. -/
theorem follow_names (h : ∀ p ∈ steps, p ≠ "." ∧ p ≠ "..") : place.follow steps = place ++ steps := by
  induction steps generalizing place with
  | nil => exact (List.append_nil place).symm
  | cons step steps ih =>
    rw [List.forall_mem_cons] at h
    have hnext : place.next step = place ++ [step] := by
      unfold next
      rw [if_neg h.1.1, if_neg h.1.2]
    rw [follow_cons, hnext, ih h.2, List.append_assoc]
    rfl

/-- The place of a directory. -/
def below (dir : String) : Place := (start dir).follow ((Path.directoryPieces dir).filter (· ≠ ""))

end Place

namespace Path

/-- All pieces of a path are names. -/
def IsPlain (path : String) : Prop := ∀ p ∈ pieces path, p ≠ "" ∧ p ≠ "." ∧ p ≠ ".."

instance (path : String) : Decidable (IsPlain path) :=
  inferInstanceAs (Decidable (∀ p ∈ pieces path, p ≠ "" ∧ p ≠ "." ∧ p ≠ ".."))

theorem IsPlain.not_absolute (h : IsPlain rel) : isAbsolute rel = false := by
  by_contra habsolute
  obtain ⟨rest, -, hpieces⟩ := isAbsolute_iff.mp (by simpa using habsolute)
  exact (h "" (hpieces ▸ List.mem_cons_self)).1 rfl

theorem exists_pieces_eq (path : String) : ∃ ps name, pieces path = ps ++ [name] :=
  ⟨_, _, (List.dropLast_concat_getLast (pieces_ne_nil path)).symm⟩

/-- Names below a directory lead to the place that they have there. -/
theorem ofPath_join (h : IsPlain rel) (dir : String) :
    Place.ofPath (join dir rel) = Place.below dir ++ pieces rel := by
  obtain ⟨ps, name, hpieces⟩ := exists_pieces_eq rel
  have hjoin : pieces (join dir rel) = (directoryPieces dir ++ ps) ++ [name] := by
    rw [pieces_join h.not_absolute, hpieces, List.append_assoc]
  have hname : name ≠ "" := (h name (by simp [hpieces])).1
  have hnames : ps.filter (· ≠ "") ++ [name] = pieces rel := by
    rw [hpieces, List.filter_eq_self.mpr fun p hp => ?_]
    exact decide_eq_true (h p (by simp [hpieces, hp])).1
  have hstart : Place.start (join dir rel) = Place.start dir := by
    unfold Place.start
    rw [isAbsolute_join h.not_absolute]
  unfold Place.ofPath
  rw [steps_of_pieces hjoin hname, List.filter_append, List.append_assoc, hnames,
    Place.follow_append, hstart]
  exact Place.follow_names fun p hp => (h p hp).2

theorem join_append (h : isAbsolute rel = false) {rest : String} (hne : rel ≠ "") (dir : String) :
    join dir rel ++ rest = join dir (rel ++ rest) := by
  have habsolute : isAbsolute (rel ++ rest) = false := by
    unfold isAbsolute at h ⊢
    cases hrel : rel.toList with
    | nil => exact absurd (String.toList_injective hrel) hne
    | cons c text => simpa [hrel] using h
  unfold join
  simp only [h, habsolute, Bool.false_eq_true, if_false]
  split <;> simp only [String.append_assoc]

/-- A directory in a directory is gone through by one path. -/
theorem join_join {inner : String} (hne : inner ≠ "") (hinner : isAbsolute inner = false)
    (hlast : inner.toList.getLast? ≠ some '/') (hrel : isAbsolute rel = false) (dir : String) :
    join (join dir inner) rel = join dir (inner ++ "/" ++ rel) := by
  have hchars : inner.toList ≠ [] := fun heq => hne (String.toList_injective heq)
  have hend : (join dir inner).toList.getLast? = inner.toList.getLast? := by
    unfold join
    simp only [hinner, Bool.false_eq_true, if_false]
    split <;> rw [String.toList_append, List.getLast?_append_of_ne_nil _ hchars]
  have houter : join (join dir inner) rel = join dir inner ++ ("/" ++ rel) := by
    conv_lhs => rw [join]
    rw [hend]
    cases hinnerLast : inner.toList.getLast? with
    | none => exact absurd (List.getLast?_eq_none_iff.mp hinnerLast) hchars
    | some c =>
      have hc : c ≠ '/' := fun heq => hlast (heq ▸ hinnerLast)
      simp [hrel, hc, String.append_assoc]
  rw [houter, join_append hinner hne, String.append_assoc]

/-- Two files with different endings are at different places. -/
theorem append_pieces_ne {ending ending' : String} (h : '/' ∉ ending.toList)
    (h' : '/' ∉ ending'.toList) (hne : ending ≠ "") (hne' : ending' ≠ "")
    (hlast : ending.toList.getLast? ≠ ending'.toList.getLast?) (stem stem' : String)
    (place place' : Place) : place ++ pieces (stem ++ ending) ≠ place' ++ pieces (stem' ++ ending') := by
  obtain ⟨ps, name, hpieces⟩ := exists_pieces_eq stem
  obtain ⟨ps', name', hpieces'⟩ := exists_pieces_eq stem'
  rw [pieces_append hpieces h, pieces_append hpieces' h', ← List.append_assoc, ← List.append_assoc]
  intro heq
  have hends := congrArg List.getLast? heq
  rw [List.getLast?_concat, List.getLast?_concat] at hends
  have hchars := congrArg (fun text => text.toList.getLast?) (Option.some.inj hends)
  have hnil : ending.toList ≠ [] := fun hnil => hne (String.toList_injective hnil)
  have hnil' : ending'.toList ≠ [] := fun hnil => hne' (String.toList_injective hnil)
  simp only [String.toList_append] at hchars
  rw [List.getLast?_append_of_ne_nil _ hnil, List.getLast?_append_of_ne_nil _ hnil'] at hchars
  exact hlast hchars

/-- What is beside two files is at different places if they are. -/
theorem append_pieces_inj {rest path path' : String} (hrest : '/' ∉ rest.toList)
    {place place' : Place}
    (h : place ++ pieces (path ++ rest) = place' ++ pieces (path' ++ rest)) :
    place ++ pieces path = place' ++ pieces path' := by
  obtain ⟨ps, name, hpieces⟩ := exists_pieces_eq path
  obtain ⟨ps', name', hpieces'⟩ := exists_pieces_eq path'
  rw [pieces_append hpieces hrest, pieces_append hpieces' hrest, ← List.append_assoc,
    ← List.append_assoc] at h
  obtain ⟨hways, hnames⟩ := List.append_inj' h rfl
  have hchars := congrArg String.toList (List.cons.inj hnames).1
  rw [String.toList_append, String.toList_append] at hchars
  have hname : name = name' := String.toList_injective (List.append_cancel_right hchars)
  rw [hpieces, hpieces', ← List.append_assoc, ← List.append_assoc, hways, hname]

end Path

end Keyspace
