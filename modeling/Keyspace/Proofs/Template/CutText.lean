import Keyspace.Proofs.Text.Marks
import Keyspace.Template.Wiring

/-!
# Texts cut at their variables

A text of `Fn::Sub` is cut into its holes, each with what stands before it, and the rest. A
hole begins at the first `${` and ends at the first `}` after it. Replacing a variable in a
text replaces it in each hole, since no other part of the text can hold one; but it does so in
a hole that only ends like the variable, too.
-/
namespace Keyspace

open Text

/-- What opens a hole. -/
def opening : List Char := ['$', '\x7b']

/-- A text cut at its holes: what stands before each and inside it, and the rest. -/
structure CutText where
  holes : List (List Char × List Char)
  rest : List Char

namespace CutText

/-- Cuts a text at `fuel` holes at most. -/
def cutFrom : (fuel : Nat) → List Char → CutText
  | 0, text => ⟨[], text⟩
  | fuel + 1, text =>
    match splitAtMark? opening text with
    | none => ⟨[], text⟩
    | some (before, after) =>
      match splitAtMark? ['\x7d'] after with
      | none => ⟨[], text⟩
      | some (inside, rest) =>
        let cut := cutFrom fuel rest
        ⟨(before, inside) :: cut.holes, cut.rest⟩

def ofText (text : List Char) : CutText := cutFrom (text.length + 1) text

/-- A hole as it is written. -/
def written (inside : List Char) : List Char := opening ++ inside ++ ['\x7d']

/-- The text that was cut. -/
def join (c : CutText) : List Char :=
  c.holes.foldr (fun hole text => hole.1 ++ written hole.2 ++ text) c.rest

/-- Changes what is inside the holes. -/
def mapHoles (f : List Char → List Char) (c : CutText) : CutText :=
  ⟨c.holes.map fun hole => (hole.1, f hole.2), c.rest⟩

/-- The holes are those that cutting finds. -/
structure IsCut (c : CutText) : Prop where
  before : ∀ hole ∈ c.holes, ∀ text after, hole.1 ≠ text ++ opening ++ after
  inside : ∀ hole ∈ c.holes, '\x7d' ∉ hole.2
  rest : ∀ text after, c.rest = text ++ opening ++ after → '\x7d' ∉ after

theorem join_cutFrom (fuel : Nat) (text : List Char) : (cutFrom fuel text).join = text := by
  induction fuel generalizing text with
  | zero => rfl
  | succ fuel ih =>
    unfold cutFrom
    split
    · rfl
    · next before after hopening =>
      split
      · rfl
      · next inside rest hclosing =>
        show before ++ written inside ++ (cutFrom fuel rest).join = text
        rw [ih, splitAtMark?_append hopening, splitAtMark?_append hclosing, written]
        simp

@[simp] theorem join_ofText (text : List Char) : (ofText text).join = text := join_cutFrom _ _

/-- Behind a hole there is less text. -/
theorem length_lt_of_hole {text before after inside rest : List Char}
    (hopening : splitAtMark? opening text = some (before, after))
    (hclosing : splitAtMark? ['\x7d'] after = some (inside, rest)) : rest.length < text.length := by
  rw [splitAtMark?_append hopening, splitAtMark?_append hclosing]
  simp only [List.length_append, List.length_cons, opening]
  omega

/-- Nothing closes behind the first opening of a text that has no hole. -/
theorem not_mem_of_unclosed {text before after : List Char}
    (hopening : splitAtMark? opening text = some (before, after)) (hclosing : '\x7d' ∉ after)
    {before' after' : List Char} (h : text = before' ++ opening ++ after') : '\x7d' ∉ after' := by
  have htext := splitAtMark?_append hopening
  have hleast := splitAtMark?_least hopening h
  have hlength : after'.length ≤ after.length := by
    have hsame := congrArg List.length (htext.symm.trans h)
    simp only [List.length_append] at hsame
    omega
  have hdrop : after' <:+ after :=
    List.suffix_of_suffix_length_le ⟨_, h.symm⟩ ⟨_, htext.symm⟩ hlength
  exact fun hmem => hclosing (hdrop.subset hmem)

theorem isCut_cutFrom {fuel : Nat} {text : List Char} (h : text.length < fuel) :
    IsCut (cutFrom fuel text) := by
  induction fuel generalizing text with
  | zero => omega
  | succ fuel ih =>
    unfold cutFrom
    split
    · next hnone =>
      exact ⟨by simp, by simp, fun before after heq =>
        absurd heq (splitAtMark?_eq_none.mp hnone before after)⟩
    · next before after hopening =>
      split
      · next hnone =>
        exact ⟨by simp, by simp, fun _ _ heq =>
          not_mem_of_unclosed hopening (splitAtMark?_singleton_eq_none.mp hnone) heq⟩
      · next inside rest hclosing =>
        have hless := length_lt_of_hole hopening hclosing
        have hlength : rest.length < fuel := by omega
        have hcut := ih hlength
        have hbefore := ne_of_splitAtMark? hopening (List.cons_ne_nil _ _)
        exact ⟨List.forall_mem_cons.mpr ⟨hbefore, hcut.before⟩,
          List.forall_mem_cons.mpr ⟨not_mem_of_splitAtMark?_singleton hclosing, hcut.inside⟩,
          hcut.rest⟩

theorem isCut_ofText (text : List Char) : IsCut (ofText text) := isCut_cutFrom (Nat.lt_succ_self _)

/-- A text without an opening cannot hold the beginning of one that follows it. -/
theorem exists_append_of_opening {before text after after' : List Char}
    (hbefore : ∀ text after, before ≠ text ++ opening ++ after)
    (h : text ++ opening ++ after = before ++ opening ++ after') : ∃ w, text = before ++ w := by
  rw [List.append_assoc, List.append_assoc, List.append_eq_append_iff] at h
  rcases h with ⟨w, hw, h⟩ | ⟨w, hw, -⟩
  · match w, hw, h with
    | [], hw, _ => exact ⟨[], by simp [hw]⟩
    | [c], hw, h => simp [opening] at h
    | c :: d :: w, hw, h =>
      simp only [opening, List.cons_append, List.cons.injEq] at h
      refine absurd ?_ (hbefore text w)
      rw [hw, ← h.1, ← h.2.1]
      simp [opening]
  · exact ⟨w, hw⟩

/-- Where a variable stands in a text that begins with a hole: at the end of the hole, or
after it. -/
theorem written_eq {before inside name text after later : List Char}
    (hbefore : ∀ text after, before ≠ text ++ opening ++ after) (hinside : '\x7d' ∉ inside)
    (hname : '\x7d' ∉ name) (h : text ++ written name ++ after = before ++ written inside ++ later) :
    (∃ w, text = before ++ w ∧ w ++ opening ++ name = opening ++ inside ∧ after = later) ∨
      ∃ w, text = before ++ written inside ++ w ∧ w ++ written name ++ after = later := by
  have hopening : text ++ opening ++ (name ++ ['\x7d'] ++ after) =
      before ++ opening ++ (inside ++ ['\x7d'] ++ later) := by
    simpa [written] using h
  obtain ⟨w, rfl⟩ := exists_append_of_opening hbefore hopening
  have hw : w ++ (opening ++ name ++ '\x7d' :: after) =
      (opening ++ inside ++ ['\x7d']) ++ later := by
    simpa [written] using h
  rw [List.append_eq_append_iff] at hw
  rcases hw with ⟨a, ha, hafter⟩ | ⟨a, ha, hafter⟩
  · rcases List.eq_nil_or_concat' a with rfl | ⟨a, c, rfl⟩
    · rw [List.append_nil] at ha
      refine Or.inr ⟨[], by simp [written, ← ha], ?_⟩
      simpa [written] using hafter
    · rw [← List.append_assoc] at ha
      obtain ⟨hopened, hc⟩ := List.append_inj' ha rfl
      cases hc
      have hnot : '\x7d' ∉ opening ++ name := by simp [opening, hname]
      have hnot' : '\x7d' ∉ a := fun hmem => by
        have hin : '\x7d' ∈ opening ++ inside := by rw [hopened]; simp [hmem]
        simp [opening, hinside] at hin
      rw [List.append_assoc a, List.singleton_append] at hafter
      obtain ⟨rfl, rfl⟩ := append_cons_inj hnot hnot' hafter
      exact Or.inl ⟨w, rfl, by rw [hopened, List.append_assoc], rfl⟩
  · refine Or.inr ⟨a, by rw [ha]; simp [written], ?_⟩
    rw [hafter]
    simp [written]

theorem splitAtMark?_opening {before after : List Char}
    (hbefore : ∀ text after, before ≠ text ++ opening ++ after) :
    splitAtMark? opening (before ++ opening ++ after) = some (before, after) := by
  refine splitAtMark?_eq_some_of_least fun before' after' h => ?_
  obtain ⟨w, rfl⟩ := exists_append_of_opening hbefore h.symm
  simp

/-- Cutting finds the holes that a text was joined from. -/
theorem cutFrom_join {fuel : Nat} {c : CutText} (hc : IsCut c) (h : c.holes.length < fuel) :
    cutFrom fuel c.join = c := by
  obtain ⟨holes, rest⟩ := c
  induction holes generalizing fuel with
  | nil =>
    obtain ⟨fuel, rfl⟩ : ∃ n, fuel = n + 1 := ⟨fuel - 1, by simp at h; omega⟩
    show cutFrom (fuel + 1) rest = _
    unfold cutFrom
    split
    · rfl
    · next before after hopening =>
      have hnot := hc.rest before after (splitAtMark?_append hopening)
      rw [splitAtMark?_singleton_eq_none.mpr hnot]
  | cons hole holes ih =>
    obtain ⟨before, inside⟩ := hole
    have hlater : IsCut ⟨holes, rest⟩ :=
      ⟨fun hole hhole => hc.before hole (List.mem_cons_of_mem _ hhole),
        fun hole hhole => hc.inside hole (List.mem_cons_of_mem _ hhole), hc.rest⟩
    simp only [List.length_cons] at h
    obtain ⟨fuel, rfl⟩ : ∃ n, fuel = n + 1 := ⟨fuel - 1, by omega⟩
    have hjoin : join ⟨(before, inside) :: holes, rest⟩ =
        before ++ opening ++ (inside ++ '\x7d' :: join ⟨holes, rest⟩) := by
      simp [join, written]
    rw [hjoin]
    unfold cutFrom
    rw [splitAtMark?_opening (hc.before _ List.mem_cons_self)]
    dsimp only
    rw [splitAtMark?_singleton (hc.inside (before, inside) List.mem_cons_self)]
    dsimp only
    rw [ih hlater (by simp only; omega)]

theorem length_holes_le (c : CutText) : c.holes.length ≤ c.join.length := by
  obtain ⟨holes, rest⟩ := c
  induction holes with
  | nil => exact Nat.zero_le _
  | cons hole holes ih =>
    have hjoin : join ⟨hole :: holes, rest⟩ = hole.1 ++ written hole.2 ++ join ⟨holes, rest⟩ := rfl
    rw [hjoin]
    simp only [List.length_cons, List.length_append, written, opening] at ih ⊢
    omega

theorem ofText_join {c : CutText} (hc : IsCut c) : ofText c.join = c :=
  cutFrom_join hc (Nat.lt_succ_of_le (length_holes_le c))

/-! ## Replacing a variable -/

/-- No hole holds the opening of another. -/
def IsPlain (c : CutText) : Prop := ∀ hole ∈ c.holes, splitAtMark? opening hole.2 = none

instance (c : CutText) : Decidable c.IsPlain :=
  inferInstanceAs (Decidable (∀ hole ∈ c.holes, splitAtMark? opening hole.2 = none))

/-- A hole without another opening ends like a variable only if it is that variable. -/
theorem eq_of_ends_like {inside name w : List Char} (hplain : splitAtMark? opening inside = none)
    (h : w ++ opening ++ name = opening ++ inside) : name = inside := by
  rw [splitAtMark?_eq_none] at hplain
  match w, h with
  | [], h => simpa [opening] using h
  | [c], h => simp [opening] at h
  | c :: d :: w, h =>
    simp only [opening, List.cons_append, List.cons.injEq, List.nil_append] at h
    exact absurd h.2.2.symm (hplain w name)

section Replace

variable {before inside name later : List Char}
  (hbefore : ∀ text after, before ≠ text ++ opening ++ after) (hname : '\x7d' ∉ name)

include hbefore hname

theorem splitAtMark?_written_self :
    splitAtMark? (written name) (before ++ written name ++ later) = some (before, later) := by
  refine splitAtMark?_eq_some_of_least fun before' after' h => ?_
  rcases written_eq hbefore hname hname h.symm with ⟨w, rfl, -, -⟩ | ⟨w, rfl, -⟩
  · simp
  · simp only [List.length_append]
    omega

/-- A variable does not stand in a hole of another name, so it is looked for behind it. -/
theorem splitAtMark?_written_other (hinside : '\x7d' ∉ inside)
    (hplain : splitAtMark? opening inside = none) (hne : inside ≠ name) :
    splitAtMark? (written name) (before ++ written inside ++ later) =
      (splitAtMark? (written name) later).map fun parts =>
        (before ++ written inside ++ parts.1, parts.2) := by
  have hbehind {text after : List Char}
      (h : before ++ written inside ++ later = text ++ written name ++ after) :
      ∃ w, text = before ++ written inside ++ w ∧ w ++ written name ++ after = later := by
    rcases written_eq hbefore hinside hname h.symm with ⟨w, -, hends, -⟩ | hbehind
    · exact absurd (eq_of_ends_like hplain hends).symm hne
    · exact hbehind
  cases hlater : splitAtMark? (written name) later with
  | none =>
    refine splitAtMark?_eq_none.mpr fun text after h => ?_
    obtain ⟨w, -, hw⟩ := hbehind h
    exact splitAtMark?_eq_none.mp hlater w after hw.symm
  | some parts =>
    obtain ⟨first, rest⟩ := parts
    have htext : before ++ written inside ++ later =
        before ++ written inside ++ first ++ written name ++ rest := by
      rw [splitAtMark?_append hlater]
      simp
    rw [htext]
    refine splitAtMark?_eq_some_of_least fun text after h => ?_
    obtain ⟨w, rfl, hw⟩ := hbehind (htext.trans h)
    have hleast := splitAtMark?_least hlater hw.symm
    simp only [List.length_append]
    omega

end Replace

/-- Gives a hole of one name another. -/
def rename (name replacement inside : List Char) : List Char :=
  if inside = name then replacement else inside

open Stacks in
theorem replaceMark_append {mark replacement before text : List Char}
    (h : splitAtMark? mark (before ++ text) =
      (splitAtMark? mark text).map fun parts => (before ++ parts.1, parts.2)) (fuel : Nat) :
    replaceMark mark replacement (fuel + 1) (before ++ text) =
      before ++ replaceMark mark replacement (fuel + 1) text := by
  unfold replaceMark
  rw [h]
  cases splitAtMark? mark text with
  | none => rfl
  | some parts => simp

open Stacks in
/-- Replacing a variable in a text renames its holes of that name. -/
theorem replaceMark_join {name : List Char} (hname : '\x7d' ∉ name) (replacement : List Char)
    {c : CutText} (hc : IsCut c) (hplain : c.IsPlain) {fuel : Nat} (h : c.holes.length < fuel) :
    replaceMark (written name) (written replacement) fuel c.join =
      (c.mapHoles (rename name replacement)).join := by
  obtain ⟨holes, rest⟩ := c
  induction holes generalizing fuel with
  | nil =>
    obtain ⟨fuel, rfl⟩ : ∃ n, fuel = n + 1 := ⟨fuel - 1, by simp at h; omega⟩
    have hnone : splitAtMark? (written name) rest = none := by
      refine splitAtMark?_eq_none.mpr fun before after heq => ?_
      have hopening : rest = before ++ opening ++ (name ++ ['\x7d'] ++ after) := by
        rw [heq]
        simp [written]
      exact hc.rest _ _ hopening (by simp)
    show replaceMark (written name) (written replacement) (fuel + 1) rest = rest
    unfold replaceMark
    rw [hnone]
  | cons hole holes ih =>
    obtain ⟨before, inside⟩ := hole
    have hbefore := hc.before _ List.mem_cons_self
    have hinside := hc.inside (before, inside) List.mem_cons_self
    have hlater : IsCut ⟨holes, rest⟩ :=
      ⟨fun hole hhole => hc.before hole (List.mem_cons_of_mem _ hhole),
        fun hole hhole => hc.inside hole (List.mem_cons_of_mem _ hhole), hc.rest⟩
    have hplainLater : IsPlain ⟨holes, rest⟩ :=
      fun hole hhole => hplain hole (List.mem_cons_of_mem _ hhole)
    simp only [List.length_cons] at h
    obtain ⟨fuel, rfl⟩ : ∃ n, fuel = n + 1 := ⟨fuel - 1, by omega⟩
    have hjoin (holes : List (List Char × List Char)) (inside : List Char) :
        join ⟨(before, inside) :: holes, rest⟩ = before ++ written inside ++ join ⟨holes, rest⟩ := rfl
    have hmap : mapHoles (rename name replacement) ⟨(before, inside) :: holes, rest⟩ =
        ⟨(before, rename name replacement inside) ::
          (mapHoles (rename name replacement) ⟨holes, rest⟩).holes, rest⟩ := rfl
    rw [hjoin, hmap, hjoin]
    by_cases heq : inside = name
    · subst heq
      unfold replaceMark
      rw [splitAtMark?_written_self hbefore hname]
      dsimp only
      rw [ih hlater hplainLater (by simp only; omega), rename, if_pos rfl]
      rfl
    · rw [replaceMark_append (splitAtMark?_written_other hbefore hname hinside
        (hplain _ List.mem_cons_self) heq), ih hlater hplainLater (by simp only; omega), rename,
        if_neg heq]
      rfl

theorem IsCut.mapHoles {c : CutText} (hc : IsCut c) {f : List Char → List Char}
    (hf : ∀ hole ∈ c.holes, '\x7d' ∉ f hole.2) : IsCut (c.mapHoles f) where
  before := by
    simp only [CutText.mapHoles, List.forall_mem_map]
    exact hc.before
  inside := by
    simp only [CutText.mapHoles, List.forall_mem_map]
    exact hf
  rest := hc.rest

theorem IsPlain.mapHoles {c : CutText} {f : List Char → List Char}
    (hf : ∀ hole ∈ c.holes, splitAtMark? opening (f hole.2) = none) : (c.mapHoles f).IsPlain := by
  simp only [IsPlain, CutText.mapHoles, List.forall_mem_map]
  exact hf

theorem mapHoles_mapHoles (f g : List Char → List Char) (c : CutText) :
    (c.mapHoles f).mapHoles g = c.mapHoles (g ∘ f) := by
  simp [mapHoles]

end CutText

end Keyspace
