import Mathlib.Algebra.BigOperators.Group.List.Basic
import Mathlib.Algebra.GroupWithZero.Nat
import Mathlib.Data.List.Forall2

/-!
# Texts joined with a mark

Keys join texts with `#`, and the texts may have that mark themselves. It is the number of marks
in each of them that tells where they are joined.
-/
namespace Keyspace.Text

/-- How many marks a text has. -/
def markCount (text : String) : Nat := text.toList.count '#'

/-- The texts with a mark between each two. -/
def joined (texts : List String) : String := "#".intercalate texts

@[simp] theorem joined_singleton (text : String) : joined [text] = text :=
  String.intercalate_singleton

theorem joined_cons_cons (text next : String) (rest : List String) :
    joined (text :: next :: rest) = text ++ "#" ++ joined (next :: rest) :=
  String.intercalate_cons_cons

@[simp] theorem markCount_append (text more : String) :
    markCount (text ++ more) = markCount text + markCount more := by
  simp [markCount]

theorem markCount_joined (texts : List String) :
    markCount (joined texts) = (texts.map markCount).sum + (texts.length - 1) := by
  induction texts with
  | nil => rfl
  | cons text rest ih =>
    cases rest with
    | nil => simp
    | cons next rest =>
      have hmark : markCount "#" = 1 := by decide
      simp only [joined_cons_cons, markCount_append, ih, hmark, List.map_cons, List.sum_cons,
        List.length_cons]
      omega

/-- A text of joined texts is joined from all of them. -/
theorem joined_joined (groups : List (List String)) (h : ∀ texts ∈ groups, texts ≠ []) :
    joined (groups.map joined) = joined groups.flatten := by
  induction groups with
  | nil => rfl
  | cons texts groups ih =>
    obtain ⟨hfirst, hrest⟩ := List.forall_mem_cons.mp h
    cases groups with
    | nil => simp
    | cons next groups =>
      have hflat : (next :: groups).flatten ≠ [] := by
        simp [hrest next List.mem_cons_self]
      rw [List.map_cons, List.map_cons, joined_cons_cons, ← List.map_cons, ih hrest,
        List.flatten_cons]
      exact (String.intercalate_append_of_ne_nil hfirst hflat).symm

/-- A joined text among others stands for the texts that it is joined from. -/
theorem joined_insert {texts : List String} (h : texts ≠ []) (before after : List String) :
    joined (before ++ joined texts :: after) = joined (before ++ texts ++ after) := by
  have hmap (texts : List String) : (texts.map fun text => [text]).map joined = texts := by
    simp [Function.comp_def]
  have hflat (texts : List String) : (texts.map fun text => [text]).flatten = texts := by
    induction texts with
    | nil => rfl
    | cons text rest ih => simp [ih]
  have hgroups := joined_joined ((before.map fun text => [text]) ++
    texts :: after.map fun text => [text]) (by simp [or_imp, forall_and, h])
  rw [List.map_append, List.map_cons, hmap, hmap, List.flatten_append, List.flatten_cons, hflat,
    hflat, ← List.append_assoc] at hgroups
  exact hgroups

/-- The texts joined, with a mark at each end. -/
def flanked (texts : List String) : String := joined ("" :: (texts ++ [""]))

theorem flanked_ne_empty (texts : List String) : flanked texts ≠ "" := by
  intro hempty
  have hcount := markCount_joined ("" :: (texts ++ [""]))
  rw [← flanked, hempty, List.length_cons, List.length_append, List.length_singleton] at hcount
  have hnone : markCount "" = 0 := rfl
  omega

/-- The texts between two empty ones can go to either of them, with the marks around them. -/
theorem joined_shift (before between after : List String) :
    joined (before ++ "" :: (between ++ flanked between :: after)) =
      joined (before ++ flanked between :: (between ++ "" :: after)) := by
  have hne : ("" :: (between ++ [""])) ≠ [] := by simp
  have hfirst := joined_insert hne (before ++ "" :: between) after
  have hlast := joined_insert hne before (between ++ "" :: after)
  simp only [List.append_assoc, List.cons_append, List.nil_append] at hfirst hlast
  rw [flanked, hfirst, hlast]

/-- The mark at which two texts are joined is found by the number of marks before it. -/
theorem append_mark_inj {before before' after after' : List Char}
    (hcount : before.count '#' = before'.count '#')
    (h : before ++ '#' :: after = before' ++ '#' :: after') :
    before = before' ∧ after = after' := by
  induction before generalizing before' with
  | nil =>
    cases before' with
    | nil => exact ⟨rfl, (List.cons.inj h).2⟩
    | cons c before' =>
      have hc : '#' = c := (List.cons.inj h).1
      simp [← hc] at hcount
  | cons c before ih =>
    cases before' with
    | nil =>
      have hc : c = '#' := (List.cons.inj h).1
      simp [hc] at hcount
    | cons c' before' =>
      obtain ⟨rfl, hrest⟩ := List.cons.inj h
      have hcount : before.count '#' = before'.count '#' := by
        simpa [List.count_cons] using hcount
      obtain ⟨rfl, hafter⟩ := ih hcount hrest
      exact ⟨rfl, hafter⟩

/-- Texts with as many marks in each are told by the text they are joined to. -/
theorem joined_inj {texts texts' : List String}
    (hcounts : List.Forall₂ (fun text text' => markCount text = markCount text') texts texts')
    (h : joined texts = joined texts') : texts = texts' := by
  induction hcounts with
  | nil => rfl
  | @cons text text' rest rest' hcount hrest ih =>
    cases hrest with
    | nil => simpa using h
    | @cons next next' rest rest' hnext hrest =>
      rw [joined_cons_cons, joined_cons_cons, ← String.toList_inj] at h
      have hsplit : text.toList ++ '#' :: (joined (next :: rest)).toList =
          text'.toList ++ '#' :: (joined (next' :: rest')).toList := by simpa using h
      obtain ⟨hfirst, hlater⟩ := append_mark_inj hcount hsplit
      rw [String.toList_inj.mp hfirst, ih (String.toList_inj.mp hlater)]

end Keyspace.Text
