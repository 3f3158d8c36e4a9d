import Keyspace.Error
import Mathlib.Data.List.Forall2

/-!
# Opening results and actions

A computation that succeeds was a chain of successes: the lemmas here take a chain apart at
a bind, over a list, or over a fold. An action is run from a state by the same steps.
-/
namespace Keyspace

namespace Result

variable {α β ε : Type}

/-- A computation that succeeds has a result. -/
theorem exists_of_isOk {x : Except ε α} (h : x.isOk = true) : ∃ a, x = .ok a := by
  cases x with
  | error e => cases h
  | ok a => exact ⟨a, rfl⟩

theorem bind_eq_ok {x : Except ε α} {f : α → Except ε β} {b : β} :
    (x >>= f) = .ok b ↔ ∃ a, x = .ok a ∧ f a = .ok b := by
  constructor
  · intro h
    cases x with
    | error e => cases h
    | ok a => exact ⟨a, rfl, h⟩
  · rintro ⟨a, rfl, h⟩
    exact h

theorem map_eq_ok {x : Except ε α} {f : α → β} {b : β} :
    (f <$> x) = .ok b ↔ ∃ a, x = .ok a ∧ f a = b := by
  cases x <;> simp [Functor.map, Except.map]

/-- A computation that fails did so in one of its steps. -/
theorem of_bind_eq_error {x : Result α} {f : α → Result β} {e : Error}
    (h : (x >>= f) = .error e) : x = .error e ∨ ∃ a, x = .ok a ∧ f a = .error e := by
  cases x with
  | error _ =>
    cases h
    exact Or.inl rfl
  | ok a => exact Or.inr ⟨a, rfl, h⟩

theorem of_map_eq_error {x : Result α} {f : α → β} {e : Error}
    (h : Except.map f x = .error e) : x = .error e := by
  cases x with
  | error _ =>
    cases h
    rfl
  | ok _ => cases h

theorem pure_eq_ok {a b : α} : (pure a : Except ε α) = .ok b ↔ a = b := by
  simp [pure, Except.pure]

theorem throw_ne_ok {e : ε} {a : α} : (throw e : Except ε α) ≠ .ok a := by
  intro h
  cases h

/-- A check in front of a computation has passed, and the computation went on. -/
theorem check_eq_ok {c : Prop} [Decidable c] {e : ε} {f : PUnit → Except ε β} {b : β} :
    (if c then throw e >>= f else f ⟨⟩) = .ok b ↔ ¬c ∧ f ⟨⟩ = .ok b := by
  by_cases hc : c
  · rw [if_pos hc]
    exact ⟨fun h => absurd h throw_ne_ok, fun h => absurd hc h.1⟩
  · rw [if_neg hc]
    exact ⟨fun h => ⟨hc, h⟩, fun h => h.2⟩

/-- A list that is read as a whole is read element by element. -/
theorem mapM_eq_ok {f : α → Except ε β} {xs : List α} {ys : List β} :
    xs.mapM f = .ok ys ↔ List.Forall₂ (fun x y => f x = .ok y) xs ys := by
  induction xs generalizing ys with
  | nil =>
    rw [List.mapM_nil, pure_eq_ok, List.forall₂_nil_left_iff]
    exact eq_comm
  | cons x xs ih =>
    rw [List.mapM_cons, bind_eq_ok, List.forall₂_cons_left_iff]
    simp only [bind_eq_ok, pure_eq_ok, ih]
    constructor
    · rintro ⟨y, hy, ys', hys, rfl⟩
      exact ⟨y, ys', hy, hys, rfl⟩
    · rintro ⟨y, ys', hy, hys, rfl⟩
      exact ⟨y, hy, ys', hys, rfl⟩

theorem exists_of_mapM_eq_error {f : α → Result β} {xs : List α} {e : Error}
    (h : xs.mapM f = .error e) : ∃ x ∈ xs, f x = .error e := by
  induction xs with
  | nil => cases h
  | cons x xs ih =>
    rw [List.mapM_cons] at h
    rcases of_bind_eq_error h with hx | ⟨y, -, h⟩
    · exact ⟨x, List.mem_cons_self, hx⟩
    · rcases of_bind_eq_error h with hrest | ⟨ys, -, hpure⟩
      · obtain ⟨x', hmem, hfx⟩ := ih hrest
        exact ⟨x', List.mem_cons_of_mem _ hmem, hfx⟩
      · cases hpure

theorem exists_of_mem_forall₂ {R : α → β → Prop} {xs : List α} {ys : List β}
    (h : List.Forall₂ R xs ys) {y : β} (hy : y ∈ ys) : ∃ x ∈ xs, R x y := by
  induction h with
  | nil => cases hy
  | cons hx _ ih =>
    rcases List.mem_cons.mp hy with rfl | hmem
    · exact ⟨_, List.mem_cons_self .., hx⟩
    · obtain ⟨x, hmem, hfx⟩ := ih hmem
      exact ⟨x, List.mem_cons_of_mem _ hmem, hfx⟩

theorem forall₂_mem {R : α → β → Prop} {xs : List α} {ys : List β} (h : List.Forall₂ R xs ys) :
    List.Forall₂ (fun x y => R x y ∧ y ∈ ys) xs ys := by
  induction h with
  | nil => exact .nil
  | cons hfirst _ ih =>
    exact .cons ⟨hfirst, List.mem_cons_self⟩ (ih.imp fun _ _ h => ⟨h.1, List.mem_cons_of_mem _ h.2⟩)

theorem forall₂_comp {γ : Type} {R : α → β → Prop} {S : β → γ → Prop} {xs : List α} {ys : List β}
    {zs : List γ} (h : List.Forall₂ R xs ys) (h' : List.Forall₂ S ys zs) :
    List.Forall₂ (fun x z => ∃ y, R x y ∧ S y z) xs zs := by
  induction h generalizing zs with
  | nil =>
    cases h'
    exact .nil
  | cons hfirst _ ih =>
    cases h' with
    | cons hfirst' hrest' => exact .cons ⟨_, hfirst, hfirst'⟩ (ih hrest')

theorem forall₂_zip_map {γ : Type} {R : α → β → Prop} {f : α → γ} {xs : List α} {ys : List β}
    (h : List.Forall₂ R xs ys) :
    List.Forall₂ (fun x y => R x y.1 ∧ f x = y.2) xs (ys.zip (xs.map f)) := by
  induction h with
  | nil => exact .nil
  | cons hfirst _ ih => exact .cons ⟨hfirst, rfl⟩ ih

/-- Where each element yields at most one entry, and one of its own name, the names of the
entries are in the order of the elements. -/
theorem map_filterMap_sublist {γ : Type} {f : α → γ} {g : β → γ} {xs : List α}
    {ys : List (Option β)} (h : List.Forall₂ (fun x y => ∀ b, y = some b → g b = f x) xs ys) :
    List.Sublist ((ys.filterMap id).map g) (xs.map f) := by
  induction h with
  | nil => exact List.Sublist.slnil
  | @cons x y xs ys hname _ ih =>
    cases y with
    | none => exact ih.cons _
    | some b =>
      simp only [List.filterMap_cons, id_eq, List.map_cons, hname b rfl]
      exact ih.cons_cons _

theorem exists_of_mem_mapM {f : α → Except ε β} {xs : List α} {ys : List β}
    (h : xs.mapM f = .ok ys) {y : β} (hy : y ∈ ys) : ∃ x ∈ xs, f x = .ok y :=
  exists_of_mem_forall₂ (mapM_eq_ok.mp h) hy

theorem mapM_reads_mem {f : α → Except ε β} {xs : List α} {ys : List β}
    (h : xs.mapM f = .ok ys) {x : α} (hx : x ∈ xs) : ∃ y ∈ ys, f x = .ok y :=
  exists_of_mem_forall₂ (mapM_eq_ok.mp h).flip hx

/-- A list can be read if each of its elements can. -/
theorem exists_mapM_eq_ok_iff {f : α → Except ε β} {xs : List α} :
    (∃ ys, xs.mapM f = .ok ys) ↔ ∀ x ∈ xs, ∃ y, f x = .ok y := by
  constructor
  · rintro ⟨ys, hys⟩ x hx
    obtain ⟨y, -, hy⟩ := mapM_reads_mem hys hx
    exact ⟨y, hy⟩
  · intro h
    induction xs with
    | nil => exact ⟨[], rfl⟩
    | cons x xs ih =>
      obtain ⟨y, hy⟩ := h x List.mem_cons_self
      obtain ⟨ys, hys⟩ := ih fun other hother => h other (List.mem_cons_of_mem _ hother)
      exact ⟨y :: ys, mapM_eq_ok.mpr (.cons hy (mapM_eq_ok.mp hys))⟩

/-- What every step of a fold keeps, the whole fold keeps. -/
theorem foldlM_keeps {f : β → α → Result β} {P : β → Prop} {xs : List α}
    (hstep : ∀ acc x acc', x ∈ xs → P acc → f acc x = .ok acc' → P acc')
    {acc acc' : β} (hacc : P acc) (h : xs.foldlM f acc = .ok acc') : P acc' := by
  induction xs generalizing acc with
  | nil =>
    rw [List.foldlM_nil, pure_eq_ok] at h
    exact h ▸ hacc
  | cons x xs ih =>
    rw [List.foldlM_cons, bind_eq_ok] at h
    obtain ⟨mid, hmid, hrest⟩ := h
    have hx : P mid := hstep acc x mid (List.mem_cons_self ..) hacc hmid
    exact ih (fun acc x acc' hmem => hstep acc x acc' (List.mem_cons_of_mem _ hmem)) hx hrest

/-- A fold that succeeds took every one of its steps with success. -/
theorem foldlM_visits {f : β → α → Result β} {xs : List α} {acc acc' : β}
    (h : xs.foldlM f acc = .ok acc') {x : α} (hx : x ∈ xs) :
    ∃ before after, f before x = .ok after := by
  induction xs generalizing acc with
  | nil => cases hx
  | cons y xs ih =>
    rw [List.foldlM_cons, bind_eq_ok] at h
    obtain ⟨mid, hmid, hrest⟩ := h
    rcases List.mem_cons.mp hx with rfl | hmem
    · exact ⟨acc, mid, hmid⟩
    · exact ih hrest hmem

/-- What the step of one element brings about and the later steps keep, the fold ends with. -/
theorem foldlM_brings {f : β → α → Result β} {P : β → Prop} {xs : List α} {x : α} (hx : x ∈ xs)
    (hbrings : ∀ acc acc', f acc x = .ok acc' → P acc')
    (hkeeps : ∀ acc y acc', y ∈ xs → P acc → f acc y = .ok acc' → P acc')
    {acc acc' : β} (h : xs.foldlM f acc = .ok acc') : P acc' := by
  induction xs generalizing acc with
  | nil => cases hx
  | cons y xs ih =>
    rw [List.foldlM_cons, bind_eq_ok] at h
    obtain ⟨mid, hmid, hrest⟩ := h
    have hlater (acc : β) (z : α) (acc' : β) (hz : z ∈ xs) :=
      hkeeps acc z acc' (List.mem_cons_of_mem _ hz)
    rcases List.mem_cons.mp hx with rfl | hx
    · exact foldlM_keeps hlater (hbrings acc mid hmid) hrest
    · exact ih hx hlater hrest

/-- A fold whose steps change nothing changes nothing. -/
theorem foldlM_fixed {f : β → α → Result β} {xs : List α} {acc : β}
    (h : ∀ x ∈ xs, f acc x = .ok acc) : xs.foldlM f acc = .ok acc := by
  induction xs with
  | nil => rfl
  | cons x xs ih =>
    obtain ⟨hx, hxs⟩ := List.forall_mem_cons.mp h
    rw [List.foldlM_cons, hx]
    exact ih hxs

/-- A fold over changed elements succeeds as it did if its steps do. -/
theorem foldlM_map_eq_ok {γ : Type} {f : β → α → Result β} {g : β → γ → Result β} {change : α → γ}
    (hstep : ∀ acc x acc', f acc x = .ok acc' → g acc (change x) = .ok acc') {xs : List α}
    {acc acc' : β} (h : xs.foldlM f acc = .ok acc') :
    (xs.map change).foldlM g acc = .ok acc' := by
  induction xs generalizing acc with
  | nil => exact h
  | cons x xs ih =>
    rw [List.foldlM_cons, bind_eq_ok] at h
    obtain ⟨mid, hmid, hrest⟩ := h
    rw [List.map_cons, List.foldlM_cons, hstep acc x mid hmid]
    exact ih hrest

theorem forM_eq_ok {f : α → Result Unit} {xs : List α} :
    xs.forM f = .ok () ↔ ∀ x ∈ xs, f x = .ok () := by
  induction xs with
  | nil => simp [pure_eq_ok]
  | cons x xs ih =>
    have hcons : (x :: xs).forM f = (f x >>= fun _ => xs.forM f) := rfl
    rw [hcons, bind_eq_ok, List.forall_mem_cons, ← ih]
    constructor
    · rintro ⟨⟨⟩, hx, hxs⟩
      exact ⟨hx, hxs⟩
    · rintro ⟨hx, hxs⟩
      exact ⟨(), hx, hxs⟩

end Result

namespace Action

variable {σ α β : Type}

theorem bind_apply (x : Action σ α) (f : α → Action σ β) (s : σ) :
    (x >>= f) s = match x s with
      | (.ok a, s) => f a s
      | (.error e, s) => (.error e, s) := by
  show (ExceptT.bind x f) s = _
  simp only [ExceptT.bind, ExceptT.mk, bind, StateT.bind]
  cases h : x s with
  | mk r s' => cases r <;> rfl

theorem pure_apply (a : α) (s : σ) : (pure a : Action σ α) s = (.ok a, s) := rfl

theorem throw_apply (e : Error) (s : σ) : (throw e : Action σ α) s = (.error e, s) := rfl

theorem tryCatch_apply (x : Action σ α) (handle : Error → Action σ α) (s : σ) :
    (tryCatch x handle : Action σ α) s = match x s with
      | (.ok a, s) => (.ok a, s)
      | (.error e, s) => handle e s := by
  show (ExceptT.tryCatch x handle) s = _
  simp only [ExceptT.tryCatch, ExceptT.mk, bind, StateT.bind]
  cases h : x s with
  | mk r s' => cases r <;> rfl

theorem lift_apply (r : Result α) (s : σ) : (liftM r : Action σ α) s = (r, s) := by
  cases r <;> rfl

theorem map_apply (f : α → β) (x : Action σ α) (s : σ) :
    (f <$> x : Action σ β) s = ((x s).1.map f, (x s).2) := by
  rw [map_eq_pure_bind, bind_apply]
  cases h : x s with
  | mk r s' => cases r <;> rfl

theorem discard_apply (x : Action σ α) (s : σ) :
    (discard x : Action σ PUnit) s = ((x s).1.map fun _ => ⟨⟩, (x s).2) :=
  map_apply (fun _ => PUnit.unit) x s

end Action

end Keyspace
