import Keyspace.Dict
import Mathlib.Data.List.Induction
import Mathlib.Data.List.Nodup
import Mathlib.Data.String.Basic

/-!
# Looking up in dictionaries

What the operations on a dictionary do to its look-ups and to its keys. Removal takes the
first entry only, so that nothing is found afterwards needs the keys to increase; every
operation keeps them so.
-/
namespace Keyspace

namespace Dict

variable {α : Type u} {β : Type v}

theorem insert_cons_self (rest : Dict α) (key : String) (v value : α) :
    insert ((key, v) :: rest) key value = (key, value) :: rest := by
  rw [insert, if_neg (String.lt_irrefl key), if_pos rfl]

theorem insert_cons_of_lt {key k : String} (h : key < k) (rest : Dict α) (v value : α) :
    insert ((k, v) :: rest) key value = (key, value) :: (k, v) :: rest := by
  rw [insert, if_pos h]

theorem insert_cons_of_gt {key k : String} (h : k < key) (rest : Dict α) (v value : α) :
    insert ((k, v) :: rest) key value = (k, v) :: insert rest key value := by
  rw [insert, if_neg (String.lt_asymm h), if_neg (ne_of_gt h)]

theorem get?_insert (d : Dict α) (key other : String) (value : α) :
    get? (insert d key value) other = if other = key then some value else get? d other := by
  by_cases h : other = key
  · subst h; simp
  · simp [h, get?_insert_ne]

theorem mem_keys_iff {d : Dict α} {key : String} : key ∈ keys d ↔ (get? d key).isSome := by
  induction d with
  | nil => simp [keys]
  | cons entry rest ih =>
    obtain ⟨k, v⟩ := entry
    simp only [keys, List.map_cons, List.mem_cons, get?]
    by_cases h : k = key
    · simp [h]
    · rw [if_neg h, ← ih]
      simp [keys, Ne.symm h]

theorem get?_eq_none_iff {d : Dict α} {key : String} : get? d key = none ↔ key ∉ keys d := by
  rw [mem_keys_iff, Option.isSome_iff_ne_none, not_not]

theorem mem_of_get? {d : Dict α} {key : String} {value : α} (h : get? d key = some value) :
    (key, value) ∈ d := by
  induction d with
  | nil => simp at h
  | cons entry rest ih =>
    obtain ⟨k, v⟩ := entry
    simp only [get?] at h
    split at h
    · next hk => cases h; simp [hk]
    · exact List.mem_cons_of_mem _ (ih h)

/-- With distinct keys, every entry is found under its key. -/
theorem get?_of_mem {d : Dict α} (hdistinct : (keys d).Nodup) {key : String} {value : α}
    (h : (key, value) ∈ d) : get? d key = some value := by
  have hkey : (get? d key).isSome := mem_keys_iff.mp (List.mem_map_of_mem h)
  obtain ⟨found, hfound⟩ := Option.isSome_iff_exists.mp hkey
  rw [hfound]
  exact congrArg (fun entry => some entry.2)
    (List.inj_on_of_nodup_map hdistinct (mem_of_get? hfound) h rfl)

theorem mem_keys_insert {d : Dict α} {key other : String} {value : α} :
    other ∈ keys (insert d key value) ↔ other = key ∨ other ∈ keys d := by
  rw [mem_keys_iff, mem_keys_iff, get?_insert]
  by_cases h : other = key <;> simp [h]

theorem mem_of_mem_insert {d : Dict α} {key : String} {value : α} {entry : String × α}
    (h : entry ∈ insert d key value) : entry = (key, value) ∨ entry ∈ d := by
  induction d with
  | nil => exact Or.inl (List.mem_singleton.mp h)
  | cons first rest ih =>
    unfold insert at h
    split at h
    · exact List.mem_cons.mp h
    · split at h
      · exact (List.mem_cons.mp h).imp_right (List.mem_cons_of_mem _)
      · rcases List.mem_cons.mp h with rfl | h
        · exact Or.inr List.mem_cons_self
        · exact (ih h).imp_right (List.mem_cons_of_mem _)

@[simp] theorem keys_modify (d : Dict α) (key : String) (f : α → α) :
    keys (modify d key f) = keys d := by
  simp only [keys, modify, List.map_map]
  refine List.map_congr_left fun entry _ => ?_
  simp only [Function.comp_apply]
  split <;> rfl

theorem get?_modify (d : Dict α) (key other : String) (f : α → α) :
    get? (modify d key f) other = if other = key then (get? d other).map f else get? d other := by
  induction d with
  | nil => simp [modify]
  | cons entry rest ih =>
    obtain ⟨k, v⟩ := entry
    simp only [modify, List.map_cons] at ih ⊢
    by_cases hk : k = key <;> by_cases ho : k = other
    · subst hk; subst ho; simp [get?]
    · subst hk; simp [get?, ho, ih]
    · subst ho; simp [get?, hk]
    · simp [get?, hk, ho, ih]

@[simp] theorem modify_id (d : Dict α) (key : String) : modify d key id = d := by
  unfold modify
  refine (List.map_congr_left fun entry _ => ?_).trans (List.map_id d)
  split <;> rfl

theorem modify_modify (d : Dict α) (key : String) (f g : α → α) :
    modify (modify d key f) key g = modify d key (g ∘ f) := by
  unfold modify
  rw [List.map_map]
  refine List.map_congr_left fun entry _ => ?_
  by_cases h : entry.1 = key <;> simp [h]

section FoldModify

variable {name : β → String} {f : β → α → α} {changes : List β}

@[simp] theorem keys_foldl_modify (d : Dict α) :
    keys (changes.foldl (fun d b => modify d (name b) (f b)) d) = keys d := by
  induction changes generalizing d with
  | nil => rfl
  | cons b rest ih => rw [List.foldl_cons, ih, keys_modify]

theorem get?_foldl_modify_of_not_mem {key : String} (h : key ∉ changes.map name) (d : Dict α) :
    get? (changes.foldl (fun d b => modify d (name b) (f b)) d) key = get? d key := by
  induction changes generalizing d with
  | nil => rfl
  | cons b rest ih =>
    rw [List.map_cons, List.mem_cons, not_or] at h
    rw [List.foldl_cons, ih h.2, get?_modify, if_neg h.1]

/-- Entries that are changed under names of their own are each changed once. -/
theorem get?_foldl_modify (hdistinct : (changes.map name).Nodup) (d : Dict α) {b : β}
    (hb : b ∈ changes) :
    get? (changes.foldl (fun d b => modify d (name b) (f b)) d) (name b) =
      (get? d (name b)).map (f b) := by
  induction changes generalizing d with
  | nil => cases hb
  | cons first rest ih =>
    rw [List.map_cons, List.nodup_cons] at hdistinct
    rw [List.foldl_cons]
    rcases List.mem_cons.mp hb with rfl | hb
    · rw [get?_foldl_modify_of_not_mem hdistinct.1, get?_modify, if_pos rfl]
    · have hne : name b ≠ name first := fun heq => hdistinct.1 (heq ▸ List.mem_map_of_mem hb)
      rw [ih hdistinct.2 _ hb, get?_modify, if_neg hne]

end FoldModify

theorem get?_mapValues (f : α → β) (d : Dict α) (key : String) :
    get? (mapValues f d) key = (get? d key).map f := by
  induction d with
  | nil => rfl
  | cons entry rest ih =>
    obtain ⟨k, v⟩ := entry
    simp only [mapValues, List.map_cons, get?] at ih ⊢
    split <;> simp [ih]

@[simp] theorem ordered_nil : Ordered ([] : Dict α) := List.Pairwise.nil

theorem ordered_iff_keys {d : Dict α} : Ordered d ↔ (keys d).Pairwise (· < ·) := by
  rw [Ordered, keys, List.pairwise_map]

theorem Ordered.keys_nodup {d : Dict α} (h : Ordered d) : (keys d).Nodup := by
  rw [keys, List.Nodup, List.pairwise_map]
  exact h.imp fun hlt => ne_of_lt hlt

theorem Ordered.insert {d : Dict α} (h : Ordered d) (key : String) (value : α) :
    Ordered (insert d key value) := by
  induction d with
  | nil => simp [Dict.insert, Ordered]
  | cons entry rest ih =>
    obtain ⟨k, v⟩ := entry
    have hrest := List.pairwise_cons.mp h
    simp only [Dict.insert]
    split
    · next hlt =>
      refine List.pairwise_cons.mpr ⟨fun other hmem => ?_, h⟩
      rcases List.mem_cons.mp hmem with rfl | hmem
      · exact hlt
      · exact lt_trans hlt (hrest.1 other hmem)
    · split
      · next hk =>
        subst hk
        exact List.pairwise_cons.mpr ⟨hrest.1, hrest.2⟩
      · next hnlt hne =>
        have hkk : k < key := lt_of_le_of_ne (not_lt.mp hnlt) (Ne.symm hne)
        refine List.pairwise_cons.mpr ⟨fun other hmem => ?_, ih hrest.2⟩
        have hkey : other.1 ∈ keys (Dict.insert rest key value) := List.mem_map_of_mem hmem
        rcases mem_keys_insert.mp hkey with heq | hold
        · rw [heq]; exact hkk
        · obtain ⟨old, hmem', hold⟩ := List.mem_map.mp hold
          rw [← hold]; exact hrest.1 old hmem'

theorem erase_sublist (d : Dict α) (key : String) : List.Sublist (erase d key) d := by
  induction d with
  | nil => exact List.Sublist.slnil
  | cons entry rest ih =>
    obtain ⟨k, v⟩ := entry
    simp only [erase]
    split
    · exact List.sublist_cons_self _ _
    · exact ih.cons_cons _

theorem Ordered.erase {d : Dict α} (h : Ordered d) (key : String) : Ordered (erase d key) :=
  List.Pairwise.sublist (erase_sublist d key) h

theorem get?_erase_self {d : Dict α} (h : Ordered d) (key : String) :
    get? (erase d key) key = none := by
  induction d with
  | nil => rfl
  | cons entry rest ih =>
    obtain ⟨k, v⟩ := entry
    have hrest := List.pairwise_cons.mp h
    simp only [erase]
    split
    · next hk =>
      subst hk
      rw [get?_eq_none_iff]
      intro hmem
      obtain ⟨old, hmem, hold⟩ := List.mem_map.mp hmem
      exact absurd (hrest.1 old hmem) (by rw [hold]; exact lt_irrefl _)
    · next hk => simp [get?, hk, ih hrest.2]

theorem get?_erase {d : Dict α} (h : Ordered d) (key other : String) :
    get? (erase d key) other = if other = key then none else get? d other := by
  by_cases ho : other = key
  · subst ho; simp [get?_erase_self h]
  · simp [ho, get?_erase_ne]

theorem Ordered.mem_iff {d : Dict α} (h : Ordered d) {entry : String × α} :
    entry ∈ d ↔ get? d entry.1 = some entry.2 :=
  ⟨get?_of_mem h.keys_nodup, mem_of_get?⟩

theorem Ordered.nodup {d : Dict α} (h : Ordered d) : d.Nodup := by
  refine List.Pairwise.imp (fun hlt => ?_) h
  rintro rfl
  exact absurd hlt (lt_irrefl _)

/-- Dictionaries in order are told apart by what is found in them. -/
theorem Ordered.ext {d d' : Dict α} (h : Ordered d) (h' : Ordered d')
    (hget : ∀ key, get? d key = get? d' key) : d = d' := by
  have hperm : d.Perm d' := by
    rw [List.perm_ext_iff_of_nodup h.nodup h'.nodup]
    intro entry
    rw [h.mem_iff, h'.mem_iff, hget]
  exact hperm.eq_of_pairwise (fun _ _ _ _ hlt hgt => absurd hlt (lt_asymm hgt)) h h'

/-- Folding insertions over a dictionary: the keys are those of both. -/
theorem mem_keys_foldl_insert {entries : List (String × α)} {d : Dict α} {key : String} :
    key ∈ keys (entries.foldl (fun d entry => insert d entry.1 entry.2) d) ↔
      key ∈ entries.map (·.1) ∨ key ∈ keys d := by
  induction entries generalizing d with
  | nil => simp
  | cons entry rest ih =>
    rw [List.foldl_cons, ih, mem_keys_insert, List.map_cons, List.mem_cons]
    tauto

theorem ordered_foldl_insert {entries : List (String × α)} {d : Dict α} (h : Ordered d) :
    Ordered (entries.foldl (fun d entry => insert d entry.1 entry.2) d) := by
  induction entries generalizing d with
  | nil => exact h
  | cons entry rest ih => exact ih (h.insert _ _)

theorem mem_keys_ofList {entries : List (String × α)} {key : String} :
    key ∈ keys (ofList entries) ↔ key ∈ entries.map (·.1) := by
  rw [ofList, mem_keys_foldl_insert]
  exact or_iff_left List.not_mem_nil

theorem mem_of_mem_ofList {entries : List (String × α)} {entry : String × α}
    (h : entry ∈ ofList entries) : entry ∈ entries := by
  unfold ofList at h
  induction entries using List.reverseRecOn with
  | nil => cases h
  | append_singleton entries last ih =>
    rw [List.foldl_append] at h
    rcases mem_of_mem_insert h with rfl | h
    · simp
    · exact List.mem_append_left _ (ih h)

theorem union_append (d entries later : Dict α) :
    union d (entries ++ later) = union (union d entries) later := by
  unfold union
  rw [List.foldl_append]

/-- Of several entries under one key the last decides what is found. -/
theorem get?_union (d entries : Dict α) (key : String) :
    get? (union d entries) key =
      ((entries.filter (·.1 = key)).getLast?.map (·.2)).or (get? d key) := by
  induction entries using List.reverseRecOn with
  | nil => simp [union]
  | append_singleton entries entry ih =>
    rw [union_append, List.filter_append]
    show get? (insert (union d entries) entry.1 entry.2) key = _
    rw [get?_insert]
    by_cases h : entry.1 = key
    · simp [h]
    · rw [if_neg (Ne.symm h), ih]
      simp [h]

theorem get?_union_of_not_mem {d entries : Dict α} {key : String}
    (h : ∀ entry ∈ entries, entry.1 ≠ key) : get? (union d entries) key = get? d key := by
  have hnone : entries.filter (·.1 = key) = [] :=
    List.filter_eq_nil_iff.mpr fun entry hentry => by simpa using h entry hentry
  rw [get?_union, hnone]
  rfl

/-- Entries under one key that agree cannot hide each other. -/
theorem get?_union_of_agree {d entries : Dict α} {key : String} {value : α}
    (hmem : ∃ entry ∈ entries, entry.1 = key)
    (hagree : ∀ entry ∈ entries, entry.1 = key → entry.2 = value) :
    get? (union d entries) key = some value := by
  obtain ⟨entry, hentry, hkey⟩ := hmem
  have hne : entries.filter (·.1 = key) ≠ [] :=
    List.ne_nil_of_mem (List.mem_filter.mpr ⟨hentry, by simpa using hkey⟩)
  obtain ⟨last, hlast⟩ := Option.isSome_iff_exists.mp (List.getLast?_isSome.mpr hne)
  have hin := List.mem_filter.mp (List.mem_of_getLast? hlast)
  rw [get?_union, hlast]
  exact congrArg some (hagree last hin.1 (by simpa using hin.2))

theorem get?_ofList (entries : List (String × α)) (key : String) :
    get? (ofList entries) key = (entries.filter (·.1 = key)).getLast?.map (·.2) := by
  have hfound := get?_union [] entries key
  rw [get?_nil, Option.or_none] at hfound
  exact hfound

/-- Of two lists of entries the later one decides what is found. -/
theorem get?_ofList_append (entries later : List (String × α)) (key : String) :
    get? (ofList (entries ++ later)) key =
      (get? (ofList later) key).or (get? (ofList entries) key) := by
  simp only [get?_ofList, List.filter_append, List.getLast?_append, Option.map_or]

theorem get?_ofList_cons (name : String) (value : α) (rest : List (String × α)) (key : String) :
    get? (ofList ((name, value) :: rest)) key =
      (get? (ofList rest) key).or (if name = key then some value else none) := by
  have happend := get?_ofList_append [(name, value)] rest key
  rw [List.singleton_append] at happend
  rw [happend]
  by_cases h : name = key <;> simp [get?_ofList, h]

/-- An entry that is there only if its value is. -/
theorem get?_ofList_option (name : String) (value : Option α) (key : String) :
    get? (ofList (value.map fun v => (name, v)).toList) key =
      if name = key then value else none := by
  by_cases h : name = key <;> cases value <;> simp [get?_ofList, h]

/-- A key that is entered is found, with one of its entries. -/
theorem exists_get?_ofList {entries : List (String × α)} {key : String} {value : α}
    (h : (key, value) ∈ entries) :
    ∃ last, get? (ofList entries) key = some last ∧ (key, last) ∈ entries := by
  have hkey : key ∈ keys (ofList entries) := mem_keys_ofList.mpr (List.mem_map_of_mem h)
  obtain ⟨last, hlast⟩ := Option.isSome_iff_exists.mp (mem_keys_iff.mp hkey)
  exact ⟨last, hlast, mem_of_mem_ofList (mem_of_get? hlast)⟩

/-- Entries of one key that agree are found. -/
theorem get?_ofList_of_agree {entries : List (String × α)} {key : String} {value : α}
    (h : (key, value) ∈ entries) (hagree : ∀ other, (key, other) ∈ entries → other = value) :
    get? (ofList entries) key = some value := by
  obtain ⟨last, hlast, hmem⟩ := exists_get?_ofList h
  rw [hlast, hagree last hmem]

/-- With distinct keys, every entry of a list is found in its dictionary. -/
theorem get?_ofList_of_mem {entries : List (String × α)} {key : String} {value : α}
    (hdistinct : (entries.map (·.1)).Nodup) (h : (key, value) ∈ entries) :
    get? (ofList entries) key = some value :=
  get?_union_of_agree ⟨_, h, rfl⟩ fun _ hentry hkey =>
    congrArg Prod.snd (List.inj_on_of_nodup_map hdistinct hentry h hkey)

theorem ordered_ofList (entries : List (String × α)) : Ordered (ofList entries) :=
  ordered_foldl_insert ordered_nil

/-- With distinct keys, a dictionary has the entries it was made of. -/
theorem mem_ofList_iff {entries : List (String × α)} (hdistinct : (entries.map (·.1)).Nodup)
    {entry : String × α} : entry ∈ ofList entries ↔ entry ∈ entries :=
  ⟨mem_of_mem_ofList, fun h => mem_of_get? (get?_ofList_of_mem hdistinct h)⟩

/-- Entries with distinct keys make one dictionary, in whatever order they are listed. -/
theorem ofList_perm {entries entries' : List (String × α)} (h : entries.Perm entries')
    (hdistinct : (entries.map (·.1)).Nodup) : ofList entries = ofList entries' := by
  have hdistinct' : (entries'.map (·.1)).Nodup := (h.map _).nodup_iff.mp hdistinct
  refine (ordered_ofList entries).ext (ordered_ofList entries') fun key => ?_
  cases hfound : get? (ofList entries) key with
  | some value =>
    have hmem : (key, value) ∈ entries := mem_of_mem_ofList (mem_of_get? hfound)
    exact (get?_ofList_of_mem hdistinct' (h.subset hmem)).symm
  | none =>
    rw [get?_eq_none_iff, mem_keys_ofList, (h.map _).mem_iff, ← mem_keys_ofList,
      ← get?_eq_none_iff] at hfound
    exact hfound.symm

/-- A dictionary in order is the dictionary of its entries. -/
theorem Ordered.ofList_eq {d : Dict α} (h : Ordered d) : ofList d = d := by
  refine (ordered_ofList d).ext h fun key => ?_
  cases hfound : get? d key with
  | none =>
    have hnot : ∀ entry ∈ d, entry.1 ≠ key := fun entry hentry hkey =>
      get?_eq_none_iff.mp hfound (hkey ▸ List.mem_map_of_mem hentry)
    exact get?_union_of_not_mem hnot
  | some value => exact get?_ofList_of_mem h.keys_nodup (mem_of_get? hfound)

/-- What is found in both of two dictionaries is that of the other one. -/
theorem Ordered.get?_union {other : Dict α} (h : Ordered other) (d : Dict α) (key : String) :
    get? (union d other) key = (get? other key).or (get? d key) := by
  rw [Dict.get?_union, ← get?_ofList, h.ofList_eq]

@[simp] theorem keys_mapValues (f : α → β) (d : Dict α) : keys (mapValues f d) = keys d := by
  simp [keys, mapValues]

theorem mapValues_insert (f : α → β) (d : Dict α) (key : String) (value : α) :
    mapValues f (insert d key value) = insert (mapValues f d) key (f value) := by
  induction d with
  | nil => rfl
  | cons entry rest ih =>
    unfold mapValues at ih ⊢
    simp only [insert, List.map_cons]
    split
    · rfl
    · split
      · rfl
      · rw [List.map_cons, ih]

/-- Changing the values of entries changes the values of their dictionary. -/
theorem ofList_map (f : α → β) (entries : List (String × α)) :
    ofList (entries.map fun entry => (entry.1, f entry.2)) = mapValues f (ofList entries) := by
  unfold ofList
  induction entries using List.reverseRecOn with
  | nil => rfl
  | append_singleton entries entry ih =>
    rw [List.map_append, List.foldl_append, ih, List.foldl_append]
    exact (mapValues_insert f _ _ _).symm

end Dict

@[simp] theorem mem_sortedDistinct {texts : List String} {text : String} :
    text ∈ sortedDistinct texts ↔ text ∈ texts := by
  simp [sortedDistinct, Dict.mem_keys_ofList]

theorem sortedDistinct_sorted (texts : List String) :
    (sortedDistinct texts).Pairwise (· < ·) :=
  Dict.ordered_iff_keys.mp (Dict.ordered_ofList _)

theorem sortedDistinct_nodup (texts : List String) : (sortedDistinct texts).Nodup :=
  (Dict.ordered_ofList _).keys_nodup

end Keyspace
