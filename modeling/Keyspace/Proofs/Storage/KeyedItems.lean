import Keyspace.Proofs.Storage.Slots
import Keyspace.Proofs.Text.Marks
import Mathlib.Data.Set.Function

/-!
# Items by key

To its clients a storage is a map from tables and keys to items, with a count of the writes.
The storage in memory keeps the items under the texts of their keys instead. It answers as the
map does exactly as long as the texts tell the keys in use apart.
-/
namespace Keyspace

/-- Anything that a storage can be asked. -/
inductive StorageRequest where
  | get (request : GetRequest)
  | put (request : PutRequest)
  | delete (request : DeleteRequest)
  | scan (table : String)
  | writeCount

/-- The keys that a request comes with lie in a set. -/
def StorageRequest.KeysIn (K : Set Item) : StorageRequest → Prop
  | get request => request.key ∈ K
  | put request => request.key ∈ K
  | delete request => request.key ∈ K
  | scan _ => True
  | writeCount => True

/-- What a storage answers. -/
inductive StorageAnswer where
  | got (answer : Except StorageError (Option Item))
  | put (answer : Except StorageError Unit)
  | deleted (answer : Except StorageError (Option Item))
  | scanned (items : List Item)
  | counted (writes : Nat)

namespace MemoryStorage

/-- The answer of the storage in memory, and its state after it. -/
def respond (s : MemoryStorage) : StorageRequest → StorageAnswer × MemoryStorage
  | .get request => ((service.get request s).map .got id)
  | .put request => ((service.put request s).map .put id)
  | .delete request => ((service.delete request s).map .deleted id)
  | .scan table => (.scanned (s.scan table), s)
  | .writeCount => (.counted s.writes, s)

theorem respond_put (request : PutRequest) (s : MemoryStorage) :
    s.respond (.put request) =
      if request.condition.all (·.holds (s.itemAt? ⟨request.table, describeKey request.key⟩)) then
        (.put (.ok ()), s.write ⟨request.table, describeKey request.key⟩ request.item)
      else (.put (.error .conditionFailed), s) := by
  show (put request s).map StorageAnswer.put id = _
  rw [put_eq]
  split <;> rfl

theorem respond_delete (request : DeleteRequest) (s : MemoryStorage) :
    s.respond (.delete request) =
      if request.condition.all (·.holds (s.itemAt? ⟨request.table, describeKey request.key⟩)) then
        match s.itemAt? ⟨request.table, describeKey request.key⟩ with
        | some item =>
          (.deleted (.ok (some item)), s.remove ⟨request.table, describeKey request.key⟩)
        | none => (.deleted (.ok none), s)
      else (.deleted (.error .conditionFailed), s) := by
  show (delete request s).map StorageAnswer.deleted id = _
  rw [delete_eq]
  split
  · cases s.itemAt? ⟨request.table, describeKey request.key⟩ <;> rfl
  · rfl

/-- The answers to one request after another. -/
def answers (s : MemoryStorage) : List StorageRequest → List StorageAnswer
  | [] => []
  | request :: requests => (s.respond request).1 :: (s.respond request).2.answers requests

end MemoryStorage

/-- A map from tables and keys to items, and how often it was written. -/
structure KeyedItems where
  item? : String → Item → Option Item
  writes : Nat

namespace KeyedItems

def empty : KeyedItems := ⟨fun _ _ => none, 0⟩

/-- The map with another entry under one key, written once more. -/
def set (m : KeyedItems) (table : String) (key : Item) (entry : Option Item) : KeyedItems where
  item? := fun table' key' => if table' = table ∧ key' = key then entry else m.item? table' key'
  writes := m.writes + 1

/-- Whether a condition holds of the entry of a key. -/
def admits (m : KeyedItems) (table : String) (key : Item) (condition : Option Condition) : Bool :=
  condition.all (·.holds (m.item? table key))

/-- These are the items of a table, in the order of the texts of their keys. -/
def Lists (m : KeyedItems) (table : String) (items : List Item) : Prop :=
  ∃ keys : List Item, (∀ key, key ∈ keys ↔ (m.item? table key).isSome = true) ∧
    keys.Pairwise (fun key key' => describeKey key < describeKey key') ∧
    items = keys.filterMap (m.item? table)

/-- How the map answers a request, and what it is after that. -/
inductive Responds (m : KeyedItems) : StorageRequest → StorageAnswer → KeyedItems → Prop
  | get (request : GetRequest) :
      Responds m (.get request) (.got (.ok (m.item? request.table request.key))) m
  | put {request : PutRequest}
      (isAdmitted : m.admits request.table request.key request.condition = true) :
      Responds m (.put request) (.put (.ok ()))
        (m.set request.table request.key (some request.item))
  | putRefused {request : PutRequest}
      (isRefused : m.admits request.table request.key request.condition = false) :
      Responds m (.put request) (.put (.error .conditionFailed)) m
  | deleted {request : DeleteRequest} {item : Item}
      (isAdmitted : m.admits request.table request.key request.condition = true)
      (found : m.item? request.table request.key = some item) :
      Responds m (.delete request) (.deleted (.ok (some item)))
        (m.set request.table request.key none)
  | deletedNothing {request : DeleteRequest}
      (isAdmitted : m.admits request.table request.key request.condition = true)
      (missing : m.item? request.table request.key = none) :
      Responds m (.delete request) (.deleted (.ok none)) m
  | deleteRefused {request : DeleteRequest}
      (isRefused : m.admits request.table request.key request.condition = false) :
      Responds m (.delete request) (.deleted (.error .conditionFailed)) m
  | scanned {table : String} {items : List Item} (lists : m.Lists table items) :
      Responds m (.scan table) (.scanned items) m
  | counted : Responds m .writeCount (.counted m.writes) m

/-- How the map answers one request after another. -/
inductive Answers : KeyedItems → List StorageRequest → List StorageAnswer → Prop
  | nil {m : KeyedItems} : Answers m [] []
  | cons {m m' : KeyedItems} {request : StorageRequest} {answer : StorageAnswer}
      {requests : List StorageRequest} {answers : List StorageAnswer}
      (first : m.Responds request answer m') (rest : Answers m' requests answers) :
      Answers m (request :: requests) (answer :: answers)

/-- The storage holds the entries of the map under the texts of their keys, which lie in `K`,
and nothing else. -/
structure Represents (K : Set Item) (s : MemoryStorage) (m : KeyedItems) : Prop where
  sorted : s.Sorted
  writes_eq : s.writes = m.writes
  item_eq : ∀ table, ∀ key ∈ K, s.itemAt? ⟨table, describeKey key⟩ = m.item? table key
  outside : ∀ table key, key ∉ K → m.item? table key = none
  covered : ∀ table text item, s.itemAt? ⟨table, text⟩ = some item → ∃ key ∈ K, describeKey key = text

variable {K : Set Item} {s s' : MemoryStorage} {m m' : KeyedItems}

theorem represents_empty (K : Set Item) : Represents K .empty empty where
  sorted := MemoryStorage.sorted_empty
  writes_eq := rfl
  item_eq := fun _ _ _ => rfl
  outside := fun _ _ _ => rfl
  covered := fun _ _ _ h => by cases h

/-- Changing one slot changes the entry of its key, and as the texts differ no other entry. -/
theorem Represents.set (hK : Set.InjOn describeKey K) (h : Represents K s m) {table : String}
    {key : Item} (hkey : key ∈ K) {entry : Option Item} (hsorted : s'.Sorted)
    (hwrites : s'.writes = s.writes + 1)
    (hitem : ∀ other, s'.itemAt? other =
      if other = ⟨table, describeKey key⟩ then entry else s.itemAt? other) :
    Represents K s' (m.set table key entry) where
  sorted := hsorted
  writes_eq := by rw [hwrites, h.writes_eq]; rfl
  item_eq := by
    intro table' key' hkey'
    have hslot : (⟨table', describeKey key'⟩ : Slot) = ⟨table, describeKey key⟩ ↔
        table' = table ∧ key' = key := by
      rw [Slot.mk.injEq]
      exact and_congr_right fun _ => hK.eq_iff hkey' hkey
    rw [hitem, KeyedItems.set]
    simp only [hslot, h.item_eq table' key' hkey']
  outside := by
    intro table' key' hkey'
    have hother : ¬(table' = table ∧ key' = key) := fun hsame => hkey' (hsame.2 ▸ hkey)
    rw [KeyedItems.set]
    simp only [if_neg hother, h.outside table' key' hkey']
  covered := by
    intro table' text item hfound
    rw [hitem] at hfound
    split at hfound
    · next hslot => exact ⟨key, hkey, (congrArg Slot.key hslot).symm⟩
    · exact h.covered table' text item hfound

theorem Represents.admits_eq (h : Represents K s m) (table : String) {key : Item} (hkey : key ∈ K)
    (condition : Option Condition) :
    condition.all (·.holds (s.itemAt? ⟨table, describeKey key⟩)) = m.admits table key condition := by
  rw [h.item_eq table key hkey, admits]

/-- Each entry of a table is that of a key in `K`. -/
theorem Represents.exists_key (h : Represents K s m) {table : String} {entry : String × Item}
    (hentry : entry ∈ s.table table) :
    ∃ key, key ∈ K ∧ describeKey key = entry.1 ∧ m.item? table key = some entry.2 := by
  have hfound : s.itemAt? ⟨table, entry.1⟩ = some entry.2 := (h.sorted table).mem_iff.mp hentry
  obtain ⟨key, hkey, htext⟩ := h.covered table entry.1 entry.2 hfound
  exact ⟨key, hkey, htext, by rw [← h.item_eq table key hkey, htext, hfound]⟩

theorem Represents.lists_scan (hK : Set.InjOn describeKey K) (h : Represents K s m)
    (table : String) : m.Lists table (s.scan table) := by
  have hentries : ∀ entry ∈ s.table table,
      ∃ key, key ∈ K ∧ describeKey key = entry.1 ∧ m.item? table key = some entry.2 :=
    fun entry hentry => h.exists_key hentry
  choose! keyAt hkeyAt using hentries
  refine ⟨(s.table table).map keyAt, fun key => ⟨fun hkey => ?_, fun hsome => ?_⟩, ?_, ?_⟩
  · obtain ⟨entry, hentry, rfl⟩ := List.mem_map.mp hkey
    exact Option.isSome_iff_exists.mpr ⟨_, (hkeyAt entry hentry).2.2⟩
  · obtain ⟨item, hitem⟩ := Option.isSome_iff_exists.mp hsome
    have hkey : key ∈ K := by
      by_contra hout
      rw [h.outside table key hout] at hitem
      cases hitem
    have hentry : (describeKey key, item) ∈ s.table table :=
      (h.sorted table).mem_iff.mpr ((h.item_eq table key hkey).trans hitem)
    obtain ⟨hkey', htext, -⟩ := hkeyAt _ hentry
    exact List.mem_map.mpr ⟨_, hentry, hK hkey' hkey htext⟩
  · rw [List.pairwise_map]
    refine (h.sorted table).imp_of_mem fun {entry entry'} hentry hentry' hlt => ?_
    rwa [(hkeyAt entry hentry).2.1, (hkeyAt entry' hentry').2.1]
  · have hread : ∀ entry ∈ s.table table, m.item? table (keyAt entry) = some entry.2 :=
      fun entry hentry => (hkeyAt entry hentry).2.2
    calc (s.table table).map (·.2)
        = (s.table table).filterMap (some ∘ (·.2)) := by rw [List.filterMap_eq_map]
      _ = (s.table table).filterMap (m.item? table ∘ keyAt) :=
          List.filterMap_congr fun entry hentry => (hread entry hentry).symm
      _ = ((s.table table).map keyAt).filterMap (m.item? table) := by rw [List.filterMap_map]

/-- One request is answered as by the map, and the storage represents the map after it. -/
theorem Represents.respond (hK : Set.InjOn describeKey K) (h : Represents K s m)
    {request : StorageRequest} (hrequest : request.KeysIn K) :
    ∃ m', m.Responds request (s.respond request).1 m' ∧ Represents K (s.respond request).2 m' := by
  cases request with
  | get request =>
    have hanswer : s.find? request.table request.key = m.item? request.table request.key :=
      h.item_eq _ _ hrequest
    refine ⟨m, ?_, h⟩
    show m.Responds _ (.got (.ok (s.find? request.table request.key))) m
    rw [hanswer]
    exact .get request
  | put request =>
    rw [MemoryStorage.respond_put, h.admits_eq request.table hrequest request.condition]
    cases hcondition : m.admits request.table request.key request.condition with
    | true =>
      exact ⟨_, .put hcondition, h.set hK hrequest (h.sorted.write _ _) rfl
        fun other => s.itemAt?_write _ other _⟩
    | false => exact ⟨m, .putRefused hcondition, h⟩
  | delete request =>
    rw [MemoryStorage.respond_delete, h.admits_eq request.table hrequest request.condition,
      h.item_eq request.table _ hrequest]
    cases hcondition : m.admits request.table request.key request.condition with
    | true =>
      rw [if_pos rfl]
      cases hentry : m.item? request.table request.key with
      | some item =>
        exact ⟨_, .deleted hcondition hentry, h.set hK hrequest (h.sorted.remove _) rfl
          fun other => MemoryStorage.itemAt?_remove h.sorted _ other⟩
      | none => exact ⟨m, .deletedNothing hcondition hentry, h⟩
    | false => exact ⟨m, .deleteRefused hcondition, h⟩
  | scan table => exact ⟨m, .scanned (h.lists_scan hK table), h⟩
  | writeCount =>
    refine ⟨m, ?_, h⟩
    show m.Responds _ (.counted s.writes) m
    rw [h.writes_eq]
    exact .counted

/-- So is any sequence of requests. -/
theorem Represents.answers (hK : Set.InjOn describeKey K) (h : Represents K s m)
    {requests : List StorageRequest} (hrequests : ∀ request ∈ requests, request.KeysIn K) :
    Answers m requests (s.answers requests) := by
  induction requests generalizing s m with
  | nil => exact .nil
  | cons request requests ih =>
    obtain ⟨m', hfirst, hafter⟩ := h.respond hK (hrequests request List.mem_cons_self)
    exact .cons hfirst (ih hafter fun request' hrequest =>
      hrequests request' (List.mem_cons_of_mem _ hrequest))

/-- What is put under a key of the map is not found under another one. -/
theorem Answers.get_other {table : String} {key key' item : Item} (hne : key' ≠ key)
    {found : Option Item}
    (h : Answers empty [.put ⟨table, key, item, none⟩, .get ⟨table, key', false⟩]
      [.put (.ok ()), .got (.ok found)]) : found = none := by
  cases h with
  | cons first rest =>
    cases first with
    | put _ =>
      cases rest with
      | cons second _ =>
        generalize hanswer : StorageAnswer.got (.ok found) = answer at second
        cases second with
        | get _ =>
          cases hanswer
          exact if_neg fun hsame => hne hsame.2

/-- The storage in memory answers as the map does, to every sequence of requests with keys in
a set, if and only if no two of those keys have one text. -/
theorem answers_iff_injOn (K : Set Item) :
    (∀ requests : List StorageRequest, (∀ request ∈ requests, request.KeysIn K) →
      Answers empty requests (MemoryStorage.empty.answers requests)) ↔ Set.InjOn describeKey K := by
  constructor
  · intro hanswers key hkey key' hkey' htext
    by_contra hne
    -- Of two keys with one text, what is put under the first is found under the second.
    have hpair := hanswers [.put ⟨"", key, key, none⟩, .get ⟨"", key', false⟩] (by
      intro request hrequest
      rcases List.mem_pair.mp hrequest with rfl | rfl
      · exact hkey
      · exact hkey')
    have hfound : MemoryStorage.empty.answers
        [.put ⟨"", key, key, none⟩, .get ⟨"", key', false⟩] =
          [.put (.ok ()), .got (.ok (some key))] := by
      have hget : (MemoryStorage.empty.write ⟨"", describeKey key⟩ key).find? "" key' = some key := by
        rw [MemoryStorage.find?_eq, MemoryStorage.itemAt?_write, htext, if_pos rfl]
      show [StorageAnswer.put (.ok ()),
        .got (.ok ((MemoryStorage.empty.write ⟨"", describeKey key⟩ key).find? "" key'))] = _
      rw [hget]
    rw [hfound] at hpair
    cases hpair.get_other (Ne.symm hne)
  · intro hK requests hrequests
    exact (represents_empty K).answers hK hrequests

namespace CommaExample

def key : Item := [("pk", .text "a, sk=b"), ("sk", .text "c")]

def other : Item := [("pk", .text "a"), ("sk", .text "b, sk=c")]

def requests : List StorageRequest := [.put ⟨"T", key, key, none⟩, .get ⟨"T", other, false⟩]

end CommaExample

open CommaExample in
/-- Two keys with one text: an item put under the first is found under the second. -/
theorem item_found_under_another_key :
    MemoryStorage.empty.answers requests = [.put (.ok ()), .got (.ok (some key))] ∧
      ¬Answers empty requests (MemoryStorage.empty.answers requests) := by
  have hfound : (MemoryStorage.empty.write ⟨"T", describeKey key⟩ key).find? "T" other =
      some key := by decide +kernel
  have hanswers : MemoryStorage.empty.answers requests =
      [.put (.ok ()), .got (.ok (some key))] := by
    show [StorageAnswer.put (.ok ()),
      .got (.ok ((MemoryStorage.empty.write ⟨"T", describeKey key⟩ key).find? "T" other))] = _
    rw [hfound]
  refine ⟨hanswers, fun h => ?_⟩
  rw [hanswers] at h
  cases h.get_other (by decide)

end KeyedItems

/-! ## Keys told apart -/

/-- The entry of a key as a text. -/
def keyEntryText (entry : String × AttributeValue) : List Char :=
  entry.1.toList ++ '=' :: entry.2.keyText.toList

theorem describeKey_toList (key : Item) :
    (describeKey key).toList = [',', ' '].intercalate (key.map keyEntryText) := by
  rw [describeKey, String.toList_intercalate, List.map_map]
  refine congrArg _ (List.map_congr_left fun entry _ => ?_)
  simp [keyEntryText]

/-- The entry is a text without a comma. -/
def IsPlainEntry (entry : String × AttributeValue) : Prop :=
  ∃ content, entry.2 = .text content ∧ ',' ∉ content.toList

theorem keyEntries_inj {key key' : Item} (hnames : Dict.keys key = Dict.keys key')
    (hplain : ∀ entry ∈ key, IsPlainEntry entry) (hplain' : ∀ entry ∈ key', IsPlainEntry entry)
    (h : [',', ' '].intercalate (key.map keyEntryText) =
      [',', ' '].intercalate (key'.map keyEntryText)) : key = key' := by
  induction key generalizing key' with
  | nil => exact (List.map_eq_nil_iff.mp hnames.symm).symm
  | cons entry rest ih =>
    obtain ⟨entry', rest', rfl⟩ := List.exists_cons_of_ne_nil fun hnil : key' = [] => by
      rw [hnil] at hnames
      cases hnames
    obtain ⟨hname, hrest⟩ := List.cons.inj hnames
    obtain ⟨name, value⟩ := entry
    obtain ⟨name', value'⟩ := entry'
    obtain ⟨content, hvalue, hcomma⟩ := hplain _ List.mem_cons_self
    obtain ⟨content', hvalue', hcomma'⟩ := hplain' _ List.mem_cons_self
    dsimp only at hname hvalue hvalue'
    subst hname hvalue hvalue'
    cases rest with
    | nil =>
      obtain rfl : rest' = [] := List.map_eq_nil_iff.mp hrest.symm
      rw [List.map_singleton, List.map_singleton, List.intercalate_singleton,
        List.intercalate_singleton] at h
      have hcontent : content.toList = content'.toList :=
        (List.cons.inj (List.append_cancel_left h)).2
      rw [String.toList_injective hcontent]
    | cons second rest =>
      obtain ⟨second', rest', rfl⟩ := List.exists_cons_of_ne_nil fun hnil : rest' = [] => by
        rw [hnil] at hrest
        cases hrest
      have hsplit (content : String) (tail : List Char) :
          keyEntryText (name, .text content) ++ [',', ' '] ++ tail =
            name.toList ++ '=' :: (content.toList ++ ',' :: ' ' :: tail) := by
        simp [keyEntryText, AttributeValue.keyText]
      rw [List.map_cons, List.map_cons, List.intercalate_cons_cons, hsplit, List.map_cons,
        List.map_cons, List.intercalate_cons_cons, hsplit] at h
      obtain ⟨hcontent, htail⟩ := Text.append_cons_inj hcomma hcomma'
        (List.cons.inj (List.append_cancel_left h)).2
      have hsame := ih hrest (fun entry hentry => hplain entry (List.mem_cons_of_mem _ hentry))
        (fun entry hentry => hplain' entry (List.mem_cons_of_mem _ hentry)) (List.cons.inj htail).2
      rw [String.toList_injective hcontent, hsame]

/-- Keys of the same attributes whose values are texts without a comma are told apart by their
texts. -/
theorem injOn_describeKey (names : List String) : Set.InjOn describeKey
    {key | Dict.keys key = names ∧ ∀ entry ∈ key, IsPlainEntry entry} := by
  rintro key ⟨hnames, hplain⟩ key' ⟨hnames', hplain'⟩ h
  refine keyEntries_inj (hnames.trans hnames'.symm) hplain hplain' ?_
  rw [← describeKey_toList, ← describeKey_toList, h]

end Keyspace
