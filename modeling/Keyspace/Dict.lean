/-!
# Dictionaries kept in key order

A dictionary is a list of entries whose keys strictly increase, in the order of
code points. Listing one therefore needs no sorting, and two dictionaries with
the same entries are the same list. `insert` and `erase` keep the order.
-/
namespace Keyspace

/-- Entries by key, in increasing key order. -/
abbrev Dict (α : Type u) := List (String × α)

namespace Dict

variable {α : Type u} {β : Type v}

def empty : Dict α := []

/-- Puts `value` under `key`, replacing what was there. -/
def insert : Dict α → String → α → Dict α
  | [], key, value => [(key, value)]
  | (k, v) :: rest, key, value =>
    if key < k then (key, value) :: (k, v) :: rest
    else if key = k then (key, value) :: rest
    else (k, v) :: insert rest key value

def get? : Dict α → String → Option α
  | [], _ => none
  | (k, v) :: rest, key => if k = key then some v else get? rest key

def contains (d : Dict α) (key : String) : Bool := (d.get? key).isSome

def erase : Dict α → String → Dict α
  | [], _ => []
  | (k, v) :: rest, key => if k = key then rest else (k, v) :: erase rest key

def keys (d : Dict α) : List String := d.map (·.1)

def values (d : Dict α) : List α := d.map (·.2)

def mapValues (f : α → β) (d : Dict α) : Dict β := d.map fun entry => (entry.1, f entry.2)

/-- The dictionary of the entries in the list; of several under one key the last wins. -/
def ofList (entries : List (String × α)) : Dict α :=
  entries.foldl (fun d entry => Dict.insert d entry.1 entry.2) []

/-- The entries of both; those of `other` win. -/
def union (d other : Dict α) : Dict α :=
  other.foldl (fun d entry => Dict.insert d entry.1 entry.2) d

/-- Changes the value under `key`, if there is one. -/
def modify (d : Dict α) (key : String) (f : α → α) : Dict α :=
  d.map fun entry => if entry.1 = key then (entry.1, f entry.2) else entry

/-- The keys strictly increase. -/
def Ordered (d : Dict α) : Prop := d.Pairwise fun a b => a.1 < b.1

@[simp] theorem get?_nil (key : String) : get? ([] : Dict α) key = none := rfl

@[simp] theorem get?_insert_self (d : Dict α) (key : String) (value : α) :
    get? (insert d key value) key = some value := by
  induction d with
  | nil => simp [insert, get?]
  | cons entry rest ih =>
    obtain ⟨k, v⟩ := entry
    simp only [insert]
    split
    · simp [get?]
    · split
      · simp [get?]
      · next h => simp [get?, ih, Ne.symm h]

theorem get?_insert_ne (d : Dict α) {key other : String} (value : α) (h : other ≠ key) :
    get? (insert d key value) other = get? d other := by
  induction d with
  | nil => simp [insert, get?, Ne.symm h]
  | cons entry rest ih =>
    obtain ⟨k, v⟩ := entry
    simp only [insert]
    split
    · simp [get?, Ne.symm h]
    · split
      · next hk => subst hk; simp [get?, Ne.symm h]
      · simp [get?, ih]

theorem get?_erase_ne (d : Dict α) {key other : String} (h : other ≠ key) :
    get? (erase d key) other = get? d other := by
  induction d with
  | nil => rfl
  | cons entry rest ih =>
    obtain ⟨k, v⟩ := entry
    simp only [erase]
    split
    · next hk => subst hk; simp [get?, Ne.symm h]
    · simp [get?, ih]

end Dict

/-- The distinct texts of a list, in increasing order. -/
def sortedDistinct (texts : List String) : List String :=
  (Dict.ofList (texts.map fun text => (text, ()))).keys

end Keyspace
