import Keyspace.Proofs.Dict
import Keyspace.Template.Basic

/-!
# Writes that replace each other

A write puts a value at a place. A second write to the place replaces the first, and writes to
different places do not meet, so of all writes to a place only the last one shows: a run of writes
that is repeated changes nothing more. Entries of dictionaries, members of JSON objects, parts of a
dictionary's values are written in this way.
-/
namespace Keyspace

/-- Values are written to places, each of which holds what was written to it last. -/
structure Overwrites {σ κ α : Type} (write : σ → κ → α → σ) : Prop where
  again : ∀ s place v w, write (write s place v) place w = write s place w
  apart : ∀ s place place' v w, place ≠ place' →
    write (write s place v) place' w = write (write s place' w) place v

/-- Writes several values, one after another. -/
def writeAll {σ κ α : Type} (write : σ → κ → α → σ) (s : σ) (writes : List (κ × α)) : σ :=
  writes.foldl (fun s entry => write s entry.1 entry.2) s

theorem writeAll_append {σ κ α : Type} (write : σ → κ → α → σ) (s : σ)
    (writes later : List (κ × α)) :
    writeAll write s (writes ++ later) = writeAll write (writeAll write s writes) later :=
  List.foldl_append

namespace Overwrites

section Runs

variable {σ κ α : Type} {write : σ → κ → α → σ} (h : Overwrites write)
include h

/-- A write to a place that is written to later leaves no trace. -/
theorem writeAll_write {later : List (κ × α)} {place : κ} (hplace : place ∈ later.map (·.1)) (s : σ)
    (v : α) : writeAll write (write s place v) later = writeAll write s later := by
  induction later generalizing s with
  | nil => cases hplace
  | cons entry rest ih =>
    show writeAll write (write (write s place v) entry.1 entry.2) rest =
      writeAll write (write s entry.1 entry.2) rest
    by_cases heq : place = entry.1
    · rw [heq, h.again]
    · rw [h.apart _ _ _ _ _ heq]
      exact ih ((List.mem_cons.mp hplace).resolve_left heq) _

theorem writeAll_writeAll {writes later : List (κ × α)}
    (hplaces : ∀ entry ∈ writes, entry.1 ∈ later.map (·.1)) (s : σ) :
    writeAll write (writeAll write s writes) later = writeAll write s later := by
  induction writes generalizing s with
  | nil => rfl
  | cons entry rest ih =>
    rw [List.forall_mem_cons] at hplaces
    exact (ih hplaces.2 _).trans (h.writeAll_write hplaces.1 s entry.2)

/-- Writing everything a second time changes nothing. -/
theorem writeAll_again (s : σ) (writes : List (κ × α)) :
    writeAll write (writeAll write s writes) writes = writeAll write s writes :=
  h.writeAll_writeAll (fun _ hentry => List.mem_map_of_mem hentry) s

end Runs

end Overwrites

/-! ## Dictionaries -/

namespace Dict

variable {α : Type}

theorem insert_insert_self (d : Dict α) (key : String) (v w : α) :
    insert (insert d key v) key w = insert d key w := by
  induction d with
  | nil => exact insert_cons_self [] key v w
  | cons entry rest ih =>
    obtain ⟨k, x⟩ := entry
    rcases lt_trichotomy key k with hlt | rfl | hgt
    · rw [insert_cons_of_lt hlt, insert_cons_of_lt hlt, insert_cons_self]
    · rw [insert_cons_self, insert_cons_self, insert_cons_self]
    · rw [insert_cons_of_gt hgt, insert_cons_of_gt hgt, insert_cons_of_gt hgt, ih]

/-- Whether the keys of the dictionary increase or not, entries find their own places. -/
theorem insert_comm_of_lt (d : Dict α) {key key' : String} (h : key < key') (v w : α) :
    insert (insert d key v) key' w = insert (insert d key' w) key v := by
  induction d with
  | nil =>
    show insert [(key, v)] key' w = insert [(key', w)] key v
    rw [insert_cons_of_gt h, insert_cons_of_lt h]
    rfl
  | cons entry rest ih =>
    obtain ⟨k, x⟩ := entry
    rcases lt_trichotomy key k with hlt | rfl | hgt
    · rw [insert_cons_of_lt hlt, insert_cons_of_gt h]
      rcases lt_trichotomy key' k with hlt' | rfl | hgt'
      · rw [insert_cons_of_lt hlt', insert_cons_of_lt h]
      · rw [insert_cons_self, insert_cons_of_lt h]
      · rw [insert_cons_of_gt hgt', insert_cons_of_lt hlt]
    · rw [insert_cons_self, insert_cons_of_gt h, insert_cons_of_gt h, insert_cons_self]
    · rw [insert_cons_of_gt hgt, insert_cons_of_gt (hgt.trans h), insert_cons_of_gt (hgt.trans h),
        insert_cons_of_gt hgt, ih]

theorem overwrites_insert : Overwrites (insert : Dict α → String → α → Dict α) where
  again := insert_insert_self
  apart d key key' v w hne := by
    rcases lt_or_gt_of_ne hne with hlt | hgt
    · exact insert_comm_of_lt d hlt v w
    · exact (insert_comm_of_lt d hgt w v).symm

theorem modify_comm (d : Dict α) {key key' : String} (h : key ≠ key') (f g : α → α) :
    modify (modify d key f) key' g = modify (modify d key' g) key f := by
  unfold modify
  rw [List.map_map, List.map_map]
  refine List.map_congr_left fun entry _ => ?_
  by_cases hkey : entry.1 = key <;> by_cases hkey' : entry.1 = key' <;> simp_all

end Dict

namespace Overwrites

variable {σ κ α : Type} {write : σ → κ → α → σ} (h : Overwrites write)
include h

/-- Places in the values of a dictionary. -/
theorem modify : Overwrites fun (d : Dict σ) (place : String × κ) v =>
    d.modify place.1 (write · place.2 v) where
  again d place v w := by
    rw [Dict.modify_modify]
    congr 1
    exact funext fun s => h.again s place.2 v w
  apart d place place' v w hne := by
    by_cases hkey : place.1 = place'.1
    · have hne' : place.2 ≠ place'.2 := fun heq => hne (Prod.ext hkey heq)
      rw [hkey, Dict.modify_modify, Dict.modify_modify]
      congr 1
      exact funext fun s => h.apart s place.2 place'.2 v w hne'
    · exact Dict.modify_comm d hkey _ _

/-- The same place in all values of a dictionary. -/
theorem mapValues : Overwrites fun (d : Dict σ) (place : κ) v => d.mapValues (write · place v) where
  again d place v w := by
    unfold Dict.mapValues
    rw [List.map_map]
    exact List.map_congr_left fun entry _ => Prod.ext rfl (h.again entry.2 place v w)
  apart d place place' v w hne := by
    unfold Dict.mapValues
    rw [List.map_map, List.map_map]
    exact List.map_congr_left fun entry _ => Prod.ext rfl (h.apart entry.2 place place' v w hne)

end Overwrites

/-! ## Values -/

namespace Json

theorem overwrites_setMember : Overwrites Json.setMember where
  again value key v w := congrArg obj (Dict.insert_insert_self value.membersOrNone key v w)
  apart value key key' v w hne :=
    congrArg obj (Dict.overwrites_insert.apart value.membersOrNone key key' v w hne)

theorem updateMember_updateMember (value : Json) (key : String) (f g : Json → Json) :
    (value.updateMember key f).updateMember key g = value.updateMember key (g ∘ f) := by
  unfold updateMember
  rw [overwrites_setMember.again]
  congr 2
  show ((Dict.insert value.membersOrNone key _).get? key).getD (obj []) = _
  rw [Dict.get?_insert_self]
  rfl

end Json

/-- Places in a member of a value. -/
theorem Overwrites.updateMember {κ α : Type} {write : Json → κ → α → Json} (h : Overwrites write)
    (key : String) : Overwrites fun (value : Json) (place : κ) v =>
      value.updateMember key (write · place v) where
  again value place v w := by
    rw [Json.updateMember_updateMember]
    congr 1
    exact funext fun member => h.again member place v w
  apart value place place' v w hne := by
    rw [Json.updateMember_updateMember, Json.updateMember_updateMember]
    congr 1
    exact funext fun member => h.apart member place place' v w hne

end Keyspace
