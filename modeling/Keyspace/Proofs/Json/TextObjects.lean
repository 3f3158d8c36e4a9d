import Keyspace.Environment
import Keyspace.Proofs.Json.PrintedText
import Keyspace.Proofs.Text.Marks

/-!
# Reading objects of texts

An object whose members are texts of plain characters is written without blanks and escapes.
The reader takes such a text member by member and gives back the members it was made of. Whatever
text an object is read from, its members are a dictionary.
-/
namespace Keyspace.Json

/-- A character that stands for itself in a JSON string. -/
structure IsPlainChar (c : Char) : Prop where
  not_quote : c ≠ '"'
  not_backslash : c ≠ '\\'
  printable : 0x20 ≤ c.toNat

/-- The text of a member that is a text. -/
def textMember (entry : String × String) : List Char :=
  '"' :: entry.1.toList ++ '"' :: ':' :: '"' :: entry.2.toList ++ ['"']

/-- The text of an object whose members are texts. -/
def textObject (entries : List (String × String)) : List Char :=
  '\x7b' :: [','].intercalate (entries.map textMember) ++ ['\x7d']

/-- The name and the text of a member are made of plain characters. -/
structure IsPlainMember (entry : String × String) : Prop where
  key : ∀ c ∈ entry.1.toList, IsPlainChar c
  text : ∀ c ∈ entry.2.toList, IsPlainChar c

theorem escapeChar_plain {c : Char} (h : IsPlainChar c) : escapeChar c = [c] := by
  have hcontrol {d : Char} (hd : d.toNat < 0x20) : c ≠ d := by
    rintro rfl
    exact absurd h.printable (Nat.not_le.mpr hd)
  unfold escapeChar
  rw [if_neg h.not_quote, if_neg h.not_backslash, if_neg (hcontrol (by decide)),
    if_neg (hcontrol (by decide)), if_neg (hcontrol (by decide)), if_neg (hcontrol (by decide)),
    if_neg (hcontrol (by decide)), if_neg (Nat.not_lt.mpr h.printable)]

theorem quote_plain {text : String} (h : ∀ c ∈ text.toList, IsPlainChar c) :
    (quote text).toList = '"' :: text.toList ++ ['"'] := by
  rw [quote, String.toList_ofList, List.flatMap_congr fun c hc => escapeChar_plain (h c hc)]
  simp

theorem readsAs_textMember {depth : Nat} {entry : String × String} (h : IsPlainMember entry) :
    ReadsAsMember depth (textMember entry) (entry.1, str entry.2) := by
  refine ⟨[], _, by simp, readsAs_str entry.2, ?_⟩
  rw [quote_plain h.key, quote_plain h.text]
  simp [textMember]

theorem readsAs_textObject {depth : Nat} {entries : List (String × String)}
    (h : ∀ e ∈ entries, IsPlainMember e) :
    ReadsAs (depth + 1) (textObject entries) (object (entries.map fun e => (e.1, str e.2))) := by
  cases entries with
  | nil => exact readsAs_atom (by decide) fun fuel rest _ => rfl
  | cons entry entries =>
    have hmembers : List.Forall₂ (ReadsAsMember depth) ((entry :: entries).map textMember)
        ((entry :: entries).map fun e => (e.1, str e.2)) := by
      rw [List.forall₂_map_left_iff, List.forall₂_map_right_iff]
      exact List.forall₂_same.mpr fun e he => readsAs_textMember (h e he)
    have hread := readsAs_object hmembers (List.cons_ne_nil _ _) (List.forall_mem_nil _)
      (List.forall_mem_nil _)
    rwa [List.append_nil] at hread

/-- The text of an object of texts is read back as that object. -/
theorem parse_textObject {entries : List (String × String)} (h : ∀ e ∈ entries, IsPlainMember e) :
    parse (String.ofList (textObject entries)) =
      .ok (object (entries.map fun e => (e.1, str e.2))) := by
  have htext : (String.ofList (textObject entries)).toList = textObject entries ++ [] := by
    rw [String.toList_ofList, List.append_nil]
  exact parse_of_readsAs htext (readsAs_textObject h) (List.forall_mem_nil _)

/-! ## Members in order -/

open Result

/-- The double that a number is if it is no whole one. -/
abbrev doubleOrRefuse (x : Option Double) : Except String Json :=
  match x with
  | some x => pure (float x)
  | none => throw "number out of range"

theorem asObject?_of_doubleOrRefuse {x : Option Double} {value : Json} {rest rest' : List Char}
    (h : (doubleOrRefuse x >>= fun value => pure (value, rest)) = .ok (value, rest')) :
    value.asObject? = none := by
  cases x <;> cases h
  rfl

/-- The value is decided when the digits have been read. -/
theorem asObject?_of_digitsRead {scaled negative large : Prop} [Decidable scaled]
    [Decidable negative] [Decidable large] {x y : Option Double} {m n : Int} {value : Json}
    {rest rest' : List Char}
    (h : (if scaled then doubleOrRefuse x >>= fun value => pure (value, rest)
      else if negative then
        if large then doubleOrRefuse y >>= fun value => pure (value, rest)
        else pure (int m, rest)
      else pure (int n, rest)) = .ok (value, rest')) : value.asObject? = none := by
  split at h
  · exact asObject?_of_doubleOrRefuse h
  · split at h
    · split at h
      · exact asObject?_of_doubleOrRefuse h
      · cases h
        rfl
    · cases h
      rfl

theorem asObject?_of_readNumber {negative : Bool} {text rest : List Char} {value : Json}
    (h : readNumber negative text = .ok (value, rest)) : value.asObject? = none := by
  unfold readNumber at h
  obtain ⟨-, h⟩ := check_eq_ok.mp h
  obtain ⟨-, h⟩ := check_eq_ok.mp h
  dsimp only at h
  -- with or without a fraction, and then with or without an exponent
  split at h
  · obtain ⟨-, h⟩ := check_eq_ok.mp h
    obtain ⟨_, -, h⟩ := bind_eq_ok.mp h
    split at h
    · split at h
      · obtain ⟨-, h⟩ := check_eq_ok.mp h
        obtain ⟨_, -, h⟩ := bind_eq_ok.mp h
        exact asObject?_of_digitsRead h
      · obtain ⟨_, -, h⟩ := bind_eq_ok.mp h
        exact asObject?_of_digitsRead h
    · obtain ⟨_, -, h⟩ := bind_eq_ok.mp h
      exact asObject?_of_digitsRead h
  · obtain ⟨_, -, h⟩ := bind_eq_ok.mp h
    split at h
    · split at h
      · obtain ⟨-, h⟩ := check_eq_ok.mp h
        obtain ⟨_, -, h⟩ := bind_eq_ok.mp h
        exact asObject?_of_digitsRead h
      · obtain ⟨_, -, h⟩ := bind_eq_ok.mp h
        exact asObject?_of_digitsRead h
    · obtain ⟨_, -, h⟩ := bind_eq_ok.mp h
      exact asObject?_of_digitsRead h

theorem eq_of_readWord {expected rest rest' : List Char} {value found : Json}
    (h : readValue.word expected value rest = .ok (found, rest')) : found = value := by
  unfold readValue.word at h
  split at h <;> cases h
  rfl

/-- The members of an object that is read are a dictionary. -/
theorem ordered_of_readValue {fuel depth : Nat} {text rest : List Char}
    {members : List (String × Json)} (h : readValue fuel depth text = .ok (obj members, rest)) :
    Dict.Ordered members := by
  cases fuel with
  | zero => cases h
  | succ fuel =>
    unfold readValue at h
    split at h
    · cases h
    · obtain ⟨_, -, h⟩ := bind_eq_ok.mp h
      cases h
    · split at h
      · cases h
      · split at h
        · cases h
        · obtain ⟨_, -, h⟩ := bind_eq_ok.mp h
          cases h
    · split at h
      · cases h
      · split at h
        · cases h
          exact Dict.ordered_nil
        · obtain ⟨_, -, h⟩ := bind_eq_ok.mp h
          cases h
          exact Dict.ordered_ofList _
    · cases asObject?_of_readNumber h
    · cases eq_of_readWord h
    · cases eq_of_readWord h
    · cases eq_of_readWord h
    · split at h
      · cases asObject?_of_readNumber h
      · cases h

theorem ordered_of_parse {text : String} {members : List (String × Json)}
    (h : parse text = .ok (obj members)) : Dict.Ordered members := by
  obtain ⟨⟨value, rest⟩, hvalue, h⟩ := bind_eq_ok.mp h
  dsimp only at h
  split at h
  · cases h
    exact ordered_of_readValue hvalue
  · cases h

end Keyspace.Json

namespace Keyspace.Environment

open Result

/-- Members are read as texts if and only if they are texts. -/
theorem mapM_text_eq_ok_iff {read : String × Json → Result (String × String)}
    (hread : ∀ member entry, read member = .ok entry ↔ member = (entry.1, Json.str entry.2))
    {members : List (String × Json)} {texts : Dict String} :
    members.mapM read = .ok texts ↔ members = texts.mapValues .str := by
  rw [mapM_eq_ok, Dict.mapValues]
  simp only [hread]
  rw [← List.forall₂_eq_eq_eq, List.forall₂_map_right_iff]

theorem readTexts_of_blank {text : String} (h : ∀ c ∈ text.toList, Text.isBlank c = true)
    (name : String) : readTexts name (some text) = .ok [] := by
  unfold readTexts
  rw [Option.filter_some, Text.trim_eq_nil_iff.mpr h]
  rfl

theorem readTexts_of_mark {text : String} (h : ∃ c ∈ text.toList, Text.isBlank c = false)
    {name : String} {texts : Dict String} :
    readTexts name (some text) = .ok texts ↔
      Json.parse text = .ok (.obj (texts.mapValues .str)) := by
  obtain ⟨c, hmem, hc⟩ := h
  have hne : Text.trim text.toList ≠ [] := List.ne_nil_of_mem ((Text.mem_trim hc).mpr hmem)
  unfold readTexts
  rw [Option.filter_some, List.isEmpty_eq_false_iff.mpr hne]
  simp only [Bool.not_false, if_true]
  cases hparse : Json.parse text with
  | error => simp
  | ok value =>
    cases value with
    | obj members =>
      rw [Except.ok.injEq, Json.obj.injEq]
      refine mapM_text_eq_ok_iff fun member entry => ?_
      obtain ⟨key, value⟩ := member
      obtain ⟨key', text'⟩ := entry
      cases value <;> simp
    | _ => simp

/-- A variable with the text of an object of texts has these texts. -/
theorem readTexts_textObject {entries : List (String × String)}
    (h : ∀ e ∈ entries, Json.IsPlainMember e) (name : String) :
    readTexts name (some (String.ofList (Json.textObject entries))) =
      .ok (Dict.ofList entries) := by
  have hmark : ∃ c ∈ (String.ofList (Json.textObject entries)).toList, Text.isBlank c = false := by
    rw [String.toList_ofList]
    exact ⟨'\x7b', List.mem_cons_self, by decide⟩
  rw [readTexts_of_mark hmark, Json.parse_textObject h, Json.object, Dict.ofList_map]

end Keyspace.Environment
