import Keyspace.Json.Printer
import Keyspace.Json.Reader
import Keyspace.Proofs.Action
import Keyspace.Proofs.Dict
import Keyspace.Proofs.Number.IntegerText
import Mathlib.Data.List.DropRight

/-!
# Printed text is read back

What the printer writes, the reader takes back character by character: strings with their escapes,
whole numbers of 64 bits, and containers with a member or an element a line. So a value without
doubles is read from its printed text, if its objects are dictionaries and it nests no deeper than
the reader goes.
-/
namespace Keyspace.Json

theorem ok_bind {ε α β : Type} (a : α) (f : α → Except ε β) : (Except.ok a >>= f) = f a := rfl

/-! ## Strings -/

theorem hexValue?_hexDigit : ∀ n < 16, hexValue? (hexDigit n) = some n := by decide

/-- A control character is read from its number. -/
theorem readEscape_control {c : Char} (h : c.toNat < 0x20) (rest : List Char) :
    readEscape ('u' :: '0' :: '0' :: hexDigit (c.toNat / 16) :: hexDigit (c.toNat % 16) :: rest) =
      some (c, rest) := by
  have hunit : readHex4 ('0' :: '0' :: hexDigit (c.toNat / 16) :: hexDigit (c.toNat % 16) :: rest) =
      some (c.toNat, rest) := by
    have hvalue : ((0 * 16 + 0) * 16 + c.toNat / 16) * 16 + c.toNat % 16 = c.toNat := by omega
    rw [readHex4, hexValue?_hexDigit _ (by omega), hexValue?_hexDigit _ (by omega),
      (by decide : hexValue? '0' = some 0)]
    exact congrArg (fun n => some (n, rest)) hvalue
  show readUnicodeEscape _ = _
  unfold readUnicodeEscape
  rw [hunit]
  show (if 0xD800 ≤ c.toNat ∧ c.toNat < 0xDC00 then _
    else if 0xDC00 ≤ c.toNat ∧ c.toNat < 0xE000 then _
    else some (Char.ofNat c.toNat, rest)) = _
  rw [if_neg (by omega), if_neg (by omega), Char.ofNat_toNat]

/-- A character behind a backslash is read from its escape. -/
theorem readStringBody_escape {text rest : List Char} {c : Char}
    (h : readEscape text = some (c, rest)) (fuel : Nat) :
    readStringBody (fuel + 1) ('\\' :: text) =
      (readStringBody fuel rest).map fun read => (c :: read.1, read.2) := by
  rw [readStringBody, h]
  dsimp only
  cases readStringBody fuel rest <;> rfl

/-- Each character is read from the way it is written. -/
theorem readStringBody_escapeChar (c : Char) (fuel : Nat) (rest : List Char) :
    readStringBody (fuel + 1) (escapeChar c ++ rest) =
      (readStringBody fuel rest).map fun read => (c :: read.1, read.2) := by
  unfold escapeChar
  split_ifs with hquote hbackslash hback hfeed hline hreturn htab hcontrol
  · subst hquote
    exact readStringBody_escape rfl fuel
  · subst hbackslash
    exact readStringBody_escape rfl fuel
  · subst hback
    exact readStringBody_escape rfl fuel
  · subst hfeed
    exact readStringBody_escape rfl fuel
  · subst hline
    exact readStringBody_escape rfl fuel
  · subst hreturn
    exact readStringBody_escape rfl fuel
  · subst htab
    exact readStringBody_escape rfl fuel
  · exact readStringBody_escape (readEscape_control hcontrol rest) fuel
  · rw [List.singleton_append, readStringBody, if_neg hcontrol]
    · cases readStringBody fuel rest <;> rfl
    · exact hquote
    · exact hbackslash

theorem readStringBody_escaped {text : List Char} {fuel : Nat} (hfuel : text.length < fuel)
    (rest : List Char) :
    readStringBody fuel (text.flatMap escapeChar ++ '"' :: rest) = .ok (text, rest) := by
  induction text generalizing fuel with
  | nil =>
    obtain ⟨fuel, rfl⟩ : ∃ n, fuel = n + 1 := ⟨fuel - 1, by omega⟩
    rfl
  | cons c text ih =>
    obtain ⟨fuel, rfl⟩ : ∃ n, fuel = n + 1 := ⟨fuel - 1, by omega⟩
    rw [List.length_cons] at hfuel
    rw [List.flatMap_cons, List.append_assoc, readStringBody_escapeChar, ih (by omega)]
    rfl

theorem length_le_escaped (text : List Char) :
    text.length ≤ (text.flatMap escapeChar).length := by
  have hone (c : Char) : 1 ≤ (escapeChar c).length := by
    unfold escapeChar
    split_ifs <;> simp
  induction text with
  | nil => exact Nat.zero_le _
  | cons c text ih =>
    have hc := hone c
    rw [List.flatMap_cons, List.length_cons, List.length_append]
    omega

/-- A string is read from the text between its quotes. -/
theorem readString_escaped (text : String) (rest : List Char) :
    readString (text.toList.flatMap escapeChar ++ '"' :: rest) = .ok (text, rest) := by
  have hlength : text.toList.length <
      (text.toList.flatMap escapeChar ++ '"' :: rest).length + 1 := by
    have hescaped := length_le_escaped text.toList
    rw [List.length_append]
    omega
  rw [readString, readStringBody_escaped hlength, ok_bind]
  show Except.ok (String.ofList text.toList, rest) = _
  rw [String.ofList_toList]

/-! ## Whole numbers -/

/-- A text that no number goes on with. -/
def EndsNumber (text : List Char) : Prop :=
  ∀ c ∈ text.head?, c.isDigit = false ∧ c ≠ '.' ∧ c ≠ 'e' ∧ c ≠ 'E'

/-- Digits are taken up as they are while they fit. -/
theorem foldl_wholeDigit {digits : List Char} (h : digitsValue digits ≤ uint64Max) :
    digits.foldl Significand.wholeDigit ⟨0, 0, false⟩ = ⟨digitsValue digits, 0, false⟩ := by
  induction digits using List.reverseRecOn with
  | nil => rfl
  | append_singleton digits c ih =>
    have hvalue : digitsValue (digits ++ [c]) = digitsValue digits * 10 + (c.toNat - 48) := by
      unfold digitsValue
      rw [List.foldl_append]
      rfl
    rw [hvalue] at h ⊢
    rw [List.foldl_append, ih (by omega)]
    show Significand.wholeDigit _ c = _
    unfold Significand.wholeDigit
    rw [if_neg (by simpa using h)]

/-- Only the number zero begins with the digit zero. -/
theorem head?_toDigits {n : Nat} (h : (Nat.toDigits 10 n).head? = some '0') : n = 0 := by
  induction n using Nat.strongRecOn with
  | ind n ih =>
    by_cases hn : n < 10
    · rw [Nat.toDigits_of_lt_base hn] at h
      have hdigit : ∀ n < 10, Nat.digitChar n = '0' → n = 0 := by decide
      exact hdigit n hn (Option.some.inj h)
    · rw [Nat.toDigits_of_base_le (by decide) (by omega), List.head?_append_of_ne_nil _
        Nat.toDigits_ne_nil] at h
      have hzero := ih (n / 10) (by omega) h
      omega

/-- Digits without a fraction and an exponent are a whole number, if it is not too small. -/
theorem int_of_digitsRead {n : Nat} {negative : Bool} {rest : List Char}
    {tooSmall : Except String (Json × List Char)}
    (hnegative : negative = true → n ≠ 0 ∧ n ≤ int64Min.natAbs) :
    (if negative = true then
        if n = 0 ∨ n > int64Min.natAbs then tooSmall else pure (int (-(n : Int)), rest)
      else pure (int n, rest)) = .ok (int (if negative then -(n : Int) else n), rest) := by
  cases negative with
  | false => rfl
  | true =>
    obtain ⟨hzero, hsmall⟩ := hnegative rfl
    rw [if_pos rfl, if_neg (by omega)]
    rfl

/-- The digits of a number are all that is taken off a text behind them. -/
theorem readNumber_toDigits {n : Nat} {negative : Bool} {rest : List Char}
    (hrest : EndsNumber rest) (hn : n ≤ uint64Max)
    (hnegative : negative = true → n ≠ 0 ∧ n ≤ int64Min.natAbs) :
    readNumber negative (Nat.toDigits 10 n ++ rest) =
      .ok (int (if negative then -(n : Int) else n), rest) := by
  have hdigits : ∀ c ∈ Nat.toDigits 10 n, c.isDigit = true := fun c hc =>
    Nat.isDigit_of_mem_toDigits (by decide) (by decide) hc
  have hzero : ¬((Nat.toDigits 10 n).head? = some '0' ∧ (Nat.toDigits 10 n).length > 1) := by
    rintro ⟨hhead, hlength⟩
    rw [head?_toDigits hhead] at hlength
    exact absurd hlength (by decide)
  have hvalue : (Nat.toDigits 10 n).foldl Significand.wholeDigit ⟨0, 0, false⟩ = ⟨n, 0, false⟩ := by
    rw [foldl_wholeDigit (by rwa [digitsValue_toDigits]), digitsValue_toDigits]
  unfold readNumber
  rw [spanDigits_append hdigits fun c hc => (hrest c hc).1]
  dsimp only
  rw [if_neg Nat.toDigits_ne_nil, if_neg hzero, hvalue]
  cases rest with
  | nil => exact int_of_digitsRead hnegative
  | cons c rest =>
    obtain ⟨-, hpoint, he, hE⟩ := hrest c rfl
    split
    · next h => exact absurd (List.cons.inj h).1 hpoint
    · show (if c = 'e' ∨ c = 'E' then _ else _) = _
      rw [if_neg (by simp [he, hE])]
      exact int_of_digitsRead hnegative

/-! ## Values -/

theorem skipBlanks_cons {c : Char} (h : isBlank c = false) (rest : List Char) :
    skipBlanks (c :: rest) = c :: rest := by
  simp [skipBlanks, h]

theorem skipBlanks_append {blanks : List Char} (h : ∀ c ∈ blanks, isBlank c = true)
    (rest : List Char) : skipBlanks (blanks ++ rest) = skipBlanks rest :=
  List.dropWhile_append_of_pos h

theorem skipBlanks_skipBlanks (text : List Char) :
    skipBlanks (skipBlanks text) = skipBlanks text := List.dropWhile_idempotent isBlank text

theorem readValue_congr {text text' : List Char} (h : skipBlanks text = skipBlanks text')
    (fuel depth : Nat) : readValue fuel depth text = readValue fuel depth text' := by
  cases fuel with
  | zero => rfl
  | succ fuel =>
    unfold readValue
    rw [h]

theorem readValue_digit {c : Char} (h : c.isDigit = true) (fuel depth : Nat) (rest : List Char) :
    readValue (fuel + 1) depth (c :: rest) = readNumber false (c :: rest) := by
  have hblank : isBlank c = false := by
    by_contra hblank
    simp only [isBlank, Bool.not_eq_false, Bool.or_eq_true, decide_eq_true_eq] at hblank
    obtain ((rfl | rfl) | rfl) | rfl := hblank <;> exact absurd h (by decide)
  rw [readValue, skipBlanks_cons hblank]
  split
  case h_9 heq =>
    cases heq
    rw [if_pos h]
  all_goals
    next heq => cases heq <;> exact absurd h (by decide)

theorem readValue_int {n : Int} (hlow : int64Min ≤ n) (hhigh : n ≤ uint64Max) {rest : List Char}
    (hrest : EndsNumber rest) (fuel depth : Nat) :
    readValue (fuel + 1) depth ((toString n).toList ++ rest) = .ok (int n, rest) := by
  rw [toList_toString_int]
  split
  · next hnegative =>
    have hvalue : -(n.natAbs : Int) = n := by omega
    rw [List.cons_append, readValue, skipBlanks_cons (by decide)]
    show readNumber true _ = _
    rw [readNumber_toDigits hrest (by unfold uint64Max; unfold int64Min at hlow; omega)
      fun _ => ⟨by omega, by unfold int64Min at hlow ⊢; omega⟩, if_pos rfl, hvalue]
  · next hnegative =>
    have hvalue : (n.natAbs : Int) = n := by omega
    have hread : readNumber false (Nat.toDigits 10 n.natAbs ++ rest) = .ok (int n.natAbs, rest) :=
      readNumber_toDigits hrest (by omega) fun h => nomatch h
    cases hdigits : Nat.toDigits 10 n.natAbs with
    | nil => exact absurd hdigits Nat.toDigits_ne_nil
    | cons c digits =>
      have hc : c.isDigit = true := Nat.isDigit_of_mem_toDigits (b := 10) (n := n.natAbs)
        (by decide) (by decide) (by rw [hdigits]; exact List.mem_cons_self)
      rw [hdigits] at hread
      rw [List.cons_append] at hread ⊢
      rw [readValue_digit hc, hread, hvalue]

/-- A text that is read as a value, whatever stands behind it that no number goes on with. -/
def ReadsAs (depth : Nat) (text : List Char) (value : Json) : Prop :=
  ∀ fuel rest, EndsNumber rest → 2 * (text ++ rest).length ≤ fuel →
    readValue fuel depth (text ++ rest) = .ok (value, rest)

variable {depth : Nat} {gap : List Char}

theorem endsNumber_cons {c : Char} (h : c.isDigit = false ∧ c ≠ '.' ∧ c ≠ 'e' ∧ c ≠ 'E')
    (rest : List Char) : EndsNumber (c :: rest) := by
  intro d hd
  cases hd
  exact h

/-- No number goes on with a blank, or with the mark behind blanks. -/
theorem endsNumber_blanks {blanks : List Char} (h : ∀ c ∈ blanks, isBlank c = true)
    {rest : List Char} (hrest : EndsNumber rest) : EndsNumber (blanks ++ rest) := by
  cases blanks with
  | nil => exact hrest
  | cons b blanks =>
    refine endsNumber_cons ?_ (blanks ++ rest)
    have hb := h b List.mem_cons_self
    simp only [isBlank, Bool.or_eq_true, decide_eq_true_eq] at hb
    obtain ((rfl | rfl) | rfl) | rfl := hb <;> decide


/-! ## Arrays -/

theorem readElements_congr {text text' : List Char} (h : skipBlanks text = skipBlanks text')
    (fuel depth : Nat) : readElements fuel depth text = readElements fuel depth text' := by
  cases fuel with
  | zero => rfl
  | succ fuel =>
    unfold readElements
    rw [readValue_congr h]

/-- Elements are read one after the other, with blanks around the commas and before the bracket. -/
theorem readElements_texts {texts : List (List Char)} {elements : List Json}
    (h : List.Forall₂ (ReadsAs depth) texts elements) (hne : texts ≠ [])
    (hgap : ∀ c ∈ gap, isBlank c = true) {ending : List Char}
    (hending : ∀ c ∈ ending, isBlank c = true) {fuel : Nat} {rest : List Char}
    (hfuel : 2 * ((',' :: gap).intercalate texts ++ (ending ++ ']' :: rest)).length < fuel) :
    readElements fuel depth ((',' :: gap).intercalate texts ++ (ending ++ ']' :: rest)) =
      .ok (elements, rest) := by
  induction h generalizing fuel with
  | nil => exact absurd rfl hne
  | @cons text element texts elements hfirst hmore ih =>
    obtain ⟨fuel, rfl⟩ : ∃ n, fuel = n + 1 := ⟨fuel - 1, by omega⟩
    cases hmore with
    | nil =>
      rw [List.intercalate_singleton] at hfuel ⊢
      have hends : EndsNumber (ending ++ ']' :: rest) :=
        endsNumber_blanks hending (endsNumber_cons (by decide) rest)
      rw [readElements, hfirst fuel _ hends (by omega), ok_bind]
      dsimp only
      rw [skipBlanks_append hending, skipBlanks_cons (by decide)]
      rfl
    | @cons next element' texts elements hnext hmore =>
      rw [List.intercalate_cons_cons, List.append_assoc, List.append_assoc,
        List.cons_append] at hfuel ⊢
      rw [readElements, hfirst fuel _ (endsNumber_cons (by decide) _) (by omega), ok_bind]
      dsimp only
      rw [skipBlanks_cons (by decide)]
      have hlater : readElements fuel depth
          (gap ++ ((',' :: gap).intercalate (next :: texts) ++ (ending ++ ']' :: rest))) =
            .ok (element' :: elements, rest) := by
        rw [readElements_congr (skipBlanks_append hgap _)]
        refine ih (List.cons_ne_nil _ _) ?_
        simp only [List.length_append, List.length_cons] at hfuel ⊢
        omega
      show (readElements fuel depth _ >>= _) = _
      rw [hlater]
      rfl

/-- What is read as elements does not begin with the closing bracket. -/
theorem skipBlanks_ne_of_readElements {fuel : Nat} {text : List Char}
    {read : List Json × List Char} (h : readElements fuel depth text = .ok read)
    (rest : List Char) : skipBlanks text ≠ ']' :: rest := by
  intro htext
  rw [readElements_congr (htext.trans (skipBlanks_cons (by decide) rest).symm)] at h
  match fuel with
  | 0 => cases h
  | 1 => cases h
  | fuel + 2 => cases h

/-- An array is read if its elements are. -/
theorem readsAs_arr {texts : List (List Char)} {elements : List Json}
    (h : List.Forall₂ (ReadsAs depth) texts elements) (hne : texts ≠ [])
    (hgap : ∀ c ∈ gap, isBlank c = true) {ending : List Char}
    (hending : ∀ c ∈ ending, isBlank c = true) :
    ReadsAs (depth + 1)
      ('[' :: gap ++ (',' :: gap).intercalate texts ++ ending ++ [']']) (arr elements) := by
  intro fuel rest hrest hfuel
  obtain ⟨fuel, rfl⟩ : ∃ n, fuel = n + 1 := ⟨fuel - 1, by simp at hfuel; omega⟩
  have htext : '[' :: gap ++ (',' :: gap).intercalate texts ++ ending ++ [']'] ++ rest =
      '[' :: (gap ++ ((',' :: gap).intercalate texts ++ (ending ++ ']' :: rest))) := by simp
  rw [htext] at hfuel ⊢
  have hread : readElements fuel depth
      (skipBlanks (gap ++ ((',' :: gap).intercalate texts ++ (ending ++ ']' :: rest)))) =
        .ok (elements, rest) := by
    rw [skipBlanks_append hgap, readElements_congr (skipBlanks_skipBlanks _)]
    refine readElements_texts h hne hgap hending ?_
    rw [List.length_cons, List.length_append] at hfuel
    omega
  rw [readValue, skipBlanks_cons (by decide)]
  show (if depth + 1 = 0 then throw "nesting too deep" else _) = _
  rw [if_neg (Nat.succ_ne_zero depth), Nat.add_sub_cancel]
  split
  · next closing hclosing =>
    rw [← skipBlanks_skipBlanks] at hclosing
    exact absurd hclosing (skipBlanks_ne_of_readElements hread closing)
  · rw [hread]
    rfl

/-! ## Objects -/

/-- A text that is read as a member: its quoted key, a colon and, behind blanks, its value. -/
def ReadsAsMember (depth : Nat) (text : List Char) (member : String × Json) : Prop :=
  ∃ blanks value, (∀ c ∈ blanks, isBlank c = true) ∧ ReadsAs depth value member.2 ∧
    text = (quote member.1).toList ++ ':' :: (blanks ++ value)

theorem readMembers_congr {text text' : List Char} (h : skipBlanks text = skipBlanks text')
    (fuel depth : Nat) : readMembers fuel depth text = readMembers fuel depth text' := by
  cases fuel with
  | zero => rfl
  | succ fuel =>
    unfold readMembers
    rw [h]

/-- A member is read up to the mark behind it. -/
theorem readMembers_member {text : List Char} {member : String × Json}
    (h : ReadsAsMember depth text member) {fuel : Nat} {rest : List Char}
    (hrest : EndsNumber rest) (hfuel : 2 * (text ++ rest).length ≤ fuel) :
    readMembers (fuel + 1) depth (text ++ rest) =
      match skipBlanks rest with
      | ',' :: rest => do
        let (members, rest) ← readMembers fuel depth rest
        pure (member :: members, rest)
      | '\x7d' :: rest => pure ([member], rest)
      | _ => throw "comma or brace expected" := by
  obtain ⟨blanks, value, hblanks, hvalue, rfl⟩ := h
  have htext : (quote member.1).toList ++ ':' :: (blanks ++ value) ++ rest =
      '"' :: (member.1.toList.flatMap escapeChar ++
        '"' :: ':' :: (blanks ++ (value ++ rest))) := by
    simp [quote]
  have hread : readValue fuel depth (blanks ++ (value ++ rest)) = .ok (member.2, rest) := by
    rw [readValue_congr (skipBlanks_append hblanks _)]
    refine hvalue fuel rest hrest ?_
    simp only [List.length_append, List.length_cons] at hfuel ⊢
    omega
  rw [htext, readMembers, skipBlanks_cons (by decide)]
  show (readString _ >>= _) = _
  rw [readString_escaped, ok_bind]
  dsimp only
  rw [skipBlanks_cons (by decide)]
  show (readValue fuel depth _ >>= _) = _
  rw [hread]
  rfl

/-- Members are read one after the other, with blanks around the commas and before the brace. -/
theorem readMembers_texts {texts : List (List Char)} {members : List (String × Json)}
    (h : List.Forall₂ (ReadsAsMember depth) texts members) (hne : texts ≠ [])
    (hgap : ∀ c ∈ gap, isBlank c = true) {ending : List Char}
    (hending : ∀ c ∈ ending, isBlank c = true) {fuel : Nat} {rest : List Char}
    (hfuel : 2 * ((',' :: gap).intercalate texts ++ (ending ++ '\x7d' :: rest)).length < fuel) :
    readMembers fuel depth ((',' :: gap).intercalate texts ++ (ending ++ '\x7d' :: rest)) =
      .ok (members, rest) := by
  induction h generalizing fuel with
  | nil => exact absurd rfl hne
  | @cons text member texts members hfirst hmore ih =>
    obtain ⟨fuel, rfl⟩ : ∃ n, fuel = n + 1 := ⟨fuel - 1, by omega⟩
    cases hmore with
    | nil =>
      have hends : EndsNumber (ending ++ '\x7d' :: rest) :=
        endsNumber_blanks hending (endsNumber_cons (by decide) rest)
      rw [List.intercalate_singleton] at hfuel ⊢
      rw [readMembers_member hfirst hends (by omega), skipBlanks_append hending,
        skipBlanks_cons (by decide)]
      rfl
    | @cons next member' texts members hnext hmore =>
      rw [List.intercalate_cons_cons, List.append_assoc, List.append_assoc,
        List.cons_append] at hfuel ⊢
      have hlater : readMembers fuel depth
          (gap ++ ((',' :: gap).intercalate (next :: texts) ++ (ending ++ '\x7d' :: rest))) =
            .ok (member' :: members, rest) := by
        rw [readMembers_congr (skipBlanks_append hgap _)]
        refine ih (List.cons_ne_nil _ _) ?_
        simp only [List.length_append, List.length_cons] at hfuel ⊢
        omega
      rw [readMembers_member hfirst (endsNumber_cons (by decide) _) (by omega),
        skipBlanks_cons (by decide)]
      show (readMembers fuel depth _ >>= _) = _
      rw [hlater]
      rfl

/-- What is read as members does not begin with the closing brace. -/
theorem skipBlanks_ne_of_readMembers {fuel : Nat} {text : List Char}
    {read : List (String × Json) × List Char} (h : readMembers fuel depth text = .ok read)
    (rest : List Char) : skipBlanks text ≠ '\x7d' :: rest := by
  intro htext
  rw [readMembers_congr (htext.trans (skipBlanks_cons (by decide) rest).symm)] at h
  cases fuel with
  | zero => cases h
  | succ fuel => cases h

/-- An object is read if its members are. -/
theorem readsAs_object {texts : List (List Char)} {members : List (String × Json)}
    (h : List.Forall₂ (ReadsAsMember depth) texts members) (hne : texts ≠ [])
    (hgap : ∀ c ∈ gap, isBlank c = true) {ending : List Char}
    (hending : ∀ c ∈ ending, isBlank c = true) :
    ReadsAs (depth + 1)
      ('\x7b' :: gap ++ (',' :: gap).intercalate texts ++ ending ++ ['\x7d'])
      (object members) := by
  intro fuel rest hrest hfuel
  obtain ⟨fuel, rfl⟩ : ∃ n, fuel = n + 1 := ⟨fuel - 1, by simp at hfuel; omega⟩
  have htext : '\x7b' :: gap ++ (',' :: gap).intercalate texts ++ ending ++ ['\x7d'] ++ rest =
      '\x7b' :: (gap ++ ((',' :: gap).intercalate texts ++ (ending ++ '\x7d' :: rest))) := by simp
  rw [htext] at hfuel ⊢
  have hread : readMembers fuel depth
      (skipBlanks (gap ++ ((',' :: gap).intercalate texts ++ (ending ++ '\x7d' :: rest)))) =
        .ok (members, rest) := by
    rw [skipBlanks_append hgap, readMembers_congr (skipBlanks_skipBlanks _)]
    refine readMembers_texts h hne hgap hending ?_
    rw [List.length_cons, List.length_append] at hfuel
    omega
  rw [readValue, skipBlanks_cons (by decide)]
  show (if depth + 1 = 0 then throw "nesting too deep" else _) = _
  rw [if_neg (Nat.succ_ne_zero depth), Nat.add_sub_cancel]
  split
  · next closing hclosing =>
    rw [← skipBlanks_skipBlanks] at hclosing
    exact absurd hclosing (skipBlanks_ne_of_readMembers hread closing)
  · rw [hread]
    rfl

/-! ## Printed values -/

/-- A value without doubles, whose whole numbers have 64 bits, whose objects are dictionaries and
whose containers nest `depth` deep at most. -/
inductive IsPortable : Nat → Json → Prop
  | null {depth : Nat} : IsPortable depth null
  | bool {depth : Nat} (value : Bool) : IsPortable depth (bool value)
  | int {depth : Nat} {n : Int} (hlow : int64Min ≤ n) (hhigh : n ≤ uint64Max) :
      IsPortable depth (int n)
  | str {depth : Nat} (text : String) : IsPortable depth (str text)
  | arr {depth : Nat} {elements : List Json} (h : ∀ element ∈ elements, IsPortable depth element) :
      IsPortable (depth + 1) (arr elements)
  | obj {depth : Nat} {members : List (String × Json)} (hordered : Dict.Ordered members)
      (h : ∀ member ∈ members, IsPortable depth member.2) : IsPortable (depth + 1) (obj members)

section Portable

attribute [simp] IsPortable.null IsPortable.bool IsPortable.str

@[simp] theorem isPortable_nat {n : Nat} : IsPortable depth (int n) ↔ n ≤ uint64Max := by
  constructor
  · rintro ⟨⟩
    next _ hhigh => exact Int.ofNat_le.mp hhigh
  · intro h
    exact .int (Int.le_trans (by decide) (Int.natCast_nonneg n)) (Int.ofNat_le.mpr h)

theorem isPortable_object {entries : List (String × Json)}
    (h : ∀ entry ∈ entries, IsPortable depth entry.2) : IsPortable (depth + 1) (object entries) :=
  .obj (Dict.ordered_ofList entries) fun entry hentry => h entry (Dict.mem_of_mem_ofList hentry)

theorem isPortable_map {α : Type} {encode : α → Json} {elements : List α}
    (h : ∀ a ∈ elements, IsPortable depth (encode a)) :
    IsPortable (depth + 1) (arr (elements.map encode)) :=
  .arr (List.forall_mem_map.mpr h)

@[simp] theorem isPortable_ofStrings (texts : List String) :
    IsPortable (depth + 1) (ofStrings texts) := isPortable_map fun text _ => .str text

theorem isPortable_ofOption {α : Type} {encode : α → Json} {value : Option α}
    (h : ∀ a ∈ value, IsPortable depth (encode a)) : IsPortable depth (ofOption encode value) := by
  cases value with
  | none => exact .null
  | some a => exact h a rfl

end Portable

theorem isBlank_of_mem_lineAt (level : Nat) : ∀ c ∈ (lineAt level).toList, isBlank c = true := by
  intro c hc
  rw [lineAt, String.toList_append] at hc
  rcases List.mem_append.mp hc with hc | hc
  · rw [List.mem_singleton.mp hc]
    rfl
  · rw [String.toList_ofList] at hc
    rw [List.eq_of_mem_replicate hc]
    rfl

theorem prettyElements_eq (level : Nat) (elements : List Json) :
    prettyElements level elements = elements.map (prettyAt level) := by
  induction elements with
  | nil => rfl
  | cons element elements ih => rw [prettyElements, ih, List.map_cons]

theorem prettyMembers_eq (level : Nat) (members : List (String × Json)) :
    prettyMembers level members =
      members.map fun member => quote member.1 ++ ": " ++ prettyAt level member.2 := by
  induction members with
  | nil => rfl
  | cons member members ih => rw [prettyMembers, ih, List.map_cons]

theorem toList_prettyAt_arr (level : Nat) (element : Json) (elements : List Json) :
    (prettyAt level (arr (element :: elements))).toList =
      '[' :: (lineAt (level + 1)).toList ++ (',' :: (lineAt (level + 1)).toList).intercalate
        ((element :: elements).map fun element => (prettyAt (level + 1) element).toList) ++
        (lineAt level).toList ++ [']'] := by
  simp only [prettyAt, prettyElements_eq, String.toList_append, String.toList_intercalate,
    List.map_map]
  rfl

theorem toList_prettyAt_obj (level : Nat) (member : String × Json)
    (members : List (String × Json)) :
    (prettyAt level (obj (member :: members))).toList =
      '\x7b' :: (lineAt (level + 1)).toList ++ (',' :: (lineAt (level + 1)).toList).intercalate
        ((member :: members).map fun member => (quote member.1).toList ++
          ':' :: ' ' :: (prettyAt (level + 1) member.2).toList) ++
        (lineAt level).toList ++ ['\x7d'] := by
  simp only [prettyAt, prettyMembers_eq, String.toList_append, String.toList_intercalate,
    List.map_map, Function.comp_def, List.append_assoc]
  rfl

/-- A value without others in it is read from its text. -/
theorem readsAs_atom {value : Json} {text : List Char} (hne : text ≠ [])
    (h : ∀ fuel rest, EndsNumber rest →
      readValue (fuel + 1) depth (text ++ rest) = .ok (value, rest)) :
    ReadsAs depth text value := by
  intro fuel rest hrest hfuel
  have hlength := List.length_pos_iff.mpr hne
  rw [List.length_append] at hfuel
  obtain ⟨fuel, rfl⟩ : ∃ n, fuel = n + 1 := ⟨fuel - 1, by omega⟩
  exact h fuel rest hrest

theorem readsAs_str (text : String) : ReadsAs depth (quote text).toList (str text) := by
  refine readsAs_atom (by simp [quote]) fun fuel rest _ => ?_
  have htext : (quote text).toList ++ rest =
      '"' :: (text.toList.flatMap escapeChar ++ '"' :: rest) := by simp [quote]
  rw [htext, readValue, skipBlanks_cons (by decide)]
  show (readString _ >>= _) = _
  rw [readString_escaped]
  rfl

/-- A printed value is read back, whatever the level it is printed at. -/
theorem IsPortable.readsAs {value : Json} (h : value.IsPortable depth) (level : Nat) :
    ReadsAs depth (value.prettyAt level).toList value := by
  induction h generalizing level with
  | null =>
    simp only [prettyAt, atomText]
    exact readsAs_atom (by decide) fun fuel rest _ => rfl
  | bool value =>
    simp only [prettyAt]
    cases value with
    | false => exact readsAs_atom (by decide) fun fuel rest _ => rfl
    | true => exact readsAs_atom (by decide) fun fuel rest _ => rfl
  | @int _ n hlow hhigh =>
    simp only [prettyAt, atomText]
    refine readsAs_atom ?_ fun fuel rest hrest => readValue_int hlow hhigh hrest fuel _
    rw [toList_toString_int]
    split
    · exact List.cons_ne_nil _ _
    · exact Nat.toDigits_ne_nil
  | str text =>
    simp only [prettyAt, atomText]
    exact readsAs_str text
  | @arr depth elements h ih =>
    cases elements with
    | nil =>
      simp only [prettyAt]
      exact readsAs_atom (by decide) fun fuel rest _ => rfl
    | cons element elements =>
      have htexts : List.Forall₂ (ReadsAs depth)
          ((element :: elements).map fun element => (prettyAt (level + 1) element).toList)
          (element :: elements) := by
        rw [List.forall₂_map_left_iff]
        exact List.forall₂_same.mpr fun element helement => ih element helement (level + 1)
      rw [toList_prettyAt_arr]
      exact readsAs_arr htexts (List.cons_ne_nil _ _) (isBlank_of_mem_lineAt _)
        (isBlank_of_mem_lineAt _)
  | @obj depth members hordered h ih =>
    cases members with
    | nil =>
      simp only [prettyAt]
      exact readsAs_atom (by decide) fun fuel rest _ => rfl
    | cons member members =>
      have htexts : List.Forall₂ (ReadsAsMember depth)
          ((member :: members).map fun member => (quote member.1).toList ++
            ':' :: ' ' :: (prettyAt (level + 1) member.2).toList) (member :: members) := by
        rw [List.forall₂_map_left_iff]
        exact List.forall₂_same.mpr fun member hmember =>
          ⟨[' '], _, List.forall_mem_singleton.mpr rfl, ih member hmember (level + 1), rfl⟩
      have hobject : object (member :: members) = Json.obj (member :: members) :=
        congrArg Json.obj hordered.ofList_eq
      rw [toList_prettyAt_obj, ← hobject]
      exact readsAs_object htexts (List.cons_ne_nil _ _) (isBlank_of_mem_lineAt _)
        (isBlank_of_mem_lineAt _)

/-- A text is read as a value if blanks are all that stands behind it. -/
theorem parse_of_readsAs {text : String} {chars blanks : List Char} {value : Json}
    (htext : text.toList = chars ++ blanks) (h : ReadsAs 127 chars value)
    (hblanks : ∀ c ∈ blanks, isBlank c = true) : parse text = .ok value := by
  have hnil : EndsNumber [] := fun c hc => nomatch hc
  have hends : EndsNumber blanks := List.append_nil blanks ▸ endsNumber_blanks hblanks hnil
  have hread := h (2 * (chars ++ blanks).length + 2) blanks hends (Nat.le_add_right _ _)
  unfold parse
  dsimp only
  rw [htext, hread, ok_bind]
  dsimp only
  rw [skipBlanks, List.dropWhile_eq_nil_iff.mpr hblanks, if_pos rfl]
  rfl

/-- A printed value on a line of its own is read back. -/
theorem parse_pretty {value : Json} (h : value.IsPortable 127) :
    parse (value.pretty ++ "\n") = .ok value :=
  parse_of_readsAs String.toList_append (h.readsAs 0) (List.forall_mem_singleton.mpr rfl)

end Keyspace.Json
