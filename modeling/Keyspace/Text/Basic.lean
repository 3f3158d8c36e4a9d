/-!
# Text

Blanks, trimming, and the searches in text that the readers share. Everything works on
lists of characters; `String` appears at the edges.
-/
namespace Keyspace.Text

/-- White space of every script. -/
def isBlank (c : Char) : Bool :=
  let n := c.toNat
  (9 ≤ n && n ≤ 13) || n = 0x20 || n = 0x85 || n = 0xa0 || n = 0x1680
    || (0x2000 ≤ n && n ≤ 0x200a) || n = 0x2028 || n = 0x2029 || n = 0x202f || n = 0x205f
    || n = 0x3000

def trimStart (text : List Char) : List Char := text.dropWhile isBlank

def trimEnd (text : List Char) : List Char := (text.reverse.dropWhile isBlank).reverse

def trim (text : List Char) : List Char := trimEnd (trimStart text)

def trimmed (text : String) : String := String.ofList (trim text.toList)

/-- Takes a fixed beginning off a text. -/
def dropBeginning? : (beginning text : List Char) → Option (List Char)
  | [], text => some text
  | c :: beginning, d :: text => if c = d then dropBeginning? beginning text else none
  | _ :: _, [] => none

/-- Splits a text at the first place where `mark` stands; the mark belongs to neither part. -/
def splitAtMark? (mark : List Char) : List Char → Option (List Char × List Char)
  | [] => if mark = [] then some ([], []) else none
  | c :: rest =>
    match dropBeginning? mark (c :: rest) with
    | some after => some ([], after)
    | none => (splitAtMark? mark rest).map fun parts => (c :: parts.1, parts.2)

/-- The pieces of a text between the characters of a class; there is always one. -/
def splitWhere (separates : Char → Bool) : List Char → List (List Char)
  | [] => [[]]
  | c :: rest =>
    if separates c then [] :: splitWhere separates rest
    else match splitWhere separates rest with
      | [] => [[c]]
      | piece :: pieces => (c :: piece) :: pieces

def joinWith (separator : List Char) (pieces : List (List Char)) : List Char :=
  separator.intercalate pieces

theorem dropBeginning?_eq_some {beginning text rest : List Char} :
    dropBeginning? beginning text = some rest ↔ text = beginning ++ rest := by
  induction beginning generalizing text with
  | nil => simp [dropBeginning?]
  | cons c beginning ih =>
    cases text with
    | nil => simp [dropBeginning?]
    | cons d text =>
      simp only [dropBeginning?]
      split
      · next h => subst h; simp [ih]
      · next h => simp [Ne.symm h]

theorem splitAtMark?_append {mark text before after : List Char}
    (h : splitAtMark? mark text = some (before, after)) : text = before ++ mark ++ after := by
  induction text generalizing before with
  | nil => simp only [splitAtMark?] at h; split at h <;> simp_all
  | cons c rest ih =>
    simp only [splitAtMark?] at h
    split at h
    · next found =>
      simp only [Option.some.injEq, Prod.mk.injEq] at h
      obtain ⟨rfl, rfl⟩ := h
      simpa using dropBeginning?_eq_some.1 found
    · simp only [Option.map_eq_some_iff] at h
      obtain ⟨⟨b, a⟩, hb, he⟩ := h
      simp only [Prod.mk.injEq] at he
      obtain ⟨rfl, rfl⟩ := he
      simp [ih hb]

end Keyspace.Text
