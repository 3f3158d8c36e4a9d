import Keyspace.Number.Reading
import Keyspace.Text.Basic
import Keyspace.Time.Timestamp

/-!
# Reading dates and times

Times in attributes have the form of RFC 3339 exactly. Times and dates in JSON may have
blanks in front of their numbers and marks, and a year of any length if it has a sign. Every
reader takes a text to a value and the rest of the text.
-/
namespace Keyspace

namespace Time

/-- A reader of the start of a text. -/
abbrev Reader (α : Type) := List Char → Option (α × List Char)

/-- A number of at least one and at most `width` digits. -/
def number? (width : Nat) : Reader Nat := fun text =>
  let digits := (text.take width).takeWhile Char.isDigit
  if digits = [] then none else some (digitsValue digits, text.drop digits.length)

/-- A number of exactly that many digits. -/
def exactNumber? (width : Nat) : Reader Nat := fun text =>
  let digits := (text.take width).takeWhile Char.isDigit
  if digits.length = width then some (digitsValue digits, text.drop width) else none

/-- A number within bounds. -/
def within? (low high : Nat) (reader : Reader Nat) : Reader Nat := fun text =>
  (reader text).filter fun (n, _) => low ≤ n && n ≤ high

/-- A fixed character. -/
def mark? (c : Char) : List Char → Option (List Char)
  | d :: rest => if c = d then some rest else none
  | [] => none

/-- The character between a date and its time of day. -/
def separator? : List Char → Option (List Char)
  | c :: rest => if c = 'T' ∨ c = 't' ∨ c = ' ' then some rest else none
  | [] => none

/-- The nanoseconds of a fraction of a second; digits past the ninth count for nothing. -/
def fraction? : Reader Nat
  | '.' :: rest =>
    let (digits, after) := spanDigits rest
    if digits = [] then none
    else
      let kept := digits.take 9
      some (digitsValue kept * tenTo (9 - kept.length), after)
  | text => some (0, text)

/-- The seconds that a time zone is ahead of universal time. -/
def zone? (between : List Char → Option (List Char)) : Reader Int
  | 'Z' :: rest => some (0, rest)
  | 'z' :: rest => some (0, rest)
  | sign :: rest => do
    let factor : Int ←
      if sign = '+' then some 1
      else if sign = '-' ∨ sign = '\u2212' then some (-1)
      else none
    let (hours, rest) ← exactNumber? 2 rest
    let rest ← between rest
    let (minutes, rest) ← within? 0 59 (exactNumber? 2) rest
    if hours < 24 then some (factor * (hours * 3600 + minutes * 60), rest) else none
  | [] => none

/-- A point in time from its local date, time of day and zone. The sixtieth second is the
leap second after the fifty-ninth. -/
def assemble? (date : Date) (hour minute second nanos : Nat) (zone : Int) : Option Timestamp :=
  let plain := min second 59
  let seconds := date.toDays * 86400 + (hour * 3600 + minute * 60 + plain : Nat) - zone
  if Timestamp.inRange seconds then
    some ⟨seconds, if second = 60 then nanos + 1000000000 else nanos⟩
  else none

/-- A time of day in the strict form. -/
def clock? : Reader (Nat × Nat × Nat × Nat) := fun text => do
  let (hour, text) ← within? 0 23 (exactNumber? 2) text
  let text ← mark? ':' text
  let (minute, text) ← within? 0 59 (exactNumber? 2) text
  let text ← mark? ':' text
  let (second, text) ← within? 0 60 (exactNumber? 2) text
  let (nanos, text) ← fraction? text
  some ((hour, minute, second, nanos), text)

/-- A number that may follow blanks. -/
def looseNumber? (width : Nat) : Reader Nat := fun text => number? width (Text.trimStart text)

/-- A year of up to four digits, or of any length after a sign. -/
def looseYear? : Reader Int := fun text =>
  match Text.trimStart text with
  | '-' :: rest => (number? rest.length rest).map fun (n, rest) => (-(n : Int), rest)
  | '+' :: rest => (number? rest.length rest).map fun (n, rest) => ((n : Int), rest)
  | text => (number? 4 text).map fun (n, rest) => ((n : Int), rest)

/-- A year, month and day; `between` reads what separates them. -/
def looseDate? (between : List Char → Option (List Char)) : Reader Date := fun text => do
  let (year, text) ← looseYear? text
  let text ← between text
  let (month, text) ← looseNumber? 2 text
  let text ← between text
  let (day, text) ← looseNumber? 2 text
  let date ← Date.ofNumbers? year month day
  some (date, text)

/-- A mark that may follow blanks. -/
def looseMark? (c : Char) : List Char → Option (List Char) := fun text =>
  mark? c (Text.trimStart text)

/-- A time of day in the loose form. -/
def looseClock? : Reader (Nat × Nat × Nat × Nat) := fun text => do
  let (hour, text) ← within? 0 23 (looseNumber? 2) text
  let text ← looseMark? ':' text
  let (minute, text) ← within? 0 59 (looseNumber? 2) text
  let text ← looseMark? ':' text
  let (second, text) ← within? 0 60 (looseNumber? 2) text
  let (nanos, text) ← fraction? text
  some ((hour, minute, second, nanos), text)

/-- A zone in the loose form: colons and blanks may stand between its numbers, and the name
of universal time stands for it. -/
def looseZone? : Reader Int := fun text =>
  match text with
  | u :: t :: c :: rest =>
    if u.toLower = 'u' ∧ t.toLower = 't' ∧ c.toLower = 'c' then some (0, rest)
    else zone? (fun text => some (text.dropWhile fun c => c = ':' || Text.isBlank c)) text
  | _ => zone? (fun text => some (text.dropWhile fun c => c = ':' || Text.isBlank c)) text

end Time

/-- Reads a time in the form of RFC 3339. -/
def Timestamp.read? (text : String) : Option Timestamp := do
  let (year, rest) ← Time.exactNumber? 4 text.toList
  let rest ← Time.mark? '-' rest
  let (month, rest) ← Time.exactNumber? 2 rest
  let rest ← Time.mark? '-' rest
  let (day, rest) ← Time.exactNumber? 2 rest
  let date ← Date.ofNumbers? year month day
  let rest ← Time.separator? rest
  let ((hour, minute, second, nanos), rest) ← Time.clock? rest
  let (zone, rest) ← Time.zone? (Time.mark? ':') rest
  if rest = [] then Time.assemble? date hour minute second nanos zone else none

/-- Reads a time in JSON. -/
def Timestamp.readLoose? (text : String) : Option Timestamp := do
  let (date, rest) ← Time.looseDate? (Time.looseMark? '-') text.toList
  let rest ← Time.separator? rest
  let ((hour, minute, second, nanos), rest) ← Time.looseClock? rest
  let (zone, rest) ← Time.looseZone? (Text.trimStart rest)
  if Text.trimStart rest = [] then Time.assemble? date hour minute second nanos zone else none

/-- Reads a date in an attribute: blanks may stand before its numbers only. -/
def Date.read? (text : String) : Option Date := do
  let (date, rest) ← Time.looseDate? (Time.mark? '-') text.toList
  if rest = [] then some date else none

/-- Reads a date in JSON. -/
def Date.readLoose? (text : String) : Option Date := do
  let (date, rest) ← Time.looseDate? (Time.looseMark? '-') text.toList
  if Text.trimStart rest = [] then some date else none

end Keyspace
