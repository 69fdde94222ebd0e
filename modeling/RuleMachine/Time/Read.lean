import RuleMachine.Time.Calendar
import RuleMachine.Text.Blank

/-!
# Reading dates and times

`Calendar.readMillis` reads a date or date-time and gives its milliseconds since the epoch. It
tries three layouts in turn and takes the first that reads the whole text:

* an internet date-time: `YYYY-MM-DD`, then `T`, `t` or a space, then `hh:mm:ss`, an optional
  fraction of a second, and a zone: `Z` (either case) or a sign with `hh:mm`, at most 23:59
  away from universal time. Every field has exactly its digits;
* a date-time without a zone, `YYYY-MM-DDThh:mm:ss` with an optional fraction, read as
  universal time;
* a bare date `YYYY-MM-DD`, at midnight universal time.

In the last two layouts a numeric field may follow blanks, a field has one or two digits, and
the year has up to four digits, or any number after an explicit sign. A fraction counts its
first nine digits and skips the rest. Second 60 is a leap second.
-/

-- Powers of naturals and integers are the core ones, whatever other instances are in scope.
attribute [local instance (default + 100)] instPowNat

namespace RuleMachine

namespace Calendar

/-- The value of a run of decimal digits. -/
def digitValue (digits : List Char) : Nat :=
  digits.foldl (fun n c => n * 10 + (c.toNat - '0'.toNat)) 0

/-- Between `least` and `most` leading ASCII digits, as a value, and the rest of the text. -/
def number (least most : Nat) (s : List Char) : Option (Nat × List Char) :=
  let digits := (s.take most).takeWhile Char.isDigit
  if digits.length < least then none else some (digitValue digits, s.drop digits.length)

/-- The rest of the text after the character `c`, if it starts with it. -/
def expect (c : Char) : List Char → Option (List Char)
  | d :: rest => if d == c then some rest else none
  | [] => none

/-- A fraction of a second after its point, in nanoseconds: the first nine digits count and
the further digits are skipped. -/
def fraction (s : List Char) : Option (Nat × List Char) := do
  let (value, rest) ← number 1 9 s
  some (value * 10 ^ (9 - (s.length - rest.length)), rest.dropWhile Char.isDigit)

/-- An optional fraction of a second: a point and its digits, or nothing. -/
def optionalFraction : List Char → Option (Nat × List Char)
  | '.' :: rest => fraction rest
  | s => some (0, s)

/-- The sign of a zone offset: `+`, or `-` and the minus sign U+2212 for zones west. -/
def offsetSign (c : Char) : Option Bool :=
  if c == '+' then some false
  else if c == '-' || c == Char.ofNat 0x2212 then some true
  else none

/-- A zone offset in seconds east of universal time: `Z` in either case, or a sign, two hour
digits, a colon and two minute digits of which the first is at most 5. -/
def zoneOffset : List Char → Option (Int × List Char)
  | [] => none
  | c :: rest =>
    if c == 'Z' || c == 'z' then some (0, rest)
    else do
      let west ← offsetSign c
      let (hours, rest) ← number 2 2 rest
      let rest ← expect ':' rest
      match rest with
      | m₁ :: m₂ :: rest =>
        if '0' ≤ m₁ && m₁ ≤ '5' && m₂.isDigit then
          let seconds : Int := (hours * 60 + digitValue [m₁, m₂]) * 60
          some (if west then -seconds else seconds, rest)
        else none
      | _ => none

/-- The largest zone offset an internet date-time admits: 23 hours and 59 minutes. -/
def maxOffset : Nat := (23 * 60 + 59) * 60

/-- An internet date-time, in milliseconds since the epoch. -/
def internetMillis (s : List Char) : Option Int := do
  let (year, s) ← number 4 4 s
  let s ← expect '-' s
  let (month, s) ← number 2 2 s
  let s ← expect '-' s
  let (day, s) ← number 2 2 s
  let s ← match s with
    | c :: rest => if c == 'T' || c == 't' || c == ' ' then some rest else none
    | [] => none
  let (hour, s) ← number 2 2 s
  let s ← expect ':' s
  let (minute, s) ← number 2 2 s
  let s ← expect ':' s
  let (second, s) ← number 2 2 s
  let (nanosecond, s) ← optionalFraction s
  let (offset, s) ← zoneOffset s
  let t : Moment := ⟨year, month, day, hour, minute, second, nanosecond⟩
  if s.isEmpty && offset.natAbs ≤ maxOffset && t.isValid then some (t.epochMillis offset)
  else none

/-- A numeric field of the zone-less layouts: blanks, then one to `width` digits. -/
def field (width : Nat) (s : List Char) : Option (Nat × List Char) :=
  number 1 width (s.dropWhile Text.isBlank)

/-- The year field of the zone-less layouts: blanks, then a sign and any number of digits, or
one to four digits. -/
def yearField (s : List Char) : Option (Int × List Char) :=
  match s.dropWhile Text.isBlank with
  | '-' :: rest => (number 1 rest.length rest).map fun (v, r) => (-(v : Int), r)
  | '+' :: rest => (number 1 rest.length rest).map fun (v, r) => ((v : Int), r)
  | t => (number 1 4 t).map fun (v, r) => ((v : Int), r)

/-- The date fields of the zone-less layouts, and the rest of the text. -/
def dateFields (s : List Char) : Option (Int × Nat × Nat × List Char) := do
  let (year, s) ← yearField s
  let s ← expect '-' s
  let (month, s) ← field 2 s
  let s ← expect '-' s
  let (day, s) ← field 2 s
  some (year, month, day, s)

/-- A date-time without a zone, read as universal time. -/
def localMillis (s : List Char) : Option Int := do
  let (year, month, day, s) ← dateFields s
  let s ← expect 'T' s
  let (hour, s) ← field 2 s
  let s ← expect ':' s
  let (minute, s) ← field 2 s
  let s ← expect ':' s
  let (second, s) ← field 2 s
  let (nanosecond, s) ← optionalFraction s
  let t : Moment := ⟨year, month, day, hour, minute, second, nanosecond⟩
  if s.isEmpty && t.isValid then some (t.epochMillis 0) else none

/-- A bare date, at midnight universal time. -/
def dateMillis (s : List Char) : Option Int := do
  let (year, month, day, s) ← dateFields s
  let t : Moment := { year, month, day }
  if s.isEmpty && t.isValid then some (t.epochMillis 0) else none

/-- Milliseconds since the epoch of a date or date-time text, by the first layout that reads
it whole. -/
def readMillis (text : String) : Option Int :=
  let s := text.toList
  match internetMillis s with
  | some ms => some ms
  | none =>
    match localMillis s with
    | some ms => some ms
    | none => dateMillis s

end Calendar

end RuleMachine
