import RuleMachine.Text.Tables

/-!
# Character classes of the text routines

Each class is a table of `RuleMachine.Text.Tables`, decoded once into an array of inclusive
ranges that are sorted and disjoint, and a character is looked up by halving the part of the
array that can still hold it: a range that ends before the character and every range before
it are dropped, and so are a range that starts after it and every range after it.
-/

namespace RuleMachine

namespace Text

/-- The value of a base-36 digit written `0`-`9` or `a`-`z`. -/
def tableDigit (c : Char) : Nat :=
  if c.isDigit then c.toNat - '0'.toNat else c.toNat - 'a'.toNat + 10

/-- The numbers of a text of base-36 numbers separated by spaces. -/
def tableNumbers (text : String) : List Nat :=
  (text.splitOn " ").filterMap fun w =>
    if w.isEmpty then none else some (w.foldl (fun n c => n * 36 + tableDigit c) 0)

/-- Ranges from pairs of numbers: the gap from `start` to a range's start, then its length
less one. -/
def tableRanges (start : Nat) : List Nat → List (Nat × Nat)
  | gap :: len :: rest => (start + gap, start + gap + len) :: tableRanges (start + gap + len + 1) rest
  | _ => []

/-- The ranges a table text stands for, in an array. -/
def decodeTable (text : String) : Array (Nat × Nat) :=
  (tableRanges 0 (tableNumbers text)).toArray

/-- Whether `n` lies in one of the ranges at positions `lo` up to, not including, `hi`. -/
def rangesHold (rs : Array (Nat × Nat)) (n lo hi : Nat) : Bool :=
  if lo < hi then
    let mid := (lo + hi) / 2
    let r := rs.getD mid (0, 0)
    if n < r.1 then rangesHold rs n lo mid
    else if r.2 < n then rangesHold rs n (mid + 1) hi
    else true
  else false
termination_by hi - lo

/-- Whether `n` lies in one of the ranges. -/
def inTable (rs : Array (Nat × Nat)) (n : Nat) : Bool :=
  rangesHold rs n 0 rs.size

/-- Characters that are not printable, as ranges. -/
def unprintableRanges : Array (Nat × Nat) := decodeTable unprintableTable

/-- Marks that extend the grapheme before them, as ranges. -/
def extendingRanges : Array (Nat × Nat) := decodeTable extendingTable

/-- Alphabetic characters, as ranges. -/
def alphabeticRanges : Array (Nat × Nat) := decodeTable alphabeticTable

/-- Numeric characters, as ranges. -/
def numericRanges : Array (Nat × Nat) := decodeTable numericTable

/-- Whether a character is printable: it shows something, so it is neither a control, format,
surrogate, private-use, unassigned or default-ignorable code point nor a separator other than
the space. -/
def isPrintable (c : Char) : Bool := !inTable unprintableRanges c.toNat

/-- Whether a character is a mark (Mn, Mc or Me) that extends the grapheme before it. -/
def isExtending (c : Char) : Bool := inTable extendingRanges c.toNat

/-- Whether a character is alphabetic. -/
def isAlphabetic (c : Char) : Bool := inTable alphabeticRanges c.toNat

/-- Whether a character is numeric. -/
def isNumeric (c : Char) : Bool := inTable numericRanges c.toNat

end Text

end RuleMachine
