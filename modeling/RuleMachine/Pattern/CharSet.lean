/-!
# Sets of code points

A `CharSet` is a finite union of inclusive ranges of code points, kept sorted, disjoint and
not adjacent, so that every set has one representation. Unions go through `ofRanges`, which
sorts and joins; the complement is taken within `0 .. 0x10FFFF`, and intersection, difference
and symmetric difference come from union and complement.

Tables are stored as texts of base-36 numbers (see `decode`), and case folding closes a set
under classes of code points that simple case folding makes equal.
-/

namespace RuleMachine

/-- The largest code point. -/
def maxCodePoint : Nat := 0x10FFFF

/-- A set of code points: inclusive ranges, sorted, disjoint and not adjacent. -/
structure CharSet where
  ranges : List (Nat × Nat)
  deriving Inhabited, BEq, Repr

namespace CharSet

/-- The empty set. -/
def empty : CharSet := ⟨[]⟩

/-- Every code point. -/
def full : CharSet := ⟨[(0, maxCodePoint)]⟩

/-- One code point. -/
def single (c : Nat) : CharSet := ⟨[(c, c)]⟩

/-- Whether a code point is in the set. -/
def contains (s : CharSet) (c : Nat) : Bool :=
  s.ranges.any fun (lo, hi) => lo ≤ c && c ≤ hi

/-- Sorted ranges with overlapping or adjacent neighbours joined. -/
def joinSorted : List (Nat × Nat) → List (Nat × Nat)
  | (a, b) :: (c, d) :: rest =>
    if c ≤ b + 1 then joinSorted ((a, max b d) :: rest)
    else (a, b) :: joinSorted ((c, d) :: rest)
  | rs => rs
termination_by rs => rs.length

/-- The set of the code points in any of the ranges; empty ranges are dropped. -/
def ofRanges (rs : List (Nat × Nat)) : CharSet :=
  ⟨joinSorted ((rs.filter fun (lo, hi) => lo ≤ hi).mergeSort fun a b => a.1 ≤ b.1)⟩

/-- The code points from `lo` to `hi`. -/
def range (lo hi : Nat) : CharSet := ofRanges [(lo, hi)]

/-- Union. -/
def union (a b : CharSet) : CharSet := ofRanges (a.ranges ++ b.ranges)

/-- The code points from `start` on that no range covers, for sorted disjoint ranges. -/
def gapsFrom (start : Nat) : List (Nat × Nat) → List (Nat × Nat)
  | [] => if start ≤ maxCodePoint then [(start, maxCodePoint)] else []
  | (lo, hi) :: rest =>
    (if start < lo then [(start, lo - 1)] else []) ++ gapsFrom (hi + 1) rest

/-- Complement within all code points. -/
def complement (s : CharSet) : CharSet := ⟨gapsFrom 0 s.ranges⟩

/-- Intersection. -/
def inter (a b : CharSet) : CharSet := (union a.complement b.complement).complement

/-- The code points of `a` that are not in `b`. -/
def diff (a b : CharSet) : CharSet := inter a b.complement

/-- The code points in exactly one of the sets. -/
def symmDiff (a b : CharSet) : CharSet := diff (union a b) (inter a b)

/-- Whether every code point of the set is ASCII. -/
def isAscii (s : CharSet) : Bool := s.ranges.all fun (_, hi) => hi ≤ 0x7F

/-- The value of a base-36 digit written `0`-`9` or `a`-`z`. -/
def digit36 (c : Char) : Nat :=
  if c.isDigit then c.toNat - '0'.toNat else c.toNat - 'a'.toNat + 10

/-- The numbers of a text of base-36 numbers separated by spaces. -/
def numbers (text : String) : List Nat :=
  (text.splitOn " ").filterMap fun w =>
    if w.isEmpty then none else some (w.foldl (fun n c => n * 36 + digit36 c) 0)

/-- Ranges from pairs of numbers: the gap from `from` to a range's start, then its length
less one. -/
def rangesFrom (start : Nat) : List Nat → List (Nat × Nat)
  | gap :: len :: rest => (start + gap, start + gap + len) :: rangesFrom (start + gap + len + 1) rest
  | _ => []

/-- The set a table text stands for: base-36 numbers in pairs, the gap from the end of the
previous range (from zero for the first) to a range's start, then its length less one. -/
def decode (text : String) : CharSet := ⟨rangesFrom 0 (numbers text)⟩

/-- Adds to a set every member of each class that meets it. -/
def closeUnder (classes : List (List Nat)) (s : CharSet) : CharSet :=
  let extra := classes.foldl (fun acc cls =>
    if cls.any s.contains then cls.foldl (fun acc c => (c, c) :: acc) acc else acc) []
  if extra.isEmpty then s else ofRanges (s.ranges ++ extra)

/-- ASCII case classes: each letter with its other case. -/
def asciiCaseClasses : List (List Nat) :=
  (List.range 26).map fun i => [0x41 + i, 0x61 + i]

end CharSet

end RuleMachine
