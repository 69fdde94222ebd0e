import RuleMachine.Pattern.CharSet

/-!
# What a pattern matches

A `Node` is the meaning of a pattern: literal text, sets of characters, zero-width conditions,
repetitions, capture groups, sequences and alternatives. Nodes are built with the constructors
of this module, which keep a node in a normal form, rather than with the plain ones:

* a set of one character is the literal of that character, and an empty set is a set of bytes
  that fails; surrogate code points, which no text holds, are left out of sets;
* a repetition of a part that matches only empty text repeats at most once; no repetition at
  all is the empty node, and exactly one is the part itself;
* a sequence has neither empty parts nor sequences among its parts, and adjacent literals are
  joined; a sequence of none is empty, and a sequence of one is its part;
* an alternation has no alternations among its branches; branches that are all literals of
  one character, or all sets, are a single set of characters; and when every branch is a
  sequence, the parts they all start with are taken out in front of the alternation.

The form matters because the automata of a pattern, and so their size, are built from it. The
`Measure` of a node holds what else their building depends on: the fewest and the most bytes
of UTF-8 a match takes, and whether every match is anchored at the start or at the end of the
text. Lengths are those of a machine word: a sum past its largest value is unknown, and a
product of the fewest bytes saturates.
-/

-- Powers of naturals and integers are the core ones, whatever other instances are in scope.
attribute [local instance (default + 100)] instPowNat

namespace RuleMachine

namespace Pattern

/-- A zero-width condition on the characters around a place. Word conditions are Unicode
or ASCII as their flag says. -/
inductive Look where
  | start
  | finish
  | startLF
  | endLF
  | startCRLF
  | endCRLF
  | word (unicode : Bool)
  | notWord (unicode : Bool)
  | wordStart (unicode : Bool)
  | wordEnd (unicode : Bool)
  | wordStartHalf (unicode : Bool)
  | wordEndHalf (unicode : Bool)
  deriving DecidableEq, Repr

/-- What a pattern matches. -/
inductive Node where
  | empty
  /-- The characters in sequence; never none. -/
  | literal (chars : List Char)
  /-- One character from the set; `bytes` for a set read with Unicode off. -/
  | set (s : CharSet) (bytes : Bool)
  | look (l : Look)
  /-- A repetition; `greedy` when it prefers more copies, which sets it apart from an equal
  repetition that prefers fewer. -/
  | repeat (least : Nat) (most : Option Nat) (greedy : Bool) (body : Node)
  /-- A group that captures what its body matches, by its number: groups of different
  numbers are different parts, also with equal bodies. -/
  | capture (index : Nat) (body : Node)
  | concat (items : List Node)
  | alternation (branches : List Node)
  deriving Inhabited, BEq

/-- The largest value of a machine word. -/
def wordLimit : Nat := 2 ^ (64 : Nat) - 1

/-- The bytes a code point takes in UTF-8. -/
def utf8Length (c : Nat) : Nat :=
  if c ≤ 0x7F then 1 else if c ≤ 0x7FF then 2 else if c ≤ 0xFFFF then 3 else 4

/-- What building the automata of a node depends on: the fewest and the most bytes a match
takes (none when nothing matches, and for the most also when there is no bound), and whether
every match is anchored at the start, or at the end, of the text. -/
structure Measure where
  least : Option Nat
  most : Option Nat
  startAnchored : Bool
  endAnchored : Bool

namespace Measure

/-- Two lengths added, unknown past a machine word. -/
def add : Option Nat → Option Nat → Option Nat
  | some a, some b => if a + b ≤ wordLimit then some (a + b) else none
  | _, _ => none

/-- Whether parts in sequence are anchored: the first is, or it matches only empty text and
the rest are. -/
def anchoredAlong (anchored : Measure → Bool) : List Measure → Bool
  | [] => false
  | m :: rest => anchored m || (m.most == some 0 && anchoredAlong anchored rest)

/-- The measure of parts in sequence. -/
def sequence (ms : List Measure) : Measure :=
  { least := ms.foldl (fun acc m => add acc m.least) (some 0)
    most := ms.foldl (fun acc m => add acc m.most) (some 0)
    startAnchored := anchoredAlong (·.startAnchored) ms
    endAnchored := anchoredAlong (·.endAnchored) ms.reverse }

/-- The least of lengths, unknown if any is. -/
def leastOf (ls : List (Option Nat)) : Option Nat :=
  ls.foldl (fun acc l => match acc, l with
    | some a, some b => some (min a b)
    | _, _ => none) (ls.head?.join)

/-- The greatest of lengths, unknown if any is. -/
def mostOf (ls : List (Option Nat)) : Option Nat :=
  ls.foldl (fun acc l => match acc, l with
    | some a, some b => some (max a b)
    | _, _ => none) (ls.head?.join)

/-- The measure of alternatives: anchored when every branch is. -/
def choice (ms : List Measure) : Measure :=
  { least := leastOf (ms.map (·.least))
    most := mostOf (ms.map (·.most))
    startAnchored := !ms.isEmpty && ms.all (·.startAnchored)
    endAnchored := !ms.isEmpty && ms.all (·.endAnchored) }

/-- The measure of a repetition of a part with measure `m`. -/
def repetition (least : Nat) (most : Option Nat) (m : Measure) : Measure :=
  { least := m.least.map fun n => min (n * least) wordLimit
    most := match most, m.most with
      | some k, some n => if n * k ≤ wordLimit then some (n * k) else none
      | _, _ => none
    startAnchored := least > 0 && m.startAnchored
    endAnchored := least > 0 && m.endAnchored }

/-- The measure of a set: by its first and last code points, or one byte for a set of bytes. -/
def ofSet (s : CharSet) (bytes : Bool) : Measure :=
  match s.ranges.head?, s.ranges.getLast? with
  | some (lo, _), some (_, hi) =>
    if bytes then ⟨some 1, some 1, false, false⟩
    else ⟨some (utf8Length lo), some (utf8Length hi), false, false⟩
  | _, _ => ⟨none, none, false, false⟩

end Measure

mutual

/-- The measure of a node. -/
def Node.measure : Node → Measure
  | .empty => ⟨some 0, some 0, false, false⟩
  | .literal cs =>
    let n := (cs.map fun c => utf8Length c.toNat).sum
    ⟨some n, some n, false, false⟩
  | .set s bytes => Measure.ofSet s bytes
  | .look l => ⟨some 0, some 0, l == .start, l == .finish⟩
  | .repeat least most _ body => Measure.repetition least most body.measure
  | .capture _ body => body.measure
  | .concat items => Measure.sequence (Node.measures items)
  | .alternation branches => Measure.choice (Node.measures branches)

/-- The measures of nodes, in order. -/
def Node.measures : List Node → List Measure
  | [] => []
  | n :: rest => n.measure :: Node.measures rest

end

mutual

/-- The number of parts of a node, itself included. -/
def Node.weight : Node → Nat
  | .repeat _ _ _ body | .capture _ body => body.weight + 1
  | .concat items | .alternation items => Node.weights items + 1
  | _ => 1

/-- The numbers of parts of nodes, added. -/
def Node.weights : List Node → Nat
  | [] => 0
  | n :: rest => n.weight + Node.weights rest

end

/-- The surrogate code points. -/
def surrogates : CharSet := CharSet.range 0xD800 0xDFFF

/-- The node that fails: an empty set of bytes. -/
def Node.fail : Node := .set CharSet.empty true

/-- The node of a set of characters, or of bytes when `bytes`. -/
def Node.ofSet (s : CharSet) (bytes : Bool) : Node :=
  let s := s.diff surrogates
  match s.ranges with
  | [] => Node.fail
  | [(lo, hi)] => if lo == hi then .literal [Char.ofNat lo] else .set s bytes
  | _ => .set s bytes

/-- The node of literal text. -/
def Node.ofLiteral (chars : List Char) : Node :=
  if chars.isEmpty then .empty else .literal chars

/-- The node of a repetition. -/
def Node.ofRepeat (least : Nat) (most : Option Nat) (greedy : Bool) (body : Node) : Node :=
  let (least, most) :=
    if body.measure.most == some 0 then (min least 1, some ((most.map (min · 1)).getD 1))
    else (least, most)
  if least == 0 && most == some 0 then .empty
  else if least == 1 && most == some 1 then body
  else .repeat least most greedy body

/-- Parts with the parts of sequences among them spliced in. -/
def spliceSequences : List Node → List Node
  | [] => []
  | .concat subs :: rest => subs ++ spliceSequences rest
  | n :: rest => n :: spliceSequences rest

/-- The literal of pending characters, if there are any. -/
def pendingLiteral (pending : List Char) : List Node :=
  if pending.isEmpty then [] else [.literal pending]

/-- Parts with the empty ones dropped and adjacent literals joined; `pending` holds the
characters of the literal being joined. -/
def joinLiterals (pending : List Char) : List Node → List Node
  | [] => pendingLiteral pending
  | .literal cs :: rest => joinLiterals (pending ++ cs) rest
  | .empty :: rest => joinLiterals pending rest
  | n :: rest => pendingLiteral pending ++ n :: joinLiterals [] rest

/-- The node of parts in sequence. -/
def Node.ofConcat (items : List Node) : Node :=
  match joinLiterals [] (spliceSequences items) with
  | [] => .empty
  | [n] => n
  | ns => .concat ns

/-- Branches with the branches of alternations among them spliced in. -/
def spliceAlternations : List Node → List Node
  | [] => []
  | .alternation subs :: rest => subs ++ spliceAlternations rest
  | n :: rest => n :: spliceAlternations rest

/-- The characters of branches that are all literals of one character. -/
def singleChars : List Node → Option (List Char)
  | [] => some []
  | .literal [c] :: rest => (singleChars rest).map (c :: ·)
  | _ => none

/-- The union of branches that are all sets, of either kind: a set of bytes is always of
ASCII bytes, which are the characters of the same codes. -/
def setUnion : List Node → Option CharSet
  | [] => some CharSet.empty
  | .set s _ :: rest => (setUnion rest).map s.union
  | _ => none

/-- The parts of branches that are all sequences. -/
def sequenceParts : List Node → Option (List (List Node))
  | [] => some []
  | .concat xs :: rest => (sequenceParts rest).map (xs :: ·)
  | _ => none

/-- The number of parts two lists start with alike. -/
def sharedPrefix : List Node → List Node → Nat
  | x :: xs, y :: ys => if x == y then sharedPrefix xs ys + 1 else 0
  | _, _ => 0

/-- The number of parts that the first sequence and every other start with alike. -/
def commonPrefixLength (first : List Node) (rest : List (List Node)) : Nat :=
  rest.foldl (fun n xs => sharedPrefix (first.take n) xs) first.length

/-- The node of alternatives; `fuel` bounds how often a common prefix is taken out, each time
from branches with fewer parts. -/
def Node.ofAlternationWith (fuel : Nat) (branches : List Node) : Node :=
  let flat := spliceAlternations branches
  match flat with
  | [] => Node.fail
  | [n] => n
  | _ =>
    match singleChars flat with
    | some cs => Node.ofSet (CharSet.ofRanges (cs.map fun c => (c.toNat, c.toNat))) false
    | none =>
    match setUnion flat with
    | some s => Node.ofSet s false
    | none =>
    match fuel, sequenceParts flat with
    | fuel + 1, some (first :: rest) =>
      let n := commonPrefixLength first rest
      if n == 0 then .alternation flat
      else
        Node.ofConcat (first.take n ++
          [Node.ofAlternationWith fuel ((first :: rest).map fun xs => Node.ofConcat (xs.drop n))])
    | _, _ => .alternation flat

/-- The node of alternatives. -/
def Node.ofAlternation (branches : List Node) : Node :=
  Node.ofAlternationWith (Node.weights branches) branches

end Pattern

end RuleMachine
