import RuleMachine.Pattern.Syntax
import RuleMachine.Pattern.Node

/-!
# The meaning of a pattern

`Pattern.meaning` turns a syntax tree into a `Node` (see `RuleMachine.Pattern.Node`), built in
normal form; a group that is not a flag group captures. Flags decide the meaning of the parts
they govern:

* `i` closes literals and classes under simple case folding; with Unicode off only ASCII
  letters fold, and every other character stays a literal. A class is folded before it is
  negated, and both operands of a class operation are folded before the operation;
* `m` makes `^` and `$` match at line ends, with `R` counting a carriage return as a line end;
* `s` lets `.` match a line feed;
* `u`, on by default, makes the Perl classes and word boundaries Unicode-aware. With Unicode
  off a class must stay within ASCII (and a Unicode class is refused), since it would
  otherwise match bytes inside a character's encoding, and so must `.` and a `\x` byte escape
  above `7F`.

A flag setting `(?f)` lasts to the end of its group, also into the later alternatives; a group
with flags `(?f:...)` sets them for its body only.
-/

namespace RuleMachine

namespace Pattern

/-- The flags that govern meaning. -/
structure Flags where
  caseInsensitive : Bool := false
  multiLine : Bool := false
  dotMatchesNewLine : Bool := false
  unicode : Bool := true
  crlf : Bool := false
  swapGreed : Bool := false
  deriving Repr

namespace Flags

/-- Flags after a flag group. -/
def apply (flags : Flags) (items : List FlagItem) : Flags :=
  let pick (f : Flag) (v : Bool) := (flagState items f).getD v
  { caseInsensitive := pick .caseInsensitive flags.caseInsensitive
    multiLine := pick .multiLine flags.multiLine
    dotMatchesNewLine := pick .dotMatchesNewLine flags.dotMatchesNewLine
    unicode := pick .unicode flags.unicode
    crlf := pick .crlf flags.crlf
    swapGreed := pick .swapGreed flags.swapGreed }

end Flags

/-- A set closed under case folding when `i` is on. -/
def foldIf (flags : Flags) (s : CharSet) : CharSet :=
  if !flags.caseInsensitive then s
  else if flags.unicode then Unicode.caseFold s
  else s.closeUnder CharSet.asciiCaseClasses

/-- The bytes. -/
def byteRange : CharSet := CharSet.range 0 0xFF

/-- A byte class must stay within ASCII. -/
def asciiOnly (span : Span) (s : CharSet) : Except SyntaxError CharSet :=
  if s.isAscii then .ok s else .error ⟨.invalidUtf8, span⟩

/-- A class folded, then negated if asked; without Unicode, negation is among bytes. -/
def foldAndNegate (flags : Flags) (span : Span) (negated : Bool) (s : CharSet) :
    Except SyntaxError CharSet :=
  let s := foldIf flags s
  if flags.unicode then .ok (if negated then s.complement else s)
  else asciiOnly span (if negated then s.complement.inter byteRange else s)

/-- The set of a Perl class. -/
def perlSet (flags : Flags) (kind : PerlClass) (negated : Bool) (span : Span) :
    Except SyntaxError CharSet :=
  if flags.unicode then
    let s := match kind with
      | .digit => Unicode.digitSet
      | .space => Unicode.spaceSet
      | .word => Unicode.wordSet
    .ok (if negated then s.complement else s)
  else
    let s := CharSet.ofRanges (match kind with
      | .digit => AsciiClass.digit.ranges
      | .space => AsciiClass.space.ranges
      | .word => AsciiClass.word.ranges)
    asciiOnly span (if negated then s.complement.inter byteRange else s)

/-- The set of a Unicode class. -/
def unicodeSet (flags : Flags) (query : Unicode.ClassQuery) (negated : Bool) (span : Span) :
    Except SyntaxError CharSet :=
  if !flags.unicode then .error ⟨.unicodeNotAllowed, span⟩
  else
    match Unicode.querySet query with
    | .error .propertyNotFound => .error ⟨.unicodePropertyNotFound, span⟩
    | .error .valueNotFound => .error ⟨.unicodePropertyValueNotFound, span⟩
    | .ok s => foldAndNegate flags span negated s

/-- The code point of a literal in a class; without Unicode it must be ASCII. -/
def classPoint (flags : Flags) (lit : Literal) : Except SyntaxError Nat :=
  let c := lit.char.toNat
  if flags.unicode || c ≤ 0x7F then .ok c
  else if lit.byte then .error ⟨.invalidUtf8, lit.span⟩
  else .error ⟨.unicodeNotAllowed, lit.span⟩

mutual

/-- The set of a class item. -/
def itemSet (flags : Flags) : ClassItem → Except SyntaxError CharSet
  | .empty _ => .ok CharSet.empty
  | .literal lit => (classPoint flags lit).map CharSet.single
  | .range lo hi => do
    let a ← classPoint flags lo
    let b ← classPoint flags hi
    return CharSet.range a b
  | .ascii kind negated span => foldAndNegate flags span negated (CharSet.ofRanges kind.ranges)
  | .unicode q negated span => unicodeSet flags q negated span
  | .perl kind negated span => perlSet flags kind negated span
  | .bracketed negated contents span => do
    foldAndNegate flags span negated (← contentsSet flags contents)
  | .union items _ => unionSet flags items

/-- The union of class items. -/
def unionSet (flags : Flags) : List ClassItem → Except SyntaxError CharSet
  | [] => .ok CharSet.empty
  | i :: rest => do
    let a ← itemSet flags i
    let b ← unionSet flags rest
    return a.union b

/-- The set of a class's contents. -/
def contentsSet (flags : Flags) : ClassSet → Except SyntaxError CharSet
  | .item i => itemSet flags i
  | .op kind lhs rhs _ => do
    let l := foldIf flags (← contentsSet flags lhs)
    let r := foldIf flags (← contentsSet flags rhs)
    return match kind with
      | .intersection => l.inter r
      | .difference => l.diff r
      | .symmetricDifference => l.symmDiff r

end

/-- What a literal outside classes matches. -/
def literalNode (flags : Flags) (lit : Literal) : Except SyntaxError Node :=
  let c := lit.char.toNat
  if flags.unicode then .ok (Node.ofSet (foldIf flags (CharSet.single c)) false)
  else if lit.byte && c > 0x7F then .error ⟨.invalidUtf8, lit.span⟩
  else if flags.caseInsensitive && lit.char.isAlpha then
    .ok (Node.ofSet (foldIf flags (CharSet.single c)) true)
  else .ok (Node.ofLiteral [lit.char])

/-- What `.` matches. -/
def dotNode (flags : Flags) (span : Span) : Except SyntaxError Node :=
  if !flags.unicode then .error ⟨.invalidUtf8, span⟩
  else if flags.dotMatchesNewLine then .ok (Node.ofSet CharSet.full false)
  else if flags.crlf then
    .ok (Node.ofSet (CharSet.full.diff (CharSet.ofRanges [(10, 10), (13, 13)])) false)
  else .ok (Node.ofSet (CharSet.full.diff (CharSet.single 10)) false)

/-- The condition of an assertion. -/
def lookOf (flags : Flags) : Assertion → Look
  | .startLine =>
    if flags.multiLine then (if flags.crlf then .startCRLF else .startLF) else .start
  | .endLine => if flags.multiLine then (if flags.crlf then .endCRLF else .endLF) else .finish
  | .startText => .start
  | .endText => .finish
  | .wordBoundary => .word flags.unicode
  | .notWordBoundary => .notWord flags.unicode
  | .wordStart => .wordStart flags.unicode
  | .wordEnd => .wordEnd flags.unicode
  | .wordStartHalf => .wordStartHalf flags.unicode
  | .wordEndHalf => .wordEndHalf flags.unicode

mutual

/-- The meaning of a tree under flags, and the flags after it. -/
def meaning (flags : Flags) : Ast → Except SyntaxError (Node × Flags)
  | .empty => .ok (.empty, flags)
  | .flags items => .ok (.empty, flags.apply items)
  | .literal lit => (literalNode flags lit).map (·, flags)
  | .dot span => (dotNode flags span).map (·, flags)
  | .assertion kind _ => .ok (.look (lookOf flags kind), flags)
  | .unicode q negated span => (unicodeSet flags q negated span).map (Node.ofSet · false, flags)
  | .perl kind negated span =>
    (perlSet flags kind negated span).map (Node.ofSet · !flags.unicode, flags)
  | .bracketed negated contents span => do
    let s ← foldAndNegate flags span negated (← contentsSet flags contents)
    return (Node.ofSet s !flags.unicode, flags)
  | .repetition least most greedy body _ => do
    let (n, after) ← meaning flags body
    return (Node.ofRepeat least most (greedy != flags.swapGreed) n, after)
  | .group kind body _ => do
    match kind with
    | .capture index =>
      let (n, _) ← meaning flags body
      return (.capture index n, flags)
    | .flagged items =>
      let (n, _) ← meaning (flags.apply items) body
      return (n, flags)
  | .concat items _ => do
    let (ns, after) ← meaningSeq flags items
    return (Node.ofConcat ns, after)
  | .alternation branches _ => do
    let (ns, after) ← meaningSeq flags branches
    return (Node.ofAlternation ns, after)

/-- The meanings of trees in turn, each under the flags the one before leaves. -/
def meaningSeq (flags : Flags) : List Ast → Except SyntaxError (List Node × Flags)
  | [] => .ok ([], flags)
  | a :: rest => do
    let (n, after) ← meaning flags a
    let (ns, final) ← meaningSeq after rest
    return (n :: ns, final)

end

end Pattern

end RuleMachine
