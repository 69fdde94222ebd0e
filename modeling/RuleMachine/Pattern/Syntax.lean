import RuleMachine.Pattern.Property

/-!
# Pattern syntax

The syntax tree of a regular expression pattern, the places and spans that locate its parts,
and the faults a pattern can have, each with its message.

A place counts characters from the start of the pattern, and lines and columns from one; a
line feed ends a line. A span runs from its start up to, not including, its stop.

Faults of the first group are found while reading the pattern, those of the second while
giving its parts a meaning: a property class that names nothing, Unicode where it is switched
off, or a part that could match inside the encoding of a character.
-/

namespace RuleMachine

namespace Pattern

/-- A place in a pattern. -/
structure Place where
  index : Nat
  line : Nat
  column : Nat
  deriving DecidableEq, Repr, Inhabited

/-- The first place of a pattern. -/
def Place.origin : Place := ⟨0, 1, 1⟩

/-- The place after a character. -/
def Place.advance (p : Place) (c : Char) : Place :=
  if c == '\n' then ⟨p.index + 1, p.line + 1, 1⟩ else ⟨p.index + 1, p.line, p.column + 1⟩

/-- A part of a pattern, from `start` up to `stop`. -/
structure Span where
  start : Place
  stop : Place
  deriving DecidableEq, Repr, Inhabited

/-- The empty span at a place. -/
def Span.at (p : Place) : Span := ⟨p, p⟩

/-- What is wrong with a pattern. -/
inductive Fault where
  | classEscapeInvalid
  | classRangeInvalid
  | classRangeLiteral
  | classUnclosed
  | decimalEmpty
  | decimalInvalid
  | escapeHexEmpty
  | escapeHexInvalid
  | escapeHexInvalidDigit
  | escapeUnexpectedEof
  | escapeUnrecognized
  | flagDanglingNegation
  /-- A flag given twice; the span of its first appearance. -/
  | flagDuplicate (earlier : Span)
  /-- A second negation; the span of the first. -/
  | flagRepeatedNegation (earlier : Span)
  | flagUnexpectedEof
  | flagUnrecognized
  /-- A capture name used twice; the span of its first use. -/
  | groupNameDuplicate (earlier : Span)
  | groupNameEmpty
  | groupNameInvalid
  | groupNameUnexpectedEof
  | groupUnclosed
  | groupUnopened
  | repetitionCountInvalid
  | repetitionCountDecimalEmpty
  | repetitionCountUnclosed
  | repetitionMissing
  | specialWordBoundaryUnclosed
  | specialWordBoundaryUnrecognized
  | specialWordOrRepetitionUnexpectedEof
  | unicodeClassInvalid
  | unsupportedBackreference
  | unsupportedLookAround
  | unicodeNotAllowed
  | invalidUtf8
  | unicodePropertyNotFound
  | unicodePropertyValueNotFound
  | nestLimitExceeded
  deriving DecidableEq, Repr

namespace Fault

/-- The message of a fault. -/
def message : Fault → String
  | .classEscapeInvalid => "invalid escape sequence found in character class"
  | .classRangeInvalid => "invalid character class range, the start must be <= the end"
  | .classRangeLiteral => "invalid range boundary, must be a literal"
  | .classUnclosed => "unclosed character class"
  | .decimalEmpty => "decimal literal empty"
  | .decimalInvalid => "decimal literal invalid"
  | .escapeHexEmpty => "hexadecimal literal empty"
  | .escapeHexInvalid => "hexadecimal literal is not a Unicode scalar value"
  | .escapeHexInvalidDigit => "invalid hexadecimal digit"
  | .escapeUnexpectedEof => "incomplete escape sequence, reached end of pattern prematurely"
  | .escapeUnrecognized => "unrecognized escape sequence"
  | .flagDanglingNegation => "dangling flag negation operator"
  | .flagDuplicate _ => "duplicate flag"
  | .flagRepeatedNegation _ => "flag negation operator repeated"
  | .flagUnexpectedEof => "expected flag but got end of regex"
  | .flagUnrecognized => "unrecognized flag"
  | .groupNameDuplicate _ => "duplicate capture group name"
  | .groupNameEmpty => "empty capture group name"
  | .groupNameInvalid => "invalid capture group character"
  | .groupNameUnexpectedEof => "unclosed capture group name"
  | .groupUnclosed => "unclosed group"
  | .groupUnopened => "unopened group"
  | .repetitionCountInvalid => "invalid repetition count range, the start must be <= the end"
  | .repetitionCountDecimalEmpty => "repetition quantifier expects a valid decimal"
  | .repetitionCountUnclosed => "unclosed counted repetition"
  | .repetitionMissing => "repetition operator missing expression"
  | .specialWordBoundaryUnclosed =>
    "special word boundary assertion is either unclosed or contains an invalid character"
  | .specialWordBoundaryUnrecognized =>
    "unrecognized special word boundary assertion, valid choices are: start, end, " ++
      "start-half or end-half"
  | .specialWordOrRepetitionUnexpectedEof =>
    "found either the beginning of a special word boundary or a bounded repetition on a " ++
      "\\b with an opening brace, but no closing brace"
  | .unicodeClassInvalid => "invalid Unicode character class"
  | .unsupportedBackreference => "backreferences are not supported"
  | .unsupportedLookAround => "look-around, including look-ahead and look-behind, is not supported"
  | .unicodeNotAllowed => "Unicode not allowed here"
  | .invalidUtf8 => "pattern can match invalid UTF-8"
  | .unicodePropertyNotFound => "Unicode property not found"
  | .unicodePropertyValueNotFound => "Unicode property value not found"
  | .nestLimitExceeded => "exceed the maximum number of nested parentheses/brackets (250)"

/-- The second span a fault points at, if any: the first appearance of what is repeated. -/
def auxiliary : Fault → Option Span
  | .flagDuplicate earlier => some earlier
  | .flagRepeatedNegation earlier => some earlier
  | .groupNameDuplicate earlier => some earlier
  | _ => none

end Fault

/-- A fault with the span of the pattern it concerns. -/
structure SyntaxError where
  fault : Fault
  span : Span
  deriving Repr

/-- A flag of the pattern language. -/
inductive Flag where
  | caseInsensitive
  | multiLine
  | dotMatchesNewLine
  | swapGreed
  | unicode
  | crlf
  | ignoreWhitespace
  deriving DecidableEq, Repr

/-- An item of a flag group: a flag, or the negation that turns the flags after it off. -/
inductive FlagItem where
  | negation
  | flag (f : Flag)
  deriving DecidableEq, Repr

/-- What a group is: a capture group, numbered from one in the order groups open, or a group
that does not capture and sets flags for its body, as in `(?:a)` or `(?i:a)`. -/
inductive GroupKind where
  | capture (index : Nat)
  | flagged (items : List FlagItem)
  deriving DecidableEq, Repr

/-- The state a flag group gives a flag: on, off, or left alone. -/
def flagState (items : List FlagItem) (f : Flag) : Option Bool :=
  let rec go (negated : Bool) : List FlagItem → Option Bool
    | [] => none
    | .negation :: rest => go true rest
    | .flag g :: rest => if g == f then some !negated else go negated rest
  go false items

/-- A zero-width assertion. -/
inductive Assertion where
  | startLine
  | endLine
  | startText
  | endText
  | wordBoundary
  | notWordBoundary
  | wordStart
  | wordEnd
  | wordStartHalf
  | wordEndHalf
  deriving DecidableEq, Repr

/-- The classes written with a backslash and one letter. -/
inductive PerlClass where
  | digit
  | space
  | word
  deriving DecidableEq, Repr

/-- The named ASCII classes, as in `[[:alpha:]]`. -/
inductive AsciiClass where
  | alnum | alpha | ascii | blank | cntrl | digit | graph | lower | print | punct | space | upper
  | word | xdigit
  deriving DecidableEq, Repr

/-- The ASCII class of a name. -/
def AsciiClass.ofName? (name : String) : Option AsciiClass :=
  [("alnum", AsciiClass.alnum), ("alpha", .alpha), ("ascii", .ascii), ("blank", .blank),
   ("cntrl", .cntrl), ("digit", .digit), ("graph", .graph), ("lower", .lower),
   ("print", .print), ("punct", .punct), ("space", .space), ("upper", .upper),
   ("word", .word), ("xdigit", .xdigit)].lookup name

/-- The code points of an ASCII class. -/
def AsciiClass.ranges : AsciiClass → List (Nat × Nat)
  | .alnum => [(0x30, 0x39), (0x41, 0x5A), (0x61, 0x7A)]
  | .alpha => [(0x41, 0x5A), (0x61, 0x7A)]
  | .ascii => [(0x00, 0x7F)]
  | .blank => [(0x09, 0x09), (0x20, 0x20)]
  | .cntrl => [(0x00, 0x1F), (0x7F, 0x7F)]
  | .digit => [(0x30, 0x39)]
  | .graph => [(0x21, 0x7E)]
  | .lower => [(0x61, 0x7A)]
  | .print => [(0x20, 0x7E)]
  | .punct => [(0x21, 0x2F), (0x3A, 0x40), (0x5B, 0x60), (0x7B, 0x7E)]
  | .space => [(0x09, 0x0D), (0x20, 0x20)]
  | .upper => [(0x41, 0x5A)]
  | .word => [(0x30, 0x39), (0x41, 0x5A), (0x5F, 0x5F), (0x61, 0x7A)]
  | .xdigit => [(0x30, 0x39), (0x41, 0x46), (0x61, 0x66)]

/-- A literal character. `byte` marks a two-digit `\x` escape, which stands for a byte when
Unicode is off. -/
structure Literal where
  char : Char
  span : Span
  byte : Bool
  deriving Repr

/-- The operations between class sets. -/
inductive ClassOp where
  | intersection
  | difference
  | symmetricDifference
  deriving DecidableEq, Repr

mutual

/-- An item of a bracketed class. -/
inductive ClassItem where
  /-- No items, where a union of them stands. -/
  | empty (span : Span)
  | literal (lit : Literal)
  | range (lo hi : Literal)
  | ascii (kind : AsciiClass) (negated : Bool) (span : Span)
  | unicode (query : Unicode.ClassQuery) (negated : Bool) (span : Span)
  | perl (kind : PerlClass) (negated : Bool) (span : Span)
  | bracketed (negated : Bool) (set : ClassSet) (span : Span)
  /-- Two or more items side by side. -/
  | union (items : List ClassItem) (span : Span)

/-- The contents of a bracketed class: items and operations between them. -/
inductive ClassSet where
  | item (i : ClassItem)
  | op (kind : ClassOp) (lhs rhs : ClassSet) (span : Span)

end

/-- The span of a class item. -/
def ClassItem.span : ClassItem → Span
  | .empty span => span
  | .literal lit => lit.span
  | .range lo hi => ⟨lo.span.start, hi.span.stop⟩
  | .ascii _ _ span => span
  | .unicode _ _ span => span
  | .perl _ _ span => span
  | .bracketed _ _ span => span
  | .union _ span => span

/-- The span of a class's contents. -/
def ClassSet.span : ClassSet → Span
  | .item i => i.span
  | .op _ _ _ span => span

/-- A pattern's syntax tree. Every part but the empty one and a flag setting has its span. -/
inductive Ast where
  | empty
  /-- Flags set for the rest of the enclosing group. -/
  | flags (items : List FlagItem)
  | literal (lit : Literal)
  | dot (span : Span)
  | assertion (kind : Assertion) (span : Span)
  | unicode (query : Unicode.ClassQuery) (negated : Bool) (span : Span)
  | perl (kind : PerlClass) (negated : Bool) (span : Span)
  | bracketed (negated : Bool) (set : ClassSet) (span : Span)
  /-- A repetition; `greedy` unless a `?` follows the operator. -/
  | repetition (least : Nat) (most : Option Nat) (greedy : Bool) (body : Ast) (span : Span)
  | group (kind : GroupKind) (body : Ast) (span : Span)
  /-- Two or more parts in sequence. -/
  | concat (items : List Ast) (span : Span)
  /-- Two or more alternatives. -/
  | alternation (branches : List Ast) (span : Span)

/-- The span of a tree, for every part but the empty one and a flag setting. -/
def Ast.span? : Ast → Option Span
  | .empty | .flags _ => none
  | .literal lit => some lit.span
  | .dot span | .assertion _ span | .unicode _ _ span | .perl _ _ span
  | .bracketed _ _ span | .repetition _ _ _ _ span | .group _ _ span
  | .concat _ span | .alternation _ span => some span

/-- A sequence spanning `span` as one tree: nothing, its only item, or the concatenation. -/
def Ast.ofConcat (span : Span) : List Ast → Ast
  | [] => .empty
  | [a] => a
  | items => .concat items span

/-- Alternatives spanning `span` as one tree: its only branch, or the alternation. -/
def Ast.ofAlternation (span : Span) : List Ast → Ast
  | [a] => a
  | branches => .alternation branches span

end Pattern

end RuleMachine
