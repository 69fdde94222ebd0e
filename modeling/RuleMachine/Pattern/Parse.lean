import RuleMachine.Pattern.Syntax
import RuleMachine.Text.Blank
import RuleMachine.Text.CharClass

/-!
# Reading patterns

`Pattern.parse` reads a pattern into its syntax tree, or reports the first fault with its
span. The reader keeps a stack of open groups and one of open bracketed classes, as the
grammar's nesting is read left to right without backtracking (except for the short lookahead
of `[:name:]` classes and `\b{...}` assertions, which restore the place when they do not
apply).

Every loop of the reader consumes a character per round, so a budget of one round more than
the characters left bounds it.

The grammar, in brief:

* `(` opens a capture group, `(?<name>` or `(?P<name>` a named one, `(?flags:` a group with
  flags, and `(?flags)` sets flags for the rest of the enclosing group; look-around is
  refused. Flags are `i`, `m`, `s`, `U`, `u`, `R` and `x`, and `-` turns the following ones
  off.
* `|` separates alternatives; `?`, `*`, `+` and `{n}`, `{n,}`, `{n,m}` repeat the item before,
  and a following `?` makes the repetition lazy.
* `[...]` is a class of literals, ranges, escapes, nested classes and `[:name:]` ASCII
  classes, combined by `&&`, `--` and `~~`; a leading `^` negates it, and a leading `]` or `-`
  is literal.
* `\` escapes a meta character or any ASCII character other than a letter, a digit, `<` and
  `>`; `\x`, `\u`, `\U` give code points, `\p` and `\P` Unicode classes, `\d`, `\s`, `\w`
  and their capitals the Perl classes, and `\A`, `\z`, `\b`, `\B`, `\<`, `\>` assertions. A
  digit after a backslash is a back-reference and is refused.
* In `x` mode white space is skipped and `#` starts a comment that runs to the end of the line.
-/

-- Powers of naturals and integers are the core ones, whatever other instances are in scope.
attribute [local instance (default + 100)] instPowNat

namespace RuleMachine

namespace Pattern

/-- An open group: the sequence before it and where that sequence starts, its kind, the
span of its opening and the white space mode outside it; or the finished branches of an
alternation and where the first of them starts. -/
inductive GroupFrame where
  | group (concat : List Ast) (concatStart : Place) (kind : GroupKind)
      (openSpan : Span) (ignoreWhitespace : Bool)
  | alternation (branches : List Ast) (start : Place)

/-- The items of a class union read so far, latest first, and the place where the union
began, which is its span while it has no items. -/
structure UnionSoFar where
  items : List ClassItem
  created : Place

/-- An open bracketed class: the enclosing union, its negation and its opening span; or the
left operand of an operation. -/
inductive ClassFrame where
  | opened (union : UnionSoFar) (negated : Bool) (span : Span)
  | operator (kind : ClassOp) (lhs : ClassSet)

/-- The reader's state. -/
structure Reader where
  chars : Array Char
  place : Place
  ignoreWhitespace : Bool
  captures : Nat
  names : List (String × Span)
  groups : List GroupFrame
  classes : List ClassFrame
  /-- Where the sequence being read starts. -/
  concatStart : Place

/-- Reading with a state that may fail with a syntax error. -/
abbrev ReadM := StateT Reader (Except SyntaxError)

/-- A basic part of a pattern. -/
inductive Primitive where
  | literal (lit : Literal)
  | assertion (kind : Assertion) (span : Span)
  | dot (span : Span)
  | perl (kind : PerlClass) (negated : Bool) (span : Span)
  | unicode (query : Unicode.ClassQuery) (negated : Bool) (span : Span)

namespace Primitive

/-- The span of a primitive. -/
def span : Primitive → Span
  | .literal lit => lit.span
  | .assertion _ s | .dot s | .perl _ _ s | .unicode _ _ s => s

/-- A primitive as a tree. -/
def toAst : Primitive → Ast
  | .literal lit => .literal lit
  | .assertion kind s => .assertion kind s
  | .dot s => .dot s
  | .perl kind negated s => .perl kind negated s
  | .unicode q negated s => .unicode q negated s

end Primitive

/-- Whether a character is a meta character, which an escape makes literal. -/
def isMeta (c : Char) : Bool :=
  ['\\', '.', '+', '*', '?', '(', ')', '|', '[', ']', '\x7b', '\x7d', '^', '$', '#', '&', '-',
    '~'].contains c

/-- Whether an escape of the character is a literal: meta characters, and ASCII characters
other than letters, digits, `<` and `>`. -/
def isEscapeable (c : Char) : Bool :=
  isMeta c || (c.toNat ≤ 0x7F && !c.isAlphanum && c != '<' && c != '>')

/-- Whether a character may stand in a capture name: a letter or `_` first, then also
digits and other numeric characters, `.`, `[` and `]`. -/
def isCaptureChar (c : Char) (first : Bool) : Bool :=
  if first then c == '_' || Text.isAlphabetic c
  else
    c == '_' || c == '.' || c == '[' || c == ']' || Text.isAlphabetic c || Text.isNumeric c

/-- The value of a hexadecimal digit. -/
def hexValue (c : Char) : Option Nat :=
  if c.isDigit then some (c.toNat - '0'.toNat)
  else if 'a' ≤ c && c ≤ 'f' then some (c.toNat - 'a'.toNat + 10)
  else if 'A' ≤ c && c ≤ 'F' then some (c.toNat - 'A'.toNat + 10)
  else none

/-- The code point hexadecimal digits stand for, if it is a 32-bit scalar value. -/
def hexScalar (digits : List Char) : Option Char :=
  let n := digits.foldl (fun n c => n * 16 + (hexValue c).getD 0) 0
  if n < 0xD800 || (0xE000 ≤ n && n ≤ 0x10FFFF) then some (Char.ofNat n) else none

/-- A union as one item: the empty item where it began, its only item, or the union from
its first item to its last. -/
def UnionSoFar.toItem (u : UnionSoFar) : ClassItem :=
  match u.items.reverse, u.items with
  | [], _ => .empty ⟨u.created, u.created⟩
  | [i], _ => i
  | first :: _, last :: _ => .union u.items.reverse ⟨first.span.start, last.span.stop⟩
  | items, [] => .union items ⟨u.created, u.created⟩

/-- A union with one more item. -/
def UnionSoFar.push (u : UnionSoFar) (i : ClassItem) : UnionSoFar := { u with items := i :: u.items }

namespace Read

/-- Fails with a fault at a span. -/
def fail (span : Span) (fault : Fault) : ReadM α := throw ⟨fault, span⟩

/-- The current place. -/
def place : ReadM Place := return (← get).place

/-- The character at the current place, if any. -/
def current? : ReadM (Option Char) := do
  let r ← get
  return r.chars[r.place.index]?

/-- The character at the current place; only asked for where one is known to be. -/
def char : ReadM Char := return (← current?).getD '\x00'

/-- Whether the pattern is read to its end. -/
def isEof : ReadM Bool := return (← current?).isNone

/-- The character after the current one. -/
def peek : ReadM (Option Char) := do
  let r ← get
  return r.chars[r.place.index + 1]?

/-- A budget for a loop: one round more than the characters left. -/
def budget : ReadM Nat := do
  let r ← get
  return r.chars.size - r.place.index + 1

/-- Moves past the current character; whether a character follows. -/
def bump : ReadM Bool := do
  let r ← get
  match r.chars[r.place.index]? with
  | none => return false
  | some c =>
    set { r with place := r.place.advance c }
    return r.chars[r.place.index + 1]?.isSome

/-- The empty span at the current place. -/
def spanHere : ReadM Span := return Span.at (← place)

/-- The span of the current character. -/
def spanChar : ReadM Span := do
  let p ← place
  return ⟨p, p.advance (← char)⟩

/-- Moves to a place. -/
def restore (p : Place) : ReadM Unit := modify fun r => { r with place := p }

/-- Skips the rest of a comment, its line feed included. -/
def skipComment : Nat → ReadM Unit
  | 0 => pure ()
  | n + 1 => do
    match ← current? with
    | none => pure ()
    | some c =>
      discard bump
      if c != '\n' then skipComment n

/-- Skips white space and comments. -/
def skipSpace : Nat → ReadM Unit
  | 0 => pure ()
  | n + 1 => do
    match ← current? with
    | none => pure ()
    | some c =>
      if Text.isBlank c then
        discard bump
        skipSpace n
      else if c == '#' then
        discard bump
        skipComment (← budget)
        skipSpace n
      else pure ()

/-- In `x` mode, skips white space and comments. -/
def bumpSpace : ReadM Unit := do
  if (← get).ignoreWhitespace then skipSpace (← budget)

/-- Moves past the current character and, in `x` mode, the space after it; whether a
character follows. -/
def bumpAndBumpSpace : ReadM Bool := do
  if !(← bump) then return false
  bumpSpace
  return !(← isEof)

/-- The first character that is not white space, nor the `#` opening a comment. -/
def scanSpace (inComment : Bool) : List Char → Option Char
  | [] => none
  | c :: cs =>
    if Text.isBlank c then scanSpace inComment cs
    else if !inComment && c == '#' then scanSpace true cs
    else some c

/-- The first character after the current one, skipping white space and a comment's `#`
in `x` mode. -/
def peekSpace : ReadM (Option Char) := do
  let r ← get
  if !r.ignoreWhitespace then return r.chars[r.place.index + 1]?
  if r.place.index ≥ r.chars.size then return none
  let rest := r.chars.toList.drop (r.place.index + 1)
  return (scanSpace false rest).orElse fun _ => rest.head?

/-- Moves past a text if the pattern continues with it; whether it did. -/
def bumpIf (text : String) : ReadM Bool := do
  let r ← get
  let cs := text.toList
  if (r.chars.toList.drop r.place.index).take cs.length == cs then
    for _ in cs do discard bump
    return true
  else return false

/-- Skips white space, moving as `bump` or as `bumpAndBumpSpace` does. -/
def skipBlanks (spaced : Bool) : Nat → ReadM Unit
  | 0 => pure ()
  | n + 1 => do
    match ← current? with
    | some c =>
      if Text.isBlank c then
        if spaced then discard bumpAndBumpSpace else discard bump
        skipBlanks spaced n
    | none => pure ()

/-- The decimal digits from here, latest first. -/
def digitsFrom : Nat → List Char → ReadM (List Char)
  | 0, acc => pure acc
  | n + 1, acc => do
    match ← current? with
    | some c =>
      if c.isDigit then
        discard bumpAndBumpSpace
        digitsFrom n (c :: acc)
      else pure acc
    | none => pure acc

/-- A decimal number between blanks, or the fault reading it; the place moves either way. -/
def decimal : ReadM (Except SyntaxError Nat) := do
  skipBlanks false (← budget)
  let start ← place
  let digits ← digitsFrom (← budget) []
  let span : Span := ⟨start, ← place⟩
  skipBlanks true (← budget)
  if digits.isEmpty then return .error ⟨.decimalEmpty, span⟩
  let n := digits.reverse.foldl (fun n c => n * 10 + (c.toNat - '0'.toNat)) 0
  if n ≥ 2 ^ (32 : Nat) then return .error ⟨.decimalInvalid, span⟩
  return .ok n

/-- A repetition count: an empty decimal is reported as such. -/
def countOf : Except SyntaxError Nat → ReadM Nat
  | .ok n => pure n
  | .error ⟨.decimalEmpty, span⟩ => fail span .repetitionCountDecimalEmpty
  | .error e => throw e

/-- Whether a tree cannot be repeated: nothing, or a flag setting. -/
def isUnrepeatable : Ast → Bool
  | .empty | .flags _ => true
  | _ => false

/-- Repeats the latest item by `?`, `*` or `+`. -/
def uncountedRepetition (concat : List Ast) (least : Nat) (most : Option Nat) :
    ReadM (List Ast) := do
  match concat with
  | [] => fail (← spanHere) .repetitionMissing
  | a :: rest =>
    if isUnrepeatable a then fail (← spanHere) .repetitionMissing
    let greedy ← do
      if (← bump) && (← char) == '?' then
        discard bump
        pure false
      else pure true
    let start := (a.span?.map (·.start)).getD (← place)
    return .repetition least most greedy a ⟨start, ← place⟩ :: rest

/-- Repeats the latest item by a count in braces. -/
def countedRepetition (concat : List Ast) : ReadM (List Ast) := do
  let start ← place
  match concat with
  | [] => fail (← spanHere) .repetitionMissing
  | a :: rest =>
    if isUnrepeatable a then fail (← spanHere) .repetitionMissing
    if !(← bumpAndBumpSpace) then fail ⟨start, ← place⟩ .repetitionCountUnclosed
    let first ← decimal
    if ← isEof then fail ⟨start, ← place⟩ .repetitionCountUnclosed
    let (least, most) ← do
      if (← char) == ',' then
        if !(← bumpAndBumpSpace) then fail ⟨start, ← place⟩ .repetitionCountUnclosed
        if (← char) != '}' then
          let least ← countOf first
          let most ← countOf (← decimal)
          pure (least, some most)
        else
          let least ← countOf first
          pure (least, none)
      else
        let n ← countOf first
        pure (n, some n)
    if (← isEof) || (← char) != '}' then fail ⟨start, ← place⟩ .repetitionCountUnclosed
    let greedy ← do
      if (← bumpAndBumpSpace) && (← char) == '?' then
        discard bump
        pure false
      else pure true
    let opSpan : Span := ⟨start, ← place⟩
    match most with
    | some m => if least > m then fail opSpan .repetitionCountInvalid
    | none => pure ()
    let origin := (a.span?.map (·.start)).getD start
    return .repetition least most greedy a ⟨origin, ← place⟩ :: rest

/-- Hexadecimal digits, `k` more of them after `i`, latest first. -/
def hexLoop : Nat → Nat → List Char → ReadM (List Char)
  | 0, _, acc => pure acc
  | k + 1, i, acc => do
    if i > 0 then
      if !(← bumpAndBumpSpace) then fail (← spanHere) .escapeUnexpectedEof
    let c ← char
    if (hexValue c).isNone then fail (← spanChar) .escapeHexInvalidDigit
    hexLoop k (i + 1) (c :: acc)

/-- Hexadecimal digits, `count` of them, for an escape. -/
def hexDigits (count : Nat) : ReadM Literal := do
  let start ← place
  let digits ← hexLoop count 0 []
  discard bumpAndBumpSpace
  let stop ← place
  match hexScalar digits.reverse with
  | none => fail ⟨start, stop⟩ .escapeHexInvalid
  | some c => return ⟨c, ⟨start, stop⟩, count == 2⟩

/-- The digits of a braced hexadecimal escape, latest first. -/
def braceDigits : Nat → List Char → ReadM (List Char)
  | 0, acc => pure acc
  | n + 1, acc => do
    if !(← bumpAndBumpSpace) then return acc
    let c ← char
    if c == '}' then return acc
    if (hexValue c).isNone then fail (← spanChar) .escapeHexInvalidDigit
    braceDigits n (c :: acc)

/-- A braced hexadecimal escape, from its opening brace. -/
def hexBrace : ReadM Literal := do
  let bracePlace ← place
  let start := (← spanChar).stop
  let digits ← braceDigits (← budget) []
  if ← isEof then fail ⟨bracePlace, ← place⟩ .escapeUnexpectedEof
  let stop ← place
  discard bumpAndBumpSpace
  if digits.isEmpty then fail ⟨bracePlace, ← place⟩ .escapeHexEmpty
  match hexScalar digits.reverse with
  | none => fail ⟨start, stop⟩ .escapeHexInvalid
  | some c => return ⟨c, ⟨start, ← place⟩, false⟩

/-- A hexadecimal escape, from its letter. -/
def hex : ReadM Literal := do
  let c ← char
  let count := if c == 'x' then 2 else if c == 'u' then 4 else 8
  if !(← bumpAndBumpSpace) then fail (← spanHere) .escapeUnexpectedEof
  if (← char) == '{' then hexBrace else hexDigits count

/-- The characters of a braced class name, up to its closing brace. -/
def nameChars : Nat → List Char → ReadM (List Char)
  | 0, acc => pure acc
  | n + 1, acc => do
    if !(← bumpAndBumpSpace) then return acc
    let c ← char
    if c == '}' then return acc
    nameChars n (c :: acc)

/-- The first index where a list has a two-character infix. -/
def findPair (a b : Char) : List Char → Nat → Option Nat
  | x :: y :: rest, i => if x == a && y == b then some i else findPair a b (y :: rest) (i + 1)
  | _, _ => none

/-- A Unicode class, from its letter `p` or `P`: the query, whether it is negated, and the
span from the class's name on. -/
def unicodeClass : ReadM (Unicode.ClassQuery × Bool × Span) := do
  let negated := (← char) == 'P'
  if !(← bumpAndBumpSpace) then fail (← spanHere) .escapeUnexpectedEof
  if (← char) == '{' then
    let start := (← spanChar).stop
    let name := (← nameChars (← budget) []).reverse
    if ← isEof then fail (← spanHere) .escapeUnexpectedEof
    discard bump
    let span : Span := ⟨start, ← place⟩
    match findPair '!' '=' name 0 with
    | some i =>
      return (.byValue (String.ofList (name.take i)) (String.ofList (name.drop (i + 2))),
        !negated, span)
    | none =>
      match name.findIdx? (· == ':') <|> name.findIdx? (· == '=') with
      | some i =>
        return (.byValue (String.ofList (name.take i)) (String.ofList (name.drop (i + 1))),
          negated, span)
      | none => return (.named (String.ofList name), negated, span)
  else
    let start ← place
    let c ← char
    if c == '\\' then fail (← spanChar) .unicodeClassInvalid
    discard bumpAndBumpSpace
    return (.oneLetter c, negated, ⟨start, ← place⟩)

/-- The letters of a special word boundary name, latest first. -/
def boundaryName : Nat → List Char → ReadM (List Char)
  | 0, acc => pure acc
  | n + 1, acc => do
    match ← current? with
    | some c =>
      if c.isAlpha || c == '-' then
        discard bumpAndBumpSpace
        boundaryName n (c :: acc)
      else pure acc
    | none => pure acc

/-- After `\b`, a braced special word boundary such as `\b{start}`, if the brace starts one;
otherwise the place is left at the brace. -/
def specialWordBoundary (escapeStart : Place) : ReadM (Option Assertion) := do
  let start ← place
  if !(← bumpAndBumpSpace) then
    fail ⟨escapeStart, ← place⟩ .specialWordOrRepetitionUnexpectedEof
  let contentStart ← place
  let c ← char
  if !(c.isAlpha || c == '-') then
    restore start
    return none
  let name := String.ofList (← boundaryName (← budget) []).reverse
  if (← isEof) || (← char) != '}' then fail ⟨start, ← place⟩ .specialWordBoundaryUnclosed
  let stop ← place
  discard bump
  if name == "start" then return some .wordStart
  else if name == "end" then return some .wordEnd
  else if name == "start-half" then return some .wordStartHalf
  else if name == "end-half" then return some .wordEndHalf
  else fail ⟨contentStart, stop⟩ .specialWordBoundaryUnrecognized

/-- An escape, from its backslash. -/
def escape : ReadM Primitive := do
  let start ← place
  if !(← bump) then fail ⟨start, ← place⟩ .escapeUnexpectedEof
  let c ← char
  if c.isDigit then fail ⟨start, (← spanChar).stop⟩ .unsupportedBackreference
  if c == 'x' || c == 'u' || c == 'U' then
    let lit ← hex
    return .literal { lit with span := ⟨start, lit.span.stop⟩ }
  if c == 'p' || c == 'P' then
    let (query, negated, span) ← unicodeClass
    return .unicode query negated ⟨start, span.stop⟩
  if "dswDSW".contains c then
    let stop := (← spanChar).stop
    discard bump
    let kind : PerlClass := if c == 'd' || c == 'D' then .digit
      else if c == 's' || c == 'S' then .space else .word
    return .perl kind c.isUpper ⟨start, stop⟩
  discard bump
  let span : Span := ⟨start, ← place⟩
  if isEscapeable c then return .literal ⟨c, span, false⟩
  match c with
  | 'a' => return .literal ⟨Char.ofNat 7, span, false⟩
  | 'f' => return .literal ⟨Char.ofNat 12, span, false⟩
  | 't' => return .literal ⟨'\t', span, false⟩
  | 'n' => return .literal ⟨'\n', span, false⟩
  | 'r' => return .literal ⟨'\r', span, false⟩
  | 'v' => return .literal ⟨Char.ofNat 11, span, false⟩
  | 'A' => return .assertion .startText span
  | 'z' => return .assertion .endText span
  | 'b' =>
    if (← current?) == some '{' then
      match ← specialWordBoundary start with
      | some kind => return .assertion kind ⟨start, ← place⟩
      | none => return .assertion .wordBoundary span
    else return .assertion .wordBoundary span
  | 'B' => return .assertion .notWordBoundary span
  | '<' => return .assertion .wordStart span
  | '>' => return .assertion .wordEnd span
  | _ => fail span .escapeUnrecognized

/-- A primitive outside classes. -/
def primitive : ReadM Primitive := do
  let c ← char
  if c == '\\' then escape
  else
    let span ← spanChar
    discard bump
    if c == '.' then return .dot span
    else if c == '^' then return .assertion .startLine span
    else if c == '$' then return .assertion .endLine span
    else return .literal ⟨c, span, false⟩

/-- Whether a look-around opening follows, moving past it if so. -/
def lookAround : ReadM Bool := do
  if ← bumpIf "?=" then return true
  if ← bumpIf "?!" then return true
  if ← bumpIf "?<=" then return true
  bumpIf "?<!"

/-- The flag a letter names. -/
def flagOf (c : Char) : Option Flag :=
  match c with
  | 'i' => some .caseInsensitive
  | 'm' => some .multiLine
  | 's' => some .dotMatchesNewLine
  | 'U' => some .swapGreed
  | 'u' => some .unicode
  | 'R' => some .crlf
  | 'x' => some .ignoreWhitespace
  | _ => none

/-- The items of a flag group, up to its `:` or `)`, with their spans. -/
def flagItems : Nat → List (FlagItem × Span) → Option Span → ReadM (List (FlagItem × Span))
  | 0, items, _ => pure items
  | n + 1, items, lastNegation => do
    let c ← char
    if c == ':' || c == ')' then
      match lastNegation with
      | some span => fail span .flagDanglingNegation
      | none => return items
    let span ← spanChar
    let (item, negation) ← do
      if c == '-' then pure (FlagItem.negation, some span)
      else
        match flagOf c with
        | some f => pure (FlagItem.flag f, none)
        | none => fail span .flagUnrecognized
    match items.find? (·.1 == item) with
    | some (_, earlier) =>
      fail span (if item == .negation then .flagRepeatedNegation earlier
        else .flagDuplicate earlier)
    | none => pure ()
    if !(← bump) then fail (← spanHere) .flagUnexpectedEof
    flagItems n (items ++ [(item, span)]) negation

/-- The characters of a capture name, up to its `>`. -/
def nameLoop (start : Place) : Nat → ReadM Unit
  | 0 => pure ()
  | n + 1 => do
    let c ← char
    if c == '>' then return
    if !isCaptureChar c ((← place) == start) then fail (← spanChar) .groupNameInvalid
    if ← bump then nameLoop start n

/-- A capture name, after its `<`, and its `>`. -/
def captureName : ReadM Unit := do
  if ← isEof then fail (← spanHere) .groupNameUnexpectedEof
  let start ← place
  nameLoop start (← budget)
  let stop ← place
  if ← isEof then fail (← spanHere) .groupNameUnexpectedEof
  discard bump
  let r ← get
  let name := String.ofList ((r.chars.toList.drop start.index).take (stop.index - start.index))
  if name.isEmpty then fail ⟨start, start⟩ .groupNameEmpty
  match r.names.lookup name with
  | some earlier => fail ⟨start, stop⟩ (.groupNameDuplicate earlier)
  | none => set { r with names := (name, ⟨start, stop⟩) :: r.names }

/-- What an opening parenthesis starts. -/
inductive Opening where
  | setFlags (items : List FlagItem)
  | group (kind : GroupKind) (openSpan : Span)

/-- A group's opening, from its parenthesis. -/
def groupOpening : ReadM Opening := do
  let openSpan ← spanChar
  discard bump
  bumpSpace
  if ← lookAround then fail ⟨openSpan.start, ← place⟩ .unsupportedLookAround
  let innerSpan ← spanHere
  let named ← do
    if ← bumpIf "?P<" then pure true else bumpIf "?<"
  if named then
    modify fun r => { r with captures := r.captures + 1 }
    captureName
    return .group (.capture (← get).captures) openSpan
  else if ← bumpIf "?" then
    if ← isEof then fail openSpan .groupUnclosed
    let items := (← flagItems (← budget) [] none).map (·.1)
    let closing ← char
    discard bump
    if closing == ')' then
      if items.isEmpty then fail innerSpan .repetitionMissing
      return .setFlags items
    else return .group (.flagged items) openSpan
  else
    modify fun r => { r with captures := r.captures + 1 }
    return .group (.capture (← get).captures) openSpan

/-- Opens a group, or sets flags, at a parenthesis. -/
def pushGroup (concat : List Ast) : ReadM (List Ast) := do
  match ← groupOpening with
  | .setFlags items =>
    match flagState items .ignoreWhitespace with
    | some v => modify fun r => { r with ignoreWhitespace := v }
    | none => pure ()
    return .flags items :: concat
  | .group kind openSpan =>
    let outside := (← get).ignoreWhitespace
    let inside := match kind with
      | .flagged items => (flagState items .ignoreWhitespace).getD outside
      | .capture _ => outside
    let here ← place
    modify fun r => { r with
      groups := .group concat r.concatStart kind openSpan outside :: r.groups
      ignoreWhitespace := inside, concatStart := here }
    return []

/-- Ends a branch at `|`. -/
def pushAlternate (concat : List Ast) : ReadM (List Ast) := do
  let stop ← place
  modify fun r =>
    let branch := Ast.ofConcat ⟨r.concatStart, stop⟩ concat.reverse
    { r with groups := match r.groups with
      | .alternation branches start :: rest => .alternation (branches ++ [branch]) start :: rest
      | gs => .alternation [branch] r.concatStart :: gs }
  discard bump
  let after ← place
  modify fun r => { r with concatStart := after }
  return []

/-- Closes a group at `)`. -/
def popGroup (concat : List Ast) : ReadM (List Ast) := do
  let r ← get
  let (prior, priorStart, kind, openSpan, outside, branches, rest) ← match r.groups with
    | .group c cs f o ws :: rest => pure (c, cs, f, o, ws, none, rest)
    | .alternation bs st :: .group c cs f o ws :: rest => pure (c, cs, f, o, ws, some (bs, st), rest)
    | _ => fail (← spanChar) .groupUnopened
  let stop ← place
  set { r with groups := rest }
  discard bump
  let last := Ast.ofConcat ⟨r.concatStart, stop⟩ concat.reverse
  let body := match branches with
    | none => last
    | some (bs, st) => Ast.ofAlternation ⟨st, stop⟩ (bs ++ [last])
  let after ← place
  modify fun r => { r with ignoreWhitespace := outside, concatStart := priorStart }
  return .group kind body ⟨openSpan.start, after⟩ :: prior

/-- The whole tree at the end of the pattern. -/
def finish (concat : List Ast) : ReadM Ast := do
  let r ← get
  let stop ← place
  let last := Ast.ofConcat ⟨r.concatStart, stop⟩ concat.reverse
  match r.groups with
  | [] => return last
  | [.alternation bs st] => return Ast.ofAlternation ⟨st, stop⟩ (bs ++ [last])
  | .alternation _ _ :: .group _ _ _ span _ :: _ => fail span .groupUnclosed
  | .group _ _ _ span _ :: _ => fail span .groupUnclosed
  | .alternation bs st :: _ => return Ast.ofAlternation ⟨st, stop⟩ (bs ++ [last])

/-- The fault of a class left open: the innermost open bracket. -/
def unclosedClass : ReadM α := do
  let r ← get
  match r.classes.findSome? fun | .opened _ _ span => some span | _ => none with
  | some span => fail span .classUnclosed
  | none => fail (← spanHere) .classUnclosed

/-- A class item from a primitive: assertions cannot stand in a class. -/
def classItemOf : Primitive → ReadM ClassItem
  | .literal lit => pure (.literal lit)
  | .perl kind negated span => pure (.perl kind negated span)
  | .unicode q negated span => pure (.unicode q negated span)
  | p => fail p.span .classEscapeInvalid

/-- A range boundary from a primitive: only literals. -/
def classLiteralOf : Primitive → ReadM Literal
  | .literal lit => pure lit
  | p => fail p.span .classRangeLiteral

/-- A literal or escape inside a class. -/
def classPrimitive : ReadM Primitive := do
  if (← char) == '\\' then escape
  else
    let span ← spanChar
    let c ← char
    discard bump
    return .literal ⟨c, span, false⟩

/-- An item or a range inside a class. -/
def classRange : ReadM ClassItem := do
  let first ← classPrimitive
  bumpSpace
  if ← isEof then unclosedClass
  let next ← peekSpace
  if (← char) != '-' || next == some ']' || next == some '-' then return ← classItemOf first
  if !(← bumpAndBumpSpace) then unclosedClass
  let second ← classPrimitive
  let lo ← classLiteralOf first
  let hi ← classLiteralOf second
  if lo.char > hi.char then fail ⟨first.span.start, second.span.stop⟩ .classRangeInvalid
  return .range lo hi

/-- Leading `-` characters of a class, as literals. -/
def leadingDashes (start : Place) : Nat → List ClassItem → ReadM (List ClassItem)
  | 0, acc => pure acc
  | n + 1, acc => do
    if (← char) != '-' then return acc
    let span ← spanChar
    if !(← bumpAndBumpSpace) then fail ⟨start, start⟩ .classUnclosed
    leadingDashes start n (.literal ⟨'-', span, false⟩ :: acc)

/-- The opening of a class: its negation, its opening span, and its union with the leading
literal items. -/
def classOpening : ReadM (Bool × Span × UnionSoFar) := do
  let start ← place
  if !(← bumpAndBumpSpace) then fail ⟨start, ← place⟩ .classUnclosed
  let negated ← do
    if (← char) != '^' then pure false
    else
      if !(← bumpAndBumpSpace) then fail ⟨start, ← place⟩ .classUnclosed
      pure true
  let created ← place
  let union ← leadingDashes start (← budget) []
  let union ← do
    if union.isEmpty && (← char) == ']' then
      let span ← spanChar
      if !(← bumpAndBumpSpace) then fail ⟨start, ← place⟩ .classUnclosed
      pure [.literal ⟨']', span, false⟩]
    else pure union
  return (negated, ⟨start, ← place⟩, ⟨union, created⟩)

/-- The characters of an ASCII class name, up to its colon. -/
def asciiNameLoop : Nat → ReadM Unit
  | 0 => pure ()
  | n + 1 => do
    if (← char) == ':' then return
    if ← bump then asciiNameLoop n

/-- A `[:name:]` ASCII class at a bracket inside a class; otherwise the place is kept. -/
def asciiClass : ReadM (Option ClassItem) := do
  let start ← place
  if !(← bump) then
    restore start
    return none
  if (← char) != ':' then
    restore start
    return none
  if !(← bump) then
    restore start
    return none
  let negated ← do
    if (← char) == '^' then
      if !(← bump) then
        restore start
        return none
      pure true
    else pure false
  let nameStart ← place
  asciiNameLoop (← budget)
  if ← isEof then
    restore start
    return none
  let r ← get
  let name := String.ofList ((r.chars.toList.drop nameStart.index).take
    (r.place.index - nameStart.index))
  if !(← bumpIf ":]") then
    restore start
    return none
  match AsciiClass.ofName? name with
  | some kind => return some (.ascii kind negated ⟨start, ← place⟩)
  | none =>
    restore start
    return none

/-- Joins the operand on top of the class stack with a right operand. -/
def popClassOp (rhs : ClassSet) : ReadM ClassSet := do
  let r ← get
  match r.classes with
  | .operator kind lhs :: rest =>
    set { r with classes := rest }
    return .op kind lhs rhs ⟨lhs.span.start, rhs.span.stop⟩
  | _ => return rhs

/-- Opens a nested class. -/
def pushClassOpen (union : UnionSoFar) : ReadM UnionSoFar := do
  let (negated, span, nested) ← classOpening
  modify fun r => { r with classes := .opened union negated span :: r.classes }
  return nested

/-- Starts an operation between class sets. -/
def pushClassOp (kind : ClassOp) (union : UnionSoFar) : ReadM UnionSoFar := do
  let lhs ← popClassOp (.item union.toItem)
  modify fun r => { r with classes := .operator kind lhs :: r.classes }
  return ⟨[], ← place⟩

/-- Closes a class at `]`: the enclosing union with the class added, or the outermost class. -/
def popClass (union : UnionSoFar) : ReadM (Sum UnionSoFar Ast) := do
  let contents ← popClassOp (.item union.toItem)
  let r ← get
  match r.classes with
  | .opened outer negated span :: rest =>
    set { r with classes := rest }
    discard bump
    let span : Span := ⟨span.start, ← place⟩
    if rest.isEmpty then return .inr (.bracketed negated contents span)
    else return .inl (outer.push (.bracketed negated contents span))
  | _ => unclosedClass

/-- The rounds of reading a bracketed class. -/
def classLoop : Nat → UnionSoFar → ReadM Ast
  | 0, _ => unclosedClass
  | n + 1, union => do
    bumpSpace
    if ← isEof then unclosedClass
    let c ← char
    let next ← peek
    if c == '[' then
      if !(← get).classes.isEmpty then
        match ← asciiClass with
        | some item => return ← classLoop n (union.push item)
        | none => pure ()
      classLoop n (← pushClassOpen union)
    else if c == ']' then
      match ← popClass union with
      | .inl union => classLoop n union
      | .inr ast => return ast
    else if c == '&' && next == some '&' then
      discard (bumpIf "&&")
      classLoop n (← pushClassOp .intersection union)
    else if c == '-' && next == some '-' then
      discard (bumpIf "--")
      classLoop n (← pushClassOp .difference union)
    else if c == '~' && next == some '~' then
      discard (bumpIf "~~")
      classLoop n (← pushClassOp .symmetricDifference union)
    else classLoop n (union.push (← classRange))

/-- A bracketed class, from its bracket. -/
def bracketed : ReadM Ast := do
  classLoop (← budget) ⟨[], ← place⟩

/-- The rounds of reading outside classes: the current sequence, latest first. -/
def mainLoop : Nat → List Ast → ReadM (List Ast)
  | 0, concat => pure concat
  | n + 1, concat => do
    bumpSpace
    match ← current? with
    | none => pure concat
    | some c =>
      let concat ← match c with
        | '(' => pushGroup concat
        | ')' => popGroup concat
        | '|' => pushAlternate concat
        | '[' => do pure ((← bracketed) :: concat)
        | '?' => uncountedRepetition concat 0 (some 1)
        | '*' => uncountedRepetition concat 0 none
        | '+' => uncountedRepetition concat 1 none
        | '{' => countedRepetition concat
        | _ => do pure ((← primitive).toAst :: concat)
      mainLoop n concat

end Read

/-- The deepest a pattern's parts may nest. -/
def nestLimit : Nat := 250

/-- One level deeper than `depth`, for a part spanning `span`, unless that passes the limit. -/
def deeper (depth : Nat) (span : Span) : Except SyntaxError Nat :=
  if depth + 1 > nestLimit then .error ⟨.nestLimitExceeded, span⟩ else .ok (depth + 1)

mutual

/-- Checks the nesting of a class's contents at a depth. -/
def nestClassSet (depth : Nat) : ClassSet → Except SyntaxError Unit
  | .item i => nestClassItem depth i
  | .op _ lhs rhs span => do
    let d ← deeper depth span
    nestClassSet d lhs
    nestClassSet d rhs

/-- Checks the nesting of a class item at a depth. -/
def nestClassItem (depth : Nat) : ClassItem → Except SyntaxError Unit
  | .bracketed _ set span => do nestClassSet (← deeper depth span) set
  | .union items span => do nestClassItems (← deeper depth span) items
  | _ => pure ()

/-- Checks the nesting of class items in turn. -/
def nestClassItems (depth : Nat) : List ClassItem → Except SyntaxError Unit
  | [] => pure ()
  | i :: rest => do
    nestClassItem depth i
    nestClassItems depth rest

end

mutual

/-- Checks the nesting of a tree at a depth. -/
def nestAst (depth : Nat) : Ast → Except SyntaxError Unit
  | .bracketed _ set span => do nestClassSet (← deeper depth span) set
  | .repetition _ _ _ body span => do nestAst (← deeper depth span) body
  | .group _ body span => do nestAst (← deeper depth span) body
  | .concat items span => do nestAsts (← deeper depth span) items
  | .alternation branches span => do nestAsts (← deeper depth span) branches
  | _ => pure ()

/-- Checks the nesting of trees in turn. -/
def nestAsts (depth : Nat) : List Ast → Except SyntaxError Unit
  | [] => pure ()
  | a :: rest => do
    nestAst depth a
    nestAsts depth rest

end

/-- The syntax tree of a pattern, or its first fault. Once read, the tree is checked for
parts nested deeper than `nestLimit`: groups, repetitions, sequences, alternations and
bracketed classes count a level each, and so do classes nested in a class, unions of class
items and operations between class sets. The first part, in reading order, that passes the
limit is the fault. -/
def parse (pattern : String) : Except SyntaxError Ast := do
  let chars := pattern.toList.toArray
  let start : Reader := ⟨chars, Place.origin, false, 0, [], [], [], Place.origin⟩
  let run : ReadM Ast := do
    let concat ← Read.mainLoop (chars.size + 1) []
    Read.finish concat
  let ast := (← run.run start).1
  nestAst 0 ast
  return ast

end Pattern

end RuleMachine
