import RuleMachine.Pattern.Syntax

/-!
# Reporting pattern faults

A fault is reported with the pattern and carets under the spans it concerns:

```
regex parse error:
    (a)(b)\2
          ^^
error: backreferences are not supported
```

Each line of the pattern is indented by four spaces, or, when the pattern has several lines,
led by its number padded to the width of the line count and a colon. Under a line come carets
for the spans on it, one per column and at least one. A pattern of several lines is framed by
rules of 79 tildes, and a span that runs over lines is named after the frame by its first and
last line and column.
-/

namespace RuleMachine

namespace Pattern

/-- The lines of a text: split at line feeds, a carriage return before a line feed dropped,
and no empty line after a final line feed. -/
def textLines (s : String) : List String :=
  if s.isEmpty then [] else
  let parts := s.splitOn "\n"
  let complete := if s.endsWith "\n" then parts.dropLast else parts
  let ended := if s.endsWith "\n" then complete.length else complete.length - 1
  (complete.zipIdx.map fun (line, i) =>
    if i < ended && line.endsWith "\r" then String.ofList line.toList.dropLast else line)

/-- Spaces. -/
def spaces (n : Nat) : String := String.ofList (List.replicate n ' ')

/-- Whether a span lies on one line. -/
def Span.isOneLine (s : Span) : Bool := s.start.line == s.stop.line

/-- Orders spans by their start, then their stop. -/
def Span.before (a b : Span) : Bool :=
  a.start.index < b.start.index || (a.start.index == b.start.index && a.stop.index ≤ b.stop.index)

/-- The caret line under a pattern line for spans on it, after `padding` spaces. -/
def caretLine (padding : Nat) (spans : List Span) : String :=
  let (text, _) := spans.foldl (fun (acc : String × Nat) span =>
    let (text, pos) := acc
    let gap := (span.start.column - 1) - pos
    let carets := max 1 (span.stop.column - span.start.column)
    (text ++ spaces gap ++ String.ofList (List.replicate carets '^'), pos + gap + carets))
    (spaces padding, 0)
  text

/-- The pattern's lines with carets under the spans on them. -/
def notate (lines : List String) (width : Nat) (spans : List Span) : String :=
  let padding := if width == 0 then 4 else 2 + width
  String.join (lines.zipIdx.map fun (line, i) =>
    let number := toString (i + 1)
    let lead := if width == 0 then "    " else spaces (width - number.length) ++ number ++ ": "
    let onLine := spans.filter (·.start.line == i + 1)
    lead ++ line ++ "\n" ++ (if onLine.isEmpty then "" else caretLine padding onLine ++ "\n"))

/-- The report of a fault in a pattern. -/
def report (pattern : String) (e : SyntaxError) : String :=
  let lines := textLines pattern
  let lineCount := lines.length + (if pattern.endsWith "\n" then 1 else 0)
  let width := if lineCount ≤ 1 then 0 else (toString lineCount).length
  let spans := (e.span :: e.fault.auxiliary.toList).mergeSort Span.before
  let notated := notate lines width (spans.filter Span.isOneLine)
  let message := "error: " ++ e.fault.message
  if pattern.contains '\n' then
    let rule := String.ofList (List.replicate 79 '~')
    let across := (spans.filter fun s => !s.isOneLine).map fun s =>
      "on line " ++ toString s.start.line ++ " (column " ++ toString s.start.column ++
        ") through line " ++ toString s.stop.line ++ " (column " ++
        toString (s.stop.column - 1) ++ ")"
    let acrossText := if across.isEmpty then "" else "\n".intercalate across ++ "\n"
    "regex parse error:\n" ++ rule ++ "\n" ++ notated ++ rule ++ "\n" ++ acrossText ++ message
  else "regex parse error:\n" ++ notated ++ message

end Pattern

end RuleMachine
