import RuleMachine.Json.Basic
import RuleMachine.Number.Layout

/-!
# Writing JSON text

Compact JSON text: no blanks, members in the document's order (sorted by key). A string
escapes the quote, the backslash and the control characters below U+0020, the common ones by
their short escapes and the others as `\u00XX` with lower-case hexadecimal digits; every other
character is written as itself. A number word is written by the `Layout.serializer` rules, and
a word that is not finite as `null`.
-/

namespace RuleMachine

/-- The serializer's float text: shortest digits, a tie to the even digit, positional for
leading powers from `-5` to `15` with `.0` kept on integral values, and otherwise an exponent
with its sign, as in `1e+300` and `1.5e-7`. -/
def Layout.serializer : Layout := ⟨-5, 15, true, true, .even⟩

namespace Json

/-- The hexadecimal digit of a number below sixteen, lower case. -/
def hexDigit (n : Nat) : Char :=
  if n < 10 then Char.ofNat (48 + n) else Char.ofNat (87 + n)

/-- The escaped form of one character inside a string. -/
def escapeChar (c : Char) : List Char :=
  if c = '"' then ['\\', '"']
  else if c = '\\' then ['\\', '\\']
  else if c = '\n' then ['\\', 'n']
  else if c = '\r' then ['\\', 'r']
  else if c = '\t' then ['\\', 't']
  else if c.toNat = 8 then ['\\', 'b']
  else if c.toNat = 12 then ['\\', 'f']
  else if c.toNat < 32 then ['\\', 'u', '0', '0', hexDigit (c.toNat / 16), hexDigit (c.toNat % 16)]
  else [c]

/-- A string in quotes, escaped. -/
def quote (s : String) : String :=
  "\"" ++ String.ofList (s.toList.flatMap escapeChar) ++ "\""

/-- The text of a binary64 word; `null` when it is not finite. -/
def floatText (x : Binary64) : String :=
  if x.isFinite then Layout.serializer.render x else "null"

/-- The text of a number. -/
def Number.text : Number → String
  | .nat n => toString n
  | .neg n => toString n
  | .float x => floatText x

mutual

/-- Compact text of a document. -/
def render : Json → String
  | .null => "null"
  | .bool b => if b then "true" else "false"
  | .number n => n.text
  | .string s => quote s
  | .array items => "[" ++ renderItems items ++ "]"
  | .object members => "\x7b" ++ renderMembers members ++ "\x7d"

/-- Array items, separated by commas. -/
def renderItems : List Json → String
  | [] => ""
  | [x] => render x
  | x :: rest => render x ++ "," ++ renderItems rest

/-- Object members as `"key":value`, separated by commas. -/
def renderMembers : List (String × Json) → String
  | [] => ""
  | [(k, v)] => quote k ++ ":" ++ render v
  | (k, v) :: rest => quote k ++ ":" ++ render v ++ "," ++ renderMembers rest

end

end Json

end RuleMachine
