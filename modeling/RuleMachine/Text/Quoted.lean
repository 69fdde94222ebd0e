import RuleMachine.Text.CharClass

/-!
# Quoted text for listings and messages

Listings and error messages quote a key or a path segment: inside double quotes, the quote
and the backslash are escaped, NUL, tab, carriage return and line feed get their short
escapes, and a character that is not printable (default-ignorable ones included, such as the
Hangul fillers), or a mark that extends the grapheme before it, is written `\u{hex}` with
lower-case digits and no leading zeros. Every other character stands as itself, letters that
extend a grapheme among them (the halfwidth katakana sound marks). A single character is quoted the same way inside single quotes, where the single
quote is escaped instead of the double quote. The classes of characters are those of
`RuleMachine.Text.CharClass`.
-/

namespace RuleMachine

namespace Text

/-- Lower-case hexadecimal digits of a number, without leading zeros. -/
def hexDigits (n : Nat) : String :=
  String.ofList (Nat.toDigits 16 n)

/-- The escaped form of one character; `quote` is the delimiter that gets escaped. -/
def escapeChar (quote : Char) (c : Char) : String :=
  if c = '\x00' then "\\0"
  else if c = '\t' then "\\t"
  else if c = '\r' then "\\r"
  else if c = '\n' then "\\n"
  else if c = '\\' then "\\\\"
  else if c = quote then "\\" ++ String.singleton c
  else if isExtending c || !isPrintable c then "\\u\x7b" ++ hexDigits c.toNat ++ "\x7d"
  else String.singleton c

/-- A string in double quotes, escaped. -/
def quoted (s : String) : String :=
  "\"" ++ String.join (s.toList.map (escapeChar '"')) ++ "\""

/-- A character in single quotes, escaped. -/
def quotedChar (c : Char) : String :=
  "'" ++ escapeChar '\'' c ++ "'"

end Text

end RuleMachine
