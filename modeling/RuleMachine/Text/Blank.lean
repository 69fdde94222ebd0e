/-!
# Blank characters

The characters with the Unicode property White_Space: the ASCII tab, line feed, vertical tab,
form feed, carriage return and space, the next line U+0085, the no-break space U+00A0, the
Ogham space mark U+1680, the spaces U+2000 to U+200A, the line and paragraph separators
U+2028 and U+2029, the narrow no-break space U+202F, the medium mathematical space U+205F and
the ideographic space U+3000. `trimBlanks` removes them from both ends of a string.
-/

namespace RuleMachine

namespace Text

/-- Whether a character has the Unicode property White_Space. -/
def isBlank (c : Char) : Bool :=
  let n := c.toNat
  (9 ≤ n && n ≤ 13) || n == 32 || n == 0x85 || n == 0xA0 || n == 0x1680 ||
    (0x2000 ≤ n && n ≤ 0x200A) || n == 0x2028 || n == 0x2029 || n == 0x202F ||
    n == 0x205F || n == 0x3000

/-- The characters of a string without the blanks at both ends. -/
def trimBlanks (s : String) : List Char :=
  ((s.toList.dropWhile isBlank).reverse.dropWhile isBlank).reverse

end Text

end RuleMachine
