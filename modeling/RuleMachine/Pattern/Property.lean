import RuleMachine.Pattern.CharSet
import RuleMachine.Pattern.Tables.Category
import RuleMachine.Pattern.Tables.Script
import RuleMachine.Pattern.Tables.ScriptExtension
import RuleMachine.Pattern.Tables.Binary
import RuleMachine.Pattern.Tables.Fold
import RuleMachine.Pattern.Tables.Names
import RuleMachine.Pattern.Tables.Age
import RuleMachine.Pattern.Tables.Break

/-!
# Unicode property classes

A class such as `\p{Greek}`, `\pL` or `\p{gc=Lu}` names a set of code points. Names are
compared in loose form: ASCII letters in lower case, spaces, underscores and hyphens dropped,
other non-ASCII characters dropped, and a leading `is` ignored.

A name alone is tried as a binary property, then as a general category, then as a script; the
names `cf`, `sc` and `lc` skip the property step, as they are also categories (Format,
Currency_Symbol, Cased_Letter). A property that is known but has no table of its own, such as
`Block`, is not found. A name with a value first names the property, which must be known; the
general category, the script, the script extensions, the age and the three segmentation
properties then take their values, and any other property has no values to give. A value that
is named but has no code points, such as the script `Katakana_Or_Hiragana` or the segmentation
value `Other`, is not found either. Besides the categories of the tables there are `Any`,
`ASCII` and `Assigned`, and an age stands for every code point assigned up to that version.
-/

namespace RuleMachine

namespace Unicode

/-- Why a property class has no set. -/
inductive PropertyFault where
  | propertyNotFound
  | valueNotFound
  deriving DecidableEq, Repr

/-- What a property class asks for. -/
inductive ClassQuery where
  /-- A one-letter name, as in `\pL`. -/
  | oneLetter (c : Char)
  /-- A name alone. -/
  | named (name : String)
  /-- A property and a value. -/
  | byValue (name value : String)
  deriving Repr

/-- The `key:value` entries of a name table. -/
def entries (text : String) : List (String × String) :=
  (text.splitOn ";").filterMap fun e =>
    match e.splitOn ":" with
    | [k, v] => some (k, v)
    | _ => none

/-- Loose property names with their canonical names. -/
def propertyNames : List (String × String) := entries propertyNameText

/-- Loose general category names with their canonical names. -/
def categoryNames : List (String × String) := entries categoryNameText

/-- Loose script names with their canonical names. -/
def scriptNames : List (String × String) := entries scriptNameText

/-- Loose age names with their canonical names. -/
def ageNames : List (String × String) := entries ageNameText

/-- Loose grapheme cluster break values with their canonical names. -/
def graphemeBreakNames : List (String × String) := entries graphemeBreakNameText

/-- Loose word break values with their canonical names. -/
def wordBreakNames : List (String × String) := entries wordBreakNameText

/-- Loose sentence break values with their canonical names. -/
def sentenceBreakNames : List (String × String) := entries sentenceBreakNameText

/-- Canonical general categories with their two-letter parts. -/
def categoryParts : List (String × List String) :=
  (entries categoryPartText).map fun (k, v) => (k, v.splitOn " ")

/-- The classes of code points that simple case folding makes equal. -/
def foldClassList : List (List Nat) :=
  (foldClasses.splitOn ",").map CharSet.numbers

/-- A set closed under simple case folding. -/
def caseFold (s : CharSet) : CharSet := s.closeUnder foldClassList

/-- The loose form of a name (see the module header); a leading `is` before a lone `c`
is kept, since `isc` is a name of its own. -/
def looseName (name : String) : String :=
  let cs := name.toList
  let startsWithIs := match cs with
    | a :: b :: _ => (a == 'i' || a == 'I') && (b == 's' || b == 'S')
    | _ => false
  let body := if startsWithIs then cs.drop 2 else cs
  let kept := body.filterMap fun c =>
    if c == ' ' || c == '_' || c == '-' then none
    else if 'A' ≤ c && c ≤ 'Z' then some (Char.ofNat (c.toNat + 32))
    else if c.toNat ≤ 0x7F then some c
    else none
  if startsWithIs && kept == ['c'] then "isc" else String.ofList kept

/-- The canonical general category a loose name stands for. -/
def canonicalCategory (loose : String) : Option String :=
  if loose == "any" then some "Any"
  else if loose == "assigned" then some "Assigned"
  else if loose == "ascii" then some "ASCII"
  else categoryNames.lookup loose

/-- The code points of a two-letter general category. -/
def twoLetterSet (code : String) : CharSet :=
  match categoryTables.lookup code with
  | some text => CharSet.decode text
  | none => CharSet.empty

/-- The code points of a canonical general category. -/
def categorySet (canonical : String) : Except PropertyFault CharSet :=
  if canonical == "Any" then .ok CharSet.full
  else if canonical == "ASCII" then .ok (CharSet.range 0 0x7F)
  else if canonical == "Assigned" then .ok (twoLetterSet "Cn").complement
  else
    match categoryParts.lookup canonical with
    | some parts => .ok (parts.foldl (fun s p => s.union (twoLetterSet p)) CharSet.empty)
    | none => .error .valueNotFound

/-- The code points of a script. -/
def scriptSet (canonical : String) : Except PropertyFault CharSet :=
  match scriptTables.lookup canonical with
  | some text => .ok (CharSet.decode text)
  | none => .error .valueNotFound

/-- The code points whose script extensions include a script. -/
def extensionSet (canonical : String) : Except PropertyFault CharSet :=
  match extensionTables.lookup canonical with
  | some text => .ok (CharSet.decode text)
  | none => .error .valueNotFound

/-- The code points with a binary property. -/
def binarySet (canonical : String) : Except PropertyFault CharSet :=
  match propertyTables.lookup canonical with
  | some text => .ok (CharSet.decode text)
  | none => .error .propertyNotFound

/-- The code points assigned up to a version: the tables of the versions up to and including
it. A version without a table, such as `Unassigned`, is not found. -/
def ageSet (canonical : String) : Except PropertyFault CharSet :=
  let rec go : List (String × String) → CharSet → Except PropertyFault CharSet
    | [], _ => .error .valueNotFound
    | (name, text) :: rest, acc =>
      let acc := acc.union (CharSet.decode text)
      if name == canonical then .ok acc else go rest acc
  go ageTables CharSet.empty

/-- The code points with a value of a property whose values each have a table. -/
def tableSet (tables : List (String × String)) (canonical : String) :
    Except PropertyFault CharSet :=
  match tables.lookup canonical with
  | some text => .ok (CharSet.decode text)
  | none => .error .valueNotFound

/-- The set of a property's value, the value looked up among the property's names. -/
def namedValueSet (names : List (String × String))
    (select : String → Except PropertyFault CharSet) (looseValue : String) :
    Except PropertyFault CharSet :=
  match names.lookup looseValue with
  | some c => select c
  | none => .error .valueNotFound

/-- The set a name alone stands for: a property, a general category or a script. -/
def namedSet (name : String) : Except PropertyFault CharSet :=
  let loose := looseName name
  let asProperty :=
    if loose == "cf" || loose == "sc" || loose == "lc" then none else propertyNames.lookup loose
  match asProperty with
  | some canonical => binarySet canonical
  | none =>
    match canonicalCategory loose with
    | some canonical => categorySet canonical
    | none =>
      match scriptNames.lookup loose with
      | some canonical => scriptSet canonical
      | none => .error .propertyNotFound

/-- The set a property with a value stands for. -/
def valueSet (name value : String) : Except PropertyFault CharSet :=
  let looseValue := looseName value
  match propertyNames.lookup (looseName name) with
  | none => .error .propertyNotFound
  | some canonical =>
    if canonical == "General_Category" then
      match canonicalCategory looseValue with
      | some c => categorySet c
      | none => .error .valueNotFound
    else if canonical == "Script" then namedValueSet scriptNames scriptSet looseValue
    else if canonical == "Script_Extensions" then
      namedValueSet scriptNames extensionSet looseValue
    else if canonical == "Age" then namedValueSet ageNames ageSet looseValue
    else if canonical == "Grapheme_Cluster_Break" then
      namedValueSet graphemeBreakNames (tableSet graphemeBreakTables) looseValue
    else if canonical == "Word_Break" then
      namedValueSet wordBreakNames (tableSet wordBreakTables) looseValue
    else if canonical == "Sentence_Break" then
      namedValueSet sentenceBreakNames (tableSet sentenceBreakTables) looseValue
    else .error .valueNotFound

/-- The set a property class asks for. -/
def querySet : ClassQuery → Except PropertyFault CharSet
  | .oneLetter c => namedSet (String.singleton c)
  | .named name => namedSet name
  | .byValue name value => valueSet name value

/-- Decimal digits: general category Nd. -/
def digitSet : CharSet := twoLetterSet "Nd"

/-- White space. -/
def spaceSet : CharSet :=
  match propertyTables.lookup "White_Space" with
  | some text => CharSet.decode text
  | none => CharSet.empty

/-- Word characters: alphabetic characters, marks, decimal digits, connector punctuation
and joiners. -/
def wordSet : CharSet := CharSet.decode wordTable

end Unicode

end RuleMachine
