import RuleMachine.Rule.Catalog
import RuleMachine.Value.Coerce
import RuleMachine.Time.Read
import RuleMachine.Text.Quoted
import RuleMachine.Pattern.Regex

/-!
# The bundled extension operators

Operators that are not builtins but come with the language, to be added to a catalog like any
other extension:

* predicates: `is-nan`, `is-finite` (of the first argument as a number), `is-array`,
  `is-empty` (an empty array, object or string, or a value that is none of these), `typeof`
  (JavaScript's type name; null, arrays and objects are objects);
* `matches(text, pattern, flags)`: whether the regular expression matches anywhere in the
  text. The arguments are read as texts (a missing text is `undefined`, a missing pattern
  empty, missing or null flags none). Flags `i`, `m` and `s` set case-insensitivity,
  multi-line anchors and a dot matching line feeds; `y` anchors the match at the start; `g`,
  `u` and `d` change nothing for a single test, and any other character is refused;
* time in milliseconds: `days`, `hours`, `now` (the clock), `timestamp`, which passes numbers
  through and reads texts as dates, and `time-since` (the clock less a timestamp);
* `combinations`, the product of array arguments with the first varying slowest, and `zip`,
  the tuples of same-index items up to the shortest array;
* the mathematical constants and functions over binary64, `logarthim` being the natural
  logarithm (`log` is the builtin logger) and `round` rounding halves up.

A missing numeric argument is not-a-number, as an undefined operand is. Results of numeric
operators become values by `Value.ofWord`; the constants stay words. The clock is a parameter,
in milliseconds since the epoch, read alike by every call.
-/

namespace RuleMachine

namespace Extension

/-- The number argument `i` stands for; not-a-number when it is missing. -/
def numberAt (args : List Value) (i : Nat) : Binary64 :=
  match args[i]? with
  | some v => v.toNumber
  | none => Binary64.nan

/-- An operator that gives a constant word. -/
def constant (x : Binary64) : Operation := fun _ => .ok (.float x)

/-- An operator computing a word from its first argument. -/
def unary (f : Binary64 → Binary64) : Operation :=
  fun args => .ok (Value.ofWord (f (numberAt args 0)))

/-- An operator computing a word from its first two arguments. -/
def binary (f : Binary64 → Binary64 → Binary64) : Operation :=
  fun args => .ok (Value.ofWord (f (numberAt args 0) (numberAt args 1)))

/-- Whether an argument is empty: an array, object or string without content, or a value
that is none of these. -/
def isEmpty : Option Value → Bool
  | some (.array items) => items.isEmpty
  | some (.object members) => members.isEmpty
  | some (.string s) => s.isEmpty
  | _ => true

/-- JavaScript's name for the type of an argument. -/
def typeOf : Option Value → String
  | none => "undefined"
  | some .null | some (.array _) | some (.object _) => "object"
  | some v => v.typeName

/-- Rounding with halves towards positive infinity: the floor of the word plus one half. -/
def roundHalfUp (x : Binary64) : Binary64 := Binary64.lift Float.floor (x.add 0.5)

/-- Milliseconds in an hour. -/
def msPerHour : Binary64 := Binary64.ofInt 3600000

/-- Milliseconds in a day. -/
def msPerDay : Binary64 := Binary64.ofInt 86400000

/-- Milliseconds since the epoch: numbers stand for themselves and texts are read as dates. -/
def epochMillis : Option Value → Except String Binary64
  | some (.int n) => .ok (Binary64.ofInt n)
  | some (.float x) => .ok x
  | some (.string text) =>
    match Calendar.readMillis text with
    | some ms => .ok (Binary64.ofInt ms)
    | none => .error ("invalid date " ++ Text.quoted text)
  | some v => .error ("value is not a date but " ++ v.typeName)
  | none => .error "value is not a date but undefined"

/-- The initial flags a flag text sets, or the first character it may not hold. -/
def regexFlags (flags : String) : Except String Pattern.Flags :=
  flags.toList.foldlM (fun (f : Pattern.Flags) c =>
    if c == 'i' then .ok { f with caseInsensitive := true }
    else if c == 'm' then .ok { f with multiLine := true }
    else if c == 's' then .ok { f with dotMatchesNewLine := true }
    else if c == 'y' || c == 'g' || c == 'u' || c == 'd' then .ok f
    else .error ("invalid regular expression flag " ++ Text.quotedChar c)) {}

/-- Whether a pattern, under flags, matches anywhere in a text. -/
def matchOperation (args : List Value) : Except String Value := do
  let text := match args[0]? with
    | some v => v.toText
    | none => "undefined"
  let pattern := match args[1]? with
    | some v => v.toText
    | none => ""
  let flags := match args[2]? with
    | none | some .null => ""
    | some v => v.toText
  let source := if flags.contains 'y' then "\\A(?:" ++ pattern ++ ")" else pattern
  let initial ← regexFlags flags
  let regex ← Pattern.Regex.compile source initial
  return .bool (regex.isMatch text)

/-- The items of every argument, which must all be arrays; `name` reports the first that
is not. -/
def arrays (name : String) : List Value → Except String (List (List Value))
  | [] => .ok []
  | .array items :: rest => (arrays name rest).map (items :: ·)
  | v :: _ => .error (name ++ " expects arrays, got " ++ v.typeName)

/-- The cartesian product of lists, the first list varying slowest. -/
def product (lists : List (List Value)) : List (List Value) :=
  lists.foldl (fun acc list => acc.flatMap fun tuple => list.map fun item => tuple ++ [item]) [[]]

/-- Tuples of same-index items, as many as the shortest list has. -/
def zipLists : List (List Value) → List (List Value)
  | [] => []
  | first :: rest =>
    let lists := first :: rest
    let count := rest.foldl (fun n l => min n l.length) first.length
    (List.range count).map fun i => lists.map fun l => l.getD i .null

/-- `combinations`: the product of the argument arrays, as an array of arrays. -/
def combinationsOperation : Operation := fun args =>
  (arrays "combinations" args).map fun lists => .array ((product lists).map .array)

/-- `zip`: the same-index tuples of the argument arrays, as an array of arrays. -/
def zipOperation : Operation := fun args =>
  (arrays "zip" args).map fun lists => .array ((zipLists lists).map .array)

/-- The bundled operators by key, in catalog order, reading the clock `now`. -/
def bundle (now : Int) : List (String × Operation) :=
  [("is-nan", fun args => .ok (.bool (numberAt args 0).isNaN)),
   ("is-array", fun args => .ok (.bool (match args.head? with
      | some (.array _) => true
      | _ => false))),
   ("is-finite", fun args => .ok (.bool (numberAt args 0).isFinite)),
   ("is-empty", fun args => .ok (.bool (isEmpty args.head?))),
   ("typeof", fun args => .ok (.string (typeOf args.head?))),
   ("matches", matchOperation),
   ("days", unary fun n => n.mul msPerDay),
   ("hours", unary fun n => n.mul msPerHour),
   ("now", fun _ => .ok (.int now)),
   ("timestamp", fun args => (epochMillis args.head?).map Value.ofWord),
   ("time-since", fun args =>
      (epochMillis args.head?).map fun t => Value.ofWord ((Binary64.ofInt now).sub t)),
   ("combinations", combinationsOperation),
   ("zip", zipOperation),
   ("E", constant 2.718281828459045),
   ("LN10", constant 2.302585092994046),
   ("LN2", constant 0.6931471805599453),
   ("LOG2E", constant 1.4426950408889634),
   ("LOG10E", constant 0.4342944819032518),
   ("PI", constant 3.141592653589793),
   ("SQRT1_2", constant 0.7071067811865476),
   ("SQRT2", constant 1.4142135623730951),
   ("abs", unary Binary64.abs),
   ("acos", unary (Binary64.lift Float.acos)),
   ("asin", unary (Binary64.lift Float.asin)),
   ("atan", unary (Binary64.lift Float.atan)),
   ("atan2", binary (Binary64.lift₂ Float.atan2)),
   ("ceil", unary (Binary64.lift Float.ceil)),
   ("cos", unary (Binary64.lift Float.cos)),
   ("exp", unary (Binary64.lift Float.exp)),
   ("floor", unary (Binary64.lift Float.floor)),
   ("logarthim", unary (Binary64.lift Float.log)),
   ("pow", binary (Binary64.lift₂ Float.pow)),
   ("round", unary roundHalfUp),
   ("sin", unary (Binary64.lift Float.sin)),
   ("sqrt", unary (Binary64.lift Float.sqrt)),
   ("tan", unary (Binary64.lift Float.tan))]

/-- A catalog with the bundled operators added, reading the clock `now`. -/
def withBundle (now : Int) (c : Catalog) : Catalog :=
  (bundle now).foldl (fun c (key, op) => c.insert key op) c

end Extension

end RuleMachine
