import RuleMachine.Value.Compare
import RuleMachine.Value.Path
import RuleMachine.Code.Routine

/-!
# What the support routines compute

* `resolve data path default`: the data itself for a null or empty path; otherwise the path's
  text split at dots is looked up, and the default stands for a missing or null result.
* `missing data keys`: the keys (by their text, each once, in order of first appearance)
  that resolve to null or the empty string; a leading array stands for the whole key list.
* `missingSome data min keys`: the keys read as a list (an array itself, null as none, any
  other value as one key), then as for `missing`; nothing when at least `min` of the distinct
  keys are present, the missing keys otherwise.
* `substr text start end`: a substring by characters. The start counts from the end when
  negative; a negative end drops that many characters from the tail, any other end is a
  length.
-/

namespace RuleMachine

namespace Support

/-- Looks up a path computed at run time. -/
def resolve (data path default : Value) : Value :=
  match path with
  | .null => data
  | p =>
    let text := p.toText
    if text.isEmpty then data else (data.lookupPath (text.splitOn ".")).getD default

/-- Whether a key resolves to null or the empty string. -/
def isMissing (data : Value) (key : String) : Bool :=
  match resolve data (.string key) .null with
  | .null => true
  | .string s => s.isEmpty
  | _ => false

/-- The keys to check: a leading array stands for the whole list. -/
def keyList : List Value → List Value
  | .array list :: _ => list
  | keys => keys

/-- The missing keys among the distinct ones (by text, first appearance kept), and how many
distinct keys there are. -/
def missingKeys (data : Value) (keys : List Value) : List Value × Nat :=
  let (seen, missing) := keys.foldl (fun (acc : List String × List Value) key =>
    let name := key.toText
    if acc.1.contains name then acc
    else (name :: acc.1, if isMissing data name then key :: acc.2 else acc.2)) ([], [])
  (missing.reverse, seen.length)

/-- The keys that the data lacks. -/
def missing (data : Value) (keys : List Value) : List Value :=
  (missingKeys data (keyList keys)).1

/-- The keys that the data lacks, or none when at least `least` keys are present. -/
def missingSome (data least keys : Value) : List Value :=
  let list := match keys with
    | .array items => items
    | .null => []
    | v => [v]
  let (absent, distinct) := missingKeys data (keyList list)
  let present := Binary64.ofInt (distinct - absent.length : Nat)
  match present.compare least.toNumber with
  | some .gt | some .eq => []
  | _ => absent

/-- The integer part of a number as an index among `bound` places: not-a-number is zero, and an
infinity, or an integer part past the bound, is the bound with its sign. Every slice below
clamps its indices into `[-bound, bound]` anyway, so this clamp changes none of them. -/
def indexOf (bound : Nat) (x : Binary64) : Int :=
  match x.exact with
  | .nan => 0
  | .infinite negative => if negative then -bound else bound
  | .finite _ _ _ => max (-bound) (min bound x.truncInt)

/-- Where a slice of `size` characters begins: `start` counts from the end when negative, and
the position is clamped into `[0, size]`. -/
def sliceStart (size : Nat) (start : Binary64) : Int :=
  let from₀ := indexOf size start
  let from₁ := if from₀ < 0 then max (size + from₀) 0 else from₀
  min from₁ size

/-- The characters from `start` (counted from the end when negative) on, at most `length`
of them when a length is given. -/
def slice (chars : List Char) (start : Binary64) (length : Option Binary64) : List Char :=
  let size : Int := chars.length
  let from₂ := sliceStart chars.length start
  let count := match length with
    | some l => max 0 (min (indexOf chars.length l) (size - from₂))
    | none => size - from₂
  (chars.drop from₂.toNat).take count.toNat

/-- A substring by characters; see the module header. -/
def substr (source start : Value) (stop : Option Value) : String :=
  let chars := source.toText.toList
  let s := start.toNumber
  match stop with
  | some e =>
    let n := e.toNumber
    if n.lt Binary64.zero then
      let tail := slice chars s none
      let keep : Int := tail.length + indexOf tail.length n
      String.ofList (tail.take (max keep 0).toNat)
    else String.ofList (slice chars s (some n))
  | none => String.ofList (slice chars s none)

end Support

end RuleMachine
