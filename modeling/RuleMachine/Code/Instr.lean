import RuleMachine.Code.Routine
import RuleMachine.Value.Json
import RuleMachine.Text.Quoted

/-!
# Stack code

The instructions of compiled rules. A block is a list of instructions; jump targets are
positions in the block that holds the jump. Iteration instructions carry their body as a
block of its own, run once per item with the item (or, for `reduce`, a context object) as the
data that `load` reads.

A reduce instruction says whether its context objects hold the source array as `data` (the
compiler asks for it only where the body reads it); `Instr.keepDataBlock` asks for it in every
reduce of a block.

`listing` prints a block one instruction a line, as `<pc> <text>` with the position in four
digits, each body right after its instruction and indented by four more spaces.
-/

namespace RuleMachine

/-- What `load` and `loadPath` read: the record, the current item, or the reduce context. -/
inductive Scope where
  | arg | item | context
  deriving DecidableEq, Inhabited, Repr

/-- The per-item array operations. -/
inductive IterKind where
  | map | filter | all | some | none
  deriving DecidableEq, Inhabited, Repr

/-- An instruction. -/
inductive Instr where
  | push (v : Value)
  | pop
  | dup
  /-- Collects the top `n` values into an array. -/
  | makeArray (n : Nat)
  | load (scope : Scope)
  /-- Follows a literal path from the scope; null when it is missing. -/
  | loadPath (scope : Scope) (path : List String)
  | toNumber | add | sub | mul | div | mod | neg
  | max (n : Nat) | min (n : Nat)
  | eq | strictEq | ne | strictNe | gt | gte | lt | lte
  | not | toBool
  | jump (target : Nat)
  /-- Pops and jumps when falsy. -/
  | jumpIfFalse (target : Nat)
  /-- Pops and jumps when truthy. -/
  | jumpIfTrue (target : Nat)
  /-- Jumps keeping the top when it is not null, and pops it otherwise. -/
  | jumpIfPresent (target : Nat)
  /-- Concatenates the top `n` arrays. -/
  | concat (n : Nat)
  /-- Membership in an array or a string; pops the haystack, then the needle. -/
  | includes (guarded : Bool)
  | toText
  /-- Joins the texts of the top `n` values. -/
  | join (n : Nat)
  | iterate (kind : IterKind) (body : List Instr) (guarded : Bool)
  /-- Pops the initial value when seeded, then the source array. -/
  | reduce (body : List Instr) (guarded seeded withData : Bool)
  | callRoutine (r : Routine) (argc : Nat)
  | callOp (slot argc : Nat)
  deriving Inhabited

namespace Scope

/-- The scope's name in listings. -/
def name : Scope → String
  | .arg => "arg"
  | .item => "item"
  | .context => "context"

end Scope

namespace IterKind

/-- The operation's name in listings. -/
def name : IterKind → String
  | .map => "map"
  | .filter => "filter"
  | .all => "all"
  | .some => "some"
  | .none => "none"

/-- The result of a guarded iteration over something that is not an array. -/
def fallback : IterKind → Value
  | .map | .filter => .array []
  | .all | .some => .bool false
  | .none => .bool true

end IterKind

namespace Instr

/-- A number in at least four digits, padded with zeros. -/
def pad4 (n : Nat) : String :=
  let s := toString n
  String.ofList (List.replicate (4 - s.length) '0') ++ s

/-- ` guarded` when guarded. -/
def guardText (guarded : Bool) : String := if guarded then " guarded" else ""

/-- The text of one instruction. -/
def text : Instr → String
  | .push v => "push " ++ v.serialText
  | .pop => "pop"
  | .dup => "dup"
  | .makeArray n => s!"make_array {n}"
  | .load s => "load " ++ s.name
  | .loadPath s path => "load_path " ++ s.name ++ String.join (path.map (" " ++ Text.quoted ·))
  | .toNumber => "to_number"
  | .add => "add"
  | .sub => "sub"
  | .mul => "mul"
  | .div => "div"
  | .mod => "mod"
  | .neg => "neg"
  | .max n => s!"max {n}"
  | .min n => s!"min {n}"
  | .eq => "eq"
  | .strictEq => "strict_eq"
  | .ne => "ne"
  | .strictNe => "strict_ne"
  | .gt => "gt"
  | .gte => "gte"
  | .lt => "lt"
  | .lte => "lte"
  | .not => "not"
  | .toBool => "to_bool"
  | .jump t => "jump " ++ pad4 t
  | .jumpIfFalse t => "jump_if_false " ++ pad4 t
  | .jumpIfTrue t => "jump_if_true " ++ pad4 t
  | .jumpIfPresent t => "jump_if_present " ++ pad4 t
  | .concat n => s!"concat {n}"
  | .includes g => "includes" ++ guardText g
  | .toText => "to_text"
  | .join n => s!"join {n}"
  | .iterate k _ g => k.name ++ guardText g
  | .reduce _ g seeded _ => "reduce" ++ guardText g ++ (if seeded then " seeded" else "")
  | .callRoutine r argc => "call " ++ r.name ++ "/" ++ toString argc
  | .callOp slot argc => s!"call_op #{slot}/{argc}"

/-- One listing line. -/
def line (depth pc : Nat) (i : Instr) : String :=
  String.ofList (List.replicate (4 * depth) ' ') ++ pad4 pc ++ " " ++ i.text

mutual

/-- The lines of one instruction and its body, at `depth`, with position `pc`. -/
def lines (depth pc : Nat) : Instr → List String
  | i@(.iterate _ body _) => line depth pc i :: blockLines (depth + 1) 0 body
  | i@(.reduce body _ _ _) => line depth pc i :: blockLines (depth + 1) 0 body
  | i => [line depth pc i]

/-- The lines of a block at `depth`, positions counted from `pc`. -/
def blockLines (depth pc : Nat) : List Instr → List String
  | [] => []
  | i :: rest => lines depth pc i ++ blockLines depth (pc + 1) rest

end

mutual

/-- The instruction with every reduce context, in its bodies too, carrying the source array
as `data`, whether the body reads it or not. -/
def keepData : Instr → Instr
  | .iterate kind body guarded => .iterate kind (keepDataBlock body) guarded
  | .reduce body guarded seeded _ => .reduce (keepDataBlock body) guarded seeded true
  | i => i

/-- A block with every reduce context carrying the source array. -/
def keepDataBlock : List Instr → List Instr
  | [] => []
  | i :: rest => keepData i :: keepDataBlock rest

end

end Instr

/-- A block as a listing, each line ending in a line feed. -/
def listing (code : List Instr) : String :=
  String.join ((Instr.blockLines 0 0 code).map (· ++ "\n"))

end RuleMachine
