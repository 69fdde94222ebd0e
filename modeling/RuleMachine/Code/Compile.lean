import RuleMachine.Code.Analysis
import RuleMachine.Rule.Var
import RuleMachine.Code.Instr
import RuleMachine.Code.Error
import RuleMachine.Code.Naming
import RuleMachine.Value.Coerce

/-!
# Compiling rules to stack code

`Rule.compile` turns a rule into a block of stack code that leaves the rule's value on the
stack. It walks the tree depth first, left to right, so the first fault met in that order is
the one reported; it checks an operator's arity before compiling its arguments and names each
extension key at its first operation (`Naming.resolve`). Jump targets are positions in the
enclosing block, so each part is compiled knowing the position `base` where it will start.
-/

-- Sums of naturals start from the core zero, whatever other instances are in scope.
attribute [local instance (default + 100)] Zero.ofOfNat0

namespace RuleMachine

/-- Compilation threads the names given to extension keys, and may fail. -/
abbrev CompileM := StateT Naming (Except CompileError)

namespace Rule

mutual

/-- The value of a rule made only of literals and lists. -/
def constant? : Rule → Option Value
  | .literal v => some v
  | .list items => (constantItems items).map .array
  | .operation _ _ _ => none

/-- The values of a list of such rules. -/
def constantItems : List Rule → Option (List Value)
  | [] => some []
  | r :: rest =>
    match constant? r, constantItems rest with
    | some v, some vs => some (v :: vs)
    | _, _ => none

end

/-- The normalization a condition needs. -/
def truthyCall (facts : Analysis) (r : Rule) : List Instr :=
  if facts.needsTruthy r then [.callRoutine .truthy 1] else []

/-- The conversion an arithmetic operand needs. -/
def numberCall (facts : Analysis) (r : Rule) : List Instr :=
  if facts.isNumeric r then [] else [.toNumber]

/-- Whether a reduce body reads the `data` member of its context at its own level. -/
def readsData (body : List Instr) : Bool :=
  body.any fun
    | .load .context => true
    | .loadPath .context ("data" :: _) => true
    | _ => false

/-- The code of an `if` chain from the compiled pairs and the compiled last branch. -/
def assembleIf (base : Nat) (pairs : List (List Instr × List Instr)) (last : List Instr) :
    List Instr :=
  let total := (pairs.map fun (cc, tc) => cc.length + tc.length + 2).sum + last.length
  let stop := base + total
  let rec go (pos : Nat) : List (List Instr × List Instr) → List Instr
    | [] => last
    | (cc, tc) :: rest =>
      let next := pos + cc.length + tc.length + 2
      cc ++ [.jumpIfFalse next] ++ tc ++ [.jump stop] ++ go next rest
  go base pairs

/-- The code of `and` (`isAnd`) or `or` from the compiled leading operands and the last. -/
def assembleShort (isAnd : Bool) (base : Nat) (parts : List (List Instr)) (last : List Instr) :
    List Instr :=
  let stop := base + (parts.map (·.length + 2)).sum + last.length
  let jumpOut : Instr := if isAnd then .jumpIfFalse stop else .jumpIfTrue stop
  (parts.map fun p => p ++ [jumpOut, .pop]).flatten ++ last

/-- The code of a comparison chain from the compiled windows of two operands. -/
def assembleChain (cmp : Instr) (base : Nat) (windows : List (List Instr)) : List Instr :=
  let stop := base + (windows.map (·.length + 1)).sum + 3 * (windows.length - 1)
  let rec go : Bool → List (List Instr) → List Instr
    | _, [] => []
    | first, w :: rest =>
      (if first then [] else [.dup, .jumpIfFalse stop, .pop]) ++ w ++ [cmp] ++ go false rest
  go true windows

mutual

/-- Compiles a rule whose code starts at position `base`, reading data from `scope`.

Code patterns (`⟨r⟩` is the code of `r`, `⟨r⟩?` adds `call truthy/1` unless `r` is a
non-array, `⟨r⟩#` adds `to_number` unless `r` is numeric, each as the analysis `facts` knows):

* literal `v` ↦ `push v`; a list of literals and lists ↦ `push [..]`; another list ↦
  `⟨x₁⟩ … ⟨xₙ⟩ make_array n`
* extension `{k: [x₁ … xₙ]}` ↦ `⟨x₁⟩ … ⟨xₙ⟩ call_op #slot/n`
* `var` with no path, null or `""` ↦ `load scope`; with a string, boolean or number path ↦
  `load_path scope segments` (then `jump_if_present end ⟨default⟩` when there is a default);
  with an operation as path ↦ `load scope ⟨path⟩ ⟨default or null⟩ call resolve/3`
* `missing` ↦ `load scope ⟨x₁⟩ … call missing/(n+1)`;
  `missing_some` ↦ `load scope ⟨min or 0⟩ ⟨keys or []⟩ call missing_some/3`
* `if` ↦ for each pair `⟨c⟩? jump_if_false next ⟨t⟩ jump end`, then the last argument or
  `push null`; fewer than two arguments ↦ `push null`
* `and`, `or` ↦ for all but the last `⟨x⟩ dup ⟨⟩? jump_if_false/true end pop`, then `⟨last⟩`
* comparisons ↦ `⟨a⟩ ⟨b⟩ op`, and for a third argument `dup jump_if_false end pop ⟨b⟩ ⟨c⟩ op`
* `+` ↦ `⟨x₁⟩# ⟨x₂⟩# add …`; `*` ↦ `⟨x⟩#` alone, else `⟨x₁⟩ ⟨x₂⟩ mul …`
* `map`, `filter`, `all`, `none`, `some` ↦ `⟨source⟩` and the body as a block of its own
  (`⟨body⟩?` except for `map`), guarded unless the source is an array; `reduce` likewise, after
  the initial value, with the body reading the context object
* `merge` of literals ↦ `push` of the flattened array; else `concat n` when every argument is
  an array, or `call merge/n` -/
def compile (c : Catalog) (facts : Analysis) (scope : Scope) (base : Nat) :
    Rule → CompileM (List Instr)
  | .literal v => pure [.push v]
  | .list items =>
    match constantItems items with
    | some vs => pure [.push (.array vs)]
    | none => do
      let code ← compileSeq c facts scope base items
      pure (code ++ [.makeArray items.length])
  | .operation key args bracketed => do
    let node := Rule.operation key args bracketed
    let binaryOp (i : Instr) : CompileM (List Instr) := do
      let code ← compileSeq c facts scope base args
      pure (code ++ [i])
    let chain (cmp : Instr) : CompileM (List Instr) := do
      let windows ← compileWindows c facts scope base args
      pure (assembleChain cmp base windows)
    let iteration (kind : IterKind) : CompileM (List Instr) :=
      match args with
      | [source, body] => do
        let sourceCode ← compile c facts scope base source
        let bodyCode ← compile c facts .item 0 body
        let guarded := !facts.isArray source
        pure (sourceCode ++ [.iterate kind (bodyCode ++ truthyCall facts body) guarded])
      | _ => pure []
    match c.lookup key with
    | none => throw (.unrecognizedOperator key node)
    | some (.extension _) =>
      let b ← modifyGet fun n => n.resolve key
      let code ← compileSeq c facts scope base args
      pure (code ++ [.callOp b.slot args.length])
    | some (.builtin op) =>
      if let some a := op.arity then
        if !a.admits args.length then throw (.arity op a.words node)
      match op with
      | .var => compileVar c facts scope base args
      | .missing => do
        let code ← compileSeq c facts scope (base + 1) args
        pure ([.load scope] ++ code ++ [.callRoutine .missing (args.length + 1)])
      | .missingSome => compileMissingSome c facts scope base args
      | .cond =>
        if args.length < 2 then pure [.push .null]
        else do
          let (pairs, last) ← compileBranches c facts scope base args
          pure (assembleIf base pairs last)
      | .eq => binaryOp .eq
      | .strictEq => binaryOp .strictEq
      | .ne => binaryOp .ne
      | .strictNe => binaryOp .strictNe
      | .not =>
        match args with
        | [operand] => do
          let code ← compile c facts scope base operand
          pure (code ++ truthyCall facts operand ++ [.not])
        | _ => pure []
      | .notNot =>
        match args with
        | [operand] => do
          let code ← compile c facts scope base operand
          pure (code ++ (if facts.needsTruthy operand then [.callRoutine .truthy 1] else [.toBool]))
        | _ => pure []
      | .and =>
        if args.isEmpty then pure [.push .null]
        else do
          let (parts, last) ← compileShort c facts scope base args
          pure (assembleShort true base parts last)
      | .or =>
        if args.isEmpty then pure [.push .null]
        else do
          let (parts, last) ← compileShort c facts scope base args
          pure (assembleShort false base parts last)
      | .gt => chain .gt
      | .gte => chain .gte
      | .lt => chain .lt
      | .lte => chain .lte
      | .max => do
        let code ← compileSeq c facts scope base args
        pure (code ++ [.max args.length])
      | .min => do
        let code ← compileSeq c facts scope base args
        pure (code ++ [.min args.length])
      | .add => compileSum c facts scope base true args
      | .sub => do
        let code ← compileSeq c facts scope base args
        pure (code ++ [if args.length == 1 then .neg else .sub])
      | .mul =>
        if args.length == 1 then
          match args with
          | [single] => do
            let code ← compile c facts scope base single
            pure (code ++ numberCall facts single)
          | _ => pure []
        else compileProduct c facts scope base true args
      | .div => binaryOp .div
      | .mod => binaryOp .mod
      | .map =>
        match args with
        | [source, body] => do
          let sourceCode ← compile c facts scope base source
          let bodyCode ← compile c facts .item 0 body
          pure (sourceCode ++ [.iterate .map bodyCode (!facts.isArray source)])
        | _ => pure []
      | .filter => iteration .filter
      | .allOf => iteration .all
      | .noneOf => iteration .none
      | .someOf => iteration .some
      | .reduce =>
        match args with
        | source :: body :: rest => do
          let sourceCode ← compile c facts scope base source
          let initCode ← match rest with
            | init :: _ => compile c facts scope (base + sourceCode.length) init
            | [] => pure []
          let bodyCode ← compile c facts .context 0 body
          pure (sourceCode ++ initCode ++
            [.reduce bodyCode (!facts.isArray source) (rest.length == 1) (readsData bodyCode)])
        | _ => pure []
      | .merge =>
        match constantItems args with
        | some vs => pure [.push (.array (Value.flattenOnce vs))]
        | none => do
          let code ← compileSeq c facts scope base args
          if args.all facts.isArray then pure (code ++ [.concat args.length])
          else pure (code ++ [.callRoutine .merge args.length])
      | .member =>
        match args with
        | [needle, haystack] => do
          let needleCode ← compile c facts scope base needle
          let hayCode ← compile c facts scope (base + needleCode.length) haystack
          pure (needleCode ++ hayCode ++ [.includes (!facts.isArray haystack)])
        | _ => pure []
      | .cat =>
        if args.isEmpty then pure [.push (.string "")]
        else if args.length == 1 then do
          let code ← compileSeq c facts scope base args
          pure (code ++ [.toText])
        else do
          let code ← compileSeq c facts scope base args
          pure (code ++ [.join args.length])
      | .substr => do
        let code ← compileSeq c facts scope base args
        pure (code ++ [.callRoutine .substr args.length])
      | .log => do
        let code ← compileSeq c facts scope base args
        pure (code ++ [.callRoutine .log 1])

/-- Compiles rules one after the other. -/
def compileSeq (c : Catalog) (facts : Analysis) (scope : Scope) (base : Nat) :
    List Rule → CompileM (List Instr)
  | [] => pure []
  | r :: rest => do
    let code ← compile c facts scope base r
    let more ← compileSeq c facts scope (base + code.length) rest
    pure (code ++ more)

/-- The operands of `+`, each converted to a number, added from the second on. -/
def compileSum (c : Catalog) (facts : Analysis) (scope : Scope) (base : Nat) (first : Bool) :
    List Rule → CompileM (List Instr)
  | [] => pure []
  | r :: rest => do
    let code ← compile c facts scope base r
    let code := code ++ numberCall facts r ++ (if first then [] else [.add])
    let more ← compileSum c facts scope (base + code.length) false rest
    pure (code ++ more)

/-- The operands of `*`, multiplied from the second on. -/
def compileProduct (c : Catalog) (facts : Analysis) (scope : Scope) (base : Nat) (first : Bool) :
    List Rule → CompileM (List Instr)
  | [] => pure []
  | r :: rest => do
    let code ← compile c facts scope base r
    let code := code ++ (if first then [] else [.mul])
    let more ← compileProduct c facts scope (base + code.length) false rest
    pure (code ++ more)

/-- The path and default of a `var`. -/
def compileVar (c : Catalog) (facts : Analysis) (scope : Scope) (base : Nat) :
    List Rule → CompileM (List Instr)
  | [] => pure [.load scope]
  | path :: rest =>
    match varPath path with
    | .whole => pure [.load scope]
    | .computed => do
      let pathCode ← compile c facts scope (base + 1) path
      let defaultCode ← match rest with
        | d :: _ => compile c facts scope (base + 1 + pathCode.length) d
        | [] => pure [.push .null]
      pure ([.load scope] ++ pathCode ++ defaultCode ++ [.callRoutine .resolve 3])
    | .segments segments =>
      match rest with
      | d :: _ => do
        let defaultCode ← compile c facts scope (base + 2) d
        pure ([.loadPath scope segments, .jumpIfPresent (base + 2 + defaultCode.length)] ++
          defaultCode)
      | [] => pure [.loadPath scope segments]
    | .illegal => throw (.illegalVarKey path)

/-- The arguments of `missing_some`: the minimum (or 0) and the keys (or `[]`). -/
def compileMissingSome (c : Catalog) (facts : Analysis) (scope : Scope) (base : Nat) :
    List Rule → CompileM (List Instr)
  | [] => pure [.load scope, .push (.int 0), .push (.array []), .callRoutine .missingSome 3]
  | [least] => do
    let code ← compile c facts scope (base + 1) least
    pure ([.load scope] ++ code ++ [.push (.array []), .callRoutine .missingSome 3])
  | least :: keys :: _ => do
    let leastCode ← compile c facts scope (base + 1) least
    let keysCode ← compile c facts scope (base + 1 + leastCode.length) keys
    pure ([.load scope] ++ leastCode ++ keysCode ++ [.callRoutine .missingSome 3])

/-- The pairs of an `if` chain, each condition normalized, and the last branch (`push null`
when there is none). -/
def compileBranches (c : Catalog) (facts : Analysis) (scope : Scope) (base : Nat) :
    List Rule → CompileM (List (List Instr × List Instr) × List Instr)
  | [] => pure ([], [.push .null])
  | [otherwise] => do
    let code ← compile c facts scope base otherwise
    pure ([], code)
  | cond :: thenBranch :: rest => do
    let condCode ← compile c facts scope base cond
    let condCode := condCode ++ truthyCall facts cond
    let thenCode ← compile c facts scope (base + condCode.length + 1) thenBranch
    let (pairs, last) ←
      compileBranches c facts scope (base + condCode.length + thenCode.length + 2) rest
    pure ((condCode, thenCode) :: pairs, last)

/-- The leading operands of `and` and `or`, each kept and tested, and the last operand. -/
def compileShort (c : Catalog) (facts : Analysis) (scope : Scope) (base : Nat) :
    List Rule → CompileM (List (List Instr) × List Instr)
  | [] => pure ([], [.push .null])
  | [last] => do
    let code ← compile c facts scope base last
    pure ([], code)
  | r :: rest => do
    let code ← compile c facts scope base r
    let part := code ++ [.dup] ++ truthyCall facts r
    let (parts, last) ← compileShort c facts scope (base + part.length + 2) rest
    pure (part :: parts, last)

/-- The windows of two neighbouring operands of a comparison chain of two or three
operands, each compiled after the three instructions that test the previous comparison; the
middle operand of three is compiled twice. -/
def compileWindows (c : Catalog) (facts : Analysis) (scope : Scope) (base : Nat) :
    List Rule → CompileM (List (List Instr))
  | [a, b] => do
    let aCode ← compile c facts scope base a
    let bCode ← compile c facts scope (base + aCode.length) b
    pure [aCode ++ bCode]
  | [a, b, d] => do
    let aCode ← compile c facts scope base a
    let bCode ← compile c facts scope (base + aCode.length) b
    let start := base + aCode.length + bCode.length + 1 + 3
    let bCode₂ ← compile c facts scope start b
    let dCode ← compile c facts scope (start + bCode₂.length) d
    pure [aCode ++ bCode, bCode₂ ++ dCode]
  | _ => pure []

end

/-- A literal compiles to the one instruction that pushes it. -/
@[simp] theorem compile_literal (c : Catalog) (facts : Analysis) (scope : Scope) (base : Nat)
    (v : Value) : (literal v).compile c facts scope base = pure [.push v] := by
  rw [compile.eq_def]

end Rule

end RuleMachine
