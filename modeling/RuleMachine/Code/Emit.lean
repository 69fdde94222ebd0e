import RuleMachine.Code.Compile

/-!
# Emitting code with labels

The compiler proper. It appends instructions to the block under construction and names jump
targets by labels: a label is a number from the block's own counter, placed at the position the
block has reached, and a jump carries its label until the block is done, when each label becomes
the position of its first placement (a label never placed stays as it is). The body of an
iteration is emitted into a block of its own, swapped in for the enclosing block and resolved
before the enclosing block is put back. Each routine call adds its routine to a set, and the
first request of an extension key pushes the key's operator, in step with the names.

`if` makes a label for its end and one for each pair's next test; `and`, `or`, a comparison chain
and a `var` with a default make a label for their end. `Rule.compile` computes the same targets
from positions known in advance (`Output.ofRule_eq_compile`).
-/

namespace RuleMachine

/-- Gives a jump the target `f` makes of its target; other instructions stay as they are. -/
def Instr.retarget (f : Nat → Nat) : Instr → Instr
  | .jump t => .jump (f t)
  | .jumpIfFalse t => .jumpIfFalse (f t)
  | .jumpIfTrue t => .jumpIfTrue (f t)
  | .jumpIfPresent t => .jumpIfPresent (f t)
  | i => i

/-- Instructions under construction, with their own labels: the count of labels made so far,
and each placement of a label with the position it was placed at, in placing order. -/
structure Block where
  instructions : List Instr := []
  labelCounter : Nat := 0
  labels : List (Nat × Nat) := []

namespace Block

/-- The position of the first placement of label `l`, or `l` itself when it was never placed. -/
def labelAt (labels : List (Nat × Nat)) (l : Nat) : Nat :=
  ((labels.find? (·.1 == l)).map (·.2)).getD l

/-- The instructions with each jump's label replaced by its position. -/
def resolveLabels (b : Block) : List Instr := b.instructions.map (Instr.retarget (labelAt b.labels))

end Block

/-- An extension operator the code calls: its key, the identifier it was named by, and the
operator. -/
structure OperationBinding where
  key : String
  identifier : String
  operation : Operation

/-- The compiler's state: the names given, the block under construction, the routines called so
far, each once in reporting order, and the extension operators by slot. -/
structure Emitter where
  names : Naming := {}
  block : Block := {}
  support : RoutineSet := {}
  operations : List OperationBinding := []

/-- Emitting may fail, as compiling does. -/
abbrev EmitM := StateT Emitter (Except CompileError)

namespace Emitter

/-- Appends an instruction to the block. -/
def emit (i : Instr) : EmitM Unit :=
  modify fun s => { s with block := { s.block with instructions := s.block.instructions ++ [i] } }

/-- Appends an instruction when `b` holds. -/
def emitIf (b : Bool) (i : Instr) : EmitM Unit :=
  if b then emit i else pure ()

/-- Appends a call of a routine, adding the routine to the set. -/
def emitSupport (r : Routine) (argc : Nat) : EmitM Unit := do
  modify fun s => { s with support := s.support.insert r }
  emit (.callRoutine r argc)

/-- A label not made before in this block. -/
def newLabel : EmitM Nat :=
  modifyGet fun s =>
    (s.block.labelCounter, { s with block := { s.block with labelCounter := s.block.labelCounter + 1 } })

/-- Places a label at the position the block has reached. -/
def placeLabel (l : Nat) : EmitM Unit :=
  modify fun s =>
    { s with block := { s.block with labels := s.block.labels ++ [(l, s.block.instructions.length)] } }

/-- Makes a label, emits `body` for it, and places the label where `body` ends. -/
def labelled (body : Nat → EmitM Unit) : EmitM Unit := do
  let l ← newLabel
  body l
  placeLabel l

/-- The binding of an extension key. A binding in a new slot, which is the next slot of the
operators, pushes the operator. -/
def bindExtension (key : String) (op : Operation) : EmitM Binding := do
  let b ← modifyGet fun s => let r := s.names.resolve key; (r.1, { s with names := r.2 })
  modify fun s =>
    if b.slot == s.operations.length then
      { s with operations := s.operations ++ [⟨key, b.identifier, op⟩] }
    else s
  pure b

/-- Runs an emission in a fresh block and gives that block's instructions resolved; the block
under construction before is put back. -/
def inBlock (m : EmitM Unit) : EmitM (List Instr) := do
  let outer ← modifyGet fun s => (s.block, { s with block := {} })
  m
  let inner ← modifyGet fun s => (s.block, { s with block := outer })
  pure inner.resolveLabels

/-- The truthiness normalization of a condition, unless the analysis knows it is no array. -/
def normalize (facts : Analysis) (r : Rule) : EmitM Unit :=
  if facts.needsTruthy r then emitSupport .truthy 1 else pure ()

/-- The conversion of an arithmetic operand, unless the analysis knows it is a number. -/
def toNumber (facts : Analysis) (r : Rule) : EmitM Unit :=
  if facts.isNumeric r then pure () else emit .toNumber

end Emitter

open Emitter

namespace Rule

mutual

/-- Emits the code of a rule, reading data from `scope`. -/
def emit (c : Catalog) (facts : Analysis) (scope : Scope) : Rule → EmitM Unit
  | .literal v => Emitter.emit (.push v)
  | .list items =>
    match constantItems items with
    | some vs => Emitter.emit (.push (.array vs))
    | none => do
      emitAll c facts scope items
      Emitter.emit (.makeArray items.length)
  | .operation key args bracketed => do
    let node := Rule.operation key args bracketed
    let binaryOp (i : Instr) : EmitM Unit := do
      emitAll c facts scope args
      Emitter.emit i
    let chain (cmp : Instr) : EmitM Unit := labelled fun stop => emitWindows c facts scope cmp stop args
    let iteration (kind : IterKind) : EmitM Unit :=
      match args with
      | [source, body] => do
        emit c facts scope source
        let bodyCode ← inBlock do
          emit c facts .item body
          if kind != .map then normalize facts body
        Emitter.emit (.iterate kind bodyCode !facts.isArray source)
      | _ => pure ()
    match c.lookup key with
    | none => throw (.unrecognizedOperator key node)
    | some (.extension op) => do
      let b ← bindExtension key op
      emitAll c facts scope args
      Emitter.emit (.callOp b.slot args.length)
    | some (.builtin op) =>
      if let some a := op.arity then
        if !a.admits args.length then throw (.arity op a.words node)
      match op with
      | .var => emitVar c facts scope args
      | .missing => do
        Emitter.emit (.load scope)
        emitAll c facts scope args
        emitSupport .missing (args.length + 1)
      | .missingSome => emitMissingSome c facts scope args
      | .cond =>
        if args.length < 2 then Emitter.emit (.push .null)
        else labelled fun stop => emitBranches c facts scope stop args
      | .eq => binaryOp .eq
      | .strictEq => binaryOp .strictEq
      | .ne => binaryOp .ne
      | .strictNe => binaryOp .strictNe
      | .not =>
        match args with
        | [operand] => do
          emit c facts scope operand
          normalize facts operand
          Emitter.emit .not
        | _ => pure ()
      | .notNot =>
        match args with
        | [operand] => do
          emit c facts scope operand
          if facts.needsTruthy operand then emitSupport .truthy 1 else Emitter.emit .toBool
        | _ => pure ()
      | .and =>
        if args.isEmpty then Emitter.emit (.push .null)
        else labelled fun stop => emitShort c facts scope true stop args
      | .or =>
        if args.isEmpty then Emitter.emit (.push .null)
        else labelled fun stop => emitShort c facts scope false stop args
      | .gt => chain .gt
      | .gte => chain .gte
      | .lt => chain .lt
      | .lte => chain .lte
      | .max => binaryOp (.max args.length)
      | .min => binaryOp (.min args.length)
      | .add => emitSum c facts scope true args
      | .sub => binaryOp (if args.length == 1 then .neg else .sub)
      | .mul =>
        if args.length == 1 then
          match args with
          | [single] => do
            emit c facts scope single
            Emitter.toNumber facts single
          | _ => pure ()
        else emitProduct c facts scope true args
      | .div => binaryOp .div
      | .mod => binaryOp .mod
      | .map => iteration .map
      | .filter => iteration .filter
      | .allOf => iteration .all
      | .noneOf => iteration .none
      | .someOf => iteration .some
      | .reduce =>
        match args with
        | source :: body :: rest => do
          emit c facts scope source
          match rest with
          | init :: _ => emit c facts scope init
          | [] => pure ()
          let bodyCode ← inBlock (emit c facts .context body)
          Emitter.emit
            (.reduce bodyCode (!facts.isArray source) (rest.length == 1) (readsData bodyCode))
        | _ => pure ()
      | .merge =>
        match constantItems args with
        | some vs => Emitter.emit (.push (.array (Value.flattenOnce vs)))
        | none => do
          emitAll c facts scope args
          if args.all facts.isArray then Emitter.emit (.concat args.length)
          else emitSupport .merge args.length
      | .member =>
        match args with
        | [needle, haystack] => do
          emit c facts scope needle
          emit c facts scope haystack
          Emitter.emit (.includes !facts.isArray haystack)
        | _ => pure ()
      | .cat =>
        match args with
        | [] => Emitter.emit (.push (.string ""))
        | [single] => do
          emit c facts scope single
          Emitter.emit .toText
        | _ => binaryOp (.join args.length)
      | .substr => do
        emitAll c facts scope args
        emitSupport .substr args.length
      | .log => do
        emitAll c facts scope args
        emitSupport .log 1

/-- Emits rules one after the other. -/
def emitAll (c : Catalog) (facts : Analysis) (scope : Scope) : List Rule → EmitM Unit
  | [] => pure ()
  | r :: rest => do
    emit c facts scope r
    emitAll c facts scope rest

/-- The operands of `+`, each converted to a number, added from the second on. -/
def emitSum (c : Catalog) (facts : Analysis) (scope : Scope) (first : Bool) :
    List Rule → EmitM Unit
  | [] => pure ()
  | r :: rest => do
    emit c facts scope r
    Emitter.toNumber facts r
    Emitter.emitIf (!first) .add
    emitSum c facts scope false rest

/-- The operands of `*`, multiplied from the second on. -/
def emitProduct (c : Catalog) (facts : Analysis) (scope : Scope) (first : Bool) :
    List Rule → EmitM Unit
  | [] => pure ()
  | r :: rest => do
    emit c facts scope r
    Emitter.emitIf (!first) .mul
    emitProduct c facts scope false rest

/-- The path and default of a `var`; a literal path with a default jumps over the default when
the path is present. -/
def emitVar (c : Catalog) (facts : Analysis) (scope : Scope) : List Rule → EmitM Unit
  | [] => Emitter.emit (.load scope)
  | path :: rest =>
    match varPath path with
    | .whole => Emitter.emit (.load scope)
    | .computed => do
      Emitter.emit (.load scope)
      emit c facts scope path
      match rest with
      | d :: _ => emit c facts scope d
      | [] => Emitter.emit (.push .null)
      emitSupport .resolve 3
    | .segments segments => do
      Emitter.emit (.loadPath scope segments)
      match rest with
      | d :: _ =>
        labelled fun stop => do
          Emitter.emit (.jumpIfPresent stop)
          emit c facts scope d
      | [] => pure ()
    | .illegal => throw (.illegalVarKey path)

/-- The arguments of `missing_some`: the minimum (or 0) and the keys (or `[]`), after the data. -/
def emitMissingSome (c : Catalog) (facts : Analysis) (scope : Scope) : List Rule → EmitM Unit
  | [] => do
    Emitter.emit (.load scope)
    Emitter.emit (.push (.int 0))
    Emitter.emit (.push (.array []))
    emitSupport .missingSome 3
  | [least] => do
    Emitter.emit (.load scope)
    emit c facts scope least
    Emitter.emit (.push (.array []))
    emitSupport .missingSome 3
  | least :: keys :: _ => do
    Emitter.emit (.load scope)
    emit c facts scope least
    emit c facts scope keys
    emitSupport .missingSome 3

/-- The pairs of an `if` chain, each test jumping to the next pair's label and each branch to
`stop`, then the last argument or `push null`. -/
def emitBranches (c : Catalog) (facts : Analysis) (scope : Scope) (stop : Nat) :
    List Rule → EmitM Unit
  | cond :: thenBranch :: rest => do
    labelled fun next => do
      emit c facts scope cond
      normalize facts cond
      Emitter.emit (.jumpIfFalse next)
      emit c facts scope thenBranch
      Emitter.emit (.jump stop)
    emitBranches c facts scope stop rest
  | [otherwise] => emit c facts scope otherwise
  | [] => Emitter.emit (.push .null)

/-- The operands of `and` (`isAnd`) or `or`: each but the last kept, tested and, when it
decides, left as the result at `stop`. -/
def emitShort (c : Catalog) (facts : Analysis) (scope : Scope) (isAnd : Bool) (stop : Nat) :
    List Rule → EmitM Unit
  | [] => pure ()
  | [last] => emit c facts scope last
  | r :: rest => do
    emit c facts scope r
    Emitter.emit .dup
    normalize facts r
    Emitter.emit (if isAnd then .jumpIfFalse stop else .jumpIfTrue stop)
    Emitter.emit .pop
    emitShort c facts scope isAnd stop rest

/-- The windows of two neighbouring operands of a comparison chain of two or three operands:
the second window tests the first comparison and leaves it at `stop` when false, and compiles
the middle operand again. -/
def emitWindows (c : Catalog) (facts : Analysis) (scope : Scope) (cmp : Instr) (stop : Nat) :
    List Rule → EmitM Unit
  | [a, b] => do
    emit c facts scope a
    emit c facts scope b
    Emitter.emit cmp
  | [a, b, d] => do
    emit c facts scope a
    emit c facts scope b
    Emitter.emit cmp
    Emitter.emit .dup
    Emitter.emit (.jumpIfFalse stop)
    Emitter.emit .pop
    emit c facts scope b
    emit c facts scope d
    Emitter.emit cmp
  | _ => pure ()

end

/-- A literal emits the one instruction that pushes it. -/
@[simp] theorem emit_literal (c : Catalog) (facts : Analysis) (scope : Scope) (v : Value) :
    (literal v).emit c facts scope = Emitter.emit (.push v) := by
  rw [emit.eq_def]

end Rule

/-- What compiling a rule gives: its code with the labels resolved, the routines it calls, and
the extension operators by slot. -/
structure Output where
  code : List Instr
  support : List Routine
  operations : List OperationBinding

/-- Compiles a rule tree under a catalog, assuming what `facts` knows about values. -/
def Output.ofRule (c : Catalog) (facts : Analysis) (r : Rule) : Except CompileError Output :=
  match (r.emit c facts .arg).run {} with
  | .error e => .error e
  | .ok ((), s) => .ok ⟨s.block.resolveLabels, s.support.members, s.operations⟩

end RuleMachine
