import RuleMachine.Rule.Catalog
import RuleMachine.Rule.Var
import RuleMachine.Code.Error
import RuleMachine.Run.Error
import RuleMachine.Run.Routines
import RuleMachine.Value.Operators

/-!
# Evaluating rules directly

`Rule.evaluate` gives a rule's value by walking the tree, with no code in between: the meaning
that compiled code has to keep. A rule is evaluated on a data value: the record, the item in
the body of an iteration, or the context object `{accumulator, current, index, data}` in the
body of `reduce`. Evaluation stops at a defect only where it reaches one, and records each
logged value and each extension call as an event.
-/

namespace RuleMachine

/-- Why a direct evaluation stops. -/
inductive EvalError where
  /-- The rule has a defect where evaluation reached it. -/
  | defect (e : CompileError)
  /-- An operation failed, as it fails when compiled code runs. -/
  | run (e : RunError)
  deriving Inhabited

/-- Evaluation may fail, and keeps the events so far, the latest first. -/
abbrev EvalM := ExceptT EvalError (StateM (List Event))

namespace Rule

/-- The value of two operands under a binary operator. -/
def binary (f : Value → Value → Value) : List Value → Value
  | [a, b] => f a b
  | _ => .null

/-- The sum of operands, each converted to a number first. -/
def sum : List Value → Value
  | [] => .null
  | first :: rest => rest.foldl (fun acc v => Value.arith Binary64.add acc v.number) first.number

/-- The product of operands; a lone operand is converted to a number. -/
def product : List Value → Value
  | [] => .null
  | [single] => single.number
  | first :: rest => rest.foldl (Value.arith Binary64.mul) first

/-- The difference of two operands, or the negation of one. -/
def difference : List Value → Value
  | [single] => Value.ofWord single.toNumber.neg
  | [a, b] => Value.arith Binary64.sub a b
  | _ => .null

/-- The text of `cat`'s operands: empty for none, the text of one, else the texts joined
with null as the empty text. -/
def concatenation : List Value → Value
  | [] => .string ""
  | [single] => .string single.toText
  | values => .string (Value.joinWith "" values)

/-- Membership for `in`; null for a haystack that is neither an array nor a string. -/
def membership : List Value → Value
  | [needle, haystack] =>
    match needle.memberOf? haystack with
    | some b => .bool b
    | none => .null
  | _ => .null

/-- The substring of `substr`'s operands. -/
def substring (values : List Value) : Value :=
  .string (Support.substr (values.getD 0 .null) (values.getD 1 .null) values[2]?)

/-- Records a value in the log. -/
def record (v : Value) : EvalM Unit := modify (.logged v :: ·)

/-- Calls an extension operator on argument values, recording the call first. -/
def callExtension (key : String) (op : Operation) (args : List Value) : EvalM Value := do
  modify (.called key args :: ·)
  match op args with
  | .ok v => pure v
  | .error m => throw (.run (.operation m))

mutual

/-- The value of a rule on `data`. -/
def evaluate (c : Catalog) (data : Value) : Rule → EvalM Value
  | .literal v => pure v
  | .list items => do pure (.array (← evaluateAll c data items))
  | .operation key args bracketed =>
    let node := Rule.operation key args bracketed
    match c.lookup key with
    | none => throw (.defect (.unrecognizedOperator key node))
    | some (.extension op) => do callExtension key op (← evaluateAll c data args)
    | some (.builtin b) => do
      if let some a := b.arity then
        if !a.admits args.length then throw (.defect (.arity b a.words node))
      match b with
      | .var => evaluateVar c data args
      | .missing => do pure (.array (Support.missing data (← evaluateAll c data args)))
      | .missingSome => evaluateMissingSome c data args
      | .cond => if args.length < 2 then pure .null else evaluateChain c data args
      | .eq => do pure (binary (fun a b => .bool (a.looseEq b)) (← evaluateAll c data args))
      | .strictEq => do
        pure (binary (fun a b => .bool (a.strictEq b)) (← evaluateAll c data args))
      | .ne => do pure (binary (fun a b => .bool !(a.looseEq b)) (← evaluateAll c data args))
      | .strictNe => do
        pure (binary (fun a b => .bool !(a.strictEq b)) (← evaluateAll c data args))
      | .not =>
        match args with
        | [operand] => do pure (.bool !(← evaluate c data operand).truthy)
        | _ => pure .null
      | .notNot =>
        match args with
        | [operand] => do pure (.bool (← evaluate c data operand).truthy)
        | _ => pure .null
      | .and => evaluateAnd c data args
      | .or => evaluateOr c data args
      | .gt => evaluateOrder c data Value.greater args
      | .gte => evaluateOrder c data Value.greaterEq args
      | .lt => evaluateOrder c data Value.less args
      | .lte => evaluateOrder c data Value.lessEq args
      | .max => do pure (Value.maximum (← evaluateAll c data args))
      | .min => do pure (Value.minimum (← evaluateAll c data args))
      | .add => do pure (sum (← evaluateAll c data args))
      | .sub => do pure (difference (← evaluateAll c data args))
      | .mul => do pure (product (← evaluateAll c data args))
      | .div => do pure (binary (Value.arith Binary64.div) (← evaluateAll c data args))
      | .mod => do pure (binary (Value.arith Binary64.fmod) (← evaluateAll c data args))
      | .map =>
        match args with
        | [source, body] => do
          match ← evaluate c data source with
          | .array items => do pure (.array (← items.mapM fun x => evaluate c x body))
          | _ => pure (.array [])
        | _ => pure .null
      | .filter =>
        match args with
        | [source, body] => do
          match ← evaluate c data source with
          | .array items => do
            pure (.array (← items.filterM fun x => do pure (← evaluate c x body).truthy))
          | _ => pure (.array [])
        | _ => pure .null
      | .allOf =>
        match args with
        | [source, body] => do
          match ← evaluate c data source with
          | .array [] => pure (.bool false)
          | .array items => do
            pure (.bool (← items.allM fun x => do pure (← evaluate c x body).truthy))
          | _ => pure (.bool false)
        | _ => pure .null
      | .someOf =>
        match args with
        | [source, body] => do
          match ← evaluate c data source with
          | .array items => do
            pure (.bool (← items.anyM fun x => do pure (← evaluate c x body).truthy))
          | _ => pure (.bool false)
        | _ => pure .null
      | .noneOf =>
        match args with
        | [source, body] => do
          match ← evaluate c data source with
          | .array items => do
            pure (.bool !(← items.anyM fun x => do pure (← evaluate c x body).truthy))
          | _ => pure (.bool true)
        | _ => pure .null
      | .reduce =>
        match args with
        | source :: body :: rest => do
          let sourceValue ← evaluate c data source
          let initial ← match rest with
            | init :: _ => some <$> evaluate c data init
            | [] => pure none
          match sourceValue with
          | .array items =>
            let step (acc : Value) (x : Value × Nat) : EvalM Value :=
              evaluate c (Value.reduceContext acc x.1 x.2 (some (.array items))) body
            match initial, items with
            | some acc, _ => items.zipIdx.foldlM step acc
            | none, first :: others => (others.zipIdx 1).foldlM step first
            | none, [] =>
              throw (.run (.typeMismatch "reduce of empty array with no initial value"))
          | _ => pure .null
        | _ => pure .null
      | .merge => do pure (.array (Value.flattenOnce (← evaluateAll c data args)))
      | .member => do pure (membership (← evaluateAll c data args))
      | .cat => do pure (concatenation (← evaluateAll c data args))
      | .substr => do pure (substring (← evaluateAll c data args))
      | .log =>
        match args with
        | [operand] => do
          let v ← evaluate c data operand
          record v
          pure v
        | _ => pure .null

/-- The values of rules, in order. -/
def evaluateAll (c : Catalog) (data : Value) : List Rule → EvalM (List Value)
  | [] => pure []
  | r :: rest => do
    let v ← evaluate c data r
    let vs ← evaluateAll c data rest
    pure (v :: vs)

/-- A `var` of these arguments: the path first, then the default. -/
def evaluateVar (c : Catalog) (data : Value) : List Rule → EvalM Value
  | [] => pure data
  | path :: rest =>
    match varPath path with
    | .whole => pure data
    | .computed => do
      let p ← evaluate c data path
      let d ← match rest with
        | d :: _ => evaluate c data d
        | [] => pure .null
      pure (Support.resolve data p d)
    | .segments segments =>
      match data.lookupPath segments with
      | some v => pure v
      | none =>
        match rest with
        | d :: _ => evaluate c data d
        | [] => pure .null
    | .illegal => throw (.defect (.illegalVarKey path))

/-- A `missing_some` of these arguments: the minimum (or 0), then the keys (or none). -/
def evaluateMissingSome (c : Catalog) (data : Value) : List Rule → EvalM Value
  | [] => pure (.array (Support.missingSome data (.int 0) (.array [])))
  | [least] => do
    let l ← evaluate c data least
    pure (.array (Support.missingSome data l (.array [])))
  | least :: keys :: _ => do
    let l ← evaluate c data least
    let k ← evaluate c data keys
    pure (.array (Support.missingSome data l k))

/-- An `if` chain: the branch after the first truthy condition, else the argument left over,
else null. -/
def evaluateChain (c : Catalog) (data : Value) : List Rule → EvalM Value
  | [] => pure .null
  | [otherwise] => evaluate c data otherwise
  | cond :: thenBranch :: rest => do
    if (← evaluate c data cond).truthy then evaluate c data thenBranch
    else evaluateChain c data rest

/-- `and`: the first falsy operand, else the last; null for none. -/
def evaluateAnd (c : Catalog) (data : Value) : List Rule → EvalM Value
  | [] => pure .null
  | [last] => evaluate c data last
  | r :: rest => do
    let v ← evaluate c data r
    if v.truthy then evaluateAnd c data rest else pure v

/-- `or`: the first truthy operand, else the last; null for none. -/
def evaluateOr (c : Catalog) (data : Value) : List Rule → EvalM Value
  | [] => pure .null
  | [last] => evaluate c data last
  | r :: rest => do
    let v ← evaluate c data r
    if v.truthy then pure v else evaluateOr c data rest

/-- A comparison of two operands, or of three as `a op b && b op c`. -/
def evaluateOrder (c : Catalog) (data : Value) (test : Value → Value → Bool) :
    List Rule → EvalM Value
  | [a, b] => do
    let x ← evaluate c data a
    let y ← evaluate c data b
    pure (.bool (test x y))
  | [a, b, d] => do
    let x ← evaluate c data a
    let y ← evaluate c data b
    if test x y then
      let y ← evaluate c data b
      let z ← evaluate c data d
      pure (.bool (test y z))
    else pure (.bool false)
  | _ => pure .null

end

/-- Evaluates a rule on a record: its value, or why evaluation stopped, with the events until
then, in order. -/
def run (c : Catalog) (record : Value) (r : Rule) : Except EvalError Value × List Event :=
  let (result, log) := (r.evaluate c record).run.run []
  (result, log.reverse)

end Rule

end RuleMachine
