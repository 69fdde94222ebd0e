import RuleMachine.Pattern.Node
import RuleMachine.Pattern.Property

/-!
# Matching automata

A `Node` becomes a list of steps: a step matches one character of a set, checks a zero-width
condition, splits into several steps, or accepts. Steps are numbered by their place in the
program and point forward to the step that follows them; a repetition without bound points
back to its split.

`Program.isMatch` runs the steps over a text as a set: at each place the set holds the steps
that wait for a character, after following every split and every condition that holds there.
A search may start anywhere, so the first step joins the set at every place. The text matches
when an accepting step is reached. Since only whether a match exists is asked, the order of
alternatives and the greed of repetitions play no part.
-/

namespace RuleMachine

namespace Pattern

/-- A step of a program. -/
inductive Step where
  | char (set : CharSet) (next : Nat)
  | look (l : Look) (next : Nat)
  | split (targets : List Nat)
  | accept
  deriving Inhabited

/-- Building a program: its steps so far. -/
abbrev BuildM := StateM (Array Step)

/-- Adds a step; its number. -/
def emit (s : Step) : BuildM Nat := modifyGet fun steps => (steps.size, steps.push s)

/-- Replaces a step. -/
def patch (i : Nat) (s : Step) : BuildM Unit := modify fun steps => steps.setIfInBounds i s

/-- `k` copies of a part, one after the other, then `tail`; the entry. -/
def chain (part : Nat → BuildM Nat) : Nat → Nat → BuildM Nat
  | 0, tail => pure tail
  | k + 1, tail => do part (← chain part k tail)

/-- Up to `k` copies of a part, each of which may be skipped to `exit`, then `tail`. -/
def optionalChain (part : Nat → BuildM Nat) (exit : Nat) : Nat → Nat → BuildM Nat
  | 0, tail => pure tail
  | k + 1, tail => do
    let entry ← part (← optionalChain part exit k tail)
    emit (.split [entry, exit])

mutual

/-- Steps for literal text followed by the step `next`; the entry. -/
def compileLiteral : List Char → Nat → BuildM Nat
  | [], next => pure next
  | c :: rest, next => do emit (.char (CharSet.single c.toNat) (← compileLiteral rest next))

/-- Steps for a node followed by the step `next`; the entry. -/
def compileNode : Node → Nat → BuildM Nat
  | .empty, next => pure next
  | .literal cs, next => compileLiteral cs next
  | .set s _, next => emit (.char s next)
  | .capture _ body, next => compileNode body next
  | .look l, next => emit (.look l next)
  | .concat items, next => compileSeq items next
  | .alternation branches, next => do emit (.split (← compileBranches branches next))
  | .repeat least most _ body, next => do
    let tail ← match most with
      | none => do
        let loop ← emit (.split [])
        let entry ← compileNode body loop
        patch loop (.split [entry, next])
        pure loop
      | some m => optionalChain (fun t => compileNode body t) next (m - least) next
    chain (fun t => compileNode body t) least tail

/-- Steps for nodes in sequence. -/
def compileSeq : List Node → Nat → BuildM Nat
  | [], next => pure next
  | n :: rest, next => do compileNode n (← compileSeq rest next)

/-- Entries of alternatives that all continue with `next`. -/
def compileBranches : List Node → Nat → BuildM (List Nat)
  | [], _ => pure []
  | b :: rest, next => do
    let entry ← compileNode b next
    return entry :: (← compileBranches rest next)

end

/-- A compiled pattern: its steps and its first step. -/
structure Program where
  steps : Array Step
  start : Nat

/-- The program of a node; step 0 accepts. -/
def Program.ofNode (n : Node) : Program :=
  let (start, steps) := (compileNode n 0).run #[.accept]
  ⟨steps, start⟩

/-- Whether a character is a word character, by Unicode or by ASCII. -/
def isWordChar (unicode : Bool) (c : Char) : Bool :=
  c.isAlphanum || c == '_' || (unicode && c.toNat > 0x7F && Unicode.wordSet.contains c.toNat)

/-- Whether a condition holds between the character before a place and the one after. -/
def Look.holds (l : Look) (prev next : Option Char) : Bool :=
  let word (u : Bool) (c : Option Char) := c.any (isWordChar u)
  match l with
  | .start => prev.isNone
  | .finish => next.isNone
  | .startLF => prev.isNone || prev == some '\n'
  | .endLF => next.isNone || next == some '\n'
  | .startCRLF => prev.isNone || prev == some '\n' || (prev == some '\r' && next != some '\n')
  | .endCRLF => next.isNone || next == some '\r' || (next == some '\n' && prev != some '\r')
  | .word u => word u prev != word u next
  | .notWord u => word u prev == word u next
  | .wordStart u => !word u prev && word u next
  | .wordEnd u => word u prev && !word u next
  | .wordStartHalf u => !word u prev
  | .wordEndHalf u => !word u next

namespace Program

/-- Marks steps as seen; those not seen before. -/
def markNew (seen : Array Bool) : List Nat → Array Bool × List Nat
  | [] => (seen, [])
  | s :: rest =>
    if seen.getD s true then markNew seen rest
    else
      let (seen, fresh) := markNew (seen.setIfInBounds s true) rest
      (seen, s :: fresh)

/-- The steps waiting for a character or accepting, reached from a stack of steps by splits
and conditions that hold between `prev` and `next`. Each step enters the stack once, so
one round per step bounds the walk. -/
def closure (p : Program) (prev next : Option Char) :
    Nat → List Nat → Array Bool → List Nat → List Nat
  | 0, _, _, found => found
  | _ + 1, [], _, found => found
  | fuel + 1, s :: stack, seen, found =>
    match p.steps[s]? with
    | some (.split targets) =>
      let (seen, fresh) := markNew seen targets
      closure p prev next fuel (fresh ++ stack) seen found
    | some (.look l target) =>
      if l.holds prev next then
        let (seen, fresh) := markNew seen [target]
        closure p prev next fuel (fresh ++ stack) seen found
      else closure p prev next fuel stack seen found
    | some _ => closure p prev next fuel stack seen (s :: found)
    | none => closure p prev next fuel stack seen found

/-- The waiting and accepting steps at a place, from seed steps. -/
def settle (p : Program) (prev next : Option Char) (seeds : List Nat) : List Nat :=
  let (seen, fresh) := markNew (Array.replicate p.steps.size false) seeds
  closure p prev next (p.steps.size + 1) fresh seen []

/-- Whether one of the steps accepts. -/
def accepts (p : Program) (states : List Nat) : Bool :=
  states.any fun s => match (p.steps[s]? : Option Step) with
    | some .accept => true
    | _ => false

/-- The steps that follow those waiting for the character `c`. -/
def advance (p : Program) (states : List Nat) (c : Char) : List Nat :=
  states.filterMap fun s => match (p.steps[s]? : Option Step) with
    | some (.char set next) => if set.contains c.toNat then some next else none
    | _ => none

/-- Runs the program over the rest of a text from a set of steps. -/
def search (p : Program) (states : List Nat) : List Char → Bool
  | [] => p.accepts states
  | c :: rest =>
    p.accepts states ||
      search p (p.settle (some c) rest.head? (p.advance states c ++ [p.start])) rest

/-- Whether the program matches anywhere in a text. -/
def isMatch (p : Program) (text : String) : Bool :=
  let chars := text.toList
  p.search (p.settle none chars.head? [p.start]) chars

end Program

end Pattern

end RuleMachine
