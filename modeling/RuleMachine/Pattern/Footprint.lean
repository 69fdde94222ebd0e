import RuleMachine.Pattern.Node
import RuleMachine.Pattern.Utf8
import Std.Data.HashMap

/-!
# The size of a compiled pattern

A pattern is compiled into two automata over bytes, one that reads forward and records the
capture groups and one that reads backward without them, and neither may take more than
`limit` bytes. `Node.exceedsSizeLimit` tells whether one of them would, by building each as a
count of states (every state takes `stateBytes`) and of the bytes that states hold beyond that:
`transitionBytes` for each transition of a sparse state and `branchBytes` for each branch of a
union. Building stops as soon as the count passes the limit.

Each part of a node adds states in a fixed order:

* empty text, a condition and a byte of a literal take a state each;
* a set of ASCII characters, or of bytes, takes an empty state and a sparse state with a
  transition for each range;
* any other set is compiled from the UTF-8 sequences of its ranges (see `utf8Sequences`).
  Forward, the sequences are merged into a trie from the front and identical nodes are shared
  from the back, with a cache of ten thousand slots, so a node whose slot another node took
  since is built again. Backward, each sequence is a chain of byte states under a union, and
  chains share a state when they end in the same bytes, with a cache of a thousand slots;
* a sequence chains its parts (backward, from the last part); alternatives take a union and
  an empty state after the first two branches are built, and alternatives that are all
  literals are compiled as a trie of their bytes;
* repetitions are built from copies of their part, with unions for the copies that may be
  skipped; a capture group takes a state on each side of its part, forward only.

Around the pattern come a prefix that lets a search start anywhere (a union over a set of all
bytes, or an empty state when every match is anchored where the automaton starts reading), the
capture states of the whole match (forward only) and a state that accepts. A slot of a cache
is the remainder of a hash of what it keeps (FNV-1a over 64-bit words, states by their numbers)
by the number of slots.
-/

namespace RuleMachine

namespace Pattern

namespace Footprint

/-- The most bytes an automaton may take. -/
def limit : Nat := 10485760

/-- The bytes a state takes. -/
def stateBytes : Nat := 32

/-- The bytes of a transition of a sparse state. -/
def transitionBytes : Nat := 8

/-- The bytes of a branch of a union state. -/
def branchBytes : Nat := 4

/-- An automaton being built: the number of its states, which is also the number the next
state gets, and the bytes its states hold beyond their own. -/
structure Builder where
  states : Nat
  extra : Nat

/-- The bytes an automaton takes. -/
def Builder.bytes (b : Builder) : Nat := b.states * stateBytes + b.extra

/-- Building that stops once the automaton passes the limit. -/
abbrev BuildM := StateT Builder (Except Unit)

/-- Stops if the automaton has passed the limit. -/
def checkLimit : BuildM Unit := do
  if (← get).bytes > limit then throw ()

/-- Adds a state holding `extra` bytes beyond its own; its number. -/
def addState (extra : Nat) : BuildM Nat := do
  let b ← get
  set ({ states := b.states + 1, extra := b.extra + extra } : Builder)
  checkLimit
  return b.states

/-- Points a state at another; a union state gains a branch. -/
def patchFrom (union : Bool) : BuildM Unit := do
  if union then
    modify fun b => { b with extra := b.extra + branchBytes }
    checkLimit

/-- A compiled part: its first state, its last state and whether the last is a union. -/
structure Ref where
  start : Nat
  stop : Nat
  stopUnion : Bool

/-- A part of one state. -/
def oneState : BuildM Ref := do
  let id ← addState 0
  return ⟨id, id, false⟩

/-- A sparse state with `k` transitions after an empty state it leads to. -/
def sparseClass (k : Nat) : BuildM Ref := do
  let stop ← addState 0
  let start ← addState (k * transitionBytes)
  return ⟨start, stop, false⟩

/-- A literal of `k` bytes: a chain of byte states. -/
def literalStates (k : Nat) : BuildM Ref := do
  let b ← get
  if k == 0 then oneState
  else
    set ({ states := b.states + k, extra := b.extra } : Builder)
    checkLimit
    return ⟨b.states, b.states + k - 1, false⟩

/-- The FNV-1a offset basis. -/
def fnvBasis : UInt64 := 14695981039346656037

/-- The FNV-1a prime. -/
def fnvPrime : UInt64 := 1099511628211

/-- One step of FNV-1a over a word. -/
def fnvStep (h : UInt64) (x : Nat) : UInt64 := (h ^^^ x.toUInt64) * fnvPrime

/-! ## Sets forward -/

/-- A transition of a sparse state: a byte range and the state it leads to. -/
structure Transition where
  lo : Nat
  hi : Nat
  next : Nat
  deriving BEq

/-- A node of the trie not yet built: its transitions, and the byte range of the transition
still open, whose target is not known yet. -/
structure Pending where
  trans : Array Transition
  last : Option ByteRange

/-- The pending node with its open transition leading to `next`. -/
def Pending.close (p : Pending) (next : Nat) : Pending :=
  match p.last with
  | some r => { trans := p.trans.push ⟨r.lo, r.hi, next⟩, last := none }
  | none => p

/-- The forward compiler of a set: the state every sequence ends in, the pending nodes from
the root on, and the cache of built nodes by slot. -/
structure TrieBuild where
  target : Nat
  pending : Array Pending
  cache : Std.HashMap Nat (Array Transition × Nat)

/-- Compiling a set forward. -/
abbrev TrieM := StateT TrieBuild BuildM

/-- The slot of a node in the cache. -/
def nodeSlot (key : Array Transition) : Nat :=
  (key.foldl (fun h t => fnvStep (fnvStep (fnvStep h t.lo) t.hi) t.next) fnvBasis).toNat % 10000

/-- The state of a node: the cached one if its slot holds the same node, else a new one. -/
def buildNode (node : Array Transition) : TrieM Nat := do
  let slot := nodeSlot node
  let cached := match (← get).cache[slot]? with
    | some (key, id) => if key == node then some id else none
    | none => none
  match cached with
  | some id => return id
  | none =>
    let id ← (addState (node.size * transitionBytes) : BuildM Nat)
    modify fun u => { u with cache := u.cache.insert slot (node, id) }
    return id

/-- Builds the pending nodes after position `keep`, the last first, each leading to the one
built before it (the first to the target); the node at `keep` is left leading to the last
one built. -/
def buildFrom (keep : Nat) : TrieM Unit := do
  let rec go : Nat → Nat → TrieM Nat
    | 0, next => pure next
    | fuel + 1, next => do
      let u ← get
      match u.pending.back? with
      | some p =>
        if keep + 1 < u.pending.size then
          set { u with pending := u.pending.pop }
          let id ← buildNode (p.close next).trans
          go fuel id
        else pure next
      | none => pure next
  let next ← go (← get).pending.size (← get).target
  modify fun u => { u with pending := u.pending.modify (u.pending.size - 1) (·.close next) }

/-- The number of pending nodes, from the root, whose open transition is the byte range at
the same place of a sequence. -/
def sharedLength : List Pending → List ByteRange → Nat
  | p :: ps, r :: rs => if p.last == some r then sharedLength ps rs + 1 else 0
  | _, _ => 0

/-- Adds a sequence to the trie. -/
def addSequence (seq : List ByteRange) : TrieM Unit := do
  let keep := sharedLength (← get).pending.toList seq
  buildFrom keep
  match seq.drop keep with
  | [] => pure ()
  | r :: rest =>
    modify fun u =>
      let pending := u.pending.modify (u.pending.size - 1) fun p => { p with last := some r }
      { u with pending := pending ++ (rest.map fun r => (⟨#[], some r⟩ : Pending)).toArray }

/-- Builds the rest of the trie; the part from the root to the target. -/
def finishTrie : TrieM Ref := do
  buildFrom 0
  let u ← get
  let root := (u.pending[0]?.map (·.trans)).getD #[]
  set { u with pending := #[] }
  let start ← buildNode root
  return ⟨start, u.target, false⟩

/-- A set of sequences compiled forward. -/
def forwardSet (seqs : List (List ByteRange)) : BuildM Ref := do
  let target ← addState 0
  let run : TrieM Ref := do
    for seq in seqs do addSequence seq
    finishTrie
  let (r, _) ← run.run ⟨target, #[⟨#[], none⟩], {}⟩
  return r

/-! ## Sets backward -/

/-- The slot of a byte state in the cache of shared chain ends: the state it leads to and its
byte range. -/
def chainSlot (next lo hi : Nat) : Nat :=
  (fnvStep (fnvStep (fnvStep fnvBasis next) lo) hi).toNat % 1000

/-- A set of sequences compiled backward. -/
def backwardSet (seqs : List (List ByteRange)) : BuildM Ref := do
  let union ← addState 0
  let altEnd ← addState 0
  let mut cache : Std.HashMap Nat ((Nat × Nat × Nat) × Nat) := {}
  for seq in seqs do
    let mut next := altEnd
    for r in seq do
      let slot := chainSlot next r.lo r.hi
      let cached := match cache[slot]? with
        | some (key, id) => if key == (next, r.lo, r.hi) then some id else none
        | none => none
      match cached with
      | some id => next := id
      | none =>
        let id ← addState 0
        cache := cache.insert slot ((next, r.lo, r.hi), id)
        next := id
    patchFrom true
  return ⟨union, altEnd, false⟩

/-- A set of characters, compiled forward or backward. -/
def unicodeSet (backward : Bool) (s : CharSet) : BuildM Ref :=
  if s.isAscii then sparseClass s.ranges.length
  else
    let seqs := s.ranges.flatMap fun (lo, hi) => utf8Sequences lo hi
    if backward then backwardSet seqs else forwardSet seqs

/-! ## Alternatives of literals -/

/-- A state of the trie of literals: its transitions by byte, and the spans of transitions
before each place where a literal ends there. -/
structure LitState where
  trans : Array (Nat × Nat)
  chunks : Array (Nat × Nat)
  deriving Inhabited

/-- Where the transitions after the last literal ending at a state start. -/
def LitState.activeStart (s : LitState) : Nat := (s.chunks.back?.map (·.2)).getD 0

/-- The state after a byte from a state, added if missing; transitions after the last ending
are kept in byte order. -/
def litStep (t : Array LitState) (src b : Nat) : Array LitState × Nat :=
  let s := t.getD src default
  let start := s.activeStart
  let active := (s.trans.extract start s.trans.size).toList
  match active.find? (·.1 == b) with
  | some (_, next) => (t, next)
  | none =>
    let next := t.size
    let pos := start + (active.findIdx? (·.1 > b)).getD active.length
    let trans := (s.trans.toList.take pos ++ [(b, next)] ++ s.trans.toList.drop pos).toArray
    ((t.set! src { s with trans := trans }).push default, next)

/-- Marks the end of a literal at a state. -/
def litEnd (t : Array LitState) (id : Nat) : Array LitState :=
  let s := t.getD id default
  if s.trans.isEmpty && !s.chunks.isEmpty then t
  else t.set! id { s with chunks := s.chunks.push (s.activeStart, s.trans.size) }

/-- The trie of literals given by their bytes. -/
def litTrie (literals : List (List Nat)) : Array LitState :=
  literals.foldl (fun t bytes =>
    let (t, last) := bytes.foldl (fun (t, src) b => litStep t src b) (t, 0)
    litEnd t last) #[default]

/-- The transitions of a state in its groups: those before each ending, then the rest. -/
def LitState.groups (s : LitState) : List (List (Nat × Nat)) :=
  (s.chunks.toList.map fun (a, b) => (s.trans.extract a b).toList) ++
    [(s.trans.extract s.activeStart s.trans.size).toList]

/-- The states and extra bytes that compiling the trie from a state adds: for each group the
compiled states of the targets that are not leaves, then a byte state for a group of one
transition or a sparse state for a larger one; and last a union over the groups and over
the final state once for each group after the first. -/
def litCost (t : Array LitState) : Nat → Nat → Nat × Nat
  | 0, _ => (0, 0)
  | fuel + 1, id =>
    let s := t.getD id default
    let groups := s.groups
    let groupCost (g : List (Nat × Nat)) : Nat × Nat :=
      let inner := g.foldl (fun acc (_, next) =>
        if (t.getD next default).trans.isEmpty then acc
        else
          let c := litCost t fuel next
          (acc.1 + c.1, acc.2 + c.2)) (0, 0)
      match g with
      | [] => inner
      | [_] => (inner.1 + 1, inner.2)
      | _ => (inner.1 + 1, inner.2 + g.length * transitionBytes)
    let total := groups.foldl (fun acc g => let c := groupCost g; (acc.1 + c.1, acc.2 + c.2)) (0, 0)
    let branches := (groups.filter (!·.isEmpty)).length + (groups.length - 1)
    (total.1 + 1, total.2 + branches * branchBytes)

/-- Alternatives that are all literals, compiled as a trie of their bytes, read from the back
when compiling backward. -/
def literalTrie (backward : Bool) (literals : List (List Char)) : BuildM Ref := do
  let bytes := literals.map fun cs =>
    let bs := cs.flatMap fun c => utf8Bytes c.toNat
    if backward then bs.reverse else bs
  let t := litTrie bytes
  let stop ← addState 0
  let (states, extra) := litCost t t.size 0
  let b ← get
  set ({ states := b.states + states, extra := b.extra + extra } : Builder)
  checkLimit
  return ⟨b.states + states - 1, stop, false⟩

/-- The literals of branches that are all literals. -/
def allLiterals : List Node → Option (List (List Char))
  | [] => some []
  | .literal cs :: rest => (allLiterals rest).map (cs :: ·)
  | _ => none

/-! ## Repetitions -/

/-- `k` more copies of a part chained after `acc`. The builder is passed along by hand so
that the copies are made in a loop. -/
def moreCopies (part : BuildM Ref) : Nat → Ref → Builder → Except Unit (Ref × Builder)
  | 0, acc, b => .ok (acc, b)
  | k + 1, acc, b =>
    match (do let r ← part; patchFrom acc.stopUnion; pure r : BuildM Ref).run b with
    | .error e => .error e
    | .ok (r, b) => moreCopies part k ⟨acc.start, r.stop, r.stopUnion⟩ b

/-- Exactly `k` copies of a part in sequence; none is an empty state. -/
def exactly (part : BuildM Ref) (k : Nat) : BuildM Ref :=
  match k with
  | 0 => oneState
  | k + 1 => do
    let first ← part
    fun b => moreCopies part k first b

/-- `k` more copies of a part that may each be skipped to the empty state: before each, a
union leading to it and to the empty state. Whether the last state so far is a union. -/
def optionalCopies (part : BuildM Ref) : Nat → Bool → Builder → Except Unit (Bool × Builder)
  | 0, prevUnion, b => .ok (prevUnion, b)
  | k + 1, prevUnion, b =>
    let step : BuildM Ref := do
      let _ ← addState 0
      let r ← part
      patchFrom prevUnion
      patchFrom true
      patchFrom true
      pure r
    match step.run b with
    | .error e => .error e
    | .ok (r, b) => optionalCopies part k r.stopUnion b

/-- A repetition of a part from `least` to `most` times; `nonEmpty` when the part always
matches some text. -/
def repetition (part : BuildM Ref) (nonEmpty : Bool) (least : Nat) (most : Option Nat) :
    BuildM Ref :=
  match least, most with
  | 0, some 1 => do
    let union ← addState 0
    let r ← part
    let empty ← addState 0
    patchFrom true
    patchFrom true
    patchFrom r.stopUnion
    return ⟨union, empty, false⟩
  | 0, none =>
    if nonEmpty then do
      let union ← addState 0
      let r ← part
      patchFrom true
      patchFrom r.stopUnion
      return ⟨union, union, true⟩
    else do
      let r ← part
      let _ ← addState 0
      patchFrom r.stopUnion
      patchFrom true
      let question ← addState 0
      let empty ← addState 0
      patchFrom true
      patchFrom true
      patchFrom true
      return ⟨question, empty, false⟩
  | 1, none => do
    let r ← part
    let union ← addState 0
    patchFrom r.stopUnion
    patchFrom true
    return ⟨r.start, union, true⟩
  | n + 2, none => do
    let p ← exactly part (n + 1)
    let last ← part
    let union ← addState 0
    patchFrom p.stopUnion
    patchFrom last.stopUnion
    patchFrom true
    return ⟨p.start, union, true⟩
  | n, some m =>
    if n == m then exactly part n
    else do
      let p ← exactly part n
      let empty ← addState 0
      let lastUnion ← fun b => optionalCopies part (m - n) p.stopUnion b
      patchFrom lastUnion
      return ⟨p.start, empty, false⟩

/-- A part inside capture states. -/
def captured (part : BuildM Ref) : BuildM Ref := do
  let start ← addState 0
  let r ← part
  let stop ← addState 0
  patchFrom false
  patchFrom r.stopUnion
  return ⟨start, stop, false⟩

/-! ## Nodes -/

/-- Chains a part after what is built so far. -/
def chainAfter (acc : Option Ref) (r : Ref) : BuildM Ref :=
  match acc with
  | none => pure r
  | some a => do
    patchFrom a.stopUnion
    return ⟨a.start, r.stop, r.stopUnion⟩

mutual

/-- Compiles a node forward, or backward without capture states. -/
def compile (backward : Bool) : Node → BuildM Ref
  | .empty => oneState
  | .literal cs => literalStates (cs.flatMap fun c => utf8Bytes c.toNat).length
  | .set s bytes => if bytes then sparseClass s.ranges.length else unicodeSet backward s
  | .look _ => oneState
  | .repeat least most _ body =>
    repetition (compile backward body) (body.measure.least.any (· > 0)) least most
  | .capture _ body => if backward then compile backward body else captured (compile backward body)
  | .concat items => do
    let r ← if backward then compileBackward backward items else compileForward backward none items
    match r with
    | some r => pure r
    | none => oneState
  | .alternation branches =>
    match allLiterals branches with
    | some literals =>
      if literals.length ≥ 2 then literalTrie backward literals
      else compileBranches backward branches
    | none => compileBranches backward branches

/-- Compiles parts in order, each chained after the one before. -/
def compileForward (backward : Bool) (acc : Option Ref) : List Node → BuildM (Option Ref)
  | [] => pure acc
  | n :: rest => do
    let r ← compile backward n
    let acc ← chainAfter acc r
    compileForward backward (some acc) rest

/-- Compiles parts from the last to the first, each chained after the one compiled before. -/
def compileBackward (backward : Bool) : List Node → BuildM (Option Ref)
  | [] => pure none
  | n :: rest => do
    let acc ← compileBackward backward rest
    let r ← compile backward n
    some <$> chainAfter acc r

/-- Compiles alternatives: the first two, then a union and an empty state, then the rest,
each branch led to from the union and leading to the empty state. -/
def compileBranches (backward : Bool) : List Node → BuildM Ref
  | [] => sparseClass 0
  | [b] => compile backward b
  | b1 :: b2 :: rest => do
    let r1 ← compile backward b1
    let r2 ← compile backward b2
    let union ← addState 0
    let stop ← addState 0
    patchFrom true
    patchFrom r1.stopUnion
    patchFrom true
    patchFrom r2.stopUnion
    compileOtherBranches backward rest
    return ⟨union, stop, false⟩

/-- Compiles further alternatives into a union built already. -/
def compileOtherBranches (backward : Bool) : List Node → BuildM Unit
  | [] => pure ()
  | b :: rest => do
    let r ← compile backward b
    patchFrom true
    patchFrom r.stopUnion
    compileOtherBranches backward rest

end

/-- Whether the automaton of a node, forward or backward, passes the limit. -/
def passesLimit (backward : Bool) (n : Node) : Bool :=
  let m := n.measure
  let anchored := if backward then m.endAnchored else m.startAnchored
  let build : BuildM Unit := do
    let pre ← if anchored then oneState else repetition (sparseClass 1) true 0 none
    let whole ← if backward then compile true n else captured (compile false n)
    let _ ← addState 0
    patchFrom whole.stopUnion
    patchFrom pre.stopUnion
  match build.run ⟨0, 0⟩ with
  | .error _ => true
  | .ok _ => false

end Footprint

/-- Whether a compiled pattern would pass the size limit: its forward automaton, or else its
backward one. -/
def Node.exceedsSizeLimit (n : Node) : Bool :=
  Footprint.passesLimit false n || Footprint.passesLimit true n

end Pattern

end RuleMachine
