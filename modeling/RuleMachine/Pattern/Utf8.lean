/-!
# UTF-8 sequences of code point ranges

`utf8Sequences lo hi` splits the code points from `lo` to `hi` into sequences of byte ranges.
A sequence matches the byte strings of its length whose every byte lies in the range at the
same place, and the UTF-8 encodings of the code points in `lo .. hi`, surrogates left out, are
exactly the strings that one of the sequences matches.

The split works on a stack of code point ranges. A range across the surrogates is cut around
them, and a range left empty is dropped. A range whose code points take different numbers of
bytes is cut where the number changes. An ASCII range is a sequence of one byte range. Any
other range is cut until its start and end agree in all but the trailing continuation bytes
they differ in, and those differ fully: the start's trailing continuation bytes all `80` and
the end's all `BF`. Then the bytes of the start and of the end, place by place, are the
sequence. Sequences come in the order of the code points they cover.
-/

-- Powers of naturals and integers are the core ones, whatever other instances are in scope.
attribute [local instance (default + 100)] instPowNat

namespace RuleMachine

namespace Pattern

/-- An inclusive range of byte values. -/
structure ByteRange where
  lo : Nat
  hi : Nat
  deriving BEq, Repr

/-- The largest code point that `n` bytes of UTF-8 encode. -/
def maxScalarOf : Nat → Nat
  | 1 => 0x7F
  | 2 => 0x7FF
  | 3 => 0xFFFF
  | _ => 0x10FFFF

/-- The UTF-8 bytes of a code point. -/
def utf8Bytes (c : Nat) : List Nat :=
  if c ≤ 0x7F then [c]
  else if c ≤ 0x7FF then [0xC0 + c / 64, 0x80 + c % 64]
  else if c ≤ 0xFFFF then [0xE0 + c / 4096, 0x80 + c / 64 % 64, 0x80 + c % 64]
  else [0xF0 + c / 262144, 0x80 + c / 4096 % 64, 0x80 + c / 64 % 64, 0x80 + c % 64]

/-- Where a range is cut because its code points take different numbers of bytes: the last
code point of the shorter encodings. -/
def lengthCut (lo hi : Nat) : Option Nat :=
  [1, 2, 3].findSome? fun n =>
    let m := maxScalarOf n
    if lo ≤ m && m < hi then some m else none

/-- Where a range is cut so that its trailing continuation bytes differ fully: the end of the
first part and the start of the second. -/
def alignCut (lo hi : Nat) : Option (Nat × Nat) :=
  [1, 2, 3].findSome? fun (i : Nat) =>
    let block := 2 ^ (6 * i)
    let m := block - 1
    if lo / block != hi / block then
      if lo % block != 0 then some (lo / block * block + m, lo / block * block + block)
      else if hi % block != m then some (hi / block * block - 1, hi / block * block)
      else none
    else none

/-- The sequence of the byte ranges from the bytes of `lo` to those of `hi`. -/
def encodedSequence (lo hi : Nat) : List ByteRange :=
  (utf8Bytes lo).zipWith (fun a b => ⟨a, b⟩) (utf8Bytes hi)

/-- The sequences of the ranges on a stack, the first on top, in order; `fuel` bounds the
rounds, each of which cuts a range, drops one or yields a sequence. -/
def sequencesOf : Nat → List (Nat × Nat) → List (List ByteRange)
  | 0, _ => []
  | _, [] => []
  | fuel + 1, (lo, hi) :: stack =>
    if lo < 0xE000 && hi > 0xD7FF then sequencesOf fuel ((lo, 0xD7FF) :: (0xE000, hi) :: stack)
    else if lo > hi then sequencesOf fuel stack
    else
      match lengthCut lo hi with
      | some m => sequencesOf fuel ((lo, m) :: (m + 1, hi) :: stack)
      | none =>
        if hi ≤ 0x7F then [⟨lo, hi⟩] :: sequencesOf fuel stack
        else
          match alignCut lo hi with
          | some (a, b) => sequencesOf fuel ((lo, a) :: (b, hi) :: stack)
          | none => encodedSequence lo hi :: sequencesOf fuel stack

/-- The UTF-8 sequences of the code points from `lo` to `hi`. A range needs fewer than a
hundred rounds: two cuts around the surrogates, three by length, and for each length two
cuts at each of its three levels of continuation bytes. -/
def utf8Sequences (lo hi : Nat) : List (List ByteRange) :=
  sequencesOf 256 [(lo, hi)]

end Pattern

end RuleMachine
