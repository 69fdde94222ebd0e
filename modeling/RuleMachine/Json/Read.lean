import RuleMachine.Json.Basic

/-!
# Reading JSON text

`Json.read` reads a whole text as one JSON document, byte by byte, and reports the first fault
with its line and column. The rules that a caller can observe:

* Blanks are space, tab, line feed and carriage return.
* A number without fraction or exponent is a non-negative integer when it fits in 64 bits,
  a negative integer when it fits in 64 bits signed, and a word otherwise; `-0` is the word
  `-0.0`. A number is read by accumulating its digits into a 64-bit significand (later integer
  digits only raise the exponent, later fraction digits are dropped), turning the significand
  into the nearest word and then multiplying or dividing by the word nearest to the power of
  ten. A product that overflows is a fault; a quotient that underflows is zero.
* Escapes are the JSON ones; a `\u` escape of a leading surrogate must be followed by an
  escape of a trailing one.
* Containers nest at most 127 deep.
* A fault is placed either at the byte just read or, when it is found by looking ahead, at
  the next byte (never past the end). The column counts bytes since the last line feed.
-/

-- Powers of naturals and integers are the core ones, whatever other instances are in scope.
attribute [local instance (default + 100)] instPowNat

namespace RuleMachine

namespace Json

/-- What was wrong with a JSON text. -/
inductive Fault where
  | eofWhileValue
  | eofWhileList
  | eofWhileObject
  | eofWhileString
  | expectedColon
  | expectedListCommaOrEnd
  | expectedObjectCommaOrEnd
  | expectedIdent
  | expectedValue
  | invalidEscape
  | invalidNumber
  | numberOutOfRange
  | controlCharacter
  | keyMustBeString
  | loneLeadingSurrogate
  | trailingComma
  | trailingCharacters
  | unexpectedEndOfHexEscape
  | recursionLimit
  deriving DecidableEq, Inhabited

/-- The words for a fault. -/
def Fault.message : Fault → String
  | .eofWhileValue => "EOF while parsing a value"
  | .eofWhileList => "EOF while parsing a list"
  | .eofWhileObject => "EOF while parsing an object"
  | .eofWhileString => "EOF while parsing a string"
  | .expectedColon => "expected `:`"
  | .expectedListCommaOrEnd => "expected `,` or `]`"
  | .expectedObjectCommaOrEnd => "expected `,` or `\x7d`"
  | .expectedIdent => "expected ident"
  | .expectedValue => "expected value"
  | .invalidEscape => "invalid escape"
  | .invalidNumber => "invalid number"
  | .numberOutOfRange => "number out of range"
  | .controlCharacter => "control character (\\u0000-\\u001F) found while parsing a string"
  | .keyMustBeString => "key must be a string"
  | .loneLeadingSurrogate => "lone leading surrogate in hex escape"
  | .trailingComma => "trailing comma"
  | .trailingCharacters => "trailing characters"
  | .unexpectedEndOfHexEscape => "unexpected end of hex escape"
  | .recursionLimit => "recursion limit exceeded"

/-- A fault with the line and column where it was found. -/
structure ReadError where
  fault : Fault
  line : Nat
  column : Nat
  deriving DecidableEq, Inhabited

/-- The words for a read error, with its place. -/
def ReadError.message (e : ReadError) : String :=
  e.fault.message ++ " at line " ++ toString e.line ++ " column " ++ toString e.column

/-- The line (from one) and column (bytes since the last line feed) of a byte offset. -/
def placeOf (b : ByteArray) (i : Nat) : Nat × Nat :=
  let (line, start) := (List.range (min i b.size)).foldl
    (fun (acc : Nat × Nat) j => if b.get! j == 10 then (acc.1 + 1, j + 1) else acc) (1, 0)
  (line, i - start)

namespace Reader

/-- A fault placed at offset `i`. -/
def failAt (b : ByteArray) (f : Fault) (i : Nat) : ReadError :=
  let (line, column) := placeOf b i
  ⟨f, line, column⟩

/-- A fault found by looking at the byte at offset `i`: placed one byte on, within the text. -/
def failAhead (b : ByteArray) (f : Fault) (i : Nat) : ReadError :=
  failAt b f (min b.size (i + 1))

/-- The byte at offset `i`, if the text is that long. -/
def peek (b : ByteArray) (i : Nat) : Option UInt8 :=
  if h : i < b.size then some b[i] else none

/-- Whether a byte is a blank. -/
def isBlank (c : UInt8) : Bool := c == 32 || c == 10 || c == 9 || c == 13

/-- Whether a byte is an ASCII digit. -/
def isDigit (c : UInt8) : Bool := 48 ≤ c && c ≤ 57

/-- The value of an ASCII digit. -/
def digitValue (c : UInt8) : Nat := c.toNat - 48

/-- The offset of the first non-blank byte at or after `i`. -/
def skipBlanks (b : ByteArray) (i : Nat) : Nat :=
  if h : i < b.size then
    if isBlank b[i] then skipBlanks b (i + 1) else i
  else i
termination_by b.size - i

/-- The offset of the first byte at or after `i` that is not a digit. -/
def skipDigits (b : ByteArray) (i : Nat) : Nat :=
  if h : i < b.size then
    if isDigit b[i] then skipDigits b (i + 1) else i
  else i
termination_by b.size - i

/-- The number of digits from offset `i` on. -/
def countDigits (b : ByteArray) (i : Nat) : Nat := skipDigits b i - i

/-- The largest 64-bit significand. -/
def sigMax : Nat := 2 ^ (64 : Nat) - 1

/-- The largest 32-bit signed exponent. -/
def expMax : Nat := 2 ^ (31 : Nat) - 1

/-- Whether `acc · 10 + d` passes `bound`. -/
def overflows (acc d bound : Nat) : Bool := acc * 10 + d > bound

/-- The word nearest to `10^k` for `k ≤ 308`. -/
def powerOfTen (k : Nat) : Binary64 := Binary64.ofDecimal false 1 k

/-- The word `sig · 10^exp` computed as the reader does: the significand rounded to a word,
then multiplied or divided by a power of ten; past `10^308` the quotient is taken by steps of
`10^308`, and a product that overflows is a fault. -/
def fromParts (negative : Bool) (sig : Nat) (exp : Int) : Except Fault Binary64 :=
  go 4 (Binary64.ofInt sig) exp
where
  go : Nat → Binary64 → Int → Except Fault Binary64
    | fuel, f, e =>
      if e.natAbs ≤ 308 then
        if 0 ≤ e then
          let p := f.mul (powerOfTen e.natAbs)
          if p.isFinite then .ok (if negative then p.neg else p) else .error .numberOutOfRange
        else
          let p := f.div (powerOfTen e.natAbs)
          .ok (if negative then p.neg else p)
      else if f.isZero then .ok (if negative then f.neg else f)
      else if 0 ≤ e then .error .numberOutOfRange
      else
        match fuel with
        | 0 => .ok (Binary64.ofRatio negative 0 1)
        | fuel + 1 => go fuel (f.div (powerOfTen 308)) (e + 308)

/-- The result of reading a number: the number and the offset after it. -/
abbrev NumberResult := Except ReadError (Number × Nat)

/-- Turns the word for `sig · 10^exp` into a number result ending at offset `i`. -/
def finish (b : ByteArray) (negative : Bool) (sig : Nat) (exp : Int) (i : Nat) : NumberResult :=
  match fromParts negative sig exp with
  | .ok x => .ok (.float x, i)
  | .error f => .error (failAt b f i)

/-- Reads the exponent digits after `e` or `E` (at offset `i`, past the letter). -/
def exponentPart (b : ByteArray) (negative : Bool) (sig : Nat) (start : Int) (i : Nat) :
    NumberResult :=
  let (positive, i) := match peek b i with
    | some 43 => (true, i + 1)
    | some 45 => (false, i + 1)
    | _ => (true, i)
  match peek b i with
  | none => .error (failAt b .eofWhileValue i)
  | some c =>
    if !isDigit c then .error (failAt b .invalidNumber (i + 1))
    else
      let stop := skipDigits b (i + 1)
      let digits := (List.range (stop - i)).map fun j => digitValue (b.get! (i + j))
      -- the exponent accumulates until it would pass the 32-bit range
      let rec scan : List Nat → Nat → Nat → Option Nat
        | [], acc, _ => some acc
        | d :: rest, acc, used =>
          if overflows acc d expMax then none else scan rest (acc * 10 + d) (used + 1)
      match scan digits.tail (digits.headD 0) 1 with
      | some e =>
        let total : Int := if positive then start + e else start - e
        -- a 32-bit exponent saturates
        let total := max (min total (2 ^ (31 : Nat) - 1)) (-(2 ^ (31 : Nat)))
        finish b negative sig total stop
      | none =>
        if sig ≠ 0 && positive then
          -- the fault is found at the digit that overflows
          let overAt := overflowOffset digits i
          .error (failAt b .numberOutOfRange overAt)
        else
          .ok (.float (Binary64.ofRatio negative 0 1), stop)
where
  /-- The offset just past the digit at which the exponent overflows. -/
  overflowOffset (digits : List Nat) (i : Nat) : Nat :=
    let rec walk : List Nat → Nat → Nat → Nat
      | [], _, n => n
      | d :: rest, acc, n =>
        if overflows acc d expMax then n + 1 else walk rest (acc * 10 + d) (n + 1)
    i + walk digits.tail (digits.headD 0) 1

/-- Reads after the fraction point (offset `i` is at the point). -/
def fractionPart (b : ByteArray) (negative : Bool) (sig : Nat) (start : Int) (i : Nat) :
    NumberResult :=
  let first := i + 1
  let stop := skipDigits b first
  if stop = first then
    match peek b first with
    | some _ => .error (failAhead b .invalidNumber first)
    | none => .error (failAhead b .eofWhileValue first)
  else
    let digits := (List.range (stop - first)).map fun j => digitValue (b.get! (first + j))
    -- digits join the significand while it fits in 64 bits; the rest are dropped
    let rec take : List Nat → Nat → Int → Nat × Int
      | [], acc, e => (acc, e)
      | d :: rest, acc, e =>
        if overflows acc d sigMax then (acc, e) else take rest (acc * 10 + d) (e - 1)
    let (sig, exp) := take digits sig start
    match peek b stop with
    | some 101 | some 69 => exponentPart b negative sig exp (stop + 1)
    | _ => finish b negative sig exp stop

/-- Reads the rest of a number whose significand no longer fits: the remaining integer
digits only raise the exponent. -/
def longInteger (b : ByteArray) (negative : Bool) (sig : Nat) (i : Nat) : NumberResult :=
  let stop := skipDigits b i
  let exp : Int := stop - i
  match peek b stop with
  | some 46 => fractionPart b negative sig exp stop
  | some 101 | some 69 => exponentPart b negative sig exp (stop + 1)
  | _ => finish b negative sig exp stop

/-- After the integer digits (offset `i`): a fraction, an exponent, or an integer. -/
def afterInteger (b : ByteArray) (negative : Bool) (sig : Nat) (i : Nat) : NumberResult :=
  match peek b i with
  | some 46 => fractionPart b negative sig 0 i
  | some 101 | some 69 => exponentPart b negative sig 0 (i + 1)
  | _ =>
    if !negative then .ok (.nat sig, i)
    else if sig = 0 || 2 ^ (63 : Nat) < sig then
      .ok (.float (Binary64.ofRatio true sig 1), i)
    else .ok (.neg (-(sig : Int)), i)

/-- Reads a number from offset `i`, past the minus sign if there is one. -/
def number (b : ByteArray) (negative : Bool) (i : Nat) : NumberResult :=
  match peek b i with
  | none => .error (failAt b .eofWhileValue i)
  | some 48 =>
    match peek b (i + 1) with
    | some c => if isDigit c then .error (failAhead b .invalidNumber (i + 1))
                else afterInteger b negative 0 (i + 1)
    | none => afterInteger b negative 0 (i + 1)
  | some c =>
    if isDigit c then
      let stop := skipDigits b i
      let digits := (List.range (stop - i)).map fun j => digitValue (b.get! (i + j))
      -- the significand grows while it fits in 64 bits
      let rec take : List Nat → Nat → Nat → Nat × Nat
        | [], acc, n => (acc, n)
        | d :: rest, acc, n => if overflows acc d sigMax then (acc, n) else take rest (acc * 10 + d) (n + 1)
      let (sig, used) := take digits 0 0
      if i + used < stop then longInteger b negative sig (i + used)
      else afterInteger b negative sig stop
    else .error (failAt b .invalidNumber (i + 1))

/-- The value of a hexadecimal digit. -/
def hexValue (c : UInt8) : Option Nat :=
  if 48 ≤ c && c ≤ 57 then some (c.toNat - 48)
  else if 65 ≤ c && c ≤ 70 then some (c.toNat - 55)
  else if 97 ≤ c && c ≤ 102 then some (c.toNat - 87)
  else none

/-- Reads the four hexadecimal digits of a `\u` escape at offset `i`. -/
def hexEscape (b : ByteArray) (i : Nat) : Except ReadError (Nat × Nat) :=
  if i + 4 ≤ b.size then
    match hexValue (b.get! i), hexValue (b.get! (i + 1)), hexValue (b.get! (i + 2)),
      hexValue (b.get! (i + 3)) with
    | some a, some c, some d, some e => .ok (((a * 16 + c) * 16 + d) * 16 + e, i + 4)
    | _, _, _, _ => .error (failAt b .invalidEscape (i + 4))
  else .error (failAt b .eofWhileString b.size)

/-- The UTF-8 bytes of a code point. -/
def utf8Bytes (cp : Nat) : List UInt8 := (String.singleton (Char.ofNat cp)).toUTF8.toList

/-- Reads the escape after a backslash (offset `i` is past the backslash): its bytes and the
offset after it. -/
def escape (b : ByteArray) (i : Nat) : Except ReadError (List UInt8 × Nat) :=
  match peek b i with
  | none => .error (failAt b .eofWhileString i)
  | some c =>
    if c == 34 then .ok ([34], i + 1)
    else if c == 92 then .ok ([92], i + 1)
    else if c == 47 then .ok ([47], i + 1)
    else if c == 98 then .ok ([8], i + 1)
    else if c == 102 then .ok ([12], i + 1)
    else if c == 110 then .ok ([10], i + 1)
    else if c == 114 then .ok ([13], i + 1)
    else if c == 116 then .ok ([9], i + 1)
    else if c == 117 then
      match hexEscape b (i + 1) with
      | .error e => .error e
      | .ok (n, j) =>
        if 0xDC00 ≤ n && n ≤ 0xDFFF then .error (failAt b .loneLeadingSurrogate j)
        else if n < 0xD800 || 0xDBFF < n then .ok (utf8Bytes n, j)
        else
          -- a leading surrogate needs an escaped trailing one right after it
          match peek b j with
          | none => .error (failAt b .eofWhileString j)
          | some 92 =>
            match peek b (j + 1) with
            | none => .error (failAt b .eofWhileString (j + 1))
            | some 117 =>
              match hexEscape b (j + 2) with
              | .error e => .error e
              | .ok (m, k) =>
                if 0xDC00 ≤ m && m ≤ 0xDFFF then
                  .ok (utf8Bytes (0x10000 + (n - 0xD800) * 1024 + (m - 0xDC00)), k)
                else .error (failAt b .loneLeadingSurrogate k)
            | some _ => .error (failAt b .unexpectedEndOfHexEscape (j + 2))
          | some _ => .error (failAt b .unexpectedEndOfHexEscape (j + 1))
    else .error (failAt b .invalidEscape (i + 1))

/-- Reads the rest of a string from offset `i` (past the opening quote), collecting its
UTF-8 bytes in `acc`. -/
def stringBody (b : ByteArray) (i : Nat) (acc : ByteArray) : Except ReadError (String × Nat) :=
  if h : i < b.size then
    let c := b[i]
    if c == 34 then .ok ((String.fromUTF8? acc).getD "", i + 1)
    else if c == 92 then
      match escape b (i + 1) with
      | .error e => .error e
      | .ok (bytes, j) =>
        if i < j then stringBody b j (bytes.foldl ByteArray.push acc)
        else .error (failAt b .eofWhileString b.size)
    else if c < 32 then .error (failAt b .controlCharacter (i + 1))
    else stringBody b (i + 1) (acc.push c)
  else .error (failAt b .eofWhileString b.size)
termination_by b.size - i

/-- Reads the letters of `true`, `false` or `null` after the first (offset `i`). -/
def ident (b : ByteArray) (letters : List UInt8) (i : Nat) : Except ReadError Nat :=
  match letters with
  | [] => .ok i
  | l :: rest =>
    match peek b i with
    | none => .error (failAt b .eofWhileValue i)
    | some c => if c == l then ident b rest (i + 1) else .error (failAt b .expectedIdent (i + 1))

/-- The deepest nesting of containers. -/
def depthLimit : Nat := 128

mutual

/-- Reads one value after blanks from offset `i`, inside `depth` open containers. -/
def value (b : ByteArray) (fuel depth i : Nat) : Except ReadError (Json × Nat) :=
  match fuel with
  | 0 => .error (failAt b .eofWhileValue b.size)
  | fuel + 1 =>
    let i := skipBlanks b i
    match peek b i with
    | none => .error (failAhead b .eofWhileValue i)
    | some c =>
      if c == 110 then (ident b [117, 108, 108] (i + 1)).map fun j => (.null, j)
      else if c == 116 then (ident b [114, 117, 101] (i + 1)).map fun j => (.bool true, j)
      else if c == 102 then (ident b [97, 108, 115, 101] (i + 1)).map fun j => (.bool false, j)
      else if c == 45 then (number b true (i + 1)).map fun (n, j) => (.number n, j)
      else if isDigit c then (number b false i).map fun (n, j) => (.number n, j)
      else if c == 34 then (stringBody b (i + 1) ByteArray.empty).map fun (s, j) => (.string s, j)
      else if c == 91 then
        if depth + 1 = depthLimit then .error (failAhead b .recursionLimit i)
        else (elements b fuel (depth + 1) (i + 1) true []).map fun (xs, j) => (.array xs, j)
      else if c == 123 then
        if depth + 1 = depthLimit then .error (failAhead b .recursionLimit i)
        else (members b fuel (depth + 1) (i + 1) true []).map fun (ms, j) => (.object ms, j)
      else .error (failAhead b .expectedValue i)

/-- Reads array elements from offset `i` up to and past the closing bracket. -/
def elements (b : ByteArray) (fuel depth i : Nat) (first : Bool) (acc : List Json) :
    Except ReadError (List Json × Nat) :=
  match fuel with
  | 0 => .error (failAt b .eofWhileList b.size)
  | fuel + 1 =>
    let i := skipBlanks b i
    match peek b i with
    | none => .error (failAhead b .eofWhileList i)
    | some 93 => .ok (acc.reverse, i + 1)
    | some c =>
      let next (pos : Nat) : Except ReadError (List Json × Nat) :=
        match value b fuel depth pos with
        | .error e => .error e
        | .ok (v, j) => elements b fuel depth j false (v :: acc)
      if first then next i
      else if c == 44 then
        let k := skipBlanks b (i + 1)
        match peek b k with
        | some 93 => .error (failAhead b .trailingComma k)
        | none => .error (failAhead b .eofWhileValue k)
        | some _ => next k
      else .error (failAhead b .expectedListCommaOrEnd i)

/-- Reads object members from offset `i` up to and past the closing brace. -/
def members (b : ByteArray) (fuel depth i : Nat) (first : Bool) (acc : List (String × Json)) :
    Except ReadError (List (String × Json) × Nat) :=
  match fuel with
  | 0 => .error (failAt b .eofWhileObject b.size)
  | fuel + 1 =>
    let i := skipBlanks b i
    match peek b i with
    | none => .error (failAhead b .eofWhileObject i)
    | some 125 => .ok (acc, i + 1)
    | some c =>
      let member (pos : Nat) : Except ReadError (List (String × Json) × Nat) :=
        match stringBody b (pos + 1) ByteArray.empty with
        | .error e => .error e
        | .ok (key, j) =>
          let j := skipBlanks b j
          match peek b j with
          | some 58 =>
            match value b fuel depth (j + 1) with
            | .error e => .error e
            | .ok (v, k) => members b fuel depth k false (Json.insert key v acc)
          | some _ => .error (failAhead b .expectedColon j)
          | none => .error (failAhead b .eofWhileObject j)
      if first then
        if c == 34 then member i else .error (failAhead b .keyMustBeString i)
      else if c == 44 then
        let k := skipBlanks b (i + 1)
        match peek b k with
        | some 34 => member k
        | some 125 => .error (failAhead b .trailingComma k)
        | none => .error (failAhead b .eofWhileValue k)
        | some _ => .error (failAhead b .keyMustBeString k)
      else .error (failAhead b .expectedObjectCommaOrEnd i)

end

end Reader

/-- Reads a whole text as one JSON document; only blanks may follow it. -/
def read (text : String) : Except ReadError Json :=
  let b := text.toUTF8
  match Reader.value b (2 * b.size + 8) 0 0 with
  | .error e => .error e
  | .ok (v, i) =>
    let j := Reader.skipBlanks b i
    if j < b.size then .error (Reader.failAhead b .trailingCharacters j) else .ok v

end Json

end RuleMachine
