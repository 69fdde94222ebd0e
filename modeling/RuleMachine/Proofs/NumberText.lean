import Mathlib.Data.Nat.Digits.Defs
import RuleMachine.Proofs.Numbers

/-!
# Reading numbers from text

A text reads as a number through its characters with the blanks at both ends removed. What
stays is read by a grammar: nothing is zero; `Infinity` after an optional sign is an infinity;
`0x` or `0X`, an optional sign and hexadecimal digits is that integer, when it fits in a
signed 64-bit word; a decimal literal (an optional sign, digits with an optional point and at
least one digit, an optional exponent) is the word nearest to its value. Every other text is
not a number.

* `Number.readHex_eq_some_iff`, `Number.readDecimal_eq_some_iff`: each reader accepts exactly
  its part of the grammar, with the grammar's value.
* `Number.readText_literal`: a text reads as its literal's value, and as NaN exactly when it
  is no literal; the value is never NaN, as rounding never gives NaN (`Binary64.isNaN_ofRatio`).

The grammar departs from the numeric literals of JavaScript strings in four places: the
hexadecimal body may carry a sign, it must fit in 64 signed bits, octal `0o` and binary `0b`
literals are not numbers, and the blanks are Unicode white space.
-/

namespace RuleMachine

namespace Number

/-- A sign in front of a literal: none, `+` or `-`; the flag tells whether it negates. -/
inductive Signed : List Char → Bool → Prop
  | unsigned : Signed [] false
  | plus : Signed ['+'] false
  | minus : Signed ['-'] true

/-- `ds` is a non-empty string of digits, each read by `digit`, worth `n` in base `base`. -/
def DigitString (base : Nat) (digit : Char → Option Nat) (ds : List Char) (n : Nat) : Prop :=
  ∃ vs, ds ≠ [] ∧ List.Forall₂ (fun c v => digit c = some v) ds vs ∧
    n = Nat.ofDigits base vs.reverse

/-- An optional sign, then a text that `P` accepts along with whether the sign negates. -/
def SignedBy (P : Bool → List Char → Prop) (cs : List Char) : Prop :=
  ∃ sign neg rest, cs = sign ++ rest ∧ Signed sign neg ∧ P neg rest

section Digits

variable {base : Nat} {digit : Char → Option Nat}

/-- Folding digits from the most significant one is the positional value. -/
theorem foldl_digits (vs : List Nat) :
    vs.foldl (fun a v => a * base + v) 0 = Nat.ofDigits base vs.reverse := by
  rw [Nat.ofDigits_eq_foldr, List.foldr_reverse]
  congr 1
  funext a v
  push_cast
  ring

/-- The reading fold succeeds exactly on strings of digits, with the digits' value. -/
theorem foldl_read_eq_some (ds : List Char) (a n : Nat) :
    ds.foldl (fun acc c => acc.bind fun a => (digit c).map (a * base + ·)) (some a) = some n ↔
      ∃ vs, List.Forall₂ (fun c v => digit c = some v) ds vs ∧
        n = vs.foldl (fun a v => a * base + v) a := by
  induction ds generalizing a with
  | nil => simp [eq_comm]
  | cons c ds ih =>
    rw [List.foldl_cons, Option.bind_some]
    cases hc : digit c with
    | none =>
      rw [Option.map_none, List.foldl_fixed' (fun _ => rfl)]
      simp [List.forall₂_cons_left_iff, hc]
    | some v =>
      rw [Option.map_some, ih]
      simp [List.forall₂_cons_left_iff, hc]

theorem digitsValue_eq_some_iff {ds : List Char} {n : Nat} :
    digitsValue base digit ds = some n ↔ DigitString base digit ds n := by
  cases ds with
  | nil => simp [digitsValue, DigitString]
  | cons c ds =>
    rw [digitsValue.eq_2 _ _ _ (List.cons_ne_nil c ds), foldl_read_eq_some]
    simp [DigitString, foldl_digits]

theorem DigitString.ne_nil {ds : List Char} {n : Nat} (h : DigitString base digit ds n) :
    ds ≠ [] :=
  h.choose_spec.1

/-- Every character of a digit string is a digit. -/
theorem DigitString.digit_of_mem {ds : List Char} {n : Nat} (h : DigitString base digit ds n)
    {c : Char} (hc : c ∈ ds) : ∃ v, digit c = some v := by
  obtain ⟨vs, -, hvs, -⟩ := h
  induction hvs with
  | nil => simp at hc
  | cons hv _ ih =>
    rcases List.mem_cons.1 hc with rfl | hc
    · exact ⟨_, hv⟩
    · exact ih hc

/-- A digit string does not start with a sign when no sign is a digit. -/
theorem DigitString.not_sign {c : Char} {rest : List Char} {n : Nat}
    (h : DigitString base digit (c :: rest) n) (hplus : digit '+' = none)
    (hminus : digit '-' = none) : c ≠ '+' ∧ c ≠ '-' := by
  obtain ⟨v, hv⟩ := h.digit_of_mem List.mem_cons_self
  constructor <;> rintro rfl <;> simp_all

end Digits

/-! ## Signs -/

/-- What `splitSign` can do: take a `+`, take a `-`, or take nothing from a text that starts
with neither. -/
theorem splitSign_cases (cs : List Char) :
    (∃ rest, cs = '+' :: rest ∧ splitSign cs = (false, rest)) ∨
    (∃ rest, cs = '-' :: rest ∧ splitSign cs = (true, rest)) ∨
    ((∀ rest, cs ≠ '+' :: rest) ∧ (∀ rest, cs ≠ '-' :: rest) ∧ splitSign cs = (false, cs)) := by
  unfold splitSign
  split
  · exact .inl ⟨_, rfl, rfl⟩
  · exact .inr (.inl ⟨_, rfl, rfl⟩)
  · rename_i hplus hminus
    exact .inr (.inr ⟨hplus, hminus, rfl⟩)

/-- Where what follows a sign cannot start with one, the sign is the one `splitSign` finds. -/
theorem signedBy_iff {P : Bool → List Char → Prop}
    (hP : ∀ neg c rest, P neg (c :: rest) → c ≠ '+' ∧ c ≠ '-') {cs : List Char} :
    SignedBy P cs ↔ P (splitSign cs).1 (splitSign cs).2 := by
  constructor
  · rintro ⟨sign, neg, rest, rfl, hs, hp⟩
    cases hs with
    | unsigned =>
      rcases splitSign_cases rest with ⟨r, rfl, -⟩ | ⟨r, rfl, -⟩ | ⟨-, -, h⟩
      · exact absurd rfl (hP _ _ _ hp).1
      · exact absurd rfl (hP _ _ _ hp).2
      · rw [List.nil_append, h]
        exact hp
    | plus => exact hp
    | minus => exact hp
  · intro hp
    rcases splitSign_cases cs with ⟨rest, rfl, h⟩ | ⟨rest, rfl, h⟩ | ⟨-, -, h⟩ <;> rw [h] at hp
    · exact ⟨['+'], false, rest, rfl, .plus, hp⟩
    · exact ⟨['-'], true, rest, rfl, .minus, hp⟩
    · exact ⟨[], false, cs, rfl, .unsigned, hp⟩

/-- A sign followed by a digit string: the sign is the one `splitSign` finds, when no sign is a
digit. -/
theorem signedDigits_iff {base : Nat} {digit : Char → Option Nat} {Q : Bool → Nat → Prop}
    (hplus : digit '+' = none) (hminus : digit '-' = none) {cs : List Char} :
    SignedBy (fun neg ds => ∃ n, DigitString base digit ds n ∧ Q neg n) cs ↔
      ∃ n, DigitString base digit (splitSign cs).2 n ∧ Q (splitSign cs).1 n :=
  signedBy_iff fun _ _ _ ⟨_, hd, _⟩ => hd.not_sign hplus hminus

/-! ## Hexadecimal integers -/

/-- The integer after `0x`: a sign, then hexadecimal digits, within the signed 64-bit range. -/
def HexBody (cs : List Char) (z : Int) : Prop :=
  SignedBy (fun neg ds => ∃ n, DigitString 16 hexDigitValue ds n ∧
    z = (if neg then -(n : Int) else n) ∧ -2 ^ 63 ≤ z ∧ z < 2 ^ 63) cs

theorem readHex_eq_some_iff {cs : List Char} {z : Int} : readHex cs = some z ↔ HexBody cs z := by
  rw [HexBody, signedDigits_iff rfl rfl]
  unfold readHex
  rcases splitSign cs with ⟨neg, ds⟩
  simp only [Option.bind_eq_some_iff, digitsValue_eq_some_iff]
  refine exists_congr fun n => and_congr_right fun _ => ?_
  rw [Option.ite_none_right_eq_some, Option.some.injEq]
  constructor
  · rintro ⟨hr, rfl⟩
    exact ⟨rfl, hr⟩
  · rintro ⟨rfl, hr⟩
    exact ⟨hr, rfl⟩

/-! ## Decimal literals -/

/-- The exponent of a decimal literal: nothing, worth zero, or `e` or `E` and a signed string
of decimal digits. -/
def ExponentPart (cs : List Char) (x : Int) : Prop :=
  cs = [] ∧ x = 0 ∨ ∃ e rest, cs = e :: rest ∧ (e = 'e' ∨ e = 'E') ∧
    SignedBy (fun neg ds => ∃ n, DigitString 10 decimalDigit ds n ∧
      x = if neg then -(n : Int) else n) rest

theorem readExponent_eq_some_iff {cs : List Char} {x : Int} :
    readExponent cs = some x ↔ ExponentPart cs x := by
  cases cs with
  | nil => simp [readExponent, ExponentPart, eq_comm]
  | cons e rest =>
    simp only [readExponent, ExponentPart, List.cons_ne_nil, false_and, false_or,
      List.cons.injEq, signedDigits_iff (show decimalDigit '+' = none from rfl)
        (show decimalDigit '-' = none from rfl), and_assoc, exists_and_left, exists_eq_left']
    rcases splitSign rest with ⟨neg, ds⟩
    by_cases he : e = 'e' ∨ e = 'E'
    · simp only [he, true_and, ↓reduceIte, Option.map_eq_some_iff, Option.bind_eq_bind,
        Option.bind_eq_some_iff, Option.pure_def, Option.some.injEq, digitsValue_eq_some_iff]
      constructor
      · rintro ⟨_, ⟨n, hn, rfl⟩, rfl⟩
        exact ⟨n, hn, rfl⟩
      · rintro ⟨n, hn, rfl⟩
        exact ⟨_, ⟨n, hn, rfl⟩, rfl⟩
    · simp [he]


theorem isDigit_iff_decimalDigit {c : Char} : c.isDigit = true ↔ ∃ v, decimalDigit c = some v := by
  unfold decimalDigit Char.isDigit
  split_ifs <;> simp_all [Char.le_def]

/-- The characters of a decimal digit string are digits. -/
theorem DigitString.isDigit {ds : List Char} {n : Nat} (h : DigitString 10 decimalDigit ds n)
    {c : Char} (hc : c ∈ ds) : c.isDigit = true :=
  isDigit_iff_decimalDigit.2 (h.digit_of_mem hc)

/-- An exponent part starts with `e` or `E`, if with anything. -/
theorem ExponentPart.head {cs : List Char} {x : Int} (h : ExponentPart cs x) {c : Char}
    (hc : cs.head? = some c) : c = 'e' ∨ c = 'E' := by
  rcases h with ⟨rfl, -⟩ | ⟨e, rest, rfl, he, -⟩
  · simp at hc
  · rw [List.head?_cons, Option.some.injEq] at hc
    exact hc ▸ he

/-- A run of characters that `p` accepts, then one it refuses or nothing, is the longest
such run. -/
theorem takeWhile_dropWhile_of_stop {p : Char → Bool} {run rest : List Char}
    (hrun : ∀ c ∈ run, p c = true) (hstop : ∀ c, rest.head? = some c → p c = false) :
    (run ++ rest).takeWhile p = run ∧ (run ++ rest).dropWhile p = rest := by
  rw [List.takeWhile_append_of_pos hrun, List.dropWhile_append_of_pos hrun]
  cases rest with
  | nil => simp
  | cons c rest => simp [hstop c rfl]

/-- Two such runs of one text are the same. -/
theorem run_unique {p : Char → Bool} {run rest run' rest' : List Char}
    (h : run ++ rest = run' ++ rest') (hrun : ∀ c ∈ run, p c = true)
    (hstop : ∀ c, rest.head? = some c → p c = false) (hrun' : ∀ c ∈ run', p c = true)
    (hstop' : ∀ c, rest'.head? = some c → p c = false) : run = run' ∧ rest = rest' := by
  obtain ⟨htake, hdrop⟩ := takeWhile_dropWhile_of_stop hrun hstop
  obtain ⟨htake', hdrop'⟩ := takeWhile_dropWhile_of_stop hrun' hstop'
  rw [h] at htake hdrop
  exact ⟨htake.symm.trans htake', hdrop.symm.trans hdrop'⟩

/-- A decimal literal after its sign: whole digits, then a point and fraction digits or
nothing, at least one digit in all, then an exponent part. It is worth all its digits read as
one number, times ten to the exponent less the count of fraction digits. -/
def UnsignedDecimal (cs : List Char) (m : Nat) (e : Int) : Prop :=
  ∃ whole point frac expo x, cs = whole ++ point ++ expo ∧
    (point = [] ∧ frac = [] ∨ point = '.' :: frac) ∧
    DigitString 10 decimalDigit (whole ++ frac) m ∧ ExponentPart expo x ∧ e = x - frac.length

/-- A decimal literal, read as its sign, its digits as one number and the power of ten of its
last digit. -/
def DecimalLiteral (cs : List Char) (r : Bool × Nat × Int) : Prop :=
  SignedBy (fun neg body => neg = r.1 ∧ UnsignedDecimal body r.2.1 r.2.2) cs

/-- An exponent part does not start with a digit. -/
theorem ExponentPart.not_digit {cs : List Char} {x : Int} (h : ExponentPart cs x) :
    ∀ c, cs.head? = some c → c.isDigit = false := by
  intro c hc
  rcases h.head hc with rfl | rfl <;> rfl

/-- What follows the whole digits of a decimal literal does not start with a digit: it is a
point, or an exponent part that does not. -/
theorem stop_of_parts {point frac expo : List Char}
    (hpoint : point = [] ∧ frac = [] ∨ point = '.' :: frac)
    (hexpo : ∀ c, expo.head? = some c → c.isDigit = false) :
    ∀ c, (point ++ expo).head? = some c → c.isDigit = false := by
  intro c hc
  rcases hpoint with ⟨rfl, -⟩ | rfl
  · exact hexpo c hc
  · simp only [List.cons_append, List.head?_cons, Option.some.injEq] at hc
    subst hc
    rfl

/-- The parts of a decimal literal are the longest runs the reader takes. -/
theorem unsignedDecimal_parts_iff {whole point frac expo : List Char} {m : Nat} {e : Int}
    (hwhole : ∀ c ∈ whole, c.isDigit = true) (hfrac : ∀ c ∈ frac, c.isDigit = true)
    (hexpo : ∀ c, expo.head? = some c → c.isDigit = false)
    (hpoint : point = [] ∧ frac = [] ∧ (∀ more, expo ≠ '.' :: more) ∨ point = '.' :: frac) :
    UnsignedDecimal (whole ++ point ++ expo) m e ↔
      ∃ x, DigitString 10 decimalDigit (whole ++ frac) m ∧ ExponentPart expo x ∧
        e = x - frac.length := by
  constructor
  · rintro ⟨whole', point', frac', expo', x, heq, hpoint', hm, hx, rfl⟩
    -- both whole parts are the longest run of digits, so the rest after them agrees
    rw [List.append_assoc, List.append_assoc] at heq
    obtain ⟨rfl, hrest⟩ := run_unique heq hwhole
      (stop_of_parts (hpoint.imp (fun h => ⟨h.1, h.2.1⟩) id) hexpo)
      (fun c hc => hm.isDigit (List.mem_append_left _ hc)) (stop_of_parts hpoint' hx.not_digit)
    rcases hpoint with ⟨rfl, rfl, hnot⟩ | rfl <;> rcases hpoint' with ⟨rfl, rfl⟩ | rfl
    · rw [List.nil_append, List.nil_append] at hrest
      subst hrest
      exact ⟨x, hm, hx, rfl⟩
    · exact absurd hrest (hnot _)
    · rw [List.nil_append] at hrest
      subst hrest
      rcases hx.head rfl with h | h <;> cases h
    · simp only [List.cons_append, List.cons.injEq, true_and] at hrest
      obtain ⟨rfl, rfl⟩ := run_unique hrest hfrac hexpo
        (fun c hc => hm.isDigit (List.mem_append_right _ hc)) hx.not_digit
      exact ⟨x, hm, hx, rfl⟩
  · rintro ⟨x, hm, hx, rfl⟩
    refine ⟨whole, point, frac, expo, x, rfl, ?_, hm, hx, rfl⟩
    rcases hpoint with ⟨rfl, rfl, -⟩ | rfl
    · exact .inl ⟨rfl, rfl⟩
    · exact .inr rfl


/-- The body of a decimal literal does not start with a sign. -/
theorem UnsignedDecimal.not_sign {c : Char} {rest : List Char} {m : Nat} {e : Int}
    (h : UnsignedDecimal (c :: rest) m e) : c ≠ '+' ∧ c ≠ '-' := by
  obtain ⟨whole, point, frac, expo, x, heq, hpoint, hm, hx, -⟩ := h
  suffices hc : c.isDigit = true ∨ c = '.' by
    constructor <;> rintro rfl <;> simp at hc
  cases whole with
  | cons d whole =>
    simp only [List.cons_append, List.cons.injEq] at heq
    exact .inl (heq.1 ▸ hm.isDigit List.mem_cons_self)
  | nil =>
    rcases hpoint with ⟨rfl, rfl⟩ | rfl
    · exact absurd rfl hm.ne_nil
    · simp only [List.nil_append, List.cons_append, List.cons.injEq] at heq
      exact .inr heq.1

/-- What the longest run of characters that `p` accepts stops at is no such character. -/
theorem head_dropWhile {p : Char → Bool} (l : List Char) {c : Char}
    (hc : (l.dropWhile p).head? = some c) : p c = false := by
  induction l with
  | nil => simp at hc
  | cons a l ih =>
    by_cases ha : p a
    · rw [List.dropWhile_cons_of_pos ha] at hc
      exact ih hc
    · rw [List.dropWhile_cons_of_neg ha, List.head?_cons, Option.some.injEq] at hc
      exact hc ▸ Bool.eq_false_iff.2 ha

/-- The reader's last step: at least one digit, an exponent it can read, and the value. -/
theorem readMantissa_eq_some_iff {neg : Bool} {mantissa frac expo : List Char}
    {r : Bool × Nat × Int} :
    (if mantissa.isEmpty = true then none
      else (readExponent expo).bind fun a =>
        (digitsValue 10 decimalDigit mantissa).map fun m => (neg, m, a - frac.length)) = some r ↔
      neg = r.1 ∧ ∃ x, DigitString 10 decimalDigit mantissa r.2.1 ∧ ExponentPart expo x ∧
        r.2.2 = x - frac.length := by
  constructor
  · intro h
    split_ifs at h
    obtain ⟨x, hx, h⟩ := Option.bind_eq_some_iff.1 h
    obtain ⟨m, hm, rfl⟩ := Option.map_eq_some_iff.1 h
    exact ⟨rfl, x, digitsValue_eq_some_iff.1 hm, readExponent_eq_some_iff.1 hx, rfl⟩
  · obtain ⟨neg', m, e⟩ := r
    rintro ⟨rfl, x, hm, hx, rfl⟩
    rw [if_neg (by simpa using hm.ne_nil), readExponent_eq_some_iff.2 hx, Option.bind_some,
      digitsValue_eq_some_iff.2 hm, Option.map_some]

theorem readDecimal_eq_some_iff {cs : List Char} {r : Bool × Nat × Int} :
    readDecimal cs = some r ↔ DecimalLiteral cs r := by
  rw [DecimalLiteral, signedBy_iff fun _ _ _ h => h.2.not_sign]
  unfold readDecimal
  rcases splitSign cs with ⟨neg, body⟩
  dsimp only
  -- the whole digits are the longest run of digits; a point may follow, then fraction digits
  have hbody : body.takeWhile Char.isDigit ++ body.dropWhile Char.isDigit = body :=
    List.takeWhile_append_dropWhile
  have hwhole : ∀ c ∈ body.takeWhile Char.isDigit, c.isDigit = true :=
    List.all_eq_true.1 List.all_takeWhile
  split
  · rename_i more hpoint
    have hmore : more.takeWhile Char.isDigit ++ more.dropWhile Char.isDigit = more :=
      List.takeWhile_append_dropWhile
    rw [readMantissa_eq_some_iff, ← unsignedDecimal_parts_iff hwhole
      (List.all_eq_true.1 List.all_takeWhile) (fun _ => head_dropWhile more) (.inr rfl)]
    rw [hpoint, ← hmore] at hbody
    conv_rhs => rw [← hbody]
    simp only [List.append_assoc, List.cons_append]
  · rename_i hnot
    rw [readMantissa_eq_some_iff, ← unsignedDecimal_parts_iff hwhole (by simp)
      (fun _ => head_dropWhile body) (.inl ⟨rfl, rfl, hnot⟩)]
    rw [List.append_nil, hbody]


/-- The characters of a sign. -/
theorem Signed.mem {sign : List Char} {neg : Bool} (h : Signed sign neg) {c : Char}
    (hc : c ∈ sign) : c = '+' ∨ c = '-' := by
  cases h <;> simp_all

/-- A decimal literal is made of digits, points, exponent letters and signs. -/
theorem DecimalLiteral.mem {cs : List Char} {r : Bool × Nat × Int} (h : DecimalLiteral cs r)
    {c : Char} (hc : c ∈ cs) :
    c.isDigit = true ∨ c = '.' ∨ c = 'e' ∨ c = 'E' ∨ c = '+' ∨ c = '-' := by
  obtain ⟨sign, neg, body, rfl, hs, -, whole, point, frac, expo, x, rfl, hpoint, hm, hx, -⟩ := h
  simp only [List.mem_append] at hc
  rcases hc with hc | (hc | hc) | hc
  · rcases hs.mem hc with rfl | rfl <;> simp
  · exact .inl (hm.isDigit (List.mem_append_left _ hc))
  · rcases hpoint with ⟨rfl, -⟩ | rfl
    · simp at hc
    · rcases List.mem_cons.1 hc with rfl | hc
      · simp
      · exact .inl (hm.isDigit (List.mem_append_right _ hc))
  · rcases hx with ⟨rfl, -⟩ | ⟨e, rest, rfl, he, sign', neg', ds, rfl, hs', n, hd, -⟩
    · simp at hc
    · rcases List.mem_cons.1 hc with rfl | hc
      · rcases he with rfl | rfl <;> simp
      · rcases List.mem_append.1 hc with hc | hc
        · rcases hs'.mem hc with rfl | rfl <;> simp
        · exact .inl (hd.isDigit hc)

/-! ## Texts -/

/-- The decimal branch: a text the decimal reader accepts reads as its nearest word, any other
as NaN; the filter on characters in front of it lets every decimal literal through. -/
theorem readPlain_eq (cs : List Char) :
    readText.readPlain cs =
      (readDecimal cs).elim Binary64.nan fun r => Binary64.ofDecimal r.1 r.2.1 r.2.2 := by
  unfold readText.readPlain
  split_ifs with hall
  · rcases readDecimal cs with _ | ⟨neg, m, e⟩ <;> rfl
  · cases h : readDecimal cs with
    | none => rfl
    | some r =>
      refine absurd (List.all_eq_true.2 fun c hc => ?_) hall
      rcases (readDecimal_eq_some_iff.1 h).mem hc with h | h | h | h | h | h <;> simp [h]

/-- The texts, without blanks at their ends, that read as numbers, each with its number:
nothing is zero; `Infinity` after a sign is an infinity; `0x` or `0X` and a hexadecimal body
is that integer's word; a decimal literal is its nearest word. -/
inductive TextLiteral : List Char → Binary64 → Prop
  | empty : TextLiteral [] Binary64.zero
  | infinity {sign : List Char} {neg : Bool} (hs : Signed sign neg) :
      TextLiteral (sign ++ "Infinity".toList) (Binary64.infinity neg)
  | hex {x : Char} {body : List Char} {z : Int} (hx : x = 'x' ∨ x = 'X') (h : HexBody body z) :
      TextLiteral ('0' :: x :: body) (Binary64.ofInt z)
  | decimal {cs : List Char} {neg : Bool} {m : Nat} {e : Int}
      (h : DecimalLiteral cs (neg, m, e)) : TextLiteral cs (Binary64.ofDecimal neg m e)

/-- A literal's number is never NaN. -/
theorem TextLiteral.isNaN {cs : List Char} {v : Binary64} (h : TextLiteral cs v) :
    v.isNaN = false := by
  cases h with
  | empty => decide
  | infinity => exact Binary64.isNaN_infinity _
  | hex => exact Binary64.isNaN_ofInt _
  | decimal => exact Binary64.isNaN_ofDecimal _ _ _

/-- A decimal literal holds none of the letters that start the other forms. -/
theorem DecimalLiteral.not_letter {cs : List Char} {r : Bool × Nat × Int}
    (h : DecimalLiteral cs r) {c : Char} (hc : c ∈ cs) : c ≠ 'I' ∧ c ≠ 'x' ∧ c ≠ 'X' := by
  rcases h.mem hc with hd | rfl | rfl | rfl | rfl | rfl
  · refine ⟨?_, ?_, ?_⟩ <;> rintro rfl <;> revert hd <;> decide
  all_goals decide

/-- A text that is a literal reads as the literal's number. -/
theorem readText_of_literal {s : String} {v : Binary64}
    (h : TextLiteral (Text.trimBlanks s) v) : readText s = v := by
  unfold readText
  generalize Text.trimBlanks s = cs at h ⊢
  dsimp only
  cases h with
  | empty => rfl
  | infinity hs => cases hs <;> rfl
  | hex hx h => rcases hx with rfl | rfl <;> simp [readHex_eq_some_iff.2 h]
  | decimal h =>
    have hread := readDecimal_eq_some_iff.2 h
    have hne : cs ≠ [] := by
      rintro rfl
      simp [readDecimal, splitSign] at hread
    have hword : ∀ w, 'I' ∈ w → cs ≠ w := by
      rintro w hw rfl
      exact (h.not_letter hw).1 rfl
    rw [if_neg (by simpa using hne), if_neg (not_or.2 ⟨hword _ (by decide), hword _ (by decide)⟩),
      if_neg (hword _ (by decide))]
    split
    · rename_i x body
      have hx := h.not_letter (show x ∈ '0' :: x :: body by simp)
      rw [if_neg (not_or.2 ⟨hx.2.1, hx.2.2⟩), readPlain_eq, hread]
      rfl
    · rw [readPlain_eq, hread]
      rfl

/-- The decimal branch gives NaN or a literal's number. -/
theorem readPlain_nan_or_literal (cs : List Char) :
    readText.readPlain cs = Binary64.nan ∨ TextLiteral cs (readText.readPlain cs) := by
  rw [readPlain_eq]
  cases h : readDecimal cs with
  | none => exact .inl rfl
  | some r =>
    obtain ⟨neg, m, e⟩ := r
    exact .inr (.decimal (readDecimal_eq_some_iff.1 h))

/-- A text reads as NaN or as the number of the literal it is. -/
theorem readText_nan_or_literal (s : String) :
    readText s = Binary64.nan ∨ TextLiteral (Text.trimBlanks s) (readText s) := by
  unfold readText
  generalize Text.trimBlanks s = cs
  dsimp only
  split_ifs with hempty hinf hneg
  · rw [List.isEmpty_iff.1 hempty]
    exact .inr .empty
  · rcases hinf with rfl | rfl
    · exact .inr (.infinity .unsigned)
    · exact .inr (.infinity .plus)
  · rw [hneg]
    exact .inr (.infinity .minus)
  · split
    · rename_i x body
      split_ifs with hx
      · cases hb : readHex body with
        | none => exact .inl rfl
        | some z => exact .inr (.hex hx (readHex_eq_some_iff.1 hb))
      · exact readPlain_nan_or_literal _
    · exact readPlain_nan_or_literal _

/-- Reading a text as a number: a text whose characters, without the blanks at both ends, are
a literal reads as the literal's number, which is never NaN; every other text reads as NaN. -/
theorem readText_literal (s : String) :
    (∀ v, TextLiteral (Text.trimBlanks s) v → readText s = v) ∧
    ((¬ ∃ v, TextLiteral (Text.trimBlanks s) v) → readText s = Binary64.nan) ∧
    ((readText s).isNaN = true ↔ ¬ ∃ v, TextLiteral (Text.trimBlanks s) v) := by
  have hnan : (¬ ∃ v, TextLiteral (Text.trimBlanks s) v) → readText s = Binary64.nan := by
    intro hnone
    rcases readText_nan_or_literal s with h | h
    · exact h
    · exact absurd ⟨_, h⟩ hnone
  refine ⟨fun _ => readText_of_literal, hnan, ⟨?_, fun hnone => by rw [hnan hnone]; decide⟩⟩
  rintro hisnan ⟨v, hv⟩
  rw [readText_of_literal hv, hv.isNaN] at hisnan
  exact Bool.false_ne_true hisnan

/-- A sign after `0x` is read: `0x-1` is minus one, not NaN. -/
theorem readText_signed_hex :
    readText "0x-1" = Binary64.ofInt (-1) ∧ (readText "0x-1").isNaN = false := by
  have hlit : TextLiteral (Text.trimBlanks "0x-1") (Binary64.ofInt (-1)) := by
    rw [show Text.trimBlanks "0x-1" = '0' :: 'x' :: (['-'] ++ ['1']) from rfl]
    exact .hex (.inl rfl) ⟨['-'], true, ['1'], rfl, .minus, 1,
      ⟨[1], by simp, .cons rfl .nil, by simp⟩, by decide, by norm_num, by norm_num⟩
  have h := (readText_literal "0x-1").1 _ hlit
  exact ⟨h, h ▸ Binary64.isNaN_ofInt (-1)⟩

end Number

end RuleMachine
