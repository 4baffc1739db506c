import SuggestionReview.Basic

namespace SuggestionReview.Decimal

/-- The finite positive number `mantissa * 2 ^ exponent`; `narrow` when its lower neighbour is only
half as far away as its upper one. -/
structure Binary where
  mantissa : Nat
  exponent : Int
  narrow : Bool

structure Scientific where
  digits : Nat
  exponent : Int
deriving DecidableEq

inductive Tie where
  | even
  | up
deriving DecidableEq

def Binary.ofFloat (x : Float) : Binary :=
  let bits : Nat := x.toBits.toNat
  let fraction : Nat := bits % twoTo 52
  let biased : Nat := bits / twoTo 52 % twoTo 11
  if biased = 0 then ⟨fraction, -1074, false⟩
  else ⟨fraction + twoTo 52, (biased : Int) - 1075, fraction == 0 && biased != 1⟩

def ratio (n : Nat) (e k : Int) : Nat × Nat :=
  (n * twoTo e.toNat * tenTo (-k).toNat, twoTo (-e).toNat * tenTo k.toNat)

namespace Binary

def low (b : Binary) : Nat :=
  if b.narrow then 4 * b.mantissa - 1 else 4 * b.mantissa - 2

def high (b : Binary) : Nat :=
  4 * b.mantissa + 2

/-- Whether `c * 10 ^ k` rounds to `b`; the ends of the interval do when the mantissa is even. -/
def covers (b : Binary) (k : Int) (c : Nat) : Bool :=
  let (low, unit) := ratio b.low (b.exponent - 2) k
  let (high, _) := ratio b.high (b.exponent - 2) k
  if b.mantissa % 2 = 0 then low ≤ c * unit && c * unit ≤ high
  else low < c * unit && c * unit < high

def nearest? (b : Binary) (tie : Tie) (k : Int) : Option Nat :=
  let (value, unit) := ratio (4 * b.mantissa) (b.exponent - 2) k
  let below := value / unit
  let above := below + 1
  match b.covers k below, b.covers k above with
  | true, true =>
    let down := 2 * (value - below * unit)
    if down < unit then some below
    else if unit < down then some above
    else if tie = .even && below % 2 = 0 then some below
    else some above
  | true, false => some below
  | false, true => some above
  | false, false => none

def topExponent (b : Binary) : Int :=
  (b.exponent + 56) * 30103 / 100000 + 2

def search (b : Binary) (tie : Tie) : Nat → Int → Scientific
  | 0, k => ⟨0, k⟩
  | steps + 1, k =>
    match b.nearest? tie k with
    | some c => ⟨c, k⟩
    | none => b.search tie steps (k - 1)

/-- The shortest decimal that reads back as `b`. A thousand powers cover every exponent. -/
def shortest (b : Binary) (tie : Tie) : Scientific :=
  if b.mantissa = 0 then ⟨0, 0⟩ else b.search tie 1000 b.topExponent

end Binary

def roundedQuotient (n m : Nat) : Nat :=
  let below := n / m
  let rest := 2 * (n % m)
  if rest < m || rest = m && below % 2 = 0 then below else below + 1

/-- The largest `k` with `2 ^ k` not above `n / m`. The lengths of `n` and `m` give it or the number
after it. -/
def quotientLog2 (n m : Nat) : Int :=
  let k : Int := n.log2 - m.log2
  if n * twoTo (-k).toNat < m * twoTo k.toNat then k - 1 else k

namespace Scientific

def quotient (d : Scientific) : Nat × Nat :=
  (d.digits * tenTo d.exponent.toNat, tenTo (-d.exponent).toNat)

/-- The nearest floating point number, infinite when the decimal is too large. The quotient is
rounded once, to 53 bits or to the last place that there is. A mantissa that fills up carries into
the exponent, which stands in front of it. -/
def nearest (d : Scientific) : Float :=
  let size : Int := (Nat.toDigits 10 d.digits).length + d.exponent
  if d.digits = 0 || size < -330 then 0.0
  else if 310 < size then 1.0 / 0.0
  else
    let (n, m) := d.quotient
    let e : Int := max (quotientLog2 n m - 52) (-1074)
    let mantissa := roundedQuotient (n * twoTo (-e).toNat) (m * twoTo e.toNat)
    let bits := (e + 1074).toNat * twoTo 52 + mantissa
    .ofBits (min bits (2047 * twoTo 52)).toUInt64

end Scientific

structure Form where
  /-- Decimal exponents written with a point instead of a power of ten. -/
  positional : Int → Bool
  pointZero : Bool
  tie : Tie
  notANumber : String
  infinite : String

/-- Documents use powers of ten outside `1e-5 … 1e15`, and have no text for what is not finite. -/
def document : Form where
  positional e := -5 ≤ e && e ≤ 15
  pointZero := true
  tie := .even
  notANumber := "null"
  infinite := "null"

def plain : Form where
  positional _ := true
  pointZero := false
  tie := .up
  notANumber := "NaN"
  infinite := "inf"

namespace Scientific

def leading (d : Scientific) : Int :=
  d.exponent + (Nat.toDigits 10 d.digits).length - 1

def positional (d : Scientific) (pointZero : Bool) : String :=
  let digits := Nat.toDigits 10 d.digits
  let zeros (n : Nat) := List.replicate n '0'
  let point := (digits.length : Int) + d.exponent
  let text :=
    if 0 ≤ d.exponent then
      digits ++ zeros d.exponent.toNat ++ (if pointZero then ['.', '0'] else [])
    else if 0 < point then
      digits.take point.toNat ++ '.' :: digits.drop point.toNat
    else
      ['0', '.'] ++ zeros (-point).toNat ++ digits
  String.ofList text

def powered (d : Scientific) : String :=
  let digits := Nat.toDigits 10 d.digits
  let mantissa := match digits with
    | [] => []
    | [c] => [c]
    | c :: rest => c :: '.' :: rest
  let sign := if 0 ≤ d.leading then "+" else "-"
  String.ofList mantissa ++ "e" ++ sign ++ toString d.leading.natAbs

end Scientific

def Form.write (n : Form) (x : Float) : String :=
  let sign := if x.toBits.toNat / twoTo 63 = 1 then "-" else ""
  if x.isNaN then n.notANumber
  else if x.isInf then
    if n.infinite = "null" then n.infinite else sign ++ n.infinite
  else
    let d := (Binary.ofFloat x).shortest n.tie
    sign ++ if n.positional d.leading then d.positional n.pointZero else d.powered

end SuggestionReview.Decimal
