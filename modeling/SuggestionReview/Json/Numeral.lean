import SuggestionReview.Basic
import SuggestionReview.Json.Reader

namespace SuggestionReview.Json

structure Numeral where
  negative : Bool
  whole : List Char
  fraction : Option (List Char)
  /-- The sign of the power of ten, true for up, and its digits. -/
  power : Option (Bool × List Char)
deriving DecidableEq

namespace Numeral

def digitValue (c : Char) : Nat := c.toNat - '0'.toNat

def digitsValue (start : Nat) (digits : List Char) : Nat :=
  digits.foldl (fun n d ↦ 10 * n + digitValue d) start

/-- Takes digits into the significand as long as it stays below `2 ^ 64`; also how many it took. -/
def absorb : Nat → List Char → Nat × Nat
  | s, [] => (s, 0)
  | s, d :: rest =>
    let s' := 10 * s + digitValue d
    if s' < twoTo 64 then
      let (t, n) := absorb s' rest
      (t, n + 1)
    else (s, 0)

def floatTenTo (n : Nat) : Float := Float.ofScientific 1 false n

def scaleDown (x : Float) (n : Nat) : Float :=
  if n ≤ 308 then x / floatTenTo n
  else if x == 0.0 then x
  else scaleDown (x / floatTenTo 308) (n - 308)
termination_by n

def scale (x : Float) (e : Int) : Option Float :=
  if e < 0 then some (scaleDown x e.natAbs)
  else if e.natAbs ≤ 308 then
    let y := x * floatTenTo e.natAbs
    if y.isInf then none else some y
  else if x == 0.0 then some x
  else none

/-- The number that a spelling stands for, or none when it is too large. A whole number of at most
64 bits is exact. Of any other, digits that do not fit the significand only count for the size. -/
def number? (n : Numeral) : Option Number :=
  let (s, taken) := absorb 0 n.whole
  let signed (x : Float) : Number := .real (if n.negative then -x else x)
  let exact := taken = n.whole.length && n.fraction.isNone && n.power.isNone
  if exact && !n.negative then some (.integer s)
  else if exact && 0 < s && s ≤ twoTo 63 then some (.integer (-s))
  else
    let (t, places) := absorb s (n.fraction.getD [])
    let e := (n.whole.length - taken : Nat) - (places : Int)
    let e := match n.power with
      | none => e
      | some (true, digits) => e + digitsValue 0 digits
      | some (false, digits) => e - digitsValue 0 digits
    (scale t.toUInt64.toFloat e).map signed

/-- How many digits of the power of ten are left when it passes 31 bits. -/
def surplus : Nat → List Char → Nat
  | _, [] => 0
  | e, d :: rest =>
    let e' := 10 * e + digitValue d
    if e' < twoTo 31 then surplus e' rest else rest.length

def rangePlace (n : Numeral) (p : Place) : Place :=
  match n.power with
  | none => p
  | some (_, digits) => ⟨p.line, p.column - surplus 0 digits⟩

end Numeral

namespace Reader

def isDigit (c : Char) : Bool := '0' ≤ c && c ≤ '9'

def wholeDigits (atEnd : Malformed) : Reader (List Char) := do
  match ← peek with
  | none => refuse atEnd
  | some '0' => do
    advance
    match ← peek with
    | some c => if isDigit c then refuseNext .numeral else pure ['0']
    | none => pure ['0']
  | some c => if isDigit c then span isDigit else refuseNext .numeral

def fractionDigits (atEnd : Malformed) : Reader (Option (List Char)) := do
  match ← peek with
  | some '.' => do
    advance
    match ← span isDigit with
    | [] => do
      match ← peek with
      | none => refuse atEnd
      | some _ => refuseNext .numeral
    | digits => pure (some digits)
  | _ => pure none

def powerDigits (atEnd : Malformed) : Reader (Option (Bool × List Char)) := do
  let some mark ← peek | pure none
  if mark = 'e' || mark = 'E' then
    advance
    let up ← match ← peek with
      | some '+' => do advance; pure true
      | some '-' => do advance; pure false
      | _ => pure true
    match ← peek with
    | none => refuse atEnd
    | some c => if isDigit c then do return some (up, ← span isDigit) else refuseNext .numeral
  else pure none

def numeral (atEnd : Malformed) : Reader Numeral := do
  let negative ← match ← peek with
    | some '-' => do advance; pure true
    | _ => pure false
  let whole ← wholeDigits atEnd
  let fraction ← fractionDigits atEnd
  let power ← powerDigits atEnd
  pure ⟨negative, whole, fraction, power⟩

def number : Reader Number := do
  let n ← numeral .endInValue
  match n.number? with
  | some value => pure value
  | none => fun c ↦ .error (.malformed .range (n.rangePlace c.place))

end Reader

end SuggestionReview.Json
