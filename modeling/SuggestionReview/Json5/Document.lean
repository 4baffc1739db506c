import SuggestionReview.Basic
import SuggestionReview.Decimal
import SuggestionReview.Json.Reader
import SuggestionReview.Json.Value
import SuggestionReview.Json5.Literal

namespace SuggestionReview.Json5

open Decimal (Scientific)
open Json (Number Value)

namespace Reader

def digitsValue (base start : Nat) (digits : List Char) : Nat :=
  digits.foldl (fun n d ↦ base * n + (Json.Reader.hexDigit? d).getD 0) start

def hexNumber : Reader Number := do
  let digits ← span fun c ↦ (Json.Reader.hexDigit? c).isSome
  let n := digitsValue 16 0 digits
  if digits.isEmpty || twoTo 32 ≤ n then failure
  pure (.integer n)

def wholeDigits : Reader (List Char) := do
  if (← peek) = some '0' then
    let _ ← next
    pure ['0']
  else span Char.isDigit

def fractionDigits : Reader (Option (List Char)) := do
  if (← peek) = some '.' then
    let _ ← next
    return some (← span Char.isDigit)
  else pure none

def power : Reader (Option Int) := do
  if (← peek).any fun c ↦ c = 'e' || c = 'E' then
    let _ ← next
    let sign ← peek
    if sign = some '+' || sign = some '-' then
      let _ ← next
    let digits ← span Char.isDigit
    if digits.isEmpty then failure
    let n : Int := digitsValue 10 0 digits
    pure (some (if sign = some '-' then -n else n))
  else pure none

/-- A decimal number without its sign. It is whole when it has neither point nor power of ten, and
then must fit in 64 bits. -/
def decimalNumber (negative : Bool) : Reader Number := do
  let whole ← wholeDigits
  let fraction ← fractionDigits
  let power ← power
  let n := digitsValue 10 0 whole
  match fraction, power with
  | none, none => do
    let value : Int := if negative then -n else n
    if whole.isEmpty || value < -twoTo 63 || twoTo 63 ≤ value then failure
    pure (.integer value)
  | _, _ => do
    let places := fraction.getD []
    if whole.isEmpty && places.isEmpty then failure
    let d : Scientific := ⟨digitsValue 10 n places, power.getD 0 - places.length⟩
    if d.nearest.isInf then failure
    pure (.real (if negative then -d.nearest else d.nearest))

def number : Reader Number := do
  let sign ← peek
  if sign = some '+' || sign = some '-' then
    let _ ← next
  let start : List Char ← get
  match start with
  | 'I' :: _ => do
    word "Infinity"
    if sign = some '+' then failure
    pure (.real (if sign = some '-' then -(1.0 / 0.0) else 1.0 / 0.0))
  | 'N' :: _ => do
    word "NaN"
    if sign = some '+' then failure
    pure (.real (0.0 / 0.0))
  | '0' :: x :: rest => do
    if x = 'x' || x = 'X' then
      if sign = some '+' || sign = some '-' then failure
      set rest
      hexNumber
    else decimalNumber (sign = some '-')
  | _ => decimalNumber (sign = some '-')

def value : Nat → Reader Value
  | 0 => failure
  | depth + 1 => do
    let member : Reader (String × Value) := do
      let k ← key
      let colon ← token
      if colon ≠ some ':' then failure
      let _ ← next
      let v ← value depth
      pure (k, v)
    match ← token with
    | some 'n' => do word "null"; pure .null
    | some 't' => do word "true"; pure (.bool true)
    | some 'f' => do word "false"; pure (.bool false)
    | some '[' => do let _ ← next; return .array (← list ']' (value depth))
    | some '{' => do let _ ← next; return .object (Entries.ofList (← list '}' member))
    | some c => if isQuote c then return .text (← literal (← next)) else return .number (← number)
    | none => failure

end Reader

def parse (s : String) : Option Value := do
  let (v, rest) ← Reader.value (s.toList.length + 1) s.toList
  if (skipGap .blank rest).isEmpty then some v else none

end SuggestionReview.Json5
