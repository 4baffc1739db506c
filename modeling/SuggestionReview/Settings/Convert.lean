import SuggestionReview.Basic
import SuggestionReview.Decimal
import SuggestionReview.Palette
import SuggestionReview.Settings.Layer
import SuggestionReview.Text.Quoted

namespace SuggestionReview

inductive SettingsFault where
  | notFound (path : String)
  | notText
  | malformed
  | mismatch (found expected key : String) (origin : Option String)
  | unknownTheme (name : String)
  | noThemeName
deriving DecidableEq

def SettingsFault.message : SettingsFault → String
  | notFound path => "configuration file \"" ++ path ++ "\" not found"
  | notText => "stream did not contain valid UTF-8"
  | malformed => "malformed configuration file"
  | mismatch found expected key origin =>
    "invalid type: " ++ found ++ ", expected " ++ expected ++ " for key `" ++ key ++ "`" ++
      ((origin.map (" in " ++ ·)).getD "")
  | unknownTheme name => "enum ThemeName does not have variant constructor " ++ name
  | noThemeName =>
    "value of enum ThemeName should be represented by either string or table with exactly one key"

namespace Setting

def shown : Setting → String
  | null _ => "unit value"
  | bool _ b => "boolean `" ++ toString b ++ "`"
  | number _ (.integer n) => "64-bit integer `" ++ toString n ++ "`"
  | number _ (.real x) => "floating point `" ++ Decimal.plain.write x ++ "`"
  | text _ s => "string " ++ Text.quoted s
  | sequence _ => "sequence"
  | table .. => "map"

def refuse {α : Type} (s : Setting) (key expected : String) : Except SettingsFault α :=
  .error (.mismatch s.shown expected key s.origin)

def toBool (key : String) : Setting → Except SettingsFault Bool
  | bool _ b => .ok b
  | number _ (.integer n) => .ok (n ≠ 0)
  | number _ (.real x) => .ok (x != 0.0)
  | text o s =>
    let s := Text.lowercase s
    if ["1", "true", "on", "yes"].contains s then .ok true
    else if ["0", "false", "off", "no"].contains s then .ok false
    else (text o s).refuse key "a boolean"
  | s => s.refuse key "a boolean"

def spelledNat? (s : String) : Option Nat := do
  let digits := match s.toList with
    | '+' :: rest => rest
    | cs => cs
  if digits.isEmpty || !digits.all Char.isDigit then none
  else
    let n := Nat.ofDigitChars 10 digits 0
    if n < twoTo 64 then some n else none

/-- A natural number of 64 bits. Floating point numbers are rounded, halves away from zero. -/
def toNat (key : String) : Setting → Except SettingsFault Nat
  | bool _ b => .ok b.toNat
  | number o (.integer n) =>
    if 0 ≤ n then .ok n.toNat
    else (number o (.integer n)).refuse key "an unsigned 64 bit or less integer"
  | number _ (.real x) => .ok x.round.toUInt64.toNat
  | text o s =>
    let lower := Text.lowercase s
    if ["true", "on", "yes"].contains lower then .ok 1
    else if ["false", "off", "no"].contains lower then .ok 0
    else
      match spelledNat? s with
      | some n => .ok n
      | none => (text o s).refuse key "an integer"
  | s => s.refuse key "an integer"

def toShortNat (key : String) (s : Setting) : Except SettingsFault Nat := do
  let n ← s.toNat key
  if n < twoTo 16 then .ok n
  else
    .error (.mismatch ("64-bit unsigned integer `" ++ toString n ++ "`")
      "an unsigned 16 bit integer" key none)

def toText? (key : String) : Setting → Except SettingsFault (Option String)
  | null _ => .ok none
  | bool _ b => .ok (some (toString b))
  | number _ (.integer n) => .ok (some (toString n))
  | number _ (.real x) => .ok (some (Decimal.plain.write x))
  | text _ s => .ok (some s)
  | s => s.refuse key "a string"

def themeNamed (s : String) : Except SettingsFault Theme :=
  match Theme.names.lookup (Text.lowercase s) with
  | some t => .ok t
  | none => .error (.unknownTheme s)

def toTheme : Setting → Except SettingsFault Theme
  | text _ s => themeNamed s
  | table _ [(name, _)] => themeNamed name
  | _ => .error .noThemeName

end Setting

end SuggestionReview
