import SuggestionReview.Decimal
import SuggestionReview.Basic

namespace SuggestionReview.Json

/-- Whole numbers between `-2 ^ 63` and `2 ^ 64` are kept exactly, all others as floating point. -/
inductive Number where
  | integer (n : Int)
  | real (x : Float)

inductive Value where
  | null
  | bool (b : Bool)
  | number (n : Number)
  | text (s : String)
  | array (items : List Value)
  | object (members : List (String × Value))

/-- A whole number never equals one with a point; zeros of both signs are equal. -/
def Number.agrees : Number → Number → Bool
  | .integer m, .integer n => m == n
  | .real x, .real y => x == y
  | _, _ => false

mutual

def Value.agrees : Value → Value → Bool
  | .null, .null => true
  | .bool a, .bool b => a == b
  | .number m, .number n => m.agrees n
  | .text s, .text t => s == t
  | .array xs, .array ys => itemsAgree xs ys
  | .object ms, .object ns => ms.length == ns.length && membersAgree ms ns
  | _, _ => false

def itemsAgree : List Value → List Value → Bool
  | [], [] => true
  | x :: xs, y :: ys => x.agrees y && itemsAgree xs ys
  | _, _ => false

def membersAgree : List (String × Value) → List (String × Value) → Bool
  | [], _ => true
  | (k, v) :: rest, ns =>
    (match Entries.get? ns k with
      | some w => v.agrees w
      | none => false) && membersAgree rest ns

end

/-- Everything on one line, or a line for each item, two blanks further in than its surroundings. -/
inductive Layout where
  | compact
  | indented (level : Nat)
deriving DecidableEq

namespace Layout

def inner : Layout → Layout
  | compact => compact
  | indented level => indented (level + 1)

def gap : Layout → List Char
  | compact => []
  | indented level => '\n' :: List.replicate (2 * level) ' '

def colon : Layout → List Char
  | compact => [':']
  | indented _ => [':', ' ']

end Layout

def escaped (c : Char) : List Char :=
  match c with
  | '"' => ['\\', '"']
  | '\\' => ['\\', '\\']
  | '\n' => ['\\', 'n']
  | '\r' => ['\\', 'r']
  | '\t' => ['\\', 't']
  | _ =>
    if c.toNat = 8 then ['\\', 'b']
    else if c.toNat = 12 then ['\\', 'f']
    else if c.toNat < 32 then
      ['\\', 'u', '0', '0', Nat.digitChar (c.toNat / 16), Nat.digitChar (c.toNat % 16)]
    else [c]

def writeText (s : String) : List Char :=
  '"' :: s.toList.flatMap escaped ++ ['"']

def Number.write : Number → List Char
  | .integer n => (toString n).toList
  | .real x => (Decimal.document.write x).toList

mutual

def Value.write (layout : Layout) : Value → List Char
  | .null => ['n', 'u', 'l', 'l']
  | .bool true => ['t', 'r', 'u', 'e']
  | .bool false => ['f', 'a', 'l', 's', 'e']
  | .number n => n.write
  | .text s => writeText s
  | .array [] => ['[', ']']
  | .array (x :: xs) =>
    '[' :: layout.inner.gap ++ x.write layout.inner ++ writeItems layout xs
  | .object [] => ['\x7b', '\x7d']
  | .object ((k, v) :: rest) =>
    '\x7b' :: layout.inner.gap ++ writeText k ++ layout.colon ++ v.write layout.inner ++
      writeMembers layout rest

def writeItems (layout : Layout) : List Value → List Char
  | [] => layout.gap ++ [']']
  | x :: xs => ',' :: layout.inner.gap ++ x.write layout.inner ++ writeItems layout xs

def writeMembers (layout : Layout) : List (String × Value) → List Char
  | [] => layout.gap ++ ['\x7d']
  | (k, v) :: rest =>
    ',' :: layout.inner.gap ++ writeText k ++ layout.colon ++ v.write layout.inner ++
      writeMembers layout rest

end

def Value.compact (v : Value) : String :=
  String.ofList (v.write .compact)

def Value.pretty (v : Value) : String :=
  String.ofList (v.write (.indented 0))

end SuggestionReview.Json
