import SuggestionReview.Basic
import SuggestionReview.Json.Value
import SuggestionReview.Text.Lowercase

namespace SuggestionReview

open Json (Value)

/-- A value with the file it comes from. A table made to hold something comes from none. What a
sequence holds never counts. -/
inductive Setting where
  | null (origin : Option String)
  | bool (origin : Option String) (b : Bool)
  | number (origin : Option String) (n : Json.Number)
  | text (origin : Option String) (s : String)
  | sequence (origin : Option String)
  | table (origin : Option String) (entries : List (String × Setting))

namespace Setting

def origin : Setting → Option String
  | null o | bool o _ | number o _ | text o _ | sequence o | table o _ => o

def asTable : Option Setting → Option String × Entries Setting
  | some (table o entries) => (o, entries)
  | _ => (none, [])

mutual

/-- What stands in the place of `old` when a value is laid over it. A table is laid over entry by
entry, so that an empty one changes nothing. -/
def overlay (origin : Option String) (old : Option Setting) : Value → Setting
  | .null => null origin
  | .bool b => bool origin b
  | .number n => number origin n
  | .text s => text origin s
  | .array _ => sequence origin
  | .object members => overlayMembers origin (old.getD (table none [])) members

def overlayMembers (origin : Option String) (old : Setting) : List (String × Value) → Setting
  | [] => old
  | (key, value) :: rest =>
    let (o, entries) := asTable (some old)
    let name := Text.lowercase key
    let entry := overlay origin (entries.get? name) value
    overlayMembers origin (table o (entries.insert name entry)) rest

end

inductive Step where
  | child (name : String)
  | index
deriving DecidableEq

/-- Changes what steps lead to, and makes tables and sequences on the way where there are none. -/
def change (f : Option Setting → Setting) : List Step → Option Setting → Setting
  | [], old => f old
  | .child name :: rest, old =>
    let (o, entries) := asTable old
    table o (entries.insert name (change f rest (entries.get? name)))
  | .index :: _, some (sequence o) => sequence o
  | .index :: _, _ => sequence none

end Setting

namespace Settings

open Setting (Step)

def isStepChar (c : Char) : Bool :=
  c.isAlphanum || c = ' ' || c = '_' || c = '-'

/-- What follows a whole number with a closing bracket; it has a sign and 63 bits. -/
def afterIndex (cs : List Char) : Option (List Char) := do
  let isGap (c : Char) : Bool := c = ' ' || c = '\t'
  let cs := cs.dropWhile isGap
  let (negative, cs) := match cs with
    | '-' :: rest => (true, rest)
    | _ => (false, cs)
  let (digits, cs) := cs.span Char.isDigit
  let n ← (String.ofList digits).toNat?
  if n < twoTo 63 || negative && n = twoTo 63 then
    match cs.dropWhile isGap with
    | ']' :: rest => some rest
    | _ => none
  else none

def stepsOf : Nat → List Char → Option (List Step)
  | _, [] => some []
  | 0, _ => none
  | n + 1, '.' :: rest =>
    let (name, rest) := rest.span isStepChar
    if name.isEmpty then none
    else (.child (Text.lowercase (String.ofList name)) :: ·) <$> stepsOf n rest
  | n + 1, '[' :: rest => do
    let rest ← afterIndex rest
    (.index :: ·) <$> stepsOf n rest
  | _, _ => none

/-- The steps that a key leads through, or the key as one step when it spells none. -/
def steps (key : String) : List Step :=
  (stepsOf (key.length + 1) ('.' :: key.toList)).getD [.child (Text.lowercase key)]

def lay (origin : Option String) (old : Setting) (members : List (String × Value)) : Setting :=
  members.foldl
    (fun acc (key, value) ↦ Setting.change (Setting.overlay origin · value) (steps key) (some acc))
    old

end Settings

end SuggestionReview
