import SuggestionReview.Decimal
import SuggestionReview.Json.Value
import SuggestionReview.Text.Quoted

namespace SuggestionReview.Json

structure Place where
  line : Nat
  column : Nat
deriving DecidableEq, Repr

namespace Place

def start : Place := ⟨1, 0⟩

def afterByte (p : Place) (c : Char) : Place :=
  if c = '\n' then ⟨p.line + 1, 0⟩ else ⟨p.line, p.column + 1⟩

def after (p : Place) (c : Char) : Place :=
  if c = '\n' then ⟨p.line + 1, 0⟩ else ⟨p.line, p.column + c.utf8Size⟩

/-- The place after so many bytes of a text, or none when the text is shorter. -/
def afterBytes (p : Place) : Nat → List Char → Option Place
  | 0, _ => some p
  | _ + 1, [] => none
  | n + 1, c :: rest =>
    if c.utf8Size ≤ n + 1 then (p.after c).afterBytes (n + 1 - c.utf8Size) rest
    else some ⟨p.line, p.column + n + 1⟩

end Place

/-- What is left of a text, and where that starts. -/
structure Cursor where
  rest : List Char
  place : Place
deriving DecidableEq, Repr

namespace Cursor

def ofText (s : String) : Cursor := ⟨s.toList, .start⟩

def advance : Cursor → Cursor
  | ⟨[], p⟩ => ⟨[], p⟩
  | ⟨c :: rest, p⟩ => ⟨rest, p.after c⟩

def nextPlace : Cursor → Place
  | ⟨[], p⟩ => p
  | ⟨c :: _, p⟩ => p.afterByte c

def isBlank (c : Char) : Bool :=
  c = ' ' || c = '\n' || c = '\t' || c = '\r'

def skipBlank : List Char → Place → Cursor
  | [], p => ⟨[], p⟩
  | c :: rest, p => if isBlank c then skipBlank rest (p.after c) else ⟨c :: rest, p⟩

def endPlace (c : Cursor) : Place :=
  c.rest.foldl Place.after c.place

end Cursor

inductive Malformed where
  | endInList
  | endInObject
  | endInText
  | endInValue
  | noColon
  | noListSeparator
  | noObjectSeparator
  | word
  | noValue
  | escape
  | numeral
  | range
  | control
  | keyNotText
  | surrogate
  | trailingComma
  | trailing
  | hexEscape
  | depth
deriving DecidableEq

namespace Malformed

def message : Malformed → String
  | endInList => "EOF while parsing a list"
  | endInObject => "EOF while parsing an object"
  | endInText => "EOF while parsing a string"
  | endInValue => "EOF while parsing a value"
  | noColon => "expected `:`"
  | noListSeparator => "expected `,` or `]`"
  | noObjectSeparator => "expected `,` or `\x7d`"
  | word => "expected ident"
  | noValue => "expected value"
  | escape => "invalid escape"
  | numeral => "invalid number"
  | range => "number out of range"
  | control => "control character (\\u0000-\\u001F) found while parsing a string"
  | keyNotText => "key must be a string"
  | surrogate => "lone leading surrogate in hex escape"
  | trailingComma => "trailing comma"
  | trailing => "trailing characters"
  | hexEscape => "unexpected end of hex escape"
  | depth => "recursion limit exceeded"

def isEnd : Malformed → Bool
  | endInList | endInObject | endInText | endInValue => true
  | _ => false

end Malformed

inductive Found where
  | null
  | bool (b : Bool)
  | number (n : Number)
  | text (s : String)
  | sequence
  | map

namespace Found

def ofValue : Value → Found
  | .null => null
  | .bool b => bool b
  | .number n => number n
  | .text s => text s
  | .array _ => sequence
  | .object _ => map

def describe : Found → String
  | null => "null"
  | bool b => s!"boolean `{b}`"
  | number (.integer n) => s!"integer `{n}`"
  | number (.real x) => "floating point `" ++ Decimal.document.write x ++ "`"
  | text s => "string " ++ Text.quoted s
  | sequence => "sequence"
  | map => "map"

end Found

inductive Mismatch where
  | wrongType (found : Found) (expected : String)
  | wrongValue (found : Found) (expected : String)
  | wrongLength (length : Nat) (expected : String)
  | missingField (name : String)
  | duplicateField (name : String)
  | unknownVariant (name : String) (known : List String)
  | noVariant (type : String)

namespace Mismatch

def oneOf (names : List String) : String :=
  match names.map fun n ↦ "`" ++ n ++ "`" with
  | [] => "there are no variants"
  | [a] => "expected " ++ a
  | [a, b] => "expected " ++ a ++ " or " ++ b
  | all => "expected one of " ++ ", ".intercalate all

def message : Mismatch → String
  | wrongType found expected => "invalid type: " ++ found.describe ++ ", expected " ++ expected
  | wrongValue found expected => "invalid value: " ++ found.describe ++ ", expected " ++ expected
  | wrongLength length expected => s!"invalid length {length}, expected " ++ expected
  | missingField name => "missing field `" ++ name ++ "`"
  | duplicateField name => "duplicate field `" ++ name ++ "`"
  | unknownVariant name known => "unknown variant `" ++ name ++ "`, " ++ oneOf known
  | noVariant type => "data did not match any variant of untagged enum " ++ type

end Mismatch

/-- Why reading stopped. A mismatch gets its place from the bracket around it, and has none when
there is no bracket. -/
inductive Failure where
  | malformed (fault : Malformed) (place : Place)
  | mismatch (fault : Mismatch) (place : Place)
  | unplaced (fault : Mismatch) (cursor : Cursor)

namespace Failure

def atPlace (text : String) (p : Place) : String :=
  text ++ s!" at line {p.line} column {p.column}"

def message : Failure → String
  | malformed fault place => atPlace fault.message place
  | mismatch fault place => atPlace fault.message place
  | unplaced fault _ => fault.message

inductive Kind where
  | ended
  | malformed
  | data
deriving DecidableEq

def kind : Failure → Kind
  | malformed fault _ => if fault.isEnd then .ended else .malformed
  | mismatch .. | unplaced .. => .data

end Failure

end SuggestionReview.Json
