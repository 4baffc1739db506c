import SuggestionReview.Basic
import SuggestionReview.Json.Document
import SuggestionReview.Json.Value

namespace SuggestionReview

inductive OptionValue where
  | null
  | bool (b : Bool)
  | int (n : Int)
  | float (x : Float)
  | text (s : String)

namespace OptionValue

def display : OptionValue → String
  | null => "null"
  | bool b => toString b
  | int n => toString n
  | float x => Decimal.plain.write x
  | text s => s

def toValue : OptionValue → Json.Value
  | null => .null
  | bool b => .bool b
  | int n => .number (.integer n)
  | float x => .number (.real x)
  | text s => .text s

/-- The scalar that a document value is. Whole numbers of more than 64 bits become floating point. -/
def ofValue? : Json.Value → Option OptionValue
  | .null => some null
  | .bool b => some (bool b)
  | .number (.integer n) =>
    if n < twoTo 63 then some (int n) else some (float n.toNat.toUInt64.toFloat)
  | .number (.real x) => some (float x)
  | .text s => some (text s)
  | .array _ | .object _ => none

def read (depth : Nat) : Json.Reader OptionValue := do
  match ofValue? (← Json.Reader.value depth) with
  | some v => pure v
  | none => Json.Reader.mismatch (.noVariant "OptionValue")

/-- Equality of scalars: floating point zeros are equal, and no whole number is a floating one. -/
def agrees : OptionValue → OptionValue → Bool
  | null, null => true
  | bool a, bool b => a == b
  | int m, int n => m == n
  | float x, float y => x == y
  | text s, text t => s == t
  | _, _ => false

end OptionValue

structure Options where
  entries : Entries OptionValue

namespace Options

def empty : Options := ⟨[]⟩

def isEmpty (o : Options) : Bool := o.entries.isEmpty

def size (o : Options) : Nat := o.entries.length

def get? (o : Options) (name : String) : Option OptionValue := o.entries.get? name

def insert (o : Options) (name : String) (value : OptionValue) : Options :=
  ⟨o.entries.insert name value⟩

def ofList (pairs : List (String × OptionValue)) : Options :=
  pairs.foldl (fun o pair ↦ o.insert pair.1 pair.2) empty

def summary (o : Options) : String :=
  ", ".intercalate (o.entries.map fun (name, value) ↦ name ++ ": " ++ value.display)

def toValue (o : Options) : Json.Value :=
  .object (o.entries.map fun (name, value) ↦ (name, value.toValue))

def read (depth : Nat) : Json.Reader Options :=
  Json.Reader.objectOf "a map of option names to scalar values"
    (fun depth (o : Options) name ↦ do
      Json.Reader.colon
      let value ← OptionValue.read depth
      pure (o.insert name value))
    empty pure depth

def agrees (a b : Options) : Bool :=
  a.entries.length == b.entries.length &&
    (a.entries.zip b.entries).all fun (x, y) ↦ x.1 == y.1 && x.2.agrees y.2

end Options

end SuggestionReview
