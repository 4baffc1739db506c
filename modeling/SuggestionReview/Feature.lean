import SuggestionReview.Json.Document
import SuggestionReview.Payload.Document

namespace SuggestionReview

open Json (Reader Value)

structure Feature where
  id : String
  columnType : Option String
deriving DecidableEq

namespace Feature

def named (id : String) : Feature := ⟨id, none⟩

def toValue (f : Feature) : Value :=
  .object (("uuid", .text f.id) :: optionalMember "column_type" (f.columnType.map .text))

structure Fields where
  id : Option String
  columnType : Option (Option String)

def Fields.visit (_ : Nat) (f : Fields) (key : String) : Reader Fields := do
  match key with
  | "uuid" => do
    let id ← Json.Reader.once "uuid" f.id Json.Reader.text
    pure { f with id := some id }
  | "column_type" => do
    let t ← Json.Reader.once "column_type" f.columnType (Json.Reader.nullable Json.Reader.text)
    pure { f with columnType := some t }
  | _ => do Json.Reader.skipMember; pure f

def Fields.finish (f : Fields) : Reader Feature := do
  let id ← Json.Reader.required "uuid" f.id
  pure ⟨id, f.columnType.join⟩

def inOrder (_ : Nat) : Reader Feature := do
  match ← Json.Reader.fieldInOrder? true Json.Reader.text with
  | none => Json.Reader.mismatch (.wrongLength 0 "struct Feature with 2 elements")
  | some id => do
    let t ← Json.Reader.fieldInOrder? false (Json.Reader.nullable Json.Reader.text)
    pure ⟨id, t.join⟩

def read (depth : Nat) : Reader Feature :=
  Json.Reader.recordOf "struct Feature" Fields.visit ⟨none, none⟩ Fields.finish inOrder depth

end Feature

/-- Positions under names. The order of the entries has no meaning. -/
structure FeatureMapping where
  entries : Entries Nat
deriving DecidableEq

namespace FeatureMapping

def empty : FeatureMapping := ⟨[]⟩

def get? (m : FeatureMapping) (name : String) : Option Nat := m.entries.get? name

def contains (m : FeatureMapping) (name : String) : Bool := (m.get? name).isSome

def insert (m : FeatureMapping) (name : String) (position : Nat) : FeatureMapping :=
  ⟨m.entries.insert name position⟩

def ofList (pairs : List (String × Nat)) : FeatureMapping :=
  pairs.foldl (fun m pair ↦ m.insert pair.1 pair.2) empty

/-- Every column under its own name. Of columns with one name the last counts. -/
def ofFeatures (features : List Feature) : FeatureMapping :=
  ofList (features.zipIdx.map fun (f, i) ↦ (f.id, i))

def size (m : FeatureMapping) : Nat := m.entries.length

def isEmpty (m : FeatureMapping) : Bool := m.entries.isEmpty

def isConsistentWith (m : FeatureMapping) (features : List Feature) : Bool :=
  m.entries.all fun (name, i) ↦ (features[i]?.map (·.id)) == some name

def sorted (m : FeatureMapping) : List (String × Nat) :=
  m.entries.mergeSort fun a b ↦ a.1 ≤ b.1

def read (depth : Nat) : Reader FeatureMapping :=
  Json.Reader.objectOf "a map"
    (fun _ (m : FeatureMapping) name ↦ do
      Json.Reader.colon
      let position ← Json.Reader.index
      pure (m.insert name position))
    empty pure depth

def position (v : Value) : Except Json.Mismatch Nat :=
  match v with
  | .number (.integer (.ofNat n)) => .ok n
  | .number (.integer n) => .error (.wrongValue (.number (.integer n)) "usize")
  | v => .error (.wrongType (.ofValue v) "usize")

def ofValue : Value → Except Json.Mismatch FeatureMapping
  | .object members => do
    let pairs ← members.mapM fun (name, v) ↦ do return (name, ← position v)
    return ofList pairs
  | v => .error (.wrongType (.ofValue v) "a map")

end FeatureMapping

structure FeatureIndex where
  ids : List String
deriving DecidableEq

namespace FeatureIndex

def ofFeatures (features : List Feature) : FeatureIndex := ⟨features.map (·.id)⟩

def lookup (x : FeatureIndex) (id : String) : Option Nat := x.ids.idxOf? id

end FeatureIndex

end SuggestionReview
