import SuggestionReview.Feature

namespace SuggestionReview

inductive ReferencePiece where
  | reference (name : String) (column : Nat)
  | label (name : String)
  | separator
deriving DecidableEq

namespace ReferencePiece

def text : ReferencePiece → String
  | reference name _ => name
  | label name => name
  | separator => ", "

def column? : ReferencePiece → Option Nat
  | reference _ column => some column
  | _ => none

def isActionable (p : ReferencePiece) : Bool := p.column?.isSome

def ofArgument (mapping : FeatureMapping) (name : String) : ReferencePiece :=
  match mapping.get? name with
  | some column => reference name column
  | none => label name

end ReferencePiece

structure References where
  pieces : List ReferencePiece
deriving DecidableEq

namespace References

def build (arguments : List String) (mapping : FeatureMapping) : References :=
  ⟨(arguments.map (.ofArgument mapping)).intersperse .separator⟩

def isEmpty (r : References) : Bool := r.pieces.isEmpty

def tokens (r : References) : List ReferencePiece := r.pieces.filter (· ≠ .separator)

def separatorCount (r : References) : Nat := r.pieces.count .separator

def actionables (r : References) : List ReferencePiece := r.pieces.filter (·.isActionable)

def actionableCount (r : References) : Nat := r.actionables.length

/-- The piece that leads somewhere, counting only those. -/
def actionable (r : References) (nth : Nat) : Option ReferencePiece := r.actionables[nth]?

def activate (r : References) (nth : Nat) : Option Nat :=
  (r.actionable nth).bind (·.column?)

def plainText (r : References) : String := String.join (r.pieces.map (·.text))

end References

end SuggestionReview
