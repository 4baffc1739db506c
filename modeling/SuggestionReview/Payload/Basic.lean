import SuggestionReview.Payload.ActionType
import SuggestionReview.Payload.Options

namespace SuggestionReview

inductive Axis where
  | row
  | column
deriving DecidableEq

namespace Axis

def names : List (String × Axis) := [("row", row), ("column", column)]

def name : Axis → String
  | row => "row"
  | column => "column"

end Axis

structure Payload where
  actionType : ActionType
  axis : Axis
  arguments : List String
  code : Option String
  options : Option Options
  /-- Members of the document that have no meaning here, in order. -/
  extra : Entries Json.Value

/-- Some fields of a payload. A field set to null takes the value away; an absent one leaves it. -/
structure Patch where
  actionType : Option ActionType
  axis : Option Axis
  arguments : Option (List String)
  code : Option (Option String)
  options : Option (Option Options)
  extra : Entries Json.Value

namespace Payload

/-- The script, where an empty one counts as none. -/
def codeText (p : Payload) : Option String :=
  p.code.filter (· ≠ "")

def someOptions (p : Payload) : Option Options :=
  p.options.filter (!·.isEmpty)

def merge (p : Payload) (patch : Patch) : Payload where
  actionType := patch.actionType.getD p.actionType
  axis := patch.axis.getD p.axis
  arguments := patch.arguments.getD p.arguments
  code := patch.code.getD p.code
  options := patch.options.getD p.options
  extra := p.extra.insertAll patch.extra

/-- Equality of payloads. The order of options counts, that of other members does not. -/
def agrees (a b : Payload) : Bool :=
  a.actionType == b.actionType && a.axis == b.axis && a.arguments == b.arguments &&
    a.code == b.code &&
    (match a.options, b.options with
      | none, none => true
      | some x, some y => x.agrees y
      | _, _ => false) &&
    (Json.Value.object a.extra).agrees (.object b.extra)

end Payload

namespace Patch

def empty : Patch := ⟨none, none, none, none, none, []⟩

def isEmpty (p : Patch) : Bool :=
  p.actionType.isNone && p.axis.isNone && p.arguments.isNone && p.code.isNone &&
    p.options.isNone && p.extra.isEmpty

end Patch

end SuggestionReview
