import SuggestionReview.Payload.Basic

namespace SuggestionReview

open Json (Reader Value)
open Json.Reader (colon nullable listOf text variant once required objectOf keepMember)

def optionalMember (name : String) (value : Option Value) : List (String × Value) :=
  match value with
  | some v => [(name, v)]
  | none => []

def textsValue (names : List String) : Value :=
  .array (names.map .text)

def nullOr {α : Type} (write : α → Value) : Option α → Value
  | some a => write a
  | none => .null

def ActionType.read : Reader ActionType := do
  return .ofName (← text)

def Axis.ofValue (v : Value) : Except Json.Mismatch Axis :=
  let named (name : String) : Except Json.Mismatch Axis :=
    match Entries.get? Axis.names name with
    | some a => .ok a
    | none => .error (.unknownVariant name (Axis.names.map (·.1)))
  match v with
  | .text name => named name
  | .object [(name, .null)] => named name
  | .object [(name, other)] => do
    let _ ← named name
    .error (.wrongType (.ofValue other) "unit")
  | .object _ => .error (.wrongValue .map "map with a single key")
  | other => .error (.wrongType (.ofValue other) "string or map")

/-- Fields of a payload or patch read so far; the other members come last first. -/
structure PayloadFields where
  actionType : Option (Option ActionType)
  axis : Option (Option Axis)
  arguments : Option (Option (List String))
  code : Option (Option String)
  options : Option (Option Options)
  extra : List (String × Value)

namespace PayloadFields

def none : PayloadFields := ⟨.none, .none, .none, .none, .none, []⟩

inductive Field where
  | actionType
  | axis
  | arguments
  | code
  | options
  | other
deriving DecidableEq

def fieldOf : String → Field
  | "action_type" => .actionType
  | "axis" => .axis
  | "action_arguments" | "arguments" => .arguments
  | "action_code" | "code" => .code
  | "action_options" | "options" => .options
  | _ => .other

theorem fieldOf_iff (key : String) :
    (fieldOf key = .actionType ↔ key = "action_type") ∧
    (fieldOf key = .axis ↔ key = "axis") ∧
    (fieldOf key = .arguments ↔ key = "action_arguments" ∨ key = "arguments") ∧
    (fieldOf key = .code ↔ key = "action_code" ∨ key = "code") ∧
    (fieldOf key = .options ↔ key = "action_options" ∨ key = "options") ∧
    (fieldOf key = .other ↔ key ∉ ["action_type", "axis", "action_arguments", "arguments",
      "action_code", "code", "action_options", "options"]) := by
  unfold fieldOf
  split <;> simp_all

def field {α : Type} (mayBeNull : Bool) (r : Reader α) : Reader (Option α) :=
  if mayBeNull then nullable r else do return some (← r)

/-- Reads one member. Where `partly`, every field may be null. -/
def visit (partly : Bool) (depth : Nat) (f : PayloadFields) (key : String) :
    Reader PayloadFields := do
  match fieldOf key with
  | .actionType => do
    let a ← once "action_type" f.actionType (field partly ActionType.read)
    pure { f with actionType := some a }
  | .axis => do
    let a ← once "axis" f.axis (field partly (variant Axis.names depth))
    pure { f with axis := some a }
  | .arguments => do
    let a ← once "action_arguments" f.arguments (field partly (listOf (fun _ ↦ text) depth))
    pure { f with arguments := some a }
  | .code => do
    let a ← once "action_code" f.code (nullable text)
    pure { f with code := some a }
  | .options => do
    let a ← once "action_options" f.options (nullable (Options.read depth))
    pure { f with options := some a }
  | .other => do
    let extra ← keepMember (Json.Reader.value depth) f.extra key
    pure { f with extra }

def toPayload (f : PayloadFields) : Reader Payload := do
  let actionType ← required "action_type" f.actionType.join
  let axis ← required "axis" f.axis.join
  return {
    actionType, axis
    arguments := f.arguments.join.getD []
    code := f.code.join
    options := f.options.join
    extra := Entries.ofList f.extra.reverse }

def toPatch (f : PayloadFields) : Patch where
  actionType := f.actionType.join
  axis := f.axis.join
  arguments := f.arguments.join
  code := f.code
  options := f.options
  extra := Entries.ofList f.extra.reverse

end PayloadFields

namespace Payload

def read (depth : Nat) : Reader Payload :=
  objectOf "struct ActionPayload" (PayloadFields.visit false) .none PayloadFields.toPayload depth

def toValue (p : Payload) : Value :=
  .object <|
    [("action_type", .text p.actionType.name),
      ("axis", .text p.axis.name),
      ("action_arguments", textsValue p.arguments)] ++
    optionalMember "action_code" (p.code.map .text) ++
    optionalMember "action_options" (p.options.map Options.toValue) ++
    p.extra

def parse (s : String) : Except Json.Failure Payload :=
  (read Json.Reader.maxDepth).run s

def saveRequest (p : Payload) : Value :=
  .object [("action_payload", p.toValue)]

end Payload

namespace Patch

def read (depth : Nat) : Reader Patch :=
  objectOf "struct PayloadPatch" (PayloadFields.visit true) .none (pure ·.toPatch) depth

def toValue (p : Patch) : Value :=
  .object <|
    optionalMember "action_type" (p.actionType.map fun t ↦ .text t.name) ++
    optionalMember "axis" (p.axis.map fun a ↦ .text a.name) ++
    optionalMember "action_arguments" (p.arguments.map textsValue) ++
    optionalMember "action_code" (p.code.map (nullOr .text)) ++
    optionalMember "action_options" (p.options.map (nullOr Options.toValue)) ++
    p.extra

def parse (s : String) : Except Json.Failure Patch :=
  (read Json.Reader.maxDepth).run s

end Patch

end SuggestionReview
