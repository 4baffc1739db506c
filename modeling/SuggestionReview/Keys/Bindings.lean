import SuggestionReview.Keys.Pattern
import SuggestionReview.Keys.Basic
import SuggestionReview.Json.Document

namespace SuggestionReview

open Json (Reader Value)
open Json.Reader (once required text skipMember fieldInOrder? recordOf listOf mismatch)

structure Binding where
  key : String
  command : Command
deriving DecidableEq

namespace Binding

def toValue (b : Binding) : Value :=
  .object [("key", .text b.key), ("action", .text b.command.name)]

structure Fields where
  key : Option String
  command : Option Command

def Fields.visit (depth : Nat) (f : Fields) (name : String) : Reader Fields := do
  match name with
  | "key" => do
    let key ← once "key" f.key text
    pure { f with key := some key }
  | "action" => do
    let command ← once "action" f.command (Command.read depth)
    pure { f with command := some command }
  | _ => do skipMember; pure f

def Fields.finish (f : Fields) : Reader Binding := do
  let key ← required "key" f.key
  let command ← required "action" f.command
  pure ⟨key, command⟩

def inOrder (depth : Nat) : Reader Binding := do
  let short (n : Nat) : Reader Binding :=
    mismatch (.wrongLength n "struct KeyBinding with 2 elements")
  let some key ← fieldInOrder? true text | short 0
  let some command ← fieldInOrder? false (Command.read depth) | short 1
  pure ⟨key, command⟩

def read (depth : Nat) : Reader Binding :=
  recordOf "struct KeyBinding" Fields.visit ⟨none, none⟩ Fields.finish inOrder depth

end Binding

/-- Bindings in the order of their file, and the table that key presses are looked up in. -/
structure Bindings where
  list : List Binding
  table : List (KeyPattern × Command)
deriving DecidableEq

namespace Bindings

def tableOf (list : List Binding) : List (KeyPattern × Command) :=
  list.filterMap fun b ↦ (KeyPattern.parse b.key).toOption.map (·, b.command)

def ofList (list : List Binding) : Bindings := ⟨list, tableOf list⟩

/-- The command of a key press. Of several bindings the last counts. -/
def command? (b : Bindings) (e : KeyEvent) : Option Command :=
  (b.table.reverse.find? (·.1 = .ofEvent e)).map (·.2)

def standard : Bindings :=
  ofList
    [⟨"Up", .moveUp⟩, ⟨"Down", .moveDown⟩, ⟨"k", .moveUp⟩, ⟨"j", .moveDown⟩,
     ⟨"a", .apply⟩, ⟨"e", .toggleEdit⟩, ⟨"Ctrl+e", .toggleEdit⟩, ⟨"x", .dismiss⟩,
     ⟨"Delete", .dismiss⟩, ⟨"Tab", .nextReference⟩, ⟨"l", .nextReference⟩,
     ⟨"Shift+BackTab", .previousReference⟩, ⟨"h", .previousReference⟩,
     ⟨"Enter", .activateReference⟩, ⟨"q", .quit⟩, ⟨"Ctrl+c", .quit⟩]

def keysFor (b : Bindings) (c : Command) : List String :=
  (b.list.filter (·.command = c)).map (·.key)

def hint? (b : Bindings) (c : Command) : Option String := (b.keysFor c).head?

/-- The key shown next to a command while a text is edited, where only these get through. -/
def controlHint? (b : Bindings) (c : Command) : Option String :=
  (b.keysFor c).find? fun k ↦ "ctrl+".toList.isPrefixOf (Text.lowercase k).toList

def duplicateWarnings : List Binding → List Binding → List String
  | _, [] => []
  | seen, b :: rest =>
    match seen.find? (·.key = b.key) with
    | some first =>
      ("Duplicate key '" ++ b.key ++ "': bound to both " ++ first.command.name ++ " and " ++
        b.command.name) :: duplicateWarnings seen rest
    | none => duplicateWarnings (seen ++ [b]) rest

def unboundWarnings (list : List Binding) : List String :=
  (Command.all.filter fun c ↦ !list.any (·.command = c)).map (·.name ++ " has no keybinding")

def spellingWarnings (list : List Binding) : List String :=
  list.filterMap fun b ↦
    match KeyPattern.parse b.key with
    | .ok _ => none
    | .error fault =>
      some ("Invalid key pattern '" ++ b.key ++ "' for action " ++ b.command.name ++ ": " ++
        fault.message)

def warnings (b : Bindings) : List String :=
  duplicateWarnings [] b.list ++ unboundWarnings b.list ++ spellingWarnings b.list

def toValue (b : Bindings) : Value :=
  .object [("bindings", .array (b.list.map (·.toValue)))]

def visit (depth : Nat) (list : Option (List Binding)) (name : String) :
    Reader (Option (List Binding)) := do
  match name with
  | "bindings" => do return some (← once "bindings" list (listOf Binding.read depth))
  | _ => do skipMember; pure list

def inOrder (depth : Nat) : Reader (List Binding) := do
  let some list ← fieldInOrder? true (listOf Binding.read depth)
    | mismatch (.wrongLength 0 "struct KeyBindings with 1 element")
  pure list

def readList (depth : Nat) : Reader (List Binding) :=
  recordOf "struct KeyBindings" visit none (required "bindings") inOrder depth

/-- The bindings of a document as they stand there. Their table is empty until they are loaded. -/
def parse (s : String) : Except Json.Failure Bindings :=
  ((readList Json.Reader.maxDepth).run s).map (⟨·, []⟩)

def load (s : String) : Except Json.Failure Bindings :=
  (parse s).map fun b ↦ ofList b.list

end Bindings

end SuggestionReview
