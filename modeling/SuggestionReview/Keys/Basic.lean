import SuggestionReview.Json.Document

namespace SuggestionReview

/-- A key. What no binding and no text area has a use for is one of the others. -/
inductive KeyCode where
  | char (c : Char)
  | up
  | down
  | left
  | right
  | home
  | last
  | pageUp
  | pageDown
  | tab
  | backTab
  | enter
  | escape
  | backspace
  | delete
  | insert
  | function (n : Nat)
  | other (n : Nat)
deriving DecidableEq

namespace KeyCode

def names : List (String × KeyCode) :=
  [("Up", up), ("Down", down), ("Left", left), ("Right", right), ("Home", home), ("End", last),
   ("PageUp", pageUp), ("PageDown", pageDown), ("Tab", tab), ("BackTab", backTab),
   ("Enter", enter), ("Esc", escape), ("Backspace", backspace), ("Delete", delete),
   ("Insert", insert), ("F1", function 1)]

def name : KeyCode → String
  | char c => String.singleton c
  | up => "Up"
  | down => "Down"
  | left => "Left"
  | right => "Right"
  | home => "Home"
  | last => "End"
  | pageUp => "PageUp"
  | pageDown => "PageDown"
  | tab => "Tab"
  | backTab => "BackTab"
  | enter => "Enter"
  | escape => "Esc"
  | backspace => "Backspace"
  | delete => "Delete"
  | insert => "Insert"
  | function n => s!"F{n}"
  | other n => s!"Key{n}"

end KeyCode

structure Modifiers where
  control : Bool
  alt : Bool
  shift : Bool
deriving DecidableEq

namespace Modifiers

def none : Modifiers := ⟨false, false, false⟩

def union (a b : Modifiers) : Modifiers :=
  ⟨a.control || b.control, a.alt || b.alt, a.shift || b.shift⟩

end Modifiers

inductive KeyKind where
  | press
  | release
  | repeated
deriving DecidableEq

structure KeyEvent where
  code : KeyCode
  modifiers : Modifiers
  kind : KeyKind
  /-- Whether something else is held down that no binding spells: super, hyper or meta. -/
  further : Bool := false
deriving DecidableEq

namespace KeyEvent

def press (code : KeyCode) (modifiers : Modifiers) : KeyEvent := { code, modifiers, kind := .press }

end KeyEvent

inductive Command where
  | moveUp
  | moveDown
  | apply
  | toggleEdit
  | dismiss
  | nextReference
  | previousReference
  | activateReference
  | quit
deriving DecidableEq

namespace Command

def names : List (String × Command) :=
  [("MoveUp", moveUp), ("MoveDown", moveDown), ("Apply", apply), ("ToggleEdit", toggleEdit),
   ("Dismiss", dismiss), ("NextReference", nextReference), ("PrevReference", previousReference),
   ("ActivateReference", activateReference), ("Quit", quit)]

def all : List Command := names.map (·.2)

def name : Command → String
  | moveUp => "MoveUp"
  | moveDown => "MoveDown"
  | apply => "Apply"
  | toggleEdit => "ToggleEdit"
  | dismiss => "Dismiss"
  | nextReference => "NextReference"
  | previousReference => "PrevReference"
  | activateReference => "ActivateReference"
  | quit => "Quit"

def description : Command → String
  | moveUp => "previous action"
  | moveDown => "next action"
  | apply => "apply"
  | toggleEdit => "edit"
  | dismiss => "dismiss"
  | nextReference => "next column"
  | previousReference => "previous column"
  | activateReference => "go to column"
  | quit => "quit"

def read (depth : Nat) : Json.Reader Command := Json.Reader.variant names depth

end Command

end SuggestionReview
