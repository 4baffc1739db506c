import SuggestionReview.Keys.Basic
import SuggestionReview.Text.Lowercase
import SuggestionReview.Text.Uppercase

namespace SuggestionReview

structure KeyPattern where
  code : KeyCode
  modifiers : Modifiers
  further : Bool := false
deriving DecidableEq

namespace KeyPattern

inductive Fault where
  | unknownModifier (name : String)
  | unknownKey (name : String)
deriving DecidableEq

def Fault.message : Fault → String
  | unknownModifier name => "Unknown modifier: " ++ name
  | unknownKey name => "Unknown key: " ++ name

def ofEvent (e : KeyEvent) : KeyPattern := ⟨e.code, e.modifiers, e.further⟩

def parts : List Char → List (List Char)
  | [] => [[]]
  | c :: rest =>
    if c = '+' then [] :: parts rest
    else
      match parts rest with
      | [] => [[c]]
      | part :: more => (c :: part) :: more

/-- The modifiers before the last plus sign, and the key after it. Where nothing follows the last
plus sign the whole text is the key. -/
def split (s : String) : List String × String :=
  match (parts s.toList).reverse with
  | [] | [] :: _ => ([], s)
  | key :: before => (before.reverse.map String.ofList, String.ofList key)

def modifier? (name : String) : Option Modifiers :=
  match Text.lowercase name with
  | "ctrl" => some ⟨true, false, false⟩
  | "alt" => some ⟨false, true, false⟩
  | "shift" => some ⟨false, false, true⟩
  | _ => none

def namedKey? : String → Option KeyCode
  | "up" => some .up
  | "down" => some .down
  | "left" => some .left
  | "right" => some .right
  | "home" => some .home
  | "end" => some .last
  | "tab" => some .tab
  | "backtab" => some .backTab
  | "enter" | "return" => some .enter
  | "esc" | "escape" => some .escape
  | "backspace" => some .backspace
  | "delete" | "del" => some .delete
  | "space" => some (.char ' ')
  | _ => none

/-- A key by its name in any case, or a single character. An upper case character needs shift. -/
def key? (name : String) : Option KeyPattern :=
  match namedKey? (Text.lowercase name) with
  | some code => some { code, modifiers := .none }
  | none =>
    match name.toList with
    | [c] => some { code := .char c, modifiers := ⟨false, false, Text.isUppercase c⟩ }
    | _ => none

def heldBy : List String → Except Fault Modifiers
  | [] => .ok .none
  | name :: rest =>
    match modifier? name with
    | none => .error (.unknownModifier name)
    | some m => (heldBy rest).map m.union

def parse (s : String) : Except Fault KeyPattern := do
  let (names, keyName) := split s
  let held ← heldBy names
  match key? keyName with
  | some pattern => .ok { pattern with modifiers := held.union pattern.modifiers }
  | none => .error (.unknownKey keyName)

end KeyPattern

end SuggestionReview
