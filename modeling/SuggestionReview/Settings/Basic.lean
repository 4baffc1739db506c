import SuggestionReview.Environment
import SuggestionReview.Json5.Document
import SuggestionReview.Keys.Bindings
import SuggestionReview.LogFile
import SuggestionReview.Settings.Convert

namespace SuggestionReview

structure Settings where
  showIndex : Bool
  border : Bool
  theme : Theme
  codeLines : Nat
  bindingsPath : Option String
deriving DecidableEq

inductive BindingsFault where
  | unreadable (fault : FileFault)
  | malformed (failure : Json.Failure)

namespace Settings

def standard : Settings where
  showIndex := true
  border := true
  theme := .dark
  codeLines := 10
  bindingsPath := none

/-- The file that a user starts from. It spells out the standard settings. -/
def template : String :=
  String.intercalate "\n"
    ["// Default settings for actiontui.",
     "// Copied to ~/.actiontui-config.json5 on first run; edit that file instead.",
     "\x7b",
     "  // Prefix each row with its 1-based position",
     "  \"show_idx\": true,",
     "  // Draw a separator line under every row",
     "  \"border\": true,",
     "  // \"dark\" or \"light\"",
     "  \"theme\": \"dark\",",
     "  // Lines shown by the built-in code viewer before clipping",
     "  \"code_max_lines\": 10,",
     "  // Optional JSON file with custom key bindings, e.g. \"~/.config/actiontui/keys.json\"",
     "  \"keybindings\": null,",
     "\x7d",
     ""]

def layText (origin : Option String) (old : Setting) (s : String) : Except SettingsFault Setting :=
  match Json5.parse s with
  | some (.object members) => .ok (lay origin old members)
  | _ => .error .malformed

def ofSetting (tree : Setting) : Except SettingsFault Settings := do
  let (_, entries) := Setting.asTable (some tree)
  let read {α : Type} (key : String) (convert : Setting → Except SettingsFault α) (default : α) :
      Except SettingsFault α :=
    match entries.get? key with
    | some s => convert s
    | none => .ok default
  let showIndex ← read "show_idx" (·.toBool "show_idx") standard.showIndex
  let border ← read "border" (·.toBool "border") standard.border
  let theme ← read "theme" Setting.toTheme standard.theme
  let codeLines ← read "code_max_lines" (·.toShortNat "code_max_lines") standard.codeLines
  let bindingsPath ← read "keybindings" (·.toText? "keybindings") standard.bindingsPath
  pure { showIndex, border, theme, codeLines, bindingsPath }

/-- The settings of a file laid over the template, given where it is from; of the template alone
when there is none. -/
def parse (user : Option (String × String)) : Except SettingsFault Settings := do
  let base ← layText none (.table none []) template
  let tree ← match user with
    | some (origin, s) => layText (some origin) base s
    | none => .ok base
  ofSetting tree

def inFolder (folder name : String) : String :=
  if folder = "" || folder.endsWith "/" then folder ++ name else folder ++ "/" ++ name

def usualPath (e : Environment) : String :=
  match e.settingsFolder?, e.home? with
  | some folder, _ => inFolder folder "config.json5"
  | none, some home => inFolder home ".actiontui-config.json5"
  | none, none => ".actiontui-config.json5"

def loadFrom (files : Files) (path : String) : Except SettingsFault Settings :=
  match files.text path with
  | .ok s => parse (some (path, s))
  | .error .notText => .error .notText
  | .error _ => .error (.notFound path)

def withTemplate (e : Environment) (files : Files) : Files :=
  let path := usualPath e
  match files.find path with
  | .ok _ => files
  | .error _ => files.insert path (.file template.toUTF8)

/-- Loads the usual file. One that cannot be read is passed over. -/
def loadUsual (e : Environment) (files : Files) : Except SettingsFault Settings :=
  let path := usualPath e
  parse ((files.text path).toOption.map (path, ·))

def load (e : Environment) (files : Files) : Option String → Except SettingsFault Settings × Files
  | some path => (loadFrom files (e.expand path), files)
  | none =>
    let files := withTemplate e files
    (loadUsual e files, files)

def palette (s : Settings) : Palette := .ofTheme s.theme

def bindings (s : Settings) (e : Environment) (files : Files) :
    Except BindingsFault Bindings × List Notice :=
  match s.bindingsPath with
  | none => (.ok .standard, [])
  | some path =>
    match files.text (e.expand path) with
    | .error fault => (.error (.unreadable fault), [])
    | .ok text =>
      match Bindings.load text with
      | .error failure => (.error (.malformed failure), [])
      | .ok b => (.ok b, b.warnings.map .bindings)

end Settings

end SuggestionReview
