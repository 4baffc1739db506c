import SuggestionReview.Editor.Document
import SuggestionReview.Keys.Pattern
import SuggestionReview.LogFile
import SuggestionReview.Review.Draw
import SuggestionReview.Screen.Canvas
import SuggestionReview.Settings.Basic
import SuggestionReview.Suggestion.Load

namespace SuggestionReview

inductive LogLevel where
  | error
  | warn
  | info
  | debug
  | trace
deriving DecidableEq

namespace LogLevel

def names : List (String × LogLevel) :=
  [("error", error), ("warn", warn), ("info", info), ("debug", debug), ("trace", trace)]

def shows : LogLevel → Severity → Bool
  | error, _ => false
  | warn, s => s = .warn
  | info, s => s ≠ .debug
  | debug, _ | trace, _ => true

end LogLevel

structure Arguments where
  suggestions : Option String
  settings : Option String
  output : Option String
  logging : LogLevel
deriving DecidableEq

namespace Arguments

def none : Arguments := ⟨.none, .none, .none, .warn⟩

def set (a : Arguments) (name value : String) : Except String Arguments :=
  match name with
  | "--suggestions" => .ok { a with suggestions := some value }
  | "--config" => .ok { a with settings := some value }
  | "--output" => .ok { a with output := some value }
  | "--logging" =>
    match LogLevel.names.lookup value with
    | some logging => .ok { a with logging }
    | .none => .error ("invalid value '" ++ value ++ "' for '--logging'")
  | _ => .error ("unexpected argument '" ++ name ++ "' found")

def ofList (a : Arguments) : List String → Except String Arguments
  | [] => .ok a
  | [name] => .error ("a value is required for '" ++ name ++ "' but none was supplied")
  | name :: value :: rest => do (← a.set name value).ofList rest

end Arguments

/-- The presses that a line of input stands for: one key by its spelling in a file of key bindings,
or else every character of the line. -/
def KeyEvent.ofLine (line : String) : List KeyEvent :=
  match KeyPattern.parse line with
  | .ok p => [.press p.code p.modifiers]
  | .error _ => line.toList.map fun c ↦ .press (.char c) .none

namespace Program

def environment : IO Environment := do
  let mut found : Environment := []
  for name in ["HOME", Environment.programName ++ "_DATA", Environment.programName ++ "_CONFIG"] do
    if let some value ← IO.getEnv name then
      found := found.insert name value
  return found

def fileAt (path : String) : IO Files := do
  try
    return [(path, .file (← IO.FS.readBinFile path))]
  catch _ =>
    return []

def measure (name : String) (default : Nat) : IO Nat := do
  return ((← IO.getEnv name).bind (·.toNat?)).getD default

/-- The settings, the standard ones when there is a fault. The file of a first run is written. -/
def settings (e : Environment) (path : Option String) : IO Settings := do
  let before ← fileAt (path.elim (Settings.usualPath e) e.expand)
  let (loaded, after) := Settings.load e before path
  for (name, entry) in after do
    if let (none, .file bytes) := (before.get? name, entry) then
      try IO.FS.writeBinFile name bytes
      catch _ => pure ()
  return loaded.toOption.getD .standard

def bindings (e : Environment) (s : Settings) : IO (Bindings × List Notice) := do
  let files ← s.bindingsPath.elim (pure []) (fileAt <| e.expand ·)
  match s.bindings e files with
  | (.ok b, notices) => return (b, notices)
  | (.error (.unreadable fault), _) => throw (IO.userError fault.message)
  | (.error (.malformed failure), _) => throw (IO.userError failure.message)

structure Log where
  output : IO.FS.Stream
  level : LogLevel

def Log.write (log : Log) (notices : List Notice) : IO Unit := do
  for n in notices do
    if log.level.shows n.severity then
      log.output.putStrLn n.line
  log.output.flush

def openLog (e : Environment) (level : LogLevel) : IO Log := do
  let path := Settings.inFolder (e.dataFolder?.getD "") LogSetup.defaultName
  let handle ← IO.FS.Handle.mk path .append
  return ⟨.ofHandle handle, level⟩

def display (log : Log) (width height : Nat) (l : Review DocumentEditor) :
    IO (Review DocumentEditor) := do
  let canvas := Canvas.blank width height
  match l.draw? canvas.area canvas with
  | some frame => do
    (← IO.getStdout).putStr (frame.canvas.terminalText ++ "\r\n")
    log.write frame.notices
    return frame.review
  | none => return l

def run (log : Log) (width height : Nat) (start : Review DocumentEditor) :
    IO (Review DocumentEditor) := do
  let input ← IO.getStdin
  let mut l := start
  repeat
    l ← display log width height l
    let line ← input.getLine
    if line.isEmpty then break
    for k in KeyEvent.ofLine (line.dropEndWhile fun c ↦ c = '\n' || c = '\r').toString do
      let (next, notices) := l.key k
      log.write notices
      l := next
    if l.quitting then break
    let (next, notices) := l.update
    log.write notices
    l := next
  return l

def review (a : Arguments) (path : String) : IO Unit := do
  let e ← environment
  let log ← openLog e a.logging
  let s ← settings e a.settings
  let (b, notices) ← bindings e s
  log.write notices
  let file ← match SuggestionFile.load (← fileAt path) path with
    | .ok file => pure file
    | .error failure => throw (IO.userError failure.message)
  let (l, notices) := Review.ofFile file s.palette b DocumentEditor.empty
  log.write notices
  let (l, notices) :=
    ((l.withNumbers s.showIndex).withBorders s.border).withViewer (.builtin s.codeLines)
  log.write notices
  let l ← run log (← measure "COLUMNS" 80) (← measure "LINES" 24) l
  if let some output := a.output then
    let reviewed := { file with suggestions := l.suggestions }
    IO.FS.writeFile output reviewed.toValue.pretty

end Program

end SuggestionReview

open SuggestionReview in
def main (args : List String) : IO UInt32 := do
  match Arguments.none.ofList args with
  | .ok a =>
    match a.suggestions with
    | some path => do
      Program.review a path
      return 0
    | none => do
      IO.eprintln "error: '--suggestions <PATH>' was not provided"
      return 2
  | .error fault => do
    IO.eprintln ("error: " ++ fault)
    return 2
