import SuggestionReview.Basic

namespace SuggestionReview

abbrev Environment := Entries String

namespace Environment

def programName : String := "ACTIONTUI"

def dataFolder? (e : Environment) : Option String := e.get? (programName ++ "_DATA")

def settingsFolder? (e : Environment) : Option String := e.get? (programName ++ "_CONFIG")

def home? (e : Environment) : Option String := e.get? "HOME"

/-- A path in which a tilde in front stands for the user's own folder. -/
def expand (e : Environment) (path : String) : String :=
  match path.toList, e.home? with
  | '~' :: rest, some home => home ++ String.ofList rest
  | _, _ => path

end Environment

inductive FileEntry where
  | folder
  | file (bytes : ByteArray)

/-- The paths that lead anywhere. The folders on the way to an entry are there too. -/
abbrev Files := Entries FileEntry

inductive FileFault where
  | missing
  | folder
  | notFolder
  | longName
  | nulCharacter
  | notText
deriving DecidableEq

def FileFault.message : FileFault → String
  | missing => "No such file or directory (os error 2)"
  | folder => "Is a directory (os error 21)"
  | notFolder => "Not a directory (os error 20)"
  | longName => "File name too long (os error 36)"
  | nulCharacter => "file name contained an unexpected NUL byte"
  | notText => "stream did not contain valid UTF-8"

/-- Where a walk stands: the names from there back to the root, which has the empty name, or back to
the working folder. -/
abbrev Place := List String

namespace Place

def step (here : Place) (name : String) : Place :=
  if name = "" || name = "." then here
  else if name ≠ ".." then name :: here
  else
    match here with
    | [] | ".." :: _ => ".." :: here
    | [""] => here
    | _ :: rest => rest

def start (path : String) : Place :=
  if path.startsWith "/" then [""] else []

def names (path : String) : List String :=
  (path.toList.splitOn '/').map .ofList

def ofPath (path : String) : Place :=
  (names path).foldl step (start path)

/-- Whether the place is the root, the working folder or above it. -/
def isBase (place : Place) : Bool :=
  place.all fun name ↦ name = "" || name = ".."

end Place

namespace Files

def at? (files : Files) (place : Place) : Option FileEntry :=
  if place.isBase then some .folder
  else
    match files.find? (Place.ofPath ·.1 = place) with
    | some (_, entry) => some entry
    | none => if files.any (place.isSuffixOf <| Place.ofPath ·.1) then some .folder else none

def walk (files : Files) (here : Place) : List String → Except FileFault FileEntry
  | [] => .ok .folder
  | name :: rest =>
    let there := here.step name
    if 255 < name.utf8ByteSize then .error .longName
    else
      match files.at? there, rest with
      | none, _ => .error .missing
      | some .folder, _ => walk files there rest
      | some (.file bytes), [] => .ok (.file bytes)
      | some (.file _), _ :: _ => .error .notFolder

def find (files : Files) (path : String) : Except FileFault FileEntry :=
  if path.toList.contains '\x00' then .error .nulCharacter
  else if 4096 ≤ path.utf8ByteSize then .error .longName
  else if path = "" then .error .missing
  else walk files (.start path) (Place.names path)

def text (files : Files) (path : String) : Except FileFault String := do
  match ← files.find path with
  | .folder => .error .folder
  | .file bytes =>
    match String.fromUTF8? bytes with
    | some s => .ok s
    | none => .error .notText

end Files

end SuggestionReview
