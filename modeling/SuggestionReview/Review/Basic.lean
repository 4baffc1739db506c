import SuggestionReview.Row.Control
import SuggestionReview.Suggestion.Load

namespace SuggestionReview

inductive Status where
  | applying (title : String)
  | applied (title : String)
  | saved (title : String)
  | dismissed (title : String)
  | navigated (column : Nat) (feature : String)
  | unknownColumn (column : Nat)
deriving DecidableEq

namespace Status

def quote (title : String) : String := "'" ++ title ++ "'"

def text : Status → String
  | applying title => "Applying " ++ quote title ++ "..."
  | applied title => "Applied " ++ quote title
  | saved title => "Saved " ++ quote title
  | dismissed title => "Dismissed " ++ quote title
  | navigated column feature => s!"Go to column {column} (" ++ feature ++ ")"
  | unknownColumn column => s!"Column {column} is not a known feature"

end Status

/-- A suggestion that is being applied, by the position of its row. It stays busy until a frame has
been drawn. -/
structure PendingApply where
  position : Nat
  drawn : Bool
deriving DecidableEq

structure Review (ε : Type) (ν : Type := CodeView) where
  features : List Feature
  mapping : FeatureMapping
  rows : List (Row ε ν)
  selected : Nat
  offset : Nat
  pending : List PendingApply
  bindings : Bindings
  palette : Palette
  status : Option Status
  quitting : Bool
  source : ViewerSource ν
  /-- An identity that no payload has yet. -/
  fresh : Nat

namespace Review

variable {ε ν : Type}

def forRows (f : Row ε ν → ViewerSource ν → Row ε ν × ViewerSource ν × List Notice) :
    List (Row ε ν) → ViewerSource ν → List (Row ε ν) × ViewerSource ν × List Notice
  | [], source => ([], source, [])
  | r :: rest, source =>
    let (r, source, notices) := f r source
    let (rest, source, more) := forRows f rest source
    (r :: rest, source, notices ++ more)

def mapRows
    (l : Review ε ν) (f : Row ε ν → ViewerSource ν → Row ε ν × ViewerSource ν × List Notice) :
    Review ε ν × List Notice :=
  let (rows, source, notices) := forRows f l.rows l.source
  ({ l with rows, source }, notices)

def syncFocus (l : Review ε ν) : Review ε ν :=
  { l with rows := l.rows.mapIdx fun i r ↦ { r with focused := i == l.selected } }

def newRow (f : SuggestionFile) (palette : Palette) (bindings : Bindings) (editor : ε)
    (position : Nat) (s : Suggestion) : Row ε ν :=
  { Row.mount ⟨s, position⟩ f.features f.effectiveMapping position palette editor with
    capabilities := .all
    bindings }

def ofFile [Viewer ν] (f : SuggestionFile) (palette : Palette) (bindings : Bindings) (editor : ε) :
    Review ε ν × List Notice :=
  let rows := f.suggestions.mapIdx (newRow f palette bindings editor)
  let (rows, source, notices) := forRows Row.loadViewer rows (.builtin 0)
  (syncFocus
    { features := f.features
      mapping := f.effectiveMapping
      rows
      selected := 0
      offset := 0
      pending := []
      bindings
      palette
      status := none
      quitting := false
      source
      fresh := f.suggestions.length },
    (if f.disagrees then [.mappingDisagrees] else []) ++ notices)

def withNumbers (l : Review ε ν) (numbered : Bool) : Review ε ν :=
  { l with rows := l.rows.map ({ · with numbered }) }

def withBorders (l : Review ε ν) (bordered : Bool) : Review ε ν :=
  { l with rows := l.rows.map ({ · with bordered }) }

def withCapabilities (l : Review ε ν) (capabilities : Capabilities) : Review ε ν :=
  { l with rows := l.rows.map ({ · with capabilities }) }

def withViewer (l : Review ε ν) (source : ViewerSource ν) : Review ε ν × List Notice :=
  { l with source }.mapRows Row.setViewer

def selectedRow (l : Review ε ν) : Option (Row ε ν) := l.rows[l.selected]?

def isEditing (l : Review ε ν) : Bool := l.selectedRow.any (·.isEditing)

def suggestions (l : Review ε ν) : List Suggestion := l.rows.map (·.suggestion)

def deliver (l : Review ε ν) (result : LoadResult ν) (load : Nat := 0) : Review ε ν × Bool :=
  let (source, reached) := l.source.deliver (l.rows.any (·.viewer.isWaiting load)) result load
  ({ l with source }, reached)

def hints (l : Review ε ν) : List String :=
  (l.selectedRow.map (·.hints)).getD [] ++
    if l.isEditing then []
    else (l.bindings.hint? .quit).toList.map (Row.hint · Command.quit.description)

end Review

end SuggestionReview
