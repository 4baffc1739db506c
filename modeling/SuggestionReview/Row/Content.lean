import SuggestionReview.LogFile
import SuggestionReview.Suggestion.Basic

namespace SuggestionReview

/-- A payload that was handed over. Two hand-overs of equal payloads have different identities. -/
structure Committed where
  identity : Nat
  payload : Payload

inductive RowMode where
  | view
  | editing
deriving DecidableEq

namespace RowMode

def name : RowMode → String
  | view => "View"
  | editing => "Editing"

def toggle : RowMode → RowMode
  | view => editing
  | editing => view

end RowMode

structure EditState where
  mode : RowMode
  draft : Payload
  committed : Committed

inductive EditStep where
  | toggle
  | supply (payload : Committed)
  | draft (payload : Payload)
  | save (patch : Patch)

namespace EditState

def mount (committed : Committed) : EditState :=
  ⟨.view, committed.payload, committed⟩

def isEditing (s : EditState) : Bool := s.mode == .editing

structure Outcome where
  state : EditState
  saved : Option Payload
  notices : List Notice

/-- Runs one step. Editing can be started or ended only where saving is possible. A new identity
replaces the draft, whatever its payload is. -/
def step (s : EditState) (t : EditStep) (canSave : Bool) : Outcome :=
  match t with
  | .toggle =>
    if canSave then
      let mode := s.mode.toggle
      ⟨{ s with mode }, none, [.modeToggled mode.name]⟩
    else ⟨s, none, [.toggleRefused]⟩
  | .supply given =>
    if given.identity = s.committed.identity then ⟨s, none, []⟩
    else
      let lost := s.isEditing && !s.draft.agrees s.committed.payload
      ⟨{ s with draft := given.payload, committed := given }, none,
        if lost then [.draftDiscarded] else []⟩
  | .draft payload =>
    if s.isEditing then ⟨{ s with draft := payload }, none, []⟩ else ⟨s, none, [.draftIgnored]⟩
  | .save patch =>
    if s.isEditing then
      let merged := s.draft.merge patch
      ⟨s, some merged, [.saving merged.actionType.name]⟩
    else ⟨s, none, [.saveIgnored]⟩

end EditState

inductive RowContent where
  | editor (draft : Payload)
  | message (text : String)
  | options (options : Options)
  | code (text : String)
  | empty

namespace RowContent

/-- The content of a row that is not edited: the message, or else the options, or else the code. -/
def ofSuggestion (s : Suggestion) : RowContent :=
  match s.messageText with
  | some text => message text
  | none =>
    match s.payload.someOptions with
    | some o => options o
    | none =>
      match s.payload.codeText with
      | some c => code c
      | none => empty

def select (s : Suggestion) (state : EditState) : RowContent :=
  if state.isEditing then editor state.draft else ofSuggestion s

end RowContent

structure RowHeader where
  title : String
  references : References
deriving DecidableEq

namespace RowHeader

def build (s : Suggestion) (mapping : FeatureMapping) : RowHeader :=
  ⟨s.title, .build s.payload.arguments mapping⟩

def hasColon (h : RowHeader) : Bool := !h.references.isEmpty

def plainText (h : RowHeader) : String :=
  if h.hasColon then h.title ++ ": " ++ h.references.plainText else h.title

end RowHeader

end SuggestionReview
