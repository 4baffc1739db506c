import SuggestionReview.Editor.Document
import SuggestionReview.Keys.Bindings
import SuggestionReview.Row.Content
import SuggestionReview.Viewer.Slot

namespace SuggestionReview

structure Capabilities where
  apply : Bool
  /-- Saving edits, without which nothing can be edited. -/
  save : Bool
  dismiss : Bool
deriving DecidableEq

namespace Capabilities

def none : Capabilities := ⟨false, false, false⟩

def all : Capabilities := ⟨true, true, true⟩

end Capabilities

/-- Whether a control is offered. A busy one is shown but does nothing. -/
inductive Affordance where
  | hidden
  | visible
  | busy
deriving DecidableEq

namespace Affordance

def of (present loading : Bool) : Affordance :=
  if present then if loading then busy else visible else hidden

end Affordance

inductive RowEvent where
  | apply
  | dismiss
  | navigate (column : Nat)
  | save (payload : Payload)

structure Proposal where
  suggestion : Suggestion
  identity : Nat

namespace Proposal

def payload (p : Proposal) : Committed := ⟨p.identity, p.suggestion.payload⟩

def withPayload (p : Proposal) (given : Committed) : Proposal :=
  ⟨{ p.suggestion with payload := given.payload }, given.identity⟩

end Proposal

structure Row (ε : Type) (ν : Type := CodeView) where
  proposal : Proposal
  features : List Feature
  mapping : FeatureMapping
  position : Nat
  numbered : Bool
  bordered : Bool
  loading : Bool
  capabilities : Capabilities
  state : EditState
  header : RowHeader
  index : FeatureIndex
  /-- The reference in the header that is chosen, counting only those that lead somewhere. -/
  reference : Option Nat
  editor : ε
  viewer : ViewerSlot ν
  palette : Palette
  bindings : Bindings
  focused : Bool

namespace Row

variable {ε ν : Type}

def suggestion (r : Row ε ν) : Suggestion := r.proposal.suggestion

def title (r : Row ε ν) : String := r.suggestion.title

def isEditing (r : Row ε ν) : Bool := r.state.isEditing

def content (r : Row ε ν) : RowContent := .select r.suggestion r.state

def featureAt (r : Row ε ν) (column : Nat) : Option String := r.index.ids[column]?

def mount (proposal : Proposal) (features : List Feature) (mapping : FeatureMapping)
    (position : Nat) (palette : Palette) (editor : ε) : Row ε ν where
  proposal
  features
  mapping
  position
  numbered := false
  bordered := false
  loading := false
  capabilities := .none
  state := .mount proposal.payload
  header := .build proposal.suggestion mapping
  index := .ofFeatures features
  reference := none
  editor
  viewer := .idle
  palette
  bindings := .standard
  focused := false

/-- Starts loading the code view when code is shown, and looks whether it is there. -/
def loadViewer (r : Row ε ν) (source : ViewerSource ν) : Row ε ν × ViewerSource ν × List Notice :=
  match r.content with
  | .code _ =>
    let (viewer, source, notices) := r.viewer.load source
    ({ r with viewer }, source, notices)
  | _ => (r, source, [])

def update (r : Row ε ν) (source : ViewerSource ν) : Row ε ν × ViewerSource ν × List Notice :=
  r.loadViewer source

def setViewer (r : Row ε ν) (source : ViewerSource ν) : Row ε ν × ViewerSource ν × List Notice :=
  { r with viewer := .idle }.loadViewer source

/-- Builds the header again. A chosen reference that is gone is not chosen any more. -/
def refreshHeader (r : Row ε ν) : Row ε ν :=
  let header := RowHeader.build r.suggestion r.mapping
  { r with
    header
    reference := r.reference.filter (· < header.references.actionableCount) }

def setFeatures (r : Row ε ν) (features : List Feature) (mapping : FeatureMapping) : Row ε ν :=
  { r with features, mapping, index := .ofFeatures features }.refreshHeader

def setMapping (r : Row ε ν) (mapping : FeatureMapping) : Row ε ν :=
  { r with mapping }.refreshHeader

/-- Hands over the suggestion again. A payload of another identity replaces the draft, also in the
editor. -/
def setProposal [PayloadEditor ε] (r : Row ε ν) (proposal : Proposal) (source : ViewerSource ν) :
    Row ε ν × ViewerSource ν × List Notice :=
  let replaced := proposal.identity ≠ r.state.committed.identity
  let out := r.state.step (.supply proposal.payload) r.capabilities.save
  let editor :=
    if replaced && out.state.isEditing then PayloadEditor.seed r.editor out.state.draft
    else r.editor
  let r := { r with state := out.state, editor, proposal }.refreshHeader
  let (r, source, loaded) := r.loadViewer source
  (r, source, out.notices ++ loaded)

def applyControl (r : Row ε ν) : Affordance := .of r.capabilities.apply r.loading

def dismissControl (r : Row ε ν) : Affordance := .of r.capabilities.dismiss r.loading

def label (r : Row ε ν) : Option String :=
  if r.numbered then some (toString (r.position + 1) ++ ".") else none

end Row

structure RowFace where
  apply : Affordance
  label : Option String
  header : RowHeader
  content : RowContent
  edit : Bool
  dismiss : Affordance

namespace Row

variable {ε ν : Type}

def face (r : Row ε ν) : RowFace where
  apply := r.applyControl
  label := r.label
  header := r.header
  content := r.content
  edit := r.capabilities.save
  dismiss := r.dismissControl

end Row

end SuggestionReview
