import SuggestionReview.Row.Basic

namespace SuggestionReview.Row

variable {ε ν : Type}

structure Outcome (ε : Type) (ν : Type := CodeView) where
  row : Row ε ν
  event : Option RowEvent
  notices : List Notice

def rest (r : Row ε ν) : Outcome ε ν := ⟨r, none, []⟩

def moveReference (r : Row ε ν) (forward : Bool) : Row ε ν :=
  let count := r.header.references.actionableCount
  { r with
    reference :=
      if count = 0 then none
      else
        match r.reference, forward with
        | none, true => some 0
        | none, false => some (count - 1)
        | some c, true => some ((c + 1) % count)
        | some c, false => some ((c + count - 1) % count) }

def chosen (r : Row ε ν) : Option ReferencePiece := r.reference.bind r.header.references.actionable

/-- Warns when a name is a column at another position than the one it leads to. -/
def columnNotices (r : Row ε ν) (piece : ReferencePiece) : List Notice :=
  match piece with
  | .reference name column =>
    if r.index.lookup name = some column then []
    else [.columnDisagrees name column (r.index.lookup name)]
  | _ => []

def followReference (r : Row ε ν) : Outcome ε ν :=
  match r.chosen with
  | none => r.rest
  | some piece =>
    match piece.column? with
    | some column => ⟨r, some (.navigate column), r.columnNotices piece ++ [.navigating column]⟩
    | none => r.rest

def toggleEdit [PayloadEditor ε] (r : Row ε ν) : Outcome ε ν :=
  let out := r.state.step .toggle r.capabilities.save
  let editor :=
    if !r.isEditing && out.state.isEditing then PayloadEditor.seed r.editor out.state.draft
    else r.editor
  ⟨{ r with state := out.state, editor }, none, out.notices⟩

def command [PayloadEditor ε] (r : Row ε ν) (c : Command) : Outcome ε ν :=
  match c with
  | .apply =>
    if r.applyControl = .visible then ⟨r, some .apply, [.applyRequested r.title]⟩ else r.rest
  | .dismiss =>
    if r.dismissControl = .visible then ⟨r, some .dismiss, [.dismissRequested r.title]⟩
    else r.rest
  | .toggleEdit => r.toggleEdit
  | .nextReference => (r.moveReference true).rest
  | .previousReference => (r.moveReference false).rest
  | .activateReference => r.followReference
  | .moveUp | .moveDown | .quit => r.rest

def editorEvent (r : Row ε ν) : Option EditorEvent → Outcome ε ν
  | none => r.rest
  | some (.draft payload) =>
    let out := r.state.step (.draft payload) r.capabilities.save
    ⟨{ r with state := out.state }, none, out.notices⟩
  | some (.save patch) =>
    let out := r.state.step (.save patch) r.capabilities.save
    ⟨{ r with state := out.state }, out.saved.map .save,
      out.notices ++ if out.saved.isSome then [.payloadSaved r.title] else []⟩

def editorKey [PayloadEditor ε] (r : Row ε ν) (k : KeyEvent) : Outcome ε ν :=
  let (editor, event) := PayloadEditor.key r.editor k
  { r with editor }.editorEvent event

def leavesEditor (r : Row ε ν) (k : KeyEvent) : Bool :=
  k.modifiers.control && r.bindings.command? k == some .toggleEdit

/-- Takes a key. While editing the editor gets everything except a control key that ends it. -/
def key [PayloadEditor ε] (r : Row ε ν) (k : KeyEvent) : Outcome ε ν :=
  if k.kind ≠ .press then r.rest
  else if r.isEditing then if r.leavesEditor k then r.command .toggleEdit else r.editorKey k
  else
    match r.bindings.command? k with
    | some c => r.command c
    | none => r.rest

def supported (r : Row ε ν) : List Command :=
  if r.isEditing then [.toggleEdit]
  else
    (if r.capabilities.apply && !r.loading then [.apply] else []) ++
      (if r.capabilities.save then [.toggleEdit] else []) ++
      (if r.capabilities.dismiss && !r.loading then [.dismiss] else []) ++
      (if 0 < r.header.references.actionableCount then
        [.nextReference, .previousReference, .activateReference]
      else [])

def hint (key label : String) : String := "[" ++ key ++ "] " ++ label

/-- The keys that do something, and what they do. While editing only control keys get past the
editor. -/
def hints (r : Row ε ν) : List String :=
  r.supported.filterMap fun c ↦
    if r.isEditing then (r.bindings.controlHint? c).map (hint · "view")
    else (r.bindings.hint? c).map (hint · c.description)

end SuggestionReview.Row
