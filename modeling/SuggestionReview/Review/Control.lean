import SuggestionReview.Review.Basic

namespace SuggestionReview.Review

variable {ε ν : Type}

def select (l : Review ε ν) (position : Nat) : Review ε ν :=
  if l.rows.isEmpty then { l with selected := 0 }
  else { l with selected := min position (l.rows.length - 1) }.syncFocus

def setRow (l : Review ε ν) (position : Nat) (r : Row ε ν) : Review ε ν :=
  { l with rows := l.rows.set position r }

def apply (l : Review ε ν) (position : Nat) (r : Row ε ν) : Review ε ν × List Notice :=
  ({ l.setRow position { r with loading := true } with
      pending :=
        if l.pending.any (·.position = position) then l.pending
        else l.pending ++ [⟨position, false⟩]
      status := some (.applying r.title) },
    [.applying r.title])

def save [PayloadEditor ε] (l : Review ε ν) (position : Nat) (r : Row ε ν) (payload : Payload) :
    Review ε ν × List Notice :=
  let (r', source, notices) := r.setProposal (r.proposal.withPayload ⟨l.fresh, payload⟩) l.source
  ({ l.setRow position r' with
      source
      fresh := l.fresh + 1
      status := some (.saved r.title) },
    notices)

/-- The suggestions being applied after the row at a position is gone. -/
def pendingWithout (position : Nat) (pending : List PendingApply) : List PendingApply :=
  (pending.filter (·.position ≠ position)).map fun p ↦
    if position < p.position then { p with position := p.position - 1 } else p

def dismiss (l : Review ε ν) (position : Nat) (r : Row ε ν) : Review ε ν × List Notice :=
  let rows := (l.rows.eraseIdx position).mapIdx fun i r ↦
    if position ≤ i then { r with position := i } else r
  let l := { l with rows, pending := pendingWithout position l.pending }.select l.selected
  ({ l with status := some (.dismissed r.title) }, [.dismissing r.title])

def navigate (l : Review ε ν) (r : Row ε ν) (column : Nat) : Review ε ν × List Notice :=
  match r.featureAt column with
  | some feature =>
    ({ l with status := some (.navigated column feature) }, [.navigated column feature])
  | none => ({ l with status := some (.unknownColumn column) }, [.navigatedOutside column])

def handle [PayloadEditor ε] (l : Review ε ν) (position : Nat) (e : RowEvent) :
    Review ε ν × List Notice :=
  match l.rows[position]? with
  | none => (l, [])
  | some r =>
    match e with
    | .apply => l.apply position r
    | .save payload => l.save position r payload
    | .dismiss => l.dismiss position r
    | .navigate column => l.navigate r column

def rowKey [PayloadEditor ε] (l : Review ε ν) (k : KeyEvent) : Review ε ν × List Notice :=
  match l.selectedRow with
  | none => (l, [])
  | some r =>
    let out := r.key k
    let l' := l.setRow l.selected out.row
    match out.event with
    | none => (l', out.notices)
    | some e =>
      let (l', notices) := l'.handle l.selected e
      (l', out.notices ++ notices)

def ownCommand? (l : Review ε ν) : Command → Option (Review ε ν)
  | .quit => some { l with quitting := true }
  | .moveUp => some (l.select (l.selected - 1))
  | .moveDown => some (l.select (l.selected + 1))
  | _ => none

/-- Takes a key. A row that is edited gets all of them. -/
def key [PayloadEditor ε] (l : Review ε ν) (k : KeyEvent) : Review ε ν × List Notice :=
  if k.kind ≠ .press then (l, [])
  else if l.isEditing then l.rowKey k
  else
    match (l.bindings.command? k).bind l.ownCommand? with
    | some l => (l, [])
    | none => l.rowKey k

def finishApply (l : Review ε ν) (position : Nat) : Review ε ν :=
  match l.rows[position]? with
  | none => l
  | some r =>
    { l.setRow position { r with loading := false } with status := some (.applied r.title) }

/-- What the review does from time to time: it ends applying what was drawn as busy, and looks for
code views. -/
def update (l : Review ε ν) : Review ε ν × List Notice :=
  let finished := l.pending.filter (·.drawn)
  let l := { l with pending := l.pending.filter (!·.drawn) }
  (finished.foldl (fun l p ↦ l.finishApply p.position) l).mapRows Row.update

end SuggestionReview.Review
