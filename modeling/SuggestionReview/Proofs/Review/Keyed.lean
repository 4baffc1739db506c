import SuggestionReview.Proofs.Review.Rows

namespace SuggestionReview.Review

variable {ε ν : Type} {l : Review ε ν}

/-- The row that a key gets to. -/
def reached? (l : Review ε ν) (k : KeyEvent) : Option (Row ε ν) :=
  if k.kind ≠ .press then none
  else if !l.isEditing && ((l.bindings.command? k).bind l.ownCommand?).isSome then none
  else l.selectedRow

theorem selectedRow_of_reached {l : Review ε ν} {k : KeyEvent} {r : Row ε ν}
    (h : l.reached? k = some r) : l.selectedRow = some r := by
  unfold reached? at h
  split at h
  · exact absurd h nofun
  · split at h
    · exact absurd h nofun
    · exact h

theorem isEditing_of_selectedRow {r : Row ε ν} (hr : l.selectedRow = some r) :
    l.isEditing = r.isEditing := by
  rw [isEditing, hr, Option.any_some]

variable [PayloadEditor ε]

def answer? (l : Review ε ν) (k : KeyEvent) : Option RowEvent :=
  (l.reached? k).bind fun r ↦ (r.key k).event

inductive Keyed (l : Review ε ν) (k : KeyEvent) : Review ε ν → Prop
  | ignored (hk : l.reached? k = none) : Keyed l k l
  | quit (hk : l.reached? k = none) (he : l.isEditing = false) : Keyed l k { l with quitting := true }
  | moved (position : Nat) (hk : l.reached? k = none) (he : l.isEditing = false) :
    Keyed l k (l.select position)
  | worked (r : Row ε ν) (hk : l.reached? k = some r) (he : (r.key k).event = none) :
    Keyed l k (l.setRow l.selected (r.key k).row)
  | answered
      (r : Row ε ν) (e : RowEvent) (hk : l.reached? k = some r) (he : (r.key k).event = some e) :
    Keyed l k ((l.setRow l.selected (r.key k).row).handle l.selected e).1

theorem keyed_rowKey {k : KeyEvent} (hk : l.reached? k = l.selectedRow) :
    Keyed l k (l.rowKey k).1 := by
  unfold rowKey
  split
  · next h => exact .ignored (hk.trans h)
  · next r h =>
    simp only
    split
    · next he => exact .worked r (hk.trans h) he
    · next e he => exact .answered r e (hk.trans h) he

theorem keyed_key (l : Review ε ν) (k : KeyEvent) : Keyed l k (l.key k).1 := by
  unfold key
  split
  · next h => exact .ignored (if_pos h)
  · next h =>
    split
    · next he => exact keyed_rowKey (by simp [reached?, h, he])
    · next he =>
      have he : l.isEditing = false := Bool.eq_false_iff.2 he
      split
      · next m hm =>
        have hk : l.reached? k = none := by simp [reached?, h, he, hm]
        obtain ⟨c, -, hc⟩ := Option.bind_eq_some_iff.1 hm
        cases c with
        | quit =>
          obtain rfl := Option.some.inj hc
          exact .quit hk he
        | moveUp | moveDown =>
          obtain rfl := Option.some.inj hc
          exact .moved _ hk he
        | _ => exact absurd hc nofun
      · next hm => exact keyed_rowKey (by simp [reached?, h, he, hm])

end SuggestionReview.Review
