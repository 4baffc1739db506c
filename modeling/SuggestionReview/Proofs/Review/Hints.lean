import SuggestionReview.Editor.Document
import SuggestionReview.Proofs.Keys.Bindings
import SuggestionReview.Proofs.Review.Carried

namespace SuggestionReview

def Command.caption (c : Command) (editing : Bool) : String :=
  if editing then "view" else c.description

namespace Row

variable {ε ν : Type} {r : Row ε ν} {c : Command} {k : KeyEvent}

theorem hints_eq (r : Row ε ν) : r.hints = r.supported.filterMap fun c ↦
    (r.bindings.shownKey? r.isEditing c).map (hint · (c.caption r.isEditing)) := by
  cases he : r.isEditing <;> simp [hints, he, Bindings.shownKey?, Command.caption]

variable [PayloadEditor ε]

theorem key_eq_command (hkind : k.kind = .press) (hc : r.bindings.command? k = some c)
    (hedited : r.isEditing = true → c = .toggleEdit ∧ k.modifiers.control = true) :
    r.key k = r.command c := by
  cases he : r.isEditing with
  | false => simp [key, hkind, he, hc]
  | true =>
    -- the editor gets every other key
    obtain ⟨rfl, hcontrol⟩ := hedited he
    simp [key, hkind, he, leavesEditor, hcontrol, hc]

end Row

namespace Review

variable {ε ν : Type} {l l' : Review ε ν} {b : Bindings} {c : Command}

structure Bound (l : Review ε ν) (b : Bindings) : Prop where
  review : l.bindings = b
  rows : ∀ r ∈ l.rows, r.bindings = b

def offered (l : Review ε ν) : List Command :=
  (l.selectedRow.map (·.supported)).getD [] ++ if l.isEditing then [] else [.quit]

theorem eq_toggleEdit_of_offered (he : l.isEditing = true) (hc : c ∈ l.offered) :
    c = .toggleEdit := by
  obtain ⟨r, hr, hediting⟩ := (Option.any_eq_true _ _).1 he
  simpa [offered, hr, he, Row.supported, hediting] using hc

theorem Bound.hints_eq (h : l.Bound b) : l.hints = l.offered.filterMap fun c ↦
    (b.shownKey? l.isEditing c).map (Row.hint · (c.caption l.isEditing)) := by
  have hquit : (if l.isEditing then [] else
      (l.bindings.hint? .quit).toList.map (Row.hint · Command.quit.description)) =
      (if l.isEditing then [] else [Command.quit]).filterMap fun c ↦
        (b.shownKey? l.isEditing c).map (Row.hint · (c.caption l.isEditing)) := by
    rw [h.review]
    cases l.isEditing with
    | true => rfl
    | false => cases hkey : b.hint? .quit <;> simp [Bindings.shownKey?, Command.caption, hkey]
  rw [hints, hquit, offered, List.filterMap_append]
  congr 1
  cases hr : l.selectedRow with
  | none => rfl
  | some r =>
    have hbindings : r.bindings = b := h.rows r (List.mem_of_getElem? hr)
    rw [isEditing_of_selectedRow hr, ← hbindings]
    exact r.hints_eq

theorem bindings_select (l : Review ε ν) (position : Nat) :
    (l.select position).bindings = l.bindings := by
  rw [select_eq]
  rfl

theorem bindings_update (l : Review ε ν) : l.update.1.bindings = l.bindings := by
  obtain ⟨rows, source, status, -, heq⟩ := update_eq Row.shown_loadViewer l
  rw [heq]

theorem bindings_built [Viewer ν]
    (f : SuggestionFile) (palette : Palette) (b : Bindings) (editor : ε)
    (choices : List (Choice ν)) : (built f palette b editor choices).bindings = b := by
  obtain ⟨rows, source, heq⟩ := built_eq f palette b editor choices
  rw [heq]
  rfl

variable [PayloadEditor ε]

theorem bindings_handle (l : Review ε ν) (i : Nat) (e : RowEvent) :
    (l.handle i e).1.bindings = l.bindings := by
  unfold handle
  split
  · rfl
  · cases e with
    | apply | save => rfl
    | dismiss => exact bindings_select _ l.selected
    | navigate column =>
      simp only [navigate]
      split <;> rfl

theorem bindings_key (l : Review ε ν) (k : KeyEvent) : (l.key k).1.bindings = l.bindings := by
  have hkeyed := l.keyed_key k
  generalize (l.key k).1 = l' at hkeyed
  cases hkeyed with
  | ignored | quit | worked => rfl
  | moved position => exact l.bindings_select position
  | answered r e => exact bindings_handle _ l.selected e

theorem bindings_draw [Viewer ν]
    {a : Area} {c : Canvas} {f : Frame ε ν} (hf : l.draw? a c = some f) :
    f.review.bindings = l.bindings := by
  obtain ⟨rows, source, offset, -, heq⟩ := draw_eq Row.shown_draw .refl hf
  rw [heq]

variable {f : SuggestionFile} {palette : Palette} {editor : ε} {choices : List (Choice ν)}
  {hs : List Happening}

theorem bound_run? [Viewer ν] (h : (built f palette b editor choices).run? hs = some l) :
    l.Bound b where
  review :=
    run?_keeps (I := fun l ↦ l.bindings = b) (fun m k hm ↦ (m.bindings_key k).trans hm)
      (fun m hm ↦ m.bindings_update.trans hm) (fun _ _ _ _ hf hm ↦ (bindings_draw hf).trans hm)
      (bindings_built f palette b editor choices) h
  rows _ hr := (Row.Setting.mk.inj (setting_run? h hr)).2.2

def follow (l : Review ε ν) (out : Row.Outcome ε ν) : Review ε ν × List Notice :=
  let l' := l.setRow l.selected out.row
  match out.event with
  | none => (l', out.notices)
  | some e =>
    let (l', notices) := l'.handle l.selected e
    (l', out.notices ++ notices)

def command (l : Review ε ν) (c : Command) : Review ε ν × List Notice :=
  match l.ownCommand? c with
  | some l => (l, [])
  | none =>
    match l.selectedRow with
    | none => (l, [])
    | some r => l.follow (r.command c)

theorem rowKey_eq_follow {r : Row ε ν} (hr : l.selectedRow = some r) (k : KeyEvent) :
    l.rowKey k = l.follow (r.key k) := by
  rw [rowKey, hr]
  rfl

theorem Bound.key_eq_command (h : l.Bound b) {k : KeyEvent} (hkind : k.kind = .press)
    (hc : b.command? k = some c)
    (hedited : l.isEditing = true → c = .toggleEdit ∧ k.modifiers.control = true) :
    l.key k = l.command c := by
  -- only what the review does not do itself gets to the row
  have hrow : l.ownCommand? c = none → l.rowKey k = l.command c := by
    intro hown
    cases hr : l.selectedRow with
    | none => simp [rowKey, command, hown, hr]
    | some r =>
      have hbindings : r.bindings = b := h.rows r (List.mem_of_getElem? hr)
      rw [isEditing_of_selectedRow hr] at hedited
      have hkey : r.key k = r.command c := Row.key_eq_command hkind (hbindings ▸ hc) hedited
      rw [rowKey_eq_follow hr, hkey]
      simp [command, hown, hr]
  cases he : l.isEditing with
  | true =>
    obtain ⟨rfl, -⟩ := hedited he
    rw [← hrow rfl]
    simp [key, hkind, he]
  | false =>
    cases hown : l.ownCommand? c with
    | none =>
      rw [← hrow hown]
      simp [key, hkind, he, h.review, hc, hown]
    | some l' => simp [key, command, hkind, he, h.review, hc, hown]

/-- In every review with unambiguous bindings that is reached by keys, ticks and frames, the keys
shown are those of the commands on offer, and each of them has exactly the effect of the command
that it is shown for, whether the selected row is edited or not. -/
theorem hints_run? [Viewer ν] {list : List Binding} (hlist : Bindings.Unambiguous list)
    (h : (built f palette (.ofList list) editor choices).run? hs = some l) :
    (l.hints = l.offered.filterMap fun c ↦
      ((Bindings.ofList list).shownKey? l.isEditing c).map
        (Row.hint · (c.caption l.isEditing))) ∧
      ∀ c ∈ l.offered, ∀ key, (Bindings.ofList list).shownKey? l.isEditing c = some key →
        ∃ p, KeyPattern.parse key = .ok p ∧ l.key (.press p.code p.modifiers) = l.command c := by
  have hbound := bound_run? h
  refine ⟨hbound.hints_eq, fun c hc key hkey ↦ ?_⟩
  obtain ⟨p, hp, hcontrol, hcommand⟩ := hlist.command?_of_shownKey? hkey
  refine ⟨p, hp, hbound.key_eq_command rfl hcommand fun he ↦ ?_⟩
  exact ⟨eq_toggleEdit_of_offered he hc, hcontrol he⟩

/-- The only key that the standard bindings show while a row is edited ends editing. -/
theorem hints_run?_standard :
    ∃ l ∈ (built (.sums 1) .dark .standard DocumentEditor.empty []).run?
        [.key (.press (.char 'e') .none)],
      l.hints = ["[Ctrl+e] view"] ∧
        l.key (.press (.char 'e') ⟨true, false, false⟩) = l.command .toggleEdit := by
  have hrun : ∃ l ∈ (built (.sums 1) .dark .standard DocumentEditor.empty []).run?
      [.key (.press (.char 'e') .none)], l.isEditing = true ∧ l.offered = [.toggleEdit] := by
    decide +kernel
  have hnamed : Bindings.standard.shownKey? true .toggleEdit = some "Ctrl+e" := by decide +kernel
  have hparse : KeyPattern.parse "Ctrl+e" = .ok ⟨.char 'e', ⟨true, false, false⟩, false⟩ := by
    decide +kernel
  obtain ⟨l, hl, he, hoffered⟩ := hrun
  obtain ⟨hhints, heffect⟩ := hints_run? Bindings.unambiguous_standard hl
  rw [he, hoffered] at hhints heffect
  obtain ⟨p, hp, heffect⟩ := heffect _ (List.mem_singleton_self _) _ hnamed
  obtain rfl := Except.ok.inj (hparse.symm.trans hp)
  refine ⟨l, hl, ?_, heffect⟩
  rw [hhints]
  exact congrArg (fun key ↦ (key.map (Row.hint · "view")).toList) hnamed

end Review

end SuggestionReview
