import SuggestionReview.Proofs.Review.Hints
import SuggestionReview.Proofs.Review.Leaving
import SuggestionReview.Proofs.Row.Enabled

namespace SuggestionReview

theorem Bindings.exists_hint? {list : List Binding} {c : Command}
    (h : ∃ b ∈ list, b.command = c) : ∃ s, (ofList list).hint? c = some s := by
  obtain ⟨b, hb, hcommand⟩ := h
  have hmem : b.key ∈ (ofList list).keysFor c := mem_keysFor.2 ⟨b, hb, hcommand, rfl⟩
  cases hkeys : (ofList list).keysFor c with
  | nil => exact absurd (hkeys ▸ hmem) List.not_mem_nil
  | cons s rest => exact ⟨s, by rw [hint?, hkeys, List.head?_cons]⟩

namespace Row

variable {ε ν : Type} {r : Row ε ν} {key key' label label' text : String}

/-- A key and what it is for can be told apart again, as long as one knows how long the latter is. -/
theorem hint_inj (h : hint key label = hint key' label')
    (hlength : label.toList.length = label'.toList.length) : key = key' ∧ label = label' := by
  have hchars := congrArg String.toList h
  simp only [hint, String.toList_append] at hchars
  have hlabel : label = label' := String.toList_inj.1 (List.append_inj_right' hchars hlength)
  subst hlabel
  have hkey : "[" ++ key = "[" ++ key' :=
    (String.append_left_inj _).1 ((String.append_left_inj _).1 h)
  exact ⟨(String.append_right_inj _).1 hkey, rfl⟩

theorem head?_hint (key label : String) : (hint key label).toList.head? = some '[' := by
  simp [hint]

theorem hint_ne (h : text.toList.head? ≠ some '[') : hint key label ≠ text := by
  intro htext
  exact h (htext ▸ head?_hint key label)

theorem head?_blank (text : String) : (" " ++ text).toList.head? ≠ some '[' := by
  simp

def controlTexts (r : Row ε ν) : List String := r.controlSpans.map (·.text)

inductive Drawn (r : Row ε ν) : String → Prop
  | edit (he : r.isEditing = false) :
    Drawn r (hint ((r.bindings.hint? .toggleEdit).getD "e") "edit")
  | view (he : r.isEditing = true) : Drawn r (hint r.bindings.leavingKey "view")
  | dismiss (hd : r.dismissControl = .visible) :
    Drawn r (" " ++ hint ((r.bindings.hint? .dismiss).getD "x") "dismiss")
  | busy : Drawn r " [...]"

theorem drawn_of_mem (h : text ∈ r.controlTexts) : r.Drawn text := by
  obtain ⟨span, hspan, rfl⟩ := List.mem_map.1 h
  rcases List.mem_append.1 hspan with hedit | hdismiss
  · cases he : r.isEditing with
    | true =>
      cases hs : r.capabilities.save with
      | true =>
        rw [editSpans_of_editing he hs, List.mem_singleton] at hedit
        exact hedit ▸ .view he
      | false => simp [editSpans, hs] at hedit
    | false =>
      have hmode : r.state.mode = .view := by
        cases hmode : r.state.mode with
        | view => rfl
        | editing => simp [isEditing, EditState.isEditing, hmode] at he
      simp only [editSpans, hmode] at hedit
      split at hedit
      · rw [List.mem_singleton] at hedit
        exact hedit ▸ .edit he
      · exact absurd hedit List.not_mem_nil
  · unfold dismissSpans at hdismiss
    split at hdismiss
    · next hd =>
      rw [List.mem_singleton] at hdismiss
      exact hdismiss ▸ .dismiss hd
    · rw [List.mem_singleton] at hdismiss
      exact hdismiss ▸ .busy
    · exact absurd hdismiss List.not_mem_nil

theorem eq_of_draws_edit (h : hint key "edit" ∈ r.controlTexts) :
    r.isEditing = false ∧ key = (r.bindings.hint? .toggleEdit).getD "e" := by
  have hdrawn := drawn_of_mem h
  generalize htext : hint key "edit" = text at hdrawn
  cases hdrawn with
  | edit he => exact ⟨he, (hint_inj htext rfl).1⟩
  | view he =>
    have hlabel : "edit" = "view" := (hint_inj htext rfl).2
    exact absurd hlabel (by decide)
  | dismiss hd => exact absurd htext (hint_ne (head?_blank _))
  | busy => exact absurd htext (hint_ne (by decide))

theorem eq_of_draws_view (h : hint key "view" ∈ r.controlTexts) :
    r.isEditing = true ∧ key = r.bindings.leavingKey := by
  have hdrawn := drawn_of_mem h
  generalize htext : hint key "view" = text at hdrawn
  cases hdrawn with
  | edit he =>
    have hlabel : "view" = "edit" := (hint_inj htext rfl).2
    exact absurd hlabel (by decide)
  | view he => exact ⟨he, (hint_inj htext rfl).1⟩
  | dismiss hd => exact absurd htext (hint_ne (head?_blank _))
  | busy => exact absurd htext (hint_ne (by decide))

theorem eq_of_draws_dismiss (h : " " ++ hint key "dismiss" ∈ r.controlTexts) :
    key = (r.bindings.hint? .dismiss).getD "x" := by
  have hdrawn := drawn_of_mem h
  generalize htext : " " ++ hint key "dismiss" = text at hdrawn
  cases hdrawn with
  | edit he => exact absurd htext.symm (hint_ne (head?_blank _))
  | view he => exact absurd htext.symm (hint_ne (head?_blank _))
  | dismiss hd => exact (hint_inj ((String.append_right_inj _).1 htext) rfl).1
  | busy =>
    have hlast := congrArg (·.toList.getLast?) htext
    simp [hint, List.getLast?_cons, List.getLast?_append] at hlast

variable [PayloadEditor ε] {list : List Binding} {c : Command}

/-- Whether a key is bound to a command, and does it when it is pressed. -/
def Routes (r : Row ε ν) (key : String) (c : Command) : Prop :=
  ∃ p, KeyPattern.parse key = .ok p ∧
    r.bindings.command? (.press p.code p.modifiers) = some c ∧
    r.key (.press p.code p.modifiers) = r.command c

/-- Whether a key is bound to a command, but given to the editor when it is pressed. -/
def Withholds (r : Row ε ν) (key : String) (c : Command) : Prop :=
  ∃ p, KeyPattern.parse key = .ok p ∧
    r.bindings.command? (.press p.code p.modifiers) = some c ∧
    r.key (.press p.code p.modifiers) = r.editorKey (.press p.code p.modifiers)

theorem routes_of_shownKey? (hlist : Bindings.Unambiguous list) (hr : r.bindings = .ofList list)
    (hc : r.isEditing = true → c = .toggleEdit)
    (hkey : (Bindings.ofList list).shownKey? r.isEditing c = some key) : r.Routes key c := by
  obtain ⟨p, hp, hcontrol, hcommand⟩ := hlist.command?_of_shownKey? hkey
  rw [← hr] at hcommand
  exact ⟨p, hp, hcommand, key_eq_command rfl hcommand fun he ↦ ⟨hc he, hcontrol he⟩⟩

theorem key_eq_editorKey {k : KeyEvent} (hkind : k.kind = .press) (he : r.isEditing = true)
    (hcommand : r.bindings.command? k = some c) (hc : c ≠ .toggleEdit) :
    r.key k = r.editorKey k := by
  have hleaves : r.leavesEditor k = false := by
    rw [Bool.eq_false_iff]
    intro h
    exact hc (Option.some.inj (hcommand.symm.trans (leavesEditor_iff.1 h).2))
  simp [key, hkind, he, hleaves]

/-- The header of a row with unambiguous bindings names only keys that do what it names them for,
for every control whose command is bound, if the row is edited with a spelling that begins with
`Ctrl+`. Only the key that dismisses a row is named while the editor gets it. -/
theorem routes_of_drawn (hlist : Bindings.Unambiguous list) (hr : r.bindings = .ofList list) :
    (∀ key, hint key "edit" ∈ r.controlTexts → (∃ b ∈ list, b.command = .toggleEdit) →
      r.isEditing = false ∧ r.Routes key .toggleEdit) ∧
    (∀ key, hint key "view" ∈ r.controlTexts →
      (∃ b ∈ list, b.command = .toggleEdit ∧ KeyPattern.beginsWithControl b.key = true) →
      r.isEditing = true ∧ r.Routes key .toggleEdit) ∧
    ∀ key, " " ++ hint key "dismiss" ∈ r.controlTexts → (∃ b ∈ list, b.command = .dismiss) →
      if r.isEditing then r.Withholds key .dismiss else r.Routes key .dismiss := by
  refine ⟨fun key hdrawn hbound ↦ ?_, fun key hdrawn hbound ↦ ?_, fun key hdrawn hbound ↦ ?_⟩
  · obtain ⟨he, rfl⟩ := eq_of_draws_edit hdrawn
    obtain ⟨s, hs⟩ := Bindings.exists_hint? hbound
    rw [hr, hs, Option.getD_some]
    exact ⟨he, routes_of_shownKey? hlist hr (fun _ ↦ rfl) (by rw [he]; exact hs)⟩
  · obtain ⟨he, rfl⟩ := eq_of_draws_view hdrawn
    obtain ⟨s, hs⟩ := Bindings.exists_controlHint? hbound
    rw [Bindings.leavingKey, hr, hs, Option.getD_some]
    exact ⟨he, routes_of_shownKey? hlist hr (fun _ ↦ rfl) (by rw [he]; exact hs)⟩
  · obtain rfl := eq_of_draws_dismiss hdrawn
    obtain ⟨s, hs⟩ := Bindings.exists_hint? hbound
    rw [hr, hs, Option.getD_some]
    cases he : r.isEditing with
    | false =>
      have hview : r.isEditing = true → Command.dismiss = .toggleEdit := by
        rw [he]
        exact fun h ↦ absurd h Bool.false_ne_true
      exact routes_of_shownKey? hlist hr hview (by rw [he]; exact hs)
    | true =>
      have hshown : (Bindings.ofList list).shownKey? false .dismiss = some s := hs
      obtain ⟨p, hp, -, hcommand⟩ := hlist.command?_of_shownKey? hshown
      rw [← hr] at hcommand
      exact ⟨p, hp, hcommand, key_eq_editorKey rfl he hcommand (by decide)⟩

def enabled (list : List Binding) : Row DocumentEditor :=
  { average with capabilities := .all, bindings := .ofList list }

def edited (list : List Binding) : Row DocumentEditor := (enabled list).toggleEdit.row

theorem routes_of_drawn_standard :
    hint "e" "edit" ∈ (enabled Bindings.standard.list).controlTexts ∧
      (enabled Bindings.standard.list).Routes "e" .toggleEdit ∧
      hint "Ctrl+e" "view" ∈ (edited Bindings.standard.list).controlTexts ∧
      (edited Bindings.standard.list).Routes "Ctrl+e" .toggleEdit := by
  have hedit : hint "e" "edit" ∈ (enabled Bindings.standard.list).controlTexts := by
    decide +kernel
  have hview : hint "Ctrl+e" "view" ∈ (edited Bindings.standard.list).controlTexts := by
    decide +kernel
  have hviewed := routes_of_drawn (r := enabled Bindings.standard.list)
    Bindings.unambiguous_standard rfl
  have hedited := routes_of_drawn (r := edited Bindings.standard.list)
    Bindings.unambiguous_standard rfl
  exact ⟨hedit, (hviewed.1 "e" hedit (by decide +kernel)).2, hview,
    (hedited.2.1 "Ctrl+e" hview (by decide +kernel)).2⟩

theorem not_routes_of_unbound {p : KeyPattern} (hp : KeyPattern.parse key = .ok p)
    (hcommand : r.bindings.command? (.press p.code p.modifiers) ≠ some c) : ¬r.Routes key c := by
  rintro ⟨q, hq, hbound, -⟩
  obtain rfl := Except.ok.inj (hp.symm.trans hq)
  exact hcommand hbound

/-- The standard bindings name a key that dismisses while the editor gets that key. Where only
another command is bound the header names the key of that one, and where editing has no control key
it names one that nothing is bound to. -/
theorem not_routes_of_drawn :
    (Bindings.Unambiguous Bindings.standard.list ∧
      " " ++ hint "x" "dismiss" ∈ (edited Bindings.standard.list).controlTexts ∧
      ¬(edited Bindings.standard.list).Routes "x" .dismiss) ∧
    (Bindings.Unambiguous [⟨"e", .dismiss⟩] ∧
      hint "e" "edit" ∈ (enabled [⟨"e", .dismiss⟩]).controlTexts ∧
      ¬(enabled [⟨"e", .dismiss⟩]).Routes "e" .toggleEdit) ∧
    Bindings.Unambiguous [⟨"e", .toggleEdit⟩] ∧
      hint "Ctrl+e" "view" ∈ (edited [⟨"e", .toggleEdit⟩]).controlTexts ∧
      ¬(edited [⟨"e", .toggleEdit⟩]).Routes "Ctrl+e" .toggleEdit := by
  have hx : KeyPattern.parse "x" = .ok ⟨.char 'x', .none, false⟩ := by decide +kernel
  have he : KeyPattern.parse "e" = .ok ⟨.char 'e', .none, false⟩ := by decide +kernel
  have hcontrol : KeyPattern.parse "Ctrl+e" = .ok ⟨.char 'e', ⟨true, false, false⟩, false⟩ := by
    decide +kernel
  refine ⟨⟨Bindings.unambiguous_standard, by decide +kernel, ?_⟩,
    ⟨Bindings.unambiguous_singleton he _, by decide +kernel,
      not_routes_of_unbound he (by decide +kernel)⟩,
    Bindings.unambiguous_singleton he _, by decide +kernel,
    not_routes_of_unbound hcontrol (by decide +kernel)⟩
  -- the key is bound, and the editor gets it
  rintro ⟨p, hp, -, hkey⟩
  obtain rfl := Except.ok.inj (hx.symm.trans hp)
  have hsome : ((edited Bindings.standard.list).key (.press (.char 'x') .none)).event.isSome =
      true := by
    rw [hkey]
    decide +kernel
  exact absurd hsome (by decide +kernel)

end Row

end SuggestionReview
