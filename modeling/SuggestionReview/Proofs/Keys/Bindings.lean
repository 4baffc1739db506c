import Mathlib.Data.List.Nodup
import SuggestionReview.Keys.Bindings
import SuggestionReview.Proofs.Keys.Spelling

namespace SuggestionReview.Bindings

variable {list : List Binding} {c : Command} {e : KeyEvent}

theorem mem_tableOf {p : KeyPattern} :
    (p, c) ∈ tableOf list ↔ ∃ b ∈ list, KeyPattern.parse b.key = .ok p ∧ b.command = c := by
  simp only [tableOf, List.mem_filterMap]
  refine exists_congr fun b ↦ and_congr_right fun _ ↦ ?_
  cases KeyPattern.parse b.key with
  | ok p' => simp [Except.toOption]
  | error fault => simp [Except.toOption]

theorem mem_of_command? {b : Bindings} (h : b.command? e = some c) :
    (KeyPattern.ofEvent e, c) ∈ b.table := by
  obtain ⟨⟨p, c'⟩, hfind, rfl⟩ := Option.map_eq_some_iff.1 h
  obtain rfl : p = .ofEvent e := by simpa using List.find?_some hfind
  exact List.mem_reverse.1 (List.mem_of_find?_eq_some hfind)

theorem command?_of_forall
    (hmem : ∃ b ∈ list, KeyPattern.parse b.key = .ok (.ofEvent e) ∧ b.command = c)
    (honly : ∀ b ∈ list, KeyPattern.parse b.key = .ok (.ofEvent e) → b.command = c) :
    (ofList list).command? e = some c := by
  cases hcommand : (ofList list).command? e with
  | none =>
    have hnone := Option.map_eq_none_iff.1 hcommand
    rw [List.find?_eq_none] at hnone
    exact absurd (decide_eq_true rfl) (hnone _ (List.mem_reverse.2 (mem_tableOf.2 hmem)))
  | some c' =>
    obtain ⟨b, hb, hparse, rfl⟩ := mem_tableOf.1 (mem_of_command? hcommand)
    exact congrArg some (honly b hb hparse)

theorem exists_parse_of_warnings (h : (ofList list).warnings = []) {b : Binding} (hb : b ∈ list) :
    ∃ p, KeyPattern.parse b.key = .ok p := by
  have hspelling : spellingWarnings list = [] := (List.append_eq_nil_iff.1 h).2
  have hnone := List.filterMap_eq_nil_iff.1 hspelling b hb
  cases hparse : KeyPattern.parse b.key with
  | ok p => exact ⟨p, rfl⟩
  | error fault =>
    rw [hparse] at hnone
    exact absurd hnone nofun

theorem mem_keysFor {s : String} :
    s ∈ (ofList list).keysFor c ↔ ∃ b ∈ list, b.command = c ∧ b.key = s := by
  simp only [keysFor, ofList, List.mem_map, List.mem_filter, decide_eq_true_eq, and_assoc]

theorem exists_of_controlHint? {s : String} (h : (ofList list).controlHint? c = some s) :
    (∃ b ∈ list, b.command = c ∧ b.key = s) ∧ KeyPattern.beginsWithControl s = true :=
  ⟨mem_keysFor.1 (List.mem_of_find?_eq_some h), List.find?_some h⟩

theorem exists_controlHint?
    (h : ∃ b ∈ list, b.command = c ∧ KeyPattern.beginsWithControl b.key = true) :
    ∃ s, (ofList list).controlHint? c = some s := by
  obtain ⟨b, hb, hcommand, hcontrol⟩ := h
  have hmem : b.key ∈ (ofList list).keysFor c := mem_keysFor.2 ⟨b, hb, hcommand, rfl⟩
  exact Option.isSome_iff_exists.1 (List.find?_isSome.2 ⟨b.key, hmem, hcontrol⟩)

/-- The key shown next to a command while a text is edited is a control key, and does what it is
shown for unless something else is bound to it as well. -/
theorem command?_of_controlHint? (hvalid : (ofList list).warnings = []) {s : String}
    (h : (ofList list).controlHint? c = some s)
    (honly : ∀ b ∈ list, KeyPattern.parse b.key = KeyPattern.parse s → b.command = c) :
    ∃ p, KeyPattern.parse s = .ok p ∧ p.modifiers.control = true ∧
      (ofList list).command? (.press p.code p.modifiers) = some c := by
  obtain ⟨⟨b, hb, hcommand, rfl⟩, hcontrol⟩ := exists_of_controlHint? h
  obtain ⟨p, hp⟩ := exists_parse_of_warnings hvalid hb
  refine ⟨p, hp, KeyPattern.control_of_parse hp hcontrol, ?_⟩
  rw [← KeyPattern.ofEvent_press hp] at hp
  refine command?_of_forall ⟨b, hb, hp, hcommand⟩ ?_
  exact fun b' hb' hparse ↦ honly b' hb' (hparse.trans hp.symm)

/-- Whether every key of a list is spelled right, and no two of them are the same key press. -/
structure Unambiguous (list : List Binding) : Prop where
  spelled : ∀ b ∈ list, ∃ p, KeyPattern.parse b.key = .ok p
  nodup : (list.map fun b ↦ KeyPattern.parse b.key).Nodup

theorem unambiguous_singleton {s : String} {p : KeyPattern} (hp : KeyPattern.parse s = .ok p)
    (c : Command) : Unambiguous [⟨s, c⟩] := by
  refine ⟨fun b hb ↦ ?_, List.nodup_singleton _⟩
  obtain rfl := List.mem_singleton.1 hb
  exact ⟨p, hp⟩

theorem Unambiguous.command? (h : Unambiguous list) {b : Binding} (hb : b ∈ list) {p : KeyPattern}
    (hp : KeyPattern.parse b.key = .ok p) :
    (ofList list).command? (.press p.code p.modifiers) = some b.command := by
  rw [← KeyPattern.ofEvent_press hp] at hp
  refine command?_of_forall ⟨b, hb, hp, rfl⟩ fun b' hb' hp' ↦ ?_
  have hsame : b' = b := List.inj_on_of_nodup_map h.nodup hb' hb (hp'.trans hp.symm)
  rw [hsame]

def shownKey? (b : Bindings) (editing : Bool) (c : Command) : Option String :=
  if editing then b.controlHint? c else b.hint? c

/-- Without ambiguity a key does what it is shown for, and one that is shown while a text is edited
gets past the editor. -/
theorem Unambiguous.command?_of_shownKey? (h : Unambiguous list) {editing : Bool} {s : String}
    (hs : (ofList list).shownKey? editing c = some s) :
    ∃ p, KeyPattern.parse s = .ok p ∧ (editing = true → p.modifiers.control = true) ∧
      (ofList list).command? (.press p.code p.modifiers) = some c := by
  have hbound : ∃ b ∈ list, b.command = c ∧ b.key = s := by
    cases editing with
    | true => exact (exists_of_controlHint? hs).1
    | false => exact mem_keysFor.1 (List.mem_of_head? hs)
  obtain ⟨b, hb, rfl, rfl⟩ := hbound
  obtain ⟨p, hp⟩ := h.spelled b hb
  refine ⟨p, hp, fun hediting ↦ ?_, h.command? hb hp⟩
  rw [hediting] at hs
  exact KeyPattern.control_of_parse hp (exists_of_controlHint? hs).2

theorem warnings_standard : standard.warnings = [] := by decide +kernel

theorem unambiguous_standard : Unambiguous standard.list where
  spelled _ := exists_parse_of_warnings warnings_standard
  nodup := by decide +kernel

end SuggestionReview.Bindings
