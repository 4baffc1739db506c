import SuggestionReview.Proofs.Keys.Document

namespace SuggestionReview.Bindings

variable {list : List Binding} {b : Bindings} {e : KeyEvent} {c : Command} {s : String}

/-- The command of the last binding that spells a key press. -/
def last? (list : List Binding) (e : KeyEvent) : Option Command :=
  (list.reverse.find? fun b ↦ KeyPattern.parse b.key = .ok (.ofEvent e)).map (·.command)

theorem last?_concat (list : List Binding) (b : Binding) (e : KeyEvent) :
    last? (list ++ [b]) e =
      if KeyPattern.parse b.key = .ok (.ofEvent e) then some b.command else last? list e := by
  by_cases h : KeyPattern.parse b.key = .ok (.ofEvent e) <;> simp [last?, h]

theorem command?_concat (list : List Binding) (b : Binding) (e : KeyEvent) :
    (ofList (list ++ [b])).command? e =
      if KeyPattern.parse b.key = .ok (.ofEvent e) then some b.command
      else (ofList list).command? e := by
  cases hparse : KeyPattern.parse b.key with
  | error fault => simp [command?, ofList, tableOf, hparse, Except.toOption]
  | ok p =>
    by_cases h : p = .ofEvent e <;> simp [command?, ofList, tableOf, hparse, Except.toOption, h]

theorem command?_ofList (list : List Binding) (e : KeyEvent) :
    (ofList list).command? e = last? list e := by
  induction list using List.reverseRecOn with
  | nil => rfl
  | append_singleton list b ih => rw [command?_concat, last?_concat, ih]

theorem last?_eq_some_iff : last? list e = some c ↔
    ∃ before b later, list = before ++ b :: later ∧
      KeyPattern.parse b.key = .ok (.ofEvent e) ∧ b.command = c ∧
      ∀ b' ∈ later, KeyPattern.parse b'.key ≠ .ok (.ofEvent e) := by
  rw [last?, Option.map_eq_some_iff]
  simp only [List.find?_eq_some_iff_append]
  constructor
  · rintro ⟨b, ⟨hb, later, before, hlist, hlater⟩, hc⟩
    refine ⟨before.reverse, b, later.reverse, ?_, by simpa using hb, hc, by simpa using hlater⟩
    rw [← List.reverse_reverse list, hlist]
    simp
  · rintro ⟨before, b, later, rfl, hb, hc, hlater⟩
    exact ⟨b, ⟨by simpa using hb, later.reverse, before.reverse, by simp, by simpa using hlater⟩, hc⟩

theorem last?_eq_none_iff :
    last? list e = none ↔ ∀ b ∈ list, KeyPattern.parse b.key ≠ .ok (.ofEvent e) := by
  simp [last?]

theorem exists_of_map_eq_ok {ε α β : Type} {f : α → β} {x : Except ε α} {y : β}
    (h : x.map f = .ok y) : ∃ a, f a = y := by
  cases x with
  | error fault => cases h
  | ok a => exact ⟨a, Except.ok.inj h⟩

theorem eq_ofList_of_load (h : load s = .ok b) : b = ofList b.list := by
  obtain ⟨b', rfl⟩ := exists_of_map_eq_ok h
  rfl

theorem table_of_parse (h : parse s = .ok b) : b.table = [] := by
  obtain ⟨list, rfl⟩ := exists_of_map_eq_ok h
  rfl

/-- The standard bindings and those that are loaded do with every key press what the last binding
says that spells it, and so do they after they were written and loaded again. Bindings that were
only read from a document do nothing until then. -/
theorem dispatch_as_listed (b : Bindings) :
    (b = .standard ∨ (∃ s, load s = .ok b) →
      (∀ e, b.command? e = last? b.list e) ∧
        load b.toValue.compact = .ok b ∧ load b.toValue.pretty = .ok b) ∧
      ((∃ s, parse s = .ok b) →
        (∀ e, b.command? e = none) ∧
          ∃ b', load b.toValue.compact = .ok b' ∧ load b.toValue.pretty = .ok b' ∧
            b'.list = b.list ∧ ∀ e, b'.command? e = last? b.list e) := by
  refine ⟨fun hb ↦ ?_, fun ⟨s, hs⟩ ↦ ⟨fun e ↦ ?_, ?_⟩⟩
  · have hloaded : b = ofList b.list := by
      rcases hb with rfl | ⟨s, hs⟩
      · rfl
      · exact eq_ofList_of_load hs
    refine ⟨fun e ↦ ?_, ?_, ?_⟩
    · rw [hloaded]
      exact command?_ofList b.list e
    · exact (b.load_write .compact).trans (congrArg _ hloaded.symm)
    · exact (b.load_write (.indented 0)).trans (congrArg _ hloaded.symm)
  · rw [command?, table_of_parse hs]
    rfl
  · exact ⟨ofList b.list, b.load_write .compact, b.load_write (.indented 0), rfl,
      command?_ofList b.list⟩

def escapes : String :=
  "\x7b\"bindings\":[\x7b\"key\":\"Esc\",\"action\":\"Quit\"\x7d," ++
    "\x7b\"key\":\"escape\",\"action\":\"Apply\"\x7d]\x7d"

theorem dispatch_as_listed_escapes :
    (∃ b, load escapes = .ok b ∧ b.command? (.press .escape .none) = some .apply ∧
      load b.toValue.pretty = .ok b) ∧
      ∃ b, parse escapes = .ok b ∧ b.command? (.press .escape .none) = none ∧
        ∃ b', load b.toValue.compact = .ok b' ∧
          b'.command? (.press .escape .none) = some .apply := by
  constructor
  · obtain ⟨b, hb, hlast⟩ := Json.Reader.exists_ok
      (P := fun b ↦ last? b.list (.press .escape .none) = some .apply) (r := load escapes)
      (by decide +kernel)
    obtain ⟨hcommand, -, hpretty⟩ := (dispatch_as_listed b).1 (.inr ⟨escapes, hb⟩)
    exact ⟨b, hb, (hcommand _).trans hlast, hpretty⟩
  · obtain ⟨b, hb, hlast⟩ := Json.Reader.exists_ok
      (P := fun b ↦ last? b.list (.press .escape .none) = some .apply) (r := parse escapes)
      (by decide +kernel)
    obtain ⟨hnone, b', hload, -, -, hcommand⟩ := (dispatch_as_listed b).2 ⟨escapes, hb⟩
    exact ⟨b, hb, hnone _, b', hload, (hcommand _).trans hlast⟩

/-- The standard bindings, written and only read again, do not end a review with the key that they
list for it. -/
theorem not_dispatch_as_listed_read :
    ∃ b, parse standard.toValue.compact = .ok b ∧ b.list = standard.list ∧
      last? b.list (.press (.char 'q') .none) = some .quit ∧
      b.command? (.press (.char 'q') .none) = none :=
  ⟨⟨standard.list, []⟩, standard.parse_write .compact, rfl, by decide +kernel, rfl⟩

end SuggestionReview.Bindings
