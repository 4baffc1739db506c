import SuggestionReview.Proofs.Keys.Dispatch

namespace SuggestionReview.Bindings

variable {seen list : List Binding}

theorem duplicateWarnings_eq_nil_iff : duplicateWarnings seen list = [] ↔
    (list.map (·.key)).Nodup ∧ ∀ b ∈ list, b.key ∉ seen.map (·.key) := by
  induction list generalizing seen with
  | nil => simp [duplicateWarnings]
  | cons b rest ih =>
    rw [duplicateWarnings]
    cases hfind : seen.find? (·.key = b.key) with
    | some first =>
      have hfirst : first.key = b.key := by simpa using List.find?_some hfind
      have hmem : b.key ∈ seen.map (·.key) :=
        List.mem_map.2 ⟨first, List.mem_of_find?_eq_some hfind, hfirst⟩
      exact iff_of_false (List.cons_ne_nil _ _) fun h ↦ h.2 b List.mem_cons_self hmem
    | none =>
      have hfresh : b.key ∉ seen.map (·.key) := by
        simpa using hfind
      simp only [ih, List.map_cons, List.nodup_cons, List.map_append, List.map_nil,
        List.mem_append, List.mem_singleton, not_or, List.forall_mem_cons]
      constructor
      · rintro ⟨hnodup, hrest⟩
        refine ⟨⟨fun hmem ↦ ?_, hnodup⟩, hfresh, fun x hx ↦ (hrest x hx).1⟩
        obtain ⟨x, hx, hkey⟩ := List.mem_map.1 hmem
        exact (hrest x hx).2 hkey
      · rintro ⟨⟨hb, hnodup⟩, -, hrest⟩
        refine ⟨hnodup, fun x hx ↦ ⟨hrest x hx, fun hkey ↦ ?_⟩⟩
        exact hb (hkey ▸ List.mem_map_of_mem hx)

theorem nodup_of_warnings (h : (ofList list).warnings = []) : (list.map (·.key)).Nodup :=
  (duplicateWarnings_eq_nil_iff.1 (List.append_eq_nil_iff.1 (List.append_eq_nil_iff.1 h).1).1).1

/-- In bindings without warnings every key is spelled right, and its press does what is bound to it,
unless a later binding spells the same press in another way and has another command. -/
theorem listed_or_shadowed (h : (ofList list).warnings = []) {b : Binding} (hb : b ∈ list) :
    ∃ p, KeyPattern.parse b.key = .ok p ∧
      ((ofList list).command? (.press p.code p.modifiers) = some b.command ∨
        ∃ before later, list = before ++ b :: later ∧ ∃ b' ∈ later,
          b'.key ≠ b.key ∧ KeyPattern.parse b'.key = .ok p ∧ b'.command ≠ b.command ∧
          (ofList list).command? (.press p.code p.modifiers) = some b'.command) := by
  obtain ⟨p, hp⟩ := exists_parse_of_warnings h hb
  refine ⟨p, hp, ?_⟩
  have hpress := KeyPattern.ofEvent_press hp
  have hnodup := nodup_of_warnings h
  have hcommand := command?_ofList list (.press p.code p.modifiers)
  cases hlast : last? list (.press p.code p.modifiers) with
  | none => exact absurd (hpress.symm ▸ hp) (last?_eq_none_iff.1 hlast b hb)
  | some c =>
    obtain ⟨before, b', later, rfl, hb', rfl, hlater⟩ := last?_eq_some_iff.1 hlast
    rw [hpress] at hb' hlater
    rw [hlast] at hcommand
    by_cases hsame : b'.command = b.command
    · exact .inl (hcommand.trans (congrArg some hsame))
    · -- what comes after the last spelling does not spell the press, so `b` comes before it
      have hbefore : b ∈ before := by
        rcases List.mem_append.1 hb with hb | hb
        · exact hb
        · rcases List.mem_cons.1 hb with rfl | hb
          · exact absurd rfl hsame
          · exact absurd hp (hlater b hb)
      obtain ⟨start, middle, rfl⟩ := List.append_of_mem hbefore
      rw [List.map_append, List.nodup_append] at hnodup
      have hne : b.key ≠ b'.key :=
        hnodup.2.2 _ (List.mem_map_of_mem hbefore) _ (List.mem_map_of_mem List.mem_cons_self)
      exact .inr ⟨start, middle ++ b' :: later, by simp, b', by simp, hne.symm, hb', hsame,
        hcommand⟩

def returning : List Binding := standard.list ++ [⟨"Return", .dismiss⟩]

theorem warnings_returning : (ofList returning).warnings = [] := by decide +kernel

theorem parse_enter : KeyPattern.parse "Enter" = .ok ⟨.enter, .none, false⟩ := by decide +kernel

theorem command?_returning : (ofList returning).command? (.press .enter .none) = some .dismiss := by
  decide +kernel

theorem listed_or_shadowed_returning :
    (ofList returning).warnings = [] ∧ ⟨"Enter", .activateReference⟩ ∈ returning ∧
      ∃ before later, returning = before ++ ⟨"Enter", .activateReference⟩ :: later ∧
        ∃ b' ∈ later, KeyPattern.parse b'.key = .ok ⟨.enter, .none, false⟩ ∧ b'.command = .dismiss := by
  have hmem : ⟨"Enter", .activateReference⟩ ∈ returning := by decide +kernel
  refine ⟨warnings_returning, hmem, ?_⟩
  obtain ⟨p, hp, hlisted⟩ := listed_or_shadowed warnings_returning hmem
  obtain rfl := Except.ok.inj (parse_enter.symm.trans hp)
  rcases hlisted with hlisted | ⟨before, later, hlist, b', hb', -, hp', -, hshadow⟩
  · exact absurd (Option.some.inj (command?_returning.symm.trans hlisted)) (by decide)
  · have hdismiss := Option.some.inj (hshadow.symm.trans command?_returning)
    exact ⟨before, later, hlist, b', hb', hp', hdismiss⟩

/-- Nothing warns of it, and the key that is bound to following a reference dismisses instead. -/
theorem not_listed_returning :
    (ofList returning).warnings = [] ∧ ⟨"Enter", .activateReference⟩ ∈ returning ∧
      KeyPattern.parse "Enter" = .ok ⟨.enter, .none, false⟩ ∧
      (ofList returning).command? (.press .enter .none) = some .dismiss :=
  ⟨warnings_returning, by decide +kernel, parse_enter, command?_returning⟩

end SuggestionReview.Bindings
