import SuggestionReview.Proofs.Keys.Dispatch
import SuggestionReview.Proofs.Keys.Grammar

namespace SuggestionReview

def Modifiers.names (m : Modifiers) : List String :=
  (if m.control then ["ctrl"] else []) ++ (if m.alt then ["alt"] else []) ++
    if m.shift then ["shift"] else []

namespace KeyPattern

variable {c : Char} {m : Modifiers} {names : List String}

theorem names_subset (m : Modifiers) : m.names ⊆ ["ctrl", "alt", "shift"] := by
  obtain ⟨control, alt, shift⟩ := m
  cases control <;> cases alt <;> cases shift <;> decide

theorem named_of_perm (h : (names.map Text.lowercase).Perm m.names) : named names = m := by
  have hany : ∀ lower, names.any (Text.lowercase · = lower) = decide (lower ∈ m.names) := by
    intro lower
    rw [Bool.eq_iff_iff, decide_eq_true_iff, ← h.mem_iff]
    simp
  obtain ⟨control, alt, shift⟩ := m
  simp only [named, hany]
  cases control <;> cases alt <;> cases shift <;> rfl

theorem ne_nil_of_perm (h : (names.map Text.lowercase).Perm m.names) (hm : m ≠ .none) :
    names ≠ [] := by
  rintro rfl
  exact hm (named_of_perm h).symm

theorem joined_plus (names : List String) : joined names "+" = joined (names ++ [""]) "" := by
  by_cases h : names = []
  · rw [h]
    decide
  · have hnames : names ++ [""] ≠ [] := List.append_ne_nil_of_left_ne_nil h _
    rw [joined, joined, String.intercalate_append_of_ne_nil h (List.cons_ne_nil _ _),
      String.intercalate_append_of_ne_nil hnames (List.cons_ne_nil _ _),
      String.intercalate_append_of_ne_nil h (List.cons_ne_nil _ _)]
    simp only [String.intercalate_singleton, String.append_empty]

theorem parse_joined_plus (hnames : ∀ name ∈ names, NamesModifier name) (hne : names ≠ []) :
    parse (joined names "+") = .error (.unknownKey (joined names "+")) := by
  have hplus : ∀ name ∈ names ++ [""], '+' ∉ name.toList := by
    rw [List.forall_mem_append, List.forall_mem_singleton]
    exact ⟨fun name hname ↦ (hnames name hname).plus_not_mem, List.not_mem_nil⟩
  rw [joined_plus]
  have hkey : key? (joined (names ++ [""]) "") = none := by
    cases hkey : key? (joined (names ++ [""]) "") with
    | none => rfl
    | some p =>
      have hspells := key?_eq_some_iff.1 hkey
      have halone := (hspells.eq_plus (plus_mem_open hplus hspells.ne_empty)).1
      have hparts := congrArg List.length (parts_open hplus)
      rw [halone] at hparts
      simp only [List.length_append, List.length_map, List.length_singleton] at hparts
      have htwo : (parts "+".toList).length = 2 := by decide
      exact absurd (List.eq_nil_of_length_eq_zero (by omega)) hne
  rw [parse_of_split (split_open hplus) rfl, hkey]

theorem parse_ne_plus (hm : m ≠ .none) (s : String) : parse s ≠ .ok ⟨.char '+', m, false⟩ := by
  intro h
  generalize hp : KeyPattern.mk (.char '+') m false = p at h
  rcases parse_eq_ok_iff.1 h with _ | ⟨-, -, hplus, hspells⟩
  · exact hm (KeyPattern.mk.inj hp).2.1
  · have hcode := (KeyPattern.mk.inj hp).1
    cases hspells with
    | @name _ code hname =>
      have hnone : ∀ x ∈ keyNames, KeyCode.char '+' ≠ x.2 := by decide
      exact hnone _ hname hcode
    | char c =>
      obtain rfl := KeyCode.char.inj hcode
      exact hplus (by simp)

theorem parse_joined_singleton (hc : Text.isUppercase c = false) (hplus : c ≠ '+')
    (hnames : ∀ name ∈ names, NamesModifier name) :
    parse (joined names (String.singleton c)) = .ok ⟨.char c, named names, false⟩ := by
  have hkey : String.singleton c ≠ "" := by
    intro h
    exact absurd (congrArg String.toList h) (by simp)
  have hnone : '+' ∉ (String.singleton c).toList := by
    simpa using hplus.symm
  rw [parse_joined hnames hkey hnone, key?_singleton, hc]
  simp [Modifiers.union]

/-- A character that is not in upper case is spelled under modifiers by their names, in any case and
order, and itself. What is bound to this spelling is done on that press and on no other one. The plus
sign has this spelling only where nothing is held down: under modifiers it has none at all, and what
is bound to a text of that form is never done. -/
theorem presses_spelled (hc : Text.isUppercase c = false)
    (hnames : (names.map Text.lowercase).Perm m.names) :
    (c ≠ '+' ∨ m = .none →
      parse (joined names (String.singleton c)) = .ok ⟨.char c, m, false⟩ ∧
        ∀ list x e,
          (Bindings.ofList (list ++ [⟨joined names (String.singleton c), x⟩])).command? e =
            if ofEvent e = ⟨.char c, m, false⟩ then some x else (Bindings.ofList list).command? e) ∧
      (c = '+' ∧ m ≠ .none →
        parse (joined names (String.singleton c)) =
            .error (.unknownKey (joined names (String.singleton c))) ∧
          (∀ list x e,
            (Bindings.ofList (list ++ [⟨joined names (String.singleton c), x⟩])).command? e =
              (Bindings.ofList list).command? e) ∧
          ∀ list e, ofEvent e = ⟨.char c, m, false⟩ → (Bindings.ofList list).command? e = none) := by
  have hmodifiers := namesModifier_of_map (List.Subset.trans hnames.subset (names_subset m))
  constructor
  · intro h
    have hparse : parse (joined names (String.singleton c)) = .ok ⟨.char c, m, false⟩ := by
      by_cases hplus : c = '+'
      · obtain rfl := h.resolve_left (not_not_intro hplus)
        obtain rfl : names = [] := List.map_eq_nil_iff.1 hnames.eq_nil
        rw [hplus]
        exact parse_plus
      · rw [parse_joined_singleton hc hplus hmodifiers, named_of_perm hnames]
    refine ⟨hparse, fun list x e ↦ ?_⟩
    rw [Bindings.command?_concat, hparse]
    simp only [Except.ok.injEq, eq_comm]
  · rintro ⟨rfl, hm⟩
    have hparse := parse_joined_plus hmodifiers (ne_nil_of_perm hnames hm)
    refine ⟨hparse, fun list x e ↦ ?_, fun list e he ↦ ?_⟩
    · rw [Bindings.command?_concat, if_neg]
      intro hok
      cases hparse.symm.trans hok
    · rw [Bindings.command?_ofList, Bindings.last?_eq_none_iff, he]
      exact fun b _ ↦ parse_ne_plus hm b.key

theorem presses_spelled_blank :
    parse "SHIFT+Ctrl+ " = .ok ⟨.char ' ', ⟨true, false, true⟩, false⟩ ∧
      ∀ list e, ofEvent e = ⟨.char '+', ⟨true, false, false⟩, false⟩ →
        (Bindings.ofList list).command? e = none := by
  have hblank : Text.isUppercase ' ' = false := by decide +kernel
  have htwo : ["SHIFT", "Ctrl"].map Text.lowercase = ["shift", "ctrl"] :=
    (Text.map_lowercase_of_ascii (by decide)).trans (by decide)
  have hone : ["Ctrl"].map Text.lowercase = ["ctrl"] :=
    (Text.map_lowercase_of_ascii (by decide)).trans (by decide)
  have htwo' : (["SHIFT", "Ctrl"].map Text.lowercase).Perm (Modifiers.names ⟨true, false, true⟩) :=
    htwo ▸ List.Perm.swap ..
  have hone' : (["Ctrl"].map Text.lowercase).Perm (Modifiers.names ⟨true, false, false⟩) :=
    hone ▸ List.Perm.refl _
  exact ⟨((presses_spelled hblank htwo').1 (.inl (by decide))).1,
    ((presses_spelled Text.isUppercase_plus hone').2 ⟨rfl, by decide⟩).2.2⟩

/-- With control a plus sign is not read. -/
theorem not_spelled_plus :
    Text.isUppercase '+' = false ∧ joined ["Ctrl"] (String.singleton '+') = "Ctrl++" ∧
      parse "Ctrl++" = .error (.unknownKey "Ctrl++") := by
  decide +kernel

end KeyPattern

end SuggestionReview
