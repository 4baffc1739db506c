import SuggestionReview.Reference

namespace SuggestionReview.References

theorem filter_intersperse {α : Type} {p : α → Bool} {separator : α} (h : p separator = false)
    (xs : List α) : (xs.intersperse separator).filter p = xs.filter p := by
  induction xs with
  | nil => rfl
  | cons x xs ih =>
    cases xs with
    | nil => rfl
    | cons y xs =>
      rw [List.intersperse_cons_cons, List.filter_cons, List.filter_cons_of_neg (by simp [h]), ih,
        List.filter_cons (x := x)]

theorem actionables_build (arguments : List String) (m : FeatureMapping) :
    (build arguments m).actionables =
      arguments.filterMap fun name ↦ (m.get? name).map (.reference name) := by
  rw [actionables, build, filter_intersperse rfl]
  induction arguments with
  | nil => rfl
  | cons name arguments ih =>
    rw [List.map_cons, List.filter_cons, List.filterMap_cons, ih, ReferencePiece.ofArgument]
    cases m.get? name <;> rfl

theorem exists_of_actionable {arguments : List String} {m : FeatureMapping} {nth : Nat}
    {piece : ReferencePiece} (h : (build arguments m).actionable nth = some piece) :
    ∃ name ∈ arguments, ∃ column, m.get? name = some column ∧ piece = .reference name column := by
  rw [actionable, actionables_build] at h
  obtain ⟨name, hname, hpiece⟩ := List.mem_filterMap.1 (List.mem_of_getElem? h)
  obtain ⟨column, hcolumn, rfl⟩ := Option.map_eq_some_iff.1 hpiece
  exact ⟨name, hname, column, hcolumn, rfl⟩

theorem actionableCount_build (arguments : List String) (m : FeatureMapping) :
    (build arguments m).actionableCount = (arguments.filter m.contains).length := by
  rw [actionableCount, actionables_build, List.length_filterMap_eq_countP,
    List.countP_eq_length_filter]
  congr 1
  exact List.filter_congr fun name _ ↦ Option.isSome_map

theorem activate_build (arguments : List String) (m : FeatureMapping) (nth : Nat) :
    (build arguments m).activate nth =
      ((arguments.filter m.contains)[nth]?).bind m.get? := by
  rw [activate, actionable, actionables_build]
  induction arguments generalizing nth with
  | nil => rfl
  | cons name arguments ih =>
    cases hname : m.get? name with
    | none =>
      have hunknown : m.contains name = false := by rw [FeatureMapping.contains, hname]; rfl
      rw [List.filterMap_cons, hname, List.filter_cons_of_neg (by simp [hunknown])]
      exact ih nth
    | some column =>
      have hknown : m.contains name = true := by rw [FeatureMapping.contains, hname]; rfl
      rw [List.filterMap_cons, hname, List.filter_cons_of_pos hknown]
      cases nth with
      | zero => exact hname.symm
      | succ nth => exact ih nth

theorem actionableCount_cons (piece : ReferencePiece) (pieces : List ReferencePiece) :
    actionableCount ⟨piece :: pieces⟩ =
      (if piece.isActionable then 1 else 0) + actionableCount ⟨pieces⟩ := by
  simp only [actionableCount, actionables]
  cases hpiece : piece.isActionable with
  | true => rw [List.filter_cons_of_pos hpiece, List.length_cons, Nat.add_comm, if_pos rfl]
  | false => rw [List.filter_cons_of_neg (by simp [hpiece]), if_neg Bool.false_ne_true, Nat.zero_add]

theorem exists_split_of_actionable {r : References} {nth : Nat} {piece : ReferencePiece}
    (h : r.actionable nth = some piece) :
    ∃ before after, r.pieces = before ++ piece :: after ∧
      actionableCount ⟨before⟩ = nth := by
  obtain ⟨hlt, hpiece⟩ := List.getElem?_eq_some_iff.1 h
  have hsplit : r.pieces.filter (·.isActionable) =
      r.actionables.take nth ++ piece :: r.actionables.drop (nth + 1) := by
    rw [← hpiece, List.getElem_cons_drop, List.take_append_drop]
    rfl
  obtain ⟨first, second, hpieces, hfirst, hsecond⟩ := List.filter_eq_append_iff.1 hsplit
  obtain ⟨inert, after, rfl, hinert, -, -⟩ := List.filter_eq_cons_iff.1 hsecond
  refine ⟨first ++ inert, after, by rw [hpieces, List.append_assoc], ?_⟩
  rw [actionableCount, actionables, List.filter_append, hfirst, List.filter_eq_nil_iff.2 hinert,
    List.append_nil, List.length_take, Nat.min_eq_left (Nat.le_of_lt hlt)]

end SuggestionReview.References
