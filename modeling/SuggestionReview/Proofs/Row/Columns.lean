import SuggestionReview.Proofs.Feature
import SuggestionReview.Proofs.Row.Enabled
import SuggestionReview.Proofs.Row.Notices

namespace SuggestionReview

namespace Row

variable {ε ν : Type} {r r' start : Row ε ν} {os : List (Operation ν)} {o : Operation ν}
  {n : String} {column : Nat} {position : Option Nat}

def Indexed (r : Row ε ν) : Prop := r.index = .ofFeatures r.features

theorem Shown.indexed (hs : Shown r r') (h : r.Indexed) : r'.Indexed := by
  cases hs
  exact h

theorem Worked.indexed (hw : Worked r r') (h : r.Indexed) : r'.Indexed := by
  cases hw
  exact h

theorem IsNew.indexed (h : r.IsNew) : r.Indexed := by
  obtain ⟨p, features, mapping, position, palette, editor, source, rfl⟩ := h
  exact (shown_loadViewer (mount p features mapping position palette editor) source).indexed rfl

theorem columnDisagrees_not_mem {topic : Topic} {notices : List Notice} (h : About topic notices)
    (htopic : .reference ≠ topic) : .columnDisagrees n column position ∉ notices :=
  h.not_mem htopic

theorem columnDisagrees_followReference_iff :
    .columnDisagrees n column position ∈ r.followReference.notices ↔
      r.chosen = some (.reference n column) ∧ position = r.index.lookup n ∧
        r.index.lookup n ≠ some column := by
  unfold followReference
  cases r.chosen with
  | none => simp [rest]
  | some piece =>
    cases piece with
    | label | separator => simp [ReferencePiece.column?, rest]
    | reference n' column' =>
      simp only [ReferencePiece.column?, columnNotices, Option.some.injEq,
        ReferencePiece.reference.injEq]
      by_cases hindex : r.index.lookup n' = some column'
      · rw [if_pos hindex]
        constructor
        · simp
        · rintro ⟨⟨rfl, rfl⟩, -, hne⟩
          exact absurd hindex hne
      · rw [if_neg hindex]
        constructor
        · intro hmem
          obtain ⟨rfl, rfl, rfl⟩ : n = n' ∧ column = column' ∧ position = r.index.lookup n' := by
            simpa using hmem
          exact ⟨⟨rfl, rfl⟩, rfl, hindex⟩
        · rintro ⟨⟨rfl, rfl⟩, rfl, -⟩
          exact List.mem_cons_self

variable [PayloadEditor ε]

theorem columnDisagrees_not_mem_command {c : Command} (hc : c ≠ .activateReference) :
    .columnDisagrees n column position ∉ (r.command c).notices :=
  columnDisagrees_not_mem (r.about_command hc) (by decide)

theorem columnDisagrees_not_mem_setProposal (r : Row ε ν) (p : Proposal) (source : ViewerSource ν) :
    .columnDisagrees n column position ∉ (r.setProposal p source).2.2 := by
  intro hmem
  rcases List.mem_append.1 hmem with hstep | hload
  · exact columnDisagrees_not_mem (about_step r.state (.supply p.payload) _) (by decide) hstep
  · exact columnDisagrees_not_mem (about_loadViewer _ source) (by decide) hload

/-- Whether an operation follows the chosen reference of a row. -/
def Follows (r : Row ε ν) : Operation ν → Prop
  | .command c => c = .activateReference
  | .key k => k.kind = .press ∧ r.isEditing = false ∧
      r.bindings.command? k = some .activateReference
  | _ => False

theorem columnDisagrees_key_iff {k : KeyEvent} :
    .columnDisagrees n column position ∈ (r.key k).notices ↔
      r.Follows (.key k) ∧ .columnDisagrees n column position ∈ r.followReference.notices := by
  simp only [Follows, key]
  split
  · next hkind => simp [rest, hkind]
  · next hkind =>
    split
    · next he =>
      refine iff_of_false ?_ fun h ↦ Bool.false_ne_true (h.1.2.1.symm.trans he)
      split
      · exact columnDisagrees_not_mem_command (c := .toggleEdit) (by decide)
      · exact columnDisagrees_not_mem (r.about_editorKey k) (by decide)
    · next he =>
      cases hcommand : r.bindings.command? k with
      | none => simp [rest]
      | some c =>
        by_cases hc : c = .activateReference
        · subst hc
          simp [command, Decidable.not_not.1 hkind, he]
        · refine iff_of_false (columnDisagrees_not_mem_command hc) fun h ↦ ?_
          exact hc (Option.some.inj h.1.2.2)

variable [Viewer ν]

theorem columnDisagrees_perform_iff :
    .columnDisagrees n column position ∈ (r.perform o).notices ↔
      r.Follows o ∧ r.chosen = some (.reference n column) ∧ position = r.index.lookup n ∧
        r.index.lookup n ≠ some column := by
  rw [← columnDisagrees_followReference_iff]
  cases o with
  | key k => exact columnDisagrees_key_iff
  | command c =>
    by_cases hc : c = .activateReference
    · subst hc
      exact (and_iff_right rfl).symm
    · exact iff_of_false (columnDisagrees_not_mem_command hc) fun h ↦ hc h.1
  | propose p source => exact iff_of_false (r.columnDisagrees_not_mem_setProposal p source) And.left
  | viewer source | update source =>
    exact iff_of_false (columnDisagrees_not_mem (about_loadViewer _ source) (by decide)) And.left
  | draw source a c =>
    exact iff_of_false (columnDisagrees_not_mem (r.about_draw source a c) (by decide)) And.left
  | features | mapping | loading | capabilities | place | dress =>
    exact iff_of_false List.not_mem_nil And.left

theorem Indexed.perform (h : r.Indexed) (o : Operation ν) : (r.perform o).row.Indexed := by
  cases o with
  | key k => exact (r.worked_key k).indexed h
  | command c => exact (r.worked_command c).indexed h
  | propose p source => exact (shown_loadViewer _ source).indexed h
  | viewer source => exact (r.shown_setViewer source).indexed h
  | update source => exact (r.shown_loadViewer source).indexed h
  | draw source a c => exact (r.shown_draw source a c).indexed h
  | features => exact rfl
  | mapping | loading | capabilities | place | dress => exact h

theorem indexed_performAll (h : r.Indexed) (os : List (Operation ν)) :
    (r.performAll os).Indexed := by
  induction os generalizing r with
  | nil => exact h
  | cons o os ih => exact ih (h.perform o)

/-- The mapping that is made of some columns and the index of these columns agree on a name unless
several columns have it. Whatever was done to a row whose mapping is made of its columns, it warns
that they disagree exactly when it follows a reference of a name that several columns have. -/
theorem agrees_performAll :
    (∀ (features : List Feature) (n : String),
      (FeatureMapping.ofFeatures features).get? n = (FeatureIndex.ofFeatures features).lookup n ↔
        (features.map (·.id)).count n ≤ 1) ∧
      ∀ (start : Row ε ν) (os : List (Operation ν)) (o : Operation ν) (n : String), start.IsNew →
        (start.performAll os).mapping = .ofFeatures (start.performAll os).features →
        ((∃ column position,
            .columnDisagrees n column position ∈ ((start.performAll os).perform o).notices) ↔
          (start.performAll os).Follows o ∧
            (∃ column, (start.performAll os).chosen = some (.reference n column)) ∧
            1 < ((start.performAll os).features.map (·.id)).count n) := by
  refine ⟨FeatureMapping.get?_eq_lookup_iff, fun start os o n hstart hmapping ↦ ?_⟩
  have hindexed := indexed_performAll hstart.indexed os
  have hheaded := headed_performAll hstart.headed os
  generalize start.performAll os = r at hmapping hindexed hheaded
  have hdisagree : ∀ column, r.chosen = some (.reference n column) →
      (r.index.lookup n ≠ some column ↔ 1 < (r.features.map (·.id)).count n) := by
    intro column hchosen
    obtain ⟨-, hcolumn⟩ := hheaded.exists_of_chosen hchosen
    rw [hmapping] at hcolumn
    rw [hindexed, ← hcolumn, ← Nat.not_le, ← FeatureMapping.get?_eq_lookup_iff, ne_comm]
  constructor
  · rintro ⟨column, position, hmem⟩
    obtain ⟨hfollows, hchosen, -, hne⟩ := columnDisagrees_perform_iff.1 hmem
    exact ⟨hfollows, ⟨column, hchosen⟩, (hdisagree column hchosen).1 hne⟩
  · rintro ⟨hfollows, ⟨column, hchosen⟩, hcount⟩
    exact ⟨column, _, columnDisagrees_perform_iff.2
      ⟨hfollows, hchosen, rfl, (hdisagree column hchosen).2 hcount⟩⟩

def ages : List Feature := [.named "age", .named "age"]

def averageOfTwo : Row DocumentEditor :=
  new ⟨⟨"Average", none, ⟨.average, .row, ["age"], none, none, []⟩⟩, 0⟩ ages (.ofFeatures ages) 0
    .dark .empty (.builtin 0)

theorem agrees_performAll_ages :
    ∃ column position, .columnDisagrees "age" column position ∈
      ((averageOfTwo.performAll [.command .nextReference]).perform
        (.command .activateReference)).notices := by
  have hnew : averageOfTwo.IsNew := ⟨_, _, _, _, _, _, _, rfl⟩
  have hmapping : (averageOfTwo.performAll [.command .nextReference]).mapping =
      .ofFeatures (averageOfTwo.performAll [.command .nextReference]).features := rfl
  have hchosen : (averageOfTwo.performAll [.command .nextReference]).chosen =
      some (.reference "age" 1) := by decide +kernel
  obtain ⟨-, hwarns⟩ := agrees_performAll (ε := DocumentEditor)
  exact (hwarns averageOfTwo _ (.command .activateReference) "age" hnew hmapping).2
    ⟨rfl, ⟨1, hchosen⟩, by decide +kernel⟩

/-- The mapping leads to the second column and the index to the first one, and the row says so. -/
theorem not_agrees_ages :
    (FeatureMapping.ofFeatures ages).get? "age" = some 1 ∧
      (FeatureIndex.ofFeatures ages).lookup "age" = some 0 ∧
      averageOfTwo.mapping = .ofFeatures averageOfTwo.features ∧
      ((averageOfTwo.performAll [.command .nextReference]).perform
        (.command .activateReference)).notices =
          [.columnDisagrees "age" 1 (some 0), .navigating 1] := by
  refine ⟨by decide +kernel, by decide +kernel, rfl, by decide +kernel⟩

end Row

end SuggestionReview
