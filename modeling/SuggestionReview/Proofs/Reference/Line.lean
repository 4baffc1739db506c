import Mathlib.Data.List.Forall2
import SuggestionReview.Proofs.Reference

namespace SuggestionReview

/-- Whether a piece is the token of an argument: a reference to its column where the name is known,
and otherwise a label. -/
inductive ReferencePiece.IsToken (m : FeatureMapping) : String → ReferencePiece → Prop
  | known {name : String} {column : Nat} (h : m.get? name = some column) :
    IsToken m name (.reference name column)
  | unknown {name : String} (h : m.get? name = none) : IsToken m name (.label name)

namespace References

open ReferencePiece (IsToken ofArgument)

variable {m : FeatureMapping} {name : String} {piece : ReferencePiece} {i : Nat}

theorem isToken_ofArgument (m : FeatureMapping) (name : String) :
    IsToken m name (ofArgument m name) := by
  unfold ofArgument
  split
  · next hknown => exact .known hknown
  · next hunknown => exact .unknown hunknown

theorem ne_separator_of_isToken (h : IsToken m name piece) : piece ≠ .separator := by
  rintro rfl
  cases h

theorem column?_of_isToken (h : IsToken m name piece) : piece.column? = m.get? name := by
  cases h with
  | known h => exact h.symm
  | unknown h => exact h.symm

theorem text_of_isToken (h : IsToken m name piece) : piece.text = name := by
  cases h <;> rfl

theorem tokens_build (arguments : List String) (m : FeatureMapping) :
    (build arguments m).tokens = arguments.map (ofArgument m) := by
  rw [tokens, build, filter_intersperse (by simp)]
  refine List.filter_eq_self.2 (List.forall_mem_map.2 fun name _ ↦ ?_)
  simpa using ne_separator_of_isToken (isToken_ofArgument m name)

theorem separatorCount_add_length_tokens (r : References) :
    r.separatorCount + r.tokens.length = r.pieces.length := by
  rw [separatorCount, tokens, List.count_eq_length_filter,
    List.length_eq_length_filter_add (l := r.pieces) (· == ReferencePiece.separator)]
  congr 2
  refine List.filter_congr fun piece _ ↦ ?_
  cases piece <;> rfl

theorem separatorCount_build (arguments : List String) (m : FeatureMapping) :
    (build arguments m).separatorCount = arguments.length - 1 := by
  have hall := separatorCount_add_length_tokens (build arguments m)
  have hpieces : (build arguments m).pieces.length = 2 * arguments.length - 1 := by
    rw [build, List.length_intersperse, List.length_map]
  rw [tokens_build, List.length_map, hpieces] at hall
  omega

theorem getElem?_pieces_even (arguments : List String) (m : FeatureMapping) (i : Nat) :
    (build arguments m).pieces[2 * i]? = arguments[i]?.map (ofArgument m) := by
  rw [build, List.getElem?_intersperse_two_mul, List.getElem?_map]

/-- A separator stands behind a token that is not the last one, and in front of the next one. -/
theorem exists_of_separator {arguments : List String}
    (h : (build arguments m).pieces[i]? = some .separator) :
    ∃ j name next, i = 2 * j + 1 ∧ arguments[j]? = some name ∧ arguments[j + 1]? = some next := by
  obtain ⟨hi, -⟩ := List.getElem?_eq_some_iff.1 h
  have hpieces : (build arguments m).pieces.length = 2 * arguments.length - 1 := by
    rw [build, List.length_intersperse, List.length_map]
  -- tokens are at the even places, and the last piece is one of them
  obtain ⟨j, rfl | rfl⟩ : ∃ j, i = 2 * j ∨ i = 2 * j + 1 := ⟨i / 2, by omega⟩
  · rw [getElem?_pieces_even, Option.map_eq_some_iff] at h
    obtain ⟨name, -, htoken⟩ := h
    exact absurd htoken (ne_separator_of_isToken (isToken_ofArgument m name))
  · have hname : j < arguments.length := by omega
    have hnext : j + 1 < arguments.length := by omega
    exact ⟨j, _, _, rfl, List.getElem?_eq_getElem hname, List.getElem?_eq_getElem hnext⟩

theorem plainText_build (arguments : List String) (m : FeatureMapping) :
    (build arguments m).plainText = ", ".intercalate arguments := by
  have htext : ∀ name, (ofArgument m name).text = name := fun name ↦
    text_of_isToken (isToken_ofArgument m name)
  induction arguments with
  | nil => rfl
  | cons name rest ih =>
    cases rest with
    | nil =>
      have hline : (build [name] m).plainText = (ofArgument m name).text ++ "" := String.join_cons
      rw [hline, htext, String.append_empty, String.intercalate_singleton]
    | cons next rest =>
      have hline : (build (name :: next :: rest) m).plainText =
          (ofArgument m name).text ++ (", " ++ (build (next :: rest) m).plainText) := by
        simp only [plainText, build, List.map_cons, List.intersperse_cons_cons, String.join_cons]
        rfl
      rw [hline, ih, htext, String.intercalate_cons_cons, String.append_assoc]

theorem map_column?_actionables (arguments : List String) (m : FeatureMapping) :
    (build arguments m).actionables.map (·.column?) = (arguments.filterMap m.get?).map some := by
  rw [actionables_build, List.map_filterMap, List.map_filterMap]
  refine List.filterMap_congr fun name _ ↦ ?_
  cases m.get? name <;> rfl

theorem activate_build_eq (arguments : List String) (m : FeatureMapping) (nth : Nat) :
    (build arguments m).activate nth = (arguments.filterMap m.get?)[nth]? := by
  have hcolumns : ((build arguments m).actionables.map (·.column?))[nth]? =
      ((arguments.filterMap m.get?).map some)[nth]? := by rw [map_column?_actionables]
  rw [List.getElem?_map, List.getElem?_map] at hcolumns
  rw [activate, actionable]
  cases hpiece : (build arguments m).actionables[nth]? with
  | none =>
    rw [hpiece] at hcolumns
    exact (Option.map_eq_none_iff.1 hcolumns.symm).symm
  | some piece =>
    rw [hpiece] at hcolumns
    obtain ⟨column, hcolumn, hsome⟩ := Option.map_eq_some_iff.1 hcolumns.symm
    rw [hcolumn, hsome]
    rfl

/-- The line of some arguments, whatever the mapping knows: its tokens are those of the arguments, one
for each and in their order, and lead where the mapping says; there is one separator less than there
are arguments, and each stands right between two tokens; the text is that of the arguments, joined; and
the references lead to the columns of the known names in the order of the arguments, and no further. -/
theorem line_build (arguments : List String) (m : FeatureMapping) :
    (List.Forall₂ (IsToken m) arguments (build arguments m).tokens ∧
      (build arguments m).tokens.map (·.column?) = arguments.map m.get?) ∧
    ((build arguments m).separatorCount = arguments.length - 1 ∧
      ∀ i, (build arguments m).pieces[i]? = some .separator → ∃ j left right, i = j + 1 ∧
        (build arguments m).pieces[j]? = some left ∧ left ≠ .separator ∧
        (build arguments m).pieces[j + 2]? = some right ∧ right ≠ .separator) ∧
    (build arguments m).plainText = ", ".intercalate arguments ∧
    ∀ nth, (build arguments m).activate nth = (arguments.filterMap m.get?)[nth]? := by
  refine ⟨⟨?_, ?_⟩, ⟨separatorCount_build arguments m, fun i hi ↦ ?_⟩, plainText_build arguments m,
    activate_build_eq arguments m⟩
  · rw [tokens_build, List.forall₂_map_right_iff]
    exact List.forall₂_same.2 fun name _ ↦ isToken_ofArgument m name
  · rw [tokens_build, List.map_map]
    exact List.map_congr_left fun name _ ↦ column?_of_isToken (isToken_ofArgument m name)
  · obtain ⟨j, name, next, rfl, hname, hnext⟩ := exists_of_separator hi
    have hleft := getElem?_pieces_even arguments m j
    have hright := getElem?_pieces_even arguments m (j + 1)
    rw [hname] at hleft
    rw [hnext] at hright
    exact ⟨2 * j, _, _, rfl, hleft, ne_separator_of_isToken (isToken_ofArgument m name),
      hright, ne_separator_of_isToken (isToken_ofArgument m next)⟩

def cities : FeatureMapping := .ofList [("age", 0), ("city", 4)]

theorem line_build_cities :
    (∃ left right, (build ["age", "zip", "age", "city"] cities).pieces[2]? = some left ∧
      (build ["age", "zip", "age", "city"] cities).pieces[4]? = some right ∧
      left ≠ .separator ∧ right ≠ .separator) ∧
    (build ["age", "zip", "age", "city"] cities).separatorCount = 3 ∧
    (build ["age", "zip", "age", "city"] cities).plainText = "age, zip, age, city" ∧
    (build ["age", "zip", "age", "city"] cities).activate 2 = some 4 ∧
    (build ["age", "zip", "age", "city"] cities).activate 3 = none := by
  obtain ⟨-, ⟨hcount, hbetween⟩, htext, hactivate⟩ :=
    line_build ["age", "zip", "age", "city"] cities
  obtain ⟨j, left, right, hj, hleft, hleftToken, hright, hrightToken⟩ := hbetween 3 rfl
  obtain rfl : 2 = j := Nat.succ.inj hj
  exact ⟨⟨left, right, hleft, hright, hleftToken, hrightToken⟩, hcount, htext,
    (hactivate 2).trans (by decide), (hactivate 3).trans (by decide)⟩

end References

end SuggestionReview
