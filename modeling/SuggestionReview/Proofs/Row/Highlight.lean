import SuggestionReview.Proofs.Row.Circle

namespace SuggestionReview

namespace StyledLine

def text (l : StyledLine) : String := String.join (l.map (·.text))

theorem text_append (l l' : StyledLine) : text (l ++ l') = text l ++ text l' := by
  rw [text, List.map_append, String.join_append]
  rfl

theorem text_cons (s : Span) (l : StyledLine) : text (s :: l) = s.text ++ text l := String.join_cons

end StyledLine

namespace Row

open StyledLine (text text_append text_cons)

variable {ε ν : Type} {r : Row ε ν}

def applyText (r : Row ε ν) : String :=
  match r.applyControl with
  | .visible => "[Apply] "
  | .busy => "[...] "
  | .hidden => ""

def labelText (r : Row ε ν) : String :=
  if r.numbered then toString (r.position + 1) ++ ". " else ""

theorem text_applySpans (r : Row ε ν) : text r.applySpans = r.applyText := by
  unfold applySpans applyText
  cases r.applyControl <;> rfl

theorem text_labelSpans (r : Row ε ν) : text r.labelSpans = r.labelText := by
  unfold labelSpans labelText label
  cases r.numbered with
  | true =>
    have hend : "." ++ (" " ++ text []) = ". " := by decide
    rw [if_pos rfl, if_pos rfl, text_cons, String.append_assoc, String.append_assoc, hend]
  | false => rfl

theorem text_pieceSpans (r : Row ε ν) (nth : Nat) (pieces : List ReferencePiece) :
    text (r.pieceSpans nth pieces) = String.join (pieces.map (·.text)) := by
  induction pieces generalizing nth with
  | nil => rfl
  | cons piece pieces ih =>
    rw [pieceSpans, List.map_cons, String.join_cons]
    split <;> rw [text_cons, ih]

theorem text_headerSpans (r : Row ε ν) :
    text r.headerSpans = r.applyText ++ r.labelText ++ r.header.plainText := by
  rw [headerSpans, text_append, text_append, text_cons, text_applySpans, text_labelSpans,
    RowHeader.plainText]
  congr 1
  split
  · rw [text_cons, text_pieceSpans, ← String.append_assoc]
    rfl
  · exact String.append_empty

def plainSpan (r : Row ε ν) (piece : ReferencePiece) : Span :=
  ⟨piece.text, if piece.isActionable then r.palette.referenceStyle else r.palette.normalStyle⟩

def leadingSpans (r : Row ε ν) : StyledLine :=
  r.applySpans ++ r.labelSpans ++ ⟨r.header.title, r.palette.titleStyle⟩ ::
    if r.header.hasColon then [⟨": ", r.palette.normalStyle⟩] else []

theorem headerSpans_eq (r : Row ε ν) :
    r.headerSpans = r.leadingSpans ++ r.pieceSpans 0 r.header.references.pieces := by
  cases hpieces : r.header.references.pieces with
  | nil =>
    have hcolon : r.header.hasColon = false := by
      simp [RowHeader.hasColon, References.isEmpty, hpieces]
    simp [headerSpans, leadingSpans, hcolon, pieceSpans]
  | cons piece pieces =>
    have hcolon : r.header.hasColon = true := by
      simp [RowHeader.hasColon, References.isEmpty, hpieces]
    simp [headerSpans, leadingSpans, hcolon, hpieces]

theorem pieceSpans_append (r : Row ε ν) (nth : Nat) (before after : List ReferencePiece) :
    r.pieceSpans nth (before ++ after) = r.pieceSpans nth before ++
      r.pieceSpans (nth + References.actionableCount ⟨before⟩) after := by
  induction before generalizing nth with
  | nil => rfl
  | cons piece before ih =>
    rw [List.cons_append, pieceSpans, pieceSpans, References.actionableCount_cons]
    split
    · rw [ih, List.cons_append, Nat.add_assoc]
    · rw [ih, List.cons_append, Nat.zero_add]

theorem pieceSpans_of_unchosen {nth : Nat} {pieces : List ReferencePiece}
    (h : r.focused = true → ∀ c, r.reference = some c → nth ≤ c →
      nth + References.actionableCount ⟨pieces⟩ ≤ c) :
    r.pieceSpans nth pieces = pieces.map r.plainSpan := by
  induction pieces generalizing nth with
  | nil => rfl
  | cons piece pieces ih =>
    rw [References.actionableCount_cons] at h
    rw [pieceSpans, List.map_cons, plainSpan]
    split
    · next hactionable =>
      rw [if_pos hactionable] at h
      have hunchosen : (r.focused && r.reference == some nth) = false := by
        rw [Bool.eq_false_iff]
        intro hchosen
        obtain ⟨hfocused, hreference⟩ := (Bool.and_eq_true _ _).mp hchosen
        have hpast := h hfocused nth (beq_iff_eq.1 hreference) (Nat.le_refl nth)
        omega
      rw [hunchosen, ih fun hfocused c hc hle ↦ ?_]
      · rfl
      · have hpast := h hfocused c hc (by omega)
        omega
    · next hinert =>
      rw [if_neg hinert, Nat.zero_add] at h
      rw [ih h]

/-- The chosen reference of a focused row is drawn in a style of its own, and everything else
plainly. -/
theorem headerSpans_of_chosen {c column : Nat} {name : String} {before after : List ReferencePiece}
    (hfocused : r.focused = true) (hreference : r.reference = some c)
    (hpieces : r.header.references.pieces = before ++ .reference name column :: after)
    (hbefore : References.actionableCount ⟨before⟩ = c) :
    r.headerSpans = r.leadingSpans ++ before.map r.plainSpan ++
      ⟨name, r.palette.focusedReferenceStyle⟩ :: after.map r.plainSpan := by
  have hfirst : r.pieceSpans 0 before = before.map r.plainSpan := by
    refine pieceSpans_of_unchosen fun _ c' hc' _ ↦ ?_
    obtain rfl := Option.some.inj (hreference.symm.trans hc')
    omega
  have hlast : r.pieceSpans (c + 1) after = after.map r.plainSpan := by
    refine pieceSpans_of_unchosen fun _ c' hc' hle ↦ ?_
    obtain rfl := Option.some.inj (hreference.symm.trans hc')
    omega
  have hchosen : (r.focused && r.reference == some c) = true := by
    rw [hfocused, hreference, Bool.true_and, beq_self_eq_true]
  have hactionable : (ReferencePiece.reference name column).isActionable = true := rfl
  rw [headerSpans_eq, hpieces, pieceSpans_append, hfirst, hbefore, Nat.zero_add, pieceSpans,
    if_pos hactionable, hlast, hchosen, List.append_assoc]
  rfl

theorem headerSpans_of_unchosen (h : ¬(r.focused = true ∧ r.reference.isSome = true)) :
    r.headerSpans = r.leadingSpans ++ r.header.references.pieces.map r.plainSpan := by
  rw [headerSpans_eq, pieceSpans_of_unchosen]
  intro hfocused c hc
  exact absurd ⟨hfocused, Option.isSome_of_eq_some hc⟩ h

/-- Whether a span is drawn as the chosen reference is. -/
def standsOut (r : Row ε ν) (s : Span) : Bool := s.style = r.palette.focusedReferenceStyle

theorem standsOut_of_not_reversed {s : Span} (h : s.style.emphasis.reversed = false) :
    r.standsOut s = false := by
  refine decide_eq_false fun hstyle ↦ ?_
  rw [hstyle] at h
  exact absurd h.symm Bool.false_ne_true

theorem standsOut_leadingSpans {s : Span} (hs : s ∈ r.leadingSpans) : r.standsOut s = false := by
  refine standsOut_of_not_reversed ?_
  unfold leadingSpans applySpans labelSpans at hs
  simp only [List.mem_append, List.mem_cons] at hs
  rcases hs with (hs | hs) | rfl | hs
  · split at hs <;> simp only [List.mem_singleton, List.not_mem_nil] at hs <;> rw [hs] <;> rfl
  · split at hs <;> simp only [List.mem_singleton, List.not_mem_nil] at hs
    rw [hs]
    rfl
  · rfl
  · split at hs <;> simp only [List.mem_singleton, List.not_mem_nil] at hs
    rw [hs]
    rfl

theorem standsOut_plainSpan (r : Row ε ν) (piece : ReferencePiece) :
    r.standsOut (r.plainSpan piece) = false := by
  refine standsOut_of_not_reversed ?_
  unfold plainSpan
  cases piece.isActionable <;> rfl

theorem countP_leadingSpans (r : Row ε ν) : r.leadingSpans.countP r.standsOut = 0 :=
  List.countP_eq_zero.2 fun _ hs ↦ Bool.eq_false_iff.1 (standsOut_leadingSpans hs)

theorem countP_plainSpan (r : Row ε ν) (pieces : List ReferencePiece) :
    (pieces.map r.plainSpan).countP r.standsOut = 0 := by
  refine List.countP_eq_zero.2 fun s hs ↦ ?_
  obtain ⟨piece, -, rfl⟩ := List.mem_map.1 hs
  exact Bool.eq_false_iff.1 (r.standsOut_plainSpan piece)

variable [PayloadEditor ε]

theorem InRange.exists_chosen (h : r.InRange) {c : Nat} (hc : r.reference = some c) :
    ∃ before name column after,
      r.header.references.pieces = before ++ .reference name column :: after ∧
      References.actionableCount ⟨before⟩ = c ∧
      (r.command .activateReference).event = some (.navigate column) := by
  obtain ⟨piece, column, hpiece, hcolumn⟩ := References.exists_activate (h c hc)
  obtain ⟨column', hactivate, hevent⟩ := h.exists_navigate hc
  obtain ⟨before, after, hpieces, hbefore⟩ := References.exists_split_of_actionable hpiece
  have hsame : column' = column := by
    rw [References.activate, hpiece, Option.bind_some, hcolumn] at hactivate
    exact (Option.some.inj hactivate).symm
  cases piece with
  | reference name column₀ =>
    obtain rfl : column₀ = column := Option.some.inj hcolumn
    exact ⟨before, name, column₀, after, hpieces, hbefore, hsame ▸ hevent⟩
  | label | separator => cases hcolumn

/-- Whatever was done to a new row, its header says what it has to, behind its controls; something
stands out in it exactly where the row is focused and a reference is chosen, and then nothing else
does; and that is the piece of the header that is followed. -/
theorem highlighted_performAll [Viewer ν]
    {start : Row ε ν} {os : List (Operation ν)} (hstart : start.IsNew)
    (hr : start.performAll os = r) :
    text r.headerSpans = r.applyText ++ r.labelText ++ r.header.plainText ∧
    r.headerSpans.countP r.standsOut = (if r.focused ∧ r.reference.isSome then 1 else 0) ∧
    (r.focused = true → ∀ c, r.reference = some c → ∃ before name column after,
      r.header.references.pieces = before ++ .reference name column :: after ∧
      References.actionableCount ⟨before⟩ = c ∧
      r.headerSpans = r.leadingSpans ++ before.map r.plainSpan ++
        ⟨name, r.palette.focusedReferenceStyle⟩ :: after.map r.plainSpan ∧
      (r.command .activateReference).event = some (.navigate column)) := by
  have hrange : r.InRange := hr ▸ (upToDate_performAll hstart.upToDate os).inRange
  refine ⟨r.text_headerSpans, ?_, fun hfocused c hc ↦ ?_⟩
  · split
    · next hchosen =>
      obtain ⟨c, hc⟩ := Option.isSome_iff_exists.1 hchosen.2
      obtain ⟨before, name, column, after, hpieces, hbefore, -⟩ := hrange.exists_chosen hc
      have hself : r.standsOut ⟨name, r.palette.focusedReferenceStyle⟩ = true := decide_eq_true rfl
      rw [headerSpans_of_chosen hchosen.1 hc hpieces hbefore, List.countP_append,
        List.countP_append, countP_leadingSpans, countP_plainSpan, List.countP_cons_of_pos hself,
        countP_plainSpan]
    · next hunchosen =>
      rw [headerSpans_of_unchosen hunchosen, List.countP_append, countP_leadingSpans,
        countP_plainSpan]
  · obtain ⟨before, name, column, after, hpieces, hbefore, hevent⟩ := hrange.exists_chosen hc
    exact ⟨before, name, column, after, hpieces, hbefore,
      headerSpans_of_chosen hfocused hc hpieces hbefore, hevent⟩

def focusing : List (Operation ν) :=
  [.capabilities .all, .place 4 true false true, .command .previousReference]

/-- Of two references with one name the one that stands out is the last one. -/
theorem highlighted_performAll_grouped :
    text (grouped.performAll focusing).headerSpans = "[Apply] 5. Group: age, zip, city, age" ∧
    (grouped.performAll focusing).headerSpans.countP (grouped.performAll focusing).standsOut = 1 ∧
    ∃ before name column after,
      (grouped.performAll focusing).header.references.pieces =
        before ++ .reference name column :: after ∧
      References.actionableCount ⟨before⟩ = 2 ∧
      ((grouped.performAll focusing).command .activateReference).event =
        some (.navigate column) := by
  have hr : grouped.performAll focusing = grouped.performAll focusing := rfl
  obtain ⟨htext, hcount, hchosen⟩ := highlighted_performAll isNew_grouped hr
  obtain ⟨before, name, column, after, hpieces, hbefore, -, hevent⟩ := hchosen rfl 2 rfl
  exact ⟨htext.trans (by decide +kernel), hcount, before, name, column, after, hpieces, hbefore,
    hevent⟩

end Row

end SuggestionReview
