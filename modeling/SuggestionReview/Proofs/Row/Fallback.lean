import SuggestionReview.Proofs.Row.Height
import SuggestionReview.Proofs.Screen.Untrimmed

namespace SuggestionReview

namespace Text

theorem linesFrom_ne_nil {opened : List Char} (h : opened ≠ []) (cs : List Char) :
    linesFrom opened cs ≠ [] := by
  induction cs generalizing opened with
  | nil => simp [linesFrom, h]
  | cons c cs ih =>
    rw [linesFrom]
    split
    · exact List.cons_ne_nil _ _
    · exact ih (List.cons_ne_nil c opened)

theorem length_plainLines (s : String) : (plainLines s).length = max (lines s).length 1 := by
  rw [plainLines]
  split
  · next hempty =>
    obtain rfl := String.isEmpty_iff.1 hempty
    rfl
  · next hne =>
    have hlines : linesFrom [] s.toList ≠ [] := by
      cases hs : s.toList with
      | nil => exact absurd (String.isEmpty_iff.2 (String.toList_eq_nil_iff.1 hs)) hne
      | cons c cs =>
        rw [linesFrom]
        split
        · exact List.cons_ne_nil _ _
        · exact linesFrom_ne_nil (List.cons_ne_nil c []) cs
    have hone : 1 ≤ (lines s).length := by
      rw [lines, List.length_map]
      exact List.length_pos_iff.2 hlines
    rw [List.length_map]
    omega

def rawRows (columns : Nat) (s : String) : List (List Glyph) :=
  (plainLines s).flatMap fun l ↦ Wrap.wrap columns false (StyledLine.glyphs l)

/-- Plain code takes as many lines of the screen as it has exactly if none of them is broken. -/
theorem length_rawRows_le_iff (columns : Nat) (s : String) :
    (rawRows columns s).length ≤ (plainLines s).length ↔
      ∀ line ∈ plainLines s, (Wrap.wrap columns false (StyledLine.glyphs line)).length = 1 := by
  rw [rawRows, length_flatMap_eq_total]
  exact total_le_length_iff fun line _ ↦ Wrap.one_le_length_wrap columns false _

theorem rawRows_of_whole {columns : Nat} {s : String}
    (h : ∀ line ∈ plainLines s, Wrap.Whole columns (StyledLine.glyphs line)) :
    rawRows columns s = (plainLines s).map StyledLine.glyphs := by
  rw [rawRows, List.map_eq_flatMap]
  exact List.flatMap_congr fun line hline ↦ (h line hline).wrap

end Text

namespace Row

variable {ε ν : Type} {r : Row ε ν} {a : Area} {width : Nat} {text reason : String}

def failureBorder (r : Row ε ν) (reason : String) : Border where
  sides := { Sides.none with top := true }
  style := r.palette.errorStyle
  title := .ofText ("code (viewer unavailable: " ++ reason ++ ")")

def rawArea (r : Row ε ν) (reason : String) (a : Area) : Area :=
  (r.failureBorder reason).inner (r.contentArea a)

/-- A row with that line, and without the code. -/
def drawFailure (r : Row ε ν) (reason : String) (a : Area) (c : Canvas) : Canvas :=
  ((r.drawFrame a c).restyle (r.contentArea a) r.palette.codeStyle).drawBorder (r.contentArea a)
    (r.failureBorder reason)

theorem height_rawArea (r : Row ε ν) (reason : String) (a : Area) :
    (r.rawArea reason a).height = a.height - (if r.bordered then 1 else 0) - 2 := by
  have hinner : (r.rawArea reason a).height = (r.contentArea a).height - 1 - 0 := rfl
  have hcontent := r.height_contentArea a
  omega

variable [Viewer ν] [PayloadEditor ε]

theorem draw_of_failed (hcontent : r.content = .code text) (hviewer : r.viewer = .failed reason)
    (source : ViewerSource ν) (a : Area) (c : Canvas) : (r.draw source a c).canvas =
      (r.drawFailure reason a c).drawText (r.rawArea reason a) r.palette.codeStyle (.wrap false)
        (plainLines text) := by
  have hdraw : r.draw source a c = r.drawContent source (r.contentArea a) (r.drawFrame a c) := rfl
  rw [hdraw]
  simp only [drawContent, hcontent, hviewer]
  rfl

theorem height?_of_failed (hcontent : r.content = .code text) (hviewer : r.viewer = .failed reason)
    (hlines : (Text.lines text).length + 2 + (if r.bordered then 1 else 0) < 65536) (width : Nat) :
    r.height? width =
      some (1 + ((plainLines text).length + 1) + if r.bordered then 1 else 0) := by
  have hplain : (plainLines text).length = max (Text.lines text).length 1 :=
    Text.length_plainLines text
  have hword : toWord (Text.lines text).length = (Text.lines text).length :=
    toWord_of_lt (by omega)
  have hborder : (if r.bordered then 1 else 0) ≤ 1 := by split <;> decide
  have hrows : r.contentHeight? width = some ((plainLines text).length + 1) := by
    rw [contentHeight?, hcontent]
    simp only [hviewer, ViewerSlot.height?]
    rw [hword, hplain]
    exact addWords?_of_lt (by omega)
  exact height?_of_contentHeight? hrows (by omega)

theorem draw_rows_of_failed (hcontent : r.content = .code text) (hviewer : r.viewer = .failed reason)
    (hwidth : 1 ≤ a.width)
    (hheight : a.height = 1 + ((plainLines text).length + 1) + if r.bordered then 1 else 0)
    (source : ViewerSource ν) (c : Canvas) : (r.draw source a c).canvas =
      ((r.drawFailure reason a c).restyle (r.rawArea reason a) r.palette.codeStyle).drawRows
        (r.rawArea reason a).x (r.rawArea reason a).y
        ((Text.rawRows a.width text).take (plainLines text).length) := by
  have hroom : (r.rawArea reason a).height = (plainLines text).length := by
    rw [height_rawArea, hheight]
    omega
  have hone : 1 ≤ (plainLines text).length := by
    rw [Text.length_plainLines]
    exact Nat.le_max_right _ _
  have hcolumns : (r.rawArea reason a).width = a.width := rfl
  have hvisible : (r.rawArea reason a).isEmpty = false := by
    simp only [Area.isEmpty, Bool.or_eq_false_iff, decide_eq_false_iff_not]
    omega
  rw [draw_of_failed hcontent hviewer, Canvas.drawText, hvisible, hcolumns, hroom]
  rfl

/-- Of the lines of the screen that the plain code takes, as many are drawn as the code has lines
itself. These are all exactly if no line of the code is broken, and they are the lines of the code as
they are if all of them fit on the screen and are empty or more than blanks. -/
theorem raw_drawn (hcontent : r.content = .code text) (hviewer : r.viewer = .failed reason)
    (hwidth : 1 ≤ width)
    (hlines : (Text.lines text).length + 2 + (if r.bordered then 1 else 0) < 65536) :
    ∃ height, r.height? width = some height ∧
      (∀ (source : ViewerSource ν) (a : Area) (c : Canvas), a.width = width → a.height = height →
        (r.draw source a c).canvas =
          ((r.drawFailure reason a c).restyle (r.rawArea reason a) r.palette.codeStyle).drawRows
            (r.rawArea reason a).x (r.rawArea reason a).y
            ((Text.rawRows width text).take (plainLines text).length)) ∧
      (1 + (Text.rawRows width text).length ≤ height - 1 - (if r.bordered then 1 else 0) ↔
        ∀ line ∈ plainLines text, (Wrap.wrap width false (StyledLine.glyphs line)).length = 1) ∧
      ((∀ line ∈ plainLines text, Wrap.Whole width (StyledLine.glyphs line)) →
        1 + (Text.rawRows width text).length ≤ height - 1 - (if r.bordered then 1 else 0) ∧
          Text.rawRows width text = (plainLines text).map StyledLine.glyphs) := by
  have hfits : ∀ n, 1 + n ≤ 1 + ((plainLines text).length + 1) + (if r.bordered then 1 else 0) - 1 -
      (if r.bordered then 1 else 0) ↔ n ≤ (plainLines text).length := by
    intro n
    omega
  refine ⟨_, height?_of_failed hcontent hviewer hlines width, ?_, ?_, fun hwhole ↦ ?_⟩
  · rintro source a c rfl hheight
    exact draw_rows_of_failed hcontent hviewer hwidth hheight source c
  · rw [hfits]
    exact Text.length_rawRows_le_iff width text
  · have hrows := Text.rawRows_of_whole hwhole
    refine ⟨?_, hrows⟩
    rw [hfits, hrows, List.length_map]

def unviewed (code : String) : Row DocumentEditor :=
  new ⟨⟨"Filter", none, ⟨.filter, .row, [], some code, none, []⟩⟩, 0⟩ [] .empty 0 .dark .empty
    (.broken "gone")

def script : String := "a = 1\n\nb = 2"

theorem raw_drawn_script :
    ∃ height, (unviewed script).height? 9 = some height ∧ 1 + 3 ≤ height - 1 ∧
      (Text.rawRows 9 script).length = 3 := by
  have hwhole : ∀ line ∈ plainLines script, Wrap.Whole 9 (StyledLine.glyphs line) := by
    decide +kernel
  have hcontent : (unviewed script).content = .code script := rfl
  have hviewer : (unviewed script).viewer = .failed (ViewerSlot.failureText "gone") := rfl
  obtain ⟨height, hheight, -, -, hshown⟩ :=
    raw_drawn hcontent hviewer (by decide : 1 ≤ 9) (by decide +kernel)
  obtain ⟨hfits, hrows⟩ := hshown hwhole
  have hlength : (Text.rawRows 9 script).length = 3 := by
    rw [hrows, List.length_map]
    decide +kernel
  rw [hlength] at hfits
  exact ⟨height, hheight, hfits, hlength⟩

/-- A line of two words is broken between them, and the second one is cut off. -/
theorem cut_off_long :
    (unviewed "income <= 310.5").content = .code "income <= 310.5" ∧
      (unviewed "income <= 310.5").viewer = .failed (ViewerSlot.failureText "gone") ∧
      ∃ height, (unviewed "income <= 310.5").height? 10 = some height ∧
        ¬1 + (Text.rawRows 10 "income <= 310.5").length ≤
          height - 1 - if (unviewed "income <= 310.5").bordered then 1 else 0 :=
  ⟨rfl, rfl, 3, by decide +kernel, by decide +kernel⟩

end Row

end SuggestionReview
