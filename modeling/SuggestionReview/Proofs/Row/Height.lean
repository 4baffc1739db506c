import SuggestionReview.Editor.Document
import SuggestionReview.Proofs.Screen.Paragraph
import SuggestionReview.Proofs.Row.Operation

namespace SuggestionReview

open Text (laidOut splitLines Tame filledRows)

def RowContent.prose? : RowContent → Option String
  | message text => some text
  | options o => some o.summary
  | _ => none

theorem RowContent.prose?_eq_some_iff {content : RowContent} {text : String} :
    content.prose? = some text ↔
      content = .message text ∨ ∃ o, content = .options o ∧ o.summary = text := by
  cases content <;> simp [prose?]

namespace Row

variable {ε ν : Type} {r : Row ε ν} {a : Area} {width : Nat} {text : String}

/-- Where the content of a row is drawn: below the header, and above the border. -/
def contentArea (r : Row ε ν) (a : Area) : Area := ((r.border.inner a).splitTop 1).2

def drawFrame (r : Row ε ν) (a : Area) (c : Canvas) : Canvas :=
  r.drawHeader ((r.border.inner a).splitTop 1).1 ((c.restyle a r.baseStyle).drawBorder a r.border)

theorem height_contentArea (r : Row ε ν) (a : Area) :
    (r.contentArea a).height = a.height - (if r.bordered then 1 else 0) - 1 := by
  have hinner : (r.border.inner a).height = a.height - 0 - if r.bordered then 1 else 0 := rfl
  have hbelow : (r.contentArea a).height =
      (r.border.inner a).height - min 1 (r.border.inner a).height := rfl
  omega

variable [Viewer ν] [PayloadEditor ε]

theorem contentHeight?_of_prose? (htext : r.content.prose? = some text) (width : Nat) :
    r.contentHeight? width = some (toWord (filledRows width text)) := by
  obtain hmessage | ⟨o, hoptions, rfl⟩ := RowContent.prose?_eq_some_iff.1 htext
  · rw [contentHeight?, hmessage]
  · rw [contentHeight?, hoptions]

theorem height?_of_prose? (htext : r.content.prose? = some text)
    (hrows : 1 + filledRows width text + (if r.bordered then 1 else 0) < 65536) :
    r.height? width = some (1 + filledRows width text + if r.bordered then 1 else 0) := by
  have hcontent := contentHeight?_of_prose? htext width
  rw [toWord_of_lt (by omega)] at hcontent
  exact height?_of_contentHeight? hcontent hrows

theorem draw_of_prose? (htext : r.content.prose? = some text) (source : ViewerSource ν) (a : Area)
    (c : Canvas) : ∃ style, (r.draw source a c).canvas =
      (r.drawFrame a c).drawText (r.contentArea a) style (.wrap true) (plainLines text) := by
  have hdraw : r.draw source a c = r.drawContent source (r.contentArea a) (r.drawFrame a c) := rfl
  rw [hdraw]
  obtain hmessage | ⟨o, hoptions, rfl⟩ := RowContent.prose?_eq_some_iff.1 htext
  · exact ⟨r.palette.normalStyle, by simp only [drawContent, hmessage]⟩
  · exact ⟨r.palette.mutedStyle, by simp only [drawContent, hoptions]⟩

/-- The height that a row asks for is enough for a message or a summary whose lines are tame, where the
rows can be counted: it is laid out on no more lines than there are between the header and the border,
and all of them are drawn. -/
theorem drawn_whole (htext : r.content.prose? = some text) (hwidth : 1 ≤ width)
    (hrows : 1 + filledRows width text + (if r.bordered then 1 else 0) < 65536)
    (htame : ∀ line ∈ splitLines text.toList, Tame width line) :
    ∃ height, r.height? width = some height ∧
      (laidOut width text).length + 1 + (if r.bordered then 1 else 0) ≤ height ∧
      ∀ (source : ViewerSource ν) (a : Area) (c : Canvas), a.width = width → a.height = height →
        ∃ style, (r.draw source a c).canvas =
          ((r.drawFrame a c).restyle (r.contentArea a) style).drawRows (r.contentArea a).x
            (r.contentArea a).y (laidOut width text) := by
  have hfits := Text.length_laidOut_le hwidth htame
  refine ⟨_, height?_of_prose? htext hrows, by omega, ?_⟩
  rintro source a c rfl hheight
  obtain ⟨style, hdraw⟩ := draw_of_prose? htext source a c
  have hroom : (laidOut a.width text).length ≤ (r.contentArea a).height := by
    rw [height_contentArea]
    omega
  refine ⟨style, hdraw.trans ?_⟩
  have hall : (laidOut a.width text).take (r.contentArea a).height = laidOut a.width text :=
    List.take_of_length_le hroom
  rw [Canvas.drawText]
  split
  · next hempty =>
    have hnone : laidOut a.width text = [] := by
      have hcolumns : (r.contentArea a).width = a.width := rfl
      simp only [Area.isEmpty, hcolumns, Bool.or_eq_true, decide_eq_true_eq] at hempty
      exact List.length_eq_zero_iff.1 (by omega)
    rw [hnone]
    rfl
  · exact congrArg _ hall

def telling (message : String) : Row DocumentEditor :=
  new ⟨⟨"Sum", some message, ⟨.sum, .row, [], none, none, []⟩⟩, 0⟩ [] (.ofList []) 0 .dark .empty
    (.builtin 0)

def removalWords : List (List Char) :=
  ["Remove".toList, "4".toList, "rows,".toList, "then".toList, "sum".toList, "up.".toList]

theorem plainLine_removalWords : Text.PlainLine removalWords := by
  have hchars : (removalWords.flatten.all fun c ↦ decide (Text.PlainChar c)) = true := by
    decide +kernel
  have hplain := List.all_eq_true.1 hchars
  refine ⟨List.cons_ne_nil _ _, by decide +kernel, fun word hword c hc ↦ ?_, by decide +kernel⟩
  exact of_decide_eq_true (hplain c (List.mem_flatten_of_mem hword hc))

/-- A message that takes three lines of twelve columns. -/
theorem drawn_whole_words :
    (laidOut 12 "Remove 4 rows, then sum up.").length = 3 ∧
      ∃ height, (telling "Remove 4 rows, then sum up.").height? 12 = some height ∧ 3 + 1 ≤ height := by
  have hline : splitLines "Remove 4 rows, then sum up.".toList = [Text.spaced removalWords] := by
    decide +kernel
  have htame : ∀ line ∈ splitLines "Remove 4 rows, then sum up.".toList, Tame 12 line := by
    rw [hline]
    exact List.forall_mem_singleton.2 (.inr ⟨by decide, _, rfl, plainLine_removalWords⟩)
  have hlength : (laidOut 12 "Remove 4 rows, then sum up.").length = 3 := by decide +kernel
  have htext : (telling "Remove 4 rows, then sum up.").content.prose? =
      some "Remove 4 rows, then sum up." := by decide +kernel
  obtain ⟨height, hheight, hfits, -⟩ := drawn_whole htext (by decide) (by decide +kernel) htame
  rw [hlength] at hfits
  exact ⟨hlength, height, hheight, Nat.le_of_add_right_le hfits⟩

/-- A hyphened word is broken behind the hyphen to find the height, and not when it is drawn: the row
asks for two lines besides the header, and its message is laid out on three. -/
theorem cut_off_hyphened :
    (telling "aaa bbb-ccc ddd").isEditing = false ∧
      (telling "aaa bbb-ccc ddd").content.prose? = some "aaa bbb-ccc ddd" ∧
      ∃ height, (telling "aaa bbb-ccc ddd").height? 8 = some height ∧
        ¬(laidOut 8 "aaa bbb-ccc ddd").length ≤
          height - 1 - if (telling "aaa bbb-ccc ddd").bordered then 1 else 0 := by
  refine ⟨by decide +kernel, by decide +kernel, 3, by decide +kernel, by decide +kernel⟩

end Row

end SuggestionReview
