import SuggestionReview.Editor.Document
import SuggestionReview.Proofs.Json.Printed
import SuggestionReview.Proofs.Payload.RoundTrip
import SuggestionReview.Proofs.Row.Work
import SuggestionReview.Proofs.Text.Lines

namespace SuggestionReview

theorem TextArea.lines_ofLines {b : Buffer} (h : b ≠ []) : (ofLines b).lines = b := by
  rw [ofLines, List.isEmpty_eq_false_iff.2 h]
  rfl

namespace DocumentEditor

/-- No line of the document is lost or split. -/
theorem lines_seed (p : Payload) : (seed p).area.lines = Text.splitLines p.toValue.pretty.toList := by
  obtain ⟨front, hfront⟩ := Json.write_object_eq_concat (.indented 0) p.fields.written
  rw [← p.toValue_eq] at hfront
  have hreturn : '\r' ∉ front := fun h ↦
    absurd (p.toValue.printed_write (.indented 0) '\r' (hfront ▸ List.mem_append_left _ h))
      (by decide)
  have hpretty : p.toValue.pretty.toList = front ++ ['\x7d'] := by
    rw [Json.Value.pretty, String.toList_ofList, hfront]
  have hlines : Text.linesFrom [] (front ++ ['\x7d']) = Text.splitLines (front ++ ['\x7d']) :=
    (Text.linesFrom_of_ne (by decide) List.not_mem_nil hreturn).trans
      (Text.opening_nil (Text.splitLines_ne_nil _))
  rw [← hpretty] at hlines
  have hchars : (Text.lines p.toValue.pretty).map (·.toList) =
      Text.splitLines p.toValue.pretty.toList := by
    simp only [Text.lines, List.map_map, Function.comp_def, String.toList_ofList, List.map_id', hlines]
  rw [seed, hchars, TextArea.lines_ofLines (Text.splitLines_ne_nil _)]

theorem text_seed (p : Payload) : (seed p).text = p.toValue.pretty := by
  have hjoined := Text.intercalate_splitLines p.toValue.pretty.toList []
  rw [Text.opening_nil (Text.splitLines_ne_nil _)] at hjoined
  rw [text, TextArea.text, Buffer.text, lines_seed, hjoined, List.reverse_nil, List.nil_append,
    String.ofList_toList]

theorem parse_seed {p : Payload} (h : p.Readable Json.Reader.maxDepth)
    (hr : p.toValue.RealsReadBack) : Payload.parse (seed p).text = .ok p := by
  rw [text_seed]
  exact h.parse_write hr (.indented 0)

open Json.Reader (exists_ok)

variable {p : Payload}

/-- Opening and saving changes nothing: every line of the document is there as it is written, nothing
is wrong with it, and what is saved makes no difference to the payload. -/
theorem key_seed {t : String} (h : Payload.parse t = .ok p) (hr : p.toValue.RealsReadBack)
    (e : DocumentEditor) :
    (PayloadEditor.seed e p).text = p.toValue.pretty ∧
    (PayloadEditor.seed e p).area.lines = Text.splitLines p.toValue.pretty.toList ∧
    (PayloadEditor.seed e p).fault = none ∧
    ∀ k : KeyEvent, k.code = .char 's' → k.modifiers.control = true →
      ∃ q, PayloadEditor.key (PayloadEditor.seed e p) k =
          (PayloadEditor.seed e p, some (.save q)) ∧
        p.merge q = p := by
  refine ⟨text_seed p, lines_seed p, rfl, fun k hc hm ↦ ?_⟩
  have hparse := parse_seed (Payload.readable_of_parse h) hr
  obtain ⟨q, hq, hmerge⟩ := Payload.merge_of_parse hparse
  exact ⟨q, key_save_ok hc hm hq, hmerge⟩

theorem key_seed_code :
    ∃ p, Payload.parse "\x7b\"z\":[1.5],\"action_type\":\"sum\",\"axis\":\"row\",\"code\":\"x\\r\\ny\u2028z\",\"a\":null\x7d" =
        .ok p ∧
      (seed p).area.lines.length = 10 ∧
      ∃ q, PayloadEditor.key (PayloadEditor.seed empty p) (.press (.char 's') ⟨true, false, false⟩) =
          (PayloadEditor.seed empty p, some (.save q)) ∧
        p.merge q = p := by
  obtain ⟨p, hp, hr, hlines⟩ := exists_ok
    (r := Payload.parse "\x7b\"z\":[1.5],\"action_type\":\"sum\",\"axis\":\"row\",\"code\":\"x\\r\\ny\u2028z\",\"a\":null\x7d")
    (P := fun p ↦ p.toValue.RealsReadBack ∧ (seed p).area.lines.length = 10)
    (by decide +kernel)
  obtain ⟨-, -, -, hsaved⟩ := key_seed hp hr empty
  obtain ⟨q, hkey, hmerge⟩ := hsaved (.press (.char 's') ⟨true, false, false⟩) rfl rfl
  exact ⟨p, hp, hlines, q, hkey, hmerge⟩

end DocumentEditor

end SuggestionReview
