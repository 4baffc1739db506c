import SuggestionReview.Proofs.Review.Run
import SuggestionReview.Proofs.Suggestion.RoundTrip

namespace SuggestionReview

open Json (Layout)
open Json.Reader (maxDepth exists_ok)
open Row (SameWork)

namespace Row

variable {ν : Type} {r r' : Row DocumentEditor ν}

structure Readable (r : Row DocumentEditor ν) : Prop where
  payload : r.suggestion.payload.Readable maxDepth
  draft : r.state.draft.Readable maxDepth

theorem Readable.sameWork (h : r.Readable) (hw : SameWork r r') : r'.Readable := by
  have hp : r'.suggestion = r.suggestion := congrArg Proposal.suggestion hw.proposal
  exact ⟨hp ▸ h.payload, hw.state ▸ h.draft⟩

theorem Readable.key (h : r.Readable) (k : KeyEvent) : (r.key k).row.Readable := by
  have hkeyed := r.keyed_key k
  generalize r.key k = out at hkeyed
  cases hkeyed with
  | idle hidle => exact h.sameWork hidle.sameWork
  | toggled => exact ⟨h.payload, r.draft_toggleEdit ▸ h.draft⟩
  | edited hr hk hl =>
    have hkeyed := r.editor.keyed_key k
    generalize hout : r.editor.key k = out at hkeyed
    cases hkeyed with
    | changed p hp =>
      rw [editorKey_draft hr hout]
      exact ⟨h.payload, Payload.readable_of_parse hp⟩
    | saved q hq =>
      rw [editorKey_save hr hout]
      exact ⟨h.payload, h.draft⟩
    | refused | broken | silent =>
      rw [editorKey_silent hout]
      exact ⟨h.payload, h.draft⟩

theorem Readable.saved (h : r.Readable) {k : KeyEvent} {p : Payload}
    (he : (r.key k).event = some (.save p)) : p.Readable maxDepth := by
  obtain ⟨-, -, q, hq, rfl⟩ := key_saves he
  exact h.draft.merge (Patch.readable_of_parse hq)

theorem Readable.setProposal (h : r.Readable) {given : Committed}
    (hp : given.payload.Readable maxDepth) (source : ViewerSource ν) :
    (r.setProposal (r.proposal.withPayload given) source).1.Readable := by
  refine ⟨?_, ?_⟩
  · rw [suggestion, proposal_setProposal]
    exact hp
  · rw [state_setProposal]
    simp only [EditState.step]
    split
    · exact h.draft
    · exact hp

end Row

namespace Review

variable {ν : Type} {l l' : Review DocumentEditor ν} {f : SuggestionFile} {palette : Palette}
  {bindings : Bindings} {t : String}

theorem Origin.readable {h : Happening} {r' : Row DocumentEditor ν} (ho : Origin l l' h r')
    (hl : ∀ r ∈ l.rows, r.Readable) : r'.Readable := by
  cases ho with
  | kept r hr hf hw => exact (hl r hr).sameWork hw
  | @keyed k _ r hr hf hw =>
    exact ((hl r (List.mem_of_getElem? hr)).key k).sameWork hw
  | @saved k _ r p hr he hf hw =>
    have h := hl r (List.mem_of_getElem? hr)
    exact ((h.key k).setProposal (h.saved he) l.source).sameWork hw

theorem readable_opened (hf : SuggestionFile.parse t = .ok f) :
    ∀ r ∈ (opened f palette bindings).rows, r.Readable := by
  intro r hr
  obtain ⟨m, hm, hw⟩ := exists_of_forall₂ (rows_opened f palette bindings) hr
  obtain ⟨i, hi, rfl⟩ := List.mem_mapIdx.1 hm
  have hs := (SuggestionFile.readable_of_parse hf).suggestions _ (List.getElem_mem hi)
  have hp : f.suggestions[i].payload.Readable maxDepth := Payload.Readable.mono hs (by decide)
  let start : Row DocumentEditor := newRow f palette bindings .empty i f.suggestions[i]
  have hstart : start.Readable := ⟨hp, hp⟩
  exact hstart.sameWork hw

theorem readable_run?
    {l : Review DocumentEditor} {hs : List Happening} (hf : SuggestionFile.parse t = .ok f)
    (hrun : (opened f palette bindings).run? hs = some l) : ∀ r ∈ l.rows, r.Readable :=
  run?_invariant (I := fun l ↦ ∀ r ∈ l.rows, r.Readable)
    (fun _ _ _ hl _ h _ hr ↦ ((turn_of_after? hl).origin hr).readable h) (readable_opened hf)
    (along_true _ hs) hrun

/-- A document of the suggestions of a review reads back, on one line and indented, whatever was done
to the review of the file they come from. -/
theorem reviewed_reads_back
    {l : Review DocumentEditor} {hs : List Happening} (hf : SuggestionFile.parse t = .ok f)
    (hrun : (opened f palette bindings).run? hs = some l) {g : SuggestionFile}
    (hg : g.suggestions = l.suggestions) (hm : ∀ m ∈ g.mapping, ∀ e ∈ m.entries, e.2 < twoTo 64)
    (hd : g.toValue.nesting ≤ maxDepth) (hr : g.toValue.RealsReadBack) :
    ∃ g', SuggestionFile.parse g.toValue.compact = .ok g' ∧
      SuggestionFile.parse g.toValue.pretty = .ok g' ∧ g'.suggestions = l.suggestions := by
  have hsuggestions : ∀ s ∈ g.suggestions, s.Readable (maxDepth + 1) := by
    intro s hs
    rw [hg] at hs
    obtain ⟨r, hr, rfl⟩ := List.mem_map.1 hs
    exact (readable_run? hf hrun r hr).payload
  have hparse := SuggestionFile.parse_write hsuggestions hm hd hr
  exact ⟨g.reread, hparse .compact, hparse (.indented 0), hg⟩

theorem reviewed_reads_back_saved :
    ∃ f, SuggestionFile.parse "\x7b\"actions\":[\x7b\"title\":\"Sum\",\"payload\":\x7b\"k\":[1.5],
      \"action_type\":\"sum\",\"axis\":\"row\",\"code\":null\x7d\x7d]\x7d" = .ok f ∧
    ∃ l ∈ (opened f .dark .standard).run? [.key (.press (.char 'e') .none),
        .key (.press .enter .none), .frame ⟨0, 0, 9, 4⟩ (.blank 9 4),
        .key (.press (.char 's') ⟨true, false, false⟩), .tick],
    ∃ g, SuggestionFile.parse { f with suggestions := l.suggestions }.toValue.pretty = .ok g ∧
      g.suggestions = l.suggestions := by
  refine (exists_ok (P := fun f ↦
    ∃ l ∈ (opened f .dark .standard).run? [.key (.press (.char 'e') .none),
        .key (.press .enter .none), .frame ⟨0, 0, 9, 4⟩ (.blank 9 4),
        .key (.press (.char 's') ⟨true, false, false⟩), .tick],
      { f with suggestions := l.suggestions }.toValue.nesting ≤ maxDepth ∧
        { f with suggestions := l.suggestions }.toValue.RealsReadBack)
    (by decide +kernel)).imp fun f ⟨hf, l, hl, hd, hr⟩ ↦ ⟨hf, l, hl, ?_⟩
  have hm := fun m hm ↦ ((SuggestionFile.readable_of_parse hf).mapping m hm).inRange
  obtain ⟨g, -, hg, hs⟩ :=
    reviewed_reads_back hf hl (g := { f with suggestions := l.suggestions }) rfl hm hd hr
  exact ⟨g, hg, hs⟩

end Review

end SuggestionReview
