import SuggestionReview.Proofs.Json.Yields
import SuggestionReview.Proofs.Payload.RoundTrip
import SuggestionReview.Suggestion.Load

namespace SuggestionReview

open Json (Value Number)
open Json.Reader (Yields maxDepth listOf nullable text yields_true)

variable {d : Nat}

theorem PayloadFields.Readable.mono {d' : Nat} {f : PayloadFields} (h : f.Readable d)
    (hd : d ≤ d') : f.Readable d' :=
  ⟨h.verb, h.options, fun m hm ↦
    let hm := h.extra m hm
    ⟨hm.other, hm.collected, Nat.lt_of_lt_of_le hm.nesting hd, hm.inRange⟩⟩

theorem Payload.Readable.mono {d' : Nat} {p : Payload} (h : p.Readable d) (hd : d ≤ d') :
    p.Readable d' :=
  ⟨h.fields.mono hd, h.nodup⟩

theorem payload_yields : Yields (Payload.read d) (·.Readable d) := by
  intro c p c' h
  obtain ⟨v, hv, hp⟩ := payload_reports _ _ _ h
  exact hp.readable (Json.bounds_of_verbatim hv).1 (Json.bounds_of_verbatim hv).2

def Suggestion.Readable (d : Nat) (s : Suggestion) : Prop := s.payload.Readable (d - 1)

theorem Suggestion.Readable.mono {d' : Nat} {s : Suggestion} (h : s.Readable d) (hd : d ≤ d') :
    s.Readable d' :=
  Payload.Readable.mono h (Nat.sub_le_sub_right hd 1)

theorem Suggestion.visit_yields {d' : Nat} (hd : d' < d) {f : Fields} {key : String}
    (hf : ∀ p ∈ f.payload, p.Readable (d - 1)) :
    Yields (Fields.visit d' f key) fun f ↦ ∀ p ∈ f.payload, p.Readable (d - 1) := by
  have hp : Yields (Payload.read d') (·.Readable (d - 1)) :=
    payload_yields.mono fun p hp ↦ hp.mono (Nat.le_sub_one_of_lt hd)
  unfold Fields.visit
  split
  · exact .bind (yields_true _) fun _ _ ↦ .pure hf
  · exact .bind (yields_true _) fun _ _ ↦ .pure hf
  · exact .bind (.once hp) fun p hp ↦ .pure (by rintro _ ⟨⟩; exact hp)
  · exact .bind (yields_true _) fun _ _ ↦ .pure hf

theorem Suggestion.inOrder_yields {d' : Nat} (hd : d' < d) :
    Yields (inOrder d') (·.Readable d) := by
  have hp : Yields (Payload.read d') (·.Readable (d - 1)) :=
    payload_yields.mono fun p hp ↦ hp.mono (Nat.le_sub_one_of_lt hd)
  unfold inOrder
  refine .bind (yields_true _) fun title _ ↦ ?_
  cases title with
  | none => exact .mismatch _
  | some title =>
    refine .bind (yields_true _) fun message _ ↦ .bind (.fieldInOrder? hp) fun payload hpay ↦ ?_
    cases payload with
    | none => exact .mismatch _
    | some p => exact .pure (hpay p rfl)

theorem suggestion_yields : Yields (Suggestion.read d) (·.Readable d) := by
  refine .recordOf (.objectOf (fun d' hd f key ↦ Suggestion.visit_yields hd) (by simp)
    fun f hf ↦ ?_) fun d' hd ↦ Suggestion.inOrder_yields hd
  refine .bind (yields_true _) fun title _ ↦ .bind (.required hf) fun p hp ↦ .pure hp

structure FeatureMapping.Readable (m : FeatureMapping) : Prop where
  nodup : m.entries.keys.Nodup
  inRange : ∀ e ∈ m.entries, e.2 < twoTo 64

theorem index_yields : Yields Json.Reader.index (· < twoTo 64) := by
  intro c i c' h
  have hv := (Json.Reader.index_eq_ok (d := 0)).1 h
  have hi := (Json.bounds_of_verbatim hv).2 (.integer i) (by simp [Value.numbers])
  simp only [Number.InRange] at hi
  omega

theorem mapping_yields : Yields (FeatureMapping.read d) FeatureMapping.Readable := by
  refine .objectOf (I := FeatureMapping.Readable) (fun d' _ m name hm ↦ ?_)
    ⟨List.nodup_nil, by simp [FeatureMapping.empty]⟩ fun m hm ↦ .pure hm
  refine .bind (yields_true _) fun _ _ ↦ .bind index_yields fun i hi ↦
    .pure ⟨Entries.nodup_keys_insert hm.nodup name i, fun e he ↦ ?_⟩
  rcases Entries.mem_of_mem_insert he with rfl | he
  · exact hi
  · exact hm.inRange e he

structure SuggestionFile.Readable (d : Nat) (f : SuggestionFile) : Prop where
  suggestions : ∀ s ∈ f.suggestions, s.Readable (d - 2)
  mapping : ∀ m ∈ f.mapping, m.Readable

theorem suggestions_yields {d' : Nat} (hd : d' < d) :
    Yields (listOf Suggestion.read d') fun list ↦ ∀ s ∈ list, s.Readable (d - 2) :=
  .listOf fun d'' hd'' ↦ suggestion_yields.mono fun s hs ↦ hs.mono (by omega)

structure SuggestionFile.Fields.Readable (d : Nat) (f : SuggestionFile.Fields) : Prop where
  suggestions : ∀ list ∈ f.suggestions, ∀ s ∈ list, s.Readable (d - 2)
  mapping : ∀ m ∈ f.mapping.join, m.Readable

theorem SuggestionFile.visit_yields {d' : Nat} (hd : d' < d) {f : Fields} {key : String}
    (hf : f.Readable d) : Yields (Fields.visit d' f key) (·.Readable d) := by
  unfold Fields.visit
  split
  · exact .bind (yields_true _) fun _ _ ↦ .pure ⟨hf.suggestions, hf.mapping⟩
  · exact .bind (.once (suggestions_yields hd)) fun list hlist ↦
      .pure ⟨by rintro _ ⟨⟩; exact hlist, hf.mapping⟩
  · exact .bind (.once (.nullable mapping_yields)) fun m hm ↦
      .pure ⟨hf.suggestions, by simpa using hm⟩
  · exact .bind (yields_true _) fun _ _ ↦ .pure hf

theorem SuggestionFile.inOrder_yields {d' : Nat} (hd : d' < d) :
    Yields (inOrder d') (·.Readable d) := by
  unfold inOrder
  refine .bind (yields_true _) fun features _ ↦ ?_
  cases features with
  | none => exact .pure ⟨by simp, by simp⟩
  | some features =>
    refine .bind (.fieldInOrder? (suggestions_yields hd)) fun list hlist ↦ ?_
    cases list with
    | none => exact .pure ⟨by simp, by simp⟩
    | some list =>
      refine .bind (.fieldInOrder? (.nullable mapping_yields)) fun m hm ↦
        .pure ⟨hlist list rfl, fun m' hm' ↦ ?_⟩
      obtain ⟨m'', rfl, hm''⟩ := Option.join_eq_some_iff.1 hm'
      exact hm _ rfl m' rfl

theorem file_yields : Yields (SuggestionFile.read d) (·.Readable d) := by
  refine .recordOf (.objectOf (I := SuggestionFile.Fields.Readable d)
    (fun d' hd f key ↦ SuggestionFile.visit_yields hd) ⟨by simp, by simp⟩ fun f hf ↦ ?_)
    fun d' hd ↦ SuggestionFile.inOrder_yields hd
  refine .pure ⟨?_, hf.mapping⟩
  cases hs : f.suggestions with
  | none => simp
  | some list => exact hf.suggestions list hs

end SuggestionReview
