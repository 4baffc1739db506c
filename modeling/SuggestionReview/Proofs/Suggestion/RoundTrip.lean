import SuggestionReview.Proofs.Suggestion.Readable

namespace SuggestionReview

open Json (Value Cursor Layout document)
open Json.Reader

variable {d : Nat} {c c' : Cursor}

theorem recordOf_accepts {α σ : Type} {expected : String} {visit : Nat → σ → String → Json.Reader σ}
    {start : σ} {finish : σ → Json.Reader α} {inOrder : Nat → Json.Reader α}
    {R : σ → String × Value → σ → Prop} {F : σ → α → Prop}
    (h : Accepts (objectOf expected visit start finish d) d (ObjectStands R F start)) :
    Accepts (recordOf expected visit start finish inOrder d) d (ObjectStands R F start) := by
  intro c _ a c' hv h
  obtain ⟨ms, s, rfl, hR⟩ := h
  obtain ⟨c₁, d', c₂, hs, rfl, -, -⟩ := verbatim_object_eq_ok.1 hv
  rw [recordOf, bind_of_ok hs]
  obtain ⟨rfl, -⟩ := valueStart_eq_ok.1 hs
  exact h _ _ _ _ (verbatim_skipBlank.trans hv) ⟨ms, s, rfl, hR⟩

namespace Suggestion

def Fields.Taken (f : Fields) (m : String × Value) (f' : Fields) : Prop :=
  (m.1 = "title" ∧ f.title = none ∧
      ∃ a, TextStands m.2 a ∧ f' = { f with title := some a }) ∨
    (m.1 = "message" ∧ f.message = none ∧
      ∃ a, NullableStands TextStands m.2 a ∧ f' = { f with message := some a }) ∨
    (m.1 = "payload" ∧ f.payload = none ∧
      ∃ a, PayloadStands m.2 a ∧ f' = { f with payload := some a })

def Fields.Finished (f : Fields) (s : Suggestion) : Prop :=
  f.title = some s.title ∧ f.message.join = s.message ∧ f.payload = some s.payload

def Stands : Value → Suggestion → Prop :=
  ObjectStands Fields.Taken Fields.Finished ⟨none, none, none⟩

theorem visit_accepts {f f' : Fields} {key : String} {v : Value}
    (hv : memberValue d c = .ok (v, c')) (h : Fields.Taken f (key, v) f') :
    Fields.visit d f key c = .ok (f', c') := by
  rcases h with ⟨rfl, h⟩ | ⟨rfl, h⟩ | ⟨rfl, h⟩
  · exact set_accepts text_accepts hv h
  · exact set_accepts (nullable_accepts text_accepts) hv h
  · exact set_accepts payload_accepts hv h

theorem accepts : Accepts (read d) d Stands := by
  refine recordOf_accepts (objectOf_accepts (fun _ _ _ _ _ _ _ ↦ visit_accepts) ?_)
  intro f c s h
  obtain ⟨ht, hm, hp⟩ := h
  simp [Fields.finish, required, ht, hm, hp]

theorem Readable.stands {s : Suggestion} (h : s.Readable d) : Stands s.toValue s := by
  have hmessage := steps_optionalMember (R := Fields.Taken) "message" .text
    (⟨some s.title, ·.map some, none⟩) s.message fun a _ ↦
      .inr (.inl ⟨rfl, rfl, some a, ⟨by simp, rfl⟩, rfl⟩)
  have hpayload : Steps Fields.Taken ⟨some s.title, s.message.map some, none⟩
      [("payload", s.payload.toValue)] ⟨some s.title, s.message.map some, some s.payload⟩ :=
    ⟨_, .inr (.inr ⟨rfl, rfl, s.payload, Payload.Readable.stands h, rfl⟩), rfl⟩
  have hmembers := steps_append.2 ⟨_, hmessage, hpayload⟩
  exact ⟨_, _, rfl, ⟨⟨some s.title, none, none⟩, .inl ⟨rfl, rfl, _, rfl, rfl⟩, hmembers⟩,
    rfl, join_map_some s.message, rfl⟩

theorem toValue_all {P : Value → Prop} {s : Suggestion} (text : ∀ t, P (.text t))
    (payload : P s.payload.toValue) : ∃ ms, s.toValue = .object ms ∧ ∀ m ∈ ms, P m.2 := by
  refine ⟨_, rfl, fun m hm ↦ ?_⟩
  simp only [List.cons_append, List.mem_cons, List.mem_append, List.not_mem_nil, or_false] at hm
  rcases hm with rfl | hm | rfl
  · exact text _
  · cases hs : s.message with
    | none => simp [hs, optionalMember] at hm
    | some t =>
      obtain rfl : m = ("message", .text t) := by simpa [hs, optionalMember] using hm
      exact text t
  · exact payload

theorem Readable.nesting_toValue {s : Suggestion} (h : s.Readable d) (hd : 3 ≤ d) :
    s.toValue.nesting ≤ d := by
  obtain ⟨d, rfl⟩ := Nat.exists_eq_succ_of_ne_zero (Nat.ne_zero_of_lt hd)
  obtain ⟨ms, hms, hm⟩ := toValue_all (P := fun v ↦ v.nesting ≤ d) (fun _ ↦ Nat.zero_le d)
    (Payload.Readable.nesting_toValue h (Nat.le_of_succ_le_succ hd))
  rw [hms]
  exact Json.nesting_object_le.2 hm

theorem Readable.inRange_toValue {s : Suggestion} (h : s.Readable d) :
    ∀ n ∈ s.toValue.numbers, n.InRange := by
  obtain ⟨ms, hms, hm⟩ := toValue_all (P := fun v ↦ ∀ n ∈ v.numbers, n.InRange)
    (by simp [Value.numbers]) (Payload.Readable.inRange_toValue h)
  intro n hn
  rw [hms] at hn
  obtain ⟨m, hmem, hn⟩ := Json.mem_numbers_object.1 hn
  exact hm m hmem n hn

theorem Readable.parse_write {s : Suggestion} (h : s.Readable maxDepth)
    (hr : s.toValue.RealsReadBack) (layout : Layout) :
    parse (String.ofList (s.toValue.write layout)) = .ok s :=
  accepts.run (Json.document_write (h.nesting_toValue (by decide)) (hr.readsBack h.inRange_toValue)
    layout) h.stands

theorem readable_of_parse {t : String} {s : Suggestion} (h : parse t = .ok s) :
    s.Readable maxDepth := by
  obtain ⟨c, hs, -⟩ := run_eq_ok.1 h
  exact suggestion_yields _ _ _ hs

end Suggestion

namespace Feature

def Fields.Taken (f : Fields) (m : String × Value) (f' : Fields) : Prop :=
  (m.1 = "uuid" ∧ f.id = none ∧ ∃ a, TextStands m.2 a ∧ f' = { f with id := some a }) ∨
    (m.1 = "column_type" ∧ f.columnType = none ∧
      ∃ a, NullableStands TextStands m.2 a ∧ f' = { f with columnType := some a })

def Fields.Finished (f : Fields) (x : Feature) : Prop :=
  f.id = some x.id ∧ f.columnType.join = x.columnType

def Stands : Value → Feature → Prop :=
  ObjectStands Fields.Taken Fields.Finished ⟨none, none⟩

theorem visit_accepts {f f' : Fields} {key : String} {v : Value}
    (hv : memberValue d c = .ok (v, c')) (h : Fields.Taken f (key, v) f') :
    Fields.visit d f key c = .ok (f', c') := by
  rcases h with ⟨rfl, h⟩ | ⟨rfl, h⟩
  · exact set_accepts text_accepts hv h
  · exact set_accepts (nullable_accepts text_accepts) hv h

theorem accepts : Accepts (read d) d Stands := by
  refine recordOf_accepts (objectOf_accepts (fun _ _ _ _ _ _ _ ↦ visit_accepts) ?_)
  intro f c x h
  obtain ⟨hi, ht⟩ := h
  simp [Fields.finish, required, hi, ht]

theorem stands_toValue (x : Feature) : Stands x.toValue x := by
  have hcolumnType := steps_optionalMember (R := Fields.Taken) "column_type" .text
    (⟨some x.id, ·.map some⟩) x.columnType fun a _ ↦
      .inr ⟨rfl, rfl, some a, ⟨by simp, rfl⟩, rfl⟩
  exact ⟨_, _, rfl, ⟨⟨some x.id, none⟩, .inl ⟨rfl, rfl, _, rfl, rfl⟩, hcolumnType⟩, rfl,
    join_map_some x.columnType⟩

theorem toValue_all {P : Value → Prop} {x : Feature} (text : ∀ t, P (.text t)) :
    ∃ ms, x.toValue = .object ms ∧ ∀ m ∈ ms, P m.2 := by
  refine ⟨_, rfl, fun m hm ↦ ?_⟩
  rcases List.mem_cons.1 hm with rfl | hm
  · exact text _
  · cases hs : x.columnType with
    | none => simp [hs, optionalMember] at hm
    | some t =>
      obtain rfl : m = ("column_type", .text t) := by simpa [hs, optionalMember] using hm
      exact text t

theorem nesting_toValue (x : Feature) : x.toValue.nesting ≤ 1 := by
  obtain ⟨ms, hms, hm⟩ := toValue_all (P := fun v ↦ v.nesting ≤ 0) (x := x) fun _ ↦ Nat.le_refl 0
  rw [hms]
  exact Json.nesting_object_le.2 hm

theorem numbers_toValue (x : Feature) : x.toValue.numbers = [] := by
  obtain ⟨ms, hms, hm⟩ := toValue_all (P := fun v ↦ v.numbers = []) (x := x) fun _ ↦ rfl
  refine List.eq_nil_iff_forall_not_mem.2 fun n hn ↦ ?_
  rw [hms] at hn
  obtain ⟨m, hmem, hn⟩ := Json.mem_numbers_object.1 hn
  simp [hm m hmem] at hn

end Feature

namespace FeatureMapping

def toValue (m : FeatureMapping) : Value :=
  .object (m.entries.map fun (name, i) ↦ (name, .number (.integer i)))

def Taken (m : FeatureMapping) (x : String × Value) (m' : FeatureMapping) : Prop :=
  ∃ i : Nat, x.2 = .number (.integer i) ∧ m' = m.insert x.1 i

def Stands : Value → FeatureMapping → Prop :=
  ObjectStands Taken (fun m m' ↦ m = m') empty

theorem accepts : Accepts (read d) d Stands := by
  refine objectOf_accepts ?_ (by rintro m c _ rfl; rfl)
  intro d m name c _ _ c' hv h
  obtain ⟨i, rfl, rfl⟩ := h
  obtain ⟨_, c₁, hcol, hv⟩ := bind_eq_ok.1 hv
  rw [bind_of_ok hcol, bind_of_ok (index_eq_ok.2 hv)]
  rfl

theorem steps_taken (entries : Entries Nat) (m : FeatureMapping) :
    Steps Taken m (entries.map fun (name, i) ↦ (name, .number (.integer i)))
      ⟨m.entries.insertAll entries⟩ := by
  induction entries generalizing m with
  | nil => rfl
  | cons e entries ih => exact ⟨m.insert e.1 e.2, ⟨e.2, rfl, rfl⟩, ih _⟩

theorem stands_toValue (m : FeatureMapping) : Stands m.toValue ⟨Entries.ofList m.entries⟩ :=
  ⟨_, _, rfl, steps_taken m.entries empty, rfl⟩

theorem nesting_toValue (m : FeatureMapping) : m.toValue.nesting ≤ 1 := by
  refine Json.nesting_object_le.2 fun x hx ↦ ?_
  obtain ⟨e, -, rfl⟩ := List.mem_map.1 hx
  exact Nat.le_refl 0

theorem mem_numbers_toValue {m : FeatureMapping} {n : Json.Number} :
    n ∈ m.toValue.numbers ↔ ∃ e ∈ m.entries, n = .integer e.2 := by
  rw [toValue, Json.mem_numbers_object]
  simp [Value.numbers]

end FeatureMapping

namespace SuggestionFile

def Fields.Taken (f : Fields) (m : String × Value) (f' : Fields) : Prop :=
  (m.1 = "features" ∧ f.features = none ∧
      ∃ a, ListStands Feature.Stands m.2 a ∧ f' = { f with features := some a }) ∨
    (m.1 = "actions" ∧ f.suggestions = none ∧
      ∃ a, ListStands Suggestion.Stands m.2 a ∧ f' = { f with suggestions := some a }) ∨
    (m.1 = "feature_id_mapping" ∧ f.mapping = none ∧
      ∃ a, NullableStands FeatureMapping.Stands m.2 a ∧ f' = { f with mapping := some a })

def Fields.Finished (f : Fields) (x : SuggestionFile) : Prop :=
  x = ⟨f.features.getD [], f.suggestions.getD [], f.mapping.join⟩

def Stands : Value → SuggestionFile → Prop :=
  ObjectStands Fields.Taken Fields.Finished ⟨none, none, none⟩

theorem visit_accepts {f f' : Fields} {key : String} {v : Value}
    (hv : memberValue d c = .ok (v, c')) (h : Fields.Taken f (key, v) f') :
    Fields.visit d f key c = .ok (f', c') := by
  rcases h with ⟨rfl, h⟩ | ⟨rfl, h⟩ | ⟨rfl, h⟩
  · exact set_accepts (listOf_accepts fun _ ↦ Feature.accepts) hv h
  · exact set_accepts (listOf_accepts fun _ ↦ Suggestion.accepts) hv h
  · exact set_accepts (nullable_accepts FeatureMapping.accepts) hv h

theorem accepts : Accepts (read d) d Stands := by
  refine recordOf_accepts (objectOf_accepts (fun _ _ _ _ _ _ _ ↦ visit_accepts) ?_)
  rintro f c _ rfl
  rfl

/-- The file as it is read back: positions that names are given twice count once. -/
def reread (f : SuggestionFile) : SuggestionFile :=
  { f with mapping := f.mapping.map fun m ↦ ⟨Entries.ofList m.entries⟩ }

theorem reread_of_nodup (f : SuggestionFile) (h : ∀ m ∈ f.mapping, m.entries.keys.Nodup) :
    f.reread = f := by
  obtain ⟨features, suggestions, mapping⟩ := f
  cases mapping with
  | none => rfl
  | some m => rw [reread, Option.map_some, Entries.ofList_of_nodup (h m rfl)]

theorem listStands_map {α : Type} {R : Value → α → Prop} {write : α → Value} {as : List α}
    (h : ∀ a ∈ as, R (write a) a) : ListStands R (.array (as.map write)) as :=
  ⟨_, rfl, List.forall₂_map_left_iff.2 (List.forall₂_same.2 h)⟩

theorem stands_toValue {f : SuggestionFile} (h : ∀ s ∈ f.suggestions, s.Readable d) :
    Stands f.toValue f.reread := by
  have hfields : Steps Fields.Taken ⟨none, none, none⟩
      [("features", .array (f.features.map (·.toValue))),
        ("actions", .array (f.suggestions.map (·.toValue)))]
      ⟨some f.features, some f.suggestions, none⟩ :=
    ⟨_, .inl ⟨rfl, rfl, _, listStands_map fun x _ ↦ x.stands_toValue, rfl⟩,
      _, .inr (.inl ⟨rfl, rfl, _, listStands_map fun s hs ↦ (h s hs).stands, rfl⟩), rfl⟩
  have hmapping := steps_optionalMember (R := Fields.Taken) "feature_id_mapping"
    FeatureMapping.toValue
    (fun o ↦ ⟨some f.features, some f.suggestions,
      o.map fun m ↦ some ⟨Entries.ofList m.entries⟩⟩) f.mapping fun m _ ↦
      .inr (.inr ⟨rfl, rfl, some _, ⟨by simp [FeatureMapping.toValue], m.stands_toValue⟩, rfl⟩)
  refine ⟨_, _, rfl, steps_append.2 ⟨_, hfields, hmapping⟩, ?_⟩
  cases hm : f.mapping <;> simp [Fields.Finished, reread, hm]

theorem toValue_all {P : Value → Prop} {f : SuggestionFile}
    (features : P (.array (f.features.map (·.toValue))))
    (suggestions : P (.array (f.suggestions.map (·.toValue))))
    (mapping : ∀ m ∈ f.mapping, P m.toValue) : ∃ ms, f.toValue = .object ms ∧ ∀ m ∈ ms, P m.2 := by
  refine ⟨_, rfl, fun m hm ↦ ?_⟩
  simp only [List.cons_append, List.nil_append, List.mem_cons] at hm
  rcases hm with rfl | rfl | hm
  · exact features
  · exact suggestions
  · cases hs : f.mapping with
    | none => simp [hs, optionalMember] at hm
    | some x =>
      obtain rfl : m = ("feature_id_mapping", x.toValue) := by
        simpa [hs, optionalMember, FeatureMapping.toValue] using hm
      exact mapping x hs

theorem nesting_toValue {f : SuggestionFile} (h : ∀ s ∈ f.suggestions, s.Readable (d - 2))
    (hd : 5 ≤ d) : f.toValue.nesting ≤ d := by
  obtain ⟨n, rfl⟩ : ∃ n, d = n + 2 := ⟨d - 2, by omega⟩
  obtain ⟨ms, hms, hm⟩ := toValue_all (P := fun v ↦ v.nesting ≤ n + 1) (f := f)
    (Json.nesting_array_le.2 fun v hv ↦ by
      obtain ⟨x, -, rfl⟩ := List.mem_map.1 hv
      exact x.nesting_toValue.trans (by omega))
    (Json.nesting_array_le.2 fun v hv ↦ by
      obtain ⟨s, hs, rfl⟩ := List.mem_map.1 hv
      exact (h s hs).nesting_toValue (by omega))
    fun m _ ↦ m.nesting_toValue.trans (by omega)
  rw [hms]
  exact Json.nesting_object_le.2 hm

theorem mem_numbers_toValue {f : SuggestionFile} {n : Json.Number} :
    n ∈ f.toValue.numbers ↔
      (∃ s ∈ f.suggestions, n ∈ s.toValue.numbers) ∨
        ∃ m ∈ f.mapping, ∃ e ∈ m.entries, n = .integer e.2 := by
  have hmapping : (∃ m ∈ optionalMember "feature_id_mapping" (f.mapping.map (·.toValue)),
      n ∈ m.2.numbers) ↔ ∃ m ∈ f.mapping, ∃ e ∈ m.entries, n = .integer e.2 := by
    cases f.mapping <;> simp [optionalMember, FeatureMapping.mem_numbers_toValue]
  rw [← hmapping]
  change n ∈ (Value.object ([_, _] ++ optionalMember "feature_id_mapping"
    (f.mapping.map (·.toValue)))).numbers ↔ _
  simp only [Json.mem_numbers_object, List.cons_append, List.nil_append, List.mem_cons,
    exists_eq_or_imp, Json.mem_numbers_array, List.mem_map, exists_exists_and_eq_and,
    Feature.numbers_toValue, List.not_mem_nil, and_false, exists_false, false_or]

theorem inRange_toValue {f : SuggestionFile} (h : ∀ s ∈ f.suggestions, s.Readable d)
    (hm : ∀ m ∈ f.mapping, ∀ e ∈ m.entries, e.2 < twoTo 64) : ∀ n ∈ f.toValue.numbers, n.InRange := by
  intro n hn
  rcases mem_numbers_toValue.1 hn with ⟨s, hs, hn⟩ | ⟨m, hmem, e, he, rfl⟩
  · exact (h s hs).inRange_toValue n hn
  · have hi := hm m hmem e he
    simp only [Json.Number.InRange]
    omega

/-- A file of suggestions that can be read comes back, but for repeated names of positions. -/
theorem parse_write {f : SuggestionFile} (h : ∀ s ∈ f.suggestions, s.Readable d)
    (hm : ∀ m ∈ f.mapping, ∀ e ∈ m.entries, e.2 < twoTo 64) (hd : f.toValue.nesting ≤ maxDepth)
    (hr : f.toValue.RealsReadBack) (layout : Layout) :
    parse (String.ofList (f.toValue.write layout)) = .ok f.reread :=
  accepts.run (Json.document_write hd (hr.readsBack (inRange_toValue h hm)) layout)
    (stands_toValue h)

theorem readable_of_parse {t : String} {f : SuggestionFile} (h : parse t = .ok f) :
    f.Readable maxDepth := by
  obtain ⟨c, hf, -⟩ := run_eq_ok.1 h
  exact file_yields _ _ _ hf

end SuggestionFile

/-- Whether two files are equal when the order of the positions of names does not count. -/
def SuggestionFile.SameAs (f g : SuggestionFile) : Prop :=
  f.features = g.features ∧ f.suggestions = g.suggestions ∧
    Option.Rel (fun m m' ↦ m.entries.Perm m'.entries) f.mapping g.mapping

theorem SuggestionFile.sameAs_self (f : SuggestionFile) : f.SameAs f := by
  refine ⟨rfl, rfl, ?_⟩
  cases f.mapping with
  | none => exact .none
  | some m => exact .some (List.Perm.refl _)

theorem SuggestionFile.SameAs.mapping_all {f g : SuggestionFile} (h : f.SameAs g)
    {P : FeatureMapping → Prop}
    (hP : ∀ m m' : FeatureMapping, m.entries.Perm m'.entries → P m → P m')
    (hf : ∀ m ∈ f.mapping, P m) : ∀ m ∈ g.mapping, P m := by
  obtain ⟨-, -, hm⟩ := h
  revert hf
  generalize f.mapping = x at hm
  generalize g.mapping = y at hm
  cases hm with
  | none => simp
  | some hperm => simpa using hP _ _ hperm

/-- Decoding undoes encoding, on one line and indented, for everything that a text was decoded to.
The positions of names may be written in any order. -/
theorem decode_encode (t : String) :
    (∀ p, Payload.parse t = .ok p → p.toValue.RealsReadBack →
      Payload.parse p.toValue.compact = .ok p ∧ Payload.parse p.toValue.pretty = .ok p) ∧
    (∀ q, Patch.parse t = .ok q → q.toValue.RealsReadBack →
      Patch.parse q.toValue.compact = .ok q ∧ Patch.parse q.toValue.pretty = .ok q) ∧
    (∀ s, Suggestion.parse t = .ok s → s.toValue.RealsReadBack →
      Suggestion.parse s.toValue.compact = .ok s ∧ Suggestion.parse s.toValue.pretty = .ok s) ∧
    ∀ f, SuggestionFile.parse t = .ok f → f.toValue.RealsReadBack → ∀ g, f.SameAs g →
      SuggestionFile.parse g.toValue.compact = .ok g ∧
        SuggestionFile.parse g.toValue.pretty = .ok g := by
  refine ⟨fun p hp hr ↦ ?_, fun q hq hr ↦ ?_, fun s hs hr ↦ ?_, fun f hf hr g hg ↦ ?_⟩
  · have h := Payload.readable_of_parse hp
    exact ⟨h.parse_write hr .compact, h.parse_write hr (.indented 0)⟩
  · have h := Patch.readable_of_parse hq
    exact ⟨h.parse_write hr .compact, h.parse_write hr (.indented 0)⟩
  · have h := Suggestion.readable_of_parse hs
    exact ⟨h.parse_write hr .compact, h.parse_write hr (.indented 0)⟩
  · have h := SuggestionFile.readable_of_parse hf
    have hsuggestions : ∀ s ∈ g.suggestions, s.Readable (maxDepth - 2) := hg.2.1 ▸ h.suggestions
    have hmapping : ∀ m ∈ g.mapping, m.Readable := by
      refine hg.mapping_all (fun m m' hperm hm ↦ ?_) h.mapping
      exact ⟨(hperm.map _).nodup_iff.1 hm.nodup, fun e he ↦ hm.inRange e (hperm.mem_iff.2 he)⟩
    have hreals : g.toValue.RealsReadBack := by
      intro x hx
      rcases SuggestionFile.mem_numbers_toValue.1 hx with ⟨s, hs, hx⟩ | ⟨m, -, e, -, hx⟩
      · exact hr x (SuggestionFile.mem_numbers_toValue.2 (.inl ⟨s, hg.2.1 ▸ hs, hx⟩))
      · simp at hx
    have hparse := fun layout ↦ SuggestionFile.parse_write hsuggestions
      (fun m hm ↦ (hmapping m hm).inRange)
      (SuggestionFile.nesting_toValue hsuggestions (by decide)) hreals layout
    rw [g.reread_of_nodup fun m hm ↦ (hmapping m hm).nodup] at hparse
    exact ⟨hparse .compact, hparse (.indented 0)⟩

theorem decode_encode_texts :
    (∃ p, Payload.parse
        "\x7b\"axis\":\x7b\"row\":null\x7d,\"action_type\":\"zip\",\"y\":[2.5],\"code\":\"\"\x7d" = .ok p ∧
      Payload.parse p.toValue.compact = .ok p) ∧
    (∃ q, Patch.parse "\x7b\"code\":null,\"action_options\":\x7b\"b\":-0.5,\"a\":7\x7d\x7d" = .ok q ∧
      Patch.parse q.toValue.pretty = .ok q) ∧
    (∃ s, Suggestion.parse
        "[\"Sum\",null,\x7b\"action_type\":\"sum\",\"axis\":\"column\"\x7d]" = .ok s ∧
      Suggestion.parse s.toValue.compact = .ok s) ∧
    ∃ f, SuggestionFile.parse
        "\x7b\"z\":0,\"feature_id_mapping\":\x7b\"b\":1,\"a\":0,\"b\":2\x7d\x7d" = .ok f ∧
      SuggestionFile.parse f.toValue.pretty = .ok f := by
  refine ⟨?_, ?_, ?_, ?_⟩
  · exact (exists_ok (P := fun p ↦ p.toValue.RealsReadBack) (by decide +kernel)).imp
      fun p h ↦ ⟨h.1, ((decode_encode _).1 p h.1 h.2).1⟩
  · exact (exists_ok (P := fun q ↦ q.toValue.RealsReadBack) (by decide +kernel)).imp
      fun q h ↦ ⟨h.1, ((decode_encode _).2.1 q h.1 h.2).2⟩
  · exact (exists_ok (P := fun s ↦ s.toValue.RealsReadBack) (by decide +kernel)).imp
      fun s h ↦ ⟨h.1, ((decode_encode _).2.2.1 s h.1 h.2).1⟩
  · exact (exists_ok (P := fun f ↦ f.toValue.RealsReadBack) (by decide +kernel)).imp
      fun f h ↦ ⟨h.1, ((decode_encode _).2.2.2 f h.1 h.2 f f.sameAs_self).2⟩

end SuggestionReview
