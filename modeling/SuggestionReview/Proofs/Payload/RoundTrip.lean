import SuggestionReview.Proofs.Payload.Readable

namespace SuggestionReview

open Json (Value Failure Layout document)
open Json.Reader (Steps NullableStands TextStands ListStands ChoiceStands ObjectStands maxDepth)

variable {d : Nat} {v : Value} {p : Payload} {q : Patch}

@[simp] theorem join_map_some {α : Type} (o : Option α) : (o.map some).join = o := by
  cases o <;> rfl

namespace PayloadFields

theorem written_all {P : Value → Prop} {f : PayloadFields} (null : P .null)
    (text : ∀ s, P (.text s)) (texts : ∀ names, P (textsValue names))
    (options : ∀ o ∈ f.options.join, P o.toValue) (extra : ∀ m ∈ f.extra, P m.2) :
    ∀ m ∈ f.written, P m.2 := by
  have hfield : ∀ {α : Type} {name : String} {write : α → Value} {o : Option (Option α)},
      (∀ a ∈ o.join, P (write a)) →
        ∀ m ∈ optionalMember name (o.map (nullOr write)), P m.2 := by
    intro α name write o h m hm
    match o with
    | .none => simp [optionalMember] at hm
    | some .none =>
      obtain rfl := List.mem_singleton.1 hm
      exact null
    | some (some a) =>
      obtain rfl := List.mem_singleton.1 hm
      exact h a rfl
  intro m hm
  simp only [written, List.mem_append, List.mem_reverse, or_assoc] at hm
  rcases hm with hm | hm | hm | hm | hm | hm
  · exact hfield (fun _ _ ↦ text _) m hm
  · exact hfield (fun _ _ ↦ text _) m hm
  · exact hfield (fun _ _ ↦ texts _) m hm
  · exact hfield (fun _ _ ↦ text _) m hm
  · exact hfield options m hm
  · exact extra m hm

theorem nesting_textsValue (names : List String) : (textsValue names).nesting ≤ 1 := by
  refine Json.nesting_array_le.2 fun v hv ↦ ?_
  obtain ⟨s, -, rfl⟩ := List.mem_map.1 hv
  exact Nat.le_refl 0

theorem numbers_textsValue (names : List String) : (textsValue names).numbers = [] := by
  refine List.eq_nil_iff_forall_not_mem.2 fun n hn ↦ ?_
  obtain ⟨v, hv, hn⟩ := Json.mem_numbers_array.1 hn
  obtain ⟨s, -, rfl⟩ := List.mem_map.1 hv
  simp [Value.numbers] at hn

theorem Readable.nesting_written {f : PayloadFields} (h : f.Readable d) (hd : 2 ≤ d) :
    (Value.object f.written).nesting ≤ d := by
  obtain ⟨d, rfl⟩ := Nat.exists_eq_succ_of_ne_zero (Nat.ne_zero_of_lt hd)
  refine Json.nesting_object_le.2 (written_all (P := fun v ↦ v.nesting ≤ d) (Nat.zero_le d)
    (fun _ ↦ Nat.zero_le d) (fun names ↦ ?_) (fun o _ ↦ ?_) fun m hm ↦ ?_)
  · exact (nesting_textsValue names).trans (by omega)
  · exact o.nesting_toValue.trans (by omega)
  · exact Nat.le_of_lt_succ (h.extra m hm).nesting

theorem Readable.inRange_written {f : PayloadFields} (h : f.Readable d) :
    ∀ n ∈ (Value.object f.written).numbers, n.InRange := by
  intro n hn
  obtain ⟨m, hm, hn⟩ := Json.mem_numbers_object.1 hn
  refine written_all (P := fun v ↦ ∀ n ∈ v.numbers, n.InRange) (by simp [Value.numbers])
    (by simp [Value.numbers]) (by simp [numbers_textsValue]) (fun o ho ↦ ?_) (fun m hm ↦ ?_) m hm n hn
  · exact (h.options o ho).inRange_numbers
  · exact (h.extra m hm).inRange

end PayloadFields

open PayloadFields

def Payload.fields (p : Payload) : PayloadFields where
  actionType := some p.actionType
  axis := some p.axis
  arguments := some p.arguments
  code := p.code.map some
  options := p.options.map some
  extra := p.extra.reverse

def Patch.fields (q : Patch) : PayloadFields where
  actionType := q.actionType.map some
  axis := q.axis.map some
  arguments := q.arguments.map some
  code := q.code
  options := q.options
  extra := q.extra.reverse

/-- The payloads that can be read from documents whose brackets nest at most so deep. -/
structure Payload.Readable (d : Nat) (p : Payload) : Prop where
  fields : p.fields.Readable d
  nodup : p.extra.keys.Nodup

structure Patch.Readable (d : Nat) (q : Patch) : Prop where
  fields : q.fields.Readable d
  nodup : q.extra.keys.Nodup

theorem Payload.toValue_eq (p : Payload) : p.toValue = .object p.fields.written := by
  simp [toValue, fields, written, optionalMember, nullOr, Function.comp_def]

theorem Patch.toValue_eq (q : Patch) : q.toValue = .object q.fields.written := by
  simp [toValue, fields, written, optionalMember, nullOr, Function.comp_def]

theorem readable_ofList {f : PayloadFields} (h : ∀ m ∈ f.extra, UnmodelledMember d m) :
    ∀ m ∈ (Entries.ofList f.extra.reverse).reverse, UnmodelledMember d m := fun m hm ↦
  h m (List.mem_reverse.1 (Entries.mem_of_mem_ofList (List.mem_reverse.1 hm)))

theorem PayloadStands.readable (h : PayloadStands v p) (hd : v.nesting ≤ d)
    (hn : ∀ n ∈ v.numbers, n.InRange) : p.Readable d := by
  obtain ⟨ms, f, rfl, hs, t, a, ht, -, rfl⟩ := h
  have hf := readable_of_steps hs hd hn
  refine ⟨⟨?_, ?_, readable_ofList hf.extra⟩, Entries.nodup_keys_ofList _⟩
  · simpa [Payload.fields, ht] using hf.verb
  · simpa [Payload.fields] using hf.options

theorem PatchStands.readable (h : PatchStands v q) (hd : v.nesting ≤ d)
    (hn : ∀ n ∈ v.numbers, n.InRange) : q.Readable d := by
  obtain ⟨ms, f, rfl, hs, rfl⟩ := h
  have hf := readable_of_steps hs hd hn
  refine ⟨⟨?_, ?_, readable_ofList hf.extra⟩, Entries.nodup_keys_ofList _⟩
  · simpa [Patch.fields, toPatch] using hf.verb
  · simpa [Patch.fields, toPatch] using hf.options

theorem Payload.Readable.stands (h : p.Readable d) : PayloadStands p.toValue p := by
  refine ⟨p.fields.written, p.fields, p.toValue_eq, h.fields.steps_written fun _ ↦ ?_, ?_⟩
  · simp [Whole, Payload.fields]
  · refine ⟨p.actionType, p.axis, rfl, rfl, ?_⟩
    simp [Payload.fields, Entries.ofList_of_nodup h.nodup]

theorem Patch.Readable.stands (h : q.Readable d) : PatchStands q.toValue q := by
  refine ⟨q.fields.written, q.fields, q.toValue_eq, h.fields.steps_written (by simp), ?_⟩
  simp [Patch.fields, toPatch, Entries.ofList_of_nodup h.nodup]

theorem Payload.readable_of_parse {s : String} (h : Payload.parse s = .ok p) :
    p.Readable maxDepth := by
  obtain ⟨v, hv, hp⟩ := Payload.parse_eq_ok.1 h
  exact hp.readable (Json.bounds_of_document hv).1 (Json.bounds_of_document hv).2

theorem Patch.readable_of_parse {s : String} (h : Patch.parse s = .ok q) : q.Readable maxDepth := by
  obtain ⟨v, hv, hq⟩ := Patch.parse_eq_ok.1 h
  exact hq.readable (Json.bounds_of_document hv).1 (Json.bounds_of_document hv).2

theorem Payload.Readable.nesting_toValue (h : p.Readable d) (hd : 2 ≤ d) :
    p.toValue.nesting ≤ d := by
  rw [p.toValue_eq]
  exact h.fields.nesting_written hd

theorem Payload.Readable.inRange_toValue (h : p.Readable d) : ∀ n ∈ p.toValue.numbers, n.InRange := by
  rw [p.toValue_eq]
  exact h.fields.inRange_written

theorem Payload.Readable.document_write (h : p.Readable maxDepth) (hr : p.toValue.RealsReadBack)
    (layout : Layout) : document (String.ofList (p.toValue.write layout)) = .ok p.toValue :=
  Json.document_write (h.nesting_toValue (by decide)) (hr.readsBack h.inRange_toValue) layout

theorem Payload.Readable.parse_write (h : p.Readable maxDepth) (hr : p.toValue.RealsReadBack)
    (layout : Layout) : Payload.parse (String.ofList (p.toValue.write layout)) = .ok p :=
  Payload.parse_eq_ok.2 ⟨_, h.document_write hr layout, h.stands⟩

theorem Patch.Readable.parse_write (h : q.Readable maxDepth) (hr : q.toValue.RealsReadBack)
    (layout : Layout) : Patch.parse (String.ofList (q.toValue.write layout)) = .ok q := by
  refine Patch.parse_eq_ok.2 ⟨_, ?_, h.stands⟩
  rw [q.toValue_eq] at hr ⊢
  exact Json.document_write (h.fields.nesting_written (by decide))
    (hr.readsBack h.fields.inRange_written) layout

/-- A patch that can be read leads from payloads that can be read to others. -/
theorem Payload.Readable.merge (hp : p.Readable d) (hq : q.Readable d) : (p.merge q).Readable d := by
  refine ⟨hq.fields.of_either hp.fields (fun t ht ↦ ?_) (fun o ho ↦ ?_) fun m hm ↦ ?_,
    Entries.nodup_keys_insertAll hp.nodup q.extra⟩
  · cases hs : q.actionType <;> simp_all [Payload.fields, Patch.fields, Payload.merge]
  · cases hs : q.options <;> simp_all [Payload.fields, Patch.fields, Payload.merge]
  · simpa [Payload.fields, Patch.fields] using Entries.mem_of_mem_insertAll (List.mem_reverse.1 hm)

theorem FieldStands.partly {α : Type} {R : Value → α → Prop} (hR : ∀ v a, R v a → v ≠ .null)
    {v : Value} {o : Option α} (h : FieldStands false R v o) : FieldStands true R v o := by
  obtain ⟨a, rfl, ha⟩ := h
  exact ⟨hR v a ha, ha⟩

theorem Taken.partly {f f' : PayloadFields} {m : String × Value} (h : Taken false f m f') :
    Taken true f m f' := by
  unfold Taken at h ⊢
  cases hm : fieldOf m.1 with
  | actionType =>
    simp only [hm] at h ⊢
    obtain ⟨hb, a, ha, rfl⟩ := h
    exact ⟨hb, a, @FieldStands.partly _ VerbStands (by rintro _ _ ⟨s, rfl, -⟩; simp) _ _ ha, rfl⟩
  | axis =>
    simp only [hm] at h ⊢
    obtain ⟨hb, a, ha, rfl⟩ := h
    exact ⟨hb, a, @FieldStands.partly _ (ChoiceStands Axis.names)
      (by rintro _ _ ⟨s, rfl | rfl, -⟩ <;> simp) _ _ ha, rfl⟩
  | arguments =>
    simp only [hm] at h ⊢
    obtain ⟨hb, a, ha, rfl⟩ := h
    exact ⟨hb, a, @FieldStands.partly _ (ListStands TextStands)
      (by rintro _ _ ⟨vs, rfl, -⟩; simp) _ _ ha, rfl⟩
  | code | options | other => simpa only [hm] using h

/-- The patch of a document changes nothing about the payload of the same document. -/
theorem PayloadStands.merge (h : PayloadStands v p) : ∃ q, PatchStands v q ∧ p.merge q = p := by
  obtain ⟨ms, f, rfl, hs, t, a, ht, ha, rfl⟩ := h
  refine ⟨f.toPatch, ⟨ms, f, rfl, hs.mono fun _ _ _ ↦ Taken.partly, rfl⟩, ?_⟩
  have hextra := Entries.insertAll_of_subset (Entries.nodup_keys_ofList f.extra.reverse)
    fun _ hx ↦ hx
  have hcode : f.code.getD f.code.join = f.code.join := by cases f.code <;> rfl
  have hoptions : f.options.getD f.options.join = f.options.join := by cases f.options <;> rfl
  have harguments : f.arguments.join.getD (f.arguments.join.getD []) = f.arguments.join.getD [] := by
    cases f.arguments.join <;> rfl
  simp [Payload.merge, toPatch, ht, ha, hextra, hcode, hoptions, harguments]

theorem Payload.merge_of_parse {s : String} (h : Payload.parse s = .ok p) :
    ∃ q, Patch.parse s = .ok q ∧ p.merge q = p := by
  obtain ⟨v, hv, hp⟩ := Payload.parse_eq_ok.1 h
  obtain ⟨q, hq, hm⟩ := hp.merge
  exact ⟨q, Patch.parse_eq_ok.2 ⟨v, hv, hq⟩, hm⟩

end SuggestionReview
