import SuggestionReview.Proofs.Payload.RoundTrip

namespace SuggestionReview

open Json (Value Layout document)
open Json.Reader (exists_ok Steps steps_concat NullableStands TextStands ListStands ChoiceStands)

namespace Entries

variable {α β : Type}

/-- Every key once, in the order in which the keys first come, with what becomes of its last
value. -/
def lastValues (f : α → β) (list : List (String × α)) : Entries β :=
  (list.map (·.1)).eraseDups.filterMap fun k ↦ (last? list k).map fun v ↦ (k, f v)

theorem ofList_map (f : α → β) (list : List (String × α)) :
    ofList (list.map fun m ↦ (m.1, f m.2)) = lastValues f list := by
  rw [← map_ofList, lastValues, ← keys_ofList]
  conv_lhs => rw [← filterMap_keys (nodup_keys_ofList list)]
  simp [List.map_filterMap, get?_ofList, Function.comp_def]

end Entries

namespace PayloadFields

variable {α : Type}

def given (x : Field) (ms : List (String × Value)) : List Value :=
  (ms.filter (fieldOf ·.1 = x)).map (·.2)

def others (ms : List (String × Value)) : List (String × Value) :=
  ms.filter (fieldOf ·.1 = .other)

/-- A field is given at most once, and stands for what was read of it. -/
def GivenOnce (R : Value → α → Prop) (vs : List Value) (o : Option α) : Prop :=
  (vs = [] ∧ o = .none) ∨ ∃ v a, vs = [v] ∧ o = some a ∧ R v a

theorem GivenOnce.concat {R : Value → α → Prop} {vs : List Value} {v : Value} {a : α}
    (h : GivenOnce R vs .none) (hR : R v a) : GivenOnce R (vs ++ [v]) (some a) := by
  rcases h with ⟨rfl, -⟩ | ⟨_, _, -, h, -⟩
  · exact .inr ⟨v, a, rfl, rfl, hR⟩
  · simp at h

theorem GivenOnce.length_le {R : Value → α → Prop} {vs : List Value} {o : Option α}
    (h : GivenOnce R vs o) : vs.length ≤ 1 := by
  rcases h with ⟨rfl, -⟩ | ⟨v, a, rfl, -⟩ <;> simp

structure Gathered (partly : Bool) (ms : List (String × Value)) (f : PayloadFields) : Prop where
  actionType : GivenOnce (FieldStands partly VerbStands) (given .actionType ms) f.actionType
  axis : GivenOnce (FieldStands partly (ChoiceStands Axis.names)) (given .axis ms) f.axis
  arguments :
    GivenOnce (FieldStands partly (ListStands TextStands)) (given .arguments ms) f.arguments
  code : GivenOnce (NullableStands TextStands) (given .code ms) f.code
  options : GivenOnce (NullableStands OptionsStand) (given .options ms) f.options
  extra : f.extra.reverse = (others ms).map fun m ↦ (m.1, m.2.collect)

theorem Gathered.step {partly : Bool} {ms : List (String × Value)} {m : String × Value}
    {f f' : PayloadFields} (h : Gathered partly ms f) (hm : Taken partly f m f') :
    Gathered partly (ms ++ [m]) f' := by
  have hgiven : ∀ x, given x (ms ++ [m]) =
      given x ms ++ if fieldOf m.1 = x then [m.2] else [] := by
    intro x
    by_cases hx : fieldOf m.1 = x <;> simp [given, hx]
  have hothers : others (ms ++ [m]) = others ms ++ if fieldOf m.1 = .other then [m] else [] := by
    by_cases hx : fieldOf m.1 = .other <;> simp [others, hx]
  unfold Taken at hm
  obtain ⟨hactionType, haxis, harguments, hcode, hoptions, hextra⟩ := h
  cases hf : fieldOf m.1 with
  | other =>
    simp only [hf] at hm hothers
    subst hm
    refine ⟨?_, ?_, ?_, ?_, ?_, by simp [hothers, hextra]⟩ <;> simpa [hgiven, hf]
  | actionType =>
    simp only [hf] at hm
    obtain ⟨hb, a, ha, rfl⟩ := hm
    have hnew := GivenOnce.concat (hb ▸ hactionType) ha
    refine ⟨?_, ?_, ?_, ?_, ?_, by simpa [hothers, hf]⟩ <;> simpa [hgiven, hf]
  | axis =>
    simp only [hf] at hm
    obtain ⟨hb, a, ha, rfl⟩ := hm
    have hnew := GivenOnce.concat (hb ▸ haxis) ha
    refine ⟨?_, ?_, ?_, ?_, ?_, by simpa [hothers, hf]⟩ <;> simpa [hgiven, hf]
  | arguments =>
    simp only [hf] at hm
    obtain ⟨hb, a, ha, rfl⟩ := hm
    have hnew := GivenOnce.concat (hb ▸ harguments) ha
    refine ⟨?_, ?_, ?_, ?_, ?_, by simpa [hothers, hf]⟩ <;> simpa [hgiven, hf]
  | code =>
    simp only [hf] at hm
    obtain ⟨hb, a, ha, rfl⟩ := hm
    have hnew := GivenOnce.concat (hb ▸ hcode) ha
    refine ⟨?_, ?_, ?_, ?_, ?_, by simpa [hothers, hf]⟩ <;> simpa [hgiven, hf]
  | options =>
    simp only [hf] at hm
    obtain ⟨hb, a, ha, rfl⟩ := hm
    have hnew := GivenOnce.concat (hb ▸ hoptions) ha
    refine ⟨?_, ?_, ?_, ?_, ?_, by simpa [hothers, hf]⟩ <;> simpa [hgiven, hf]

theorem gathered_of_steps {partly : Bool} {ms : List (String × Value)} {f : PayloadFields}
    (h : Steps (Taken partly) .none ms f) : Gathered partly ms f := by
  induction ms using List.reverseRecOn generalizing f with
  | nil =>
    obtain rfl : PayloadFields.none = f := h
    exact ⟨.inl ⟨rfl, rfl⟩, .inl ⟨rfl, rfl⟩, .inl ⟨rfl, rfl⟩, .inl ⟨rfl, rfl⟩, .inl ⟨rfl, rfl⟩, rfl⟩
  | append_singleton ms m ih =>
    obtain ⟨f₁, h₁, hm⟩ := steps_concat.1 h
    exact (ih h₁).step hm

end PayloadFields

open PayloadFields

def nonNull? : Value → Option Value
  | .null => none
  | v => some v

/-- An option as it is read: whole numbers that do not fit 64 bits with a sign lose their exactness. -/
def asRead : Value → Value
  | .number (.integer n) =>
    if n < twoTo 63 then .number (.integer n) else .number (.real n.toNat.toUInt64.toFloat)
  | v => v

def optionsAsRead : Value → Value
  | .object ms => .object (Entries.lastValues asRead ms)
  | v => v

def kept (verb axis : String) (ms : List (String × Value)) : List (String × Value) :=
  [("action_type", .text verb), ("axis", .text axis),
    ("action_arguments", (given .arguments ms).head?.getD (.array []))] ++
    optionalMember "action_code" ((given .code ms).head?.bind nonNull?) ++
    optionalMember "action_options" (((given .options ms).head?.bind nonNull?).map optionsAsRead) ++
    Entries.lastValues Value.collect (others ms)

theorem asRead_eq {v : Value} {o : OptionValue} (h : OptionValue.ofValue? v = some o) :
    o.toValue = asRead v := by
  match v with
  | .null | .bool _ | .text _ | .number (.real _) =>
    obtain rfl := Option.some.inj h
    rfl
  | .number (.integer n) =>
    rw [OptionValue.ofValue?] at h
    by_cases hn : n < twoTo 63
    · rw [if_pos hn] at h
      obtain rfl := Option.some.inj h
      rw [asRead, if_pos hn, OptionValue.toValue]
    · rw [if_neg hn] at h
      obtain rfl := Option.some.inj h
      rw [asRead, if_neg hn, OptionValue.toValue]

theorem Axis.name_of_get? {name : String} {a : Axis} (h : Entries.get? names name = some a) :
    a.name = name := by
  have hnames : ∀ e ∈ names, e.2.name = e.1 := by decide
  obtain ⟨⟨k, a'⟩, hf, rfl⟩ := Option.map_eq_some_iff.1 h
  have hk : k = name := by simpa using List.find?_some hf
  exact (hnames _ (List.mem_of_find?_eq_some hf)).trans hk

theorem ListStands.eq_textsValue {v : Value} {names : List String}
    (h : ListStands TextStands v names) : v = textsValue names := by
  obtain ⟨vs, rfl, hvs⟩ := h
  rw [textsValue]
  congr 1
  induction hvs with
  | nil => rfl
  | cons hv _ ih => rw [List.map_cons, ← ih, hv]

theorem OptionsStand.toValue_eq {v : Value} {o : Options} (h : OptionsStand v o) :
    o.toValue = optionsAsRead v := by
  obtain ⟨ms, entries, rfl, he, rfl⟩ := h
  have hentries : entries.map (fun e ↦ (e.1, e.2.toValue)) = ms.map fun m ↦ (m.1, asRead m.2) := by
    induction he with
    | nil => rfl
    | cons hm _ ih => rw [List.map_cons, List.map_cons, ih, hm.1, asRead_eq hm.2]
  rw [optionsAsRead, ← Entries.ofList_map, ← hentries, ← Entries.map_ofList]
  rfl

theorem nonNull?_of_ne {v : Value} (h : v ≠ .null) : nonNull? v = some v := by
  cases v with
  | null => exact absurd rfl h
  | bool | number | text | array | object => rfl

theorem written_of_nullable {α : Type} {R : Value → α → Prop} {write : α → Value}
    {change : Value → Value} {v : Value} {o : Option α} (h : NullableStands R v o)
    (hR : ∀ a, R v a → write a = change v) : o.map write = (nonNull? v).map change := by
  cases o with
  | none =>
    obtain rfl : v = .null := h
    rfl
  | some a =>
    obtain ⟨hne, ha⟩ := h
    rw [nonNull?_of_ne hne, Option.map_some, Option.map_some, hR a ha]

theorem GivenOnce.written {α : Type} {R : Value → α → Prop} (write : α → Value)
    (change : Value → Value) {vs : List Value} {o : Option (Option α)}
    (h : GivenOnce (NullableStands R) vs o) (hR : ∀ v a, R v a → write a = change v) :
    o.join.map write = (vs.head?.bind nonNull?).map change := by
  rcases h with ⟨rfl, rfl⟩ | ⟨v, o, rfl, rfl, hv⟩
  · rfl
  · exact written_of_nullable hv (hR v)

theorem PayloadStands.kept {ms : List (String × Value)} {p : Payload}
    (h : PayloadStands (.object ms) p) :
    ∃ verb axis, given .actionType ms = [.text verb] ∧
      (given .axis ms = [.text axis] ∨ given .axis ms = [.object [(axis, .null)]]) ∧
      p.toValue = .object (kept verb axis ms) := by
  obtain ⟨_, f, heq, hs, t, a, ht, ha, rfl⟩ := h
  obtain rfl := Value.object.inj heq
  obtain ⟨hactionType, haxis, harguments, hcode, hoptions, hextra⟩ := gathered_of_steps hs
  obtain ⟨verb, hverb, rfl⟩ : ∃ verb, given .actionType ms = [.text verb] ∧ t = .ofName verb := by
    rcases hactionType with ⟨-, hn⟩ | ⟨v, o, hv, ho, t', rfl, verb, rfl, rfl⟩
    · simp [hn] at ht
    · exact ⟨verb, hv, by simpa [ho] using ht.symm⟩
  obtain ⟨axis, hgiven, rfl⟩ : ∃ axis, (given .axis ms = [.text axis] ∨
      given .axis ms = [.object [(axis, .null)]]) ∧ a.name = axis := by
    rcases haxis with ⟨-, hn⟩ | ⟨v, o, hv, ho, a', rfl, name, hname, hget⟩
    · simp [hn] at ha
    · obtain rfl : a' = a := by simpa [ho] using ha
      exact ⟨name, hname.imp (fun hn ↦ by rw [hv, hn]) (fun hn ↦ by rw [hv, hn]), Axis.name_of_get? hget⟩
  have harguments : textsValue (f.arguments.join.getD []) =
      (given .arguments ms).head?.getD (.array []) := by
    rcases harguments with ⟨hg, hn⟩ | ⟨v, o, hv, ho, names, rfl, hnames⟩
    · simp [hg, hn, textsValue]
    · simp [hv, ho, ListStands.eq_textsValue hnames]
  have hcode := GivenOnce.written .text id hcode fun _ _ h ↦ h.symm
  have hoptions := GivenOnce.written Options.toValue optionsAsRead hoptions fun _ _ h ↦ h.toValue_eq
  refine ⟨verb, a.name, hverb, hgiven, ?_⟩
  rw [Option.map_id, id] at hcode
  rw [Payload.toValue, SuggestionReview.kept]
  dsimp only
  rw [ActionType.name_ofName, harguments, hcode, hoptions, hextra, Entries.ofList_map]

/-- Loading and writing a payload drops nothing. Only members without a meaning are given twice. -/
theorem written_payload_kept {s : String} {p : Payload} (h : Payload.parse s = .ok p)
    (hr : p.toValue.RealsReadBack) :
    ∃ ms verb axis, document s = .ok (.object ms) ∧
      (∀ x, x ≠ .other → (given x ms).length ≤ 1) ∧
      given .actionType ms = [.text verb] ∧
      (given .axis ms = [.text axis] ∨ given .axis ms = [.object [(axis, .null)]]) ∧
      document p.toValue.compact = .ok (.object (kept verb axis ms)) ∧
      document p.toValue.pretty = .ok (.object (kept verb axis ms)) := by
  have hp := Payload.readable_of_parse h
  obtain ⟨v, hv, hstands⟩ := Payload.parse_eq_ok.1 h
  obtain ⟨ms, f, rfl, hs, -⟩ := id hstands
  obtain ⟨verb, axis, hverb, haxis, hvalue⟩ := hstands.kept
  have hcompact := hp.document_write hr .compact
  have hpretty := hp.document_write hr (.indented 0)
  rw [hvalue] at hcompact hpretty
  refine ⟨ms, verb, axis, hv, fun x hx ↦ ?_, hverb, haxis, ?_, ?_⟩
  · obtain ⟨hactionType, haxis, harguments, hcode, hoptions, -⟩ := gathered_of_steps hs
    cases x with
    | other => exact absurd rfl hx
    | actionType => exact hactionType.length_le
    | axis => exact haxis.length_le
    | arguments => exact harguments.length_le
    | code => exact hcode.length_le
    | options => exact hoptions.length_le
  · rw [hvalue]
    exact hcompact
  · rw [hvalue]
    exact hpretty

theorem written_payload_kept_text :
    ∃ p ms verb axis,
      Payload.parse "\x7b\"y\":1,\"code\":\"x\",\"axis\":\"row\",\"y\":[2.5],\"action_type\":\"zip\"\x7d" =
        .ok p ∧
      p.toValue.compact =
        "\x7b\"action_type\":\"zip\",\"axis\":\"row\",\"action_arguments\":[],\"action_code\":\"x\",\"y\":[2.5]\x7d" ∧
      document p.toValue.compact = .ok (.object (kept verb axis ms)) := by
  obtain ⟨p, hp, hr, hc⟩ := exists_ok
    (r := Payload.parse
      "\x7b\"y\":1,\"code\":\"x\",\"axis\":\"row\",\"y\":[2.5],\"action_type\":\"zip\"\x7d")
    (P := fun p ↦ p.toValue.RealsReadBack ∧ p.toValue.compact =
      "\x7b\"action_type\":\"zip\",\"axis\":\"row\",\"action_arguments\":[],\"action_code\":\"x\",\"y\":[2.5]\x7d")
    (by decide +kernel)
  obtain ⟨ms, verb, axis, -, -, -, -, hcompact, -⟩ := written_payload_kept hp hr
  exact ⟨p, ms, verb, axis, hp, hc, hcompact⟩

end SuggestionReview
