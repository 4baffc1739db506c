import SuggestionReview.Payload.Document
import SuggestionReview.Proofs.Json.Kinds

namespace SuggestionReview

open Json (Value Cursor Failure document)
open Json.Reader

variable {α σ : Type} {d : Nat} {c c' : Cursor} {R : Value → α → Prop}

theorem OptionValue.ofValue?_collect (v : Value) :
    OptionValue.ofValue? v.collect = OptionValue.ofValue? v := by
  cases v <;> simp [Value.collect, OptionValue.ofValue?]

def ScalarStands (m : String × Value) (e : String × OptionValue) : Prop :=
  m.1 = e.1 ∧ OptionValue.ofValue? m.2 = some e.2

def OptionsStand (v : Value) (o : Options) : Prop :=
  ∃ ms entries, v = .object ms ∧ List.Forall₂ ScalarStands ms entries ∧
    o = ⟨Entries.ofList entries⟩

theorem optionValue_eq_ok {o : OptionValue} :
    OptionValue.read d c = .ok (o, c') ↔
      ∃ v, verbatim d c = .ok (v, c') ∧ OptionValue.ofValue? v = some o := by
  rw [OptionValue.read, bind_eq_ok]
  simp only [value_eq_ok]
  constructor
  · intro h
    obtain ⟨_, c₁, ⟨v, hv, rfl⟩, h⟩ := h
    rw [OptionValue.ofValue?_collect] at h
    cases ho : OptionValue.ofValue? v with
    | none => simp [ho] at h
    | some o' =>
      simp only [ho, pure_apply, Except.ok.injEq, Prod.mk.injEq] at h
      obtain ⟨rfl, rfl⟩ := h
      exact ⟨v, hv, ho⟩
  · intro h
    obtain ⟨v, hv, ho⟩ := h
    exact ⟨_, c', ⟨v, hv, rfl⟩, by simp [OptionValue.ofValue?_collect, ho]⟩

def OptionTaken (o : Options) (m : String × Value) (o' : Options) : Prop :=
  ∃ x, OptionValue.ofValue? m.2 = some x ∧ o' = o.insert m.1 x

theorem steps_optionTaken {ms : List (String × Value)} {o o' : Options} :
    Steps OptionTaken o ms o' ↔
      ∃ entries, List.Forall₂ ScalarStands ms entries ∧ o' = ⟨o.entries.insertAll entries⟩ := by
  induction ms generalizing o with
  | nil => simp [Steps, Entries.insertAll, eq_comm]
  | cons m ms ih =>
    simp only [Steps, ih, List.forall₂_cons_left_iff]
    constructor
    · intro h
      obtain ⟨_, ⟨x, hx, rfl⟩, entries, he, rfl⟩ := h
      exact ⟨(m.1, x) :: entries, ⟨(m.1, x), entries, ⟨rfl, hx⟩, he, rfl⟩, rfl⟩
    · intro h
      obtain ⟨_, ⟨⟨k, x⟩, entries, ⟨rfl, hx⟩, he, rfl⟩, rfl⟩ := h
      exact ⟨_, ⟨x, hx, rfl⟩, entries, he, rfl⟩

theorem objectStands_optionTaken {v : Value} {o : Options} :
    ObjectStands OptionTaken (fun s a ↦ s = a) Options.empty v o ↔ OptionsStand v o := by
  simp only [ObjectStands, steps_optionTaken, OptionsStand, Entries.ofList, Options.empty]
  constructor
  · intro h
    obtain ⟨ms, _, rfl, ⟨entries, he, rfl⟩, rfl⟩ := h
    exact ⟨ms, entries, rfl, he, rfl⟩
  · intro h
    obtain ⟨ms, entries, rfl, he, rfl⟩ := h
    exact ⟨ms, _, rfl, ⟨entries, he, rfl⟩, rfl⟩

theorem options_reports : Reports (Options.read d) d OptionsStand := by
  refine (objectOf_reports (R := OptionTaken) (F := fun s a ↦ s = a) ?_ ?_).mono fun v o ↦
    objectStands_optionTaken.1
  · intro d o key c o' c' h
    simp only [bind_eq_ok, pure_apply, Except.ok.injEq, Prod.mk.injEq, optionValue_eq_ok] at h
    obtain ⟨_, c₁, hcol, x, c₂, ⟨v, hv, hx⟩, rfl, rfl⟩ := h
    exact ⟨v, bind_eq_ok.2 ⟨(), c₁, hcol, hv⟩, x, hx, rfl⟩
  · intro o c o' c' h
    simp only [pure_apply, Except.ok.injEq, Prod.mk.injEq] at h
    exact ⟨h.2, h.1⟩

theorem options_accepts : Accepts (Options.read d) d OptionsStand := by
  refine (objectOf_accepts (R := OptionTaken) (F := fun s a ↦ s = a) ?_ ?_).mono fun v o ↦
    objectStands_optionTaken.2
  · intro d o key c v _ c' hv h
    obtain ⟨x, hx, rfl⟩ := h
    obtain ⟨_, c₁, hcol, hv⟩ := bind_eq_ok.1 hv
    simp only [bind_eq_ok, pure_apply, Except.ok.injEq, Prod.mk.injEq, optionValue_eq_ok]
    exact ⟨(), c₁, hcol, x, c', ⟨v, hv, hx⟩, rfl, rfl⟩
  · rintro o c _ rfl
    rfl

def VerbStands (v : Value) (t : ActionType) : Prop :=
  ∃ s, v = .text s ∧ t = .ofName s

theorem actionType_reports : Reports ActionType.read d VerbStands := by
  intro c t c' h
  obtain ⟨s, hs, rfl⟩ := map_eq_ok.1 (by simpa [ActionType.read] using h)
  exact ⟨.text s, verbatim_text.2 hs, s, rfl, rfl⟩

theorem actionType_accepts : Accepts ActionType.read d VerbStands := by
  intro c _ _ c' hv h
  obtain ⟨s, rfl, rfl⟩ := h
  simpa [ActionType.read] using map_eq_ok.2 ⟨s, verbatim_text.1 hv, rfl⟩

namespace PayloadFields

/-- What a field stands for that may be null, or may not. -/
def FieldStands (mayBeNull : Bool) (R : Value → α → Prop) (v : Value) (o : Option α) : Prop :=
  if mayBeNull then NullableStands R v o else ∃ a, o = some a ∧ R v a

theorem field_reports {mayBeNull : Bool} {r : Json.Reader α} (h : Reports r d R) :
    Reports (field mayBeNull r) d (FieldStands mayBeNull R) := by
  cases mayBeNull with
  | true => exact nullable_reports h
  | false =>
    intro c o c' hr
    obtain ⟨a, ha, rfl⟩ := map_eq_ok.1 (by simpa [field] using hr)
    obtain ⟨v, hv, hR⟩ := h _ _ _ ha
    exact ⟨v, hv, a, rfl, hR⟩

theorem field_accepts {mayBeNull : Bool} {r : Json.Reader α} (h : Accepts r d R) :
    Accepts (field mayBeNull r) d (FieldStands mayBeNull R) := by
  cases mayBeNull with
  | true => exact nullable_accepts h
  | false =>
    intro c v _ c' hv h
    obtain ⟨a, rfl, hR⟩ := h
    simpa [field] using map_eq_ok.2 ⟨a, h _ _ _ _ hv hR, rfl⟩

def Taken (partly : Bool) (f : PayloadFields) (m : String × Value) (f' : PayloadFields) : Prop :=
  match fieldOf m.1 with
  | .actionType =>
    f.actionType = .none ∧
      ∃ a, FieldStands partly VerbStands m.2 a ∧ f' = { f with actionType := some a }
  | .axis =>
    f.axis = .none ∧
      ∃ a, FieldStands partly (ChoiceStands Axis.names) m.2 a ∧ f' = { f with axis := some a }
  | .arguments =>
    f.arguments = .none ∧
      ∃ a, FieldStands partly (ListStands TextStands) m.2 a ∧ f' = { f with arguments := some a }
  | .code =>
    f.code = .none ∧ ∃ a, NullableStands TextStands m.2 a ∧ f' = { f with code := some a }
  | .options =>
    f.options = .none ∧ ∃ a, NullableStands OptionsStand m.2 a ∧ f' = { f with options := some a }
  | .other => f' = { f with extra := (m.1, m.2.collect) :: f.extra }

theorem visit_reports {partly : Bool} {f f' : PayloadFields} {key : String}
    (h : visit partly d f key c = .ok (f', c')) :
    ∃ v, memberValue d c = .ok (v, c') ∧ Taken partly f (key, v) f' := by
  rw [visit] at h
  unfold Taken
  cases hf : fieldOf key with
  | actionType =>
    simp only [hf] at h ⊢
    exact set_reports (field_reports actionType_reports) h
  | axis =>
    simp only [hf] at h ⊢
    exact set_reports (field_reports variant_reports) h
  | arguments =>
    simp only [hf] at h ⊢
    exact set_reports (field_reports (listOf_reports fun _ ↦ text_reports)) h
  | code =>
    simp only [hf] at h ⊢
    exact set_reports (nullable_reports text_reports) h
  | options =>
    simp only [hf] at h ⊢
    exact set_reports (nullable_reports options_reports) h
  | other =>
    simp only [hf, keepMember, bind_eq_ok, pure_apply, Except.ok.injEq, Prod.mk.injEq,
      value_eq_ok] at h ⊢
    obtain ⟨_, c₁, ⟨_, c₂, hcol, _, c₃, ⟨v, hv, rfl⟩, rfl, rfl⟩, rfl, rfl⟩ := h
    exact ⟨v, bind_eq_ok.2 ⟨(), c₂, hcol, hv⟩, rfl⟩

theorem visit_accepts {partly : Bool} {f f' : PayloadFields} {key : String} {v : Value}
    (hv : memberValue d c = .ok (v, c')) (h : Taken partly f (key, v) f') :
    visit partly d f key c = .ok (f', c') := by
  unfold Taken at h
  rw [visit]
  cases hf : fieldOf key with
  | actionType =>
    simp only [hf] at h ⊢
    exact set_accepts (field_accepts actionType_accepts) hv h
  | axis =>
    simp only [hf] at h ⊢
    exact set_accepts (field_accepts variant_accepts) hv h
  | arguments =>
    simp only [hf] at h ⊢
    exact set_accepts (field_accepts (listOf_accepts fun _ ↦ text_accepts)) hv h
  | code =>
    simp only [hf] at h ⊢
    exact set_accepts (nullable_accepts text_accepts) hv h
  | options =>
    simp only [hf] at h ⊢
    exact set_accepts (nullable_accepts options_accepts) hv h
  | other =>
    simp only [hf] at h
    subst h
    obtain ⟨_, c₁, hcol, hv⟩ := bind_eq_ok.1 hv
    simp only [keepMember, bind_eq_ok, pure_apply, Except.ok.injEq, Prod.mk.injEq, value_eq_ok]
    exact ⟨_, c', ⟨(), c₁, hcol, _, c', ⟨v, hv, rfl⟩, rfl, rfl⟩, rfl, rfl⟩

def Finished (f : PayloadFields) (p : Payload) : Prop :=
  ∃ actionType axis, f.actionType.join = some actionType ∧ f.axis.join = some axis ∧
    p = {
      actionType, axis
      arguments := f.arguments.join.getD []
      code := f.code.join
      options := f.options.join
      extra := Entries.ofList f.extra.reverse }

theorem toPayload_eq_ok {f : PayloadFields} {p : Payload} :
    toPayload f c = .ok (p, c') ↔ c = c' ∧ Finished f p := by
  have hrequired : ∀ {β : Type} (name : String) (o : Option β) (b : β) (c c' : Cursor),
      required name o c = .ok (b, c') ↔ o = some b ∧ c = c' := by
    intro β name o b c c'
    cases o <;> simp [required]
  simp only [toPayload, bind_eq_ok, hrequired, pure_apply, Except.ok.injEq, Prod.mk.injEq]
  constructor
  · intro h
    obtain ⟨t, c₁, ⟨ht, rfl⟩, a, c₂, ⟨ha, rfl⟩, rfl, rfl⟩ := h
    exact ⟨rfl, t, a, ht, ha, rfl⟩
  · intro h
    obtain ⟨rfl, t, a, ht, ha, rfl⟩ := h
    exact ⟨t, c, ⟨ht, rfl⟩, a, c, ⟨ha, rfl⟩, rfl, rfl⟩

end PayloadFields

open PayloadFields

def PayloadStands : Value → Payload → Prop :=
  ObjectStands (Taken false) Finished .none

def PatchStands : Value → Patch → Prop :=
  ObjectStands (Taken true) (fun f q ↦ f.toPatch = q) .none

theorem payload_reports : Reports (Payload.read d) d PayloadStands :=
  objectOf_reports (fun _ _ _ _ _ _ ↦ visit_reports) fun _ _ _ _ ↦ toPayload_eq_ok.1

theorem payload_accepts : Accepts (Payload.read d) d PayloadStands :=
  objectOf_accepts (fun _ _ _ _ _ _ _ ↦ visit_accepts) fun _ _ _ h ↦ toPayload_eq_ok.2 ⟨rfl, h⟩

theorem patch_reports : Reports (Patch.read d) d PatchStands :=
  objectOf_reports (fun _ _ _ _ _ _ ↦ visit_reports) fun _ _ _ _ h ↦ by
    simpa [and_comm] using h

theorem patch_accepts : Accepts (Patch.read d) d PatchStands :=
  objectOf_accepts (fun _ _ _ _ _ _ _ ↦ visit_accepts) fun _ _ _ h ↦ by simp [h]

theorem Payload.parse_eq_ok {s : String} {p : Payload} :
    Payload.parse s = .ok p ↔ ∃ v, document s = .ok v ∧ PayloadStands v p :=
  ⟨payload_reports.run, fun ⟨_, hv, hp⟩ ↦ payload_accepts.run hv hp⟩

theorem Patch.parse_eq_ok {s : String} {q : Patch} :
    Patch.parse s = .ok q ↔ ∃ v, document s = .ok v ∧ PatchStands v q :=
  ⟨patch_reports.run, fun ⟨_, hv, hq⟩ ↦ patch_accepts.run hv hq⟩

end SuggestionReview
