import SuggestionReview.Proofs.Json.RoundTrip
import SuggestionReview.Proofs.Payload.Decode

namespace SuggestionReview

open Json (Value Failure Layout document)
open Json.Reader (Steps steps_append NullableStands TextStands ListStands ChoiceStands maxDepth)

variable {d : Nat}

theorem ActionType.name_ofName (s : String) : (ofName s).name = s := by
  have hknown : ∀ e ∈ known, e.2.name = e.1 := by decide
  rw [ofName]
  cases h : Entries.get? known s with
  | none => rfl
  | some t =>
    obtain ⟨⟨k, t'⟩, hf, rfl⟩ := Option.map_eq_some_iff.1 h
    have hk : k = s := by simpa using List.find?_some hf
    exact (hknown _ (List.mem_of_find?_eq_some hf)).trans hk

def ActionType.Readable (t : ActionType) : Prop := t = ofName t.name

theorem ActionType.readable_ofName (s : String) : (ofName s).Readable := by
  rw [Readable, name_ofName]

def OptionValue.InRange : OptionValue → Prop
  | .int n => -(twoTo 63 : Int) ≤ n ∧ n < twoTo 63
  | _ => True

theorem OptionValue.ofValue?_toValue {o : OptionValue} (h : o.InRange) :
    ofValue? o.toValue = some o := by
  cases o with
  | int n =>
    have hn : n < twoTo 63 := h.2
    simp [toValue, ofValue?, hn]
  | null | bool b | float x | text s => rfl

theorem OptionValue.inRange_of_ofValue? {v : Value} {o : OptionValue}
    (hv : ∀ n ∈ v.numbers, n.InRange) (h : ofValue? v = some o) : o.InRange := by
  match v with
  | .null | .bool _ | .text _ | .number (.real _) =>
    obtain rfl := Option.some.inj h
    trivial
  | .number (.integer n) =>
    rw [ofValue?] at h
    split at h
    · next hn =>
      obtain rfl := Option.some.inj h
      exact ⟨(hv (.integer n) (by simp [Value.numbers])).1, hn⟩
    · obtain rfl := Option.some.inj h
      trivial

theorem OptionValue.inRange_numbers {o : OptionValue} (h : o.InRange) :
    ∀ n ∈ o.toValue.numbers, n.InRange := by
  cases o with
  | int n =>
    have hlt := Json.twoTo_63_lt_twoTo_64
    simp only [InRange] at h
    simp only [toValue, Value.numbers, List.mem_singleton, forall_eq, Json.Number.InRange]
    omega
  | float x => simp [toValue, Value.numbers, Json.Number.InRange]
  | null | bool b | text s => simp [toValue, Value.numbers]

structure Options.Readable (o : Options) : Prop where
  nodup : o.entries.keys.Nodup
  inRange : ∀ e ∈ o.entries, e.2.InRange

theorem exists_scalarStands {ms : List (String × Value)} {entries : List (String × OptionValue)}
    (h : List.Forall₂ ScalarStands ms entries) {e : String × OptionValue} (he : e ∈ entries) :
    ∃ m ∈ ms, ScalarStands m e := by
  induction h with
  | nil => simp at he
  | cons hme _ ih =>
    rcases List.mem_cons.1 he with rfl | he
    · exact ⟨_, List.mem_cons_self, hme⟩
    · obtain ⟨m, hm, hs⟩ := ih he
      exact ⟨m, List.mem_cons_of_mem _ hm, hs⟩

theorem OptionsStand.readable {v : Value} {o : Options} (h : OptionsStand v o)
    (hv : ∀ n ∈ v.numbers, n.InRange) : o.Readable := by
  obtain ⟨ms, entries, rfl, he, rfl⟩ := h
  refine ⟨Entries.nodup_keys_ofList entries, fun e hmem ↦ ?_⟩
  obtain ⟨m, hm, -, ho⟩ := exists_scalarStands he (Entries.mem_of_mem_ofList hmem)
  exact OptionValue.inRange_of_ofValue?
    (fun n hn ↦ hv n (Json.mem_numbers_object.2 ⟨m, hm, hn⟩)) ho

theorem Options.Readable.stands {o : Options} (h : o.Readable) : OptionsStand o.toValue o := by
  refine ⟨_, o.entries, rfl, ?_, by rw [Entries.ofList_of_nodup h.nodup]⟩
  rw [List.forall₂_map_left_iff]
  exact List.forall₂_same.2 fun e he ↦ ⟨rfl, OptionValue.ofValue?_toValue (h.inRange e he)⟩

theorem Options.Readable.inRange_numbers {o : Options} (h : o.Readable) :
    ∀ n ∈ o.toValue.numbers, n.InRange := by
  intro n hn
  obtain ⟨m, hm, hn⟩ := Json.mem_numbers_object.1 hn
  obtain ⟨e, he, rfl⟩ := List.mem_map.1 hm
  exact OptionValue.inRange_numbers (h.inRange e he) n hn

theorem Options.nesting_toValue (o : Options) : o.toValue.nesting ≤ 1 := by
  refine Json.nesting_object_le.2 fun m hm ↦ ?_
  obtain ⟨⟨k, x⟩, -, rfl⟩ := List.mem_map.1 hm
  cases x <;> exact Nat.le_refl 0

theorem steps_optionalMember {α σ : Type} {R : σ → String × Value → σ → Prop} (name : String)
    (write : α → Value) (set : Option α → σ) (o : Option α)
    (h : ∀ a ∈ o, R (set none) (name, write a) (set (some a))) :
    Steps R (set none) (optionalMember name (o.map write)) (set o) := by
  cases o with
  | none => rfl
  | some a => exact ⟨set (some a), h a rfl, rfl⟩

structure UnmodelledMember (d : Nat) (m : String × Value) : Prop where
  other : PayloadFields.fieldOf m.1 = .other
  collected : m.2.collect = m.2
  nesting : m.2.nesting < d
  inRange : ∀ n ∈ m.2.numbers, n.InRange

namespace PayloadFields

structure Readable (d : Nat) (f : PayloadFields) : Prop where
  verb : ∀ t ∈ f.actionType.join, t.Readable
  options : ∀ o ∈ f.options.join, o.Readable
  extra : ∀ m ∈ f.extra, UnmodelledMember d m

theorem readable_none : Readable d .none :=
  ⟨by simp [none], by simp [none], by simp [none]⟩

theorem Readable.of_either {f g h : PayloadFields} (hf : f.Readable d) (hg : g.Readable d)
    (hverb : ∀ t ∈ h.actionType.join, t ∈ f.actionType.join ∨ t ∈ g.actionType.join)
    (hoptions : ∀ o ∈ h.options.join, o ∈ f.options.join ∨ o ∈ g.options.join)
    (hextra : ∀ m ∈ h.extra, m ∈ f.extra ∨ m ∈ g.extra) : h.Readable d :=
  ⟨fun t ht ↦ (hverb t ht).elim (hf.verb t) (hg.verb t),
    fun o ho ↦ (hoptions o ho).elim (hf.options o) (hg.options o),
    fun m hm ↦ (hextra m hm).elim (hf.extra m) (hg.extra m)⟩

theorem FieldStands.verb {partly : Bool} {v : Value} {o : Option ActionType}
    (h : FieldStands partly VerbStands v o) : ∀ t ∈ o, t.Readable := by
  rintro t rfl
  have hs : VerbStands v t := by
    cases partly with
    | true => exact h.2
    | false =>
      obtain ⟨t', ht, hs⟩ := h
      rwa [Option.some.inj ht]
  obtain ⟨s, -, rfl⟩ := hs
  exact ActionType.readable_ofName s

theorem Taken.readable {partly : Bool} {f f' : PayloadFields} {m : String × Value}
    (h : Taken partly f m f') (hd : m.2.nesting < d) (hn : ∀ n ∈ m.2.numbers, n.InRange)
    (hf : f.Readable d) : f'.Readable d := by
  unfold Taken at h
  cases hm : fieldOf m.1 with
  | actionType =>
    simp only [hm] at h
    obtain ⟨-, a, ha, rfl⟩ := h
    exact ⟨ha.verb, hf.options, hf.extra⟩
  | axis =>
    simp only [hm] at h
    obtain ⟨-, a, ha, rfl⟩ := h
    exact ⟨hf.verb, hf.options, hf.extra⟩
  | arguments =>
    simp only [hm] at h
    obtain ⟨-, a, ha, rfl⟩ := h
    exact ⟨hf.verb, hf.options, hf.extra⟩
  | code =>
    simp only [hm] at h
    obtain ⟨-, a, ha, rfl⟩ := h
    exact ⟨hf.verb, hf.options, hf.extra⟩
  | options =>
    simp only [hm] at h
    obtain ⟨-, a, ha, rfl⟩ := h
    refine ⟨hf.verb, ?_, hf.extra⟩
    rintro o rfl
    exact ha.2.readable hn
  | other =>
    simp only [hm] at h
    subst h
    refine ⟨hf.verb, hf.options, fun m' hm' ↦ ?_⟩
    rcases List.mem_cons.1 hm' with rfl | hm'
    · exact ⟨hm, Json.collect_collect _, (Json.nesting_collect_le (Nat.le_refl _)).trans_lt hd,
        fun n h ↦ hn n (Json.numbers_collect_subset _ h)⟩
    · exact hf.extra m' hm'

theorem readable_of_steps {partly : Bool} {f : PayloadFields} {ms : List (String × Value)}
    (h : Steps (Taken partly) .none ms f) (hd : (Value.object ms).nesting ≤ d)
    (hn : ∀ n ∈ (Value.object ms).numbers, n.InRange) : f.Readable d := by
  refine Steps.invariant (fun s m s' hm hs ↦ ?_) h readable_none
  have hlt : m.2.nesting < d := by
    cases d with
    | zero => simp [Value.nesting] at hd
    | succ d => exact Nat.lt_succ_of_le (Json.nesting_object_le.1 hd m hm)
  exact Taken.readable hs hlt fun n h ↦ hn n (Json.mem_numbers_object.2 ⟨m, hm, h⟩)

def written (f : PayloadFields) : List (String × Value) :=
  optionalMember "action_type" (f.actionType.map (nullOr fun t ↦ .text t.name)) ++
    optionalMember "axis" (f.axis.map (nullOr fun a ↦ .text a.name)) ++
    optionalMember "action_arguments" (f.arguments.map (nullOr textsValue)) ++
    optionalMember "action_code" (f.code.map (nullOr .text)) ++
    optionalMember "action_options" (f.options.map (nullOr Options.toValue)) ++
    f.extra.reverse

/-- Whether no field is null that every payload has. -/
def Whole (f : PayloadFields) : Prop :=
  f.actionType ≠ some .none ∧ f.axis ≠ some .none ∧ f.arguments ≠ some .none

theorem nullableStands_nullOr {α : Type} {R : Value → α → Prop} {write : α → Value} {o : Option α}
    (hw : ∀ a ∈ o, write a ≠ .null ∧ R (write a) a) : NullableStands R (nullOr write o) o := by
  cases o with
  | none => rfl
  | some a => exact hw a rfl

theorem fieldStands_nullOr {α : Type} {partly : Bool} {R : Value → α → Prop} {write : α → Value}
    {o : Option α} (hp : partly = false → o ≠ .none)
    (hw : ∀ a ∈ o, write a ≠ .null ∧ R (write a) a) : FieldStands partly R (nullOr write o) o := by
  cases partly with
  | true => exact nullableStands_nullOr hw
  | false =>
    obtain ⟨a, rfl⟩ := Option.ne_none_iff_exists'.1 (hp rfl)
    exact ⟨a, rfl, (hw a rfl).2⟩

theorem listStands_textsValue (names : List String) :
    ListStands TextStands (textsValue names) names :=
  ⟨_, rfl, List.forall₂_map_left_iff.2 (List.forall₂_same.2 fun _ _ ↦ rfl)⟩

theorem steps_extra {partly : Bool} {f : PayloadFields} {ms : List (String × Value)}
    (h : ∀ m ∈ ms, UnmodelledMember d m) :
    Steps (Taken partly) f ms { f with extra := ms.reverse ++ f.extra } := by
  induction ms generalizing f with
  | nil => rfl
  | cons m ms ih =>
    have hm := h m List.mem_cons_self
    refine ⟨{ f with extra := m :: f.extra }, ?_, ?_⟩
    · simp only [Taken, hm.other, hm.collected]
    · simpa using ih fun m' hm' ↦ h m' (List.mem_cons_of_mem m hm')

theorem Readable.steps_written {partly : Bool} {f : PayloadFields} (h : f.Readable d)
    (hw : partly = false → f.Whole) : Steps (Taken partly) .none f.written f := by
  obtain ⟨actionType, axis, arguments, code, options, extra⟩ := f
  have hactionType := steps_optionalMember (R := Taken partly) "action_type"
    (nullOr fun t : ActionType ↦ .text t.name) (⟨·, .none, .none, .none, .none, []⟩) actionType
    fun o ho ↦ ⟨rfl, o, fieldStands_nullOr (fun hp he ↦ (hw hp).1 (he ▸ ho)) fun t ht ↦
      ⟨by simp, _, rfl, h.verb t (Option.join_eq_some_iff.2 (ht ▸ ho))⟩, rfl⟩
  have haxis := steps_optionalMember (R := Taken partly) "axis"
    (nullOr fun a : Axis ↦ .text a.name) (⟨actionType, ·, .none, .none, .none, []⟩) axis
    fun o ho ↦ ⟨rfl, o, fieldStands_nullOr (fun hp he ↦ (hw hp).2.1 (he ▸ ho)) fun a _ ↦
      ⟨by simp, a.name, .inl rfl, by cases a <;> rfl⟩, rfl⟩
  have harguments := steps_optionalMember (R := Taken partly) "action_arguments"
    (nullOr textsValue) (⟨actionType, axis, ·, .none, .none, []⟩) arguments
    fun o ho ↦ ⟨rfl, o, fieldStands_nullOr (fun hp he ↦ (hw hp).2.2 (he ▸ ho)) fun names _ ↦
      ⟨by simp [textsValue], listStands_textsValue names⟩, rfl⟩
  have hcode := steps_optionalMember (R := Taken partly) "action_code"
    (nullOr .text) (⟨actionType, axis, arguments, ·, .none, []⟩) code
    fun o _ ↦ ⟨rfl, o, nullableStands_nullOr fun s _ ↦ ⟨by simp, rfl⟩, rfl⟩
  have hoptions := steps_optionalMember (R := Taken partly) "action_options"
    (nullOr Options.toValue) (⟨actionType, axis, arguments, code, ·, []⟩) options
    fun o ho ↦ ⟨rfl, o, nullableStands_nullOr fun x hx ↦
      ⟨by simp [Options.toValue], (h.options x (Option.join_eq_some_iff.2 (hx ▸ ho))).stands⟩, rfl⟩
  have hextra := @steps_extra d partly ⟨actionType, axis, arguments, code, options, []⟩ extra.reverse
    fun m hm ↦ h.extra m (List.mem_reverse.1 hm)
  simp only [List.reverse_reverse, List.append_nil] at hextra
  exact steps_append.2 ⟨_, steps_append.2 ⟨_, steps_append.2 ⟨_, steps_append.2 ⟨_, steps_append.2
    ⟨_, hactionType, haxis⟩, harguments⟩, hcode⟩, hoptions⟩, hextra⟩

end PayloadFields

end SuggestionReview
