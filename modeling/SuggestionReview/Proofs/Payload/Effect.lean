import SuggestionReview.Proofs.Payload.Merge
import SuggestionReview.Proofs.Payload.Preserved

namespace SuggestionReview

open Json (Value document)
open Json.Reader (exists_ok NullableStands TextStands ListStands ChoiceStands)
open PayloadFields

variable {α : Type} {ms : List (String × Value)} {k : String} {v : Value}

namespace PayloadFields

def Field.isNeeded : Field → Bool
  | .actionType | .axis | .arguments => true
  | .code | .options | .other => false

theorem mem_given (h : (k, v) ∈ ms) : v ∈ given (fieldOf k) ms :=
  List.mem_map.2 ⟨(k, v), List.mem_filter.2 ⟨h, decide_eq_true rfl⟩, rfl⟩

theorem GivenOnce.of_mem {R : Value → α → Prop} {vs : List Value} {o : Option α}
    (h : GivenOnce R vs o) (hv : v ∈ vs) : ∃ a, o = some a ∧ R v a := by
  rcases h with ⟨rfl, -⟩ | ⟨w, a, rfl, rfl, hR⟩
  · exact absurd hv List.not_mem_nil
  · obtain rfl := List.mem_singleton.1 hv
    exact ⟨a, rfl, hR⟩

section

variable {R : Value → α → Prop} {vs : List Value} {o : Option (Option α)} (write : α → Value)
  (change : Value → Value)

theorem GivenOnce.replaces (h : GivenOnce (NullableStands R) vs o) (hv : v ∈ vs)
    (hR : ∀ a, R v a → write a = change v) (old : α) :
    some (write (o.join.getD old)) = ((nonNull? v).map change).or (some (write old)) := by
  obtain ⟨o, rfl, hstands⟩ := h.of_mem hv
  rw [← written_of_nullable hstands hR]
  cases o <;> rfl

theorem GivenOnce.takesAway (h : GivenOnce (NullableStands R) vs o) (hv : v ∈ vs)
    (hR : ∀ a, R v a → write a = change v) (old : Option α) :
    (o.getD old).map write = (nonNull? v).map change := by
  obtain ⟨o, rfl, hstands⟩ := h.of_mem hv
  exact written_of_nullable hstands hR

end

end PayloadFields

def axisAsRead : Value → Value
  | .object [(name, .null)] => .text name
  | v => v

theorem ChoiceStands.axisAsRead {a : Axis} (h : ChoiceStands Axis.names v a) :
    .text a.name = axisAsRead v := by
  obtain ⟨name, rfl | rfl, hget⟩ := h <;> rw [Axis.name_of_get? hget] <;> rfl

/-- What a document gives under a key. Only without a meaning is null a value. -/
def asGiven (key : String) (v : Value) : Option Value :=
  match fieldOf key with
  | .actionType | .arguments | .code => nonNull? v
  | .axis => (nonNull? v).map axisAsRead
  | .options => (nonNull? v).map optionsAsRead
  | .other => some v.collect

theorem isSome_asGiven (hv : v ≠ .null) : (asGiven k v).isSome := by
  unfold asGiven
  split <;> simp [nonNull?_of_ne hv]

theorem asGiven_null (h : (fieldOf k).isNeeded = true) : asGiven k .null = .none := by
  unfold asGiven
  cases hk : fieldOf k with
  | actionType | axis | arguments | code | options => rfl
  | other =>
    rw [hk] at h
    exact absurd h Bool.false_ne_true

namespace Payload

variable {d : Payload} {f : PayloadFields}

def member? (p : Payload) (key : String) : Option Value :=
  match fieldOf key with
  | .actionType => some (.text p.actionType.name)
  | .axis => some (.text p.axis.name)
  | .arguments => some (textsValue p.arguments)
  | .code => p.code.map .text
  | .options => p.options.map Options.toValue
  | .other => p.extra.get? key

theorem get?_toPatch (h : Gathered true ms f) (hk : fieldOf k = .other) :
    f.toPatch.extra.get? k = (Entries.last? ms k).map Value.collect := by
  have hothers : Entries.last? (others ms) k = Entries.last? ms k :=
    Entries.last?_filter (P := (fieldOf · = .other)) (decide_eq_true hk) ms
  rw [toPatch, Entries.get?_ofList, h.extra, Entries.last?_map, hothers]

theorem member?_merge (h : Gathered true ms f) (hlast : Entries.last? ms k = some v)
    (hmem : (k, v) ∈ ms) : (d.merge f.toPatch).member? k =
      if (fieldOf k).isNeeded then (asGiven k v).or (d.member? k) else asGiven k v := by
  have hgiven := mem_given hmem
  unfold member? asGiven
  cases hk : fieldOf k with
  | actionType =>
    have hreplaces := h.actionType.replaces (fun t ↦ .text t.name) id (hk ▸ hgiven)
      (fun t ⟨s, hs, ht⟩ ↦ by rw [hs, ht, ActionType.name_ofName, id]) d.actionType
    rwa [Option.map_id] at hreplaces
  | axis =>
    exact h.axis.replaces (fun a ↦ .text a.name) axisAsRead (hk ▸ hgiven)
      (fun _ ↦ ChoiceStands.axisAsRead) d.axis
  | arguments =>
    have hreplaces := h.arguments.replaces textsValue id (hk ▸ hgiven)
      (fun _ hv ↦ (ListStands.eq_textsValue hv).symm) d.arguments
    rwa [Option.map_id] at hreplaces
  | code =>
    have htakesAway := h.code.takesAway .text id (hk ▸ hgiven) (fun _ hv ↦ hv.symm) d.code
    rwa [Option.map_id] at htakesAway
  | options =>
    exact h.options.takesAway Options.toValue optionsAsRead (hk ▸ hgiven)
      (fun _ ↦ OptionsStand.toValue_eq) d.options
  | other =>
    have hkeys : f.toPatch.extra.keys.Nodup := Entries.nodup_keys_ofList _
    calc (d.merge f.toPatch).extra.get? k
        = (f.toPatch.extra.get? k).or (d.extra.get? k) := by
          rw [merge, Entries.get?_insertAll, Entries.last?_of_nodup hkeys]
      _ = some v.collect := by
          rw [get?_toPatch h hk, hlast, Option.map_some, Option.some_or]

/-- What a patch gives under a key is there afterwards. Only null does nothing to what every payload
has. -/
theorem member?_merge_given {s : String} {q : Patch} (h : Patch.parse s = .ok q) :
    ∃ ms, document s = .ok (.object ms) ∧ ∀ k ∈ ms.map (·.1), ∃ v, Entries.last? ms k = some v ∧
      ∀ d : Payload,
        (¬(v = .null ∧ (fieldOf k).isNeeded = true) → (d.merge q).member? k = asGiven k v) ∧
        (v = .null → (fieldOf k).isNeeded = true → (d.merge q).member? k = d.member? k) := by
  obtain ⟨_, hv, ms, f, rfl, hs, rfl⟩ := Patch.parse_eq_ok.1 h
  have hgathered := gathered_of_steps hs
  refine ⟨ms, hv, fun k hk ↦ ?_⟩
  obtain ⟨v, hlast, hmem⟩ := Entries.exists_last? hk
  refine ⟨v, hlast, fun d ↦ ⟨fun hgiven ↦ ?_, fun hnull hneeded ↦ ?_⟩⟩
  · rw [member?_merge hgathered hlast hmem]
    split
    · next hneeded => rw [Option.or_of_isSome (isSome_asGiven fun hnull ↦ hgiven ⟨hnull, hneeded⟩)]
    · rfl
  · rw [member?_merge hgathered hlast hmem, if_pos hneeded, hnull, asGiven_null hneeded, Option.none_or]

theorem member?_merge_given_nulls :
    ∃ q, Patch.parse "\x7b\"arguments\":[\"x\"],\"code\":null,\"axis\":null,\"flag\":true\x7d" = .ok q ∧
      ∀ d : Payload,
        (d.merge q).member? "arguments" = some (.array [.text "x"]) ∧
        (d.merge q).member? "code" = .none ∧
        (d.merge q).member? "axis" = d.member? "axis" ∧
        (d.merge q).member? "flag" = some (.bool true) := by
  let members := [("arguments", .array [.text "x"]), ("code", .null), ("axis", Value.null),
    ("flag", .bool true)]
  have htext : (Value.object members).compact =
      "\x7b\"arguments\":[\"x\"],\"code\":null,\"axis\":null,\"flag\":true\x7d" := by
    decide +kernel
  have hdocument : document (Value.object members).compact = .ok (.object members) :=
    Json.document_compact (by decide) (by decide)
  obtain ⟨q, hq, -⟩ := exists_ok (r := Patch.parse (Value.object members).compact)
    (P := (·.isEmpty = false)) (by decide +kernel)
  obtain ⟨ms, hms, hgiven⟩ := member?_merge_given hq
  rw [hdocument] at hms
  obtain rfl : members = ms := by simpa using hms
  obtain ⟨arguments, harguments, hreplaced⟩ := hgiven "arguments" (by decide)
  obtain ⟨code, hcode, htaken⟩ := hgiven "code" (by decide)
  obtain ⟨axis, haxis, hkept⟩ := hgiven "axis" (by decide)
  obtain ⟨flag, hflag, hadded⟩ := hgiven "flag" (by decide)
  obtain rfl : .array [.text "x"] = arguments := Option.some.inj harguments
  obtain rfl : .null = code := Option.some.inj hcode
  obtain rfl : .null = axis := Option.some.inj haxis
  obtain rfl : .bool true = flag := Option.some.inj hflag
  refine ⟨q, htext ▸ hq, fun d ↦ ⟨?_, ?_, (hkept d).2 rfl rfl, ?_⟩⟩
  · exact (hreplaced d).1 fun h ↦ nomatch h.1
  · exact (htaken d).1 fun h ↦ nomatch h.2
  · exact (hadded d).1 fun h ↦ nomatch h.1

/-- Arguments that are null do nothing. -/
theorem not_given_null_arguments :
    ∃ q d, document "\x7b\"action_arguments\":null\x7d" = .ok (.object [("action_arguments", .null)]) ∧
      Patch.parse "\x7b\"action_arguments\":null\x7d" = .ok q ∧
      parse "\x7b\"action_type\":\"average\",\"axis\":\"row\",\"action_arguments\":[\"age\"]\x7d" = .ok d ∧
      (d.merge q).member? "action_arguments" ≠ asGiven "action_arguments" .null ∧
      (d.merge q).member? "action_arguments" = some (.array [.text "age"]) ∧
      d.merge q = d := by
  have htext : (Value.object [("action_arguments", .null)]).compact =
      "\x7b\"action_arguments\":null\x7d" := by
    decide +kernel
  obtain ⟨q, hq, hempty⟩ := exists_ok (r := Patch.parse "\x7b\"action_arguments\":null\x7d")
    (P := (·.isEmpty = true)) (by decide +kernel)
  obtain ⟨d, hd, harguments⟩ := exists_ok
    (r := parse "\x7b\"action_type\":\"average\",\"axis\":\"row\",\"action_arguments\":[\"age\"]\x7d")
    (P := (·.arguments = ["age"])) (by decide +kernel)
  obtain rfl := Patch.isEmpty_iff.1 hempty
  have hmember : (d.merge .empty).member? "action_arguments" = some (.array [.text "age"]) := by
    rw [merge_empty]
    exact congrArg (some <| textsValue ·) harguments
  refine ⟨.empty, d, htext ▸ Json.document_compact (by decide) (by decide), hq, hd, ?_, hmember,
    d.merge_empty⟩
  rw [hmember]
  exact nofun

end Payload

end SuggestionReview
