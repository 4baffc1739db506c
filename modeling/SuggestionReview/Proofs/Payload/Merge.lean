import SuggestionReview.Proofs.Payload.RoundTrip

namespace SuggestionReview

open Json.Reader (exists_ok maxDepth)

variable {α : Type} {n : Nat} {d : Payload} {p q : Patch}

def Replaces (given : Option α) (old new : α) : Prop :=
  (given = none → new = old) ∧ ∀ a, given = some a → new = a

theorem replaces_getD (given : Option α) (old : α) : Replaces given old (given.getD old) := by
  refine ⟨fun h ↦ ?_, fun a h ↦ ?_⟩
  · rw [h, Option.getD_none]
  · rw [h, Option.getD_some]

theorem eq_none_of_getD {given : Option α} {a b : α} (hne : a ≠ b) (ha : given.getD a = a)
    (hb : given.getD b = b) : given = none := by
  cases given with
  | none => rfl
  | some c => exact absurd (ha.symm.trans hb) hne

namespace Patch

def upon (q p : Patch) : Patch where
  actionType := q.actionType.or p.actionType
  axis := q.axis.or p.axis
  arguments := q.arguments.or p.arguments
  code := q.code.or p.code
  options := q.options.or p.options
  extra := p.extra.insertAll q.extra

theorem upon_self (h : p.extra.keys.Nodup) : p.upon p = p := by
  have hextra : p.extra.insertAll p.extra = p.extra :=
    Entries.insertAll_of_subset h fun _ hx ↦ hx
  simp only [upon, Option.or_self, hextra]

theorem isEmpty_iff : p.isEmpty = true ↔ p = .empty := by
  obtain ⟨actionType, axis, arguments, code, options, extra⟩ := p
  simp [isEmpty, empty, and_assoc]

theorem Readable.upon (hq : q.Readable n) (hp : p.Readable n) : (q.upon p).Readable n := by
  refine ⟨hq.fields.of_either hp.fields (fun t ht ↦ ?_) (fun o ho ↦ ?_) fun m hm ↦ ?_,
    Entries.nodup_keys_insertAll hp.nodup q.extra⟩
  · cases hs : q.actionType <;> simp_all [Patch.fields, Patch.upon]
  · cases hs : q.options <;> simp_all [Patch.fields, Patch.upon]
  · simpa [Patch.fields] using Entries.mem_of_mem_insertAll (List.mem_reverse.1 hm)

end Patch

namespace Payload

/-- Whether a payload is another one with a patch laid over it. Members of the rest that are there
stay where they are, and those that are new come after them in the order of the patch. -/
structure Laid (d : Payload) (p : Patch) (m : Payload) : Prop where
  actionType : Replaces p.actionType d.actionType m.actionType
  axis : Replaces p.axis d.axis m.axis
  arguments : Replaces p.arguments d.arguments m.arguments
  code : Replaces p.code d.code m.code
  options : Replaces p.options d.options m.options
  value : ∀ k, Replaces ((p.extra.get? k).map some) (d.extra.get? k) (m.extra.get? k)
  keys : m.extra.keys = d.extra.keys ++ p.extra.keys.filter (· ∉ d.extra.keys)

theorem laid_merge (d : Payload) (h : p.extra.keys.Nodup) : d.Laid p (d.merge p) := by
  refine ⟨replaces_getD _ _, replaces_getD _ _, replaces_getD _ _, replaces_getD _ _,
    replaces_getD _ _, fun k ↦ ?_, Entries.keys_insertAll h⟩
  have hvalue : (d.merge p).extra.get? k = ((p.extra.get? k).map some).getD (d.extra.get? k) := by
    rw [merge, Entries.get?_insertAll, Entries.last?_of_nodup h]
    cases p.extra.get? k <;> rfl
  rw [hvalue]
  exact replaces_getD _ _

theorem merge_empty (d : Payload) : d.merge .empty = d := rfl

/-- One patch after another is the later one over the earlier one. -/
theorem merge_upon (hd : d.extra.keys.Nodup) (hp : p.extra.keys.Nodup) (hq : q.extra.keys.Nodup) :
    d.merge (q.upon p) = (d.merge p).merge q := by
  simp only [merge, Patch.upon, Option.getD_or, Entries.insertAll_insertAll hd hp hq]

theorem eq_empty_of_merge {d' : Payload} (hactionType : d.actionType ≠ d'.actionType)
    (haxis : d.axis ≠ d'.axis) (harguments : d.arguments ≠ d'.arguments) (hcode : d.code ≠ d'.code)
    (hoptions : d.options ≠ d'.options) (hextra : d.extra = []) (hp : p.extra.keys.Nodup)
    (h : d.merge p = d) (h' : d'.merge p = d') : p = .empty := by
  have hrest : p.extra = [] := by
    calc p.extra = Entries.insertAll [] p.extra := (Entries.ofList_of_nodup hp).symm
      _ = (d.merge p).extra := by rw [merge, hextra]
      _ = [] := by rw [h, hextra]
  obtain ⟨actionType, axis, arguments, code, options, extra⟩ := p
  obtain rfl : extra = [] := hrest
  obtain rfl := eq_none_of_getD hactionType (congrArg (·.actionType) h) (congrArg (·.actionType) h')
  obtain rfl := eq_none_of_getD haxis (congrArg (·.axis) h) (congrArg (·.axis) h')
  obtain rfl := eq_none_of_getD harguments (congrArg (·.arguments) h) (congrArg (·.arguments) h')
  obtain rfl := eq_none_of_getD hcode (congrArg (·.code) h) (congrArg (·.code) h')
  obtain rfl := eq_none_of_getD hoptions (congrArg (·.options) h) (congrArg (·.options) h')
  rfl

/-- A patch that changes no payload that can be read has nothing. -/
theorem eq_empty_of_forall_merge (hp : p.extra.keys.Nodup)
    (h : ∀ u d, parse u = .ok d → d.merge p = d) : p = .empty := by
  -- two payloads that differ in every field: what the patch has cannot be what both have
  obtain ⟨d, hd, hactionType, haxis, harguments, hcode, hoptions, hextra⟩ := exists_ok
    (r := parse "\x7b\"action_type\":\"sum\",\"axis\":\"row\"\x7d")
    (P := fun d ↦ d.actionType = .sum ∧ d.axis = .row ∧ d.arguments = [] ∧ d.code = none ∧
      d.options.isNone = true ∧ d.extra.isEmpty = true)
    (by decide +kernel)
  obtain ⟨d', hd', hactionType', haxis', harguments', hcode', hoptions'⟩ := exists_ok
    (r := parse "\x7b\"action_type\":\"max\",\"axis\":\"column\",\"arguments\":[\"age\"],
      \"code\":\"x\",\"options\":\x7b\x7d\x7d")
    (P := fun d ↦ d.actionType = .max ∧ d.axis = .column ∧ d.arguments = ["age"] ∧
      d.code = some "x" ∧ d.options.isSome = true)
    (by decide +kernel)
  refine eq_empty_of_merge ?_ ?_ ?_ ?_ ?_ (List.isEmpty_iff.1 hextra) hp (h _ d hd) (h _ d' hd')
  · simp [hactionType, hactionType']
  · simp [haxis, haxis']
  · simp [harguments, harguments']
  · simp [hcode, hcode']
  · rw [Option.isNone_iff_eq_none.1 hoptions]
    exact (Option.ne_none_iff_isSome.2 hoptions').symm

/-- Patches act on payloads: only the empty one changes nothing, what a patch has replaces what the
payload has, laying it over twice does no more than once, and one patch after another is a single
one. -/
theorem merge_lawful {s t : String} (hp : Patch.parse s = .ok p) (hq : Patch.parse t = .ok q) :
    (p.isEmpty = true ↔ ∀ u d, parse u = .ok d → d.merge p = d) ∧
    (q.upon p).Readable maxDepth ∧
    ∀ u d, parse u = .ok d →
      d.Laid p (d.merge p) ∧
      (d.merge p).merge p = d.merge p ∧
      (d.merge p).merge q = d.merge (q.upon p) := by
  have hp := Patch.readable_of_parse hp
  have hq := Patch.readable_of_parse hq
  refine ⟨⟨fun hempty u d _ ↦ ?_, fun h ↦ ?_⟩, hq.upon hp, fun u d hd ↦ ⟨?_, ?_, ?_⟩⟩
  · rw [Patch.isEmpty_iff.1 hempty, merge_empty]
  · exact Patch.isEmpty_iff.2 (eq_empty_of_forall_merge hp.nodup h)
  · exact d.laid_merge hp.nodup
  · have hd := (readable_of_parse hd).nodup
    rw [← merge_upon hd hp.nodup hp.nodup, Patch.upon_self hp.nodup]
  · exact (merge_upon (readable_of_parse hd).nodup hp.nodup hq.nodup).symm

theorem merge_lawful_flagged :
    ∃ p q d,
      Patch.parse "\x7b\"outputs\":[\"x\"],\"code\":null,\"flag\":true\x7d" = .ok p ∧
      Patch.parse "\x7b\"flag\":false,\"axis\":\"row\",\"note\":1\x7d" = .ok q ∧
      parse "\x7b\"flag\":0,\"action_type\":\"sum\",\"axis\":\"column\",\"code\":\"y\",\"outputs\":[]\x7d" =
        .ok d ∧
      p.isEmpty = false ∧
      (d.merge (q.upon p)).toValue.compact =
        "\x7b\"action_type\":\"sum\",\"axis\":\"row\",\"action_arguments\":[],\"flag\":false,\"outputs\":[\"x\"],\"note\":1\x7d" ∧
      (d.merge p).merge p = d.merge p ∧
      (d.merge p).merge q = d.merge (q.upon p) ∧
      ¬ ∀ u d, parse u = .ok d → d.merge p = d := by
  have hread : ∃ p ∈ (Patch.parse "\x7b\"outputs\":[\"x\"],\"code\":null,\"flag\":true\x7d").toOption,
      ∃ q ∈ (Patch.parse "\x7b\"flag\":false,\"axis\":\"row\",\"note\":1\x7d").toOption,
      ∃ d ∈ (parse "\x7b\"flag\":0,\"action_type\":\"sum\",\"axis\":\"column\",\"code\":\"y\",\"outputs\":[]\x7d").toOption,
        p.isEmpty = false ∧ (d.merge (q.upon p)).toValue.compact =
          "\x7b\"action_type\":\"sum\",\"axis\":\"row\",\"action_arguments\":[],\"flag\":false,\"outputs\":[\"x\"],\"note\":1\x7d" := by
    decide +kernel
  obtain ⟨p, hp, hq⟩ := exists_ok hread
  obtain ⟨q, hq, hd⟩ := exists_ok hq
  obtain ⟨d, hd, hsome, hmerged⟩ := exists_ok hd
  obtain ⟨hempty, -, hlaid⟩ := merge_lawful hp hq
  obtain ⟨-, htwice, hthen⟩ := hlaid _ d hd
  refine ⟨p, q, d, hp, hq, hd, hsome, hmerged, htwice, hthen, fun h ↦ ?_⟩
  rw [hempty.2 h] at hsome
  exact Bool.noConfusion hsome

end Payload

end SuggestionReview
