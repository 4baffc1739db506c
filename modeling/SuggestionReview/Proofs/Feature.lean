import SuggestionReview.Proofs.Entries
import SuggestionReview.Suggestion.Load

namespace SuggestionReview

namespace Entries

variable {α : Type}

theorem mem_of_get? {e : Entries α} {key : String} {value : α} (h : e.get? key = some value) :
    (key, value) ∈ e := by
  obtain ⟨⟨k, v⟩, hfind, rfl⟩ := Option.map_eq_some_iff.1 h
  obtain rfl : k = key := by simpa using List.find?_some hfind
  exact List.mem_of_find?_eq_some hfind

theorem isSome_get?_iff (e : Entries α) (key : String) :
    (e.get? key).isSome = true ↔ key ∈ e.keys := by
  simp [get?, keys]

end Entries

namespace FeatureMapping

variable {m : FeatureMapping} {features : List Feature}

theorem entries_ofList (pairs : List (String × Nat)) : (ofList pairs).entries = .ofList pairs := by
  induction pairs using List.reverseRecOn with
  | nil => rfl
  | append_singleton pairs x ih =>
    rw [Entries.ofList_concat, ← ih, ofList, List.foldl_append]
    rfl

theorem id_of_get? (h : m.isConsistentWith features = true) {name : String} {column : Nat}
    (hget : m.get? name = some column) : features[column]?.map (·.id) = some name :=
  beq_iff_eq.1 (List.all_eq_true.1 h _ (Entries.mem_of_get? hget))

theorem isConsistentWith_ofFeatures (features : List Feature) :
    (ofFeatures features).isConsistentWith features = true := by
  rw [isConsistentWith, ofFeatures, entries_ofList, List.all_eq_true]
  intro x hx
  obtain ⟨⟨f, i⟩, hmem, rfl⟩ := List.mem_map.1 (Entries.mem_of_mem_ofList hx)
  rw [List.mk_mem_zipIdx_iff_getElem?] at hmem
  simp [hmem]

theorem contains_ofFeatures {f : Feature} (h : f ∈ features) :
    (ofFeatures features).contains f.id = true := by
  obtain ⟨i, hi⟩ := List.mem_iff_getElem?.1 h
  have hpair : (f, i) ∈ features.zipIdx := List.mk_mem_zipIdx_iff_getElem?.2 hi
  rw [contains, get?, Entries.isSome_get?_iff, ofFeatures, entries_ofList, Entries.keys_ofList,
    List.mem_eraseDups, List.map_map]
  exact List.mem_map.2 ⟨(f, i), hpair, rfl⟩

theorem ofFeatures_concat (features : List Feature) (f : Feature) :
    ofFeatures (features ++ [f]) = (ofFeatures features).insert f.id features.length := by
  simp [ofFeatures, ofList, List.zipIdx_append]

theorem get?_ofFeatures_concat (features : List Feature) (f : Feature) (n : String) :
    (ofFeatures (features ++ [f])).get? n =
      if f.id = n then some features.length else (ofFeatures features).get? n := by
  rw [ofFeatures_concat]
  exact Entries.get?_insert _ f.id n _

end FeatureMapping

namespace FeatureIndex

variable {features : List Feature} {n : String}

theorem lookup_concat (features : List Feature) (f : Feature) (n : String) :
    (ofFeatures (features ++ [f])).lookup n =
      ((ofFeatures features).lookup n).or (if f.id = n then some features.length else none) := by
  by_cases h : f.id = n <;> simp [lookup, ofFeatures, List.idxOf?, List.findIdx?_append, h]

theorem lookup_eq_none_iff : (ofFeatures features).lookup n = none ↔ n ∉ features.map (·.id) :=
  List.idxOf?_eq_none_iff

theorem lt_length_of_lookup {i : Nat} (h : (ofFeatures features).lookup n = some i) :
    i < features.length := by
  obtain ⟨hi, -⟩ := List.idxOf?_eq_some_iff.1 h
  simpa [ofFeatures] using hi

end FeatureIndex

/-- The mapping takes the last column of a name and the index the first. They agree on a name unless
several columns have it. -/
theorem FeatureMapping.get?_eq_lookup_iff (features : List Feature) (n : String) :
    (ofFeatures features).get? n = (FeatureIndex.ofFeatures features).lookup n ↔
      (features.map (·.id)).count n ≤ 1 := by
  induction features using List.reverseRecOn with
  | nil => exact iff_of_true rfl (Nat.zero_le 1)
  | append_singleton features f ih =>
    rw [get?_ofFeatures_concat, FeatureIndex.lookup_concat, List.map_append, List.count_append]
    by_cases h : f.id = n
    · subst h
      have hone : ([f].map (·.id)).count f.id = 1 := List.count_singleton_self
      rw [if_pos rfl, if_pos rfl, hone]
      cases hlookup : (FeatureIndex.ofFeatures features).lookup f.id with
      | none =>
        have hzero := List.count_eq_zero.2 (FeatureIndex.lookup_eq_none_iff.1 hlookup)
        exact iff_of_true rfl (by omega)
      | some i =>
        have hi := FeatureIndex.lt_length_of_lookup hlookup
        have hmem : f.id ∈ features.map (·.id) := by
          by_contra hmem
          exact absurd (hlookup.symm.trans (FeatureIndex.lookup_eq_none_iff.2 hmem)) nofun
        have hcount := List.count_pos_iff.2 hmem
        refine iff_of_false (fun heq ↦ ?_) (by omega)
        exact absurd (Option.some.inj heq) (Nat.ne_of_gt hi)
    · simp [h, ih]

namespace SuggestionFile

theorem isConsistentWith_effectiveMapping {f : SuggestionFile}
    (h : ∀ m, f.mapping = some m → m.isConsistentWith f.features = true) :
    f.effectiveMapping.isConsistentWith f.features = true := by
  rw [effectiveMapping]
  cases hmapping : f.mapping with
  | none => exact FeatureMapping.isConsistentWith_ofFeatures f.features
  | some m => exact h m hmapping

end SuggestionFile

end SuggestionReview
