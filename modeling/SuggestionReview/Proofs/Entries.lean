import Mathlib.Data.List.Induction
import Mathlib.Data.List.Nodup
import SuggestionReview.Basic

namespace SuggestionReview.Entries

variable {α β : Type}

/-- The value that a list in which keys may repeat gives a key last. -/
def last? (list : List (String × α)) (key : String) : Option α :=
  list.foldl (fun found entry ↦ if entry.1 = key then some entry.2 else found) none

theorem get?_insert (e : Entries α) (k k' : String) (v : α) :
    (e.insert k v).get? k' = if k = k' then some v else e.get? k' := by
  induction e with
  | nil => by_cases h : k = k' <;> simp [insert, get?, h]
  | cons entry rest ih =>
    obtain ⟨j, w⟩ := entry
    simp only [get?] at ih
    by_cases hj : j = k
    · subst hj
      by_cases h : j = k' <;> simp [insert, get?, h]
    · by_cases h : j = k'
      · subst h
        simp [insert, get?, hj, Ne.symm hj]
      · simpa [insert, get?, hj, h] using ih

theorem keys_insert (e : Entries α) (k : String) (v : α) :
    (e.insert k v).keys = if k ∈ e.keys then e.keys else e.keys ++ [k] := by
  induction e with
  | nil => simp [insert, keys]
  | cons entry rest ih =>
    obtain ⟨j, w⟩ := entry
    simp only [keys] at ih
    by_cases hj : j = k
    · simp [insert, keys, hj]
    · simp only [insert, if_neg hj, keys, List.map_cons, ih, List.mem_cons, Ne.symm hj, false_or]
      split <;> simp_all

theorem nodup_keys_insert {e : Entries α} (h : e.keys.Nodup) (k : String) (v : α) :
    (e.insert k v).keys.Nodup := by
  rw [keys_insert]
  split
  · exact h
  · next hk =>
    refine List.nodup_append.2 ⟨h, List.nodup_singleton k, fun a ha b hb ↦ ?_⟩
    rw [List.mem_singleton.1 hb]
    exact ne_of_mem_of_not_mem ha hk

theorem mem_of_mem_insert {e : Entries α} {k : String} {v : α} {x : String × α}
    (h : x ∈ e.insert k v) : x = (k, v) ∨ x ∈ e := by
  induction e with
  | nil => exact .inl (by simpa [insert] using h)
  | cons entry rest ih =>
    obtain ⟨j, w⟩ := entry
    by_cases hj : j = k
    · rw [insert, if_pos hj, List.mem_cons] at h
      exact h.imp id (List.mem_cons_of_mem _)
    · rw [insert, if_neg hj, List.mem_cons] at h
      rcases h with rfl | h
      · exact .inr List.mem_cons_self
      · exact (ih h).imp id (List.mem_cons_of_mem _)

theorem insert_of_not_mem {e : Entries α} {k : String} (h : k ∉ e.keys) (v : α) :
    e.insert k v = e ++ [(k, v)] := by
  induction e with
  | nil => rfl
  | cons entry rest ih =>
    obtain ⟨j, w⟩ := entry
    simp only [keys, List.map_cons, List.mem_cons, not_or] at h
    rw [insert, if_neg (Ne.symm h.1), ih h.2, List.cons_append]

theorem insert_of_mem {e : Entries α} (hk : e.keys.Nodup) {k : String} {v : α}
    (h : (k, v) ∈ e) : e.insert k v = e := by
  induction e with
  | nil => simp at h
  | cons entry rest ih =>
    obtain ⟨j, w⟩ := entry
    obtain ⟨hj, hrest⟩ := List.nodup_cons.1 hk
    rcases List.mem_cons.1 h with h | h
    · obtain ⟨rfl, rfl⟩ := Prod.mk.inj h
      exact if_pos rfl
    · have hne : j ≠ k := fun he ↦ hj (List.mem_map.2 ⟨(k, v), h, he.symm⟩)
      rw [insert, if_neg hne, ih hrest h]

theorem insertAll_cons (e : Entries α) (x : String × α) (list : List (String × α)) :
    e.insertAll (x :: list) = (e.insert x.1 x.2).insertAll list := rfl

theorem insertAll_append (e : Entries α) (xs ys : List (String × α)) :
    e.insertAll (xs ++ ys) = (e.insertAll xs).insertAll ys := List.foldl_append

theorem nodup_keys_insertAll {e : Entries α} (h : e.keys.Nodup) (list : List (String × α)) :
    (e.insertAll list).keys.Nodup := by
  induction list generalizing e with
  | nil => exact h
  | cons x list ih => exact ih (nodup_keys_insert h x.1 x.2)

theorem mem_of_mem_insertAll {e : Entries α} {list : List (String × α)} {x : String × α}
    (h : x ∈ e.insertAll list) : x ∈ list ∨ x ∈ e := by
  induction list generalizing e with
  | nil => exact .inr h
  | cons y list ih =>
    rcases ih h with h | h
    · exact .inl (List.mem_cons_of_mem _ h)
    · rcases mem_of_mem_insert h with rfl | h
      · exact .inl List.mem_cons_self
      · exact .inr h

theorem nodup_keys_ofList (list : List (String × α)) : (ofList list).keys.Nodup :=
  nodup_keys_insertAll (e := []) List.nodup_nil list

theorem mem_of_mem_ofList {list : List (String × α)} {x : String × α} (h : x ∈ ofList list) :
    x ∈ list :=
  (mem_of_mem_insertAll h).resolve_right List.not_mem_nil

theorem insertAll_of_disjoint {e : Entries α} {list : List (String × α)}
    (h : (e.keys ++ list.map (·.1)).Nodup) : e.insertAll list = e ++ list := by
  induction list generalizing e with
  | nil => exact (List.append_nil e).symm
  | cons x list ih =>
    have hx : x.1 ∉ e.keys := fun hm ↦
      (List.nodup_append.1 h).2.2 _ hm _ List.mem_cons_self rfl
    rw [insertAll_cons, insert_of_not_mem hx, ih, List.append_assoc, List.singleton_append]
    simpa [keys] using h

theorem ofList_of_nodup {list : List (String × α)} (h : (list.map (·.1)).Nodup) :
    ofList list = list :=
  insertAll_of_disjoint h

theorem insertAll_of_subset {e : Entries α} (hk : e.keys.Nodup) {list : List (String × α)}
    (h : ∀ x ∈ list, x ∈ e) : e.insertAll list = e := by
  induction list with
  | nil => rfl
  | cons x list ih =>
    rw [insertAll_cons, insert_of_mem hk (h x List.mem_cons_self)]
    exact ih fun y hy ↦ h y (List.mem_cons_of_mem _ hy)

theorem ofList_concat (list : List (String × α)) (x : String × α) :
    ofList (list ++ [x]) = (ofList list).insert x.1 x.2 :=
  insertAll_append [] list [x]

theorem keys_ofList (list : List (String × α)) :
    (ofList list).keys = (list.map (·.1)).eraseDups := by
  induction list using List.reverseRecOn with
  | nil => rfl
  | append_singleton list x ih =>
    rw [ofList_concat, keys_insert, ih, List.map_append, List.eraseDups_append]
    simp only [List.mem_eraseDups]
    split <;> next h => simp [List.removeAll, h, List.eraseDups_cons]

theorem last?_concat (list : List (String × α)) (x : String × α) (k : String) :
    last? (list ++ [x]) k = if x.1 = k then some x.2 else last? list k :=
  List.foldl_append

theorem last?_map (f : α → β) (list : List (String × α)) (k : String) :
    last? (list.map fun x ↦ (x.1, f x.2)) k = (last? list k).map f := by
  induction list using List.reverseRecOn with
  | nil => rfl
  | append_singleton list x ih =>
    rw [List.map_append, List.map_singleton, last?_concat, last?_concat, ih]
    split <;> rfl

theorem last?_filter {P : String → Bool} {k : String} (hk : P k = true) (list : List (String × α)) :
    last? (list.filter fun x ↦ P x.1) k = last? list k := by
  induction list using List.reverseRecOn with
  | nil => rfl
  | append_singleton list x ih =>
    rw [List.filter_append, List.filter_singleton, last?_concat]
    by_cases hx : x.1 = k
    · rw [hx, hk, if_pos rfl, cond_true, last?_concat, if_pos hx]
    · rw [if_neg hx]
      cases P x.1 with
      | false => rw [cond_false, List.append_nil, ih]
      | true => rw [cond_true, last?_concat, if_neg hx, ih]

theorem exists_last? {list : List (String × α)} {k : String} (h : k ∈ list.map (·.1)) :
    ∃ v, last? list k = some v ∧ (k, v) ∈ list := by
  induction list using List.reverseRecOn with
  | nil => exact absurd h List.not_mem_nil
  | append_singleton list x ih =>
    rw [last?_concat]
    by_cases hx : x.1 = k
    · subst hx
      exact ⟨x.2, if_pos rfl, List.mem_append_right _ List.mem_cons_self⟩
    · have hlist : k ∈ list.map (·.1) := by simpa [Ne.symm hx] using h
      obtain ⟨v, hv, hmem⟩ := ih hlist
      exact ⟨v, by rw [if_neg hx, hv], List.mem_append_left _ hmem⟩

theorem get?_insertAll (e : Entries α) (list : List (String × α)) (k : String) :
    (e.insertAll list).get? k = (last? list k).or (e.get? k) := by
  induction list using List.reverseRecOn with
  | nil => rfl
  | append_singleton list x ih =>
    rw [insertAll_append, insertAll_cons, insertAll, List.foldl_nil, get?_insert, ih, last?_concat]
    split <;> rfl

theorem get?_ofList (list : List (String × α)) (k : String) :
    (ofList list).get? k = last? list k := by
  rw [ofList, get?_insertAll]
  exact Option.or_none

theorem last?_of_nodup {e : Entries α} (h : e.keys.Nodup) (k : String) : last? e k = e.get? k := by
  rw [← get?_ofList, ofList_of_nodup h]

theorem keys_insertAll {e new : Entries α} (h : new.keys.Nodup) :
    (e.insertAll new).keys = e.keys ++ new.keys.filter (· ∉ e.keys) := by
  induction new using List.reverseRecOn with
  | nil => exact (List.append_nil e.keys).symm
  | append_singleton new x ih =>
    have hkeys : keys (new ++ [x]) = keys new ++ [x.1] := List.map_append
    obtain ⟨hnew, -, hapart⟩ := List.nodup_append.1 (hkeys ▸ h)
    have hx : x.1 ∉ keys new := fun hmem ↦ hapart _ hmem _ List.mem_cons_self rfl
    rw [insertAll_append, insertAll_cons, insertAll, List.foldl_nil, keys_insert, ih hnew, hkeys,
      List.filter_append]
    by_cases he : x.1 ∈ e.keys <;> simp [he, hx]

theorem filterMap_keys {e : Entries α} (h : e.keys.Nodup) :
    e.keys.filterMap (fun k ↦ (e.get? k).map (k, ·)) = e := by
  induction e with
  | nil => rfl
  | cons entry rest ih =>
    obtain ⟨hne, hrest⟩ := List.nodup_cons.1 h
    have hget : ∀ k ∈ keys rest, get? (entry :: rest) k = get? rest k := by
      intro k hk
      have hk' : entry.1 ≠ k := by
        rintro rfl
        exact hne hk
      simp [get?, hk']
    have htail : (keys rest).filterMap (fun k ↦ (get? (entry :: rest) k).map (k, ·)) = rest := by
      rw [List.filterMap_congr fun k hk ↦ by rw [hget k hk]]
      exact ih hrest
    have hhead : get? (entry :: rest) entry.1 = some entry.2 := by simp [get?]
    rw [keys, List.map_cons, List.filterMap_cons, hhead]
    exact congrArg (entry :: ·) htail

/-- Entries with the same keys in the same order, and the same values under them, are the same. -/
theorem eq_of_keys_of_get? {e e' : Entries α} (h : e.keys.Nodup) (hk : e'.keys = e.keys)
    (hg : ∀ k, e'.get? k = e.get? k) : e' = e := by
  calc e' = e'.keys.filterMap fun k ↦ (e'.get? k).map (k, ·) := (filterMap_keys (hk ▸ h)).symm
    _ = e.keys.filterMap fun k ↦ (e.get? k).map (k, ·) := by simp only [hk, hg]
    _ = e := filterMap_keys h

theorem insertAll_insertAll {e first second : Entries α} (he : e.keys.Nodup)
    (hf : first.keys.Nodup) (hs : second.keys.Nodup) :
    e.insertAll (first.insertAll second) = (e.insertAll first).insertAll second := by
  have hboth := nodup_keys_insertAll hf second
  have hnew : ∀ k, (k ∉ e.keys ∧ k ∉ first.keys) ↔ k ∉ (e.insertAll first).keys := by
    intro k
    rw [keys_insertAll hf, List.mem_append, List.mem_filter, decide_eq_true_eq]
    tauto
  refine eq_of_keys_of_get? (nodup_keys_insertAll (nodup_keys_insertAll he first) second) ?_
    fun k ↦ ?_
  · rw [keys_insertAll hboth, keys_insertAll hs, keys_insertAll hs, List.filter_append,
      List.filter_filter, ← List.append_assoc, ← keys_insertAll hf]
    simp only [← Bool.decide_and, hnew]
  · simp only [get?_insertAll, last?_of_nodup hboth, last?_of_nodup hf, last?_of_nodup hs,
      Option.or_assoc]

theorem map_insert (f : α → β) (e : Entries α) (k : String) (v : α) :
    (e.insert k v).map (fun x ↦ (x.1, f x.2)) =
      insert (e.map fun x ↦ (x.1, f x.2)) k (f v) := by
  induction e with
  | nil => rfl
  | cons entry rest ih =>
    obtain ⟨j, w⟩ := entry
    by_cases hj : j = k <;> simp [insert, hj, ih]

theorem map_ofList (f : α → β) (list : List (String × α)) :
    (ofList list).map (fun x ↦ (x.1, f x.2)) = ofList (list.map fun x ↦ (x.1, f x.2)) := by
  induction list using List.reverseRecOn with
  | nil => rfl
  | append_singleton list x ih =>
    rw [ofList_concat, map_insert, ih, List.map_append, List.map_singleton, ofList_concat]

end SuggestionReview.Entries
