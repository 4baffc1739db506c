import Mathlib.Data.List.MinMax
import SuggestionReview.Json.Value
import SuggestionReview.Proofs.Entries

namespace SuggestionReview.Json

variable {n : Nat}

/-- A property of all values follows from the values inside brackets to the brackets. -/
@[elab_as_elim, induction_eliminator]
theorem Value.induction {P : Value → Prop} (null : P .null) (bool : ∀ b, P (.bool b))
    (number : ∀ n, P (.number n)) (text : ∀ s, P (.text s))
    (array : ∀ items, (∀ v ∈ items, P v) → P (.array items))
    (object : ∀ members, (∀ m ∈ members, P m.2) → P (.object members)) (v : Value) : P v :=
  @Value.rec P (fun items ↦ ∀ v ∈ items, P v) (fun members ↦ ∀ m ∈ members, P m.2) (fun m ↦ P m.2)
    null bool number text array object
    (fun _ h ↦ absurd h List.not_mem_nil)
    (fun _ _ hv hvs _ h ↦ (List.mem_cons.1 h).elim (· ▸ hv) (hvs _))
    (fun _ h ↦ absurd h List.not_mem_nil)
    (fun _ _ hm hms _ h ↦ (List.mem_cons.1 h).elim (· ▸ hm) (hms _))
    (fun _ _ h ↦ h) v

mutual

def Value.nesting : Value → Nat
  | .array items => itemsNesting items + 1
  | .object members => membersNesting members + 1
  | _ => 0

def itemsNesting : List Value → Nat
  | [] => 0
  | v :: rest => max v.nesting (itemsNesting rest)

def membersNesting : List (String × Value) → Nat
  | [] => 0
  | (_, v) :: rest => max v.nesting (membersNesting rest)

end

mutual

def Value.numbers : Value → List Number
  | .number n => [n]
  | .array items => itemsNumbers items
  | .object members => membersNumbers members
  | _ => []

def itemsNumbers : List Value → List Number
  | [] => []
  | v :: rest => v.numbers ++ itemsNumbers rest

def membersNumbers : List (String × Value) → List Number
  | [] => []
  | (_, v) :: rest => v.numbers ++ membersNumbers rest

end

mutual

/-- The value with the members of every object under distinct keys. -/
def Value.collect : Value → Value
  | .array items => .array (collectItems items)
  | .object members => .object (Entries.ofList (collectMembers members))
  | v => v

def collectItems : List Value → List Value
  | [] => []
  | v :: rest => v.collect :: collectItems rest

def collectMembers : List (String × Value) → List (String × Value)
  | [] => []
  | (k, v) :: rest => (k, v.collect) :: collectMembers rest

end

theorem itemsNesting_le {items : List Value} :
    itemsNesting items ≤ n ↔ ∀ v ∈ items, v.nesting ≤ n := by
  induction items with
  | nil => simp [itemsNesting]
  | cons v rest ih => simp [itemsNesting, ih]

theorem membersNesting_le {members : List (String × Value)} :
    membersNesting members ≤ n ↔ ∀ m ∈ members, m.2.nesting ≤ n := by
  induction members with
  | nil => simp [membersNesting]
  | cons m rest ih => simp [membersNesting, ih]

theorem nesting_array_le {items : List Value} :
    (Value.array items).nesting ≤ n + 1 ↔ ∀ v ∈ items, v.nesting ≤ n := by
  rw [Value.nesting, Nat.add_le_add_iff_right, itemsNesting_le]

theorem nesting_object_le {members : List (String × Value)} :
    (Value.object members).nesting ≤ n + 1 ↔ ∀ m ∈ members, m.2.nesting ≤ n := by
  rw [Value.nesting, Nat.add_le_add_iff_right, membersNesting_le]

theorem mem_numbers_array {items : List Value} {x : Number} :
    x ∈ (Value.array items).numbers ↔ ∃ v ∈ items, x ∈ v.numbers := by
  rw [Value.numbers]
  induction items with
  | nil => simp [itemsNumbers]
  | cons v rest ih => simp [itemsNumbers, ih]

theorem mem_numbers_object {members : List (String × Value)} {x : Number} :
    x ∈ (Value.object members).numbers ↔ ∃ m ∈ members, x ∈ m.2.numbers := by
  rw [Value.numbers]
  induction members with
  | nil => simp [membersNumbers]
  | cons m rest ih => simp [membersNumbers, ih]

theorem collectItems_eq (items : List Value) : collectItems items = items.map Value.collect := by
  induction items with
  | nil => rfl
  | cons v rest ih => rw [collectItems, ih, List.map_cons]

theorem collectMembers_eq (members : List (String × Value)) :
    collectMembers members = members.map fun m ↦ (m.1, m.2.collect) := by
  induction members with
  | nil => rfl
  | cons m rest ih => rw [collectMembers, ih, List.map_cons]

theorem collect_array (items : List Value) :
    (Value.array items).collect = .array (items.map Value.collect) := by
  rw [Value.collect, collectItems_eq]

theorem collect_object (members : List (String × Value)) :
    (Value.object members).collect =
      .object (Entries.ofList (members.map fun m ↦ (m.1, m.2.collect))) := by
  rw [Value.collect, collectMembers_eq]

theorem collect_object_of_nodup {members : List (String × Value)}
    (hk : (members.map (·.1)).Nodup) (hv : ∀ m ∈ members, m.2.collect = m.2) :
    (Value.object members).collect = .object members := by
  have h : members.map (fun m ↦ (m.1, m.2.collect)) = members :=
    (List.map_congr_left fun m hm ↦ by rw [hv m hm, id]).trans (List.map_id members)
  rw [collect_object, h, Entries.ofList_of_nodup hk]

theorem collect_collect (v : Value) : v.collect.collect = v.collect := by
  induction v with
  | null | bool b | number n | text s => rfl
  | array items ih => simpa [collect_array] using ih
  | object members ih =>
    rw [collect_object]
    refine collect_object_of_nodup (Entries.nodup_keys_ofList _) fun m hm ↦ ?_
    obtain ⟨m', hm', rfl⟩ := List.mem_map.1 (Entries.mem_of_mem_ofList hm)
    exact ih m' hm'

theorem nesting_collect_le {v : Value} (h : v.nesting ≤ n) : v.collect.nesting ≤ n := by
  induction v generalizing n with
  | null | bool b | number n | text s => exact h
  | array items ih =>
    cases n with
    | zero => simp [Value.nesting] at h
    | succ n =>
      rw [collect_array, nesting_array_le]
      rw [nesting_array_le] at h
      simpa using fun v hv ↦ ih v hv (h v hv)
  | object members ih =>
    cases n with
    | zero => simp [Value.nesting] at h
    | succ n =>
      rw [collect_object, nesting_object_le]
      rw [nesting_object_le] at h
      intro m hm
      obtain ⟨m', hm', rfl⟩ := List.mem_map.1 (Entries.mem_of_mem_ofList hm)
      exact ih m' hm' (h m' hm')

theorem numbers_collect_subset (v : Value) : v.collect.numbers ⊆ v.numbers := by
  induction v with
  | null | bool b | number n | text s => exact fun _ h ↦ h
  | array items ih =>
    intro x hx
    rw [collect_array, mem_numbers_array] at hx
    obtain ⟨w, hw, hx⟩ := hx
    obtain ⟨v, hv, rfl⟩ := List.mem_map.1 hw
    exact mem_numbers_array.2 ⟨v, hv, ih v hv hx⟩
  | object members ih =>
    intro x hx
    rw [collect_object, mem_numbers_object] at hx
    obtain ⟨w, hw, hx⟩ := hx
    obtain ⟨m, hm, rfl⟩ := List.mem_map.1 (Entries.mem_of_mem_ofList hw)
    exact mem_numbers_object.2 ⟨m, hm, ih m hm hx⟩

end SuggestionReview.Json
