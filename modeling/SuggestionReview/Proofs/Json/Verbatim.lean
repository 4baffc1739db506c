import SuggestionReview.Proofs.Json.Success
import SuggestionReview.Proofs.Json.Value

namespace SuggestionReview.Json.Reader

variable {α β σ τ : Type} {c c' c₁ : Cursor} {d : Nat}

def verbatimFrom (inner : Option (Reader Value)) (start : Char) : Reader Value :=
  match start with
  | 'n' => do advance; word ['u', 'l', 'l']; pure .null
  | 't' => do advance; word ['r', 'u', 'e']; pure (.bool true)
  | 'f' => do advance; word ['a', 'l', 's', 'e']; pure (.bool false)
  | '"' => do advance; return .text (← literal)
  | '[' =>
    match inner with
    | none => refuseNext .depth
    | some item => return .array (← enclosed closeList (items item))
  | '\x7b' =>
    match inner with
    | none => refuseNext .depth
    | some item => return .object (← enclosed closeObject (members (keepMember item) [])).reverse
  | c => if c = '-' || isDigit c then do return .number (← number) else refuseNext .noValue

/-- A value of any kind with all its members. -/
def verbatim : Nat → Reader Value
  | 0 => valueStart >>= verbatimFrom none
  | depth + 1 => valueStart >>= verbatimFrom (some (verbatim depth))

/-- A loop whose state is seen through a function. -/
theorem loop_map {φ : σ → τ} {ψ : α → β} {step : σ → Reader (σ ⊕ α)}
    {step' : τ → Reader (τ ⊕ β)} (h : ∀ s, step' (φ s) = Sum.map φ ψ <$> step s) (n : Nat) (s : σ) :
    loop step' n (φ s) = ψ <$> loop step n s := by
  induction n generalizing s with
  | zero => rfl
  | succ n ih =>
    simp only [loop, h, bind_map_left, map_bind]
    congr 1
    funext next
    cases next with
    | inl s' => exact ih s'
    | inr a => rfl

theorem iterate_map {φ : σ → τ} {ψ : α → β} {step : σ → Reader (σ ⊕ α)}
    {step' : τ → Reader (τ ⊕ β)} (h : ∀ s, step' (φ s) = Sum.map φ ψ <$> step s) (s : σ) :
    iterate step' (φ s) = ψ <$> iterate step s := by
  funext c
  exact congrFun (loop_map h (c.rest.length + 1) s) c

theorem items_map (f : α → β) (item : Reader α) : items (f <$> item) = List.map f <$> items item := by
  refine iterate_map (φ := List.map f) (s := []) fun read ↦ ?_
  simp only [List.isEmpty_map, map_bind]
  congr 1
  funext more
  cases more <;> simp

theorem members_map {φ : σ → τ} {visit : σ → String → Reader σ} {visit' : τ → String → Reader τ}
    (h : ∀ s key, visit' (φ s) key = φ <$> visit s key) (s : σ) :
    members visit' (φ s) = φ <$> members visit s := by
  refine iterate_map (φ := Prod.map φ id) (s := (s, true)) fun state ↦ ?_
  simp only [Prod.map_fst, Prod.map_snd, id, map_bind]
  congr 1
  funext key
  cases key <;> simp [h]

theorem exists_unit_eq_ok {r : Reader Unit} : (∃ a, r c = .ok (a, c')) ↔ r c = .ok ((), c') :=
  ⟨fun ⟨_, h⟩ ↦ h, fun h ↦ ⟨_, h⟩⟩

theorem verbatimFrom_eq_ok {inner : Option (Reader Value)} {ch : Char} {v : Value} :
    verbatimFrom inner ch c = .ok (v, c') ↔
      match v with
      | .null => ch = 'n' ∧ word ['u', 'l', 'l'] c.advance = .ok ((), c')
      | .bool true => ch = 't' ∧ word ['r', 'u', 'e'] c.advance = .ok ((), c')
      | .bool false => ch = 'f' ∧ word ['a', 'l', 's', 'e'] c.advance = .ok ((), c')
      | .number n => (ch = '-' || isDigit ch) ∧ number c = .ok (n, c')
      | .text s => ch = '"' ∧ literal c.advance = .ok (s, c')
      | .array vs => ch = '[' ∧
        ∃ item, inner = some item ∧ enclosed closeList (items item) c = .ok (vs, c')
      | .object ms => ch = '\x7b' ∧
        ∃ item, inner = some item ∧
          enclosed closeObject (members (keepMember item) []) c = .ok (ms.reverse, c') := by
  unfold verbatimFrom
  split
  · rcases v with _ | (_ | _) | _ | _ | _ | _ <;>
      simp [map_eq_ok, isDigit, exists_unit_eq_ok]
  · rcases v with _ | (_ | _) | _ | _ | _ | _ <;>
      simp [map_eq_ok, isDigit, exists_unit_eq_ok]
  · rcases v with _ | (_ | _) | _ | _ | _ | _ <;>
      simp [map_eq_ok, isDigit, exists_unit_eq_ok]
  · rcases v with _ | (_ | _) | _ | _ | _ | _ <;> simp [map_eq_ok, isDigit]
  · cases inner <;> rcases v with _ | (_ | _) | _ | _ | _ | _ <;> simp [map_eq_ok, isDigit]
  · cases inner <;> rcases v with _ | (_ | _) | _ | _ | _ | _ <;>
      simp [map_eq_ok, isDigit, List.reverse_eq_iff]
  · next h₁ h₂ h₃ h₄ h₅ h₆ =>
    split
    · next h => rcases v with _ | (_ | _) | _ | _ | _ | _ <;> simp_all [map_eq_ok]
    · next h => rcases v with _ | (_ | _) | _ | _ | _ | _ <;> simp_all

theorem map_apply (f : α → β) (r : Reader α) :
    (f <$> r) c = (r c).map fun x ↦ (f x.1, x.2) := by
  change ((r c) >>= fun x ↦ pure (f x.1, x.2)) = _
  cases r c <;> rfl

theorem enclosed_map (close : Cursor → Except (Malformed × Place) Unit × Cursor) (f : α → β)
    (body : Reader α) : enclosed close (f <$> body) = f <$> enclosed close body := by
  funext c
  rw [map_apply, enclosed, enclosed, bind_of_ok advance_apply, bind_of_ok advance_apply, map_apply]
  cases body c.advance with
  | ok x =>
    simp only [Except.map]
    split <;> rfl
  | error e => cases e <;> rfl

def onValues (f : Value → Value) (members : List (String × Value)) : List (String × Value) :=
  members.map fun m ↦ (m.1, f m.2)

theorem keepMember_map (f : Value → Value) (item : Reader Value) (read : List (String × Value))
    (key : String) :
    keepMember (f <$> item) (onValues f read) key = onValues f <$> keepMember item read key := by
  simp [keepMember, onValues]

theorem valueWith_map (inner : Option (Reader Value)) :
    valueWith (inner.map (Value.collect <$> ·)) =
      Value.collect <$> (valueStart >>= verbatimFrom inner) := by
  unfold valueWith
  rw [map_bind]
  congr 1
  funext ch
  unfold verbatimFrom
  split
  · simp [Value.collect]
  · simp [Value.collect]
  · simp [Value.collect]
  · simp [Value.collect]
  · cases inner with
    | none => rfl
    | some item => simp [items_map, enclosed_map, collect_array]
  · cases inner with
    | none => rfl
    | some item =>
      have h := members_map (φ := onValues Value.collect) (keepMember_map Value.collect item) []
      simp only [onValues, List.map_nil] at h
      simp [h, enclosed_map, collect_object, onValues]
  · by_cases h : ch = '-' ∨ isDigit ch
    · simp [h, Value.collect]
    · simp only [Bool.or_eq_true, decide_eq_true_eq, h, if_false]
      rfl

/-- Reading a value is reading what stands there and collecting its members. -/
theorem value_eq_map_verbatim (d : Nat) : value d = Value.collect <$> verbatim d := by
  induction d with
  | zero => exact valueWith_map none
  | succ d ih =>
    rw [value, ih, verbatim]
    exact valueWith_map (some (verbatim d))

theorem value_eq_ok {v : Value} :
    value d c = .ok (v, c') ↔ ∃ u, verbatim d c = .ok (u, c') ∧ u.collect = v := by
  rw [value_eq_map_verbatim, map_eq_ok]

def deeper : Nat → Option (Reader Value)
  | 0 => none
  | depth + 1 => some (verbatim depth)

theorem verbatim_eq_ok {v : Value} :
    verbatim d c = .ok (v, c') ↔
      ∃ ch c₁, valueStart c = .ok (ch, c₁) ∧ verbatimFrom (deeper d) ch c₁ = .ok (v, c') := by
  cases d <;> exact bind_eq_ok

theorem verbatim_null : verbatim d c = .ok (.null, c') ↔ unit c = .ok ((), c') := by
  rw [verbatim_eq_ok, unit, bind_eq_ok]
  refine exists_congr fun ch ↦ exists_congr fun c₁ ↦ and_congr_right fun _ ↦ ?_
  simp only [verbatimFrom_eq_ok]
  split
  · simp
  · next h => exact iff_of_false (fun hv ↦ h hv.1) (wrongType_ne_ok _)

theorem verbatim_text {s : String} : verbatim d c = .ok (.text s, c') ↔ text c = .ok (s, c') := by
  rw [verbatim_eq_ok, text, bind_eq_ok]
  refine exists_congr fun ch ↦ exists_congr fun c₁ ↦ and_congr_right fun _ ↦ ?_
  simp only [verbatimFrom_eq_ok]
  split
  · simp
  · next h => exact iff_of_false (fun hv ↦ h hv.1) (wrongType_ne_ok _)

theorem verbatim_array {vs : List Value} :
    verbatim d c = .ok (.array vs, c') ↔ listOf verbatim d c = .ok (vs, c') := by
  rw [verbatim_eq_ok, listOf, bind_eq_ok]
  refine exists_congr fun ch ↦ exists_congr fun c₁ ↦ and_congr_right fun _ ↦ ?_
  simp only [verbatimFrom_eq_ok]
  split
  · simp [deeper]
  · simp [deeper]
  · next h₀ h =>
    refine iff_of_false (fun hv ↦ ?_) (wrongType_ne_ok _)
    cases d with
    | zero => exact h₀ hv.1 rfl
    | succ d => exact h d hv.1 rfl

theorem verbatim_object {ms : List (String × Value)} (expected : String) :
    verbatim d c = .ok (.object ms, c') ↔
      objectOf expected (fun d ↦ keepMember (verbatim d)) [] (fun read ↦ pure read.reverse) d c =
        .ok (ms, c') := by
  rw [verbatim_eq_ok, objectOf, bind_eq_ok]
  refine exists_congr fun ch ↦ exists_congr fun c₁ ↦ and_congr_right fun _ ↦ ?_
  simp only [verbatimFrom_eq_ok]
  split
  · simp [deeper]
  · simp [deeper, enclosed_eq_ok, map_eq_ok, List.reverse_eq_iff]
  · next h₀ h =>
    refine iff_of_false (fun hv ↦ ?_) (wrongType_ne_ok _)
    cases d with
    | zero => exact h₀ hv.1 rfl
    | succ d => exact h d hv.1 rfl

end SuggestionReview.Json.Reader

namespace SuggestionReview.Json

def document (s : String) : Except Failure Value :=
  (Reader.verbatim Reader.maxDepth).run s

end SuggestionReview.Json
