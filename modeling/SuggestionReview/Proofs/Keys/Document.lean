import SuggestionReview.Proofs.Keys.Bindings
import SuggestionReview.Proofs.Suggestion.RoundTrip

namespace SuggestionReview

open Json (Value Cursor Layout)
open Json.Reader

variable {d : Nat} {c c' : Cursor}

theorem Command.get?_name (x : Command) : Entries.get? Command.names x.name = some x := by
  cases x <;> decide

namespace Binding

def Fields.Taken (f : Fields) (m : String × Value) (f' : Fields) : Prop :=
  (m.1 = "key" ∧ f.key = none ∧ ∃ a, TextStands m.2 a ∧ f' = { f with key := some a }) ∨
    (m.1 = "action" ∧ f.command = none ∧
      ∃ a, ChoiceStands Command.names m.2 a ∧ f' = { f with command := some a })

def Fields.Finished (f : Fields) (b : Binding) : Prop :=
  f.key = some b.key ∧ f.command = some b.command

def Stands : Value → Binding → Prop :=
  ObjectStands Fields.Taken Fields.Finished ⟨none, none⟩

theorem visit_accepts {f f' : Fields} {key : String} {v : Value}
    (hv : memberValue d c = .ok (v, c')) (h : Fields.Taken f (key, v) f') :
    Fields.visit d f key c = .ok (f', c') := by
  rcases h with ⟨rfl, h⟩ | ⟨rfl, h⟩
  · exact set_accepts text_accepts hv h
  · exact set_accepts variant_accepts hv h

theorem accepts : Accepts (read d) d Stands := by
  refine recordOf_accepts (objectOf_accepts (fun _ _ _ _ _ _ _ ↦ visit_accepts) ?_)
  intro f c b h
  obtain ⟨hk, hc⟩ := h
  simp [Fields.finish, required, hk, hc]

theorem stands_toValue (b : Binding) : Stands b.toValue b := by
  have hkey : Fields.Taken ⟨none, none⟩ ("key", .text b.key) ⟨some b.key, none⟩ :=
    .inl ⟨rfl, rfl, _, rfl, rfl⟩
  have hcommand : Fields.Taken ⟨some b.key, none⟩ ("action", .text b.command.name)
      ⟨some b.key, some b.command⟩ :=
    .inr ⟨rfl, rfl, _, ⟨_, .inl rfl, b.command.get?_name⟩, rfl⟩
  exact ⟨_, _, rfl, ⟨_, hkey, _, hcommand, rfl⟩, rfl, rfl⟩

theorem nesting_toValue (b : Binding) : b.toValue.nesting = 1 := rfl

theorem numbers_toValue (b : Binding) : b.toValue.numbers = [] := rfl

end Binding

namespace Bindings

def Taken (list : Option (List Binding)) (m : String × Value) (list' : Option (List Binding)) :
    Prop :=
  m.1 = "bindings" ∧ list = none ∧ ∃ a, ListStands Binding.Stands m.2 a ∧ list' = some a

def Stands : Value → List Binding → Prop :=
  ObjectStands Taken (fun list list' ↦ list = some list') none

theorem visit_accepts {list list' : Option (List Binding)} {key : String} {v : Value}
    (hv : memberValue d c = .ok (v, c')) (h : Taken list (key, v) list') :
    visit d list key c = .ok (list', c') := by
  obtain ⟨rfl, h⟩ := h
  exact set_accepts (listOf_accepts fun _ ↦ Binding.accepts) hv h

theorem accepts : Accepts (readList d) d Stands := by
  refine recordOf_accepts (objectOf_accepts (fun _ _ _ _ _ _ _ ↦ visit_accepts) ?_)
  rintro _ c list rfl
  rfl

theorem stands_toValue (b : Bindings) : Stands b.toValue b.list :=
  ⟨_, _, rfl,
    ⟨_, ⟨rfl, rfl, _, SuggestionFile.listStands_map fun x _ ↦ x.stands_toValue, rfl⟩, rfl⟩, rfl⟩

theorem nesting_toValue (b : Bindings) : b.toValue.nesting ≤ maxDepth := by
  have hlist : (Value.array (b.list.map (·.toValue))).nesting ≤ 2 := by
    refine Json.nesting_array_le.2 fun v hv ↦ ?_
    obtain ⟨x, -, rfl⟩ := List.mem_map.1 hv
    exact Nat.le_of_eq x.nesting_toValue
  have hobject : b.toValue.nesting ≤ 3 := by
    refine Json.nesting_object_le.2 fun m hm ↦ ?_
    obtain rfl := List.mem_singleton.1 hm
    exact hlist
  exact hobject.trans (by decide)

theorem numbers_toValue (b : Bindings) : b.toValue.numbers = [] := by
  refine List.eq_nil_iff_forall_not_mem.2 fun n hn ↦ ?_
  obtain ⟨m, hm, hn⟩ := Json.mem_numbers_object.1 hn
  obtain rfl := List.mem_singleton.1 hm
  obtain ⟨v, hv, hn⟩ := Json.mem_numbers_array.1 hn
  obtain ⟨x, -, rfl⟩ := List.mem_map.1 hv
  rw [x.numbers_toValue] at hn
  exact absurd hn List.not_mem_nil

theorem parse_write (b : Bindings) (layout : Layout) :
    parse (String.ofList (b.toValue.write layout)) = .ok ⟨b.list, []⟩ := by
  have hback : b.toValue.ReadsBack := fun n hn ↦ by simp [b.numbers_toValue] at hn
  have hread := accepts.run (Json.document_write b.nesting_toValue hback layout) b.stands_toValue
  rw [parse, hread]
  rfl

theorem load_write (b : Bindings) (layout : Layout) :
    load (String.ofList (b.toValue.write layout)) = .ok (ofList b.list) := by
  rw [load, b.parse_write layout]
  rfl

end Bindings

end SuggestionReview
