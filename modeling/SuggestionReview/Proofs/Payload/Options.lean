import Mathlib.Data.Finset.Card
import SuggestionReview.Proofs.Payload.Decode

namespace SuggestionReview

open Json (Value Cursor)
open Json.Reader (verbatim)

namespace Entries

variable {α : Type}

theorem getElem?_insert {e : Entries α} (h : e.keys.Nodup) {i : Nat} {j : String} {w : α}
    (hi : e[i]? = some (j, w)) (k : String) (v : α) :
    (e.insert k v)[i]? = some (j, if j = k then v else w) := by
  induction e generalizing i with
  | nil => exact absurd hi nofun
  | cons entry rest ih =>
    obtain ⟨first, value⟩ := entry
    obtain ⟨hfirst, hrest⟩ := List.nodup_cons.1 h
    by_cases hk : first = k
    · subst hk
      rw [insert, if_pos rfl]
      cases i with
      | zero =>
        obtain ⟨rfl, rfl⟩ := Prod.mk.inj (Option.some.inj hi)
        rw [if_pos rfl]
        rfl
      | succ i =>
        rw [List.getElem?_cons_succ] at hi ⊢
        have hj : j ≠ first := by
          rintro rfl
          exact hfirst (List.mem_map.2 ⟨(j, w), List.mem_of_getElem? hi, rfl⟩)
        rw [hi, if_neg hj]
    · rw [insert, if_neg hk]
      cases i with
      | zero =>
        obtain ⟨rfl, rfl⟩ := Prod.mk.inj (Option.some.inj hi)
        rw [if_neg hk]
        rfl
      | succ i => exact ih hrest hi

end Entries

namespace Options

variable {o : Options} {given : List (String × OptionValue)} {d : Nat} {c c' : Cursor}

def insertAll (o : Options) (pairs : List (String × OptionValue)) : Options :=
  pairs.foldl (fun o pair ↦ o.insert pair.1 pair.2) o

theorem entries_insertAll (o : Options) (pairs : List (String × OptionValue)) :
    (o.insertAll pairs).entries = o.entries.insertAll pairs := by
  induction pairs generalizing o with
  | nil => rfl
  | cons pair pairs ih => exact ih (o.insert pair.1 pair.2)

theorem entries_ofList (pairs : List (String × OptionValue)) :
    (ofList pairs).entries = .ofList pairs :=
  entries_insertAll empty pairs

theorem insertAll_ofList (pairs more : List (String × OptionValue)) :
    (ofList pairs).insertAll more = ofList (pairs ++ more) :=
  List.foldl_append.symm

theorem read_eq_ok_iff : read d c = .ok (o, c') ↔ ∃ members pairs,
    verbatim d c = .ok (.object members, c') ∧ List.Forall₂ ScalarStands members pairs ∧
      o = ofList pairs := by
  have hcollected : ∀ pairs, ofList pairs = ⟨.ofList pairs⟩ := fun pairs ↦
    congrArg Options.mk (entries_ofList pairs)
  constructor
  · intro h
    obtain ⟨v, hv, members, pairs, rfl, hpairs, rfl⟩ := options_reports _ _ _ h
    exact ⟨members, pairs, hv, hpairs, (hcollected pairs).symm⟩
  · rintro ⟨members, pairs, hv, hpairs, rfl⟩
    exact options_accepts _ _ _ _ hv ⟨members, pairs, rfl, hpairs, hcollected pairs⟩

/-- Where options come from, with the pairs that were given: none, some that are collected, or the
members of an object that is read. -/
inductive MadeOf : Options → List (String × OptionValue) → Prop
  | empty : MadeOf .empty []
  | collected (pairs : List (String × OptionValue)) : MadeOf (.ofList pairs) pairs
  | read {d : Nat} {c c' : Cursor} {o : Options} {members : List (String × Value)}
      {pairs : List (String × OptionValue)} (h : Options.read d c = .ok (o, c'))
      (hmembers : verbatim d c = .ok (.object members, c'))
      (hpairs : List.Forall₂ ScalarStands members pairs) : MadeOf o pairs

theorem eq_ofList_of_madeOf (h : MadeOf o given) : o = ofList given := by
  cases h with
  | empty => rfl
  | collected => rfl
  | read h hmembers hpairs =>
    have hread := read_eq_ok_iff.2 ⟨_, _, hmembers, hpairs, rfl⟩
    exact (Prod.mk.inj (Except.ok.inj (h.symm.trans hread))).1

/-- Whether options are what some pairs give one after the other: every name once, in the order in
which the names first come, with its last value. -/
structure Ordered (o : Options) (given : List (String × OptionValue)) : Prop where
  nodup : o.entries.keys.Nodup
  keys : o.entries.keys = (given.map (·.1)).eraseDups
  get? : ∀ name, o.get? name = Entries.last? given name
  size : o.size = (given.map (·.1)).toFinset.card

theorem ordered_ofList (given : List (String × OptionValue)) : Ordered (ofList given) given := by
  have hentries := entries_ofList given
  have hnodup := Entries.nodup_keys_ofList given
  have hkeys := Entries.keys_ofList given
  refine ⟨hentries ▸ hnodup, hentries ▸ hkeys, fun name ↦ ?_, ?_⟩
  · rw [Options.get?, hentries, Entries.get?_ofList]
  · have hnames : (given.map (·.1)).toFinset = (Entries.ofList given).keys.toFinset := by
      ext name
      rw [List.mem_toFinset, List.mem_toFinset, hkeys, List.mem_eraseDups]
    rw [hnames, List.toFinset_card_of_nodup hnodup, Options.size, hentries, Entries.keys,
      List.length_map]

/-- Setting an option changes no other one, and the place of none. -/
structure Undisturbed (o o' : Options) (name : String) (value : OptionValue) : Prop where
  get? : ∀ other, other ≠ name → o'.get? other = o.get? other
  place : ∀ (i : Nat) other v, o.entries[i]? = some (other, v) →
    o'.entries[i]? = some (other, if other = name then value else v)

theorem Ordered.undisturbed (h : Ordered o given) (name : String) (value : OptionValue) :
    Undisturbed o (o.insert name value) name value := by
  refine ⟨fun other hother ↦ ?_, fun i other v hi ↦ Entries.getElem?_insert h.nodup hi name value⟩
  exact (Entries.get?_insert o.entries name other value).trans (if_neg hother.symm)

/-- Options are a map in the order of insertion. Reading an object gives what collecting its members
gives, one by one and with their repetitions. However options were made and whatever is set after that,
their names are distinct and come in the order in which they were first given, every name has the
value that it was given last, and they are as many as the names that were given; and setting one more
changes no other value and no place. -/
theorem ordered_insertAll :
    (∀ d c o c', read d c = .ok (o, c') ↔ ∃ members pairs,
      verbatim d c = .ok (.object members, c') ∧ List.Forall₂ ScalarStands members pairs ∧
        o = ofList pairs) ∧
    ∀ o given, MadeOf o given → ∀ more,
      Ordered (o.insertAll more) (given ++ more) ∧
      ∀ name value,
        Undisturbed (o.insertAll more) ((o.insertAll more).insert name value) name value := by
  refine ⟨fun d c o c' ↦ read_eq_ok_iff, fun o given hmade more ↦ ?_⟩
  obtain rfl := eq_ofList_of_madeOf hmade
  have hordered := ordered_ofList (given ++ more)
  rw [insertAll_ofList]
  exact ⟨hordered, hordered.undisturbed⟩

theorem ordered_insertAll_repeated :
    (∃ o given, (read Json.Reader.maxDepth).run "\x7b\"a\":1,\"b\":true,\"a\":null\x7d" = .ok o ∧
      o.entries.keys = ["a", "b"] ∧
      Ordered (o.insertAll [("b", .int 5)]) (given ++ [("b", .int 5)])) ∧
    ((ofList [("a", .int 1), ("b", .bool true), ("a", .null)]).insertAll
      [("c", .int 2), ("b", .text "x")]).entries.keys = ["a", "b", "c"] := by
  obtain ⟨hread, hordered⟩ := ordered_insertAll
  constructor
  · obtain ⟨o, hrun, hkeys⟩ := Json.Reader.exists_ok
      (r := (read Json.Reader.maxDepth).run "\x7b\"a\":1,\"b\":true,\"a\":null\x7d")
      (P := fun o ↦ o.entries.keys = ["a", "b"]) (by decide +kernel)
    obtain ⟨c, hc, -⟩ := Json.Reader.run_eq_ok.1 hrun
    obtain ⟨members, given, hmembers, hpairs, -⟩ := (hread _ _ _ _).1 hc
    exact ⟨o, given, hrun, hkeys, (hordered o given (.read hc hmembers hpairs) _).1⟩
  · exact (hordered _ _ (.collected _) _).1.keys.trans (by decide)

end Options

end SuggestionReview
