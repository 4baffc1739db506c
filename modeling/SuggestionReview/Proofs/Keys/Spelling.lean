import SuggestionReview.Keys.Pattern

namespace SuggestionReview

namespace Text

theorem CodeRanges.bounds_of_search {ranges : CodeRanges} {code steps lower upper i : Nat}
    (h : ranges.search code steps lower upper = some i) :
    ∃ first last, ranges[i]? = some (first, last) ∧ first ≤ code ∧ code ≤ last := by
  induction steps generalizing lower upper with
  | zero => exact absurd h nofun
  | succ steps ih =>
    simp only [search] at h
    split at h
    · exact absurd h nofun
    · next first last hmiddle =>
      split at h
      · exact absurd h nofun
      · split at h
        · exact ih h
        · next hfirst =>
          split at h
          · exact ih h
          · next hlast =>
            obtain rfl := Option.some.inj h
            exact ⟨first, last, hmiddle, Nat.not_lt.1 hfirst, Nat.not_lt.1 hlast⟩

theorem toNat_of_ofNat {n : Nat} {c : Char} (h : Char.ofNat n = c) (hc : c.toNat ≠ 0) :
    n = c.toNat := by
  subst h
  by_cases hvalid : n.isValidChar
  · rw [Char.ofNat, dif_pos hvalid]
    rfl
  · rw [Char.ofNat, dif_neg hvalid] at hc
    exact absurd rfl hc

theorem eq_plus_of_lowerChar {c : Char} (h : lowerChar c = '+') : c = '+' := by
  -- no run of the table reaches the code point of the plus sign
  have hruns : ∀ run ∈ lowercaseRuns.toList,
      ¬(run.1 + run.2.2.2 ≤ 43 ∧ 43 ≤ run.2.1 + run.2.2.2) := by decide +kernel
  unfold lowerChar at h
  split at h
  · next first last step distance hfind =>
    obtain ⟨i, hi, hrun⟩ := Option.bind_eq_some_iff.1 hfind
    obtain ⟨first', last', hrange, hfirst, hlast⟩ := CodeRanges.bounds_of_search hi
    rw [lowercaseRanges, Array.getElem?_map, hrun] at hrange
    obtain ⟨rfl, rfl⟩ := Prod.mk.inj (Option.some.inj hrange)
    split at h
    · have hmem : (first, last, step, distance) ∈ lowercaseRuns.toList :=
        Array.mem_toList_iff.2 (Array.mem_of_getElem? hrun)
      have hcode : ((c.toNat : Int) + distance).toNat = 43 := toNat_of_ofNat h (by decide)
      exact absurd ⟨by simp only; omega, by simp only; omega⟩ (hruns _ hmem)
    · exact h
  · exact h

/-- Whether the lower case of a character is one character that depends on nothing else. -/
def Simple (c : Char) : Prop := c ≠ 'Σ' ∧ c ≠ 'İ'

theorem lowerFrom_eq_map {before cs : List Char} (h : ∀ c ∈ cs, Simple c) :
    lowerFrom before cs = cs.map lowerChar := by
  induction cs generalizing before with
  | nil => rfl
  | cons c cs ih =>
    obtain ⟨⟨hsigma, hdotted⟩, hcs⟩ := List.forall_mem_cons.1 h
    simp only [lowerFrom, if_neg hsigma, if_neg hdotted, ih hcs, List.map_cons,
      List.singleton_append]

theorem exists_of_prefix {before cs xs : List Char} (hxs : ∀ x ∈ xs, x ≠ 'σ' ∧ x ≠ 'ς' ∧ x ≠ 'i')
    (h : xs <+: lowerFrom before cs) :
    ∃ start rest, cs = start ++ rest ∧ start.map lowerChar = xs ∧ ∀ c ∈ start, Simple c := by
  induction xs generalizing before cs with
  | nil => exact ⟨[], cs, rfl, rfl, nofun⟩
  | cons x xs ih =>
    obtain ⟨⟨hsigma, hfinal, hi⟩, hxs'⟩ := List.forall_mem_cons.1 hxs
    cases cs with
    | nil => exact absurd h (by simp [lowerFrom])
    | cons c cs =>
      simp only [lowerFrom] at h
      split at h
      · split at h
        · exact absurd (List.cons_prefix_cons.1 h).1 hfinal
        · exact absurd (List.cons_prefix_cons.1 h).1 hsigma
      · next hc =>
        split at h
        · exact absurd (List.cons_prefix_cons.1 h).1 hi
        · next hdotted =>
          obtain ⟨rfl, htail⟩ := List.cons_prefix_cons.1 h
          obtain ⟨start, rest, rfl, hmap, hsimple⟩ := ih hxs' htail
          exact ⟨c :: start, rest, rfl, congrArg _ hmap,
            List.forall_mem_cons.2 ⟨⟨hc, hdotted⟩, hsimple⟩⟩

end Text

namespace KeyPattern

theorem parts_ne_nil (cs : List Char) : parts cs ≠ [] := by
  unfold parts
  split
  · exact List.cons_ne_nil _ _
  · split
    · exact List.cons_ne_nil _ _
    · split <;> exact List.cons_ne_nil _ _

theorem parts_append {name : List Char} (h : '+' ∉ name) (rest : List Char) :
    parts (name ++ '+' :: rest) = name :: parts rest := by
  induction name with
  | nil => rw [List.nil_append, parts, if_pos rfl]
  | cons c name ih =>
    rw [List.mem_cons, not_or] at h
    rw [List.cons_append, parts, if_neg (Ne.symm h.1), ih h.2]

def beginsWithControl (s : String) : Bool := "ctrl+".toList.isPrefixOf (Text.lowercase s).toList

theorem exists_of_beginsWithControl {s : String} (h : beginsWithControl s = true) :
    ∃ name rest, s.toList = name ++ '+' :: rest ∧ '+' ∉ name ∧
      modifier? (String.ofList name) = some ⟨true, false, false⟩ := by
  have hprefix : ['c', 't', 'r', 'l'] ++ ['+'] <+: Text.lowerFrom [] s.toList := by
    have h := List.isPrefixOf_iff_prefix.1 h
    rw [Text.lowercase, String.toList_ofList, String.toList_ofList] at h
    exact h
  obtain ⟨start, rest, hs, hmap, hsimple⟩ := Text.exists_of_prefix (by simp) hprefix
  obtain ⟨name, plus, rfl, hname, hplus⟩ := List.map_eq_append_iff.1 hmap
  obtain ⟨p, rfl, hp⟩ := List.map_eq_singleton_iff.1 hplus
  obtain rfl := Text.eq_plus_of_lowerChar hp
  refine ⟨name, rest, by rw [hs, List.append_assoc, List.singleton_append], fun hmem ↦ ?_, ?_⟩
  · have hlower := List.mem_map_of_mem (f := Text.lowerChar) hmem
    rw [hname] at hlower
    exact absurd hlower (by decide +kernel)
  · have hsimple : ∀ c ∈ name, Text.Simple c := fun c hc ↦ hsimple c (List.mem_append_left _ hc)
    rw [modifier?, Text.lowercase, String.toList_ofList, Text.lowerFrom_eq_map hsimple, hname]
    rfl

theorem parse_eq_ok {s : String} {p : KeyPattern} (h : parse s = .ok p) :
    ∃ held key, heldBy (split s).1 = .ok held ∧ key? (split s).2 = some key ∧
      p = { key with modifiers := held.union key.modifiers } := by
  unfold parse at h
  generalize split s = spelled at h ⊢
  obtain ⟨names, keyName⟩ := spelled
  simp only at h ⊢
  cases hheld : heldBy names with
  | error fault =>
    rw [hheld] at h
    exact absurd h nofun
  | ok held =>
    rw [hheld] at h
    cases hkey : key? keyName with
    | none =>
      rw [hkey] at h
      exact absurd h nofun
    | some key =>
      rw [hkey] at h
      exact ⟨held, key, rfl, rfl, (Except.ok.inj h).symm⟩

theorem further_of_key? {s : String} {p : KeyPattern} (h : key? s = some p) :
    p.further = false := by
  unfold key? at h
  split at h
  · exact Option.some.inj h ▸ rfl
  · split at h
    · exact Option.some.inj h ▸ rfl
    · exact absurd h.symm (Option.some_ne_none p)

theorem ofEvent_press {s : String} {p : KeyPattern} (h : parse s = .ok p) :
    ofEvent (.press p.code p.modifiers) = p := by
  obtain ⟨held, key, -, hkey, rfl⟩ := parse_eq_ok h
  rw [ofEvent, KeyEvent.press, further_of_key? hkey]

theorem control_of_heldBy {name : String} {names : List String} {held : Modifiers}
    (hname : modifier? name = some ⟨true, false, false⟩) (h : heldBy (name :: names) = .ok held) :
    held.control = true := by
  rw [heldBy, hname] at h
  cases hheld : heldBy names with
  | error fault =>
    rw [hheld] at h
    exact absurd h nofun
  | ok rest =>
    rw [hheld] at h
    obtain rfl := Except.ok.inj h
    rfl

theorem key?_of_beginsWithControl {s : String} (h : beginsWithControl s = true) :
    key? s = none := by
  have hnamed : namedKey? (Text.lowercase s) = none := by
    unfold beginsWithControl at h
    generalize Text.lowercase s = name at h
    unfold namedKey?
    split <;> first | rfl | exact absurd h (by decide)
  obtain ⟨name, rest, hs, -, hname⟩ := exists_of_beginsWithControl h
  rw [key?, hnamed, hs]
  cases name with
  | nil => exact absurd hname (by decide +kernel)
  | cons x name => cases name <;> rfl

/-- A spelling that begins with `ctrl+` spells a control key. -/
theorem control_of_parse {s : String} {p : KeyPattern} (hp : parse s = .ok p)
    (h : beginsWithControl s = true) : p.modifiers.control = true := by
  obtain ⟨held, key, hheld, hkey, rfl⟩ := parse_eq_ok hp
  obtain ⟨name, rest, hs, hplus, hname⟩ := exists_of_beginsWithControl h
  unfold split at hheld hkey
  rw [hs, parts_append hplus, List.reverse_cons] at hheld hkey
  cases hparts : (parts rest).reverse with
  | nil => exact absurd (List.reverse_eq_nil_iff.1 hparts) (parts_ne_nil rest)
  | cons part before =>
    rw [hparts] at hheld hkey
    cases part with
    -- where nothing follows the last plus sign, the whole text would be the key
    | nil => exact absurd (hkey.symm.trans (key?_of_beginsWithControl h)) nofun
    | cons c part =>
      simp only [List.cons_append, List.reverse_append, List.reverse_singleton, List.map_cons]
        at hheld
      simp [Modifiers.union, control_of_heldBy hname hheld]

end KeyPattern

end SuggestionReview
