import Mathlib.Data.List.Basic
import SuggestionReview.Proofs.Keys.Spelling

namespace SuggestionReview

namespace Text

theorem lowerChar_of_ascii {c : Char} (hc : c.toNat < 128) : lowerChar c = c.toLower := by
  have hall : ∀ n < 128, lowerChar (Char.ofNat n) = (Char.ofNat n).toLower := by decide +kernel
  rw [← Char.ofNat_toNat c]
  exact hall _ hc

theorem lowercase_of_ascii {s : String} (hs : s.toList.all (·.toNat < 128)) :
    lowercase s = String.ofList (s.toList.map Char.toLower) := by
  have hascii : ∀ c ∈ s.toList, c.toNat < 128 := by simpa using hs
  have hsimple : ∀ c ∈ s.toList, Simple c := by
    intro c hc
    constructor
    · rintro rfl
      exact absurd (hascii _ hc) (by decide)
    · rintro rfl
      exact absurd (hascii _ hc) (by decide)
  rw [lowercase, lowerFrom_eq_map hsimple]
  exact congrArg String.ofList (List.map_congr_left fun c hc ↦ lowerChar_of_ascii (hascii c hc))

theorem map_lowercase_of_ascii {names : List String}
    (hnames : names.all (·.toList.all (·.toNat < 128))) :
    names.map lowercase = names.map fun name ↦ String.ofList (name.toList.map Char.toLower) :=
  List.map_congr_left fun name hname ↦ lowercase_of_ascii (List.all_eq_true.1 hnames name hname)

theorem plus_mem_lowerFrom {cs : List Char} (h : '+' ∈ cs) (before : List Char) :
    '+' ∈ lowerFrom before cs := by
  induction cs generalizing before with
  | nil => exact absurd h List.not_mem_nil
  | cons c cs ih =>
    rw [lowerFrom, List.mem_append]
    rcases List.mem_cons.1 h with rfl | h
    · have hplus : lowerChar '+' = '+' := lowerChar_of_ascii (by decide)
      exact .inl (by simp [hplus])
    · exact .inr (ih h (c :: before))

theorem plus_mem_lowercase {s : String} (h : '+' ∈ s.toList) : '+' ∈ (lowercase s).toList := by
  rw [lowercase, String.toList_ofList]
  exact plus_mem_lowerFrom h []

theorem isUppercase_plus : isUppercase '+' = false := by decide +kernel

/-- One character is one character in lower case as well, but for the dotted capital i. -/
theorem lowercase_singleton (c : Char) :
    (∃ c', lowercase (String.singleton c) = String.singleton c') ∨
      lowercase (String.singleton c) = String.ofList ['i', Char.ofNat 0x307] := by
  simp only [lowercase, String.toList_singleton, lowerFrom, List.append_nil]
  split
  · exact .inl ⟨'σ', rfl⟩
  · split
    · exact .inr rfl
    · exact .inl ⟨lowerChar c, String.singleton_eq_ofList.symm⟩

end Text

namespace KeyPattern

variable {s key name : String} {names : List String} {p : KeyPattern}

def keyNames : List (String × KeyCode) :=
  [("up", .up), ("down", .down), ("left", .left), ("right", .right), ("home", .home),
   ("end", .last), ("tab", .tab), ("backtab", .backTab), ("enter", .enter), ("return", .enter),
   ("esc", .escape), ("escape", .escape), ("backspace", .backspace), ("delete", .delete),
   ("del", .delete), ("space", .char ' ')]

def NamesModifier (name : String) : Prop := Text.lowercase name ∈ ["ctrl", "alt", "shift"]

def named (names : List String) : Modifiers where
  control := names.any (Text.lowercase · = "ctrl")
  alt := names.any (Text.lowercase · = "alt")
  shift := names.any (Text.lowercase · = "shift")

/-- A key is spelled by its name in any case, or as a single character, which is shifted if it is in
upper case. -/
inductive SpellsKey : String → KeyPattern → Prop
  | name {s : String} {code : KeyCode} (h : (Text.lowercase s, code) ∈ keyNames) :
    SpellsKey s { code, modifiers := .none }
  | char (c : Char) :
      SpellsKey (String.singleton c) ⟨.char c, ⟨false, false, Text.isUppercase c⟩, false⟩

def joined (names : List String) (key : String) : String := "+".intercalate (names ++ [key])

inductive Spells : String → KeyPattern → Prop
  | plus : Spells "+" ⟨.char '+', .none, false⟩
  | keyed {names : List String} {key : String} {p : KeyPattern}
    (hnames : ∀ name ∈ names, NamesModifier name) (hkey : key ≠ "") (hplus : '+' ∉ key.toList)
    (hp : SpellsKey key p) :
      Spells (joined names key) { p with modifiers := (named names).union p.modifiers }

theorem NamesModifier.plus_not_mem (h : NamesModifier name) : '+' ∉ name.toList := by
  intro hplus
  have hnone : ∀ x ∈ ["ctrl", "alt", "shift"], '+' ∉ x.toList := by decide
  exact hnone _ h (Text.plus_mem_lowercase hplus)

theorem namesModifier_of_map (h : names.map Text.lowercase ⊆ ["ctrl", "alt", "shift"]) :
    ∀ name ∈ names, NamesModifier name :=
  fun _ hname ↦ h (List.mem_map_of_mem hname)

theorem modifier?_eq_some_iff {m : Modifiers} :
    modifier? name = some m ↔ NamesModifier name ∧ m = named [name] := by
  simp only [modifier?, NamesModifier, named, List.any_cons, List.any_nil, Bool.or_false]
  generalize Text.lowercase name = lower
  split
  · simp [eq_comm]
  · simp [eq_comm]
  · simp [eq_comm]
  · next hctrl halt hshift =>
    constructor
    · intro h
      cases h
    · rintro ⟨h, -⟩
      simp only [List.mem_cons, List.not_mem_nil, or_false] at h
      exact absurd h (not_or.2 ⟨hctrl, not_or.2 ⟨halt, hshift⟩⟩)

theorem named_cons (name : String) (names : List String) :
    named (name :: names) = (named [name]).union (named names) := by
  simp [named, Modifiers.union]

theorem named_congr {names' : List String}
    (h : ∀ lower, lower ∈ names.map Text.lowercase ↔ lower ∈ names'.map Text.lowercase) :
    named names = named names' := by
  have hany : ∀ lower, names.any (Text.lowercase · = lower) = names'.any (Text.lowercase · = lower) := by
    intro lower
    rw [Bool.eq_iff_iff]
    simpa using h lower
  simp only [named, hany]

theorem heldBy_eq_ok_iff {held : Modifiers} :
    heldBy names = .ok held ↔ (∀ name ∈ names, NamesModifier name) ∧ held = named names := by
  induction names generalizing held with
  | nil =>
    simp only [heldBy, Except.ok.injEq, List.not_mem_nil, false_imp_iff, implies_true, true_and]
    exact eq_comm
  | cons name names ih =>
    rw [heldBy, List.forall_mem_cons, named_cons]
    cases hname : modifier? name with
    | none =>
      constructor
      · intro h
        cases h
      · intro h
        cases hname.symm.trans (modifier?_eq_some_iff.2 ⟨h.1.1, rfl⟩)
    | some m =>
      obtain ⟨hmodifier, rfl⟩ := modifier?_eq_some_iff.1 hname
      cases hheld : heldBy names with
      | error fault =>
        constructor
        · intro h
          cases h
        · intro h
          cases hheld.symm.trans (ih.2 ⟨h.1.2, rfl⟩)
      | ok rest =>
        obtain ⟨hnames, rfl⟩ := ih.1 hheld
        simp only [Except.map, Except.ok.injEq]
        exact ⟨fun h ↦ ⟨⟨hmodifier, hnames⟩, h.symm⟩, fun h ↦ h.2.symm⟩

theorem namedKey?_eq_some_iff {code : KeyCode} :
    namedKey? s = some code ↔ (s, code) ∈ keyNames := by
  constructor
  · intro h
    unfold namedKey? at h
    split at h <;> simp_all [keyNames]
  · intro h
    have hall : ∀ x ∈ keyNames, namedKey? x.1 = some x.2 := by decide
    exact hall _ h

theorem key?_singleton (c : Char) :
    key? (String.singleton c) = some ⟨.char c, ⟨false, false, Text.isUppercase c⟩, false⟩ := by
  have hnone : namedKey? (Text.lowercase (String.singleton c)) = none := by
    rcases Text.lowercase_singleton c with ⟨c', hlower⟩ | hlower
    · cases hnamed : namedKey? (Text.lowercase (String.singleton c)) with
      | none => rfl
      | some code =>
        have hlong : ∀ x ∈ keyNames, x.1.toList.length ≠ 1 := by decide
        have hlength := hlong _ (namedKey?_eq_some_iff.1 hnamed)
        rw [hlower, String.toList_singleton] at hlength
        exact absurd rfl hlength
    · rw [hlower]
      decide
  rw [key?, hnone, String.toList_singleton]

theorem key?_eq_some_iff : key? s = some p ↔ SpellsKey s p := by
  constructor
  · intro h
    unfold key? at h
    split at h
    · next code hnamed =>
      obtain rfl := Option.some.inj h
      exact .name (namedKey?_eq_some_iff.1 hnamed)
    · split at h
      · next c hs =>
        obtain rfl := Option.some.inj h
        obtain rfl : s = String.singleton c := by
          rw [← String.toList_inj, hs, String.toList_singleton]
        exact .char c
      · cases h
  · rintro (h | c)
    · rw [key?, namedKey?_eq_some_iff.2 h]
    · exact key?_singleton c

theorem SpellsKey.eq_plus (h : SpellsKey s p) (hplus : '+' ∈ s.toList) :
    s = "+" ∧ p = ⟨.char '+', .none, false⟩ := by
  cases h with
  | @name _ code hname =>
    have hnone : ∀ x ∈ keyNames, '+' ∉ x.1.toList := by decide
    have hlower : '+' ∉ (Text.lowercase s).toList := hnone (Text.lowercase s, code) hname
    exact absurd (Text.plus_mem_lowercase hplus) hlower
  | char c =>
    rw [String.toList_singleton, List.mem_singleton] at hplus
    obtain rfl := hplus
    rw [Text.isUppercase_plus]
    exact ⟨rfl, rfl⟩

theorem SpellsKey.ne_empty (h : SpellsKey s p) : s ≠ "" := by
  rintro rfl
  have hnone : key? "" = none := by decide
  cases hnone.symm.trans (key?_eq_some_iff.2 h)

theorem parts_eq_splitOn (cs : List Char) : parts cs = cs.splitOn '+' := by
  induction cs with
  | nil => rfl
  | cons c cs ih =>
    rw [parts, ih, List.splitOn_cons_eq_if_modifyHead]
    cases hsplit : cs.splitOn '+' with
    | nil => exact absurd hsplit (List.splitOn_ne_nil _ _)
    | cons part more => simp

theorem plus_not_mem_of_mem_parts {cs part : List Char} (h : part ∈ parts cs) : '+' ∉ part := by
  induction cs generalizing part with
  | nil =>
    rw [List.mem_singleton.1 h]
    exact List.not_mem_nil
  | cons c cs ih =>
    rw [parts] at h
    split at h
    · rcases List.mem_cons.1 h with rfl | h
      · exact List.not_mem_nil
      · exact ih h
    · next hc =>
      cases hparts : parts cs with
      | nil => exact absurd hparts (parts_ne_nil cs)
      | cons first more =>
        rw [hparts] at h ih
        rcases List.mem_cons.1 h with rfl | h
        · rw [List.mem_cons, not_or]
          exact ⟨Ne.symm hc, ih List.mem_cons_self⟩
        · exact ih (List.mem_cons_of_mem _ h)

theorem parts_joined (hnames : ∀ name ∈ names, '+' ∉ name.toList) (hplus : '+' ∉ key.toList) :
    parts (joined names key).toList = names.map String.toList ++ [key.toList] := by
  have hlist : (joined names key).toList =
      ['+'].intercalate (names.map String.toList ++ [key.toList]) := by
    rw [joined, String.toList_intercalate, List.map_append, List.map_singleton]
    rfl
  rw [parts_eq_splitOn, hlist]
  refine List.splitOn_intercalate _ ?_
    (List.append_ne_nil_of_right_ne_nil _ (List.cons_ne_nil _ _))
  rw [List.forall_mem_append, List.forall_mem_map, List.forall_mem_singleton]
  exact ⟨hnames, hplus⟩

theorem exists_joined (s : String) : ∃ names key, s = joined names key ∧
    (∀ name ∈ names, '+' ∉ name.toList) ∧ '+' ∉ key.toList := by
  have hparts : ['+'].intercalate (parts s.toList) = s.toList := by
    rw [parts_eq_splitOn, List.intercalate_splitOn]
  have hplus : ∀ part ∈ parts s.toList, '+' ∉ part := fun part ↦ plus_not_mem_of_mem_parts
  rcases List.eq_nil_or_concat' (parts s.toList) with hnil | ⟨before, last, hconcat⟩
  · exact absurd hnil (parts_ne_nil _)
  · rw [hconcat] at hparts hplus
    rw [List.forall_mem_append, List.forall_mem_singleton] at hplus
    refine ⟨before.map String.ofList, String.ofList last, ?_, ?_, ?_⟩
    · rw [← String.toList_inj, joined, String.toList_intercalate, ← hparts]
      simp [Function.comp_def]
    · rw [List.forall_mem_map]
      intro part hpart
      rw [String.toList_ofList]
      exact hplus.1 part hpart
    · rw [String.toList_ofList]
      exact hplus.2

theorem split_joined (hnames : ∀ name ∈ names, '+' ∉ name.toList) (hkey : key ≠ "")
    (hplus : '+' ∉ key.toList) : split (joined names key) = (names, key) := by
  obtain ⟨c, cs, hlist⟩ := List.exists_cons_of_ne_nil (mt String.toList_eq_nil_iff.1 hkey)
  rw [split, parts_joined hnames hplus, List.reverse_append, List.reverse_singleton, hlist]
  dsimp only [List.singleton_append]
  rw [← hlist]
  simp [Function.comp_def]

theorem parts_open (hnames : ∀ name ∈ names, '+' ∉ name.toList) :
    parts (joined names "").toList = names.map String.toList ++ [[]] :=
  parts_joined hnames List.not_mem_nil

/-- Where no key follows the last plus sign, the whole text is the key. -/
theorem split_open (hnames : ∀ name ∈ names, '+' ∉ name.toList) :
    split (joined names "") = ([], joined names "") := by
  rw [split, parts_open hnames, List.reverse_append]
  rfl

theorem plus_mem_open (hnames : ∀ name ∈ names, '+' ∉ name.toList) (hs : joined names "" ≠ "") :
    '+' ∈ (joined names "").toList := by
  by_contra hplus
  have hparts := parts_open hnames
  rw [parts_eq_splitOn, List.splitOn_eq_singleton hplus] at hparts
  have hlast := congrArg List.getLast? hparts
  rw [List.getLast?_singleton, List.getLast?_concat] at hlast
  exact hs (String.toList_eq_nil_iff.1 (Option.some.inj hlast))

theorem parse_of_split {held : Modifiers} (hsplit : split s = (names, key))
    (hheld : heldBy names = .ok held) :
    parse s =
      match key? key with
      | some p => .ok { p with modifiers := held.union p.modifiers }
      | none => .error (.unknownKey key) := by
  rw [parse, hsplit]
  dsimp only
  rw [hheld]
  rfl

theorem parse_joined (hnames : ∀ name ∈ names, NamesModifier name) (hkey : key ≠ "")
    (hplus : '+' ∉ key.toList) :
    parse (joined names key) =
      match key? key with
      | some p => .ok { p with modifiers := (named names).union p.modifiers }
      | none => .error (.unknownKey key) :=
  parse_of_split (split_joined (fun name hname ↦ (hnames name hname).plus_not_mem) hkey hplus)
    (heldBy_eq_ok_iff.2 ⟨hnames, rfl⟩)

theorem parse_plus : parse "+" = .ok ⟨.char '+', .none, false⟩ := by
  have hone : "+" = String.singleton '+' := by decide
  have hsplit : split "+" = ([], "+") := by decide
  have hkey : key? "+" = some ⟨.char '+', .none, false⟩ := by
    rw [hone, key?_singleton, Text.isUppercase_plus]
    rfl
  rw [parse_of_split hsplit rfl, hkey]
  rfl

theorem parse_eq_ok_iff : parse s = .ok p ↔ Spells s p := by
  constructor
  · intro h
    obtain ⟨held, q, hheld, hq, rfl⟩ := parse_eq_ok h
    obtain ⟨names, key, rfl, hnames, hplus⟩ := exists_joined s
    by_cases hkey : key = ""
    · subst hkey
      simp only [split_open hnames] at hheld hq
      have hspells := key?_eq_some_iff.1 hq
      obtain ⟨hs, rfl⟩ := hspells.eq_plus (plus_mem_open hnames hspells.ne_empty)
      obtain rfl := (heldBy_eq_ok_iff.1 hheld).2
      rw [hs]
      exact .plus
    · simp only [split_joined hnames hkey hplus] at hheld hq
      obtain ⟨hmodifiers, rfl⟩ := heldBy_eq_ok_iff.1 hheld
      exact .keyed hmodifiers hkey hplus (key?_eq_some_iff.1 hq)
  · rintro (_ | ⟨hnames, hkey, hplus, hp⟩)
    · exact parse_plus
    · rw [parse_joined hnames hkey hplus, key?_eq_some_iff.2 hp]

/-- A text is read as a key press exactly where the grammar spells that press. Which names stand
before a key, in which order, how often and in which case, changes nothing as long as the same
modifiers are named. -/
theorem reads_grammar :
    (∀ s p, parse s = .ok p ↔ Spells s p) ∧
    ∀ names names' key, (∀ name ∈ names, NamesModifier name) → key ≠ "" → '+' ∉ key.toList →
      (∀ lower, lower ∈ names.map Text.lowercase ↔ lower ∈ names'.map Text.lowercase) →
      parse (joined names key) = parse (joined names' key) := by
  refine ⟨fun s p ↦ parse_eq_ok_iff, fun names names' key hnames hkey hplus hsame ↦ ?_⟩
  have hnames' : ∀ name ∈ names', NamesModifier name := by
    intro name' hname'
    obtain ⟨name, hname, hlower⟩ := List.mem_map.1 ((hsame _).2 (List.mem_map_of_mem hname'))
    rw [NamesModifier, ← hlower]
    exact hnames name hname
  rw [parse_joined hnames hkey hplus, parse_joined hnames' hkey hplus, named_congr hsame]

/-- A modifier that is named twice, a key in upper case, and a name that is spelled with the sign for
kelvin. -/
theorem reads_grammar_repeated :
    parse (joined ["Ctrl", "SHIFT", "ctrl"] "É") = parse (joined ["shift", "CTRL"] "É") ∧
      Spells "Alt+Bac\u212Aspace" ⟨.backspace, ⟨false, true, false⟩, false⟩ := by
  have hfirst : ["Ctrl", "SHIFT", "ctrl"].map Text.lowercase = ["ctrl", "shift", "ctrl"] :=
    (Text.map_lowercase_of_ascii (by decide)).trans (by decide)
  have hsecond : ["shift", "CTRL"].map Text.lowercase = ["shift", "ctrl"] :=
    (Text.map_lowercase_of_ascii (by decide)).trans (by decide)
  have hnames : ∀ name ∈ ["Ctrl", "SHIFT", "ctrl"], NamesModifier name := by
    refine namesModifier_of_map ?_
    rw [hfirst]
    decide
  obtain ⟨hreads, hsame⟩ := reads_grammar
  constructor
  · refine hsame _ _ _ hnames (by decide) (by decide) fun lower ↦ ?_
    rw [hfirst, hsecond]
    simp only [List.mem_cons, List.not_mem_nil, or_false]
    exact ⟨fun h ↦ h.elim .inr (·.elim .inl .inr), fun h ↦ h.elim (.inr ∘ .inl) .inl⟩
  · exact (hreads _ _).1 (by decide +kernel)

end KeyPattern

end SuggestionReview
