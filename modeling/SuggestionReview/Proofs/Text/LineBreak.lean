import Mathlib.Data.List.Chain
import SuggestionReview.Proofs.Text.Plain

namespace SuggestionReview.Text

namespace LineBreakUnit

structure IsWord (u : LineBreakUnit) : Prop where
  cls : u.cls = .letter ∨ u.cls = .numeric ∨ u.cls = .infixSeparator
  joins : u.joins = false

structure BeginsWord (u : LineBreakUnit) : Prop where
  cls : u.cls = .letter ∨ u.cls = .numeric
  joins : u.joins = false

def blank : LineBreakUnit := .of .space ' '

theorem IsWord.isMark {u : LineBreakUnit} (h : u.IsWord) : u.isMark = false := by
  rcases h.cls with hcls | hcls | hcls <;> simp [LineBreakUnit.isMark, hcls]

theorem BeginsWord.isWord {u : LineBreakUnit} (h : u.BeginsWord) : u.IsWord :=
  ⟨h.cls.imp_right .inl, h.joins⟩

end LineBreakUnit

open LineBreakUnit (IsWord BeginsWord)

namespace LineBreakState

variable {s : LineBreakState} {u : LineBreakUnit}

structure InWord (s : LineBreakState) (a : LineBreakUnit) : Prop where
  last : s.last = some a
  isWord : a.IsWord
  near : s.spaced = false
  apart : s.joined = false
  digits : a.cls = .numeric → s.number = .digits

structure BehindWord (s : LineBreakState) (a : LineBreakUnit) : Prop where
  last : s.last = some a
  isWord : a.IsWord
  spaced : s.spaced = true
  apart : s.joined = false

theorem inWord_after (hu : u.IsWord) (s : LineBreakState) : (s.after u).InWord u := by
  have hmark := hu.isMark
  have hspace : u.cls ≠ .space := by
    rcases hu.cls with hcls | hcls | hcls <;> simp [hcls]
  rw [after, if_neg hspace, hmark, if_neg Bool.false_ne_true]
  exact ⟨rfl, hu, rfl, hu.joins, fun hnumeric ↦ if_pos hnumeric⟩

theorem InWord.behindWord {a : LineBreakUnit} (h : s.InWord a) : (s.after .blank).BehindWord a := by
  have hspace : LineBreakUnit.blank.cls = .space := rfl
  rw [after, if_pos hspace]
  exact ⟨h.last, h.isWord, rfl, rfl⟩

/-- No line ends inside a word. -/
theorem InWord.mayBreak {a : LineBreakUnit} (h : s.InWord a) (hu : u.IsWord)
    (next : List LineBreakUnit) : s.mayBreak u next = false := by
  obtain ⟨hlast, ⟨ha, -⟩, hnear, hjoined, hdigits⟩ := h
  obtain ⟨hcls, -⟩ := hu
  simp only [LineBreakState.mayBreak, hlast, hnear]
  rcases ha with ha | ha | ha <;> rcases hcls with hcls | hcls | hcls <;>
    simp [ha, hcls, hdigits, LineBreakUnit.endsLine, LineBreakUnit.isClose, LineBreakUnit.isLetter,
      staysTogether, inNumber]

theorem InWord.mayBreak_blank {a : LineBreakUnit} (h : s.InWord a) (next : List LineBreakUnit) :
    s.mayBreak .blank next = false := by
  obtain ⟨hlast, ⟨ha, -⟩, hnear, hjoined, hdigits⟩ := h
  have hspace : LineBreakUnit.blank.cls = .space := rfl
  simp only [LineBreakState.mayBreak, hlast, hnear]
  rcases ha with ha | ha | ha <;> simp [ha, hspace, LineBreakUnit.endsLine]

theorem BehindWord.mayBreak {a : LineBreakUnit} (h : s.BehindWord a) (hu : u.BeginsWord)
    (next : List LineBreakUnit) : s.mayBreak u next = true := by
  have hmark := hu.isWord.isMark
  obtain ⟨hlast, ⟨ha, -⟩, hspaced, hjoined⟩ := h
  obtain ⟨hcls, -⟩ := hu
  simp only [LineBreakState.mayBreak, hlast, hspaced, hmark, hjoined]
  rcases ha with ha | ha | ha <;> rcases hcls with hcls | hcls <;>
    simp [ha, hcls, LineBreakUnit.endsLine, LineBreakUnit.isClose, opensQuotation]

end LineBreakState

structure IsWordChar (c : Char) : Prop where
  cls : LineBreakClass.of c = .letter ∨ LineBreakClass.of c = .numeric ∨
    LineBreakClass.of c = .infixSeparator
  script : ComplexScript.of? c = none

/-- Whether characters that follow each other are in the same word, or there is a blank between their
words. -/
inductive Follows : Char → Char → Prop
  | word {c d : Char} (hc : IsWordChar c) (hd : IsWordChar d) : Follows c d
  | blank {c : Char} (hc : IsWordChar c) : Follows c ' '
  | behind {d : Char} (hd : IsWordChar d) (hcls : LineBreakClass.of d ≠ .infixSeparator) : Follows ' ' d

def unitOf (c : Char) : LineBreakUnit := .of (LineBreakClass.of c) c

theorem unitOf_blank : unitOf ' ' = .blank := by
  decide +kernel

namespace IsWordChar

variable {c : Char}

theorem isWord (h : IsWordChar c) : (unitOf c).IsWord := by
  refine ⟨h.cls, ?_⟩
  rcases h.cls with hcls | hcls | hcls <;> simp [unitOf, LineBreakUnit.of, hcls]

theorem ne_blank (h : IsWordChar c) : c ≠ ' ' := by
  rintro rfl
  exact absurd h.cls (by decide +kernel)

end IsWordChar

theorem changesScript_eq_false {c d : Char}
    (h : ComplexScript.of? c = none ∨ ComplexScript.of? d = none) : changesScript c d = false := by
  unfold changesScript
  rcases h with h | h
  · rw [h]
  · rw [h]
    split
    · next heq => exact absurd heq nofun
    · rfl

open LineBreakState (InWord BehindWord inWord_after)

/-- Whether a line may end behind a character says whether that is a blank. -/
theorem Follows.mayBreak {s : LineBreakState} {c d : Char} (h : Follows c d)
    (hs : c = ' ' → ∃ a, s.InWord a) (next : List LineBreakUnit) :
    ((s.after (unitOf c)).mayBreak (unitOf d) next || changesScript c d) = (c == ' ') := by
  cases h with
  | word hc hd =>
    rw [(inWord_after hc.isWord s).mayBreak hd.isWord, changesScript_eq_false (.inl hc.script)]
    exact (beq_false_of_ne hc.ne_blank).symm
  | blank hc =>
    rw [unitOf_blank, (inWord_after hc.isWord s).mayBreak_blank, changesScript_eq_false (.inl hc.script)]
    exact (beq_false_of_ne hc.ne_blank).symm
  | behind hd hcls =>
    obtain ⟨a, ha⟩ := hs rfl
    have hbegins : (unitOf d).BeginsWord :=
      ⟨hd.cls.imp_right fun hcls' ↦ hcls'.resolve_right hcls, hd.isWord.joins⟩
    rw [unitOf_blank, ha.behindWord.mayBreak hbegins]
    rfl

theorem map_breaksFrom {s : LineBreakState} {c : Char} {cs : List Char}
    (h : (c :: cs).IsChain Follows) (hs : c = ' ' → ∃ a, s.InWord a) :
    (breaksFrom s (c :: cs) ((c :: cs).map unitOf)).map (·.2) =
      (c :: cs).dropLast.map (· == ' ') ++ [true] := by
  induction cs generalizing s c with
  | nil => rfl
  | cons d cs ih =>
    obtain ⟨hcd, hmore⟩ := List.isChain_cons_cons.1 h
    have hd : d = ' ' → ∃ a, (s.after (unitOf c)).InWord a := by
      rintro rfl
      cases hcd with
      | word hc hd => exact absurd rfl hd.ne_blank
      | blank hc => exact ⟨_, inWord_after hc.isWord s⟩
      | behind hd hcls => exact absurd rfl hd.ne_blank
    have hrest := ih hmore hd
    rw [List.map_cons] at hrest
    rw [List.map_cons, List.map_cons, breaksFrom, List.map_cons, hrest, hcd.mayBreak hs,
      List.dropLast_cons_cons, List.map_cons, List.cons_append]

theorem lineBreakUnits_eq {cs : List Char} (h : ∀ c ∈ cs, (unitOf c).isMark = false) (attached : Bool) :
    lineBreakUnits attached cs = cs.map unitOf := by
  induction cs generalizing attached with
  | nil => rfl
  | cons c cs ih =>
    obtain ⟨hc, hcs⟩ := List.forall_mem_cons.1 h
    have hmark : (LineBreakUnit.of (LineBreakClass.of c) c).isMark = false := hc
    rw [lineBreakUnits]
    simp only [hmark, Bool.false_eq_true, if_false, ih hcs]
    rfl

/-- Whether words are of letters and digits, and begin with one. -/
structure Lettered (words : List (List Char)) : Prop where
  word_nonempty : ∀ word ∈ words, word ≠ []
  chars : ∀ word ∈ words, ∀ c ∈ word, IsWordChar c
  begins : ∀ word ∈ words, ∀ c ∈ word.head?, LineBreakClass.of c ≠ .infixSeparator

variable {words : List (List Char)}

theorem Lettered.tail {word : List Char} (h : Lettered (word :: words)) : Lettered words :=
  ⟨(List.forall_mem_cons.1 h.word_nonempty).2, (List.forall_mem_cons.1 h.chars).2,
    (List.forall_mem_cons.1 h.begins).2⟩

theorem head?_spaced {word : List Char} (hne : word ≠ []) (words : List (List Char)) :
    (spaced (word :: words)).head? = word.head? := by
  obtain ⟨c, cs, rfl⟩ := List.exists_cons_of_ne_nil hne
  cases words <;> rfl

theorem Lettered.isChain_word {word : List Char} (h : Lettered (word :: words)) :
    word.IsChain Follows := by
  have hword := h.chars word List.mem_cons_self
  exact (List.pairwise_of_forall_mem_list fun c hc d hd ↦ .word (hword c hc) (hword d hd)).isChain

theorem Lettered.isChain_spaced (h : Lettered words) : (spaced words).IsChain Follows := by
  induction words using spaced.induct with
  | case1 => exact .nil
  | case2 word => exact h.isChain_word
  | case3 word next rest ih =>
    have hnext : ∀ d ∈ (spaced (next :: rest)).head?, Follows ' ' d := by
      intro d hd
      rw [head?_spaced (h.tail.word_nonempty next List.mem_cons_self)] at hd
      exact .behind (h.tail.chars next List.mem_cons_self d (List.mem_of_mem_head? hd))
        (h.tail.begins next List.mem_cons_self d hd)
    refine List.isChain_append.2 ⟨h.isChain_word, List.isChain_cons.2 ⟨hnext, ih h.tail⟩, ?_⟩
    intro c hc d hd
    obtain rfl := Option.some.inj hd
    exact .blank (h.chars word List.mem_cons_self c (List.mem_of_mem_getLast? hc))

/-- Words of letters and digits with single blanks between them make a plain line. -/
theorem Lettered.plainLine (h : Lettered words) (hwords : words ≠ [])
    (hplain : ∀ word ∈ words, ∀ c ∈ word, PlainChar c) : PlainLine words := by
  refine ⟨hwords, h.word_nonempty, hplain, ?_⟩
  have hmarks : ∀ c ∈ spaced words, (unitOf c).isMark = false := by
    intro c hc
    rcases PlainLine.mem_spaced hc with rfl | ⟨word, hword, hc⟩
    · decide +kernel
    · exact (h.chars word hword c hc).isWord.isMark
  obtain ⟨word, rest, rfl⟩ := List.exists_cons_of_ne_nil hwords
  obtain ⟨c, cs, hword⟩ := List.exists_cons_of_ne_nil (h.word_nonempty word List.mem_cons_self)
  have hfirst : c ≠ ' ' := (h.chars word List.mem_cons_self c (by simp [hword])).ne_blank
  have hhead : (spaced (word :: rest)).head? = some c := by
    rw [head?_spaced (h.word_nonempty word List.mem_cons_self), hword, List.head?_cons]
  obtain ⟨others, hline⟩ := List.head?_eq_some_iff.1 hhead
  have hchain := h.isChain_spaced
  rw [breaks, lineBreakUnits_eq hmarks]
  rw [hline] at hchain ⊢
  rw [map_breaksFrom hchain fun heq ↦ absurd heq hfirst, List.dropLast_concat]

end SuggestionReview.Text
