import SuggestionReview.Proofs.Row.UpToDate

namespace SuggestionReview

namespace Command

/-- How many references a command goes on by. -/
def stride : Command → Int
  | nextReference => 1
  | previousReference => -1
  | _ => 0

def distance : List Command → Int
  | [] => 0
  | c :: cs => c.stride + distance cs

theorem distance_eq (cs : List Command) :
    distance cs = (cs.count nextReference : Int) - (cs.count previousReference : Int) := by
  induction cs with
  | nil => rfl
  | cons c cs ih =>
    rw [distance, ih, List.count_cons, List.count_cons]
    cases c <;> simp [stride] <;> omega

end Command

namespace Row

variable {ε ν : Type} {r start : Row ε ν} {c : Nat}

def known (r : Row ε ν) : List String := r.suggestion.payload.arguments.filter r.mapping.contains

theorem Headed.actionableCount (h : r.Headed) :
    r.header.references.actionableCount = r.known.length := by
  rw [h]
  exact References.actionableCount_build _ _

theorem Headed.exists_known (h : r.Headed) (hlt : c < r.known.length) :
    ∃ name column, r.known[c]? = some name ∧ r.mapping.get? name = some column ∧
      r.header.references.activate c = some column := by
  have hname : r.known[c]? = some r.known[c] := List.getElem?_eq_getElem hlt
  have hmem : r.known[c] ∈ r.suggestion.payload.arguments.filter r.mapping.contains :=
    List.getElem_mem hlt
  have hknown : (r.mapping.get? r.known[c]).isSome = true := (List.mem_filter.1 hmem).2
  obtain ⟨column, hcolumn⟩ := Option.isSome_iff_exists.1 hknown
  refine ⟨_, column, hname, hcolumn, ?_⟩
  rw [h]
  refine (References.activate_build _ _ c).trans ?_
  exact Option.bind_eq_some_iff.2 ⟨_, hname, hcolumn⟩

theorem reference_moveReference_of_none (hreference : r.reference = none)
    (hpos : 0 < r.header.references.actionableCount) (forward : Bool) :
    (r.moveReference forward).reference =
      some (if forward then 0 else r.header.references.actionableCount - 1) := by
  simp only [moveReference, if_neg (Nat.ne_of_gt hpos), hreference]
  cases forward <;> rfl

theorem reference_moveReference_of_some (hreference : r.reference = some c)
    (hpos : 0 < r.header.references.actionableCount) (forward : Bool) :
    (r.moveReference forward).reference =
      some ((if forward then c + 1 else c + r.header.references.actionableCount - 1) %
        r.header.references.actionableCount) := by
  simp only [moveReference, if_neg (Nat.ne_of_gt hpos), hreference]
  cases forward <;> rfl

variable [PayloadEditor ε]

/-- A command goes on round the circle by its stride, which is back for the reference before. -/
theorem exists_reference_command (hreference : r.reference = some c)
    (hlt : c < r.header.references.actionableCount) (x : Command) :
    ∃ c', (r.command x).row.reference = some c' ∧ c' < r.header.references.actionableCount ∧
      (c' : Int) = (c + x.stride) % r.header.references.actionableCount := by
  have hpos : 0 < r.header.references.actionableCount := Nat.zero_lt_of_lt hlt
  have hstay : (c : Int) = (c + 0) % r.header.references.actionableCount := by
    rw [Int.add_zero, Int.emod_eq_of_lt (Int.natCast_nonneg c) (Int.ofNat_lt.2 hlt)]
  cases x with
  | nextReference =>
    refine ⟨_, reference_moveReference_of_some hreference hpos true, Nat.mod_lt _ hpos, ?_⟩
    exact Int.natCast_emod _ _
  | previousReference =>
    refine ⟨_, reference_moveReference_of_some hreference hpos false, Nat.mod_lt _ hpos, ?_⟩
    -- one step back is one step short of going all the way round
    have hback : ((c + r.header.references.actionableCount - 1 : Nat) : Int) =
        c + -1 + r.header.references.actionableCount := by omega
    rw [if_neg Bool.false_ne_true, Int.natCast_emod, hback, Int.add_emod_right]
    rfl
  | activateReference =>
    have hrow : (r.command .activateReference).row = r := r.row_followReference
    exact ⟨c, by rw [hrow, hreference], hlt, hstay⟩
  | apply | dismiss =>
    refine ⟨c, ?_, hlt, hstay⟩
    simp only [command]
    split <;> exact hreference
  | toggleEdit | moveUp | moveDown | quit => exact ⟨c, hreference, hlt, hstay⟩

theorem exists_reference_commands [Viewer ν] (hreference : r.reference = some c)
    (hlt : c < r.header.references.actionableCount) (cs : List Command) :
    ∃ c', (r.performAll (cs.map .command)).reference = some c' ∧
      (c' : Int) = (c + Command.distance cs) %
        r.header.references.actionableCount := by
  induction cs generalizing r c with
  | nil =>
    refine ⟨c, hreference, ?_⟩
    rw [Command.distance, Int.add_zero,
      Int.emod_eq_of_lt (Int.natCast_nonneg c) (Int.ofNat_lt.2 hlt)]
  | cons x cs ih =>
    obtain ⟨c₁, hc₁, hlt₁, hstep⟩ := exists_reference_command hreference hlt x
    have hheader : (r.command x).row.header = r.header :=
      congrArg Card.header (r.worked_command x).card
    rw [← hheader] at hlt₁
    obtain ⟨c₂, hc₂, hrest⟩ := ih hc₁ hlt₁
    refine ⟨c₂, hc₂, ?_⟩
    rw [hrest, hheader, hstep, Int.emod_add_emod, Command.distance, Int.add_assoc]

/-- Whatever was done to a new row, as long as its mapping knows some of its arguments: where no
reference is chosen the next one is the first and the one before the last; from the chosen one on,
commands lead round in a circle, as far as there are more for the next one than for the one before;
and following the chosen one leads to the column that the mapping gives to the known argument with
its number. -/
theorem circles_performAll [Viewer ν] {os : List (Operation ν)} (hstart : start.IsNew)
    (hr : start.performAll os = r) (hknown : 0 < r.known.length) :
    (r.reference = none →
      (r.command .nextReference).row.reference = some 0 ∧
        (r.command .previousReference).row.reference = some (r.known.length - 1)) ∧
    ∀ c, r.reference = some c →
      (∀ cs : List Command, ∃ c', (r.performAll (cs.map .command)).reference = some c' ∧
        (c' : Int) =
          (c + cs.count .nextReference - cs.count .previousReference) % r.known.length) ∧
      ∃ name column, r.known[c]? = some name ∧ r.mapping.get? name = some column ∧
        (r.command .activateReference).event = some (.navigate column) := by
  have hkept : r.UpToDate := hr ▸ upToDate_performAll hstart.upToDate os
  have hcount := hkept.headed.actionableCount
  have hpos : 0 < r.header.references.actionableCount := hcount ▸ hknown
  refine ⟨fun hnone ↦ ?_, fun c hc ↦ ⟨fun cs ↦ ?_, ?_⟩⟩
  · rw [← hcount]
    exact ⟨reference_moveReference_of_none hnone hpos true,
      reference_moveReference_of_none hnone hpos false⟩
  · obtain ⟨c', hc', hcircle⟩ := exists_reference_commands hc (hkept.inRange c hc) cs
    refine ⟨c', hc', ?_⟩
    rw [hcircle, hcount, Command.distance_eq, Int.add_sub_assoc]
  · obtain ⟨name, column, hname, hcolumn, hactivate⟩ :=
      hkept.headed.exists_known (hcount ▸ hkept.inRange c hc)
    obtain ⟨column', hactivate', hevent⟩ := hkept.inRange.exists_navigate hc
    obtain rfl := Option.some.inj (hactivate'.symm.trans hactivate)
    exact ⟨name, column', hname, hcolumn, hevent⟩

def grouped : Row DocumentEditor :=
  new ⟨⟨"Group", none, ⟨.group, .row, ["age", "zip", "city", "age"], none, none, []⟩⟩, 0⟩
    [.named "city", .named "age"] (.ofFeatures [.named "city", .named "age"]) 0 .dark .empty
    (.builtin 0)

theorem isNew_grouped : grouped.IsNew := ⟨_, _, _, _, _, _, _, rfl⟩

/-- From the first of three references, two back and one on is the last. -/
theorem circles_performAll_grouped :
    (grouped.performAll ([.nextReference, .previousReference, .nextReference, .previousReference].map
      .command)).reference = some 2 ∧
    ((grouped.performAll [.command .previousReference]).command .activateReference).event =
      some (.navigate 1) := by
  have hfirst : 0 < (grouped.performAll [.command .nextReference]).known.length := by
    decide +kernel
  have hlast : 0 < (grouped.performAll [.command .previousReference]).known.length := by
    decide +kernel
  constructor
  · obtain ⟨-, hcircle⟩ := circles_performAll isNew_grouped rfl hfirst
    obtain ⟨c', hc', hvalue⟩ :=
      (hcircle 0 rfl).1 [.previousReference, .nextReference, .previousReference]
    have hthree : (c' : Int) = 2 := hvalue.trans (by decide +kernel)
    obtain rfl : c' = 2 := Int.ofNat.inj hthree
    exact hc'
  · obtain ⟨-, hcircle⟩ := circles_performAll isNew_grouped rfl hlast
    obtain ⟨-, name, column, hname, hcolumn, hevent⟩ := hcircle 2 rfl
    obtain rfl : "age" = name := Option.some.inj hname
    obtain rfl : 1 = column := Option.some.inj hcolumn
    exact hevent

end Row

end SuggestionReview
