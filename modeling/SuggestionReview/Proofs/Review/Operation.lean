import SuggestionReview.Proofs.Review.Run
import SuggestionReview.Proofs.Row.Kept

namespace SuggestionReview

open List (Forall₂)
open Row (Shown Worked)

def SuggestionFile.sums (n : Nat) : SuggestionFile :=
  ⟨[], .replicate n ⟨"Sum", none, ⟨.sum, .row, [], none, none, []⟩⟩, none⟩

inductive Choice (ν : Type := CodeView) where
  | numbers (numbered : Bool)
  | borders (bordered : Bool)
  | capabilities (c : Capabilities)
  | viewer (source : ViewerSource ν)

inductive Operation (ν : Type := CodeView) where
  | happens (h : Happening)
  /-- A row is said to ask for something. There need not be a row at the position. -/
  | event (position : Nat) (e : RowEvent)
  | deliver (load : Nat) (result : LoadResult ν)

namespace Operation

variable {ν : Type}

def isTick : Operation ν → Bool
  | happens .tick => true
  | _ => false

def isFrame : Operation ν → Bool
  | happens (.frame _ _) => true
  | _ => false

def passes (o : Operation ν) : Bool := o.isTick || o.isFrame

end Operation

namespace Review

variable {ε ν : Type}

def choose (l : Review ε ν) : Choice ν → Review ε ν
  | .numbers numbered => l.withNumbers numbered
  | .borders bordered => l.withBorders bordered
  | .capabilities c => l.withCapabilities c
  | .viewer source => (l.withViewer source).1

/-- What choices do not change about rows. -/
theorem map_choose {α : Type} {g : Row ε ν → α} (hs : ∀ r r', Shown r r' → g r' = g r)
    (hg : ∀ (r : Row ε ν) numbered bordered capabilities,
      g { r with numbered, bordered, capabilities } = g r) (l : Review ε ν) (c : Choice ν) :
    (l.choose c).rows.map g = l.rows.map g := by
  cases c with
  | numbers numbered =>
    exact List.map_map.trans (List.map_congr_left fun r _ ↦ hg r numbered r.bordered r.capabilities)
  | borders bordered =>
    exact List.map_map.trans (List.map_congr_left fun r _ ↦ hg r r.numbered bordered r.capabilities)
  | capabilities c =>
    exact List.map_map.trans (List.map_congr_left fun r _ ↦ hg r r.numbered r.bordered c)
  | viewer source => exact map_eq_of_forall₂ hs (forall₂_forRows Row.shown_setViewer l.rows source)

theorem map_update {α : Type} {g : Row ε ν → α} (hs : ∀ r r', Shown r r' → g r' = g r)
    (hg : ∀ (r : Row ε ν) loading, g { r with loading } = g r) (l : Review ε ν) :
    l.update.1.rows.map g = l.rows.map g := by
  obtain ⟨rows, source, status, hrows, heq⟩ := update_eq Row.shown_loadViewer l
  have hsettled : (settled l.drawnPositions l.rows).map g = l.rows.map g :=
    map_mapIdx_of_eq (fun i r ↦ by split <;> simp only [hg]) l.rows
  rw [heq, ← hsettled]
  exact map_eq_of_forall₂ hs hrows

variable [Viewer ν]

/-- The review of a file, with some choices made about it. -/
def built (f : SuggestionFile) (palette : Palette) (bindings : Bindings) (editor : ε)
    (choices : List (Choice ν)) : Review ε ν :=
  choices.foldl choose (ofFile f palette bindings editor).1

theorem built_eq (f : SuggestionFile) (palette : Palette) (b : Bindings) (editor : ε)
    (choices : List (Choice ν)) : ∃ rows source,
      built f palette b editor choices = { (ofFile f palette b editor).1 with rows, source } := by
  let start : Review ε ν := (ofFile f palette b editor).1
  have hstart : ∃ rows source, start = { start with rows, source } := ⟨_, _, rfl⟩
  refine List.foldlRecOn (motive := fun l ↦ ∃ rows source, l = { start with rows, source })
    choices choose hstart fun l hl c _ ↦ ?_
  obtain ⟨rows, source, rfl⟩ := hl
  cases c <;> exact ⟨_, _, rfl⟩

/-- What code views, choices and the selection do not change about rows is that of new ones. -/
theorem map_built {α : Type} {g : Row ε ν → α} (hs : ∀ r r', Shown r r' → g r' = g r)
    (hg : ∀ (r : Row ε ν) numbered bordered capabilities,
      g { r with numbered, bordered, capabilities } = g r)
    (hfocus : ∀ (r : Row ε ν) focused, g { r with focused } = g r) (f : SuggestionFile)
    (palette : Palette) (b : Bindings) (editor : ε) (choices : List (Choice ν)) :
    (built f palette b editor choices).rows.map g =
      f.suggestions.mapIdx fun i s ↦ g (newRow f palette b editor i s) := by
  let start : Review ε ν := (ofFile f palette b editor).1
  have hchosen : (choices.foldl choose start).rows.map g = start.rows.map g :=
    List.foldlRecOn (motive := fun l ↦ l.rows.map g = start.rows.map g) choices choose rfl
      fun l hl c _ ↦ (l.map_choose hs hg c).trans hl
  let rows : List (Row ε ν) := f.suggestions.mapIdx (newRow f palette b editor)
  have hloaded := forall₂_forRows Row.shown_loadViewer rows (.builtin 0)
  refine hchosen.trans ((map_syncFocus hfocus _).trans ((map_eq_of_forall₂ hs hloaded).trans ?_))
  refine List.ext_getElem? fun i ↦ ?_
  simp only [rows, List.getElem?_map, List.getElem?_mapIdx, Option.map_map]
  rfl

variable [PayloadEditor ε]

theorem map_draw
    {α : Type} {g : Row ε ν → α} (hs : ∀ r r', Shown r r' → g r' = g r) {l : Review ε ν}
    {a : Area} {c : Canvas} {f : Frame ε ν} (hf : l.draw? a c = some f) :
    f.review.rows.map g = l.rows.map g := by
  obtain ⟨rows, source, offset, hrows, heq⟩ := draw_eq Row.shown_draw .refl hf
  rw [heq]
  exact map_eq_of_forall₂ hs hrows

def perform? (l : Review ε ν) : Operation ν → Option (Review ε ν)
  | .happens h => l.after? h
  | .event position e => some (l.handle position e).1
  | .deliver load result => some (l.deliver result load).1

def performAll? (l : Review ε ν) (os : List (Operation ν)) : Option (Review ε ν) :=
  os.foldlM perform? l

/-- The position of a row that asks for something, and what it asks for. -/
def request? (l : Review ε ν) : Operation ν → Option (Nat × RowEvent)
  | .happens (.key k) => (l.answer? k).map (l.selected, ·)
  | .event position e => if position < l.rows.length then some (position, e) else none
  | _ => none

variable {l l' : Review ε ν} {o : Operation ν} {os : List (Operation ν)}

theorem performAll?_invariant {I : Review ε ν → Prop}
    (hI : ∀ l o l', l.perform? o = some l' → I l → I l') (hl : I l)
    (h : l.performAll? os = some l') : I l' := by
  induction os generalizing l with
  | nil => exact Option.some.inj h ▸ hl
  | cons o os ih =>
    obtain ⟨m, hm, h⟩ := Option.bind_eq_some_iff.1 h
    exact ih (hI l o m hm hl) h

/-- What an operation leads to: in the end it hands over at most one request of a row. -/
inductive Performed (l : Review ε ν) : Operation ν → Review ε ν → Prop
  | still {o : Operation ν} (quitting : Bool) (source : ViewerSource ν) (hq : l.request? o = none)
      (ho : o.passes = false) : Performed l o { l with quitting, source }
  | moved {o : Operation ν} (position : Nat) (hq : l.request? o = none) (ho : o.passes = false) :
    Performed l o (l.select position)
  | worked {o : Operation ν} (r r' : Row ε ν) (hr : l.selectedRow = some r) (hw : Worked r r')
      (hq : l.request? o = none) (ho : o.passes = false) : Performed l o (l.setRow l.selected r')
  | answered {o : Operation ν} (i : Nat) (e : RowEvent) (r r' : Row ε ν) (hr : l.rows[i]? = some r)
      (hw : Worked r r') (hq : l.request? o = some (i, e)) (ho : o.passes = false) :
    Performed l o ((l.setRow i r').handle i e).1
  | ticked : Performed l (.happens .tick) l.update.1
  | drawn {a : Area} {c : Canvas} (f : Frame ε ν) (h : l.draw? a c = some f) :
    Performed l (.happens (.frame a c)) f.review

theorem performed_of_perform? (h : l.perform? o = some l') : Performed l o l' := by
  cases o with
  | happens happening =>
    cases happening with
    | key k =>
      obtain rfl := Option.some.inj h
      have hkeyed := l.keyed_key k
      generalize (l.key k).1 = l' at hkeyed
      cases hkeyed with
      | ignored hk => exact .still l.quitting l.source (by simp [request?, answer?, hk]) rfl
      | quit hk => exact .still true l.source (by simp [request?, answer?, hk]) rfl
      | moved position hk => exact .moved position (by simp [request?, answer?, hk]) rfl
      | worked r hk he =>
        exact .worked r _ (selectedRow_of_reached hk) (r.worked_key k)
          (by simp [request?, answer?, hk, he]) rfl
      | answered r e hk he =>
        exact .answered l.selected e r _ (selectedRow_of_reached hk) (r.worked_key k)
          (by simp [request?, answer?, hk, he]) rfl
    | tick =>
      obtain rfl := Option.some.inj h
      exact .ticked
    | frame a c =>
      obtain ⟨f, hf, rfl⟩ := Option.map_eq_some_iff.1 h
      exact .drawn f hf
  | event i e =>
    obtain rfl := Option.some.inj h
    rcases hr : l.rows[i]? with - | r
    · have hi : ¬i < l.rows.length := Nat.not_lt.2 (List.getElem?_eq_none_iff.1 hr)
      have hhandle : (l.handle i e).1 = l := by simp [handle, hr]
      rw [hhandle]
      exact .still l.quitting l.source (if_neg hi) rfl
    · have hi : i < l.rows.length := (List.getElem?_eq_some_iff.1 hr).1
      have hperformed := Performed.answered (o := .event i e) i e r r hr (.refl r) (if_pos hi) rfl
      rwa [setRow_self hr] at hperformed
  | deliver load result =>
    obtain rfl := Option.some.inj h
    exact .still l.quitting _ rfl rfl

end Review

end SuggestionReview
