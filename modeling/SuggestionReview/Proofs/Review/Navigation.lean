import SuggestionReview.Editor.Document
import SuggestionReview.Proofs.Feature
import SuggestionReview.Proofs.Review.Carried

namespace SuggestionReview

def RowEvent.column? : RowEvent → Option Nat
  | navigate column => some column
  | apply | dismiss | save _ => none

theorem RowEvent.eq_of_column? {e : RowEvent} {column : Nat} (h : e.column? = some column) :
    e = .navigate column := by
  cases e with
  | navigate column' => exact congrArg navigate (Option.some.inj h)
  | apply | dismiss | save => exact absurd h nofun

namespace Row

variable {ε ν : Type} {r : Row ε ν} {features : List Feature}

/-- Whether the references of a row lead to the columns of their names. -/
structure Led (r : Row ε ν) (features : List Feature) : Prop where
  headed : r.Headed
  index : r.index = .ofFeatures features
  consistent : r.mapping.isConsistentWith features = true

theorem Led.id_of_chosen (h : r.Led features) {n : String} {column : Nat}
    (hchosen : r.chosen = some (.reference n column)) : features[column]?.map (·.id) = some n :=
  FeatureMapping.id_of_get? h.consistent (h.headed.exists_of_chosen hchosen).2

theorem Led.featureAt (h : r.Led features) (column : Nat) :
    r.featureAt column = features[column]?.map (·.id) := by
  rw [Row.featureAt, h.index, FeatureIndex.ofFeatures, List.getElem?_map]

variable [PayloadEditor ε]

theorem Led.perform [Viewer ν] (h : r.Led features) {o : Operation ν} (ho : o.isRoutine = true) :
    (r.perform o).row.Led features := by
  obtain ⟨hindex, hmapping, -⟩ := Setting.mk.inj (r.setting_perform ho)
  refine ⟨h.headed.perform o, hindex.trans h.index, ?_⟩
  rw [hmapping]
  exact h.consistent

theorem Led.exists_of_navigate [Viewer ν] (h : r.Led features) {k : KeyEvent} {column : Nat}
    (he : (r.key k).event = some (.navigate column)) :
    ∃ n, r.chosen = some (.reference n column) ∧ features[column]?.map (·.id) = some n ∧
      (r.key k).row.featureAt column = some n := by
  cases asks_key he with
  | navigate n column hchosen =>
    have hid := h.id_of_chosen hchosen
    have hkey : (r.key k).row.Led features := h.perform (o := .key k) rfl
    exact ⟨n, hchosen, hid, (hkey.featureAt column).trans hid⟩

end Row

namespace Review

variable {ε ν : Type} {l l' : Review ε ν} {features : List Feature}

def Known (l : Review ε ν) : Prop := ∀ column, l.status ≠ some (.unknownColumn column)

theorem Known.select (h : l.Known) (position : Nat) : (l.select position).Known := by
  rw [select_eq]
  exact h

theorem Known.finishApply (h : l.Known) (position : Nat) : (l.finishApply position).Known := by
  unfold Review.finishApply
  split
  · exact h
  · exact fun _ ↦ nofun

theorem Known.finishApplies (h : l.Known) (ps : List PendingApply) :
    (ps.foldl (fun l p ↦ l.finishApply p.position) l).Known :=
  List.foldlRecOn ps _ h fun _ h p _ ↦ h.finishApply p.position

theorem Known.update (h : l.Known) : l.update.1.Known :=
  finishApplies (l := { l with pending := l.pending.filter (!·.drawn) }) h _

theorem known_built [Viewer ν] (f : SuggestionFile) (palette : Palette) (b : Bindings) (editor : ε)
    (choices : List (Choice ν)) : (built f palette b editor choices).Known := by
  obtain ⟨rows, source, heq⟩ := built_eq f palette b editor choices
  rw [heq]
  exact fun _ ↦ nofun

theorem status_navigate {r : Row ε ν} {column : Nat} {n : String} (h : r.featureAt column = some n)
    (l : Review ε ν) : (l.navigate r column).1.status = some (.navigated column n) := by
  rw [navigate, h]

theorem led_of_setting {f : SuggestionFile} {b : Bindings} {r : Row ε ν}
    (hf : f.effectiveMapping.isConsistentWith f.features = true) (hheaded : r.Headed)
    (hset : r.setting = ⟨.ofFeatures f.features, f.effectiveMapping, b⟩) : r.Led f.features := by
  obtain ⟨hindex, hmapping, -⟩ := Row.Setting.mk.inj hset
  refine ⟨hheaded, hindex, ?_⟩
  rw [hmapping]
  exact hf

variable [PayloadEditor ε] [Viewer ν]

theorem Known.draw
    (h : l.Known) {a : Area} {c : Canvas} {f : Frame ε ν} (hf : l.draw? a c = some f) :
    f.review.Known := by
  obtain ⟨rows, source, offset, -, heq⟩ := draw_eq Row.shown_draw .refl hf
  rw [heq]
  exact h

theorem Known.key (h : l.Known) (hl : ∀ r ∈ l.rows, r.Led features) (k : KeyEvent) :
    (l.key k).1.Known := by
  have hkeyed := l.keyed_key k
  generalize (l.key k).1 = l' at hkeyed
  cases hkeyed with
  | ignored | quit | worked => exact h
  | moved position => exact h.select position
  | answered r e hk he =>
    have hr := selectedRow_of_reached hk
    simp only [handle, getElem?_setRow hr]
    cases e with
    | apply => exact fun _ ↦ by simp [Review.apply]
    | dismiss => exact fun _ ↦ by simp [Review.dismiss]
    | save p => exact fun _ ↦ by simp [Review.save]
    | navigate column =>
      obtain ⟨n, -, -, hfeature⟩ := (hl r (List.mem_of_getElem? hr)).exists_of_navigate he
      intro _
      simp [status_navigate hfeature]

theorem exists_of_answer (hl : ∀ r ∈ l.rows, r.Led features) {k : KeyEvent} {column : Nat}
    (h : l.answer? k = some (.navigate column)) :
    ∃ r n, l.selectedRow = some r ∧ r.chosen = some (.reference n column) ∧
      features[column]?.map (·.id) = some n ∧
      (l.key k).1.status = some (.navigated column n) := by
  have hkeyed := l.keyed_key k
  generalize (l.key k).1 = l' at hkeyed
  cases hkeyed with
  | ignored hk | quit hk | moved _ hk => simp [answer?, hk] at h
  | worked r hk he => simp [answer?, hk, he] at h
  | answered r e hk he =>
    have hr := selectedRow_of_reached hk
    obtain rfl : e = .navigate column := by simpa [answer?, hk, he] using h
    obtain ⟨n, hchosen, hid, hfeature⟩ := (hl r (List.mem_of_getElem? hr)).exists_of_navigate he
    simp only [handle, getElem?_setRow hr]
    exact ⟨r, n, hr, hchosen, hid, status_navigate hfeature _⟩

theorem led_run? {f : SuggestionFile} {palette : Palette} {b : Bindings} {editor : ε}
    {choices : List (Choice ν)} {hs : List Happening}
    (hf : f.effectiveMapping.isConsistentWith f.features = true)
    (h : (built f palette b editor choices).run? hs = some l) : ∀ r ∈ l.rows, r.Led f.features :=
  fun _ hr ↦ led_of_setting hf (headed_run? h hr) (setting_run? h hr)

theorem known_run? {hs : List Happening} (hl : ∀ r ∈ l.rows, r.Led features) (hknown : l.Known)
    (h : l.run? hs = some l') : l'.Known := by
  have hled {m m' : Review ε ν} (hm : ∀ r ∈ m.rows, r.Led features) (h : Carried m m') :
      ∀ r ∈ m'.rows, r.Led features :=
    h.lasts (fun _ _ ho hled ↦ hled.perform ho) hm
  refine (run?_keeps (I := fun l ↦ (∀ r ∈ l.rows, r.Led features) ∧ l.Known)
    (fun m k hI ↦ ?_) (fun m hI ↦ ?_) (fun m a c f hf hI ↦ ?_) ⟨hl, hknown⟩ h).2
  · exact ⟨hled hI.1 (m.carried_key k), hI.2.key hI.1 k⟩
  · exact ⟨hled hI.1 m.carried_update, hI.2.update⟩
  · exact ⟨hled hI.1 (carried_draw hf), hI.2.draw hf⟩

/-- The mapping of a file without one, or with one that is consistent, is consistent, and has every
column where the file gives none. In every review of such a file that is reached by keys, ticks and
frames, a key that leads to a column does so from a reference of the name of that column, the status
says so, and it is never about a column that is not there. -/
theorem navigated_run? {f : SuggestionFile}
    (hf : ∀ m, f.mapping = some m → m.isConsistentWith f.features = true) :
    f.effectiveMapping.isConsistentWith f.features = true ∧
      (f.mapping = none → ∀ x ∈ f.features, f.effectiveMapping.contains x.id = true) ∧
      ∀ (palette : Palette) (b : Bindings) (editor : ε) (choices : List (Choice ν))
        (hs : List Happening) (l : Review ε ν), (built f palette b editor choices).run? hs = some l →
        l.Known ∧ ∀ (k : KeyEvent) (column : Nat), l.answer? k = some (.navigate column) →
          ∃ r n, l.selectedRow = some r ∧ r.chosen = some (.reference n column) ∧
            f.features[column]?.map (·.id) = some n ∧
            (l.key k).1.status.map (·.text) =
              some ("Go to column " ++ toString column ++ " (" ++ n ++ ")") := by
  have hconsistent := SuggestionFile.isConsistentWith_effectiveMapping hf
  refine ⟨hconsistent, fun hnone x hx ↦ ?_, fun palette b editor choices hs l hrun ↦ ⟨?_, ?_⟩⟩
  · rw [SuggestionFile.effectiveMapping, hnone]
    exact FeatureMapping.contains_ofFeatures hx
  · have hled : ∀ r ∈ (built f palette b editor choices).rows, r.Led f.features :=
      fun _ hr ↦ led_of_setting hconsistent (headed_built hr) (setting_built hr)
    exact known_run? hled (known_built f palette b editor choices) hrun
  · intro k column hanswer
    obtain ⟨r, n, hr, hchosen, hid, hstatus⟩ := exists_of_answer (led_run? hconsistent hrun) hanswer
    exact ⟨r, n, hr, hchosen, hid, by rw [hstatus]; rfl⟩

def averages : SuggestionFile :=
  ⟨[.named "age", .named "age"], [⟨"Average", none, ⟨.average, .row, ["age"], none, none, []⟩⟩],
    none⟩

/-- Of two columns with one name, a reference leads to the second one. -/
theorem navigated_run?_repeated :
    ∃ l ∈ (built averages .dark .standard DocumentEditor.empty []).run? [.key (.press .tab .none)],
      l.answer? (.press .enter .none) = some (.navigate 1) ∧
        (l.key (.press .enter .none)).1.status.map (·.text) = some "Go to column 1 (age)" := by
  have hrun : ∃ l ∈ (built averages .dark .standard DocumentEditor.empty []).run?
      [.key (.press .tab .none)], (l.answer? (.press .enter .none)).bind (·.column?) = some 1 := by
    decide +kernel
  obtain ⟨l, hl, hcolumn⟩ := hrun
  have hanswer : l.answer? (.press .enter .none) = some (.navigate 1) := by
    obtain ⟨e, he, hcolumn⟩ := Option.bind_eq_some_iff.1 hcolumn
    rw [he, RowEvent.eq_of_column? hcolumn]
  obtain ⟨-, -, hnavigated⟩ := @navigated_run? DocumentEditor CodeView _ _ averages (fun _ ↦ nofun)
  obtain ⟨-, hkey⟩ := hnavigated .dark .standard DocumentEditor.empty [] _ l hl
  obtain ⟨r, n, -, -, hid, htext⟩ := hkey _ _ hanswer
  obtain rfl : "age" = n := Option.some.inj hid
  exact ⟨l, hl, hanswer, htext⟩

end Review

end SuggestionReview
