import SuggestionReview.Text.GraphemeClass

namespace SuggestionReview.Text

inductive PictographRun where
  | none
  | pictograph
  | joined
deriving DecidableEq

inductive ConjunctRun where
  | none
  | consonant
  | linked
deriving DecidableEq

/-- What of the characters read so far decides whether the next one belongs to them. -/
structure GraphemeState where
  last : GraphemeClass
  regional : Bool
  pictograph : PictographRun
  conjunct : ConjunctRun

namespace GraphemeState

def start : GraphemeState := ⟨.control, false, .none, .none⟩

def after (s : GraphemeState) (c : Char) : GraphemeState where
  last := GraphemeClass.of c
  regional := GraphemeClass.of c == .regional && !s.regional
  pictograph :=
    match GraphemeClass.of c, s.pictograph with
    | .pictograph, _ => .pictograph
    | .extend, .pictograph => .pictograph
    | .joiner, .pictograph => .joined
    | _, _ => .none
  conjunct :=
    match ConjunctClass.of c, s.conjunct with
    | .consonant, _ => .consonant
    | .linker, .none => .none
    | .linker, _ => .linked
    | .extend, run => run
    | .other, _ => .none

def joins (s : GraphemeState) (c : Char) : Bool :=
  match s.last, GraphemeClass.of c with
  | .carriageReturn, .lineFeed => true
  | .carriageReturn, _ | .lineFeed, _ | .control, _ => false
  | _, .carriageReturn | _, .lineFeed | _, .control => false
  | .leading, .leading | .leading, .vowel | .leading, .leadingVowel | .leading, .syllable => true
  | .leadingVowel, .vowel | .leadingVowel, .trailing | .vowel, .vowel | .vowel, .trailing => true
  | .syllable, .trailing | .trailing, .trailing => true
  | _, .extend | _, .joiner | _, .spacingMark | .prepend, _ => true
  | _, .pictograph => s.pictograph == .joined
  | _, .regional => s.regional
  | _, _ => s.conjunct == .linked && ConjunctClass.of c == .consonant

end GraphemeState

def graphemesFrom (state : GraphemeState) (opened : List Char) : List Char → List (List Char)
  | [] => [opened.reverse]
  | c :: rest =>
    if state.joins c then graphemesFrom (state.after c) (c :: opened) rest
    else opened.reverse :: graphemesFrom (state.after c) [c] rest

def graphemes (s : String) : List String :=
  match s.toList with
  | [] => []
  | c :: rest => (graphemesFrom (GraphemeState.start.after c) [c] rest).map String.ofList

end SuggestionReview.Text
