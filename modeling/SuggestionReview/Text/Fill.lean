import SuggestionReview.Text.Basic
import SuggestionReview.Text.Width
import SuggestionReview.Text.LineBreak

namespace SuggestionReview.Text

structure Fragment where
  width : Nat
  /-- The blanks behind it, which take no room at the end of a line. -/
  blanks : Nat
deriving DecidableEq

namespace Fill

def softHyphen : Char := Char.ofNat 0xAD

def dropLast : List (Char × Bool) → List (Char × Bool) × Bool
  | [] => ([], false)
  | (c, allowed) :: rest =>
    match dropLast rest with
    | (rest, true) => ((c, allowed) :: rest, true)
    | (rest, false) => ((c, false) :: rest, allowed)

/-- Whether a word may end behind a character: at the places for line ends, but not at hyphens. -/
def wordEnds (cs : List Char) : List Bool :=
  let allowed := (breaks cs).map fun (c, allowed) ↦ (c, allowed && c ≠ '-' && c ≠ softHyphen)
  (dropLast allowed).1.map (·.2)

def cut (opened : List Char) : List (Char × Bool) → List Bool → List (List Char)
  | [], _ => if opened.isEmpty then [] else [opened.reverse]
  | (c, false) :: rest, ends => cut (c :: opened) rest ends
  | (c, true) :: rest, true :: ends => (c :: opened).reverse :: cut [] rest ends
  | (c, true) :: rest, false :: ends => cut (c :: opened) rest ends
  | (c, true) :: rest, [] => cut (c :: opened) rest []

def words (line : List Char) : List (List Char) :=
  let all := marked .outside line
  cut [] all (wordEnds ((all.filter (·.2)).map (·.1)))

def hyphenPieces (opened : List Char) : List Char → List (List Char)
  | [] => [opened.reverse]
  | c :: rest =>
    if c = '-' && (opened.head?.any isAlphanumeric) && (rest.head?.any isAlphanumeric) then
      (c :: opened).reverse :: hyphenPieces [] rest
    else hyphenPieces (c :: opened) rest

/-- The columns of the pieces of at most so many columns into which a word is broken, given the
columns of the open piece. A piece has one visible character at least. -/
def brokenWidths (limit opened : Nat) : List (Char × Bool) → List Nat
  | [] => [opened]
  | (c, visible) :: rest =>
    let w := if visible then loneWidth c else 0
    if visible && 0 < opened && limit < opened + w then opened :: brokenWidths limit w rest
    else brokenWidths limit (opened + w) rest

def withBlanks (blanks : Nat) : List Nat → List Fragment
  | [] => []
  | [w] => [⟨w, blanks⟩]
  | w :: rest => ⟨w, 0⟩ :: withBlanks blanks rest

def wordFragments (limit : Nat) (word : List Char) : List Fragment :=
  let text := (word.reverse.dropWhile (· = ' ')).reverse
  let widths := (hyphenPieces [] text).flatMap fun piece ↦
    if limit < displayWidth piece then brokenWidths limit 0 (marked .outside piece)
    else [displayWidth piece]
  withBlanks (word.length - text.length) widths

def fragments (limit : Nat) (line : List Char) : List Fragment :=
  (words line).flatMap (wordFragments limit)

structure Filling where
  /-- The columns of all these fragments with their blanks. -/
  columns : Nat
  cost : Nat
  lines : Nat
deriving DecidableEq

namespace Filling

def empty : Filling := ⟨0, 0, 0⟩

/-- What a line costs that uses so many columns. Lines that are too long cost most, and otherwise
even lines are best. The last line may be short, unless it is a single short fragment. -/
def lineCost (limit used : Nat) (last single : Bool) : Nat :=
  1000 +
    if limit < used then 2500 * (used - limit)
    else if !last then (limit - used) * (limit - used)
    else if single && 4 * used < limit then 25
    else 0

def another (s : Filling) (limit total : Nat) (f : Fragment) (last single : Bool) : Filling where
  columns := total + f.width + f.blanks
  cost := s.cost + lineCost limit (total + f.width - s.columns) last single
  lines := s.lines + 1

/-- The best of the fillings whose last line ends with a fragment and begins behind one of the
given fillings, which come longest first. Of equally good ones the longest last line is best. -/
def best (limit total : Nat) (f : Fragment) (last : Bool) : Bool → List Filling → Option Filling
  | _, [] => none
  | single, s :: rest =>
    let here := s.another limit total f last single
    match best limit total f last false rest with
    | some other => some (if other.cost ≤ here.cost then other else here)
    | none => some here

/-- The fillings of all beginnings of a list of fragments, longest first, given those so far. -/
def all (limit : Nat) (fillings : List Filling) : List Fragment → List Filling
  | [] => fillings
  | f :: rest =>
    let total := (fillings.head?.map (·.columns)).getD 0
    match best limit total f rest.isEmpty true fillings with
    | some s => all limit (s :: fillings) rest
    | none => fillings

end Filling

def lineCount (limit : Nat) (fs : List Fragment) : Nat :=
  match Filling.all limit [.empty] fs with
  | s :: _ => max s.lines 1
  | [] => 1

def lineRows (limit : Nat) (line : List Char) : Nat :=
  if total (·.utf8Size) line < limit then 1 else lineCount limit (fragments limit line)

end Fill

def splitLines : List Char → List (List Char)
  | [] => [[]]
  | c :: rest =>
    if c = '\n' then [] :: splitLines rest
    else
      match splitLines rest with
      | [] => [[c]]
      | line :: more => (c :: line) :: more

def filledRows (columns : Nat) (s : String) : Nat :=
  total (Fill.lineRows (max columns 1)) (splitLines s.toList)

end SuggestionReview.Text
