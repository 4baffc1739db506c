import SuggestionReview.Text.Basic
import SuggestionReview.TextArea.Buffer

namespace SuggestionReview.Text

inductive WordClass where
  | blank
  | punctuation
  | other
deriving DecidableEq

namespace WordClass

def isPunctuation (c : Char) : Bool :=
  '!' ≤ c && c ≤ '/' || ':' ≤ c && c ≤ '@' || 0x5B ≤ c.toNat && c.toNat ≤ 0x60 ||
    0x7B ≤ c.toNat && c.toNat ≤ 0x7E

def of (c : Char) : WordClass :=
  if isWhiteSpace c then blank else if isPunctuation c then punctuation else other

end WordClass

def firstChange (begins : WordClass → WordClass → Bool) : Nat → List Char → Option Nat
  | column, c :: d :: rest =>
    if begins (.of c) (.of d) then some (column + 1)
    else firstChange begins (column + 1) (d :: rest)
  | _, _ => none

def nextWordStart (line : List Char) (column : Nat) : Option Nat :=
  firstChange (fun a b ↦ b != .blank && a != b) column (line.drop column)

def wordEnd (line : List Char) (column : Nat) : Option Nat :=
  firstChange (fun a b ↦ a != .blank && a != b) column (line.drop column)

/-- How far back the word before a place starts, given the characters before it, last first. -/
def backToWordStart : Nat → List Char → Option Nat
  | _, [] => none
  | n, [c] => if WordClass.of c = .blank then none else some (n + 1)
  | n, c :: d :: rest =>
    if WordClass.of c != .blank && WordClass.of d != WordClass.of c then some (n + 1)
    else backToWordStart (n + 1) (d :: rest)

def wordStart (line : List Char) (column : Nat) : Option Nat :=
  let before := (line.take column).reverse
  (backToWordStart 0 before).map (before.length - ·)

end SuggestionReview.Text

namespace SuggestionReview

inductive Motion where
  | forward
  | back
  | up
  | down
  | lineStart
  | lineEnd
  | top
  | bottom
  | wordForward
  | wordBack
  | paragraphForward
  | paragraphBack
  | intoView
deriving DecidableEq

structure Viewport where
  row : Nat
  column : Nat
  width : Nat
  height : Nat
deriving DecidableEq

namespace Motion

def paragraphBelow (emptyAbove : Bool) (row : Nat) : Buffer → Option Nat
  | [] => none
  | line :: rest =>
    if emptyAbove && !line.isEmpty then some row
    else paragraphBelow line.isEmpty (row + 1) rest

/-- The row where the paragraph above starts, given the lines above it, nearest first. -/
def paragraphAbove (emptyBelow : Bool) (row : Nat) : Buffer → Nat
  | [] => 0
  | line :: rest =>
    if line.isEmpty && !emptyBelow then row
    else paragraphAbove line.isEmpty (row - 1) rest

def clamp (n low high : Nat) : Nat := min (max n low) high

def target (m : Motion) (b : Buffer) (view : Viewport) (p : Position) : Option Position :=
  let last := b.length - 1
  match m with
  | forward =>
    if (b.line p.row).length ≤ p.column then
      if p.row < last then some ⟨p.row + 1, 0⟩ else none
    else some ⟨p.row, p.column + 1⟩
  | back =>
    if p.column = 0 then if p.row = 0 then none else some (b.lineEnd (p.row - 1))
    else some ⟨p.row, p.column - 1⟩
  | up => if p.row = 0 then none else some (b.fit (p.row - 1) p.column)
  | down => if p.row < last then some (b.fit (p.row + 1) p.column) else none
  | lineStart => some ⟨p.row, 0⟩
  | lineEnd => some (b.lineEnd p.row)
  | top => some (b.fit 0 p.column)
  | bottom => some (b.fit last p.column)
  | wordForward =>
    match Text.nextWordStart (b.line p.row) p.column with
    | some column => some ⟨p.row, column⟩
    | none => some (if p.row < last then ⟨p.row + 1, 0⟩ else b.lineEnd p.row)
  | wordBack =>
    match Text.wordStart (b.line p.row) p.column with
    | some column => some ⟨p.row, column⟩
    | none => some (if p.row = 0 then ⟨0, 0⟩ else b.lineEnd (p.row - 1))
  | paragraphForward =>
    let below := paragraphBelow (b.line p.row).isEmpty (p.row + 1) (b.drop (p.row + 1))
    some (b.fit (below.getD last) p.column)
  | paragraphBack =>
    if p.row = 0 then none
    else
      let above := (b.take (p.row - 1)).reverse
      some (b.fit (paragraphAbove (b.line (p.row - 1)).isEmpty (p.row - 1) above) p.column)
  | intoView =>
    let row := min (clamp p.row view.row (max view.row (view.row + view.height - 1))) last
    let column := clamp p.column view.column (max view.column (view.column + view.width - 1))
    some (b.fit row column)

end Motion

end SuggestionReview
