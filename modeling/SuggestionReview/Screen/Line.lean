import SuggestionReview.Basic
import SuggestionReview.Text.Basic
import SuggestionReview.Text.Grapheme
import SuggestionReview.Text.Width

namespace SuggestionReview

inductive Color where
  | reset
  | black
  | red
  | green
  | yellow
  | blue
  | cyan
  | gray
  | darkGray
  | lightGreen
  | lightBlue
  | white
  | rgb (red green blue : UInt8)
deriving DecidableEq

namespace Color

def hexPair (n : UInt8) : String :=
  String.ofList [(Nat.digitChar (n.toNat / 16)).toUpper, (Nat.digitChar (n.toNat % 16)).toUpper]

def describe : Color → String
  | reset => "Reset"
  | black => "Black"
  | red => "Red"
  | green => "Green"
  | yellow => "Yellow"
  | blue => "Blue"
  | cyan => "Cyan"
  | gray => "Gray"
  | darkGray => "DarkGray"
  | lightGreen => "LightGreen"
  | lightBlue => "LightBlue"
  | white => "White"
  | rgb r g b => "#" ++ hexPair r ++ hexPair g ++ hexPair b

end Color

structure Emphasis where
  bold : Bool
  underlined : Bool
  reversed : Bool
deriving DecidableEq

namespace Emphasis

def none : Emphasis := ⟨false, false, false⟩

def union (a b : Emphasis) : Emphasis :=
  ⟨a.bold || b.bold, a.underlined || b.underlined, a.reversed || b.reversed⟩

def describe (e : Emphasis) : String :=
  match
      (if e.bold then ["BOLD"] else []) ++ (if e.underlined then ["UNDERLINED"] else []) ++
        (if e.reversed then ["REVERSED"] else []) with
  | [] => "NONE"
  | names => " | ".intercalate names

end Emphasis

structure Style where
  foreground : Option Color
  background : Option Color
  emphasis : Emphasis
deriving DecidableEq

namespace Style

def plain : Style := ⟨none, none, .none⟩

def fg (c : Color) : Style := ⟨some c, none, .none⟩

def bg (c : Color) : Style := ⟨none, some c, .none⟩

def bold (s : Style) : Style := { s with emphasis := s.emphasis.union ⟨true, false, false⟩ }

def underlined (s : Style) : Style := { s with emphasis := s.emphasis.union ⟨false, true, false⟩ }

def reversed (s : Style) : Style := { s with emphasis := s.emphasis.union ⟨false, false, true⟩ }

end Style

structure Span where
  text : String
  style : Style
deriving DecidableEq

structure Glyph where
  symbol : String
  style : Style
  width : Nat
deriving DecidableEq

namespace Glyph

/-- Whether lines may be broken here. A space that must not be broken is none of these, and one
without width is. -/
def isBlank (g : Glyph) : Bool :=
  g.symbol = "\u200B" || g.symbol.toList.all Text.isWhiteSpace && g.symbol ≠ "\u00A0"

end Glyph

namespace Span

def plain (text : String) : Span := ⟨text, .plain⟩

def glyphs (s : Span) : List Glyph :=
  ((Text.graphemes s.text).filter (· ≠ "\n")).map fun g ↦ ⟨g, s.style, Text.width g⟩

def width (s : Span) : Nat := Text.width s.text

end Span

abbrev StyledLine := List Span

namespace StyledLine

def glyphs (l : StyledLine) : List Glyph := l.flatMap (·.glyphs)

def width (l : StyledLine) : Nat := total (·.width) l

def ofText (s : String) : StyledLine := (Text.lines s).map .plain

end StyledLine

def plainLines (s : String) : List StyledLine :=
  if s.isEmpty then [[]] else (Text.lines s).map .ofText

end SuggestionReview
