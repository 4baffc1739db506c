import SuggestionReview.Json.Document
import SuggestionReview.Screen.Line

namespace SuggestionReview

inductive Theme where
  | dark
  | light
deriving DecidableEq

namespace Theme

def names : List (String × Theme) := [("dark", dark), ("light", light)]

def name : Theme → String
  | dark => "dark"
  | light => "light"

def read (depth : Nat) : Json.Reader Theme := Json.Reader.variant names depth

def parse (s : String) : Except Json.Failure Theme := (read Json.Reader.maxDepth).run s

end Theme

structure Palette where
  name : String
  foreground : Color
  muted : Color
  border : Color
  selectedBackground : Color
  title : Color
  reference : Color
  code : Color
  lineNumber : Color
  apply : Color
  dismiss : Color
  busy : Color
  error : Color
deriving DecidableEq

namespace Palette

def dark : Palette where
  name := "Default Dark"
  foreground := .gray
  muted := .darkGray
  border := .darkGray
  selectedBackground := .rgb 25 25 35
  title := .white
  reference := .cyan
  code := .lightGreen
  lineNumber := .darkGray
  apply := .green
  dismiss := .red
  busy := .yellow
  error := .red

def light : Palette where
  name := "Light"
  foreground := .black
  muted := .gray
  border := .gray
  selectedBackground := .rgb 235 235 245
  title := .black
  reference := .blue
  code := .rgb 0 110 0
  lineNumber := .gray
  apply := .rgb 0 130 0
  dismiss := .rgb 180 0 0
  busy := .rgb 200 150 0
  error := .red

def ofTheme : Theme → Palette
  | .dark => dark
  | .light => light

def colors (p : Palette) : List Color :=
  [p.foreground, p.muted, p.border, p.selectedBackground, p.title, p.reference, p.code,
   p.lineNumber, p.apply, p.dismiss, p.busy, p.error]

def normalStyle (p : Palette) : Style := .fg p.foreground

def mutedStyle (p : Palette) : Style := .fg p.muted

def borderStyle (p : Palette) : Style := .fg p.border

def titleStyle (p : Palette) : Style := (Style.fg p.title).bold

def referenceStyle (p : Palette) : Style := (Style.fg p.reference).underlined

def focusedReferenceStyle (p : Palette) : Style := p.referenceStyle.reversed

def codeStyle (p : Palette) : Style := .fg p.code

def lineNumberStyle (p : Palette) : Style := .fg p.lineNumber

def applyStyle (p : Palette) : Style := (Style.fg p.apply).bold

def dismissStyle (p : Palette) : Style := .fg p.dismiss

def busyStyle (p : Palette) : Style := .fg p.busy

def errorStyle (p : Palette) : Style := .fg p.error

end Palette

end SuggestionReview
