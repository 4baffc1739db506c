import SuggestionReview.Text.LineBreakClass

namespace SuggestionReview.Text

open LineBreakClass

structure LineBreakUnit where
  cls : LineBreakClass
  eastAsian : Bool
  /-- Whether it joins the next character to the one before it. -/
  joins : Bool
deriving DecidableEq

namespace LineBreakUnit

def of (cls : LineBreakClass) (c : Char) : LineBreakUnit where
  cls
  eastAsian := eastAsianRanges.contains c
  joins := cls == .joiner

def isMark (u : LineBreakUnit) : Bool :=
  match u.cls with
  | .combining | .joiner => true
  | _ => false

def endsLine (u : LineBreakUnit) : Bool :=
  match u.cls with
  | .mandatory | .carriageReturn | .lineFeed | .nextLine => true
  | _ => false

def takesMarks (u : LineBreakUnit) : Bool :=
  !u.endsLine && u.cls != .space && u.cls != .zeroWidth

def isLetter (u : LineBreakUnit) : Bool :=
  match u.cls with
  | .letter | .dottedCircle | .hebrew => true
  | _ => false

def isPicture (u : LineBreakUnit) : Bool :=
  match u.cls with
  | .ideograph | .emojiBase | .emojiModifier | .futurePictograph => true
  | _ => false

def isJamo (u : LineBreakUnit) : Bool :=
  match u.cls with
  | .leading | .vowel | .trailing | .leadingVowel | .syllable => true
  | _ => false

def isClose (u : LineBreakUnit) : Bool :=
  match u.cls with
  | .close | .closeParenthesis => true
  | _ => false

def isHyphen (u : LineBreakUnit) : Bool :=
  match u.cls with
  | .hyphen | .wordHyphen => true
  | _ => false

def isQuote (u : LineBreakUnit) : Bool :=
  match u.cls with
  | .quotation | .openingQuotation | .closingQuotation => true
  | _ => false

def isUnit (u : LineBreakUnit) : Bool :=
  match u.cls with
  | .prefixNumeric | .postfixNumeric => true
  | _ => false

def isAksara (u : LineBreakUnit) : Bool :=
  match u.cls with
  | .aksara | .aksaraStart | .dottedCircle => true
  | _ => false

def precedesQuotation (u : LineBreakUnit) : Bool :=
  u.endsLine || u.isQuote ||
    match u.cls with
    | .open | .glue | .space | .zeroWidth => true
    | _ => false

def followsQuotation (u : LineBreakUnit) : Bool :=
  u.endsLine || u.isQuote || u.isClose ||
    match u.cls with
    | .space | .glue | .wordJoiner | .exclamation | .infixSeparator | .slash | .zeroWidth => true
    | _ => false

def precedesWord (u : LineBreakUnit) : Bool :=
  u.endsLine ||
    match u.cls with
    | .space | .zeroWidth | .contingent | .glue => true
    | _ => false

end LineBreakUnit

/-- The units of a text, given whether a mark at its start belongs to a character before it. One that
does not is a letter. -/
def lineBreakUnits (attached : Bool) : List Char → List LineBreakUnit
  | [] => []
  | c :: rest =>
    let u := LineBreakUnit.of (LineBreakClass.of c) c
    if u.isMark then
      (if attached then u else { u with cls := .letter }) :: lineBreakUnits true rest
    else u :: lineBreakUnits u.takesMarks rest

inductive NumberRun where
  | none
  | digits
  /-- Digits and separators in brackets that were closed. -/
  | closed
deriving DecidableEq

/-- What of the characters read so far decides whether a line may end here. -/
structure LineBreakState where
  /-- The last character that is no space and no mark on another one. -/
  last : Option LineBreakUnit
  earlier : Option LineBreakUnit
  spaced : Bool
  joined : Bool
  regional : Bool
  number : NumberRun
deriving DecidableEq

namespace LineBreakState

def start : LineBreakState := ⟨none, none, false, false, false, .none⟩

def after (s : LineBreakState) (b : LineBreakUnit) : LineBreakState :=
  if b.cls = .space then { s with spaced := true, joined := false }
  else if b.isMark then { s with joined := b.joins }
  else
    { last := some b
      earlier := if s.spaced then some (.of .space ' ') else s.last
      spaced := false
      joined := b.joins
      regional := b.cls = .regional && !(s.regional && !s.spaced)
      number :=
        if b.cls = .numeric then .digits
        else if s.number = .digits && !s.spaced then
          match b.cls with
          | .slash | .infixSeparator => .digits
          | .close | .closeParenthesis => .closed
          | _ => .none
        else .none }

def opensQuotation (s : LineBreakState) (a : LineBreakUnit) : Bool :=
  a.cls = .openingQuotation && (s.earlier.all (·.precedesQuotation))

/-- Whether quotation marks hold two characters together that stand next to each other. They do not
between East Asian characters. -/
def heldByQuotes (s : LineBreakState) (a b : LineBreakUnit) (next : Option LineBreakUnit) : Bool :=
  b.isQuote &&
      (b.cls != .openingQuotation || !a.eastAsian || !(next.any (·.eastAsian))) ||
    a.isQuote &&
      (a.cls != .closingQuotation || !b.eastAsian || !(s.earlier.any (·.eastAsian)))

def startsNumber : List LineBreakUnit → Bool
  | u :: rest =>
    u.cls = .numeric || u.cls = .infixSeparator && rest.head?.any (·.cls = .numeric)
  | [] => false

/-- Whether two characters that stand next to each other are part of a number, or of a number and
its unit. -/
def inNumber (s : LineBreakState) (a b : LineBreakUnit) (next : List LineBreakUnit) : Bool :=
  b.isUnit && s.number != .none ||
    a.isUnit && (b.cls = .numeric || b.cls = .open && startsNumber next) ||
    b.cls = .numeric && (a.cls = .hyphen || a.cls = .infixSeparator || s.number = .digits)

def inSyllable (a b : LineBreakUnit) : Bool :=
  match a.cls, b.cls with
  | .leading, .leading | .leading, .vowel | .leading, .leadingVowel | .leading, .syllable
  | .vowel, .vowel | .vowel, .trailing | .leadingVowel, .vowel | .leadingVowel, .trailing
  | .trailing, .trailing | .syllable, .trailing => true
  | _, _ => false

def inAksara (s : LineBreakState) (a b : LineBreakUnit) (next : Option LineBreakUnit) : Bool :=
  a.cls = .aksaraPrebase && b.isAksara ||
    a.isAksara && (b.cls = .virama || b.cls = .viramaFinal) ||
    a.cls = .virama && s.earlier.any (·.isAksara) && b.isAksara && b.cls != .aksaraStart ||
    a.isAksara && b.isAksara && next.any (·.cls = .viramaFinal)

def staysTogether (s : LineBreakState) (a b : LineBreakUnit) (next : List LineBreakUnit) : Bool :=
  a.isHyphen && s.earlier.all (·.precedesWord) && b.isLetter ||
    b.isHyphen || b.cls = .breakAfter || b.cls = .nonStarter || a.cls = .breakBefore ||
    a.isHyphen && s.earlier.any (·.cls = .hebrew) && b.cls != .hebrew ||
    a.cls = .slash && b.cls = .hebrew || b.cls = .inseparable ||
    a.isLetter && b.cls = .numeric || a.cls = .numeric && b.isLetter ||
    a.cls = .prefixNumeric && (b.isPicture || b.isJamo) ||
    (a.isPicture || a.isJamo) && b.cls = .postfixNumeric ||
    a.isUnit && b.isLetter || a.isLetter && b.isUnit ||
    s.inNumber a b next || inSyllable a b || s.inAksara a b next.head? ||
    a.isLetter && b.isLetter || a.cls = .infixSeparator && b.isLetter ||
    (a.isLetter || a.cls = .numeric) && b.cls = .open && !b.eastAsian ||
    a.cls = .closeParenthesis && !a.eastAsian && (b.isLetter || b.cls = .numeric) ||
    a.cls = .regional && b.cls = .regional && s.regional ||
    (a.cls = .emojiBase || a.cls = .futurePictograph) && b.cls = .emojiModifier

/-- Whether a line may end before a character, given the next characters that are no marks. -/
def mayBreak (s : LineBreakState) (b : LineBreakUnit) (next : List LineBreakUnit) : Bool :=
  let stops := b.endsLine || b.cls = .space || b.cls = .zeroWidth
  let sticks := s.joined || b.isMark || b.cls = .wordJoiner
  let closes :=
    b.isClose || b.cls = .exclamation || b.cls = .slash ||
      b.cls = .closingQuotation && next.head?.all (·.followsQuotation) ||
      b.cls = .infixSeparator && !(s.spaced && (next.head?.any (·.cls = .numeric)))
  match s.last with
  | none => !(stops || sticks || closes)
  | some a =>
    if !s.spaced && a.cls = .carriageReturn && b.cls = .lineFeed then false
    else if !s.spaced && a.endsLine then true
    else if stops then false
    else if a.cls = .zeroWidth then true
    else if sticks || !s.spaced && (a.cls = .wordJoiner || a.cls = .glue) then false
    else if b.cls = .glue && !s.spaced && a.cls != .breakAfter && !a.isHyphen then false
    else if b.isClose || b.cls = .exclamation || b.cls = .slash then false
    else if a.cls = .open || s.opensQuotation a || closes then false
    else if a.isClose && b.cls = .nonStarter || a.cls = .dash && b.cls = .dash then false
    else if s.spaced then true
    else if s.heldByQuotes a b next.head? then false
    else if a.cls = .contingent || b.cls = .contingent then true
    else !s.staysTogether a b next

end LineBreakState

/-- Whether two characters that are written without blanks belong to different scripts. -/
def changesScript (c d : Char) : Bool :=
  match ComplexScript.of? c, ComplexScript.of? d with
  | some s, some t => s != t
  | _, _ => false

def firstUnmarked : Nat → List LineBreakUnit → List LineBreakUnit
  | 0, _ => []
  | _, [] => []
  | n + 1, u :: rest =>
    if u.isMark then firstUnmarked (n + 1) rest else u :: firstUnmarked n rest

def breaksFrom (s : LineBreakState) : List Char → List LineBreakUnit → List (Char × Bool)
  | c :: d :: rest, a :: b :: units =>
    let s := s.after a
    (c, s.mayBreak b (firstUnmarked 2 units) || changesScript c d) ::
      breaksFrom s (d :: rest) (b :: units)
  | cs, _ => cs.map (·, true)

def breaks (cs : List Char) : List (Char × Bool) :=
  breaksFrom .start cs (lineBreakUnits false cs)

end SuggestionReview.Text
