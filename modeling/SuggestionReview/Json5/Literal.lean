import SuggestionReview.Json.Reader
import SuggestionReview.Text.Letter

namespace SuggestionReview.Json5

abbrev Reader (α : Type) := StateT (List Char) Option α

def isLineEnd (c : Char) : Bool :=
  c = '\n' || c = '\r' || c.toNat = 0x2028 || c.toNat = 0x2029

def isBlank (c : Char) : Bool :=
  let n := c.toNat
  isLineEnd c || n = 0x09 || n = 0x0B || n = 0x0C || n = 0x20 || n = 0xA0 || n = 0xFEFF ||
    n = 0x1680 || 0x2000 ≤ n && n ≤ 0x200A || n = 0x202F || n = 0x205F || n = 0x3000

inductive Gap where
  | blank
  | lineComment
  /-- A comment that must be closed, and the text from where it opened. -/
  | comment (opened : List Char)

def skipGap : Gap → List Char → List Char
  | .comment opened, [] => opened
  | _, [] => []
  | .blank, '/' :: '/' :: rest => skipGap .lineComment rest
  | .blank, '/' :: '*' :: rest => skipGap (.comment ('/' :: '*' :: rest)) rest
  | .blank, c :: rest => if isBlank c then skipGap .blank rest else c :: rest
  | .lineComment, c :: rest => skipGap (if isLineEnd c then .blank else .lineComment) rest
  | .comment _, '*' :: '/' :: rest => skipGap .blank rest
  | .comment opened, _ :: rest => skipGap (.comment opened) rest

namespace Reader

variable {α : Type}

def next : Reader Char
  | [] => none
  | c :: rest => some (c, rest)

def peek : Reader (Option Char) :=
  fun cs ↦ some (cs.head?, cs)

def token : Reader (Option Char) :=
  fun cs ↦
    let rest := skipGap .blank cs
    some (rest.head?, rest)

def char (expected : Char) : Reader Unit := do
  if (← next) ≠ expected then failure

def word (s : String) : Reader Unit :=
  s.toList.forM char

def span (p : Char → Bool) : Reader (List Char) :=
  fun cs ↦ some (cs.span p)

def separated (close : Char) (item : Reader α) : Nat → List α → Reader (List α)
  | 0, _ => failure
  | steps + 1, read => do
    if (← token) = some close then
      let _ ← next
      pure read.reverse
    else
      let a ← item
      match ← token with
      | some ',' => do
        let _ ← next
        separated close item steps (a :: read)
      | _ => do
        char close
        pure (a :: read).reverse

/-- The rest of a list whose opening bracket was read. Every item is followed by a character, so
the length of the text bounds their number. -/
def list (close : Char) (item : Reader α) : Reader (List α) :=
  fun cs ↦ separated close item (cs.length + 1) [] cs

end Reader

open Json.Reader (hexDigit? isLeadSurrogate isTrailSurrogate)

/-- A part of a text: a character, or a sixteen bit unit that may be half of one. -/
inductive Piece where
  | char (c : Char)
  | unit (n : Nat)

/-- The text that pieces make when every surrogate has its other half next to it. -/
def Piece.join : List Piece → Option (List Char)
  | [] => some []
  | .char c :: rest => (c :: ·) <$> join rest
  | .unit n :: rest =>
    if isTrailSurrogate n then none
    else if isLeadSurrogate n then
      match rest with
      | .unit m :: rest =>
        if isTrailSurrogate m then
          (Char.ofNat (0x10000 + (n - 0xD800) * 0x400 + (m - 0xDC00)) :: ·) <$> join rest
        else none
      | _ => none
    else (Char.ofNat n :: ·) <$> join rest

namespace Reader

def hexDigits : Nat → Nat → Reader Nat
  | 0, value => pure value
  | count + 1, value => do
    let some digit := hexDigit? (← next) | failure
    hexDigits count (16 * value + digit)

def shortEscapes : List (Char × Nat) :=
  [('b', 0x08), ('f', 0x0C), ('n', 0x0A), ('r', 0x0D), ('t', 0x09), ('v', 0x0B), ('0', 0x00)]

def escape : Reader Piece := do
  match ← next with
  | 'x' => do return .unit (← hexDigits 2 0)
  | 'u' => do return .unit (← hexDigits 4 0)
  | c =>
    match shortEscapes.lookup c with
    | some code => pure (.char (Char.ofNat code))
    | none => if c.isDigit then failure else pure (.char c)

def lineEnd : Reader Unit := do
  let c ← next
  if c = '\r' && (← peek) = some '\n' then
    let _ ← next

def pieces (quote : Char) : Nat → List Piece → Reader (List Piece)
  | 0, _ => failure
  | steps + 1, read => do
    match ← next with
    | '\\' => do
      if (← peek).any isLineEnd then
        lineEnd
        pieces quote steps read
      else
        let piece ← escape
        pieces quote steps (piece :: read)
    | c =>
      if c = quote then pure read.reverse
      else if isLineEnd c then failure
      else pieces quote steps (.char c :: read)

def joined (list : List Piece) : Reader String :=
  match Piece.join list with
  | some cs => pure (String.ofList cs)
  | none => failure

def isQuote (c : Char) : Bool :=
  c = '"' || c.toNat = 0x27

def literal (quote : Char) : Reader String := do
  let list ← fun cs ↦ pieces quote cs.length [] cs
  joined list

def nameRest : Nat → List Piece → Reader (List Piece)
  | 0, _ => failure
  | steps + 1, read => do
    match ← peek with
    | some '\\' => do
      char '\\'
      char 'u'
      let n ← hexDigits 4 0
      nameRest steps (.unit n :: read)
    | some c =>
      if Text.continuesName c then do
        let _ ← next
        nameRest steps (.char c :: read)
      else pure read.reverse
    | none => pure read.reverse

def name : Reader String := do
  match ← peek with
  | some c => if c = '\\' || Text.startsName c then pure () else failure
  | none => failure
  let list ← fun cs ↦ nameRest (cs.length + 1) [] cs
  joined list

def key : Reader String := do
  let start ← token
  if start.any isQuote then literal (← next) else name

end Reader

end SuggestionReview.Json5
