import SuggestionReview.Json.Fault

namespace SuggestionReview.Json

abbrev Reader (α : Type) := StateT Cursor (Except Failure) α

namespace Reader

variable {α σ : Type}

def refuse (fault : Malformed) : Reader α :=
  fun c ↦ .error (.malformed fault c.place)

def refuseNext (fault : Malformed) : Reader α :=
  fun c ↦ .error (.malformed fault c.nextPlace)

def mismatch (fault : Mismatch) : Reader α :=
  fun c ↦ .error (.unplaced fault c)

def mismatchHere (fault : Mismatch) : Reader α :=
  fun c ↦ .error (.mismatch fault c.place)

def peek : Reader (Option Char) :=
  fun c ↦ .ok (c.rest.head?, c)

def advance : Reader Unit :=
  fun c ↦ .ok ((), c.advance)

def token : Reader (Option Char) :=
  fun c ↦
    let c' := Cursor.skipBlank c.rest c.place
    .ok (c'.rest.head?, c')

def loop (step : σ → Reader (σ ⊕ α)) : Nat → σ → Reader α
  | 0, _ => refuse .noValue
  | n + 1, s => do
    match ← step s with
    | .inl s' => loop step n s'
    | .inr a => pure a

/-- Repeats a step until it answers. A step that goes on has read something, so the length of the
text bounds their number. -/
def iterate (step : σ → Reader (σ ⊕ α)) (s : σ) : Reader α :=
  fun c ↦ loop step (c.rest.length + 1) s c

def word : List Char → Reader Unit
  | [] => pure ()
  | expected :: more => do
    match ← peek with
    | none => refuse .endInValue
    | some c => if c = expected then do advance; word more else refuseNext .word

def span (p : Char → Bool) : Reader (List Char) :=
  fun c ↦
    let taken := c.rest.takeWhile p
    .ok (taken, ⟨c.rest.dropWhile p, taken.foldl Place.after c.place⟩)

def run (r : Reader α) (s : String) : Except Failure α := do
  let (a, c) ← r (Cursor.ofText s)
  let (next, c) ← token c
  match next with
  | none => .ok a
  | some _ => .error (.malformed .trailing c.nextPlace)

def hexDigit? (c : Char) : Option Nat :=
  if '0' ≤ c && c ≤ '9' then some (c.toNat - '0'.toNat)
  else if 'a' ≤ c && c ≤ 'f' then some (c.toNat - 'a'.toNat + 10)
  else if 'A' ≤ c && c ≤ 'F' then some (c.toNat - 'A'.toNat + 10)
  else none

/-- Four hexadecimal digits. Anything else is refused after four bytes. -/
def hexFour : Reader Nat :=
  fun c ↦
    match c.place.afterBytes 4 c.rest with
    | none => .error (.malformed .endInText c.endPlace)
    | some place =>
      match c.rest.take 4 |>.mapM hexDigit? with
      | some digits =>
        .ok (digits.foldl (fun n d ↦ 16 * n + d) 0, ⟨c.rest.drop 4, place⟩)
      | none => .error (.malformed .escape place)

def isLeadSurrogate (n : Nat) : Bool := 0xD800 ≤ n && n ≤ 0xDBFF

def isTrailSurrogate (n : Nat) : Bool := 0xDC00 ≤ n && n ≤ 0xDFFF

def pairing (expected : Char) : Reader Unit := do
  match ← peek with
  | none => refuse .endInText
  | some c => if c = expected then advance else refuseNext .hexEscape

def unicodeEscape : Reader Char := do
  let n ← hexFour
  if isTrailSurrogate n then refuse .surrogate
  else if isLeadSurrogate n then do
    pairing '\\'
    pairing 'u'
    let m ← hexFour
    if isTrailSurrogate m then
      pure (Char.ofNat (0x10000 + (n - 0xD800) * 0x400 + (m - 0xDC00)))
    else refuse .surrogate
  else pure (Char.ofNat n)

def simpleEscape? : Char → Option Char
  | '"' => some '"'
  | '\\' => some '\\'
  | '/' => some '/'
  | 'b' => some (Char.ofNat 8)
  | 'f' => some (Char.ofNat 12)
  | 'n' => some '\n'
  | 'r' => some '\r'
  | 't' => some '\t'
  | _ => none

def escapeSequence : Reader Char := do
  match ← peek with
  | none => refuse .endInText
  | some 'u' => do advance; unicodeEscape
  | some c =>
    match simpleEscape? c with
    | some d => do advance; pure d
    | none => refuseNext .escape

def literalStep (read : List Char) : Reader (List Char ⊕ String) := do
  match ← peek with
  | none => refuse .endInText
  | some '"' => do advance; pure (.inr (String.ofList read.reverse))
  | some '\\' => do advance; let c ← escapeSequence; pure (.inl (c :: read))
  | some c => if c.toNat < 32 then refuseNext .control else do advance; pure (.inl (c :: read))

def literal : Reader String :=
  iterate literalStep []

/-- One step over a literal that nobody wants: pairs of surrogates are not checked. -/
def literalSkipStep : Unit → Reader (Unit ⊕ Unit) := fun _ ↦ do
  match ← peek with
  | none => refuse .endInText
  | some '"' => do advance; pure (.inr ())
  | some '\\' => do
    advance
    match ← peek with
    | none => refuse .endInText
    | some 'u' => do advance; let _ ← hexFour; pure (.inl ())
    | some c =>
      if (simpleEscape? c).isSome then do advance; pure (.inl ()) else refuseNext .escape
  | some c => if c.toNat < 32 then refuse .control else do advance; pure (.inl ())

def skipLiteral : Reader Unit :=
  iterate literalSkipStep ()

end Reader

end SuggestionReview.Json
