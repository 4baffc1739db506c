import SuggestionReview.Json.Numeral
import SuggestionReview.Json.Reader

namespace SuggestionReview.Json.Reader

variable {α σ : Type}

def maxDepth : Nat := 127

def found : Reader Found := do
  match ← peek with
  | some 'n' => do advance; word ['u', 'l', 'l']; pure .null
  | some 't' => do advance; word ['r', 'u', 'e']; pure (.bool true)
  | some 'f' => do advance; word ['a', 'l', 's', 'e']; pure (.bool false)
  | some '"' => do advance; return .text (← literal)
  | some '[' => pure .sequence
  | some '\x7b' => pure .map
  | some c => if c = '-' || isDigit c then do return .number (← number) else refuseNext .noValue
  | none => refuseNext .noValue

def wrongType (expected : String) : Reader α := do
  let f ← found
  mismatchHere (.wrongType f expected)

def valueStart : Reader Char := do
  match ← token with
  | some c => pure c
  | none => refuse .endInValue

/-- Where an attempt to close a list leaves the cursor, and whether it succeeded. -/
def closeList (c : Cursor) : Except (Malformed × Place) Unit × Cursor :=
  let c := Cursor.skipBlank c.rest c.place
  match c.rest with
  | [] => (.error (.endInList, c.place), c)
  | ']' :: _ => (.ok (), c.advance)
  | ',' :: _ =>
    let c := c.advance
    let c := Cursor.skipBlank c.rest c.place
    match c.rest with
    | ']' :: _ => (.error (.trailingComma, c.nextPlace), c)
    | _ => (.error (.trailing, c.nextPlace), c)
  | _ => (.error (.trailing, c.nextPlace), c)

def closeObject (c : Cursor) : Except (Malformed × Place) Unit × Cursor :=
  let c := Cursor.skipBlank c.rest c.place
  match c.rest with
  | [] => (.error (.endInObject, c.place), c)
  | '\x7d' :: _ => (.ok (), c.advance)
  | ',' :: _ => (.error (.trailingComma, c.nextPlace), c)
  | _ => (.error (.trailing, c.nextPlace), c)

/-- Reads an opening bracket, what is inside, and the closing bracket. Closing is attempted also
after a mismatch, and where that ends is the place of the mismatch. -/
def enclosed (close : Cursor → Except (Malformed × Place) Unit × Cursor) (body : Reader α) :
    Reader α := do
  advance
  fun c ↦
    match body c with
    | .ok (a, c') =>
      match close c' with
      | (.ok (), c'') => .ok (a, c'')
      | (.error (fault, place), _) => .error (.malformed fault place)
    | .error (.unplaced fault c') => .error (.mismatch fault (close c').2.place)
    | .error failure => .error failure

def nextItem (first : Bool) : Reader Bool := do
  match ← token with
  | none => refuse .endInList
  | some ']' => pure false
  | some c =>
    if first then pure true
    else if c = ',' then do
      advance
      match ← token with
      | some ']' => refuseNext .trailingComma
      | some _ => pure true
      | none => refuse .endInValue
    else refuseNext .noListSeparator

def nextKey (first : Bool) : Reader (Option String) := do
  let key : Reader (Option String) := do advance; return some (← literal)
  match ← token with
  | none => refuse .endInObject
  | some '\x7d' => pure none
  | some c =>
    if first then if c = '"' then key else refuseNext .keyNotText
    else if c = ',' then do
      advance
      match ← token with
      | some '"' => key
      | some '\x7d' => refuseNext .trailingComma
      | some _ => refuseNext .keyNotText
      | none => refuse .endInValue
    else refuseNext .noObjectSeparator

def colon : Reader Unit := do
  match ← token with
  | some ':' => advance
  | some _ => refuseNext .noColon
  | none => refuse .endInObject

def items (item : Reader α) : Reader (List α) :=
  iterate (fun (read : List α) ↦ do
    if ← nextItem read.isEmpty then do
      let a ← item
      pure (.inl (a :: read))
    else pure (.inr read.reverse)) []

def members (visit : σ → String → Reader σ) (start : σ) : Reader σ :=
  iterate (fun (state : σ × Bool) ↦ do
    match ← nextKey state.2 with
    | some key => do
      let s ← visit state.1 key
      pure (.inl (s, false))
    | none => pure (.inr state.1)) (start, true)

def keepMember (value : Reader Value) (read : List (String × Value)) (key : String) :
    Reader (List (String × Value)) := do
  colon
  let v ← value
  pure ((key, v) :: read)

/-- A value of any kind, given how to read values inside brackets unless that is too deep. The
members of an object are collected under distinct keys. -/
def valueWith (inner : Option (Reader Value)) : Reader Value := do
  match ← valueStart with
  | 'n' => do advance; word ['u', 'l', 'l']; pure .null
  | 't' => do advance; word ['r', 'u', 'e']; pure (.bool true)
  | 'f' => do advance; word ['a', 'l', 's', 'e']; pure (.bool false)
  | '"' => do advance; return .text (← literal)
  | '[' =>
    match inner with
    | none => refuseNext .depth
    | some item => return .array (← enclosed closeList (items item))
  | '\x7b' =>
    match inner with
    | none => refuseNext .depth
    | some item => do
      let read ← enclosed closeObject (members (keepMember item) [])
      return .object (Entries.ofList read.reverse)
  | c => if c = '-' || isDigit c then do return .number (← number) else refuseNext .noValue

def value : Nat → Reader Value
  | 0 => valueWith none
  | depth + 1 => valueWith (some (value depth))

def text : Reader String := do
  match ← valueStart with
  | '"' => do advance; literal
  | _ => wrongType "a string"

def nullable (r : Reader α) : Reader (Option α) := do
  match ← token with
  | some 'n' => do advance; word ['u', 'l', 'l']; pure none
  | _ => do return some (← r)

def listOf (item : Nat → Reader α) (depth : Nat) : Reader (List α) := do
  match ← valueStart, depth with
  | '[', 0 => refuseNext .depth
  | '[', depth + 1 => enclosed closeList (items (item depth))
  | _, _ => wrongType "a sequence"

def objectOf (expected : String) (visit : Nat → σ → String → Reader σ) (start : σ)
    (finish : σ → Reader α) (depth : Nat) : Reader α := do
  match ← valueStart, depth with
  | '\x7b', 0 => refuseNext .depth
  | '\x7b', depth + 1 => enclosed closeObject (members (visit depth) start >>= finish)
  | _, _ => wrongType expected

def recordOf (expected : String) (visit : Nat → σ → String → Reader σ) (start : σ)
    (finish : σ → Reader α) (inOrder : Nat → Reader α) (depth : Nat) : Reader α := do
  match ← valueStart, depth with
  | '[', 0 => refuseNext .depth
  | '[', depth + 1 => enclosed closeList (inOrder depth)
  | _, _ => objectOf expected visit start finish depth

def index : Reader Nat := do
  let c ← valueStart
  if c = '-' || isDigit c then
    match ← number with
    | .integer (.ofNat n) => pure n
    | .integer n => mismatchHere (.wrongValue (.number (.integer n)) "usize")
    | .real x => mismatchHere (.wrongType (.number (.real x)) "usize")
  else wrongType "usize"

def choice (choices : List (String × α)) : Reader α := do
  match ← valueStart with
  | '"' => do
    advance
    let name ← literal
    match Entries.get? choices name with
    | some a => pure a
    | none => mismatchHere (.unknownVariant name (choices.map (·.1)))
  | _ => wrongType "variant identifier"

def unit : Reader Unit := do
  match ← valueStart with
  | 'n' => do advance; word ['u', 'l', 'l']
  | _ => wrongType "unit"

def variant (choices : List (String × α)) (depth : Nat) : Reader α := do
  match ← token, depth with
  | some '\x7b', 0 => refuseNext .depth
  | some '\x7b', _ + 1 => do
    advance
    let a ← choice choices
    colon
    unit
    match ← token with
    | some '\x7d' => do advance; pure a
    | some _ => refuse .noValue
    | none => refuse .endInObject
  | some '"', _ => choice choices
  | some _, _ => refuseNext .noValue
  | none, _ => refuse .endInValue

def once (name : String) (before : Option α) (r : Reader α) : Reader α := do
  if before.isSome then mismatch (.duplicateField name)
  else do colon; r

def required (name : String) : Option α → Reader α
  | some a => pure a
  | none => mismatch (.missingField name)

def fieldInOrder? (first : Bool) (r : Reader α) : Reader (Option α) := do
  if ← nextItem first then return some (← r) else pure none

def anotherAfter (close : Char) (atEnd noSeparator : Malformed) : Reader Bool := do
  match ← token with
  | none => refuse atEnd
  | some c =>
    if c = ',' then do advance; pure true
    else if c = close then do advance; pure false
    else refuseNext noSeparator

def closedAtOnce (close : Char) (atEnd : Malformed) : Reader Bool := do
  match ← token with
  | none => refuse atEnd
  | some c => if c = close then do advance; pure true else pure false

def skipKey : Reader Unit := do
  match ← token with
  | some '"' => advance
  | some _ => refuseNext .keyNotText
  | none => refuse .endInObject
  skipLiteral
  colon

def skipBracket (close : Char) (atEnd noSeparator : Malformed) (item : Reader Unit) :
    Reader Unit := do
  if ← closedAtOnce close atEnd then pure ()
  else
    iterate (fun (_ : Unit) ↦ do
      item
      if ← anotherAfter close atEnd noSeparator then pure (.inl ()) else pure (.inr ())) ()

def skipWithin : Nat → Reader Unit
  | 0 => refuse .noValue
  | n + 1 => do
    match ← valueStart with
    | 'n' => do advance; word ['u', 'l', 'l']
    | 't' => do advance; word ['r', 'u', 'e']
    | 'f' => do advance; word ['a', 'l', 's', 'e']
    | '"' => do advance; skipLiteral
    | '[' => do
      advance
      skipBracket ']' .endInList .noListSeparator (skipWithin n)
    | '\x7b' => do
      advance
      skipBracket '\x7d' .endInObject .noObjectSeparator (do skipKey; skipWithin n)
    | c => if c = '-' || isDigit c then discard (numeral .numeral) else refuseNext .noValue

/-- Passes over a value. A text cannot nest deeper than it is long. -/
def skipValue : Reader Unit :=
  fun c ↦ skipWithin (c.rest.length + 1) c

def skipMember : Reader Unit := do
  colon
  skipValue

end SuggestionReview.Json.Reader
