namespace SuggestionReview

structure Position where
  row : Nat
  column : Nat
deriving DecidableEq

abbrev Buffer := List (List Char)

namespace Buffer

def line (b : Buffer) (row : Nat) : List Char := b.getD row []

def fit (b : Buffer) (row column : Nat) : Position := ⟨row, min column (b.line row).length⟩

def lineEnd (b : Buffer) (row : Nat) : Position := ⟨row, (b.line row).length⟩

/-- A piece of lines between two halves of a line. -/
def splice (front back : List Char) : Buffer → Buffer
  | [] => [front ++ back]
  | [only] => [front ++ only ++ back]
  | first :: rest => (front ++ first) :: splice [] back rest

def insert (b : Buffer) (place : Position) (piece : Buffer) : Buffer :=
  b.take place.row ++
    splice ((b.line place.row).take place.column) ((b.line place.row).drop place.column) piece ++
    b.drop (place.row + 1)

def slice (b : Buffer) (start stop : Position) : Buffer :=
  if start.row = stop.row then [((b.line start.row).take stop.column).drop start.column]
  else
    (b.line start.row).drop start.column ::
      ((b.take stop.row).drop (start.row + 1) ++ [(b.line stop.row).take stop.column])

def erase (b : Buffer) (start stop : Position) : Buffer :=
  b.take start.row ++
    ((b.line start.row).take start.column ++ (b.line stop.row).drop stop.column) ::
    b.drop (stop.row + 1)

def behind (start : Position) : Buffer → Position
  | [] => start
  | [only] => ⟨start.row, start.column + only.length⟩
  | _ :: rest => behind ⟨start.row + 1, 0⟩ rest

def text (b : Buffer) : String := String.ofList (['\n'].intercalate b)

end Buffer

/-- A piece that was put in or taken out, and where the cursor goes when that is made or undone. -/
structure Edit where
  inserts : Bool
  start : Position
  piece : Buffer
  before : Position
  after : Position
deriving DecidableEq

namespace Edit

def put (start : Position) (piece b : Buffer) : Buffer := b.insert start piece

def take (start : Position) (piece b : Buffer) : Buffer := b.erase start (Buffer.behind start piece)

def apply (e : Edit) : Buffer → Buffer :=
  if e.inserts then put e.start e.piece else take e.start e.piece

def revert (e : Edit) : Buffer → Buffer :=
  if e.inserts then take e.start e.piece else put e.start e.piece

end Edit

/-- Edits that were made, last first, and edits that were undone, to be made again first to last. -/
structure History where
  made : List Edit
  undone : List Edit
deriving DecidableEq

namespace History

def empty : History := ⟨[], []⟩

def limit : Nat := 50

/-- Adds an edit. Undone edits are forgotten, but they count when the oldest edit has to make
room. -/
def push (h : History) (e : Edit) : History :=
  let full := h.made.length + h.undone.length = limit
  ⟨e :: (if full then h.made.dropLast else h.made), []⟩

end History

end SuggestionReview
