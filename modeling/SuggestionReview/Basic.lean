namespace SuggestionReview

/-- Keys with their values; no key occurs twice in what `insert` builds. -/
abbrev Entries (α : Type) := List (String × α)

namespace Entries

variable {α β : Type}

/-- Puts a value under a key; a key that is there keeps its place. -/
def insert : Entries α → String → α → Entries α
  | [], key, value => [(key, value)]
  | (k, v) :: rest, key, value =>
    if k = key then (key, value) :: rest else (k, v) :: insert rest key value

def insertAll (entries new : Entries α) : Entries α :=
  new.foldl (fun acc entry ↦ acc.insert entry.1 entry.2) entries

def ofList (list : List (String × α)) : Entries α :=
  insertAll [] list

def get? (entries : Entries α) (key : String) : Option α :=
  (entries.find? (·.1 = key)).map (·.2)

def keys (entries : Entries α) : List String :=
  entries.map (·.1)

end Entries

def twoTo (bits : Nat) : Nat := Nat.pow 2 bits

def tenTo (digits : Nat) : Nat := Nat.pow 10 digits

/-- What is left of a number in a word of 16 bits. -/
def toWord (n : Nat) : Nat := n % 65536

/-- The sum of two words, where that is a word. -/
def addWords? (m n : Nat) : Option Nat := if m + n < 65536 then some (m + n) else none

theorem toWord_of_lt {n : Nat} (h : n < 65536) : toWord n = n := Nat.mod_eq_of_lt h

theorem addWords?_eq_some_iff {m n sum : Nat} :
    addWords? m n = some sum ↔ m + n = sum ∧ sum < 65536 := by
  rw [addWords?]
  split
  · next h =>
    rw [Option.some.injEq]
    exact ⟨fun heq ↦ ⟨heq, heq ▸ h⟩, And.left⟩
  · next h =>
    refine iff_of_false (Option.some_ne_none sum).symm ?_
    rintro ⟨rfl, hlt⟩
    exact h hlt

theorem addWords?_of_lt {m n : Nat} (h : m + n < 65536) : addWords? m n = some (m + n) := if_pos h

def total {α : Type} (measure : α → Nat) : List α → Nat
  | [] => 0
  | a :: rest => measure a + total measure rest

variable {α : Type} {measure : α → Nat}

@[simp]
theorem total_nil (measure : α → Nat) : total measure [] = 0 := rfl

@[simp]
theorem total_cons (measure : α → Nat) (x : α) (xs : List α) :
    total measure (x :: xs) = measure x + total measure xs := rfl

@[simp]
theorem total_append (measure : α → Nat) (xs ys : List α) :
    total measure (xs ++ ys) = total measure xs + total measure ys := by
  induction xs with
  | nil => exact (Nat.zero_add _).symm
  | cons x xs ih => rw [List.cons_append, total_cons, total_cons, ih, Nat.add_assoc]

theorem total_map {β : Type} (measure : α → Nat) (f : β → α) (xs : List β) :
    total measure (xs.map f) = total (fun x ↦ measure (f x)) xs := by
  induction xs with
  | nil => rfl
  | cons x xs ih => rw [List.map_cons, total_cons, total_cons, ih]

theorem total_le_total {measure' : α → Nat} {xs : List α} (h : ∀ x ∈ xs, measure x ≤ measure' x) :
    total measure xs ≤ total measure' xs := by
  induction xs with
  | nil => exact Nat.le_refl 0
  | cons x xs ih =>
    obtain ⟨hx, hxs⟩ := List.forall_mem_cons.1 h
    exact Nat.add_le_add hx (ih hxs)

theorem length_le_total {xs : List α} (h : ∀ x ∈ xs, 1 ≤ measure x) : xs.length ≤ total measure xs := by
  induction xs with
  | nil => exact Nat.le_refl 0
  | cons x xs ih =>
    obtain ⟨hx, hxs⟩ := List.forall_mem_cons.1 h
    have hrest := ih hxs
    rw [List.length_cons, total_cons]
    omega

theorem total_le_length_iff {xs : List α} (h : ∀ x ∈ xs, 1 ≤ measure x) :
    total measure xs ≤ xs.length ↔ ∀ x ∈ xs, measure x = 1 := by
  induction xs with
  | nil => simp
  | cons x xs ih =>
    obtain ⟨hx, hxs⟩ := List.forall_mem_cons.1 h
    have hrest := length_le_total hxs
    rw [List.forall_mem_cons, total_cons, List.length_cons]
    refine ⟨fun hle ↦ ⟨by omega, (ih hxs).1 (by omega)⟩, fun ⟨hone, hall⟩ ↦ ?_⟩
    have hle := (ih hxs).2 hall
    omega

theorem total_le_of_sublist {xs ys : List α} (h : xs.Sublist ys) :
    total measure xs ≤ total measure ys := by
  induction h with
  | slnil => exact Nat.le_refl 0
  | cons y _ ih => exact Nat.le_trans ih (Nat.le_add_left _ _)
  | cons_cons x _ ih => exact Nat.add_le_add_left ih _

theorem length_flatMap_eq_total {β : Type} (f : α → List β) (xs : List α) :
    (xs.flatMap f).length = total (fun x ↦ (f x).length) xs := by
  induction xs with
  | nil => rfl
  | cons x xs ih => rw [List.flatMap_cons, List.length_append, ih, total_cons]

end SuggestionReview
