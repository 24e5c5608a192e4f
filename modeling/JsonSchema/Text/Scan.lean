set_option autoImplicit false

namespace JsonSchema

structure Cursor where
  rest : List Char
  offset : Nat

namespace Cursor

def ofString (s : String) : Cursor := ⟨s.toList, 0⟩

def skipWhile (p : Char → Bool) : List Char → Nat → Cursor
  | [], offset => ⟨[], offset⟩
  | c :: rest, offset => if p c then skipWhile p rest (offset + 1) else ⟨c :: rest, offset⟩

theorem length_skipWhile_le (p : Char → Bool) (rest : List Char) (offset : Nat) :
    (skipWhile p rest offset).rest.length ≤ rest.length := by
  induction rest generalizing offset with
  | nil => simp [skipWhile]
  | cons c rest ih =>
    simp only [skipWhile]
    split
    · exact Nat.le_succ_of_le (ih _)
    · exact Nat.le_refl _

end Cursor

abbrev Ahead (bound : Nat) : Type := { d : Cursor // d.rest.length ≤ bound }

/-- A reader: it fails, or it returns a value and a place that does not lie further back. -/
def Scan (ε α : Type) : Type :=
  (c : Cursor) → Except ε (α × Ahead c.rest.length)

namespace Scan

variable {ε α β σ : Type}

protected def pure (a : α) : Scan ε α := fun c => .ok (a, ⟨c, Nat.le_refl _⟩)

protected def bind (scan : Scan ε α) (f : α → Scan ε β) : Scan ε β := fun c =>
  match scan c with
  | .error e => .error e
  | .ok (a, ⟨d, hd⟩) =>
    match f a d with
    | .error e => .error e
    | .ok (b, ⟨e, he⟩) => .ok (b, ⟨e, Nat.le_trans he hd⟩)

instance : Monad (Scan ε) where
  pure := Scan.pure
  bind := Scan.bind

def run (scan : Scan ε α) (text : String) : Except ε α :=
  match scan (.ofString text) with
  | .error e => .error e
  | .ok (a, _) => .ok a

def fail (e : ε) : Scan ε α := fun _ => .error e

def offset : Scan ε Nat := fun c => .ok (c.offset, ⟨c, Nat.le_refl _⟩)

def rest : Scan ε (List Char) := fun c => .ok (c.rest, ⟨c, Nat.le_refl _⟩)

def peek? : Scan ε (Option Char) := fun c => .ok (c.rest.head?, ⟨c, Nat.le_refl _⟩)

def next? : Scan ε (Option Char) := fun c =>
  match h : c.rest with
  | [] => .ok (none, ⟨c, Nat.le_of_eq (by rw [h])⟩)
  | x :: rest => .ok (some x, ⟨⟨rest, c.offset + 1⟩, Nat.le_succ _⟩)

def skip : Scan ε Unit := do
  let _ ← next?

def takeWhile (p : Char → Bool) : Scan ε (List Char) := fun c =>
  .ok (c.rest.takeWhile p,
    ⟨.skipWhile p c.rest c.offset, Cursor.length_skipWhile_le p c.rest c.offset⟩)

def skipIf (x : Char) : Scan ε Bool := do
  if (← peek?) == some x then
    skip
    return true
  else return false

def skipWord (word : String) : Scan ε Bool := fun c =>
  if word.toList.isPrefixOf c.rest then
    .ok (true, ⟨⟨c.rest.drop word.length, c.offset + word.length⟩, by simp⟩)
  else .ok (false, ⟨c, Nat.le_refl _⟩)

def attempt (scan : Scan ε (Option α)) : Scan ε (Option α) := fun c =>
  match scan c with
  | .error e => .error e
  | .ok (none, _) => .ok (none, ⟨c, Nat.le_refl _⟩)
  | .ok (some a, d) => .ok (some a, d)

def lookAhead (scan : Scan ε α) : Scan ε α := fun c =>
  match scan c with
  | .error e => .error e
  | .ok (a, _) => .ok (a, ⟨c, Nat.le_refl _⟩)

def loopFrom (finish : σ → Scan ε α) (step : σ → Char → Scan ε (σ ⊕ α)) (bound : Nat)
    (state : σ) (c : Cursor) (h : c.rest.length ≤ bound) : Except ε (α × Ahead bound) :=
  match hc : c.rest with
  | [] =>
    match finish state c with
    | .error e => .error e
    | .ok (a, ⟨d, hd⟩) => .ok (a, ⟨d, Nat.le_trans hd h⟩)
  | x :: rest =>
    match step state x ⟨rest, c.offset + 1⟩ with
    | .error e => .error e
    | .ok (.inr a, ⟨d, hd⟩) => .ok (a, ⟨d, by simp_all; omega⟩)
    | .ok (.inl state, ⟨d, hd⟩) => loopFrom finish step bound state d (by simp_all; omega)
termination_by c.rest.length
decreasing_by rw [hc]; exact Nat.lt_succ_of_le hd

def loop (finish : σ → Scan ε α) (step : σ → Char → Scan ε (σ ⊕ α)) (state : σ) : Scan ε α :=
  fun c => loopFrom finish step c.rest.length state c (Nat.le_refl _)

def manyFrom (p : Char → Bool) (item : Char → Scan ε α) (bound : Nat) (items : List α)
    (c : Cursor) (h : c.rest.length ≤ bound) : Except ε (List α × Ahead bound) :=
  match hc : c.rest with
  | [] => .ok (items.reverse, ⟨c, h⟩)
  | x :: rest =>
    if p x then
      match item x ⟨rest, c.offset + 1⟩ with
      | .error e => .error e
      | .ok (a, ⟨d, hd⟩) => manyFrom p item bound (a :: items) d (by simp_all; omega)
    else .ok (items.reverse, ⟨c, h⟩)
termination_by c.rest.length
decreasing_by rw [hc]; exact Nat.lt_succ_of_le hd

def many (p : Char → Bool) (item : Char → Scan ε α) : Scan ε (List α) :=
  fun c => manyFrom p item c.rest.length [] c (Nat.le_refl _)

def takeEach (p : Char → Bool) (after : Char → Scan ε Unit) : Scan ε (List Char) :=
  many p fun c => do
    after c
    return c

end Scan

end JsonSchema
