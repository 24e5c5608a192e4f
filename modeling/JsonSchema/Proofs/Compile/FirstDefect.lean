import JsonSchema.SchemaError
import Mathlib.Tactic.Push

set_option autoImplicit false

namespace JsonSchema

section First

variable {α : Type} {defect : α → SchemaError → Prop} {a b : α} {row row' : List α}
  {cause : SchemaError}

def First (defect : α → SchemaError → Prop) (row : List α) (cause : SchemaError) : Prop :=
  ∃ i a, row[i]? = some a ∧ defect a cause ∧
    ∀ (j : Nat) (b : α), j < i → row[j]? = some b → ∀ other, ¬defect b other

theorem not_first_nil : ¬First defect [] cause := by
  intro first
  obtain ⟨i, a, found, _⟩ := first
  cases found

theorem first_cons_iff : First defect (a :: row) cause ↔
    defect a cause ∨ (∀ other, ¬defect a other) ∧ First defect row cause := by
  constructor
  · intro first
    obtain ⟨i, b, found, bad, before⟩ := first
    cases i with
    | zero =>
      cases found
      exact .inl bad
    | succ i =>
      refine .inr ⟨before 0 a (Nat.succ_pos i) rfl, i, b, found, bad, fun j c less element => ?_⟩
      exact before (j + 1) c (Nat.succ_lt_succ less) element
  · intro first
    rcases first with bad | ⟨sound, i, b, found, bad, before⟩
    · exact ⟨0, a, rfl, bad, fun j c less => absurd less (Nat.not_lt_zero j)⟩
    · refine ⟨i + 1, b, found, bad, fun j c less element => ?_⟩
      cases j with
      | zero =>
        cases element
        exact sound
      | succ j => exact before j c (Nat.lt_of_succ_lt_succ less) element

theorem first_cons_of_sound (sound : ∀ other, ¬defect a other) :
    First defect (a :: row) cause ↔ First defect row cause := by
  simp [first_cons_iff, sound]

theorem first_append_iff : First defect (row ++ row') cause ↔
    First defect row cause ∨ (∀ a ∈ row, ∀ other, ¬defect a other) ∧ First defect row' cause := by
  induction row with
  | nil => simp [not_first_nil]
  | cons head rest ih =>
    rw [List.cons_append, first_cons_iff, first_cons_iff, ih, List.forall_mem_cons]
    rw [or_assoc, and_or_left, and_assoc]

theorem first_erase (sound : ∀ other, ¬defect a other) :
    First defect (row ++ a :: row') cause ↔ First defect (row ++ row') cause := by
  rw [first_append_iff, first_append_iff, first_cons_of_sound sound]

theorem first_swap (apart : (∀ other, ¬defect a other) ∨ ∀ other, ¬defect b other) :
    First defect (a :: b :: row) cause ↔ First defect (b :: a :: row) cause := by
  rcases apart with sound | sound
  · rw [first_cons_of_sound sound, first_cons_iff, first_cons_iff, first_cons_of_sound sound]
  · rw [first_cons_iff, first_cons_of_sound sound, first_cons_of_sound sound, first_cons_iff]

theorem First.exists_mem (first : First defect row cause) : ∃ a ∈ row, defect a cause := by
  obtain ⟨i, a, found, bad, _⟩ := first
  exact ⟨a, List.mem_of_getElem? found, bad⟩

theorem exists_first_iff : (∃ cause, First defect row cause) ↔ ∃ a ∈ row, ∃ cause, defect a cause := by
  constructor
  · intro first
    obtain ⟨cause, first⟩ := first
    obtain ⟨a, member, bad⟩ := first.exists_mem
    exact ⟨a, member, cause, bad⟩
  · intro bad
    induction row with
    | nil =>
      obtain ⟨a, member, _⟩ := bad
      cases member
    | cons head rest ih =>
      by_cases here : ∃ cause, defect head cause
      · obtain ⟨cause, here⟩ := here
        exact ⟨cause, first_cons_iff.2 (.inl here)⟩
      · obtain ⟨a, member, bad⟩ := bad
        rcases List.mem_cons.1 member with rfl | later
        · exact absurd bad here
        · obtain ⟨cause, first⟩ := ih ⟨a, later, bad⟩
          exact ⟨cause, first_cons_iff.2 (.inr ⟨not_exists.1 here, first⟩)⟩

theorem exists_first_or_sound (defect : α → SchemaError → Prop) (row : List α) :
    (∃ cause, First defect row cause) ∨ ∀ a ∈ row, ∀ cause, ¬defect a cause := by
  by_cases bad : ∃ a ∈ row, ∃ cause, defect a cause
  · exact .inl (exists_first_iff.2 bad)
  · push Not at bad
    exact .inr bad

end First

section StopsAt

variable {α β γ : Type} {defect : α → SchemaError → Prop} {a : α} {row row' : List α}

def StopsAt (defect : α → SchemaError → Prop) (row : List α) (x : Except SchemaError β) : Prop :=
  ∀ cause, x = .error cause ↔ First defect row cause

theorem stopsAt_ok (b : β) : StopsAt defect [] (.ok b : Except SchemaError β) := by
  intro cause
  simp only [not_first_nil, reduceCtorEq]

theorem StopsAt.exists_ok_iff {x : Except SchemaError β} (stops : StopsAt defect row x) :
    (∃ b, x = .ok b) ↔ ∀ a ∈ row, ∀ cause, ¬defect a cause := by
  have bad : (∃ cause, x = .error cause) ↔ ∃ a ∈ row, ∃ cause, defect a cause := by
    rw [← exists_first_iff]
    exact exists_congr stops
  cases x with
  | ok b => simpa using bad
  | error e => simpa using bad

theorem StopsAt.after {x : Except SchemaError β} {f : β → Except SchemaError γ} {b : β}
    (passes : x = .ok b) (next : StopsAt defect row (f b)) : StopsAt defect row (x >>= f) := by
  rw [passes]
  exact next

theorem StopsAt.append {x : Except SchemaError β} {f : β → Except SchemaError γ}
    (first : StopsAt defect row x) (next : ∀ b, StopsAt defect row' (f b)) :
    StopsAt defect (row ++ row') (x >>= f) := by
  intro cause
  rw [first_append_iff, ← first cause]
  have passes := first.exists_ok_iff
  cases x with
  | error e => simp [bind, Except.bind, ← passes]
  | ok b => simpa [bind, Except.bind, ← passes] using next b cause

theorem stopsAt_singleton {x : Except SchemaError β}
    (check : ∀ cause, x = .error cause ↔ defect a cause) : StopsAt defect [a] x := by
  intro cause
  simp only [check cause, first_cons_iff, not_first_nil, and_false, or_false]

theorem StopsAt.cons {x : Except SchemaError β} {f : β → Except SchemaError γ}
    (head : ∀ cause, x = .error cause ↔ defect a cause) (tail : ∀ b, StopsAt defect row (f b)) :
    StopsAt defect (a :: row) (x >>= f) :=
  (stopsAt_singleton head).append tail

theorem StopsAt.bind_pure {x : Except SchemaError β} {f : β → γ} (stops : StopsAt defect row x) :
    StopsAt defect row (x >>= fun b => pure (f b)) := by
  intro cause
  rw [← stops cause]
  cases x <;> simp [bind, Except.bind, pure, Except.pure]

theorem stopsAt_mapM {f : α → Except SchemaError β}
    (check : ∀ a ∈ row, ∀ cause, f a = .error cause ↔ defect a cause) :
    StopsAt defect row (row.mapM f) := by
  induction row with
  | nil => exact stopsAt_ok []
  | cons head rest ih =>
    obtain ⟨here, later⟩ := List.forall_mem_cons.1 check
    rw [List.mapM_cons]
    exact .cons here fun b => (ih later).bind_pure

end StopsAt

end JsonSchema
