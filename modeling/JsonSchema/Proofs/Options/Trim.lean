import JsonSchema.Text.Blank
import Mathlib.Data.List.DropRight

set_option autoImplicit false

namespace JsonSchema.Text

def whiteSpace : List Char := [
  '\t', '\n', '\x0b', '\x0c', '\r', ' ', '\u0085', '\u00a0', '\u1680', '\u2000', '\u2001', '\u2002',
  '\u2003', '\u2004', '\u2005', '\u2006', '\u2007', '\u2008', '\u2009', '\u200a', '\u2028', '\u2029',
  '\u202f', '\u205f', '\u3000']

@[simp] theorem isBlank_iff {c : Char} : isBlank c = true ↔ c ∈ whiteSpace := by
  have codes : c ∈ whiteSpace ↔ c.toNat ∈ whiteSpace.map Char.toNat :=
    (List.mem_map_of_injective fun _ _ => Char.toNat_inj.1).symm
  rw [codes]
  simp [isBlank, whiteSpace]
  omega

structure Trims (text word : List Char) : Prop where
  around : ∃ left right, text = left ++ word ++ right ∧ left ⊆ whiteSpace ∧ right ⊆ whiteSpace
  head : ∀ c ∈ word.head?, c ∉ whiteSpace
  last : ∀ c ∈ word.getLast?, c ∉ whiteSpace

variable {left right text word : List Char}

theorem trim_eq_rdropWhile (text : List Char) :
    trim text = (text.dropWhile isBlank).rdropWhile isBlank := rfl

theorem trim_append_left (blank : left ⊆ whiteSpace) : trim (left ++ text) = trim text := by
  rw [trim, trim, List.dropWhile_append_of_pos fun c member => isBlank_iff.2 (blank member)]

theorem trim_append_right (blank : right ⊆ whiteSpace) : trim (text ++ right) = trim text := by
  have gone : right.dropWhile isBlank = [] :=
    List.dropWhile_eq_nil_iff.2 fun c member => isBlank_iff.2 (blank member)
  have gone' : ∀ c ∈ right.reverse, isBlank c = true := fun c member =>
    isBlank_iff.2 (blank (List.mem_reverse.1 member))
  rw [trim, trim, List.dropWhile_append]
  split
  next empty => simp [gone, List.isEmpty_iff.1 empty]
  next => rw [List.reverse_append, List.dropWhile_append_of_pos gone']

theorem trim_eq_self (head : ∀ c ∈ word.head?, c ∉ whiteSpace)
    (last : ∀ c ∈ word.getLast?, c ∉ whiteSpace) : trim word = word := by
  have front : word.dropWhile isBlank = word := by
    cases word with
    | nil => rfl
    | cons c rest => simpa using head c rfl
  rw [trim_eq_rdropWhile, front, List.rdropWhile_eq_self_iff]
  intro nonempty blank
  exact last _ (List.getLast?_eq_getLast_of_ne_nil nonempty) (isBlank_iff.1 blank)

theorem trims_trim (text : List Char) : Trims text (trim text) := by
  have front : text.takeWhile isBlank ++ text.dropWhile isBlank = text :=
    List.takeWhile_append_dropWhile
  have back : trim text ++ (text.dropWhile isBlank).rtakeWhile isBlank = text.dropWhile isBlank := by
    rw [trim, List.rtakeWhile, ← List.reverse_append, List.takeWhile_append_dropWhile,
      List.reverse_reverse]
  constructor
  case around =>
    refine ⟨text.takeWhile isBlank, (text.dropWhile isBlank).rtakeWhile isBlank, ?_, ?_, ?_⟩
    · rw [List.append_assoc, back, front]
    · exact fun c member => isBlank_iff.1 (List.mem_takeWhile_imp member)
    · exact fun c member => isBlank_iff.1 (List.mem_rtakeWhile_imp member)
  case head =>
    intro c first
    have first' : (text.dropWhile isBlank).head? = some c := by
      rw [← back, List.head?_append, Option.mem_def.1 first, Option.some_or]
    have stop := List.head?_dropWhile_not isBlank text
    rw [first'] at stop
    simp [← isBlank_iff, stop]
  case last =>
    intro c final
    have nonempty : trim text ≠ [] := by
      intro empty
      simp [empty] at final
    rw [List.getLast?_eq_getLast_of_ne_nil nonempty, Option.mem_some_iff] at final
    rw [← final, ← isBlank_iff]
    exact List.rdropWhile_last_not isBlank (text.dropWhile isBlank) nonempty

theorem trim_eq_iff : trim text = word ↔ Trims text word := by
  constructor
  · intro same
    exact same ▸ trims_trim text
  · intro trims
    obtain ⟨⟨left, right, rfl, blank, blank'⟩, head, last⟩ := trims
    rw [List.append_assoc, trim_append_left blank, trim_append_right blank', trim_eq_self head last]

end JsonSchema.Text
