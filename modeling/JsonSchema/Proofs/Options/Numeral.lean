import JsonSchema.Options
import Mathlib.Data.List.Induction
import Mathlib.Data.Nat.Digits.Defs

set_option autoImplicit false

namespace JsonSchema.Options

def digitValue (c : Char) : Nat := c.toNat - '0'.toNat

def rowValue (row : List Char) : Nat := Nat.ofDigits 10 (row.reverse.map digitValue)

structure Numeral (row : List Char) (n : Nat) : Prop where
  nonempty : row ≠ []
  digits : ∀ c ∈ row, c.isDigit = true
  value : n = rowValue row

section Rows

variable {row : List Char} {c : Char} {n : Nat}

@[simp] theorem rowValue_nil : rowValue [] = 0 := rfl

@[simp] theorem rowValue_concat (row : List Char) (c : Char) :
    rowValue (row ++ [c]) = rowValue row * 10 + digitValue c := by
  simp [rowValue, Nat.ofDigits_cons]
  omega

theorem foldl_eq_rowValue (row : List Char) :
    row.foldl (fun n c => n * 10 + (c.toNat - '0'.toNat)) 0 = rowValue row := by
  induction row using List.reverseRecOn with
  | nil => rfl
  | append_singleton row c ih =>
    simp only [List.foldl_append, ih, List.foldl_cons, List.foldl_nil, rowValue_concat, digitValue]

theorem readDigits?_eq_some_iff : readDigits? row = some n ↔ Numeral row n := by
  have ascii : row.all (fun c => '0' ≤ c && c ≤ '9') = true ↔ ∀ c ∈ row, c.isDigit = true := by
    simp [Char.isDigit_iff_toNat, Char.le_def, UInt32.le_iff_toNat_le]
  rw [readDigits?, foldl_eq_rowValue, Option.ite_none_right_eq_some, ascii]
  constructor
  · intro read
    obtain ⟨⟨nonempty, digits⟩, value⟩ := read
    exact ⟨nonempty, digits, (Option.some.inj value).symm⟩
  · intro numeral
    exact ⟨⟨numeral.nonempty, numeral.digits⟩, congrArg some numeral.value.symm⟩

theorem rowValue_eq_ofDigitChars (row : List Char) : rowValue row = Nat.ofDigitChars 10 row 0 := by
  rw [← foldl_eq_rowValue, Nat.ofDigitChars_eq_foldl]
  simp only [Nat.mul_comm]

theorem numeral_decimal (zeros n : Nat) :
    Numeral (List.replicate zeros '0' ++ (toString n).toList) n := by
  have text : (toString n).toList = Nat.toDigits 10 n := by
    rw [Nat.toString_eq_ofList_toDigits, String.toList_ofList]
  rw [text]
  constructor
  case nonempty => simp [Nat.toDigits_ne_nil]
  case digits =>
    intro c member
    rcases List.mem_append.1 member with zero | digit
    · rw [List.eq_of_mem_replicate zero]
      rfl
    · exact Nat.isDigit_of_mem_toDigits (by omega) (by omega) digit
  case value =>
    rw [rowValue_eq_ofDigitChars, Nat.ofDigitChars_append, Nat.ofDigitChars_replicate_zero,
      Nat.mul_zero, Nat.ofDigitChars_ten_toDigits]

end Rows

def word? (n : Nat) : Option UInt64 :=
  if n < UInt64.size then some (.ofNat n) else none

def pushDigit? (n : UInt64) (c : Char) : Option UInt64 :=
  if c.isDigit then
    (word? (n.toNat * 10)).bind fun tens => word? (tens.toNat + digitValue c)
  else none

def readWord? (row : List Char) : Option UInt64 :=
  if row = [] then none else row.foldlM pushDigit? 0

section Words

theorem exists_toNat_eq (n : Nat) (fits : n < UInt64.size) : ∃ w : UInt64, w.toNat = n :=
  ⟨.ofNat n, UInt64.toNat_ofNat_of_lt' fits⟩

variable {n w : UInt64} {c : Char} {row : List Char}

@[simp] theorem word?_eq_some_iff {n : Nat} : word? n = some w ↔ w.toNat = n := by
  have bound : w.toNat < UInt64.size := w.toNat_lt
  rw [word?, Option.ite_none_right_eq_some, Option.some_inj, ← UInt64.toNat_inj, UInt64.toNat_ofNat']
  constructor
  · intro held
    rw [← held.2, Nat.mod_eq_of_lt held.1]
  · intro held
    rw [← held]
    exact ⟨bound, Nat.mod_eq_of_lt bound⟩

-- Where the sum fits, so do the tens.
theorem pushDigit?_eq_some_iff :
    pushDigit? n c = some w ↔ c.isDigit = true ∧ w.toNat = n.toNat * 10 + digitValue c := by
  have bound : w.toNat < UInt64.size := w.toNat_lt
  simp only [pushDigit?, Option.ite_none_right_eq_some, Option.bind_eq_some_iff, word?_eq_some_iff]
  refine and_congr_right fun _ => ⟨?_, fun sum => ?_⟩
  · rintro ⟨tens, product, sum⟩
    rw [sum, product]
  · obtain ⟨tens, product⟩ := exists_toNat_eq (n.toNat * 10) (by omega)
    exact ⟨tens, product, by rw [product, sum]⟩

-- By induction on the last digit. The number in front of it is never greater than the whole, so no
-- step overflows on the way to a number that fits.
theorem foldlM_pushDigit?_eq_some_iff :
    row.foldlM pushDigit? 0 = some w ↔ (∀ c ∈ row, c.isDigit = true) ∧ w.toNat = rowValue row := by
  induction row using List.reverseRecOn generalizing w with
  | nil => simpa [← UInt64.toNat_inj] using eq_comm
  | append_singleton row c ih =>
    have bound : w.toNat < UInt64.size := w.toNat_lt
    have last : (row ++ [c]).foldlM pushDigit? 0 =
        (row.foldlM pushDigit? 0).bind fun n => pushDigit? n c := by
      rw [List.foldlM_append]
      exact congrArg _ (funext fun n => bind_pure _)
    simp only [last, Option.bind_eq_some_iff, ih, pushDigit?_eq_some_iff, rowValue_concat,
      List.forall_mem_append, List.forall_mem_singleton]
    constructor
    · rintro ⟨front, ⟨digits, value⟩, digit, sum⟩
      exact ⟨⟨digits, digit⟩, by rw [sum, value]⟩
    · rintro ⟨⟨digits, digit⟩, sum⟩
      obtain ⟨front, value⟩ := exists_toNat_eq (rowValue row) (by omega)
      exact ⟨front, ⟨digits, value⟩, digit, by rw [value, sum]⟩

theorem readWord?_eq_some_iff : readWord? row = some w ↔ Numeral row w.toNat := by
  rw [readWord?, Option.ite_none_left_eq_some, foldlM_pushDigit?_eq_some_iff]
  constructor
  · rintro ⟨nonempty, digits, value⟩
    exact ⟨nonempty, digits, value⟩
  · rintro ⟨nonempty, digits, value⟩
    exact ⟨nonempty, digits, value⟩

end Words

end JsonSchema.Options
