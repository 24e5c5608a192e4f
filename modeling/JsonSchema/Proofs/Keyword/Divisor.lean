import JsonSchema.Proofs.Keyword.Multiples

set_option autoImplicit false

namespace JsonSchema

def absWord (a : Int) : UInt64 :=
  if 0 ≤ a then .ofNat a.toNat else (Int64.ofInt a).abs.toUInt64

section Words

variable {a n d : Int}

theorem toNat_abs_ofInt (negative : a < 0) (fits : Fits64 a) :
    (Int64.ofInt a).abs.toUInt64.toNat = a.natAbs := by
  have bits : (Int64.ofInt a).abs.toUInt64.toNat = (BitVec.ofInt 64 a).abs.toNat := rfl
  have wrapped : (BitVec.ofInt 64 a).toNat = (a + 18446744073709551616).toNat := by
    rw [BitVec.toNat_ofInt]
    omega
  have sign : (BitVec.ofInt 64 a).msb = true := by
    rw [BitVec.msb_eq_decide, wrapped, decide_eq_true_eq]
    omega
  rw [bits, BitVec.toNat_abs, if_pos sign, wrapped]
  omega

theorem toNat_absWord (fits : Fits64 a) : (absWord a).toNat = a.natAbs := by
  rw [absWord]
  split
  next above =>
    rw [UInt64.toNat_ofNat']
    omega
  next below => exact toNat_abs_ofInt (Int.not_le.1 below) fits

theorem absWord_eq_zero_iff (fits : Fits64 a) : absWord a = 0 ↔ a = 0 := by
  rw [← UInt64.toNat_inj, toNat_absWord fits, UInt64.toNat_zero, Int.natAbs_eq_zero]

theorem toNat_absWord_mod (fits : Fits64 n) (fits' : Fits64 d) :
    (absWord n % absWord d).toNat = n.natAbs % d.natAbs := by
  rw [UInt64.toNat_mod, toNat_absWord fits, toNat_absWord fits']

end Words

namespace Number

variable {n d : Int} (fits : Fits64 n) (fits' : Fits64 d)

theorem isMultiple_integer_iff :
    (Number.integer n fits).isMultiple (.integer d fits') = true ↔ d ∣ n :=
  (isMultiple_iff _ _).trans (multiple_iff_dvd rfl rfl)

theorem isMultiple_eq_words :
    (Number.integer n fits).isMultiple (.integer d fits') = (absWord n % absWord d == 0) := by
  rw [Bool.eq_iff_iff, isMultiple_integer_iff, beq_iff_eq, ← UInt64.toNat_inj,
    toNat_absWord_mod fits fits', UInt64.toNat_zero, ← Nat.dvd_iff_mod_eq_zero, Int.natAbs_dvd_natAbs]

theorem value_integer_pos_iff : 0 < (Number.integer d fits').value ↔ 0 < d := by
  rw [value, Int.cast_pos]

end Number

structure DividesInWords (n d : Int) : Prop where
  dividend : (absWord n).toNat = n.natAbs
  divisor : (absWord d).toNat = d.toNat
  nonzero : absWord d ≠ 0
  remainder : (absWord n % absWord d).toNat = n.natAbs % d.toNat

theorem dividesInWords {n d : Int} (fits : Fits64 n) (fits' : Fits64 d) (positive : 0 < d) :
    DividesInWords n d := by
  have natural : d.natAbs = d.toNat := by omega
  exact {
    dividend := toNat_absWord fits
    divisor := (toNat_absWord fits').trans natural
    nonzero := fun zero => (Int.ne_of_gt positive) ((absWord_eq_zero_iff fits').1 zero)
    remainder := natural ▸ toNat_absWord_mod fits fits' }

def notMultipleText (n d : Int) : String :=
  "number " ++ toString n ++ " is not a multiple of " ++ toString d

namespace ValueRules

theorem divisorMessages_integer {n d : Int} (fits : Fits64 n) (fits' : Fits64 d) :
    divisorMessages (.integer n fits) (some (.integer d fits')) =
      if d ∣ n then [] else [notMultipleText n d] := by
  have multiple := Number.isMultiple_integer_iff fits fits'
  rw [divisorMessages, messageIf]
  by_cases divides : d ∣ n
  · rw [multiple.2 divides, if_pos divides]
    rfl
  · rw [eq_false_of_ne_true (mt multiple.1 divides), if_neg divides]
    rfl

end ValueRules

section

variable [PatternEngine]

theorem Keyword.areRules_divisorSchema {d : Number} (positive : 0 < d.units) :
    AreRules (Json.divisorSchema d)
      ⟨none, none, some d, none, none, none, none, none, false⟩ where
  minimum := ⟨none, false, .none, .inr ⟨rfl, rfl⟩, rfl⟩
  maximum := ⟨none, false, .none, .inr ⟨rfl, rfl⟩, rfl⟩
  divisor := .some ⟨rfl, positive⟩
  minLength := .none
  maxLength := .none
  pattern := .none
  minItems := .none
  maxItems := .none
  uniqueItems := .inr ⟨rfl, rfl⟩

namespace Schema

open Json (divisorSchema)

theorem compiles_divisorSchema {d : Number} (positive : 0 < d.units) :
    Compiles (divisorSchema d) {
      raw := divisorSchema d
      allowed := .all
      named := .all
      enumeration := none
      alternatives := []
      rules := ⟨none, none, some d, none, none, none, none, none, false⟩
      items := .any
      additionalItems := .allowed
      required := false
      properties := []
      additionalProperties := .allowed } :=
  compiles_iff.2 ⟨.universal, .nothing, {
    object := rfl
    source := rfl
    type := .absent rfl
    disallow := .absent rfl
    nonempty := rfl
    allowed := (TypeSet.without_empty _).symm
    named := (TypeSet.without_empty _).symm
    alternatives := rfl
    enumeration := .none
    rules := Keyword.areRules_divisorSchema positive
    items := .any rfl
    additionalItems := .allowed (.inl rfl)
    required := .inr ⟨rfl, rfl⟩
    properties := .absent rfl
    additionalProperties := .allowed (.inl rfl) }⟩

theorem findings_divisorSchema {n d : Number} (positive : 0 < d.units) {o : Options}
    (structural : o.structural = true) :
    findings o (divisorSchema d) (.number n) =
      (ValueRules.divisorMessages n (some d)).map (⟨.keyword, .root, ·⟩) := by
  have compiled := compiles_divisorSchema positive
  have shallow : ¬o.maxDepth < Pointer.root.depth := Nat.not_lt_zero _
  rw [compiled.findings_eq, visit_eq, if_neg shallow, typePasses, ownDiagnostics, structural]
  simp [inner, messages, ValueRules.numberMessages, ValueRules.minimumMessages,
    ValueRules.maximumMessages]

structure DividesExactly (rules : ValueRules) : Prop where
  positive : ∀ d, rules.divisor = some d → 0 < d.value
  words : ∀ d fits', rules.divisor = some (.integer d fits') → ∀ n fits,
    DividesInWords n d ∧
      (Number.integer n fits).isMultiple (.integer d fits') = (absWord n % absWord d == 0)
  messages : ∀ d fits', rules.divisor = some (.integer d fits') → ∀ n fits,
    ValueRules.divisorMessages (.integer n fits) rules.divisor =
      if d ∣ n then [] else [notMultipleText n d]

theorem Compiles.dividesExactly {raw : Json} {s : Schema} (compiled : Compiles raw s) :
    DividesExactly s.rules where
  positive d divisor := d.value_pos_iff.2 (compiled.divisor_pos divisor)
  words d fits' divisor n fits := by
    have positive := (Number.value_pos_iff _).2 (compiled.divisor_pos divisor)
    have positive := (Number.value_integer_pos_iff fits').1 positive
    exact ⟨dividesInWords fits fits' positive, Number.isMultiple_eq_words fits fits'⟩
  messages d fits' divisor n fits := by
    rw [divisor, ValueRules.divisorMessages_integer]

/-- Divisibility of integers is exact. No schema in a compiled tree holds a divisor that is not
positive, and a document with an integer for a divisor reports the integers that it does not divide,
all of them and no others. The words that hold the two are wide enough for the division. -/
theorem divides_exactly :
    (∀ raw root s, (Node.compile raw).schema? = some root → Reachable root s →
      DividesExactly s.rules) ∧
    ∀ (n d : Int) (fits : Fits64 n) (fits' : Fits64 d), 0 < d →
      ∀ o : Options, o.structural = true →
        findings o (divisorSchema (.integer d fits')) (.number (.integer n fits)) =
          if d ∣ n then [] else [⟨.keyword, .root, notMultipleText n d⟩] := by
  constructor
  · intro raw root s found reached
    exact ((compiles_of_schema? found).reachable reached).dividesExactly
  · intro n d fits fits' positive o structural
    have units := (Number.value_pos_iff _).1 ((Number.value_integer_pos_iff fits').2 positive)
    rw [findings_divisorSchema units structural, ValueRules.divisorMessages_integer]
    split
    · rfl
    · rfl

end Schema

end

namespace Schema

open Json (divisorSchema)

def leastInteger : Int := -9223372036854775808

def greatestInteger : Int := 18446744073709551615

-- The absolute value of the least integer is a power of two, the greatest one is odd.
set_option maxRecDepth 4000 in
theorem divides_exactly_limits :
    (∃ root s d, (Node.compile (.object [("items", divisorSchema three)])).schema? = some root ∧
      Reachable root s ∧ s.rules.divisor = some d ∧ 0 < d.value) ∧
    findings .default (divisorSchema (.integer 4 (by decide)))
      (.number (.integer leastInteger (by decide))) = [] ∧
    findings .default (divisorSchema (.integer 4 (by decide)))
      (.number (.integer greatestInteger (by decide))) =
        [⟨.keyword, .root, notMultipleText greatestInteger 4⟩] ∧
    findings .default (divisorSchema (.integer greatestInteger (by decide)))
      (.number (.integer greatestInteger (by decide))) = [] := by
  obtain ⟨everywhere, integers⟩ := divides_exactly
  obtain ⟨root, s, found, child, divisor⟩ : ∃ root s,
      (Node.compile (.object [("items", divisorSchema three)])).schema? = some root ∧
        Child root .items s ∧ s.rules.divisor = some three :=
    ⟨_, _, rfl, .items rfl, rfl⟩
  have reached : Reachable root s := .child .root child
  refine ⟨⟨root, s, three, found, reached, divisor, ?_⟩, ?_, ?_, ?_⟩
  · exact (everywhere _ root s found reached).positive three divisor
  · rw [integers leastInteger 4 _ _ (by decide) _ rfl, if_pos (by decide)]
  · rw [integers greatestInteger 4 _ _ (by decide) _ rfl, if_neg (by decide)]
  · rw [integers greatestInteger greatestInteger _ _ (by decide) _ rfl, if_pos (Int.dvd_refl _)]

end Schema

end JsonSchema
