import JsonSchema.Proofs.Keyword.Reading
import JsonSchema.Proofs.Options.Numeral
import JsonSchema.Proofs.Options.Trim

set_option autoImplicit false

namespace JsonSchema.Options

open Text (Trims trim_eq_iff whiteSpace)

inductive FlagWord : List Char → Bool → Prop where
  | on : FlagWord "true".toList true
  | one : FlagWord "1".toList true
  | off : FlagWord "false".toList false
  | zero : FlagWord "0".toList false

inductive CountWord : List Char → Nat → Prop where
  | plain {row : List Char} {n : Nat} : Numeral row n → CountWord row n
  | signed {row : List Char} {n : Nat} : Numeral row n → CountWord ('+' :: row) n

def DepthWord (word : List Char) (n : Nat) : Prop :=
  CountWord word n ∧ 0 < n ∧ n < UInt64.size

section Texts

variable {α : Type} {grammar : List Char → α → Prop}

def Denotes (grammar : List Char → α → Prop) (text : String) (a : α) : Prop :=
  ∃ word, Trims text.toList word ∧ grammar word a

theorem denotes_iff {text : String} {a : α} :
    Denotes grammar text a ↔ grammar (Text.trim text.toList) a := by
  simp only [Denotes, ← trim_eq_iff, exists_eq_left']

theorem readFlag?_eq_some_iff {text : String} {b : Bool} :
    readFlag? text = some b ↔ Denotes FlagWord text b := by
  rw [denotes_iff, readFlag?]
  generalize Text.trim text.toList = word
  constructor
  · intro read
    split_ifs at read with accepted refused
    · cases read
      rcases accepted with rfl | rfl
      · exact .on
      · exact .one
    · cases read
      rcases refused with rfl | rfl
      · exact .off
      · exact .zero
  · intro denoted
    cases denoted with
    | on | one | off | zero => rfl

def unsigned (word : List Char) : List Char := if word.head? = some '+' then word.drop 1 else word

theorem numeral_unsigned_iff {word : List Char} {n : Nat} :
    Numeral (unsigned word) n ↔ CountWord word n := by
  constructor
  · intro numeral
    rw [unsigned] at numeral
    split at numeral
    next plus =>
      obtain ⟨row, rfl⟩ := List.head?_eq_some_iff.1 plus
      exact .signed numeral
    next => exact .plain numeral
  · intro count
    cases count with
    | plain numeral =>
      -- A sign is no digit, so a row of digits has none.
      have bare : word.head? ≠ some '+' := fun plus =>
        absurd (numeral.digits _ (List.mem_of_mem_head? plus)) (by decide)
      rwa [unsigned, if_neg bare]
    | signed numeral => exact numeral

theorem readDepth?_eq_some_iff {text : String} {n : Nat} :
    readDepth? text = some n ↔ Denotes DepthWord text n := by
  have read : readDepth? text =
      (readDigits? (unsigned (Text.trim text.toList))).filter fun n => 0 < n && n < UInt64.size := rfl
  simp only [read, Option.filter_eq_some_iff, readDigits?_eq_some_iff, numeral_unsigned_iff,
    denotes_iff, DepthWord, Bool.and_eq_true, decide_eq_true_eq]

theorem readDepth?_eq_words (text : String) :
    readDepth? text =
      ((readWord? (unsigned (Text.trim text.toList))).filter (0 < ·)).map UInt64.toNat := by
  ext n
  simp only [readDepth?_eq_some_iff, denotes_iff, DepthWord, ← numeral_unsigned_iff,
    Option.map_eq_some_iff, Option.filter_eq_some_iff, readWord?_eq_some_iff, decide_eq_true_eq,
    UInt64.lt_iff_toNat_lt, UInt64.toNat_zero]
  constructor
  · rintro ⟨numeral, positive, fits⟩
    obtain ⟨w, rfl⟩ := exists_toNat_eq n fits
    exact ⟨w, ⟨numeral, positive⟩, rfl⟩
  · rintro ⟨w, ⟨numeral, positive⟩, rfl⟩
    exact ⟨numeral, positive, w.toNat_lt⟩

end Texts

section Settings

variable {α : Type} {lookup : String → Option String} {setting expected : String}
  {read? : String → Option α} {grammar : List Char → α → Prop} {unset : α}

inductive Holds (grammar : List Char → α → Prop) (unset : α) : Option String → α → Prop where
  | unset : Holds grammar unset none unset
  | text {text : String} {a : α} : Denotes grammar text a → Holds grammar unset (some text) a

theorem readSetting_eq_ok_iff (reads : ∀ text a, read? text = some a ↔ Denotes grammar text a)
    {a : α} :
    readSetting lookup setting expected read? unset = .ok a ↔
      Holds grammar unset (lookup setting) a := by
  unfold readSetting
  split
  next absent =>
    rw [absent]
    constructor
    · intro same
      cases same
      exact .unset
    · intro holds
      cases holds
      rfl
  next text present =>
    rw [present]
    constructor
    · intro read
      split at read
      next b found =>
        cases read
        exact .text ((reads text _).1 found)
      next => cases read
    · intro holds
      cases holds with
      | text denoted => rw [(reads text a).2 denoted]

theorem readSetting_eq_error_iff (reads : ∀ text a, read? text = some a ↔ Denotes grammar text a)
    {e : OptionError} :
    readSetting lookup setting expected read? unset = .error e ↔
      ∃ text, lookup setting = some text ∧ (∀ a, ¬Denotes grammar text a) ∧
        e = ⟨setting, text, expected⟩ := by
  unfold readSetting
  split
  next absent => simp [absent]
  next text present =>
    simp only [present, Option.some_inj, exists_eq_left', ← reads text]
    cases read? text <;> simp [eq_comm]

end Settings

structure Loads (lookup : String → Option String) (o : Options) : Prop where
  structural : Holds FlagWord default.structural (lookup "JASON_STRUCTURAL_KEYWORDS") o.structural
  maxDepth : Holds DepthWord default.maxDepth (lookup "JASON_MAX_DEPTH") o.maxDepth

/-- The refusal of a setting whose text denotes nothing. The flag comes first: the depth is only
looked at where the flag is in order. -/
inductive Refuses (lookup : String → Option String) : OptionError → Prop where
  | structural {text : String} (present : lookup "JASON_STRUCTURAL_KEYWORDS" = some text)
      (outside : ∀ b, ¬Denotes FlagWord text b) :
      Refuses lookup ⟨"JASON_STRUCTURAL_KEYWORDS", text, "true, false, 1 or 0"⟩
  | maxDepth {b : Bool} {text : String}
      (flag : Holds FlagWord default.structural (lookup "JASON_STRUCTURAL_KEYWORDS") b)
      (present : lookup "JASON_MAX_DEPTH" = some text) (outside : ∀ n, ¬Denotes DepthWord text n) :
      Refuses lookup ⟨"JASON_MAX_DEPTH", text, "a positive integer"⟩

section Load

variable {lookup : String → Option String}

theorem load_eq_ok_iff {o : Options} : load lookup = .ok o ↔ Loads lookup o := by
  simp only [load, bind_eq_ok_iff, pure_eq_ok_iff,
    readSetting_eq_ok_iff fun _ _ => readFlag?_eq_some_iff,
    readSetting_eq_ok_iff fun _ _ => readDepth?_eq_some_iff]
  constructor
  · rintro ⟨structural, flag, maxDepth, depth, rfl⟩
    exact ⟨flag, depth⟩
  · intro loads
    exact ⟨_, loads.structural, _, loads.maxDepth, rfl⟩

theorem load_eq_error_iff {e : OptionError} : load lookup = .error e ↔ Refuses lookup e := by
  simp only [load, bind_eq_error_iff, pure, Except.pure, reduceCtorEq, and_false, exists_false,
    or_false, readSetting_eq_ok_iff fun _ _ => readFlag?_eq_some_iff,
    readSetting_eq_error_iff fun _ _ => readFlag?_eq_some_iff,
    readSetting_eq_error_iff fun _ _ => readDepth?_eq_some_iff]
  constructor
  · rintro (⟨text, present, outside, rfl⟩ | ⟨b, flag, text, present, outside, rfl⟩)
    · exact .structural present outside
    · exact .maxDepth flag present outside
  · intro refuses
    cases refuses with
    | structural present outside => exact .inl ⟨_, present, outside, rfl⟩
    | maxDepth flag present outside => exact .inr ⟨_, flag, _, present, outside, rfl⟩

end Load

section Decimal

variable {left right row : List Char} {zeros n m : Nat}

theorem not_mem_whiteSpace {c : Char} (digit : c.isDigit = true) : c ∉ whiteSpace := by
  intro blank
  have apart : whiteSpace.all (!·.isDigit) = true := by decide
  simpa [digit] using List.all_eq_true.1 apart c blank

theorem Numeral.trims (numeral : Numeral row n) (blank : left ⊆ whiteSpace)
    (blank' : right ⊆ whiteSpace) : Trims (left ++ row ++ right) row where
  around := ⟨left, right, rfl, blank, blank'⟩
  head c first := not_mem_whiteSpace (numeral.digits c (List.mem_of_mem_head? first))
  last c final := not_mem_whiteSpace (numeral.digits c (List.mem_of_mem_getLast? final))

theorem Numeral.countWord_iff (numeral : Numeral row n) : CountWord row m ↔ m = n := by
  constructor
  · intro count
    cases count with
    | plain other => rw [other.value, numeral.value]
    | signed => exact absurd (numeral.digits '+' (List.mem_cons_self ..)) (by decide)
  · rintro rfl
    exact .plain numeral

def decimalText (left : List Char) (zeros n : Nat) (right : List Char) : String :=
  .ofList (left ++ (List.replicate zeros '0' ++ (toString n).toList) ++ right)

theorem denotes_decimalText_iff (blank : left ⊆ whiteSpace) (blank' : right ⊆ whiteSpace)
    (zeros n m : Nat) :
    Denotes DepthWord (decimalText left zeros n right) m ↔ m = n ∧ 0 < n ∧ n < UInt64.size := by
  have numeral := numeral_decimal zeros n
  rw [denotes_iff, decimalText, String.toList_ofList, trim_eq_iff.2 (numeral.trims blank blank'),
    DepthWord, numeral.countWord_iff]
  exact and_congr_right fun same => by rw [same]

variable {lookup : String → Option String}

theorem load_decimalText (blank : left ⊆ whiteSpace) (blank' : right ⊆ whiteSpace)
    (present : lookup "JASON_MAX_DEPTH" = some (decimalText left zeros n right)) {b : Bool}
    (flag : Holds FlagWord default.structural (lookup "JASON_STRUCTURAL_KEYWORDS") b) :
    load lookup =
      if 0 < n ∧ n < UInt64.size then .ok ⟨b, n⟩
      else .error ⟨"JASON_MAX_DEPTH", decimalText left zeros n right, "a positive integer"⟩ := by
  have denoted := denotes_decimalText_iff blank blank' zeros n
  split
  next bounds =>
    have depth := (denoted n).2 ⟨rfl, bounds⟩
    exact load_eq_ok_iff.2 ⟨flag, present ▸ .text depth⟩
  next bounds =>
    refine load_eq_error_iff.2 (.maxDepth flag present fun m depth => bounds ?_)
    exact ((denoted m).1 depth).2

theorem exists_load_eq_error (blank : left ⊆ whiteSpace) (blank' : right ⊆ whiteSpace)
    (present : lookup "JASON_MAX_DEPTH" = some (decimalText left zeros n right))
    (large : UInt64.size ≤ n) : ∃ e, load lookup = .error e := by
  cases loaded : load lookup with
  | error e => exact ⟨e, rfl⟩
  | ok o =>
    have flag := (load_eq_ok_iff.1 loaded).structural
    rw [load_decimalText blank blank' present flag, if_neg (by omega)] at loaded
    cases loaded

end Decimal

/-- Loading accepts a grammar and nothing else: it gives what the settings denote, or it refuses the
first setting that denotes nothing, with the text as it stands. A decimal text is loaded as its
number up to the greatest word of 64 bits, and a greater number is an error. The digits can be read
in such a word, which never overflows. -/
theorem load_accepts_grammar (lookup : String → Option String) :
    (∀ o, load lookup = .ok o ↔ Loads lookup o) ∧
      (∀ e, load lookup = .error e ↔ Refuses lookup e) ∧
      (∀ left zeros n right, left ⊆ whiteSpace → right ⊆ whiteSpace →
        lookup "JASON_MAX_DEPTH" = some (decimalText left zeros n right) →
        (∀ b, Holds FlagWord default.structural (lookup "JASON_STRUCTURAL_KEYWORDS") b →
          load lookup =
            if 0 < n ∧ n < UInt64.size then .ok ⟨b, n⟩
            else .error ⟨"JASON_MAX_DEPTH", decimalText left zeros n right, "a positive integer"⟩) ∧
        (UInt64.size ≤ n → ∃ e, load lookup = .error e)) ∧
      ∀ text, readDepth? text =
        ((readWord? (unsigned (Text.trim text.toList))).filter (0 < ·)).map UInt64.toNat := by
  refine ⟨fun _ => load_eq_ok_iff, fun _ => load_eq_error_iff, ?_, readDepth?_eq_words⟩
  intro left zeros n right blank blank' present
  constructor
  · intro b flag
    exact load_decimalText blank blank' present flag
  · intro large
    exact exists_load_eq_error blank blank' present large

def settings (flag depth : Option String) (name : String) : Option String :=
  if name = "JASON_STRUCTURAL_KEYWORDS" then flag
  else if name = "JASON_MAX_DEPTH" then depth
  else none

theorem load_accepts_grammar_greatest :
    load (settings (some "\u3000false\n") (some "\t00018446744073709551615\u00a0")) =
        .ok ⟨false, 18446744073709551615⟩ ∧
      load (settings none (some "\t00018446744073709551616\u00a0")) =
        .error ⟨"JASON_MAX_DEPTH", "\t00018446744073709551616\u00a0", "a positive integer"⟩ ∧
      load (settings none (some " +08")) = .ok ⟨true, 8⟩ ∧
      load (settings (some " yes") (some "+0")) =
        .error ⟨"JASON_STRUCTURAL_KEYWORDS", " yes", "true, false, 1 or 0"⟩ := by
  have tab : ['\t'] ⊆ whiteSpace := by decide
  have space : ['\u00a0'] ⊆ whiteSpace := by decide
  have greatest : decimalText ['\t'] 3 18446744073709551615 ['\u00a0'] =
      "\t00018446744073709551615\u00a0" := by decide +kernel
  have next : decimalText ['\t'] 3 18446744073709551616 ['\u00a0'] =
      "\t00018446744073709551616\u00a0" := by decide +kernel
  have off : Denotes FlagWord "\u3000false\n" false := readFlag?_eq_some_iff.1 (by decide +kernel)
  have unread : readFlag? " yes" = none := by decide +kernel
  have no (b : Bool) : ¬Denotes FlagWord " yes" b := by
    simp [← readFlag?_eq_some_iff, unread]
  have eight : Denotes DepthWord " +08" 8 := readDepth?_eq_some_iff.1 (by decide +kernel)
  refine ⟨?_, ?_, ?_, ?_⟩
  · obtain ⟨_, _, decimal, _⟩ := load_accepts_grammar
      (settings (some "\u3000false\n") (some "\t00018446744073709551615\u00a0"))
    rw [(decimal _ 3 _ _ tab space (congrArg some greatest.symm)).1 false (.text off)]
    rfl
  · obtain ⟨_, _, decimal, _⟩ := load_accepts_grammar
      (settings none (some "\t00018446744073709551616\u00a0"))
    rw [(decimal _ 3 _ _ tab space (congrArg some next.symm)).1 true .unset, next]
    rfl
  · exact ((load_accepts_grammar (settings none (some " +08"))).1 _).2 ⟨.unset, .text eight⟩
  · exact ((load_accepts_grammar (settings (some " yes") (some "+0"))).2.1 _).2 (.structural rfl no)

end JsonSchema.Options
