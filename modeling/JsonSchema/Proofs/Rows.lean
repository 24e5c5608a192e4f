import Mathlib.Data.List.Forall2
import Mathlib.Data.List.Perm.Subperm
import Mathlib.Data.List.Nodup

set_option autoImplicit false

namespace JsonSchema

variable {α β : Type} {R S : α → β → Prop}

theorem rel_getElem?_of_forall₂ {as : List α} {bs : List β} (related : List.Forall₂ R as bs)
    (i : Nat) : Option.Rel R as[i]? bs[i]? := by
  induction related generalizing i with
  | nil => exact .none
  | cons head _ ih =>
    cases i with
    | zero => exact .some head
    | succ i => simpa using ih i

theorem exists_mem_of_forall₂ {as : List α} {bs : List β} (related : List.Forall₂ R as bs) {a : α}
    (member : a ∈ as) : ∃ b ∈ bs, R a b := by
  induction related with
  | nil => cases member
  | cons head _ ih =>
    rcases List.mem_cons.1 member with rfl | later
    · exact ⟨_, List.mem_cons_self, head⟩
    · obtain ⟨b, inside, found⟩ := ih later
      exact ⟨b, List.mem_cons_of_mem _ inside, found⟩

theorem exists_forall₂_iff {as : List α} :
    (∃ bs, List.Forall₂ R as bs) ↔ ∀ a ∈ as, ∃ b, R a b := by
  induction as with
  | nil => exact ⟨nofun, fun _ => ⟨[], .nil⟩⟩
  | cons a rest ih =>
    rw [List.forall_mem_cons, ← ih]
    constructor
    · intro matched
      obtain ⟨_, related⟩ := matched
      cases related with
      | cons head tail => exact ⟨⟨_, head⟩, _, tail⟩
    · intro matched
      obtain ⟨⟨b, head⟩, bs, tail⟩ := matched
      exact ⟨b :: bs, .cons head tail⟩

theorem forall₂_imp_of_mem {as : List α} {bs : List β} (related : List.Forall₂ R as bs)
    (imp : ∀ a ∈ as, ∀ b ∈ bs, R a b → S a b) : List.Forall₂ S as bs := by
  obtain ⟨length, each⟩ := List.forall₂_iff_zip.1 related
  refine List.forall₂_iff_zip.2 ⟨length, fun pair => ?_⟩
  obtain ⟨left, right⟩ := List.of_mem_zip pair
  exact imp _ left _ right (each pair)

theorem forall₂_comp {γ : Type} {T : β → γ → Prop} {as : List α} {bs : List β} {cs : List γ}
    (first : List.Forall₂ R as bs) (second : List.Forall₂ T bs cs) :
    List.Forall₂ (fun a c => ∃ b, R a b ∧ T b c) as cs := by
  induction first generalizing cs with
  | nil =>
    cases second
    exact .nil
  | cons head _ ih =>
    cases second with
    | cons head' tail' => exact .cons ⟨_, head, head'⟩ (ih tail')

theorem forall₂_zipIdx {as : List α} {bs : List β} (related : List.Forall₂ R as bs) (n : Nat) :
    List.Forall₂ (fun x y => x.2 = y.2 ∧ R x.1 y.1) (as.zipIdx n) (bs.zipIdx n) := by
  induction related generalizing n with
  | nil => exact .nil
  | cons head _ ih => exact .cons ⟨rfl, head⟩ (ih (n + 1))

theorem flatMap_eq_of_forall₂ {γ : Type} {f : α → List γ} {g : β → List γ} {as : List α}
    {bs : List β} (related : List.Forall₂ R as bs) (same : ∀ a b, R a b → f a = g b) :
    as.flatMap f = bs.flatMap g := by
  induction related with
  | nil => rfl
  | cons head _ ih => rw [List.flatMap_cons, List.flatMap_cons, same _ _ head, ih]

theorem any_eq_of_forall₂ {p : α → Bool} {q : β → Bool} {as : List α} {bs : List β}
    (related : List.Forall₂ R as bs) (same : ∀ a b, R a b → p a = q b) : as.any p = bs.any q := by
  induction related with
  | nil => rfl
  | cons head _ ih => rw [List.any_cons, List.any_cons, same _ _ head, ih]

def SameMembers (as bs : List α) : Prop := ∀ a, a ∈ as ↔ a ∈ bs

theorem SameMembers.refl (as : List α) : SameMembers as as := fun _ => Iff.rfl

theorem SameMembers.symm {as bs : List α} (same : SameMembers as bs) : SameMembers bs as :=
  fun a => (same a).symm

theorem SameMembers.any_eq {as bs : List α} (same : SameMembers as bs) (p : α → Bool) :
    as.any p = bs.any p := by
  rw [Bool.eq_iff_iff, List.any_eq_true, List.any_eq_true]
  exact exists_congr fun a => and_congr_left fun _ => same a

def AlignedBy (R : α → β → Prop) : List (String × α) → List (String × β) → Prop :=
  List.Forall₂ fun a b => a.1 = b.1 ∧ R a.2 b.2

section Members

variable {as : List (String × α)} {bs : List (String × β)}

theorem AlignedBy.rel_lookup (aligned : AlignedBy R as bs) (name : String) :
    Option.Rel R (as.lookup name) (bs.lookup name) := by
  induction aligned with
  | nil => exact .none
  | @cons a b _ _ head _ ih =>
    obtain ⟨same, related⟩ := head
    rw [List.lookup_cons, List.lookup_cons, ← same]
    cases name == a.1 with
    | true => exact .some related
    | false => exact ih

theorem AlignedBy.mem_right (aligned : AlignedBy R as bs) {name : String} {b : β}
    (member : (name, b) ∈ bs) : ∃ a, (name, a) ∈ as ∧ R a b := by
  induction aligned with
  | nil => cases member
  | @cons c _ _ _ head _ ih =>
    rcases List.mem_cons.1 member with same | later
    · obtain ⟨key, related⟩ := head
      cases same
      exact ⟨c.2, List.mem_cons.2 (.inl (Prod.ext key.symm rfl)), related⟩
    · obtain ⟨a, found, related⟩ := ih later
      exact ⟨a, List.mem_cons_of_mem _ found, related⟩

theorem AlignedBy.mem_left (aligned : AlignedBy R as bs) {name : String} {a : α}
    (member : (name, a) ∈ as) : ∃ b, (name, b) ∈ bs ∧ R a b := by
  induction aligned with
  | nil => cases member
  | @cons _ c _ _ head _ ih =>
    rcases List.mem_cons.1 member with same | later
    · obtain ⟨key, related⟩ := head
      cases same
      exact ⟨c.2, List.mem_cons.2 (.inl (Prod.ext key rfl)), related⟩
    · obtain ⟨b, found, related⟩ := ih later
      exact ⟨b, List.mem_cons_of_mem _ found, related⟩

theorem exists_alignedBy_iff :
    (∃ bs, AlignedBy R as bs) ↔ ∀ name a, (name, a) ∈ as → ∃ b, R a b := by
  unfold AlignedBy
  rw [exists_forall₂_iff]
  constructor
  · intro related name a member
    obtain ⟨b, _, found⟩ := related (name, a) member
    exact ⟨b.2, found⟩
  · intro related a member
    obtain ⟨b, found⟩ := related a.1 a.2 member
    exact ⟨(a.1, b), rfl, found⟩

theorem AlignedBy.keys_eq (aligned : AlignedBy R as bs) : as.map Prod.fst = bs.map Prod.fst := by
  induction aligned with
  | nil => rfl
  | cons head _ ih => rw [List.map_cons, List.map_cons, head.1, ih]

theorem lookup_eq_some_of_mem (distinct : (as.map Prod.fst).Nodup) {key : String} {a : α}
    (member : (key, a) ∈ as) : as.lookup key = some a := by
  induction as with
  | nil => cases member
  | cons head rest ih =>
    obtain ⟨fresh, tail⟩ := List.nodup_cons.1 distinct
    rcases List.mem_cons.1 member with same | later
    · rw [← same, List.lookup_cons_self]
    · have skip : (key == head.1) = false := by
        rw [beq_eq_false_iff_ne]
        intro same
        rw [← same] at fresh
        exact fresh (List.mem_map_of_mem later)
      rw [List.lookup_cons, skip]
      exact ih tail later

theorem isSome_lookup_iff (as : List (String × α)) (key : String) :
    (as.lookup key).isSome = true ↔ key ∈ as.map Prod.fst := by
  induction as with
  | nil => simp
  | cons head rest ih =>
    rw [List.lookup_cons, List.map_cons, List.mem_cons, ← ih]
    by_cases same : key = head.1
    · simp [same]
    · have skip : (key == head.1) = false := by simpa using same
      simp [same, skip]

theorem keys_eq_of_subset (increasing : (as.map Prod.fst).Pairwise (· < ·))
    (increasing' : (bs.map Prod.fst).Pairwise (· < ·)) (length : as.length = bs.length)
    (subset : as.map Prod.fst ⊆ bs.map Prod.fst) : as.map Prod.fst = bs.map Prod.fst := by
  have distinct : (as.map Prod.fst).Nodup := increasing.imp fun before => String.ne_of_lt before
  have perm : (as.map Prod.fst).Perm (bs.map Prod.fst) := by
    apply (distinct.subperm subset).perm_of_length_le
    rw [List.length_map, List.length_map]
    exact Nat.le_of_eq length.symm
  apply perm.eq_of_pairwise _ increasing increasing'
  intro first second _ _ before after
  exact absurd (String.lt_trans before after) (String.lt_irrefl _)

theorem alignedBy_of_lookup (keys : as.map Prod.fst = bs.map Prod.fst)
    (distinct : (as.map Prod.fst).Nodup)
    (each : ∀ key a, (key, a) ∈ as → ∃ b, bs.lookup key = some b ∧ R a b) : AlignedBy R as bs := by
  induction as generalizing bs with
  | nil =>
    rw [List.map_eq_nil_iff.1 keys.symm]
    exact .nil
  | cons head rest ih =>
    obtain ⟨key, a⟩ := head
    cases bs with
    | nil => cases keys
    | cons head' rest' =>
      obtain ⟨key', b⟩ := head'
      obtain ⟨rfl, others⟩ := List.cons.inj keys
      obtain ⟨fresh, tail⟩ := List.nodup_cons.1 distinct
      dsimp only at fresh each
      have first : R a b := by
        obtain ⟨_, found, related⟩ := each key a List.mem_cons_self
        rw [List.lookup_cons_self] at found
        cases found
        exact related
      refine .cons ⟨rfl, first⟩ (ih others tail fun name c member => ?_)
      have skip : (name == key) = false := by
        rw [beq_eq_false_iff_ne]
        intro same
        subst same
        exact fresh (List.mem_map_of_mem member)
      obtain ⟨d, found, related⟩ := each name c (List.mem_cons_of_mem _ member)
      rw [List.lookup_cons, skip] at found
      exact ⟨d, found, related⟩

theorem alignedBy_iff_rel_lookup (increasing : (as.map Prod.fst).Pairwise (· < ·))
    (increasing' : (bs.map Prod.fst).Pairwise (· < ·)) :
    AlignedBy R as bs ↔ ∀ name, Option.Rel R (as.lookup name) (bs.lookup name) := by
  refine ⟨fun aligned name => aligned.rel_lookup name, fun each => ?_⟩
  have distinct : (as.map Prod.fst).Nodup := increasing.imp fun before => String.ne_of_lt before
  have distinct' : (bs.map Prod.fst).Nodup := increasing'.imp fun before => String.ne_of_lt before
  have found (name : String) : (as.lookup name).isSome = (bs.lookup name).isSome := by
    have related := each name
    generalize as.lookup name = a, bs.lookup name = b at related
    cases related <;> rfl
  have keys (name : String) : name ∈ as.map Prod.fst ↔ name ∈ bs.map Prod.fst := by
    rw [← isSome_lookup_iff, ← isSome_lookup_iff, found]
  have perm := (List.perm_ext_iff_of_nodup distinct distinct').2 keys
  refine alignedBy_of_lookup (keys_eq_of_subset increasing increasing' ?_ perm.subset) distinct ?_
  · simpa using perm.length_eq
  · intro name a member
    have related := each name
    rw [lookup_eq_some_of_mem distinct member] at related
    generalize bs.lookup name = partner at related
    cases related with
    | some related => exact ⟨_, rfl, related⟩

end Members

end JsonSchema
