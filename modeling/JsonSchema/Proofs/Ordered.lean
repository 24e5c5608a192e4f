import JsonSchema.Json.Reader
import JsonSchema.Proofs.Document

set_option autoImplicit false

namespace JsonSchema

namespace Scan

variable {ε α β σ : Type}

def Gives (scan : Scan ε α) (P : α → Prop) : Prop := ∀ c a d, scan c = .ok (a, d) → P a

theorem gives_pure {P : α → Prop} {a : α} (holds : P a) : Gives (pure a : Scan ε α) P := by
  intro c b d found
  cases found
  exact holds

theorem gives_fail {P : α → Prop} (e : ε) : Gives (fail e) P := by
  intro c a d found
  cases found

theorem Gives.bind {scan : Scan ε α} {f : α → Scan ε β} {P : β → Prop} {Q : α → Prop}
    (first : Gives scan Q) (next : ∀ a, Q a → Gives (f a) P) : Gives (scan >>= f) P := by
  intro c b d found
  change Scan.bind scan f c = .ok (b, d) at found
  unfold Scan.bind at found
  split at found
  · cases found
  next earlier =>
    split at found
    · cases found
    next later =>
      cases found
      exact next _ (first _ _ _ earlier) _ _ _ later

theorem gives_bind {scan : Scan ε α} {f : α → Scan ε β} {P : β → Prop}
    (next : ∀ a, Gives (f a) P) : Gives (scan >>= f) P :=
  Gives.bind (Q := fun _ => True) (fun _ _ _ _ => trivial) fun a _ => next a

-- What holds of the state before each round and of the result of the last one.
theorem gives_loop {P : α → Prop} {I : σ → Prop} {finish : σ → Scan ε α}
    {step : σ → Char → Scan ε (σ ⊕ α)} (ends : ∀ state, I state → Gives (finish state) P)
    (goes : ∀ state c, I state → Gives (step state c) (Sum.elim I P)) {state : σ}
    (start : I state) : Gives (loop finish step state) P := by
  intro c a d found
  have rounds (bound : Nat) (state : σ) (c : Cursor) (bounded : c.rest.length ≤ bound)
      (start : I state) (d : Ahead bound)
      (found : loopFrom finish step bound state c bounded = .ok (a, d)) : P a := by
    fun_induction loopFrom finish step bound state c bounded with
    | case1 => cases found
    | case2 state c _ _ _ _ _ ended =>
      cases found
      exact ends _ start _ _ _ ended
    | case3 => cases found
    | case4 state c _ _ _ _ _ _ _ stepped =>
      cases found
      exact goes _ _ start _ _ _ stepped
    | case5 state c _ _ _ _ _ _ _ stepped ih => exact ih (goes _ _ start _ _ _ stepped) found
  exact rounds _ state c _ start d found

theorem Gives.of_run {scan : Scan ε α} {P : α → Prop} (gives : Gives scan P) {text : String} {a : α}
    (found : scan.run text = .ok a) : P a := by
  unfold run at found
  split at found
  · cases found
  next returned =>
    cases found
    exact gives _ _ _ returned

end Scan

theorem text_injective {i j : Nat} (same : toString i = toString j) : i = j := by
  have digits : Nat.toDigits 10 i = Nat.toDigits 10 j := by
    simpa [Nat.repr] using congrArg String.toList same
  have back (n : Nat) : Nat.ofDigitChars 10 (Nat.toDigits 10 n) 0 = n :=
    Nat.ofDigitChars_toDigits (by decide) (by decide)
  rw [← back i, digits, back j]

theorem flatMap_ite_eq {α β γ : Type} [DecidableEq γ] {name : α → γ} {l : List α}
    (distinct : (l.map name).Nodup) {a : α} (member : a ∈ l) (f : α → List β) :
    l.flatMap (fun x => if name x = name a then f x else []) = f a := by
  induction l with
  | nil => cases member
  | cons head rest ih =>
    obtain ⟨fresh, tail⟩ := List.nodup_cons.1 distinct
    rw [List.flatMap_cons]
    rcases List.mem_cons.1 member with same | later
    · subst same
      have others : rest.flatMap (fun x => if name x = name a then f x else []) = [] := by
        rw [List.flatMap_eq_nil_iff]
        intro x inside
        refine if_neg fun same => fresh ?_
        rw [← same]
        exact List.mem_map_of_mem inside
      rw [if_pos rfl, others, List.append_nil]
    · have different : name head ≠ name a := by
        intro same
        rw [same] at fresh
        exact fresh (List.mem_map_of_mem later)
      rw [if_neg different, List.nil_append, ih tail later]

namespace Json

open Reader

def Ordered (v : Json) : Prop :=
  ∀ members, v = .object members → (members.map Prod.fst).Pairwise (· < ·)

theorem mem_insertMember {α : Type} {key : String} {value : α} {members : List (String × α)}
    {m : String × α} (member : m ∈ insertMember key value members) :
    m = (key, value) ∨ m ∈ members := by
  induction members with
  | nil => exact .inl (List.mem_singleton.1 member)
  | cons head rest ih =>
    obtain ⟨first, w⟩ := head
    unfold insertMember at member
    split at member
    · exact List.mem_cons.1 member
    · split at member
      · exact (List.mem_cons.1 member).imp_right (List.mem_cons_of_mem _)
      · rcases List.mem_cons.1 member with same | later
        · exact .inr (same ▸ List.mem_cons_self)
        · exact (ih later).imp_right (List.mem_cons_of_mem _)

theorem mem_keys_insertMember {α : Type} {key k : String} {value : α} {members : List (String × α)}
    (member : k ∈ (insertMember key value members).map Prod.fst) :
    k = key ∨ k ∈ members.map Prod.fst := by
  obtain ⟨m, inside, rfl⟩ := List.mem_map.1 member
  rcases mem_insertMember inside with same | earlier
  · exact .inl (congrArg Prod.fst same)
  · exact .inr (List.mem_map_of_mem earlier)

theorem pairwise_insertMember {α : Type} (key : String) (value : α) {members : List (String × α)}
    (increasing : (members.map Prod.fst).Pairwise (· < ·)) :
    ((insertMember key value members).map Prod.fst).Pairwise (· < ·) := by
  induction members with
  | nil => simp [insertMember]
  | cons head rest ih =>
    obtain ⟨first, w⟩ := head
    obtain ⟨smaller, tail⟩ := List.pairwise_cons.1 increasing
    unfold insertMember
    split
    · next before =>
      refine List.pairwise_cons.2 ⟨?_, increasing⟩
      intro k member
      rcases List.mem_cons.1 member with same | later
      · exact same ▸ before
      · exact String.lt_trans before (smaller k later)
    · next notBefore =>
      split
      · next same =>
        subst same
        exact increasing
      · next different =>
        have after : first < key :=
          Std.lt_of_le_of_ne (String.not_lt.1 notBefore) (Ne.symm different)
        refine List.pairwise_cons.2 ⟨?_, ih tail⟩
        intro k member
        rcases mem_keys_insertMember member with same | later
        · exact same ▸ after
        · exact smaller k later

theorem ordered_ofMembers (members : List (String × Json)) : (ofMembers members).Ordered := by
  intro built same
  cases same
  -- The fold starts from no members, and each step keeps the members so far in order.
  refine List.foldlRecOn
    (motive := fun (sorted : List (String × Json)) => (sorted.map Prod.fst).Pairwise (· < ·))
    members _ .nil ?_
  intro sorted increasing member _
  exact pairwise_insertMember member.1 member.2 increasing

inductive Sorted : Json → Prop where
  | intro {v : Json} (ordered : v.Ordered)
      (inside : ∀ step w, (step, w) ∈ v.places → Sorted w) : Sorted v

theorem Sorted.ordered {v : Json} (sorted : v.Sorted) : v.Ordered := by
  cases sorted with
  | intro ordered _ => exact ordered

theorem Sorted.inside {v w : Json} {step : Step} (sorted : v.Sorted)
    (place : (step, w) ∈ v.places) : w.Sorted := by
  cases sorted with
  | intro _ inside => exact inside step w place

theorem sorted_of_places_eq_nil {v : Json} (flat : v.places = [])
    (simple : ∀ members, v ≠ .object members := by nofun) : v.Sorted := by
  refine .intro (fun members same => absurd same (simple members)) fun step w place => ?_
  rw [flat] at place
  cases place

theorem sorted_array {elements : List Json} (each : ∀ e ∈ elements, e.Sorted) :
    (Json.array elements).Sorted := by
  refine .intro nofun fun step w place => ?_
  obtain ⟨i, found, _⟩ := (mem_places_array ..).1 place
  exact each w (List.mem_of_getElem? found)

theorem sorted_object {members : List (String × Json)}
    (increasing : (members.map Prod.fst).Pairwise (· < ·)) (each : ∀ m ∈ members, m.2.Sorted) :
    (Json.object members).Sorted := by
  refine .intro (fun _ same => (Json.object.inj same) ▸ increasing) fun step w place => ?_
  obtain ⟨name, member, _⟩ := (mem_places_object ..).1 place
  exact each _ member

theorem sorted_ofMembers {members : List (String × Json)} (each : ∀ m ∈ members, m.2.Sorted) :
    (ofMembers members).Sorted := by
  refine sorted_object (ordered_ofMembers members _ rfl) ?_
  -- What the fold has put in comes from the members it has gone through.
  refine List.foldlRecOn (motive := fun (sorted : List (String × Json)) => ∀ m ∈ sorted, m.2.Sorted)
    members _ nofun ?_
  intro sorted good entry listed m inside
  rcases mem_insertMember inside with same | earlier
  · rw [same]
    exact each entry listed
  · exact good m earlier

mutual

def isSorted : Json → Bool
  | .array elements => areSorted elements
  | .object members =>
    decide ((members.map Prod.fst).Pairwise (· < ·)) && areMembersSorted members
  | _ => true
termination_by structural v => v

def areSorted : List Json → Bool
  | [] => true
  | v :: rest => v.isSorted && areSorted rest
termination_by structural elements => elements

def areMembersSorted : List (String × Json) → Bool
  | [] => true
  | (_, v) :: rest => v.isSorted && areMembersSorted rest
termination_by structural members => members

end

theorem areSorted_iff (elements : List Json) :
    areSorted elements = true ↔ ∀ e ∈ elements, e.isSorted = true := by
  induction elements with
  | nil => simp [areSorted]
  | cons head rest ih => simp [areSorted, ih]

theorem areMembersSorted_iff (members : List (String × Json)) :
    areMembersSorted members = true ↔ ∀ m ∈ members, m.2.isSorted = true := by
  induction members with
  | nil => simp [areMembersSorted]
  | cons head rest ih => simp [areMembersSorted, ih]

theorem isSorted_iff (v : Json) : v.isSorted = true ↔ v.Sorted := by
  induction v using placeInduction with
  | step v ih =>
    cases v with
    | array elements =>
      rw [isSorted, areSorted_iff]
      constructor
      · intro each
        refine sorted_array fun e member => ?_
        obtain ⟨step, place⟩ := exists_mem_places_array member
        exact (ih step e place).1 (each e member)
      · intro sorted e member
        obtain ⟨step, place⟩ := exists_mem_places_array member
        exact (ih step e place).2 (sorted.inside place)
    | object members =>
      rw [isSorted, Bool.and_eq_true, decide_eq_true_iff, areMembersSorted_iff]
      constructor
      · intro both
        refine sorted_object both.1 fun m member => ?_
        obtain ⟨step, place⟩ := exists_mem_places_object member
        exact (ih step m.2 place).1 (both.2 m member)
      · intro sorted
        refine ⟨sorted.ordered members rfl, fun m member => ?_⟩
        obtain ⟨step, place⟩ := exists_mem_places_object member
        exact (ih step m.2 place).2 (sorted.inside place)
    | _ => exact iff_of_true rfl (sorted_of_places_eq_nil rfl)

instance (v : Json) : Decidable v.Sorted := decidable_of_iff _ v.isSorted_iff

theorem gives_word {P : Json → Prop} (text : String) {value : Json} (holds : P value) :
    Scan.Gives (word text value) P := by
  refine Scan.gives_bind fun found => ?_
  cases found with
  | true => exact Scan.gives_pure holds
  | false => exact Scan.gives_bind fun c => Scan.gives_fail _

theorem gives_sequence {α : Type} {P : α → Prop} (close : Char) {item : Read α}
    (each : Scan.Gives item P) : Scan.Gives (sequence close item) fun found => ∀ a ∈ found, P a := by
  refine Scan.gives_bind fun _ => Scan.gives_bind fun closed => ?_
  cases closed with
  | true => exact Scan.gives_pure nofun
  | false =>
    refine each.bind fun first good => Scan.gives_bind fun _ => ?_
    refine Scan.gives_loop (I := fun found => ∀ a ∈ found, P a) (fun _ _ => Scan.gives_fail _) ?_
      (by simpa using good)
    intro found c before
    split
    · exact Scan.gives_pure (by simpa using before)
    · split
      · refine each.bind fun a good => Scan.gives_bind fun _ => Scan.gives_pure ?_
        exact List.forall_mem_cons.2 ⟨good, before⟩
      · exact Scan.gives_fail _

theorem gives_member {nested : Read Json} (sorted : Scan.Gives nested Sorted) :
    Scan.Gives (member nested) fun m => m.2.Sorted := by
  refine Scan.gives_bind fun _ => Scan.gives_bind fun _ => Scan.gives_bind fun key => ?_
  refine Scan.gives_bind fun _ => Scan.gives_bind fun _ => sorted.bind fun v good => ?_
  exact Scan.gives_pure good

theorem gives_valueOf {nested : Read Json} (sorted : Scan.Gives nested Sorted) :
    Scan.Gives (valueOf nested) Sorted := by
  refine Scan.gives_bind fun _ => Scan.gives_bind fun next => ?_
  split
  · exact Scan.gives_fail _
  · exact gives_word _ (sorted_of_places_eq_nil rfl)
  · exact gives_word _ (sorted_of_places_eq_nil rfl)
  · exact gives_word _ (sorted_of_places_eq_nil rfl)
  · exact Scan.gives_bind fun _ => Scan.gives_bind fun _ =>
      Scan.gives_pure (sorted_of_places_eq_nil rfl)
  · exact Scan.gives_bind fun _ => (gives_sequence _ sorted).bind fun _ each =>
      Scan.gives_pure (sorted_array each)
  · exact Scan.gives_bind fun _ => (gives_sequence _ (gives_member sorted)).bind fun _ each =>
      Scan.gives_pure (sorted_ofMembers each)
  · exact Scan.gives_bind fun _ => Scan.gives_pure (sorted_of_places_eq_nil rfl)

theorem gives_value (depth : Nat) : Scan.Gives (value depth) Sorted := by
  induction depth with
  | zero => exact Scan.gives_fail _
  | succ depth ih => exact gives_valueOf ih

theorem sorted_of_read {text : String} {v : Json} (found : read text = .ok v) : v.Sorted := by
  have gives : Scan.Gives document Sorted := by
    refine Scan.Gives.bind (gives_value _) fun v sorted => ?_
    refine Scan.gives_bind fun _ => Scan.gives_bind fun next => ?_
    cases next with
    | none => exact Scan.gives_pure sorted
    | some c => exact Scan.gives_fail _
  exact gives.of_run found

theorem ordered_of_read {text : String} {v : Json} (found : read text = .ok v) : v.Ordered :=
  (sorted_of_read found).ordered

theorem Ordered.nodup_texts {v : Json} (ordered : v.Ordered) :
    (v.places.map (·.1.text)).Nodup := by
  cases v with
  | array elements =>
    have texts : (Json.array elements).places.map (·.1.text) =
        (List.range' 0 elements.length).map toString := by
      rw [← List.zipIdx_map_snd 0 elements, places, List.map_map, List.map_map]
      rfl
    rw [texts]
    have distinct : (List.range' 0 elements.length).Nodup := List.nodup_range'
    refine List.pairwise_map.2 (distinct.imp ?_)
    intro i j different same
    exact different (text_injective same)
  | object members =>
    have texts : (Json.object members).places.map (·.1.text) = members.map Prod.fst := by
      rw [places, List.map_map]
      rfl
    rw [texts]
    refine (ordered members rfl).imp ?_
    intro first second before same
    exact String.lt_irrefl _ (same ▸ before)
  | _ => exact .nil

end Json

end JsonSchema
