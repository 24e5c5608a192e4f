import JsonSchema.Proofs.Ordered
import Mathlib.Data.List.Nodup

set_option autoImplicit false

namespace JsonSchema

namespace Pointer

def Above (p q : Pointer) : Prop := p.segments <+: q.segments

instance (p q : Pointer) : Decidable (p.Above q) := inferInstanceAs (Decidable (_ <+: _))

theorem Above.refl (p : Pointer) : p.Above p := List.prefix_rfl

theorem Above.trans {p q r : Pointer} (first : p.Above q) (second : q.Above r) : p.Above r :=
  List.IsPrefix.trans first second

theorem above_step (p : Pointer) (step : Step) : p.Above (p.step step) := List.prefix_append _ _

theorem not_step_above (p : Pointer) (step : Step) : ¬(p.step step).Above p := by
  intro above
  have shorter : (p.step step).depth ≤ p.depth := above.length_le
  rw [depth_step] at shorter
  omega

theorem Above.text_eq {p q : Pointer} {a b : Step} (first : (p.step a).Above q)
    (second : (p.step b).Above q) : a.text = b.text := by
  obtain ⟨rest, left⟩ := first
  obtain ⟨rest', right⟩ := second
  have same := left.trans right.symm
  simp only [Pointer.step, key, List.append_assoc, List.append_cancel_left_eq, List.cons_append,
    List.nil_append, List.cons.injEq] at same
  exact same.1

end Pointer

namespace Json

def child? (v : Json) (segment : String) : Option Json :=
  (v.places.find? fun x => x.1.text = segment).map Prod.snd

def follow? : List String → Json → Option Json
  | [], v => some v
  | segment :: rest, v => (v.child? segment).bind (follow? rest)

def locations (v : Json) (p : Pointer) : List (Pointer × Json) :=
  (p, v) :: v.places.attach.flatMap fun x => x.1.2.locations (p.step x.1.1)
termination_by v.depth
decreasing_by exact depth_lt_of_mem_places x.2

theorem locations_eq (v : Json) (p : Pointer) :
    v.locations p = (p, v) :: v.places.flatMap fun x => x.2.locations (p.step x.1) := by
  rw [locations]
  simp only [List.flatMap_subtype, List.unattach_attach]

theorem above_of_mem_locations {v w : Json} {p q : Pointer}
    (location : (q, w) ∈ v.locations p) :
    p.Above q := by
  induction v using placeInduction generalizing p with
  | step v ih =>
    rw [locations_eq] at location
    rcases List.mem_cons.1 location with same | below
    · cases same
      exact .refl _
    · obtain ⟨⟨step, u⟩, place, inside⟩ := List.mem_flatMap.1 below
      exact (p.above_step step).trans (ih step u place inside)

theorem nodup_locations {v : Json} (sorted : v.Sorted) (p : Pointer) :
    ((v.locations p).map Prod.fst).Nodup := by
  induction sorted generalizing p with
  | @intro v ordered inside ih =>
    have below (x : Step × Json) (q : Pointer)
        (location : q ∈ (x.2.locations (p.step x.1)).map Prod.fst) : (p.step x.1).Above q := by
      obtain ⟨⟨q, w⟩, member, rfl⟩ := List.mem_map.1 location
      exact above_of_mem_locations member
    rw [locations_eq, List.map_cons, List.nodup_cons, List.map_flatMap, List.nodup_flatMap]
    refine ⟨?_, ?_, ?_⟩
    · intro repeated
      obtain ⟨x, _, location⟩ := List.mem_flatMap.1 repeated
      exact p.not_step_above x.1 (below x p location)
    · intro x place
      exact ih x.1 x.2 place (p.step x.1)
    · -- Places with different texts have no location in common.
      refine (List.pairwise_map.1 ordered.nodup_texts).imp ?_
      intro x y different q left right
      exact different ((below x q left).text_eq (below y q right))

theorem child?_of_mem_places {v w : Json} {step : Step} (ordered : v.Ordered)
    (place : (step, w) ∈ v.places) : v.child? step.text = some w := by
  obtain ⟨before, after, split⟩ := List.append_of_mem place
  have distinct := ordered.nodup_texts
  rw [split, List.map_append, List.map_cons, List.nodup_middle, List.nodup_cons] at distinct
  have first : v.places.find? (fun x => x.1.text = step.text) = some (step, w) := by
    rw [split, List.find?_append, List.find?_cons_of_pos (by simp), Option.or_eq_right_of_none]
    refine List.find?_eq_none.2 fun x earlier same => distinct.1 ?_
    rw [← of_decide_eq_true same]
    exact List.mem_append_left _ (List.mem_map_of_mem earlier)
  rw [child?, first]
  rfl

theorem follow?_of_mem_locations {v w : Json} (sorted : v.Sorted) {p q : Pointer}
    (location : (q, w) ∈ v.locations p) :
    ∃ rest, q.segments = p.segments ++ rest ∧ follow? rest v = some w := by
  induction sorted generalizing p with
  | @intro v ordered inside ih =>
    rw [locations_eq] at location
    rcases List.mem_cons.1 location with same | below
    · cases same
      exact ⟨[], (List.append_nil _).symm, rfl⟩
    · obtain ⟨⟨step, u⟩, place, location⟩ := List.mem_flatMap.1 below
      obtain ⟨rest, segments, followed⟩ := ih step u place location
      refine ⟨step.text :: rest, ?_, ?_⟩
      · rw [segments, Pointer.step, Pointer.key, List.append_assoc]
        rfl
      · rw [follow?, child?_of_mem_places ordered place]
        exact followed

end Json

end JsonSchema
