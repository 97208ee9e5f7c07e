import Mathlib.Data.List.Nodup
import Mathlib.Logic.Relation

namespace Forest
open Relation

structure Ordered (next : Nat → List Nat) : Prop where
  later : ∀ {n c}, c ∈ next n → n < c
  once : ∀ {n m c}, c ∈ next n → c ∈ next m → n = m
  nodup : ∀ n, (next n).Nodup

def Below (next : Nat → List Nat) : Nat → Nat → Prop := ReflTransGen fun n c => c ∈ next n

/-- The leaves below a node, in the order of a walk that may go so many nodes deep. -/
def leaves (leaf : Nat → Bool) (next : Nat → List Nat) : Nat → Nat → List Nat
  | 0, _ => []
  | fuel + 1, n => if leaf n then [n] else (next n).flatMap (leaves leaf next fuel)

variable {leaf : Nat → Bool} {next : Nat → List Nat} {n m c d : Nat}

theorem Ordered.le_of_below (forest : Ordered next) (below : Below next n m) : n ≤ m := by
  induction below with
  | refl => exact Nat.le_refl n
  | tail _ child ih => exact Nat.le_of_lt (Nat.lt_of_le_of_lt ih (forest.later child))

theorem Ordered.sibling_eq (forest : Ordered next) (first : c ∈ next n) (second : d ∈ next n)
    (below : Below next d c) : c = d := by
  rcases ReflTransGen.cases_tail below with same | ⟨p, above, child⟩
  · exact same
  · obtain rfl := forest.once child first
    exact absurd (forest.le_of_below above) (Nat.not_le_of_lt (forest.later second))

theorem Ordered.apart (forest : Ordered next) (first : c ∈ next n) (second : d ∈ next n)
    (below : Below next c m) (below' : Below next d m) : c = d := by
  induction below with
  | refl => exact forest.sibling_eq first second below'
  | @tail p m above child ih =>
      rcases ReflTransGen.cases_tail below' with rfl | ⟨q, above', child'⟩
      · exact (forest.sibling_eq second first (above.tail child)).symm
      · obtain rfl := forest.once child child'
        exact ih above'

theorem below_of_mem_leaves {fuel : Nat} (member : m ∈ leaves leaf next fuel n) :
    Below next n m ∧ leaf m = true := by
  induction fuel generalizing n with
  | zero => cases member
  | succ fuel ih =>
      rw [leaves] at member
      split_ifs at member with isLeaf
      · obtain rfl := List.mem_singleton.mp member
        exact ⟨.refl, isLeaf⟩
      · obtain ⟨c, child, found⟩ := List.mem_flatMap.mp member
        obtain ⟨below, isLeaf⟩ := ih found
        exact ⟨.head child below, isLeaf⟩

theorem Ordered.leaves_nodup (forest : Ordered next) (fuel n : Nat) :
    (leaves leaf next fuel n).Nodup := by
  induction fuel generalizing n with
  | zero => exact List.nodup_nil
  | succ fuel ih =>
      rw [leaves]
      split_ifs
      · exact List.nodup_singleton n
      · rw [List.nodup_flatMap]
        refine ⟨fun c _ => ih c, ?_⟩
        apply (forest.nodup n).imp_of_mem
        intro c d first second different m left right
        have below := (below_of_mem_leaves left).1
        exact different (forest.apart first second below (below_of_mem_leaves right).1)

theorem leaves_mono {fuel more : Nat} (le : fuel ≤ more) (member : m ∈ leaves leaf next fuel n) :
    m ∈ leaves leaf next more n := by
  induction fuel generalizing n more with
  | zero => cases member
  | succ fuel ih =>
      obtain ⟨more, rfl⟩ := Nat.exists_eq_add_of_le' (Nat.le_trans (Nat.le_add_left 1 fuel) le)
      rw [leaves] at member ⊢
      split_ifs at member ⊢ with isLeaf
      · exact member
      · obtain ⟨c, child, found⟩ := List.mem_flatMap.mp member
        exact List.mem_flatMap.mpr ⟨c, child, ih (Nat.le_of_succ_le_succ le) found⟩

/-- A walk that may go as deep as there are nodes left meets every leaf below it. -/
theorem Ordered.mem_leaves_iff (forest : Ordered next) {size : Nat}
    (inside : ∀ n c, c ∈ next n → c < size) (barren : ∀ n, leaf n = true → next n = [])
    (small : n < size) :
    m ∈ leaves leaf next (size - n) n ↔ Below next n m ∧ leaf m = true := by
  refine ⟨below_of_mem_leaves, ?_⟩
  rintro ⟨below, isLeaf⟩
  -- the walk unfolds at the top, so the induction is on the first step of the way down
  induction below using ReflTransGen.head_induction_on with
  | refl =>
      obtain ⟨fuel, deep⟩ := Nat.exists_eq_add_of_le' (Nat.sub_pos_of_lt small)
      rw [deep, leaves, if_pos isLeaf]
      exact List.mem_singleton_self m
  | @head n c child _ ih =>
      have smaller := inside n c child
      have isNode : leaf n = false := by
        by_contra isLeaf
        rw [barren n (by simpa using isLeaf)] at child
        cases child
      obtain ⟨fuel, deep⟩ := Nat.exists_eq_add_of_le' (Nat.sub_pos_of_lt small)
      rw [deep, leaves, isNode]
      have later := forest.later child
      exact List.mem_flatMap.mpr ⟨c, child, leaves_mono (by omega) (ih smaller)⟩

end Forest
