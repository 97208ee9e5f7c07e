import Mathlib.Algebra.GroupWithZero.Nat
import Mathlib.Data.List.Basic

namespace Counting

variable {α : Type*}

theorem countP_cons_toNat (p : α → Bool) (x : α) (xs : List α) :
    (x :: xs).countP p = xs.countP p + (p x).toNat := by
  rw [List.countP_cons]
  cases p x <;> rfl

theorem countP_modify {xs : List α} {i : Nat} {x : α} (found : xs[i]? = some x) (f : α → α)
    (p : α → Bool) : (xs.modify i f).countP p + (p x).toNat = xs.countP p + (p (f x)).toNat := by
  induction xs generalizing i with
  | nil => cases found
  | cons y xs ih =>
      cases i with
      | zero =>
          obtain rfl : y = x := by simpa using found
          rw [List.modify_zero_cons, countP_cons_toNat, countP_cons_toNat]
          omega
      | succ i =>
          have rest := ih (i := i) (by simpa using found)
          rw [List.modify_succ_cons, countP_cons_toNat, countP_cons_toNat]
          omega

theorem countP_set {xs : List α} {i : Nat} {x : α} (found : xs[i]? = some x) (y : α)
    (p : α → Bool) : (xs.set i y).countP p + (p x).toNat = xs.countP p + (p y).toNat := by
  have : Inhabited α := ⟨x⟩
  have modified := countP_modify found (fun _ => y) p
  rwa [List.modify_eq_set] at modified

theorem length_le_countP {p q r : α → Bool} {xs : List α}
    (covered : ∀ x ∈ xs, 1 ≤ (p x).toNat + (q x).toNat + (r x).toNat) :
    xs.length ≤ xs.countP p + xs.countP q + xs.countP r := by
  induction xs with
  | nil => simp
  | cons x xs ih =>
      have here := covered x (by simp)
      have rest := ih fun y member => covered y (by simp [member])
      rw [List.length_cons, countP_cons_toNat, countP_cons_toNat, countP_cons_toNat]
      omega

theorem sum_eq_zero {l : List α} {f : α → Nat} (nothing : ∀ x ∈ l, f x = 0) : (l.map f).sum = 0 := by
  induction l with
  | nil => rfl
  | cons x l ih =>
      obtain ⟨here, later⟩ := List.forall_mem_cons.mp nothing
      rw [List.map_cons, List.sum_cons, here, ih later]

theorem sum_le_of_alone {l : List α} {f : α → Nat} {bound : Nat} (each : ∀ x ∈ l, f x ≤ bound)
    (alone : ∀ (i j : Nat) (x y : α), l[i]? = some x → l[j]? = some y → f x ≠ 0 → f y ≠ 0 → i = j) :
    (l.map f).sum ≤ bound := by
  induction l with
  | nil => exact Nat.zero_le bound
  | cons x l ih =>
      obtain ⟨here, later⟩ := List.forall_mem_cons.mp each
      rw [List.map_cons, List.sum_cons]
      by_cases nothing : f x = 0
      · rw [nothing, Nat.zero_add]
        apply ih later
        intro i j y z found found' some some'
        exact Nat.succ.inj (alone (i + 1) (j + 1) y z found found' some some')
      · have rest : (l.map f).sum = 0 := by
          apply sum_eq_zero
          intro y member
          by_contra some
          obtain ⟨j, found⟩ := List.mem_iff_getElem?.mp member
          have same := alone 0 (j + 1) x y rfl found nothing some
          cases same
        rw [rest, Nat.add_zero]
        exact here

end Counting
