import Mathlib.Data.List.Nodup

namespace Cells

variable {α : Type*} {l : List α} {a : α} {i : Nat}

theorem getElem?_set_of_some (here : l[i]? = some a) (b : α) (j : Nat) :
    (l.set i b)[j]? = if j = i then some b else l[j]? := by
  rw [List.getElem?_set]
  by_cases same : i = j
  · subst same
    have bound := (List.getElem?_eq_some_iff.mp here).1
    simp [bound]
  · simp [same, Ne.symm same]

theorem getElem?_snoc (l : List α) (b : α) (j : Nat) :
    (l ++ [b])[j]? = if j = l.length then some b else l[j]? := by
  split_ifs with last
  · simp [last]
  · rcases Nat.lt_or_gt_of_ne last with inside | outside
    · exact List.getElem?_append_left inside
    · rw [List.getElem?_eq_none (Nat.le_of_lt outside), List.getElem?_eq_none]
      simp only [List.length_append, List.length_singleton]
      omega

theorem lt_of_some (here : l[i]? = some a) : i < l.length :=
  (List.getElem?_eq_some_iff.mp here).1

theorem map_set_same {β : Type*} {f : α → β} {b : α} (here : l[i]? = some a) (same : f b = f a) :
    (l.set i b).map f = l.map f := by
  apply List.ext_getElem?
  intro j
  rw [List.getElem?_map, List.getElem?_map, getElem?_set_of_some here]
  split_ifs with changed
  · rw [changed, here, Option.map_some, Option.map_some, same]
  · rfl

theorem map_modify_same {β : Type*} {f : α → α} {g : α → β} (same : ∀ a, g (f a) = g a) (l : List α)
    (i : Nat) : (l.modify i f).map g = l.map g := by
  apply List.ext_getElem?
  intro j
  rw [List.getElem?_map, List.getElem?_map, List.getElem?_modify]
  cases l[j]? with
  | none => rfl
  | some a =>
      by_cases here : i = j
      · simp [here, same]
      · simp [here]

theorem flatMap_set_perm {β : Type*} {f : α → List β} {b : α} (here : l[i]? = some a)
    (nothing : f a = []) : ((l.set i b).flatMap f).Perm (l.flatMap f ++ f b) := by
  induction l generalizing i with
  | nil => cases here
  | cons c rest ih =>
      cases i with
      | zero =>
          obtain rfl : c = a := Option.some.inj here
          rw [List.set_cons_zero, List.flatMap_cons, List.flatMap_cons, nothing, List.nil_append]
          exact List.perm_append_comm
      | succ i =>
          rw [List.set_cons_succ, List.flatMap_cons, List.flatMap_cons, List.append_assoc]
          exact (ih here).append_left (f c)

theorem eq_of_mem_flatMap {β : Type*} {f : α → List β} {a' : α} {j : Nat} {b : β}
    (nodup : (l.flatMap f).Nodup) (here : l[i]? = some a) (there : l[j]? = some a') (mine : b ∈ f a)
    (yours : b ∈ f a') : i = j := by
  have apart := (List.nodup_flatMap.mp nodup).2
  rw [List.pairwise_iff_getElem] at apart
  obtain ⟨iIn, rfl⟩ := List.getElem?_eq_some_iff.mp here
  obtain ⟨jIn, rfl⟩ := List.getElem?_eq_some_iff.mp there
  rcases Nat.lt_trichotomy i j with less | same | more
  · exact absurd yours (apart i j iIn jIn less mine)
  · exact same
  · exact absurd mine (apart j i jIn iIn more yours)

theorem forall_set {P : Nat → α → Prop} {b : α} (here : l[i]? = some a)
    (others : ∀ j x, l[j]? = some x → P j x) (new : P i b) :
    ∀ j x, (l.set i b)[j]? = some x → P j x := by
  intro j x found
  rw [getElem?_set_of_some here] at found
  split_ifs at found with same
  · obtain rfl := Option.some.inj found
    exact same ▸ new
  · exact others j x found

theorem forall_snoc {P : Nat → α → Prop} {b : α} (others : ∀ j x, l[j]? = some x → P j x)
    (new : P l.length b) : ∀ j x, (l ++ [b])[j]? = some x → P j x := by
  intro j x found
  rw [getElem?_snoc] at found
  split_ifs at found with last
  · obtain rfl := Option.some.inj found
    exact last ▸ new
  · exact others j x found

theorem exists_at {P : α → Prop} (here : l[i]? = some a) :
    (∃ (j : Nat) (x : α), l[j]? = some x ∧ P x) ↔
      P a ∨ ∃ (j : Nat) (x : α), j ≠ i ∧ l[j]? = some x ∧ P x := by
  constructor
  · rintro ⟨j, x, found, holds⟩
    by_cases same : j = i
    · subst same
      exact .inl (Option.some.inj (here.symm.trans found) ▸ holds)
    · exact .inr ⟨j, x, same, found, holds⟩
  · rintro (holds | ⟨j, x, -, found, holds⟩)
    · exact ⟨i, a, here, holds⟩
    · exact ⟨j, x, found, holds⟩

theorem exists_set {P : α → Prop} (here : l[i]? = some a) (b : α) :
    (∃ (j : Nat) (x : α), (l.set i b)[j]? = some x ∧ P x) ↔
      P b ∨ ∃ (j : Nat) (x : α), j ≠ i ∧ l[j]? = some x ∧ P x := by
  have new : (l.set i b)[i]? = some b := by rw [getElem?_set_of_some here, if_pos rfl]
  rw [exists_at new]
  refine or_congr_right (exists_congr fun j => exists_congr fun x => and_congr_right fun other => ?_)
  rw [getElem?_set_of_some here, if_neg other]

theorem exists_snoc {P : α → Prop} (b : α) :
    (∃ (j : Nat) (x : α), (l ++ [b])[j]? = some x ∧ P x) ↔
      P b ∨ ∃ (j : Nat) (x : α), l[j]? = some x ∧ P x := by
  have new : (l ++ [b])[l.length]? = some b := by rw [getElem?_snoc, if_pos rfl]
  rw [exists_at new]
  refine or_congr_right (exists_congr fun j => exists_congr fun x => ?_)
  rw [getElem?_snoc]
  constructor
  · rintro ⟨other, found, holds⟩
    rw [if_neg other] at found
    exact ⟨found, holds⟩
  · rintro ⟨found, holds⟩
    have other := Nat.ne_of_lt (lt_of_some found)
    exact ⟨other, by rw [if_neg other, found], holds⟩

end Cells
