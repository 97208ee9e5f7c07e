import Mathlib.Algebra.GroupWithZero.Nat
import Mathlib.Data.List.Basic

namespace Assoc

variable {κ ν : Type*} [DecidableEq κ]

def put (k : κ) (v : ν) : List (κ × ν) → List (κ × ν)
  | [] => [(k, v)]
  | (j, w) :: rest => if j = k then (k, v) :: rest else (j, w) :: put k v rest

def drop (k : κ) (m : List (κ × ν)) : List (κ × ν) :=
  m.filter fun e => e.1 ≠ k

theorem lookup_cons_eq (j k : κ) (v : ν) (m : List (κ × ν)) :
    ((k, v) :: m).lookup j = if j = k then some v else m.lookup j := by
  rw [List.lookup_cons]
  by_cases same : j = k
  · simp [same]
  · have apart : (j == k) = false := by simpa using same
    simp [same, apart]

theorem lookup_map_entries {μ : Type*} (f : κ × ν → μ) (m : List (κ × ν)) (k : κ) :
    (m.map fun e => (e.1, f e)).lookup k = (m.lookup k).map fun v => f (k, v) := by
  induction m with
  | nil => rfl
  | cons e rest ih =>
      obtain ⟨i, w⟩ := e
      rw [List.map_cons, lookup_cons_eq, lookup_cons_eq, ih]
      split_ifs with here
      · rw [here, Option.map_some]
      · rfl

theorem lookup_put (j k : κ) (v : ν) (m : List (κ × ν)) :
    (put k v m).lookup j = if j = k then some v else m.lookup j := by
  induction m with
  | nil => exact lookup_cons_eq j k v []
  | cons e rest ih =>
      obtain ⟨i, w⟩ := e
      unfold put
      split_ifs with here same same
      · simp [same]
      · simp [lookup_cons_eq, same, here]
      · subst same
        rw [lookup_cons_eq, if_neg (Ne.symm here), ih, if_pos rfl]
      · rw [lookup_cons_eq, lookup_cons_eq, ih, if_neg same]

theorem put_of_not_mem {k : κ} {m : List (κ × ν)} (v : ν) (fresh : k ∉ m.map Prod.fst) :
    put k v m = m ++ [(k, v)] := by
  induction m with
  | nil => rfl
  | cons e rest ih =>
      obtain ⟨i, w⟩ := e
      obtain ⟨apart, fresh⟩ := not_or.mp (mt List.mem_cons.mpr fresh)
      rw [put, if_neg (Ne.symm apart), ih fresh, List.cons_append]

theorem sum_map_put (g : κ × ν → Nat) (k : κ) (v : ν) (m : List (κ × ν)) :
    ((put k v m).map g).sum + ((m.lookup k).elim 0 fun w => g (k, w)) = (m.map g).sum + g (k, v) := by
  induction m with
  | nil => simp [put]
  | cons e rest ih =>
      obtain ⟨i, w⟩ := e
      rw [put, lookup_cons_eq]
      by_cases same : i = k
      · subst same
        rw [if_pos rfl, if_pos rfl, Option.elim_some]
        simp only [List.map_cons, List.sum_cons]
        omega
      · rw [if_neg same, if_neg (Ne.symm same)]
        simp only [List.map_cons, List.sum_cons]
        omega

theorem keys_put {k : κ} {m : List (κ × ν)} (v : ν) (present : k ∈ m.map Prod.fst) :
    (put k v m).map Prod.fst = m.map Prod.fst := by
  induction m with
  | nil => cases present
  | cons e rest ih =>
      obtain ⟨i, w⟩ := e
      rw [put]
      split_ifs with same
      · rw [List.map_cons, List.map_cons, same]
      · have later := (List.mem_cons.mp present).resolve_left (Ne.symm same)
        rw [List.map_cons, List.map_cons, ih later]

theorem map_put {μ : Type*} (f : ν → μ) (k : κ) (v : ν) (m : List (κ × ν)) :
    (put k v m).map (fun e => (e.1, f e.2)) = put k (f v) (m.map fun e => (e.1, f e.2)) := by
  induction m with
  | nil => rfl
  | cons e rest ih =>
      obtain ⟨i, w⟩ := e
      rw [put, List.map_cons, put]
      split_ifs with same
      · rfl
      · rw [List.map_cons, ih]

theorem map_drop {μ : Type*} (f : ν → μ) (k : κ) (m : List (κ × ν)) :
    (drop k m).map (fun e => (e.1, f e.2)) = drop k (m.map fun e => (e.1, f e.2)) := by
  rw [drop, drop, List.filter_map]
  rfl

theorem foldl_put {m copied : List (κ × ν)} (distinct : ((copied ++ m).map Prod.fst).Nodup) :
    m.foldl (fun acc e => put e.1 e.2 acc) copied = copied ++ m := by
  induction m generalizing copied with
  | nil => rw [List.append_nil]; rfl
  | cons e rest ih =>
      have fresh : e.1 ∉ copied.map Prod.fst := by
        rw [List.map_append, List.map_cons] at distinct
        intro old
        exact (List.nodup_append.mp distinct).2.2 e.1 old e.1 List.mem_cons_self rfl
      rw [List.foldl_cons, put_of_not_mem _ fresh, ih (by simpa using distinct)]
      simp

theorem lookup_drop (j k : κ) (m : List (κ × ν)) :
    (drop k m).lookup j = if j = k then none else m.lookup j := by
  induction m with
  | nil => simp [drop]
  | cons e rest ih =>
      obtain ⟨i, w⟩ := e
      unfold drop at ih ⊢
      rw [List.filter_cons, lookup_cons_eq]
      by_cases here : i = k
      · subst here
        simp only [ne_eq, not_true_eq_false, decide_false, Bool.false_eq_true, ↓reduceIte, ih]
        split_ifs <;> rfl
      · simp only [ne_eq, here, not_false_eq_true, decide_true, ↓reduceIte, lookup_cons_eq, ih]
        split_ifs with same other
        · exact absurd (same.symm.trans other) here
        all_goals rfl

theorem mem_of_lookup {m : List (κ × ν)} {k : κ} {v : ν} (found : m.lookup k = some v) :
    (k, v) ∈ m := by
  induction m with
  | nil => cases found
  | cons e rest ih =>
      obtain ⟨i, w⟩ := e
      rw [lookup_cons_eq] at found
      split_ifs at found with same
      · obtain rfl := Option.some.inj found
        subst same
        exact .head _
      · exact .tail _ (ih found)

theorem mem_of_mem_put {m : List (κ × ν)} {k : κ} {v : ν} {e : κ × ν} (member : e ∈ put k v m) :
    e = (k, v) ∨ e ∈ m := by
  induction m with
  | nil => exact .inl (List.mem_singleton.mp member)
  | cons f rest ih =>
      obtain ⟨j, w⟩ := f
      unfold put at member
      split_ifs at member
      · exact (List.mem_cons.mp member).imp_right (.tail _)
      · rcases List.mem_cons.mp member with rfl | later
        · exact .inr (.head _)
        · exact (ih later).imp_right (.tail _)

theorem mem_drop_iff {m : List (κ × ν)} {k : κ} {e : κ × ν} : e ∈ drop k m ↔ e ∈ m ∧ e.1 ≠ k := by
  simp [drop]

theorem mem_keys_iff {m : List (κ × ν)} {k : κ} :
    k ∈ m.map Prod.fst ↔ ∃ v, m.lookup k = some v := by
  constructor
  · intro member
    induction m with
    | nil => cases member
    | cons e rest ih =>
        obtain ⟨i, w⟩ := e
        rw [lookup_cons_eq]
        split_ifs with same
        · exact ⟨w, rfl⟩
        · rw [List.map_cons, List.mem_cons] at member
          exact ih (member.resolve_left same)
  · rintro ⟨v, found⟩
    exact List.mem_map.mpr ⟨(k, v), mem_of_lookup found, rfl⟩

theorem nodup_put (k : κ) (v : ν) {m : List (κ × ν)} (distinct : (m.map Prod.fst).Nodup) :
    ((put k v m).map Prod.fst).Nodup := by
  induction m with
  | nil => simp [put]
  | cons e rest ih =>
      obtain ⟨i, w⟩ := e
      obtain ⟨fresh, distinct⟩ := List.nodup_cons.mp distinct
      unfold put
      split_ifs with here
      · subst here
        exact List.nodup_cons.mpr ⟨fresh, distinct⟩
      · refine List.nodup_cons.mpr ⟨?_, ih distinct⟩
        rw [mem_keys_iff] at fresh ⊢
        rwa [lookup_put, if_neg here]

theorem lookup_eq_some_iff {m : List (κ × ν)} (distinct : (m.map Prod.fst).Nodup) {k : κ} {v : ν} :
    m.lookup k = some v ↔ (k, v) ∈ m := by
  refine ⟨mem_of_lookup, fun member => ?_⟩
  induction m with
  | nil => cases member
  | cons e rest ih =>
      obtain ⟨i, w⟩ := e
      rw [List.map_cons, List.nodup_cons] at distinct
      rw [lookup_cons_eq]
      rcases List.mem_cons.mp member with here | later
      · obtain ⟨rfl, rfl⟩ := Prod.mk.inj here
        rw [if_pos rfl]
      · have apart : k ≠ i := by
          rintro rfl
          exact distinct.1 (List.mem_map.mpr ⟨(k, v), later, rfl⟩)
        rw [if_neg apart, ih distinct.2 later]

theorem ext_lookup {m n : List (κ × ν)} (keys : m.map Prod.fst = n.map Prod.fst)
    (distinct : (n.map Prod.fst).Nodup) (same : ∀ k, m.lookup k = n.lookup k) : m = n := by
  induction n generalizing m with
  | nil => exact List.map_eq_nil_iff.mp keys
  | cons e rest ih =>
      obtain ⟨i, w⟩ := e
      cases m with
      | nil => cases keys
      | cons f tail =>
          obtain ⟨j, x⟩ := f
          obtain ⟨rfl, tails⟩ := List.cons_eq_cons.mp keys
          obtain ⟨fresh, others⟩ := List.nodup_cons.mp distinct
          have absent : ∀ l : List (κ × ν), j ∉ l.map Prod.fst → l.lookup j = none := by
            intro l missing
            cases found : l.lookup j with
            | none => rfl
            | some v => exact absurd (mem_keys_iff.mpr ⟨v, found⟩) missing
          have first := same j
          rw [lookup_cons_eq, lookup_cons_eq, if_pos rfl, if_pos rfl] at first
          have later : ∀ k, tail.lookup k = rest.lookup k := by
            intro k
            by_cases here : k = j
            · rw [here, absent rest fresh, absent tail (tails ▸ fresh)]
            · have next := same k
              rwa [lookup_cons_eq, lookup_cons_eq, if_neg here, if_neg here] at next
          rw [Option.some.inj first, ih tails others later]

theorem lookup_perm {m n : List (κ × ν)} (perm : m.Perm n) (distinct : (n.map Prod.fst).Nodup)
    (k : κ) : m.lookup k = n.lookup k := by
  have distinct' : (m.map Prod.fst).Nodup := (perm.map Prod.fst).nodup_iff.mpr distinct
  apply Option.ext
  intro v
  rw [lookup_eq_some_iff distinct', lookup_eq_some_iff distinct]
  exact perm.mem_iff

end Assoc
