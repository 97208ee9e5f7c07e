import Mathlib.Algebra.BigOperators.Group.List.Basic
import Mathlib.Algebra.GroupWithZero.Nat
import Mathlib.Data.List.AList

namespace AList

variable {κ ν : Type*} [DecidableEq κ]

def size (m : AList fun _ : κ => ν) : Nat :=
  m.entries.length

def total (m : AList fun _ : κ => ν) (weight : ν → Nat) : Nat :=
  (m.entries.map fun e => weight e.2).sum

def any (m : AList fun _ : κ => ν) (p : κ → ν → Bool) : Bool :=
  m.entries.any fun e => p e.1 e.2

theorem any_iff {m : AList fun _ : κ => ν} {p : κ → ν → Bool} :
    m.any p = true ↔ ∃ k v, m.lookup k = some v ∧ p k v = true := by
  simp only [any, List.any_eq_true, ← Option.mem_def, mem_lookup_iff]
  exact ⟨fun ⟨e, member, holds⟩ => ⟨e.1, e.2, member, holds⟩,
    fun ⟨k, v, member, holds⟩ => ⟨⟨k, v⟩, member, holds⟩⟩

theorem entries_erase (m : AList fun _ : κ => ν) (k : κ) :
    (m.erase k).entries = m.entries.kerase k := rfl

theorem entries_perm {m : AList fun _ : κ => ν} {k : κ} {v : ν} (found : m.lookup k = some v) :
    m.entries.Perm (⟨k, v⟩ :: (m.erase k).entries) := by
  have member : (⟨k, v⟩ : Sigma fun _ : κ => ν) ∈ m.entries := mem_lookup_iff.mp found
  obtain ⟨w, front, back, absent, split, erased⟩ :=
    List.exists_of_kerase (List.mem_keys_of_mem member)
  have same : w = v := by
    have other : m.lookup k = some w := mem_lookup_iff.mpr (by simp [split])
    exact Option.some.inj (other.symm.trans found)
  subst same
  rw [entries_erase, erased]
  conv_lhs => rw [split]
  exact List.perm_middle

theorem total_erase {m : AList fun _ : κ => ν} {k : κ} {v : ν} (found : m.lookup k = some v)
    (weight : ν → Nat) : m.total weight = weight v + (m.erase k).total weight := by
  simpa [total] using ((entries_perm found).map fun e => weight e.2).sum_eq

theorem size_erase {m : AList fun _ : κ => ν} {k : κ} {v : ν} (found : m.lookup k = some v) :
    m.size = (m.erase k).size + 1 := by
  simpa [size] using (entries_perm found).length_eq

theorem total_insert (m : AList fun _ : κ => ν) (k : κ) (v : ν) (weight : ν → Nat) :
    (m.insert k v).total weight = weight v + (m.erase k).total weight := by
  simp [total, entries_insert, entries_erase]

theorem size_insert (m : AList fun _ : κ => ν) (k : κ) (v : ν) :
    (m.insert k v).size = (m.erase k).size + 1 := by
  simp [size, entries_insert, entries_erase]

theorem erase_eq_of_lookup_none {m : AList fun _ : κ => ν} {k : κ} (absent : m.lookup k = none) :
    m.erase k = m :=
  AList.ext (List.kerase_of_notMem_keys (lookup_eq_none.mp absent))

theorem total_insert_of_lookup {m : AList fun _ : κ => ν} {k : κ} {v : ν}
    (found : m.lookup k = some v) (w : ν) (weight : ν → Nat) :
    (m.insert k w).total weight + weight v = m.total weight + weight w := by
  rw [total_insert, total_erase found]
  omega

theorem total_insert_of_none {m : AList fun _ : κ => ν} {k : κ} (absent : m.lookup k = none)
    (w : ν) (weight : ν → Nat) : (m.insert k w).total weight = m.total weight + weight w := by
  rw [total_insert, erase_eq_of_lookup_none absent]
  omega

theorem size_insert_of_lookup {m : AList fun _ : κ => ν} {k : κ} {v : ν}
    (found : m.lookup k = some v) (w : ν) : (m.insert k w).size = m.size := by
  rw [size_insert, size_erase found]

theorem le_total {m : AList fun _ : κ => ν} {k : κ} {v : ν} (found : m.lookup k = some v)
    (weight : ν → Nat) : weight v ≤ m.total weight := by
  rw [total_erase found]
  omega

theorem lookup_of_size_one {m : AList fun _ : κ => ν} (lone : m.size = 1) :
    ∃ k v, m.lookup k = some v ∧ ∀ j w, m.lookup j = some w → j = k := by
  obtain ⟨⟨k, v⟩, shape⟩ := List.length_eq_one_iff.mp lone
  refine ⟨k, v, mem_lookup_iff.mpr (by simp [shape]), fun j w found => ?_⟩
  have member : (⟨j, w⟩ : Sigma fun _ : κ => ν) ∈ m.entries := mem_lookup_iff.mp found
  rw [shape, List.mem_singleton] at member
  exact congrArg Sigma.fst member

theorem erase_insert (m : AList fun _ : κ => ν) (k : κ) (v : ν) :
    (m.insert k v).erase k = m.erase k := by
  apply AList.ext
  rw [entries_erase, entries_erase, entries_insert]
  exact List.kerase_cons_eq rfl

theorem lookup_insert_eq (m : AList fun _ : κ => ν) (j k : κ) (v : ν) :
    (m.insert k v).lookup j = if j = k then some v else m.lookup j := by
  split_ifs with same
  · subst same
    exact lookup_insert m
  · exact lookup_insert_ne same

theorem lookup_erase_eq (m : AList fun _ : κ => ν) (j k : κ) :
    (m.erase k).lookup j = if j = k then none else m.lookup j := by
  split_ifs with same
  · subst same
    exact lookup_erase _ m
  · exact lookup_erase_ne same

end AList
