import Mathlib.Data.List.Rotate

namespace BrokerMcp.Resilience

structure Rotor where
  keys : List String
  cursor : Nat
  inRange : cursor = 0 ∨ cursor < keys.length

namespace Rotor

def empty : Rotor := ⟨[], 0, .inl rfl⟩

def len (r : Rotor) : Nat := r.keys.length

/-- The source's `at`. -/
def atOffset (r : Rotor) (offset : Nat) : Option String :=
  r.keys[(r.cursor + offset) % r.keys.length]?

def advancePast (r : Rotor) (offset : Nat) : Rotor :=
  -- On an empty ring the source panics on the division; its callers have just read an entry.
  if nonempty : 0 < r.keys.length then
    { keys := r.keys
      cursor := (r.cursor + offset + 1) % r.keys.length
      inRange := .inr (Nat.mod_lt _ nonempty) }
  else r

def insert (r : Rotor) (key : String) : Rotor :=
  let cursor := if r.cursor > r.keys.length then r.keys.length else r.cursor
  let keys := r.keys.take cursor ++ key :: r.keys.drop cursor
  { keys
    cursor := if cursor + 1 ≥ keys.length then 0 else cursor + 1
    inRange := by split_ifs <;> omega }

def remove (r : Rotor) (key : String) : Rotor :=
  match r.keys.idxOf? key with
  | none => r
  | some i =>
      let keys := r.keys.eraseIdx i
      let cursor := if i < r.cursor then r.cursor - 1 else r.cursor
      { keys
        cursor := if keys.length = 0 ∨ cursor ≥ keys.length then 0 else cursor
        inRange := by split_ifs <;> omega }

/-- A loop of the scheduler over `range r.len()`: what the first offset and key to yield anything
yields. -/
def scan {β : Type} (r : Rotor) (visit : Nat → String → Option β) : Option β :=
  (List.range r.len).findSome? fun i => (r.atOffset i).bind (visit i)

def order (r : Rotor) : List String := r.keys.rotate r.cursor

theorem cursor_le (r : Rotor) : r.cursor ≤ r.keys.length := by
  rcases r.inRange with h | h <;> omega

@[simp] theorem order_empty : empty.order = [] := rfl

theorem length_order (r : Rotor) : r.order.length = r.len := List.length_rotate _ _

theorem mem_order {r : Rotor} {key : String} : key ∈ r.order ↔ key ∈ r.keys := List.mem_rotate

theorem order_eq (r : Rotor) : r.order = r.keys.drop r.cursor ++ r.keys.take r.cursor :=
  List.rotate_eq_drop_append_take r.cursor_le

theorem atOffset_eq {r : Rotor} {offset : Nat} (inside : offset < r.len) :
    r.atOffset offset = r.order[offset]? := by
  rw [order, List.getElem?_rotate inside, atOffset, Nat.add_comm]

theorem order_insert (r : Rotor) (key : String) : (r.insert key).order = r.order ++ [key] := by
  have le := r.cursor_le
  have clamp : (if r.cursor > r.keys.length then r.keys.length else r.cursor) = r.cursor :=
    if_neg (by omega)
  have front : (r.keys.take r.cursor).length = r.cursor := List.length_take_of_le le
  simp only [order, insert, clamp]
  rw [← order, order_eq]
  split_ifs with wrapped
  · have last : r.keys.drop r.cursor = [] := by
      simp only [List.length_append, List.length_cons, front, List.length_drop] at wrapped
      exact List.drop_eq_nil_of_le (by omega)
    simp [last]
  · have split := List.rotate_append_length_eq (r.keys.take r.cursor ++ [key]) (r.keys.drop r.cursor)
    rw [List.length_append, front, List.length_singleton, List.append_assoc,
      List.singleton_append] at split
    rw [split, List.append_assoc]

theorem split_at_cursor (r : Rotor) : ∃ before after,
    r.keys = before ++ after ∧ r.cursor = before.length ∧ r.order = after ++ before := by
  refine ⟨r.keys.take r.cursor, r.keys.drop r.cursor, ?_, ?_, r.order_eq⟩
  · exact (List.take_append_drop r.cursor r.keys).symm
  · exact (List.length_take_of_le r.cursor_le).symm

theorem order_remove {r : Rotor} (nodup : r.keys.Nodup) (key : String) :
    (r.remove key).order = r.order.erase key := by
  obtain ⟨before, after, keys, cursor, ordered⟩ := r.split_at_cursor
  rw [ordered]
  unfold remove
  cases found : r.keys.idxOf? key with
  | none =>
      have absent : key ∉ before ++ after := keys ▸ List.idxOf?_eq_none_iff.mp found
      rw [List.erase_of_not_mem (by simpa [and_comm] using absent)]
      exact ordered
  | some i =>
      have erased : r.keys.eraseIdx i = (before ++ after).erase key := by
        rw [← keys, List.erase_eq_eraseIdx, found]
      obtain ⟨inside, here, -⟩ := List.idxOf?_eq_some_iff.mp (keys ▸ found)
      have inRange := r.inRange
      rw [keys] at nodup inRange
      have disjoint := (List.nodup_append.mp nodup).2.2
      rw [List.length_append] at inside inRange
      simp only [order, erased, cursor]
      by_cases inFront : i < before.length
      · have member : key ∈ before := by
          rw [← here, List.getElem_append_left inFront]
          exact List.getElem_mem _
        have absent : key ∉ after := fun h => disjoint key member key h rfl
        have shorter := List.length_erase_of_mem member
        have kept : ¬ ((before.erase key ++ after).length = 0 ∨
            before.length - 1 ≥ (before.erase key ++ after).length) := by
          simp only [List.length_append, shorter]
          omega
        rw [List.erase_append_left _ member, List.erase_append_right _ absent, if_pos inFront,
          if_neg kept, ← shorter, List.rotate_append_length_eq]
      · have member : key ∈ after := by
          rw [← here, List.getElem_append_right (by omega)]
          exact List.getElem_mem _
        have absent : key ∉ before := fun h => disjoint key h key member rfl
        have shorter := List.length_erase_of_mem member
        rw [List.erase_append_right _ absent, List.erase_append_left _ member, if_neg inFront]
        split_ifs with wrapped
        · have last : after.erase key = [] := by
            apply List.eq_nil_of_length_eq_zero
            rw [List.length_append] at wrapped
            omega
          simp [last]
        · exact List.rotate_append_length_eq before (after.erase key)

theorem order_advancePast {r : Rotor} (offset : Nat) :
    (r.advancePast offset).order = r.order.rotate (offset + 1) := by
  unfold advancePast
  split_ifs with nonempty
  · simp only [order]
    rw [List.rotate_mod, List.rotate_rotate, Nat.add_assoc]
  · have none : r.keys = [] := List.eq_nil_of_length_eq_zero (by omega)
    simp [order, none]

theorem scan_eq_some {β : Type} {r : Rotor} {visit : Nat → String → Option β} {b : β}
    (found : r.scan visit = some b) : ∃ passed k behind, r.order = passed ++ k :: behind ∧
      visit passed.length k = some b ∧ ∀ k' ∈ passed, ∃ i, visit i k' = none := by
  obtain ⟨before, i, after, split, hit, missed⟩ := List.findSome?_eq_some_iff.mp found
  have length : before.length = i := by
    have here : (List.range r.len)[before.length]? = some i := by simp [split]
    obtain ⟨_, value⟩ := List.getElem?_eq_some_iff.mp here
    simpa using value
  have inside : i < r.len := by
    have sizes := congrArg List.length split
    simp only [List.length_range, List.length_append, List.length_cons] at sizes
    omega
  have inOrder : i < r.order.length := by rwa [r.length_order]
  refine ⟨r.order.take i, r.order[i], r.order.drop (i + 1), ?_, ?_, ?_⟩
  · rw [← List.drop_eq_getElem_cons, List.take_append_drop]
  · rw [atOffset_eq inside, List.getElem?_eq_getElem inOrder, Option.bind_some] at hit
    rw [List.length_take_of_le (by omega)]
    exact hit
  · intro k' member
    obtain ⟨j, below, value⟩ := List.mem_take_iff_getElem.mp member
    have earlier : j ∈ before := by
      have front : before = List.range i := by
        have taken := congrArg (List.take i) split
        rw [List.take_range, Nat.min_eq_left (by omega), ← length, List.take_left] at taken
        rw [← length]
        exact taken.symm
      rw [front, List.mem_range]
      omega
    have miss := missed j earlier
    rw [atOffset_eq (by omega), List.getElem?_eq_getElem (by omega), Option.bind_some, value] at miss
    exact ⟨j, miss⟩

theorem scan_eq_none {β : Type} {r : Rotor} {visit : Nat → String → Option β}
    (missed : r.scan visit = none) : ∀ k ∈ r.order, ∃ i, visit i k = none := by
  intro k member
  obtain ⟨i, inside, value⟩ := List.getElem_of_mem member
  have inRange : i < r.len := by rwa [← r.length_order]
  have miss := List.findSome?_eq_none_iff.mp missed i (List.mem_range.mpr inRange)
  rw [atOffset_eq inRange, List.getElem?_eq_getElem inside, Option.bind_some, value] at miss
  exact ⟨i, miss⟩

theorem order_advancePast_of_split {r : Rotor} {passed behind : List String} {k : String}
    (split : r.order = passed ++ k :: behind) :
    (r.advancePast passed.length).order = behind ++ (passed ++ [k]) := by
  have rotated := List.rotate_append_length_eq (passed ++ [k]) behind
  rw [List.length_append, List.length_singleton, List.append_assoc, List.singleton_append] at rotated
  rw [order_advancePast, split, rotated]

end Rotor
end BrokerMcp.Resilience
