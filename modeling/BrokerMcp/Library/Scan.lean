import Mathlib.Data.List.Basic
import Mathlib.Data.List.Infix
import Mathlib.Tactic.Common

namespace Scan

variable {α β : Type*}

def find (matchAt : List α → Option β) : List α → Option (Nat × β)
  | [] => (matchAt []).map fun m => (0, m)
  | c :: rest =>
      match matchAt (c :: rest) with
      | some m => some (0, m)
      | none => (find matchAt rest).map fun found => (found.1 + 1, found.2)

variable {matchAt : List α → Option β}

theorem find_cons_of_some {c : α} {rest : List α} {m : β} (here : matchAt (c :: rest) = some m) :
    find matchAt (c :: rest) = some (0, m) := by
  rw [find, here]

theorem find_cons_of_none {c : α} {rest : List α} (absent : matchAt (c :: rest) = none) :
    find matchAt (c :: rest) = (find matchAt rest).map fun found => (found.1 + 1, found.2) := by
  rw [find, absent]

theorem find_eq_none {text : List α} :
    find matchAt text = none ↔ ∀ rest, rest <:+ text → matchAt rest = none := by
  induction text with
  | nil => simp [find]
  | cons c text ih =>
      cases here : matchAt (c :: text) with
      | some m =>
          rw [find_cons_of_some here]
          constructor
          · intro absent
            cases absent
          · intro absent
            rw [absent _ (List.suffix_refl _)] at here
            cases here
      | none =>
          rw [find_cons_of_none here, Option.map_eq_none_iff, ih]
          constructor
          · intro absent rest suffix
            rcases List.suffix_cons_iff.mp suffix with rfl | later
            · exact here
            · exact absent rest later
          · intro absent rest suffix
            exact absent rest (suffix.trans (List.suffix_cons c text))

theorem find_eq_some {text : List α} {i : Nat} {m : β} :
    find matchAt text = some (i, m) ↔
      ∃ passed rest, text = passed ++ rest ∧ passed.length = i ∧ matchAt rest = some m ∧
        ∀ early, early <:+ passed → early ≠ [] → matchAt (early ++ rest) = none := by
  induction text generalizing i with
  | nil =>
      simp only [find, Option.map_eq_some_iff, Prod.mk.injEq, List.nil_eq_append_iff]
      constructor
      · rintro ⟨_, here, rfl, rfl⟩
        refine ⟨[], [], ⟨rfl, rfl⟩, rfl, here, ?_⟩
        intro early suffix nonempty
        exact absurd (List.suffix_nil.mp suffix) nonempty
      · rintro ⟨passed, rest, ⟨rfl, rfl⟩, rfl, here, -⟩
        exact ⟨m, here, rfl, rfl⟩
  | cons c text ih =>
      cases here : matchAt (c :: text) with
      | some first =>
          rw [find_cons_of_some here]
          constructor
          · intro found
            obtain ⟨rfl, rfl⟩ := Prod.mk.inj (Option.some.inj found)
            refine ⟨[], c :: text, rfl, rfl, here, ?_⟩
            intro early suffix nonempty
            exact absurd (List.suffix_nil.mp suffix) nonempty
          · rintro ⟨passed, rest, split, rfl, found, unmatched⟩
            cases passed with
            | nil =>
                rw [List.nil_append] at split
                rw [← split, here] at found
                rw [Option.some.inj found]
                rfl
            | cons d passed =>
                have := unmatched (d :: passed) (List.suffix_refl _) (List.cons_ne_nil _ _)
                rw [← split, here] at this
                cases this
      | none =>
          rw [find_cons_of_none here]
          simp only [Option.map_eq_some_iff, Prod.mk.injEq, Prod.exists]
          constructor
          · rintro ⟨j, first, found, rfl, rfl⟩
            obtain ⟨passed, rest, rfl, rfl, at_rest, unmatched⟩ := ih.mp found
            refine ⟨c :: passed, rest, rfl, rfl, at_rest, ?_⟩
            intro early suffix nonempty
            rcases List.suffix_cons_iff.mp suffix with rfl | later
            · exact here
            · exact unmatched early later nonempty
          · rintro ⟨passed, rest, split, rfl, found, unmatched⟩
            cases passed with
            | nil =>
                rw [List.nil_append] at split
                rw [← split, here] at found
                cases found
            | cons d passed =>
                obtain ⟨rfl, rfl⟩ := List.cons.inj split
                refine ⟨passed.length, m, ih.mpr ⟨passed, rest, rfl, rfl, found, ?_⟩, rfl, rfl⟩
                intro early suffix nonempty
                exact unmatched early (suffix.trans (List.suffix_cons _ _)) nonempty

/-- The leftmost of two matches, and the first of them where they start at one place. -/
def leftmost : Option (Nat × β) → Option (Nat × β) → Option (Nat × β)
  | none, other => other
  | some first, none => some first
  | some first, some second => if first.1 ≤ second.1 then some first else some second

theorem leftmost_map_succ (first second : Option (Nat × β)) :
    leftmost (first.map fun found => (found.1 + 1, found.2))
        (second.map fun found => (found.1 + 1, found.2)) =
      (leftmost first second).map fun found => (found.1 + 1, found.2) := by
  cases first with
  | none => cases second <;> rfl
  | some first =>
      cases second with
      | none => rfl
      | some second =>
          simp only [Option.map_some, leftmost, Nat.add_le_add_iff_right]
          split <;> rfl

theorem leftmost_find (matchAt other : List α → Option β) (text : List α) :
    leftmost (find matchAt text) (find other text) =
      find (fun rest => (matchAt rest).or (other rest)) text := by
  induction text with
  | nil => cases first : matchAt [] <;> cases second : other [] <;> simp [find, first, second, leftmost]
  | cons c text ih =>
      cases first : matchAt (c :: text) with
      | some m =>
          have both : find (fun rest => (matchAt rest).or (other rest)) (c :: text) = some (0, m) := by
            apply find_cons_of_some
            rw [first, Option.some_or]
          rw [find_cons_of_some first, both]
          cases find other (c :: text) <;> simp [leftmost]
      | none =>
          cases second : other (c :: text) with
          | some m =>
              have both :
                  find (fun rest => (matchAt rest).or (other rest)) (c :: text) = some (0, m) := by
                apply find_cons_of_some
                rw [first, second, Option.none_or]
              rw [find_cons_of_none first, find_cons_of_some second, both]
              cases find matchAt text <;> simp [leftmost]
          | none =>
              have neither : (matchAt (c :: text)).or (other (c :: text)) = none := by
                rw [first, second, Option.none_or]
              rw [find_cons_of_none first, find_cons_of_none second, leftmost_map_succ, ih]
              exact (find_cons_of_none neither).symm

end Scan
