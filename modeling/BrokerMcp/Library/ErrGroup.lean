import BrokerMcp.Library.Cells
import BrokerMcp.Library.Counting

/-!
# Groups of tasks that fail together

The tasks of a group finish in any order. As `errgroup` documents it, `Wait` blocks until every function
passed to `Go` has returned and then returns the first error among them, and the context that comes with
the group is cancelled the first time that one returns an error.
-/

namespace ErrGroup

variable {ε β : Type*}

structure Group (ε β : Type*) where
  results : List (Option (Except ε β))
  failure : Option ε

def start (tasks : Nat) : Group ε β := ⟨List.replicate tasks none, none⟩

def firstFailure (failure : Option ε) : Except ε β → Option ε
  | .error err => some (failure.getD err)
  | .ok _ => failure

def Group.finish (g : Group ε β) (i : Nat) (result : Except ε β) : Option (Group ε β) :=
  match g.results[i]? with
  | some none => some ⟨g.results.set i (some result), firstFailure g.failure result⟩
  | _ => none

def success? : Option (Except ε β) → Option β
  | some (.ok reply) => some reply
  | _ => none

/-- What `Wait` returns, with the replies of the tasks. -/
def Group.wait (g : Group ε β) : Option (Except ε (List β)) :=
  if g.results.all Option.isSome then
    match g.failure with
    | some err => some (.error err)
    | none => some (.ok (g.results.filterMap success?))
  else none

def Group.pending (g : Group ε β) : Nat := g.results.countP Option.isNone

def Clean (g : Group ε β) : Prop := g.failure = none → ∀ err, some (Except.error err) ∉ g.results

theorem clean_start (tasks : Nat) : Clean (start tasks : Group ε β) := by
  intro _ err member
  have none := List.eq_of_mem_replicate member
  cases none

variable {g h : Group ε β} {i : Nat} {result : Except ε β}

theorem finish_inv (done : g.finish i result = some h) :
    g.results[i]? = some none ∧
      h = ⟨g.results.set i (some result), firstFailure g.failure result⟩ := by
  unfold Group.finish at done
  split at done
  · next here => exact ⟨here, (Option.some.inj done).symm⟩
  · cases done

theorem Clean.set (clean : Clean g) (i : Nat) (result : Except ε β) :
    Clean ⟨g.results.set i (some result), firstFailure g.failure result⟩ := by
  intro none err member
  cases result with
  | error _ => cases none
  | ok reply =>
      rcases List.mem_or_eq_of_mem_set member with old | new
      · exact clean none err old
      · cases new

theorem filterMap_success {results : List (Option (Except ε β))}
    (finished : results.all Option.isSome = true) (clean : ∀ err, some (Except.error err) ∉ results) :
    results = (results.filterMap success?).map fun reply => some (.ok reply) := by
  induction results with
  | nil => rfl
  | cons first rest ih =>
      rw [List.all_cons, Bool.and_eq_true] at finished
      have later := ih finished.2 fun err member => clean err (.tail _ member)
      match first, finished.1 with
      | some (.error err), _ => exact absurd (.head _) (clean err)
      | some (.ok reply), _ =>
          rw [List.filterMap_cons]
          simp only [success?, List.map_cons]
          rw [← later]

theorem wait_inv (clean : Clean g) {waited : Except ε (List β)} (done : g.wait = some waited) :
    (∃ err, g.failure = some err ∧ waited = .error err) ∨
      ∃ replies, waited = .ok replies ∧ g.results = replies.map fun reply => some (.ok reply) := by
  unfold Group.wait at done
  split_ifs at done with finished
  split at done
  · next err failed => exact .inl ⟨err, failed, (Option.some.inj done).symm⟩
  · next none =>
      exact .inr ⟨_, (Option.some.inj done).symm, filterMap_success finished (clean none)⟩

theorem wait_of_finished (finished : g.pending = 0) : ∃ waited, g.wait = some waited := by
  have all : g.results.all Option.isSome = true := by
    rw [List.all_eq_true]
    intro result member
    rw [← Option.not_isNone, Bool.not_eq_true', Bool.eq_false_iff]
    exact List.countP_eq_zero.mp finished result member
  unfold Group.wait
  rw [if_pos all]
  split <;> exact ⟨_, rfl⟩

theorem finish_of_pending (pending : g.pending ≠ 0) (result : Except ε β) :
    ∃ i h, g.finish i result = some h ∧ h.pending < g.pending := by
  obtain ⟨_, member, vacant⟩ := List.countP_pos_iff.mp (Nat.pos_of_ne_zero pending)
  obtain ⟨i, here⟩ := List.mem_iff_getElem?.mp member
  rw [Option.isNone_iff_eq_none.mp vacant] at here
  refine ⟨i, ⟨g.results.set i (some result), firstFailure g.failure result⟩, ?_, ?_⟩
  · rw [Group.finish, here]
  · have counted := Counting.countP_set here (some result) Option.isNone
    rw [Option.isNone_none, Option.isNone_some, Bool.toNat_true, Bool.toNat_false] at counted
    change (g.results.set i (some result)).countP Option.isNone < g.results.countP Option.isNone
    omega

end ErrGroup
