import BrokerMcp.Library.Counting
import BrokerMcp.Resilience.Scheduler
import Mathlib.Data.List.Nodup
import Mathlib.Data.List.Range

namespace BrokerMcp.Proof.Scheduler
open Resilience

def pending (w : Waiter) : Bool := !w.granted && !w.resolved && w.err.isNone

def holding (w : Waiter) : Bool := w.granted && !w.resolved

def pendingIds (ws : List Waiter) (key : CallerKey) : List Nat :=
  (List.range ws.length).filter fun i => ws[i]?.any fun w => w.key = key && pending w

def holders (ws : List Waiter) (key : CallerKey) : Nat :=
  ws.countP fun w => w.key = key && holding w

theorem mem_pendingIds {ws : List Waiter} {key : CallerKey} {i : Nat} :
    i ∈ pendingIds ws key ↔ ∃ w, ws[i]? = some w ∧ w.key = key ∧ pending w = true := by
  simp only [pendingIds, List.mem_filter, List.mem_range, Option.any_eq_true, Bool.and_eq_true,
    decide_eq_true_eq]
  constructor
  · rintro ⟨-, w, found, same, waiting⟩
    exact ⟨w, found, same, waiting⟩
  · rintro ⟨w, found, same, waiting⟩
    exact ⟨(List.getElem?_eq_some_iff.mp found).1, w, found, same, waiting⟩

theorem nodup_pendingIds (ws : List Waiter) (key : CallerKey) : (pendingIds ws key).Nodup :=
  List.nodup_range.filter _

theorem pendingIds_append (ws : List Waiter) (w : Waiter) (key : CallerKey) :
    pendingIds (ws ++ [w]) key =
      pendingIds ws key ++ if w.key = key && pending w then [ws.length] else [] := by
  have old : (List.range ws.length).filter (fun i => (ws ++ [w])[i]?.any
      fun w => w.key = key && pending w) = pendingIds ws key := by
    apply List.filter_congr
    intro i inside
    rw [List.getElem?_append_left (List.mem_range.mp inside)]
  rw [pendingIds, List.length_append, List.length_singleton, List.range_succ, List.filter_append,
    old]
  simp [List.filter_cons]

theorem pendingIds_modify (ws : List Waiter) (i : Nat) {f : Waiter → Waiter}
    (settles : ∀ w, pending (f w) = false) (key : CallerKey) :
    pendingIds (ws.modify i f) key = (pendingIds ws key).erase i := by
  rw [(nodup_pendingIds ws key).erase_eq_filter, pendingIds, pendingIds, List.length_modify,
    List.filter_filter]
  apply List.filter_congr
  intro j inside
  rw [List.getElem?_modify]
  by_cases same : i = j
  · subst same
    cases ws[i]? <;> simp [settles]
  · simp [same, Ne.symm same]

theorem holders_append (ws : List Waiter) (w : Waiter) (key : CallerKey) :
    holders (ws ++ [w]) key = holders ws key + if w.key = key && holding w then 1 else 0 := by
  simp [holders, List.countP_append, List.countP_cons]

theorem holders_modify {ws : List Waiter} {i : Nat} {w : Waiter} (found : ws[i]? = some w)
    (f : Waiter → Waiter) (key : CallerKey) :
    holders (ws.modify i f) key + (if w.key = key && holding w then 1 else 0) =
      holders ws key + (if (f w).key = key && holding (f w) then 1 else 0) := by
  have indicator (b : Bool) : (if b = true then 1 else 0) = b.toNat := by cases b <;> rfl
  rw [indicator, indicator]
  exact Counting.countP_modify found f fun w => w.key = key && holding w

end BrokerMcp.Proof.Scheduler
