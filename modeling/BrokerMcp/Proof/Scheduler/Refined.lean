import BrokerMcp.Library.Fifo
import BrokerMcp.Resilience.Rotor

namespace BrokerMcp.Proof.Scheduler
open Resilience Transition Fifo

def perform (r : Rotor) : Call String → Option Rotor
  | .insert key => if key ∈ r.keys then none else some (r.insert key)
  | .remove key => some (r.remove key)
  | .advancePast offset => if offset < r.len then some (r.advancePast offset) else none

theorem nodup_order {r : Rotor} : r.order.Nodup ↔ r.keys.Nodup := List.nodup_rotate

theorem perform_order {r : Rotor} (nodup : r.order.Nodup) (call : Call String) :
    (perform r call).map Rotor.order = Fifo.step r.order call := by
  cases call with
  | insert key =>
      simp only [perform, Fifo.step, Rotor.mem_order]
      split_ifs
      · rfl
      · rw [Option.map_some, Rotor.order_insert]
  | remove key =>
      rw [perform, Fifo.step, Option.map_some, Rotor.order_remove (nodup_order.mp nodup)]
  | advancePast offset =>
      simp only [perform, Fifo.step, Rotor.length_order]
      split_ifs
      · rw [Option.map_some, Rotor.order_advancePast]
      · rfl

theorem perform_step {r r' : Rotor} {call : Call String} (nodup : r.order.Nodup)
    (taken : perform r call = some r') : Fifo.step r.order call = some r'.order := by
  rw [← perform_order nodup, taken, Option.map_some]

theorem perform_nodup {r r' : Rotor} {call : Call String} (nodup : r.order.Nodup)
    (taken : perform r call = some r') : r'.order.Nodup :=
  Fifo.step_nodup nodup (perform_step nodup taken)

theorem run_order {r r' : Rotor} {history : List (Rotor × Call String)} (nodup : r.order.Nodup)
    (run : Run perform r history r') :
    Run Fifo.step r.order (history.map fun p => (p.1.order, p.2)) r'.order :=
  run.refines (fun r => r.order.Nodup) nodup (fun _ _ _ => perform_nodup)
    (fun _ _ _ => perform_step)

/-- Whatever was called on a new rotor, its keys read from the cursor on are what the rotating list
holds after the same calls, and a call is possible exactly when it is on the list. From there on, two
keys that stay change places only if the cursor is advanced. -/
theorem rotor_refines_fifo {prior history : List (Rotor × Call String)} {r r' : Rotor}
    (reached : Run perform .empty prior r) (run : Run perform r history r') :
    Run Fifo.step [] (prior.map fun p => (p.1.order, p.2)) r.order ∧
    (∀ call, (perform r call).map Rotor.order = Fifo.step r.order call) ∧
    r.order.Nodup ∧
    r.order.length = r.len ∧
    (∀ offset < r.len, r.atOffset offset = r.order[offset]?) ∧
    (r.cursor = 0 ∨ r.cursor < r.keys.length) ∧
    (∀ a b, (∀ p ∈ history, p.2.serves = false) → (∀ p ∈ history, a ∈ p.1.keys ∧ b ∈ p.1.keys) →
      a ∈ r'.keys → b ∈ r'.keys → (Before a b r'.order ↔ Before a b r.order)) := by
  have start : Rotor.empty.order.Nodup := List.nodup_nil
  have nodup : r.order.Nodup := (reached.invariant start fun _ _ _ => perform_nodup).1
  refine ⟨run_order start reached, perform_order nodup, nodup, r.length_order, ?_,
    r.inRange, ?_⟩
  · intro offset inside
    exact Rotor.atOffset_eq inside
  · intro a b idle present here there
    apply order_kept (run_order nodup run) nodup
    · exact List.forall_mem_map.mpr idle
    · rw [List.forall_mem_map]
      simpa only [Rotor.mem_order] using present
    · simpa [Rotor.mem_order] using ⟨here, there⟩

theorem rotor_refines_fifo_three_keys :
    ∃ r r' : Rotor, r.order = ["b", "a", "c"] ∧ r'.order = ["b", "a", "d"] ∧
      (Before "b" "a" r'.order ↔ Before "b" "a" r.order) := by
  let calls : List (Call String) := [.insert "a", .insert "b", .advancePast 0, .insert "c"]
  let later : List (Call String) := [.remove "c", .insert "d"]
  have reached : exec perform .empty calls = some ⟨["c", "b", "a"], 1, by simp⟩ := by rfl
  have run : exec perform ⟨["c", "b", "a"], 1, by simp⟩ later =
      some ⟨["d", "b", "a"], 1, by simp⟩ := by rfl
  refine ⟨⟨["c", "b", "a"], 1, by simp⟩, ⟨["d", "b", "a"], 1, by simp⟩, rfl, rfl, ?_⟩
  have refined := rotor_refines_fifo (run_of_exec reached) (run_of_exec run)
  exact refined.2.2.2.2.2.2 "b" "a" (by decide) (by decide) (by decide) (by decide)

end BrokerMcp.Proof.Scheduler
