import BrokerMcp.Composite.Loader
import BrokerMcp.Composite.Result
import BrokerMcp.Proof.Composite.Joined

namespace BrokerMcp.Proof.Composite
open Resilience BrokerMcp.Composite
open Transition

structure Loaded (steps : List Step) : Prop where
  distinct : (steps.map Step.id).Nodup
  parents : ∀ before step after, steps = before ++ step :: after → step.forEach ≠ "" →
    step.parallel = false ∧ step.forEach ∈ before.map Step.id
  cursor : (steps.filter Step.resumable).length ≤ 1

theorem validateFanOut_ok {step : Step} {seen : Seen} (done : validateFanOut step seen = .ok ())
    (fans : step.forEach ≠ "") :
    step.parallel = false ∧ step.forEach ≠ step.id ∧ step.forEach ∈ seen.stepIDs := by
  unfold validateFanOut at done
  rw [if_neg fans] at done
  by_cases parallel : step.parallel = true
  · rw [if_pos parallel] at done
    cases done
  by_cases self : step.forEach = step.id
  · rw [if_neg parallel, if_pos self] at done
    cases done
  by_cases known : step.forEach ∈ seen.stepIDs
  · exact ⟨by simpa using parallel, self, known⟩
  · rw [if_neg parallel, if_neg self, if_pos known] at done
    cases done

theorem validateResumable_ok {step : Step} {params : List ParameterDef} {prior : String}
    (done : validateResumable step params prior = .ok ()) (resumable : step.resumable = true) :
    prior = "" := by
  unfold validateResumable at done
  simp only [resumable, Bool.not_true, Bool.false_eq_true, ↓reduceIte] at done
  split_ifs at done with _ _ _ first
  exact not_not.mp first

structure Checked (seen : Seen) (step : Step) (seen' : Seen) : Prop where
  named : step.id ≠ ""
  fresh : step.id ∉ seen.stepIDs
  noted : seen'.stepIDs = seen.stepIDs ++ [step.id]
  parent : step.forEach ≠ "" → step.parallel = false ∧ step.forEach ∈ seen.stepIDs
  first : step.resumable = true → seen.resumableStep = ""
  marked : seen'.resumableStep = if step.resumable then step.id else seen.resumableStep

theorem validateStep_checked {params : List ParameterDef} {seen seen' : Seen} {step : Step}
    (done : validateStep params seen step = .ok seen') : Checked seen step seen' := by
  unfold validateStep at done
  by_cases unnamed : step.id = ""
  · rw [if_pos unnamed] at done
    cases done
  by_cases duplicate : step.id ∈ seen.stepIDs
  · rw [if_neg unnamed, if_pos duplicate] at done
    cases done
  rw [if_neg unnamed, if_neg duplicate] at done
  by_cases lacking : step.operation = ""
  · rw [if_pos lacking] at done
    cases done
  by_cases both : step.select ≠ [] ∧ (step.args.lookup "select").isSome
  · rw [if_neg lacking, if_pos both] at done
    cases done
  rw [if_neg lacking, if_neg both] at done
  obtain ⟨_, fanOut, done⟩ := bind_ok done
  obtain ⟨_, -, done⟩ := bind_ok done
  obtain ⟨_, resumable, done⟩ := bind_ok done
  obtain ⟨_, -, done⟩ := bind_ok done
  obtain rfl := Except.ok.inj done
  refine ⟨unnamed, duplicate, rfl, ?_, validateResumable_ok resumable, rfl⟩
  intro fans
  obtain ⟨sequential, other, known⟩ := validateFanOut_ok fanOut fans
  refine ⟨sequential, ?_⟩
  rcases List.mem_append.mp known with before | itself
  · exact before
  · exact absurd (List.mem_singleton.mp itself) other

structure CheckedAll (seen : Seen) (steps : List Step) (seen' : Seen) : Prop where
  noted : seen'.stepIDs = seen.stepIDs ++ steps.map Step.id
  distinct : seen'.stepIDs.Nodup
  parents : ∀ before step after, steps = before ++ step :: after → step.forEach ≠ "" →
    step.parallel = false ∧ step.forEach ∈ seen.stepIDs ++ before.map Step.id
  cursor : (if seen.resumableStep = "" then 0 else 1) + (steps.filter Step.resumable).length ≤ 1

theorem foldlM_checked {params : List ParameterDef} {steps : List Step} {seen seen' : Seen}
    (distinct : seen.stepIDs.Nodup)
    (done : steps.foldlM (validateStep params) seen = .ok seen') : CheckedAll seen steps seen' := by
  induction steps generalizing seen with
  | nil =>
      obtain rfl := Except.ok.inj done
      refine ⟨by simp, distinct, by simp, ?_⟩
      simp only [List.filter_nil, List.length_nil, Nat.add_zero]
      split_ifs <;> omega
  | cons step steps ih =>
      rw [List.foldlM_cons] at done
      obtain ⟨middle, first, rest⟩ := bind_ok done
      have checked := validateStep_checked first
      have distinct' : middle.stepIDs.Nodup := by
        rw [checked.noted, List.nodup_append_comm]
        exact List.nodup_cons.mpr ⟨checked.fresh, distinct⟩
      have later := ih distinct' rest
      refine ⟨?_, later.distinct, ?_, ?_⟩
      · rw [later.noted, checked.noted, List.append_assoc]
        rfl
      · intro before other after same fans
        cases before with
        | nil =>
            obtain ⟨rfl, -⟩ := List.cons.inj same
            rw [List.map_nil, List.append_nil]
            exact checked.parent fans
        | cons head before =>
            obtain ⟨rfl, rest⟩ := List.cons.inj same
            have parent := later.parents before other after rest fans
            rw [checked.noted, List.append_assoc] at parent
            exact parent
      · have rest := later.cursor
        rw [checked.marked] at rest
        cases resumable : step.resumable with
        | false =>
            rw [resumable] at rest
            rw [List.filter_cons_of_neg (by simp [resumable])]
            exact rest
        | true =>
            simp only [resumable, ↓reduceIte, checked.named] at rest
            rw [List.filter_cons_of_pos resumable, List.length_cons, checked.first resumable]
            simp only [↓reduceIte]
            omega

section Accepted

variable {parse : String → String → Option String} {description : String} {tool : CompositeTool}

theorem validateTool_seen (accepted : validateTool parse description tool = .ok ()) :
    ∃ seen, CheckedAll Seen.none tool.steps seen ∧ validateResult tool seen.stepIDs = .ok () := by
  unfold validateTool at accepted
  split_ifs at accepted
  obtain ⟨seen, walked, accepted⟩ := bind_ok accepted
  obtain ⟨_, -, accepted⟩ := bind_ok accepted
  obtain ⟨_, result, -⟩ := bind_ok accepted
  exact ⟨seen, foldlM_checked List.nodup_nil walked, result⟩

theorem validateTool_loaded (accepted : validateTool parse description tool = .ok ()) :
    Loaded tool.steps := by
  obtain ⟨seen, all, -⟩ := validateTool_seen accepted
  refine ⟨?_, all.parents, ?_⟩
  · have distinct := all.distinct
    rw [all.noted] at distinct
    exact distinct
  · have cursor := all.cursor
    omega

theorem validateTool_summary (accepted : validateTool parse description tool = .ok ())
    (processes : tool.result.strategy = "postProcess") : "summary" ∉ tool.steps.map Step.id := by
  obtain ⟨seen, all, result⟩ := validateTool_seen accepted
  unfold validateResult at result
  rw [processes, if_neg (by decide), if_neg (by decide), if_pos rfl] at result
  split_ifs at result with _ reserved
  rw [all.noted] at reserved
  exact reserved

end Accepted

end BrokerMcp.Proof.Composite
