import BrokerMcp.Composite.ListVpns
import BrokerMcp.Library.Counting
import BrokerMcp.Proof.Composite.Scrubbed

namespace BrokerMcp.Proof.Composite
open Resilience BrokerMcp.Composite
open Handlers

theorem probe_none {byKey data : Object} {name : String}
    (nobody : probeRealClientOutcome byKey name = .none)
    (found : byKey.lookup name = some (.obj data)) :
    (∀ items, data.arr? "data" = some items → items = []) ∧ hasNextPage data = false := by
  have entry : byKey.obj? name = some data := by
    rw [Object.obj?, found]
    rfl
  simp only [probeRealClientOutcome, entry] at nobody
  split at nobody
  · cases nobody
  · next empty =>
      split_ifs at nobody with further
      refine ⟨?_, by simpa using further⟩
      intro items rows
      cases items with
      | nil => rfl
      | cons x rest => exact absurd rows (empty x rest)

inductive Counter where
  | disabled
  | down
  | standby
  | zeroConn
  | indeterminate
  | skipped
deriving DecidableEq

def Counter.field : Counter → String
  | .disabled => "disabledCount"
  | .down => "downCount"
  | .standby => "standbyCount"
  | .zeroConn => "zeroConnectionCount"
  | .indeterminate => "indeterminateConnectionCount"
  | .skipped => "skipped"

def Counter.read (counts : Counts) : Counter → Nat
  | .disabled => counts.disabled
  | .down => counts.down
  | .standby => counts.standby
  | .zeroConn => counts.zeroConn
  | .indeterminate => counts.indeterminate
  | .skipped => counts.skipped

def raises (byKey : Object) (c : Counter) : Value → Bool
  | .obj v => decide (c.read (countRow byKey ⟨0, 0, 0, 0, 0, 0⟩ v) ≠ 0)
  | _ => false

def countedRows (byKey : Object) (items : List Value) (c : Counter) : List Nat :=
  (items.zipIdx.filter fun entry => raises byKey c entry.1).map Prod.snd

inductive Raises (byKey : Object) (v : Object) : Option Counter → Prop where
  | skipped : Raises byKey v (some .skipped)
  | disabled : Raises byKey v (some .disabled)
  | down : Raises byKey v (some .down)
  | standby : Raises byKey v (some .standby)
  | indeterminate : Raises byKey v (some .indeterminate)
  | uncounted : Raises byKey v none
  | zeroConn {name : String} (enabled : v.lookup "enabled" = some (.bool true))
      (state : v.lookup "state" = some (.str "up"))
      (named : v.lookup "msgVpnName" = some (.str name))
      (nobody : probeRealClientOutcome byKey name = .none) : Raises byKey v (some .zeroConn)

theorem boolField_some {v : Object} {name : String} {b : Bool} (read : boolField v name = some b) :
    v.lookup name = some (.bool b) := by
  unfold boolField at read
  split at read
  · next found => rw [found, Option.some.inj read]
  · cases read

theorem countUp_raises (byKey : Object) {v : Object} {name : String}
    (enabled : v.lookup "enabled" = some (.bool true))
    (state : v.lookup "state" = some (.str "up"))
    (named : v.lookup "msgVpnName" = some (.str name)) :
    ∃ raised, Raises byKey v raised ∧ ∀ counts c,
      Counter.read (countUp byKey counts name) c =
        c.read counts + (decide (raised = some c)).toNat := by
  cases outcome : probeRealClientOutcome byKey name with
  | none =>
      refine ⟨_, .zeroConn enabled state named outcome, fun counts c => ?_⟩
      cases c <;> simp [countUp, outcome, Counter.read]
  | realClient =>
      refine ⟨_, .uncounted, fun counts c => ?_⟩
      simp [countUp, outcome]
  | indeterminate =>
      refine ⟨_, .indeterminate, fun counts c => ?_⟩
      cases c <;> simp [countUp, outcome, Counter.read]

theorem countRow_raises (byKey v : Object) : ∃ raised, Raises byKey v raised ∧ ∀ counts c,
    Counter.read (countRow byKey counts v) c =
      c.read counts + (decide (raised = some c)).toNat := by
  unfold countRow
  split
  · next enabled state name first second third =>
      have first := boolField_some first
      have second := Object.str?_eq_some.mp second
      have third := Object.str?_eq_some.mp third
      cases enabled with
      | false =>
          refine ⟨_, .disabled, fun counts c => ?_⟩
          cases c <;> simp [Counter.read]
      | true =>
          by_cases down : state = "down"
          · refine ⟨_, .down, fun counts c => ?_⟩
            cases c <;> simp [down, Counter.read]
          by_cases standby : state = "standby"
          · refine ⟨_, .standby, fun counts c => ?_⟩
            cases c <;> simp [standby, Counter.read]
          by_cases up : state = "up"
          · subst up
            exact countUp_raises byKey first second third
          · refine ⟨_, .uncounted, fun counts c => ?_⟩
            simp [down, standby, up]
  · refine ⟨_, .skipped, fun counts c => ?_⟩
    cases c <;> simp [Counter.read]

theorem raises_spec (byKey v : Object) : ∃ raised, Raises byKey v raised ∧
    (∀ c, raises byKey c (.obj v) = decide (raised = some c)) ∧
    ∀ counts c, Counter.read (countRow byKey counts v) c =
      c.read counts + (raises byKey c (.obj v)).toNat := by
  obtain ⟨raised, turn, read⟩ := countRow_raises byKey v
  have eq : ∀ c, raises byKey c (.obj v) = decide (raised = some c) := by
    intro c
    have none : Counter.read ⟨0, 0, 0, 0, 0, 0⟩ c = 0 := by cases c <;> rfl
    rw [raises, read, none]
    by_cases here : raised = some c <;> simp [here]
  refine ⟨raised, turn, eq, fun counts c => ?_⟩
  rw [read, eq]

theorem raises_alone {byKey : Object} {raw : Value} {c c' : Counter}
    (here : raises byKey c raw = true) (there : raises byKey c' raw = true) : c = c' := by
  cases raw with
  | obj v =>
      obtain ⟨raised, -, eq, -⟩ := raises_spec byKey v
      rw [eq, decide_eq_true_eq] at here there
      exact Option.some.inj (here.symm.trans there)
  | _ => cases here

theorem raises_zeroConn {byKey : Object} {raw : Value}
    (counted : raises byKey .zeroConn raw = true) :
    ∃ v, raw = .obj v ∧ Raises byKey v (some .zeroConn) := by
  cases raw with
  | obj v =>
      obtain ⟨raised, turn, eq, -⟩ := raises_spec byKey v
      rw [eq, decide_eq_true_eq] at counted
      exact ⟨v, rfl, counted ▸ turn⟩
  | _ => cases counted

theorem countRows_read {byKey : Object} {items : List Value} {i : Nat} {counts counts' : Counts}
    (done : countRows byKey i items counts = .ok counts') (c : Counter) :
    c.read counts' = c.read counts + items.countP (raises byKey c) := by
  induction items generalizing i counts with
  | nil =>
      obtain rfl := Except.ok.inj done
      rfl
  | cons raw items ih =>
      cases raw with
      | obj v =>
          obtain ⟨-, -, -, read⟩ := raises_spec byKey v
          rw [ih done, read, Counting.countP_cons_toNat]
          omega
      | _ => cases done

theorem length_countedRows (byKey : Object) (items : List Value) (c : Counter) :
    (countedRows byKey items c).length = items.countP (raises byKey c) := by
  rw [countedRows, List.length_map, ← List.countP_eq_length_filter]
  have whole : items = items.zipIdx.map Prod.fst := by simp
  nth_rewrite 2 [whole]
  rw [List.countP_map]
  rfl

theorem mem_countedRows {byKey : Object} {items : List Value} {c : Counter} {i : Nat} :
    i ∈ countedRows byKey items c ↔
      ∃ raw, items[i]? = some raw ∧ raises byKey c raw = true := by
  simp only [countedRows, List.mem_map, List.mem_filter]
  constructor
  · rintro ⟨⟨raw, k⟩, ⟨member, counted⟩, rfl⟩
    exact ⟨raw, List.mk_mem_zipIdx_iff_getElem?.mp member, counted⟩
  · rintro ⟨raw, here, counted⟩
    exact ⟨(raw, i), ⟨List.mk_mem_zipIdx_iff_getElem?.mpr here, counted⟩, rfl⟩

theorem countedRows_disjoint {byKey : Object} {items : List Value} {c c' : Counter}
    (other : c ≠ c') : (countedRows byKey items c).Disjoint (countedRows byKey items c') := by
  intro i here there
  obtain ⟨raw, found, counted⟩ := mem_countedRows.mp here
  obtain ⟨raw', found', counted'⟩ := mem_countedRows.mp there
  obtain rfl := Option.some.inj (found.symm.trans found')
  exact other (raises_alone counted counted')

def shownCount (summary : Object) (c : Counter) : Int :=
  match summary.lookup c.field with
  | some (.int n) => n
  | _ => 0

theorem shownCount_summarize (counts : Counts) (scanned : Nat) (truncated : Bool) (c : Counter) :
    shownCount (summarize counts scanned truncated) c = c.read counts := by
  have absent {n : Nat} (zero : ¬ n > 0) : (0 : Int) = n := by omega
  unfold shownCount summarize
  cases c with
  | disabled | down | standby | zeroConn => rfl
  | indeterminate | skipped =>
      split_ifs
      any_goals rfl
      all_goals exact absent (by assumption)

theorem listVpns_ok {stepResults left : StepResults} {summary : Object}
    (done : Handlers.listVpns stepResults = .ok (summary, left)) :
    ∃ step items clientsStep byKey counts, stepResults.lookup "vpns" = some step ∧
      step.arr? "data" = some items ∧ stepResults.lookup "real-clients" = some clientsStep ∧
      clientsStep.obj? "byKey" = some byKey ∧
      countRows byKey 0 items ⟨0, 0, 0, 0, 0, 0⟩ = .ok counts ∧
      summary = summarize counts items.length (isTruncated step) ∧
      left.lookup "real-clients" =
        some (Assoc.put "byKey" (.obj (verdicts byKey)) clientsStep) := by
  unfold Handlers.listVpns at done
  split at done
  · cases done
  next step first =>
  split at done
  · cases done
  next items rows =>
  split at done
  · cases done
  next clientsStep second =>
  split at done
  · cases done
  next byKey probes =>
  obtain ⟨counts, counted, done⟩ := bind_ok done
  obtain ⟨rfl, rfl⟩ := Prod.mk.inj (Except.ok.inj done)
  refine ⟨step, items, clientsStep, byKey, counts, first, rows, second, probes, counted, rfl, ?_⟩
  rw [Assoc.lookup_put]
  exact if_pos rfl

theorem lookup_verdicts {byKey : Object} {name : String} {v : Value}
    (found : (verdicts byKey).lookup name = some v) :
    (∃ w, byKey.lookup name = some w) ∧ v = (probeRealClientOutcome byKey name).entry := by
  rw [verdicts, Assoc.lookup_map_entries fun e : String × Value =>
    (probeRealClientOutcome byKey e.1).entry] at found
  obtain ⟨w, entry, rfl⟩ := Option.map_eq_some_iff.mp found
  exact ⟨⟨w, entry⟩, rfl⟩

theorem shown_verdicts {registry : Registry} {stepResults : StepResults} {out : Object}
    (done : applyResultStrategy (listVpnsHandler :: registry) ⟨"postProcess", "listVpns", false⟩
      stepResults = .ok out) :
    ∃ summary left, Handlers.listVpns stepResults = .ok (summary, left) ∧
      out.obj? "summary" = some summary ∧ ∀ clients, left.lookup "real-clients" = some clients →
        out.obj? "real-clients" = some (scrubEnvelope clients) := by
  obtain ⟨slots, left, leaves, read, placed⟩ := applyResultStrategy_ok done
  cases leaves with
  | collect collects => exact absurd collects (by decide)
  | @postProcess summary left processes applied shown =>
      refine ⟨summary, left, applied, ?_, ?_⟩
      · rw [Object.obj?, shown]
        rfl
      · intro clients found
        have shows : Shows ⟨"postProcess", "listVpns", false⟩ "real-clients" :=
          .inr ⟨rfl, by decide⟩
        rw [Object.obj?, shown_step (read _) ((placed _).1 shows) found]
        rfl

theorem hasRealClient_false {byKey entry : Object} {name : String}
    (shown : Object.obj? (scrubRows (verdicts byKey)) name = some entry)
    (idle : entry.lookup "hasRealClient" = some (.bool false)) :
    (∃ v, byKey.lookup name = some v) ∧ probeRealClientOutcome byKey name = .none := by
  rw [obj?_scrubRows] at shown
  obtain ⟨e, found, rfl⟩ := Option.map_eq_some_iff.mp shown
  obtain ⟨known, made⟩ := lookup_verdicts (Object.obj?_eq_some.mp found)
  refine ⟨known, ?_⟩
  rw [lookup_scrubEnvelope] at idle
  have idle : e.lookup "hasRealClient" = some (.bool false) := idle
  cases outcome : probeRealClientOutcome byKey name with
  | none => rfl
  | realClient | indeterminate =>
      rw [outcome] at made
      obtain rfl := Value.obj.inj made
      cases idle

end BrokerMcp.Proof.Composite
