import BrokerMcp.Proof.Composite.ListVpns
import BrokerMcp.Proof.Composite.Probes

namespace BrokerMcp.Proof.Composite
open Resilience BrokerMcp.Composite
open Transition Handlers

variable {ce : CompositeExecutor} {host : Host} {sprint : Value → String}

def vpnFields : List String :=
  ["discardedRxMsgCount", "discardedTxMsgCount", "dmrEnabled", "enabled", "msgSpoolMsgCount",
    "msgSpoolUsage", "msgVpnConnections", "msgVpnConnectionsServiceMqtt",
    "msgVpnConnectionsServiceRestIncoming", "msgVpnConnectionsServiceSmf",
    "msgVpnConnectionsServiceWeb", "msgVpnName", "msgVpnTotalUniqueSubscriptions",
    "replicationEnabled", "serviceMqttPlainTextFailureReason", "serviceMqttPlainTextUp",
    "serviceRestIncomingPlainTextFailureReason", "serviceRestIncomingPlainTextUp",
    "serviceSmfPlainTextFailureReason", "serviceSmfPlainTextUp", "state"]

def listAllVpns : CompositeTool :=
  { listVpns with steps := [{ vpnsStep with select := vpnFields }, realClients] }

theorem listAllVpns_loaded : Loaded listAllVpns.steps := by
  have accepted : validateTool (fun _ _ => none) "Lists all Message VPNs." listAllVpns = .ok () := rfl
  exact validateTool_loaded accepted

/-- The broker has counted no connections for the VPN, or has answered its probe with no client. -/
def Verified (ce : CompositeExecutor) (host : Host) (history : List (Execution × ExecAction))
    (v : Object) (name : String) : Prop :=
  v.lookup "msgVpnName" = some (.str name) ∧
    (v.lookup "msgVpnConnections" = some (.float 0) ∨ ProbedEmpty ce host history name)

structure Vouched (ce : CompositeExecutor) (host : Host)
    (history : List (Execution × ExecAction)) (items : List Value)
    (byKey summary shown : Object) : Prop where
  counts : ∀ c, shownCount summary c = (countedRows byKey items c).length
  apart : ∀ c c', c ≠ c' →
    (countedRows byKey items c).Disjoint (countedRows byKey items c')
  idle : ∀ i ∈ countedRows byKey items .zeroConn, ∃ v name, items[i]? = some (.obj v) ∧
    v.lookup "enabled" = some (.bool true) ∧ v.lookup "state" = some (.str "up") ∧
    Verified ce host history v name
  shownIdle : ∀ name entry, shown.obj? name = some entry →
    entry.lookup "hasRealClient" = some (.bool false) →
    ∃ v, .obj v ∈ items ∧ Verified ce host history v name

def Truthful (ce : CompositeExecutor) (host : Host) (history : List (Execution × ExecAction))
    (s : Execution) : Prop :=
  ∀ out, s.phase = .returned (.ok out) →
    ∃ vpns items clients byKey summary clients' shown,
      s.stepResults.lookup "vpns" = some vpns ∧ vpns.arr? "data" = some items ∧
      s.stepResults.lookup "real-clients" = some clients ∧ clients.obj? "byKey" = some byKey ∧
      out.obj? "summary" = some summary ∧ out.obj? "real-clients" = some clients' ∧
      clients'.obj? "byKey" = some shown ∧
      Vouched ce host history items byKey summary shown

section Runs

variable {strategy : StepResults → Except Chain Object} {tool : CompositeTool} {params : Object}
  {ended : Bool} {history : List (Execution × ExecAction)} {s : Execution}

theorem probed_empty
    (run : Run (Execution.step ce (host.withTemplates sprint probeTemplates) strategy)
      (execute tool params ended) history s)
    (conclusive : ∀ p ∈ history, Conclusive p) {began : ExecuteContext} {items : List Value}
    {byKey : Object}
    (fan : FanResult (host.withTemplates sprint probeTemplates) s realClients began items byKey)
    {name : String} {v : Value} (found : byKey.lookup name = some v)
    (nobody : probeRealClientOutcome byKey name = .none) :
    ∃ row, .obj row ∈ items ∧ row.lookup "msgVpnName" = some (.str name) ∧
      ProbedEmpty ce (host.withTemplates sprint probeTemplates) history name := by
  obtain ⟨j, w, worker, row, data, i, raw, stands, finished, rfl, here, read⟩ :=
    fan.entries name v found
  obtain ⟨rfl, own⟩ := readRow_takes read
  obtain ⟨p, member, old, client, finish, stood, ends⟩ := run_ends run stands finished
  have answers := answers_of_ends finish stood own ends
  obtain ⟨empty, last⟩ := probe_none nobody found
  refine ⟨row, List.mem_of_getElem? here, own, p, member, data, answers, ?_, last⟩
  obtain ⟨j, w, worker, client, op, args, finish, -, -, -, -, called⟩ := answers
  obtain ⟨n, args', reply⟩ := callOnce_reply called
  rcases conclusive p member j w client finish n op args' data reply with shaped | further
  · obtain ⟨rows, shape⟩ := Option.isSome_iff_exists.mp shaped
    rw [shape, empty rows shape]
  · rw [last] at further
    cases further

end Runs

/-- In a run whose dispatch loop does not break off before a row has failed, and whose probes get no
reply without a `data` array and a further page, no VPN is reported as idle unverified. -/
theorem idle_vpns_verified (ce : CompositeExecutor) (host : Host) (sprint : Value → String)
    (registry : Registry) (params : Object) (ended : Bool)
    {history : List (Execution × ExecAction)} {s : Execution}
    (run : Run (Execution.step ce (host.withTemplates sprint probeTemplates)
      (applyResultStrategy (listVpnsHandler :: registry) listAllVpns.result))
      (execute listAllVpns params ended) history s)
    (unbroken : ∀ p ∈ history, Unbroken p) (conclusive : ∀ p ∈ history, Conclusive p) :
    Truthful ce (host.withTemplates sprint probeTemplates) history s := by
  intro out returned
  have accountable := run_accountable listAllVpns_loaded run unbroken
  obtain ⟨summary, left, handled, summarized, shows⟩ :=
    shown_verdicts (run_concluded run out returned)
  obtain ⟨vpns, items, clients, byKey, counts, first, rows, second, probes, counted, rfl, probed⟩ :=
    listVpns_ok handled
  have declared : realClients ∈ listAllVpns.steps := .tail _ (.head _)
  obtain ⟨began, items', byKey', fan⟩ :=
    accountable.fanResult listAllVpns_loaded returned declared (by decide)
  obtain rfl : byKey' = byKey := by
    obtain ⟨skipped, result⟩ := fan.result
    obtain rfl := Option.some.inj (result.symm.trans second)
    exact Option.some.inj probes
  obtain rfl : items' = items := by
    obtain ⟨parent, known, same⟩ := fan.parent
    obtain rfl := Option.some.inj (known.symm.trans first)
    exact same items rows
  have rest := shows _ probed
  refine ⟨vpns, items', clients, byKey', _, _, scrubRows (verdicts byKey'), first, rows, second,
    probes, summarized, rest, ?_, ?_, ?_, ?_, ?_⟩
  · rw [rows_scrubEnvelope, Object.obj?, Assoc.lookup_put, if_pos rfl]
    rfl
  · intro c
    rw [shownCount_summarize, countRows_read counted, length_countedRows]
    cases c <;> simp [Counter.read]
  · intro c c' other
    exact countedRows_disjoint other
  · intro i member
    obtain ⟨raw, here, raised⟩ := mem_countedRows.mp member
    obtain ⟨v, rfl, turn⟩ := raises_zeroConn raised
    cases turn with
    | @zeroConn name enabled state named nobody =>
        refine ⟨v, name, here, enabled, state, named, ?_⟩
        rcases fan.rows i _ here with skips | ⟨row, key, data, read, found⟩
        · exact .inl (readRow_skips enabled state skips)
        · obtain ⟨same, own⟩ := readRow_takes read
          obtain rfl := Value.obj.inj same
          obtain rfl := Value.str.inj (Option.some.inj (named.symm.trans own))
          obtain ⟨-, -, -, empty⟩ := probed_empty run conclusive fan found nobody
          exact .inr empty
  · intro name entry shown idle
    obtain ⟨⟨v, found⟩, nobody⟩ := hasRealClient_false shown idle
    obtain ⟨row, member, own, empty⟩ := probed_empty run conclusive fan found nobody
    exact ⟨row, member, own, .inr empty⟩

def probeHost : Host := vpnHost.withTemplates (fun _ => "") probeTemplates

def listingStep : Execution → ExecAction → Option Execution :=
  Execution.step vpnExecutor probeHost (applyResultStrategy [listVpnsHandler] listAllVpns.result)

def listsThree : List ExecAction :=
  [.next, .single 0 .call, .single 0 .answer,
    .single 0 (.finish fun _ _ _ => .ok [("data", .arr vpnRows)]), .join, .next]

def probesRow (w : Nat) (reply : Object) : List ExecAction :=
  [.fan 1 .check, .fan 1 .select, .fan 1 (.worker w .call), .fan 1 (.worker w .answer),
    .fan 1 (.worker w (.finish fun _ _ _ => .ok reply)), .fan 1 (.settle w), .fan 1 .check]

def oneClient : Object := [("data", .arr [.obj [("clientName", .str "app")]])]

def probesAll : List ExecAction :=
  listsThree ++ probesRow 0 noClients ++ probesRow 1 oneClient ++ [.fan 1 .wait, .join, .next]

theorem unbroken_of_live {history : List (Execution × ExecAction)}
    (live : history.all (fun p => !p.1.groupEnded) = true) : ∀ p ∈ history, Unbroken p := by
  intro p member j part fan _ _ _ ended
  have live := List.all_eq_true.mp live p member
  rw [ended] at live
  cases live

theorem conclusive_of_replies {actions : List ExecAction}
    (replies : ∀ j w client, ExecAction.fan j (.worker w (.finish client)) ∈ actions →
      ∃ reply, client = (fun _ _ _ => .ok reply) ∧ (reply.arr? "data").isSome = true) :
    ∀ p ∈ trace listingStep (execute listAllVpns [] false) actions, Conclusive p := by
  intro p member j w client finish n op args reply answered
  have taken := action_of_mem_trace member
  rw [finish] at taken
  obtain ⟨reply', rfl, shaped⟩ := replies j w client taken
  obtain rfl := Except.ok.inj answered
  exact .inl shaped

theorem idle_vpns_verified_three : ∃ history s out,
    Run listingStep (execute listAllVpns [] false) history s ∧
    (∀ p ∈ history, Unbroken p) ∧ (∀ p ∈ history, Conclusive p) ∧
    s.phase = .returned (.ok out) ∧ Truthful vpnExecutor probeHost history s := by
  obtain ⟨s, out, done, returned, live⟩ : ∃ s out,
      exec listingStep (execute listAllVpns [] false) probesAll = some s ∧
      s.phase = .returned (.ok out) ∧
      (trace listingStep (execute listAllVpns [] false) probesAll).all
        (fun p => !p.1.groupEnded) = true := ⟨_, _, rfl, rfl, rfl⟩
  have run := run_of_exec done
  have unbroken := unbroken_of_live live
  have conclusive : ∀ p ∈ trace listingStep (execute listAllVpns [] false) probesAll,
      Conclusive p := by
    apply conclusive_of_replies
    intro j w client member
    have made : j = 1 ∧ w = 0 ∧ client = (fun _ _ _ => .ok noClients) ∨
        j = 1 ∧ w = 1 ∧ client = (fun _ _ _ => .ok oneClient) := by
      simpa [probesAll, listsThree, probesRow] using member
    rcases made with ⟨-, -, made⟩ | ⟨-, -, made⟩
    · exact ⟨noClients, made, rfl⟩
    · exact ⟨oneClient, made, rfl⟩
  exact ⟨_, s, out, run, unbroken, conclusive, returned,
    idle_vpns_verified vpnExecutor vpnHost (fun _ => "") [] [] false run unbroken conclusive⟩

def probeEnding (p : Execution × ExecAction) : Option String :=
  match p.2 with
  | .fan j (.worker w (.finish _)) =>
      match p.1.parts[j]? with
      | some ⟨_, .fanOut fan, _⟩ => fan.workers[w]?.map Worker.key
      | _ => none
  | _ => none

theorem probeEnding_of_answers {name : String} {reply : Object} {p : Execution × ExecAction}
    (answers : Answers ce host name reply p) : probeEnding p = some name := by
  obtain ⟨j, w, worker, client, op, args, finish, ⟨part, fan, here, -, work, stands⟩, named, -⟩ :=
    answers
  obtain ⟨step, _, settled⟩ := part
  obtain rfl : _ = Work.fanOut fan := work
  simp only [probeEnding, finish, here, stands, Option.map_some, named]

theorem not_truthful {history : List (Execution × ExecAction)} {s : Execution} {out byKey : Object}
    (returned : s.phase = .returned (.ok out))
    (results : s.stepResults = [("vpns", [("data", .arr vpnRows), ("truncated", .bool false)]),
      ("real-clients", fanOutResult byKey 1)])
    (counted : 2 ∈ countedRows byKey vpnRows .zeroConn)
    (unprobed : ¬ ProbedEmpty ce host history "trading") : ¬ Truthful ce host history s := by
  intro truthful
  obtain ⟨vpns, items, clients, byKey', summary, clients', shown, first, rows, second, probes, -, -,
    -, vouched⟩ := truthful out returned
  rw [results] at first second
  obtain rfl := Option.some.inj first
  obtain rfl : vpnRows = items := Option.some.inj rows
  obtain rfl := Option.some.inj second
  obtain rfl : byKey = byKey' := Option.some.inj probes
  obtain ⟨v, name, here, -, -, named, verified⟩ := vouched.idle 2 counted
  obtain rfl := Value.obj.inj (Option.some.inj here)
  obtain rfl : "trading" = name := Value.str.inj (Option.some.inj named)
  rcases verified with zero | probed
  · have five : (5 : Rat) = 0 := Value.float.inj (Option.some.inj zero)
    exact absurd five (by decide)
  · exact unprobed probed

-- The caller gives up after the first of two probes has been answered.
def givesUp : List ExecAction :=
  listsThree ++ probesRow 0 noClients ++
    [.fan 1 .check, .cancel, .fan 1 .select, .fan 1 .wait, .join, .next]

-- The second probe is answered with an empty object.
def getsNoData : List ExecAction :=
  listsThree ++ probesRow 0 noClients ++ probesRow 1 [] ++ [.fan 1 .wait, .join, .next]

def endsWorker (w : Nat) (p : Execution × ExecAction) : Bool :=
  match p.2 with
  | .fan _ (.worker k (.finish _)) => k = w
  | _ => false

/-- A VPN with five connections is counted as idle, once because its probe was never dispatched, and
once because the reply to it has no `data`. -/
theorem idle_vpn_unverified :
    (∃ history s, Run listingStep (execute listAllVpns [] false) history s ∧
      (∀ p ∈ history, Conclusive p) ∧ ¬ Truthful vpnExecutor probeHost history s) ∧
    ∃ history s, Run listingStep (execute listAllVpns [] false) history s ∧
      (∀ p ∈ history, Unbroken p) ∧ ¬ Truthful vpnExecutor probeHost history s := by
  constructor
  · obtain ⟨s, done, ⟨out, returned⟩, results, unprobed⟩ : ∃ s,
        exec listingStep (execute listAllVpns [] false) givesUp = some s ∧
        (∃ out, s.phase = .returned (.ok out)) ∧
        s.stepResults = [("vpns", [("data", .arr vpnRows), ("truncated", .bool false)]),
          ("real-clients", fanOutResult [("default", .obj noClients)] 1)] ∧
        (trace listingStep (execute listAllVpns [] false) givesUp).all
          (fun p => probeEnding p ≠ some "trading") = true := ⟨_, rfl, ⟨_, rfl⟩, rfl, rfl⟩
    refine ⟨_, s, run_of_exec done, ?_, not_truthful returned results (by decide) ?_⟩
    · apply conclusive_of_replies
      intro j w client member
      have made : j = 1 ∧ w = 0 ∧ client = (fun _ _ _ => .ok noClients) := by
        simpa [givesUp, listsThree, probesRow] using member
      exact ⟨noClients, made.2.2, rfl⟩
    · rintro ⟨p, member, reply, answers, -⟩
      have other := List.all_eq_true.mp unprobed p member
      rw [probeEnding_of_answers answers] at other
      exact absurd other (by decide)
  · obtain ⟨s, done, ⟨out, returned⟩, results, live, second⟩ : ∃ s,
        exec listingStep (execute listAllVpns [] false) getsNoData = some s ∧
        (∃ out, s.phase = .returned (.ok out)) ∧
        s.stepResults = [("vpns", [("data", .arr vpnRows), ("truncated", .bool false)]),
          ("real-clients", fanOutResult [("default", .obj noClients), ("trading", .obj [])] 1)] ∧
        (trace listingStep (execute listAllVpns [] false) getsNoData).all
          (fun p => !p.1.groupEnded) = true ∧
        (trace listingStep (execute listAllVpns [] false) getsNoData).all
          (fun p => probeEnding p ≠ some "trading" || endsWorker 1 p) = true :=
      ⟨_, rfl, ⟨_, rfl⟩, rfl, rfl, rfl⟩
    refine ⟨_, s, run_of_exec done, unbroken_of_live live,
      not_truthful returned results (by decide) ?_⟩
    rintro ⟨p, member, reply, answers, empty, -⟩
    have other := List.all_eq_true.mp second p member
    rw [probeEnding_of_answers answers] at other
    obtain ⟨j, w, worker, client, op, args, finish, -, -, -, -, called⟩ := answers
    have taken := action_of_mem_trace member
    rw [finish] at taken
    simp only [endsWorker, finish, decide_eq_true_eq, ne_eq, not_true_eq_false, decide_false,
      Bool.false_or] at other
    subst other
    have made : j = 1 ∧ client = (fun _ _ _ => .ok []) := by
      simpa [getsNoData, listsThree, probesRow] using taken
    obtain ⟨-, rfl⟩ := made
    obtain rfl := Except.ok.inj called
    cases empty

end BrokerMcp.Proof.Composite
