import BrokerMcp.Composite.ListVpns
import BrokerMcp.Composite.Template
import BrokerMcp.Proof.Composite.Arguments
import BrokerMcp.Proof.Composite.Fanned

namespace BrokerMcp.Proof.Composite
open Resilience BrokerMcp.Composite
open Transition Handlers
open Text (parseBool trimSpace)

variable {ce : CompositeExecutor} {host : Host} {sprint : Value → String}
variable {execCtx : ExecuteContext}

def probeIf : Term :=
  .and (.field "enabled") (.and (.eq (.field "state") (.const (.str "up")))
    (.ne (.index "msgVpnConnections") (.const (.float 0))))

def probeTemplates : List (String × Term) :=
  [(realClients.forEachIf, probeIf), ("\x7b\x7b.Item.msgVpnName\x7d\x7d", .field "msgVpnName")]

theorem equals_zero {v : Value} (same : v.equals (.float 0) = .ok true) : v = .float 0 := by
  cases v with
  | float q =>
      simp only [Value.equals, Except.ok.injEq, decide_eq_true_eq] at same
      rw [same]
  | _ => cases same

theorem eval_probeIf {row : Object} (enabled : row.lookup "enabled" = some (.bool true))
    (state : row.lookup "state" = some (.str "up")) :
    probeIf.eval row = do
      let equal ← ((row.lookup "msgVpnConnections").getD .null).equals (.float 0)
      return .bool !equal := by
  simp only [probeIf, Term.eval, enabled, state]
  rfl

theorem passes_probe {row : Object} {i : Nat} {pass : Bool}
    (enabled : row.lookup "enabled" = some (.bool true))
    (state : row.lookup "state" = some (.str "up"))
    (read : passes (host.withTemplates sprint probeTemplates) realClients execCtx i row = .ok pass) :
    pass = true ∨ row.lookup "msgVpnConnections" = some (.float 0) := by
  have template : (host.withTemplates sprint probeTemplates).template "forEachIf"
      realClients.forEachIf { execCtx with item := some row } =
        probeIf.execute sprint { execCtx with item := some row } := rfl
  rw [passes, if_neg (by decide), template, Term.execute, Option.getD_some,
    eval_probeIf enabled state] at read
  cases compared : ((row.lookup "msgVpnConnections").getD .null).equals (.float 0) with
  | error err =>
      rw [compared] at read
      cases read
  | ok equal =>
      rw [compared] at read
      cases equal with
      | false =>
          have parsed : parseBool (trimSpace "true") = some true := by decide
          simp only [bind, Except.bind, pure, Except.pure, Value.print, Bool.not_false, ↓reduceIte,
            parsed, Except.ok.injEq] at read
          exact .inl read.symm
      | true =>
          have zero := equals_zero compared
          cases found : row.lookup "msgVpnConnections" with
          | none =>
              rw [found] at zero
              cases zero
          | some v =>
              rw [found] at zero
              exact .inr (congrArg some zero)

theorem readRow_skips {row : Object} {i : Nat}
    (enabled : row.lookup "enabled" = some (.bool true))
    (state : row.lookup "state" = some (.str "up"))
    (read : readRow (host.withTemplates sprint probeTemplates) realClients execCtx i (.obj row) =
      .ok none) : row.lookup "msgVpnConnections" = some (.float 0) := by
  obtain ⟨item, here, read⟩ := bind_ok read
  obtain rfl := Except.ok.inj here
  obtain ⟨pass, tested, read⟩ := bind_ok read
  rcases passes_probe enabled state tested with rfl | zero
  · obtain ⟨key, -, read⟩ := bind_ok read
    cases read
  · exact zero

theorem readRow_takes {host : Host} {raw : Value} {row : Object} {i : Nat} {name : String}
    (read : readRow host realClients execCtx i raw = .ok (some (row, name))) :
    raw = .obj row ∧ row.lookup "msgVpnName" = some (.str name) := by
  obtain ⟨item, here, read⟩ := bind_ok read
  obtain ⟨pass, -, read⟩ := bind_ok read
  cases pass with
  | false => cases read
  | true =>
      obtain ⟨key, named, read⟩ := bind_ok read
      obtain ⟨rfl, rfl⟩ := Prod.mk.inj (Option.some.inj (Except.ok.inj read))
      constructor
      · cases raw with
        | obj fields => rw [Except.ok.inj here]
        | _ => cases here
      · have field : realClients.forEachKey = "msgVpnName" := rfl
        unfold rowKey at named
        rw [field] at named
        split at named
        · cases named
        · next key found => rw [found, Except.ok.inj named]
        · cases named

def Answers (ce : CompositeExecutor) (host : Host) (name : String) (reply : Object)
    (p : Execution × ExecAction) : Prop :=
  ∃ j w worker client op args, p.2 = .fan j (.worker w (.finish client)) ∧
    WorkerAt p.1.parts j w realClients worker ∧ worker.key = name ∧
    prepare ce host realClients { p.1.execCtx with item := some worker.row } = .ok (op, args) ∧
    args.lookup "msgVpnName" = some (.str name) ∧ callOnce realClients client op args = .ok reply

def ProbedEmpty (ce : CompositeExecutor) (host : Host) (history : List (Execution × ExecAction))
    (name : String) : Prop :=
  ∃ p ∈ history, ∃ reply, Answers ce host name reply p ∧ reply.arr? "data" = some [] ∧
    hasNextPage reply = false

/-- The step does not end a probe on a reply that has neither a `data` array nor a further page. -/
def Conclusive (p : Execution × ExecAction) : Prop :=
  ∀ j w client, p.2 = .fan j (.worker w (.finish client)) → ∀ n op args reply,
    client n op args = .ok reply → (reply.arr? "data").isSome = true ∨ hasNextPage reply = true

theorem callOnce_reply {step : Step} {client : Client} {op : Operation} {args reply : Object}
    (done : callOnce step client op args = .ok reply) :
    ∃ n args', client n op args' = .ok reply := by
  unfold callOnce at done
  split at done
  · next first =>
      obtain rfl := Except.ok.inj done
      exact ⟨0, args, first⟩
  · split at done
    · cases done
    · next args' _ => exact ⟨1, args', mapError_ok done⟩

theorem answers_of_ends {p : Execution × ExecAction} {j w : Nat} {worker : Worker} {row : Object}
    {name : String} {client : Client} {reply : Object}
    (finish : p.2 = .fan j (.worker w (.finish client)))
    (stands : WorkerAt p.1.parts j w realClients worker)
    (own : row.lookup "msgVpnName" = some (.str name))
    (ends : Ends ce (host.withTemplates sprint probeTemplates) p.1.execCtx realClients worker row
      name client reply) :
    Answers ce (host.withTemplates sprint probeTemplates) name reply p := by
  obtain ⟨rfl, named, result⟩ := ends
  obtain ⟨⟨op, args⟩, prepared, called⟩ := bind_ok result
  refine ⟨j, w, worker, client, op, args, finish, stands, named, prepared, ?_, called⟩
  have asked := prepare_lookup prepared (by decide : "msgVpnName" ≠ "select") (by decide)
  obtain ⟨text, executed, asked⟩ : ∃ text,
      (Term.field "msgVpnName").execute sprint { p.1.execCtx with item := some worker.row } =
        .ok text ∧ args.lookup "msgVpnName" = some (.str text) := asked
  have printed : (Term.field "msgVpnName").execute sprint
      { p.1.execCtx with item := some worker.row } = .ok name := by
    simp only [Term.execute, Term.eval, Option.getD_some, own]
    rfl
  rw [asked, Except.ok.inj (executed.symm.trans printed)]

end BrokerMcp.Proof.Composite
