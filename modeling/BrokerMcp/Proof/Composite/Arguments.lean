import BrokerMcp.Proof.Composite.Pages

namespace BrokerMcp.Proof.Composite
open Resilience BrokerMcp.Composite
open Text

theorem resolveArgs_lookup {host : Host} {step : Step} {execCtx : ExecuteContext} {args : Object}
    (done : resolveArgs host step execCtx = .ok args) (key : String) :
    match step.args.lookup key with
    | none => args.lookup key = none
    | some text => ∃ result, host.template key text execCtx = .ok result ∧
        args.lookup key = some (.str result) := by
  unfold resolveArgs at done
  generalize step.args = source at done
  induction source generalizing args with
  | nil =>
      obtain rfl := Except.ok.inj done
      rfl
  | cons arg source ih =>
      obtain ⟨name, text⟩ := arg
      rw [List.mapM_cons] at done
      obtain ⟨entry, here, done⟩ := bind_ok done
      obtain ⟨rest, there, done⟩ := bind_ok done
      obtain rfl := Except.ok.inj done
      unfold resolveArg at here
      dsimp only at here
      split at here
      · rename_i result executed
        obtain rfl := Except.ok.inj here
        rw [Assoc.lookup_cons_eq, Assoc.lookup_cons_eq]
        split_ifs with same
        · subst same
          exact ⟨result, executed, rfl⟩
        · exact ih there
      · cases here

theorem lookup_withArg (args : Object) (key other : String) (value : Value) :
    (withArg args key value).lookup other = if other = key then some value else args.lookup other :=
  Assoc.lookup_put other key value args

theorem applySelect_lookup (args : Object) (fields : List String) {key : String}
    (other : key ≠ "select") : (applySelect args fields).lookup key = args.lookup key := by
  unfold applySelect
  split_ifs
  · rfl
  · rw [lookup_withArg, if_neg other]

theorem constructRequestBody_lookup {host : Host} {op : Operation} {args params args' : Object}
    {checks : List String} (done : constructRequestBody host op args params checks = .ok args')
    {key : String} (other : key ≠ "body") : args'.lookup key = args.lookup key := by
  unfold constructRequestBody at done
  split_ifs at done
  · obtain rfl := Except.ok.inj done
    rfl
  · obtain ⟨body, -, done⟩ := bind_ok done
    obtain ⟨_, -, done⟩ := bind_ok done
    obtain ⟨_, -, done⟩ := bind_ok done
    obtain rfl := Except.ok.inj done
    rw [lookup_withArg, if_neg other]

theorem prepare_lookup {ce : CompositeExecutor} {host : Host} {step : Step}
    {execCtx : ExecuteContext} {op : Operation} {baseArgs : Object}
    (done : prepare ce host step execCtx = .ok (op, baseArgs)) {key : String}
    (select : key ≠ "select") (body : key ≠ "body") :
    match step.args.lookup key with
    | none => baseArgs.lookup key = none
    | some text => ∃ result, host.template key text execCtx = .ok result ∧
        baseArgs.lookup key = some (.str result) := by
  unfold prepare at done
  split at done
  · cases done
  · rename_i args resolved
    split at done
    · cases done
    · rename_i found
      split at done
      · cases done
      · rename_i built
        obtain ⟨-, rfl⟩ := Prod.mk.inj (Except.ok.inj done)
        have kept := resolveArgs_lookup resolved key
        rw [constructRequestBody_lookup built body, applySelect_lookup _ _ select]
        exact kept

theorem prepare_operation {ce : CompositeExecutor} {host : Host} {step : Step}
    {execCtx : ExecuteContext} {op : Operation} {args : Object}
    (done : prepare ce host step execCtx = .ok (op, args)) :
    ce.operations.lookup step.operation = some op := by
  unfold prepare at done
  split at done
  · cases done
  · split at done
    · cases done
    · rename_i found
      split at done
      · cases done
      · rw [found, (Prod.mk.inj (Except.ok.inj done)).1]

structure Resumable (step : Step) : Prop where
  flagged : step.resumable = true
  loaded : ∃ params prior, validateResumable step params prior = .ok ()
  start : step.args.lookup "cursor" = none

theorem Resumable.count {step : Step} (resumable : Resumable step) :
    ∃ text size, step.args.lookup "count" = some text ∧ atoi text = (size, true) ∧ 0 < size := by
  obtain ⟨params, prior, loaded⟩ := resumable.loaded
  unfold validateResumable at loaded
  rw [resumable.flagged] at loaded
  simp only [Bool.not_true, Bool.false_eq_true, ↓reduceIte] at loaded
  split_ifs at loaded with pages number
  simp only [Bool.or_eq_true, Bool.not_eq_true', decide_eq_true_eq, not_or, Bool.not_eq_false,
    Int.not_le] at number
  cases found : step.args.lookup "count" with
  | none =>
      rw [found] at number
      exact absurd number.2 (by decide)
  | some text =>
      rw [found] at number
      exact ⟨text, (atoi text).1, rfl, Prod.ext rfl number.1, number.2⟩

def Literal (host : Host) : Prop :=
  ∀ key text execCtx, '{' ∉ text.toList → host.template key text execCtx = .ok text

theorem Resumable.prepared {step : Step} (resumable : Resumable step) {ce : CompositeExecutor}
    {host : Host} (literal : Literal host) {execCtx : ExecuteContext} {op : Operation}
    {baseArgs : Object} (done : prepare ce host step execCtx = .ok (op, baseArgs)) :
    baseArgs.lookup "cursor" = none ∧ 0 < pageSizeOf step baseArgs ∧
      ∃ text, baseArgs.lookup "count" = some (.str text) ∧
        atoi text = (pageSizeOf step baseArgs, true) := by
  obtain ⟨text, size, count, read, positive⟩ := resumable.count
  have cursor := prepare_lookup done (show "cursor" ≠ "select" by decide) (by decide)
  rw [resumable.start] at cursor
  have counted := prepare_lookup done (show "count" ≠ "select" by decide) (by decide)
  rw [count] at counted
  obtain ⟨result, executed, here⟩ := counted
  rw [literal _ text _ (atoi_plain (by rw [read]))] at executed
  obtain rfl := Except.ok.inj executed
  have sized : pageSizeOf step baseArgs = size := by
    simp [pageSizeOf, resumable.flagged, Object.str?, here, Value.str?, read]
  exact ⟨cursor, sized ▸ positive, text, here, by rw [sized, read]⟩

end BrokerMcp.Proof.Composite
