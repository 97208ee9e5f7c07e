import BrokerMcp.Proof.Composite.Pages

namespace BrokerMcp.Proof.Composite
open Resilience BrokerMcp.Composite

def Supplied (op : Operation) (param : String × Value) (field : String) (val : Value) : Prop :=
  op.nonBody param.1 = false ∧
    match param.2 with
    | .obj fields => (field, val) ∈ fields
    | scalar => field = param.1 ∧ val = scalar

structure Adds (adds : String → Value → Prop) (before after : Object) : Prop where
  kept : ∀ field val, before.lookup field = some val → after.lookup field = some val
  there : ∀ field val, adds field val → after.lookup field = some val
  only : ∀ field val, after.lookup field = some val → before.lookup field = some val ∨ adds field val

theorem Adds.none (body : Object) : Adds (fun _ _ => False) body body :=
  ⟨fun _ _ => id, nofun, fun _ _ => .inl⟩

theorem Adds.of_iff {adds adds' : String → Value → Prop} {before after : Object}
    (added : Adds adds before after) (same : ∀ field val, adds' field val ↔ adds field val) :
    Adds adds' before after :=
  ⟨added.kept, fun field val new => added.there field val ((same field val).mp new),
    fun field val there => (added.only field val there).imp_right (same field val).mpr⟩

theorem foldlM_adds {α : Type} {f : Object → α → Except Chain Object}
    {adds : α → String → Value → Prop} {xs : List α} {before after : Object}
    (steps : ∀ x ∈ xs, ∀ body body', f body x = .ok body' → Adds (adds x) body body')
    (done : xs.foldlM f before = .ok after) :
    Adds (fun field val => ∃ x ∈ xs, adds x field val) before after := by
  induction xs generalizing before with
  | nil =>
      obtain rfl := Except.ok.inj done
      exact (Adds.none before).of_iff (by simp)
  | cons x xs ih =>
      rw [List.foldlM_cons] at done
      obtain ⟨body, first, rest⟩ := bind_ok done
      have here := steps x (.head _) before body first
      have later := ih (fun y member => steps y (.tail _ member)) rest
      refine ⟨?_, ?_, ?_⟩
      · exact fun field val old => later.kept field val (here.kept field val old)
      · rintro field val ⟨y, _ | ⟨_, member⟩, new⟩
        · exact later.kept field val (here.there field val new)
        · exact later.there field val ⟨y, member, new⟩
      · intro field val there
        rcases later.only field val there with old | ⟨y, member, new⟩
        · rcases here.only field val old with older | new
          · exact .inl older
          · exact .inr ⟨x, .head _, new⟩
        · exact .inr ⟨y, .tail _ member, new⟩

theorem setField_adds {body body' : Object} {field : String} {val : Value}
    (done : setField body field val = .ok body') :
    Adds (fun f v => f = field ∧ v = val) body body' := by
  unfold setField at done
  split_ifs at done with taken
  obtain rfl := Except.ok.inj done
  have free : body.lookup field = none := Option.not_isSome_iff_eq_none.mp taken
  refine ⟨?_, ?_, ?_⟩
  · intro f v old
    rw [List.lookup_append, old]
    rfl
  · rintro f v ⟨rfl, rfl⟩
    simp [List.lookup_append, free]
  · intro f v there
    rw [List.lookup_append, Assoc.lookup_cons_eq] at there
    cases old : body.lookup f with
    | some w =>
        rw [old] at there
        exact .inl there
    | none =>
        rw [old, Option.none_or] at there
        split_ifs at there with same
        · exact .inr ⟨same, (Option.some.inj there).symm⟩
        · cases there

theorem setNested_adds {op : Operation} {name : String} {body body' : Object}
    {entry : String × Value} (done : setNested op name body entry = .ok body') :
    op.nonBody entry.1 = false ∧ Adds (fun f v => (f, v) = entry) body body' := by
  unfold setNested at done
  split_ifs at done with taken
  refine ⟨by simpa using taken, (setField_adds done).of_iff ?_⟩
  intro f v
  exact Prod.ext_iff

theorem setParam_adds {op : Operation} {param : String × Value} {body body' : Object}
    (done : setParam op body param = .ok body') : Adds (Supplied op param) body body' := by
  unfold setParam at done
  obtain ⟨name, val⟩ := param
  split_ifs at done with hidden
  · obtain rfl := Except.ok.inj done
    refine (Adds.none body).of_iff fun f v => ?_
    simp only [iff_false]
    rintro ⟨visible, -⟩
    cases hidden.symm.trans visible
  · have visible : op.nonBody name = false := by simpa using hidden
    cases val with
    | obj fields =>
        have folded : fields.foldlM (setNested op name) body = .ok body' := done
        have steps : ∀ entry ∈ fields, ∀ body body', setNested op name body entry = .ok body' →
            Adds (fun f v => (f, v) = entry) body body' := fun _ _ _ _ one => (setNested_adds one).2
        refine (foldlM_adds steps folded).of_iff fun f v => ?_
        simp [Supplied, visible]
    | _ =>
        refine (setField_adds done).of_iff fun f v => ?_
        simp [Supplied, visible]

theorem foldlM_nested {op : Operation} {params : Object} {before after : Object}
    (done : params.foldlM (setParam op) before = .ok after) {name : String} {fields : Object}
    (member : (name, Value.obj fields) ∈ params) (visible : op.nonBody name = false)
    {entry : String × Value} (field : entry ∈ fields) : op.nonBody entry.1 = false := by
  induction params generalizing before with
  | nil => cases member
  | cons param params ih =>
      rw [List.foldlM_cons] at done
      obtain ⟨body, first, rest⟩ := bind_ok done
      rcases List.mem_cons.mp member with rfl | later
      · have shape : fields.foldlM (setNested op name) before = .ok body := by
          simpa [setParam, visible] using first
        clear first member ih rest done
        induction fields generalizing before with
        | nil => cases field
        | cons e fields ih =>
            rw [List.foldlM_cons] at shape
            obtain ⟨body', first, rest⟩ := bind_ok shape
            rcases List.mem_cons.mp field with rfl | later
            · exact (setNested_adds first).1
            · exact ih later rest
      · exact ih rest later

structure Body (op : Operation) (params body : Object) : Prop where
  there : ∀ param ∈ params, ∀ field val, Supplied op param field val → body.lookup field = some val
  only : ∀ field val, body.lookup field = some val → ∃ param ∈ params, Supplied op param field val
  nested : ∀ name fields, (name, Value.obj fields) ∈ params → op.nonBody name = false →
    ∀ entry ∈ fields, op.nonBody entry.1 = false

theorem constructRequestBody_body {host : Host} {op : Operation} {args params args' body : Object}
    {checks : List String} (done : constructRequestBody host op args params checks = .ok args')
    (plain : args.obj? "body" = none) (found : args'.obj? "body" = some body) :
    Body op params body := by
  unfold constructRequestBody at done
  split_ifs at done
  · obtain rfl := Except.ok.inj done
    cases plain.symm.trans found
  · obtain ⟨made, folded, done⟩ := bind_ok done
    obtain ⟨_, -, done⟩ := bind_ok done
    obtain ⟨_, -, done⟩ := bind_ok done
    obtain rfl := Except.ok.inj done
    have same : made = body := by
      simpa [Object.obj?, withArg, Assoc.lookup_put, Value.obj?] using found
    subst same
    have steps : ∀ param ∈ params, ∀ body body', setParam op body param = .ok body' →
        Adds (Supplied op param) body body' := fun _ _ _ _ one => setParam_adds one
    have added := foldlM_adds steps folded
    refine ⟨fun param member field val new => added.there field val ⟨param, member, new⟩, ?_, ?_⟩
    · intro field val there
      rcases added.only field val there with old | new
      · cases old
      · exact new
    · intro name fields member visible entry field
      exact foldlM_nested folded member visible field

end BrokerMcp.Proof.Composite
