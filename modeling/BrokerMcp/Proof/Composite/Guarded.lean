import BrokerMcp.Composite.BodyChecks
import BrokerMcp.Proof.Composite.Arguments

namespace BrokerMcp.Proof.Composite
open Resilience BrokerMcp.Composite

def contribution (op : Operation) (param : String × Value) : Object :=
  if op.nonBody param.1 then []
  else
    match param.2 with
    | .obj fields => fields
    | val => [(param.1, val)]

def merged (op : Operation) (params : Object) : Object := params.flatMap (contribution op)

def names (body : Object) : List String := body.map Prod.fst

theorem names_append (body fields : Object) : names (body ++ fields) = names body ++ names fields :=
  List.map_append

theorem lookup_eq_none_iff {body : Object} {field : String} :
    body.lookup field = none ↔ field ∉ names body := by
  rw [names, Assoc.mem_keys_iff, not_exists, Option.eq_none_iff_forall_ne_some]

theorem foldlM_appends {α : Type} {f : Object → α → Except Chain Object} {adds : α → Object}
    {fits : α → Prop}
    (steps : ∀ x body body', (names body).Nodup → (f body x = .ok body' ↔
      fits x ∧ (names (body ++ adds x)).Nodup ∧ body' = body ++ adds x))
    (xs : List α) (before after : Object) (distinct : (names before).Nodup) :
    xs.foldlM f before = .ok after ↔ (∀ x ∈ xs, fits x) ∧
      (names (before ++ xs.flatMap adds)).Nodup ∧ after = before ++ xs.flatMap adds := by
  induction xs generalizing before with
  | nil =>
      rw [List.foldlM_nil, List.flatMap_nil, List.append_nil]
      constructor
      · intro done
        exact ⟨nofun, distinct, (Except.ok.inj done).symm⟩
      · intro ⟨_, _, same⟩
        rw [same]
        rfl
  | cons x xs ih =>
      rw [List.foldlM_cons, List.flatMap_cons, ← List.append_assoc, List.forall_mem_cons]
      constructor
      · intro done
        obtain ⟨body, first, rest⟩ := bind_ok done
        obtain ⟨fits, distinct', rfl⟩ := (steps x before body distinct).mp first
        obtain ⟨all, apart, same⟩ := (ih _ distinct').mp rest
        exact ⟨⟨fits, all⟩, apart, same⟩
      · intro ⟨⟨fits, all⟩, apart, same⟩
        have distinct' : (names (before ++ adds x)).Nodup := by
          rw [names_append] at apart
          exact (List.nodup_append.mp apart).1
        rw [(steps x before _ distinct).mpr ⟨fits, distinct', rfl⟩]
        exact (ih _ distinct').mpr ⟨all, apart, same⟩

theorem setField_ok_iff {body body' : Object} {field : String} {val : Value}
    (distinct : (names body).Nodup) : setField body field val = .ok body' ↔
      (names (body ++ [(field, val)])).Nodup ∧ body' = body ++ [(field, val)] := by
  have free : (names (body ++ [(field, val)])).Nodup ↔ body.lookup field = none := by
    rw [lookup_eq_none_iff, names_append, List.nodup_append_comm]
    show (field :: names body).Nodup ↔ _
    rw [List.nodup_cons, and_iff_left distinct]
  rw [free]
  unfold setField
  split_ifs with taken
  · simp [Option.isSome_iff_ne_none.mp taken]
  · rw [Option.not_isSome_iff_eq_none] at taken
    rw [taken, Except.ok.injEq, eq_comm]
    simp

theorem setNested_ok_iff (op : Operation) (name : String) (entry : String × Value)
    (body body' : Object) (distinct : (names body).Nodup) :
    setNested op name body entry = .ok body' ↔ op.nonBody entry.1 = false ∧
      (names (body ++ [entry])).Nodup ∧ body' = body ++ [entry] := by
  unfold setNested
  split_ifs with taken
  · simp [taken]
  · rw [setField_ok_iff distinct]
    simp [taken]

def Fits (op : Operation) (param : String × Value) : Prop :=
  ∀ entry ∈ contribution op param, op.nonBody entry.1 = false

theorem setParam_ok_iff (op : Operation) (param : String × Value) (body body' : Object)
    (distinct : (names body).Nodup) : setParam op body param = .ok body' ↔
      Fits op param ∧ (names (body ++ contribution op param)).Nodup ∧
        body' = body ++ contribution op param := by
  obtain ⟨name, val⟩ := param
  unfold setParam Fits contribution
  split_ifs with hidden
  · rw [List.append_nil, Except.ok.injEq]
    exact ⟨fun same => ⟨nofun, distinct, same.symm⟩, fun fits => fits.2.2.symm⟩
  · have visible : op.nonBody name = false := by simpa using hidden
    cases val with
    | obj fields =>
        have nested := foldlM_appends (setNested_ok_iff op name) fields body body' distinct
        rw [List.flatMap_singleton'] at nested
        exact nested
    | _ => simp [setField_ok_iff distinct, visible]

theorem setParams_ok_iff {op : Operation} (params body : Object) :
    params.foldlM (setParam op) [] = .ok body ↔
      (∀ entry ∈ merged op params, op.nonBody entry.1 = false) ∧
        (names (merged op params)).Nodup ∧ body = merged op params := by
  have loop := foldlM_appends (setParam_ok_iff op) params [] body List.nodup_nil
  rw [loop, List.nil_append]
  apply and_congr_left
  intro _
  constructor
  · intro all entry member
    obtain ⟨param, given, inside⟩ := List.mem_flatMap.mp member
    exact all param given entry inside
  · intro all param given entry inside
    exact all entry (List.mem_flatMap.mpr ⟨param, given, inside⟩)

section Checks

variable {body walk : Object} {mode : BodyMode}

theorem hasKey_iff {field : String} :
    hasKey body field = true ↔ ∃ entry ∈ body, equalFold entry.1 field = true :=
  List.any_eq_true

theorem any_perm {p : String × Value → Bool} (perm : walk.Perm body) : walk.any p = body.any p := by
  rw [Bool.eq_iff_iff, List.any_eq_true, List.any_eq_true]
  constructor
  · intro ⟨entry, member, holds⟩
    exact ⟨entry, perm.mem_iff.mp member, holds⟩
  · intro ⟨entry, member, holds⟩
    exact ⟨entry, perm.mem_iff.mpr member, holds⟩

theorem hasKey_perm (perm : walk.Perm body) : hasKey walk = hasKey body := by
  funext field
  exact any_perm perm

theorem rejectSecretFields_perm (fields : List String) (hint : String) (mode : BodyMode)
    (perm : walk.Perm body) :
    rejectSecretFields fields hint mode walk = rejectSecretFields fields hint mode body := by
  unfold rejectSecretFields
  rw [hasKey_perm perm]

theorem rejectKafkaRetarget_perm (perm : walk.Perm body) :
    rejectKafkaRetarget mode walk = rejectKafkaRetarget mode body := by
  unfold rejectKafkaRetarget
  rw [hasKey_perm perm, any_perm perm]

theorem checkAuthenticated_perm (perm : walk.Perm body) (distinct : (names body).Nodup) :
    checkAuthenticatedBridgeIsDisabled mode walk = checkAuthenticatedBridgeIsDisabled mode body := by
  unfold checkAuthenticatedBridgeIsDisabled
  rw [Assoc.lookup_perm perm distinct, Assoc.lookup_perm perm distinct]

theorem bodyChecks_cases {name : String} {check : BodyCheck}
    (found : bodyChecks.lookup name = some check) :
    (∃ hint, check = ⟨rejectSecretFields check.secretFields hint, check.secretFields⟩) ∨
      (name = "createDisabledWhenAuthenticated" ∧
        check = ⟨checkAuthenticatedBridgeIsDisabled, []⟩) ∨
      (name = "rejectKafkaRetarget" ∧ check = ⟨rejectKafkaRetarget, []⟩) := by
  simp only [bodyChecks, Assoc.lookup_cons_eq] at found
  split_ifs at found with kafka vpn disabled retarget
  · obtain rfl := Option.some.inj found
    exact .inl ⟨_, rfl⟩
  · obtain rfl := Option.some.inj found
    exact .inl ⟨_, rfl⟩
  · exact .inr (.inl ⟨disabled, (Option.some.inj found).symm⟩)
  · exact .inr (.inr ⟨retarget, (Option.some.inj found).symm⟩)
  · cases found

theorem runCheck_perm (perm : walk.Perm body) (distinct : (names body).Nodup) (name : String) :
    runCheck mode walk name = runCheck mode body name := by
  unfold runCheck
  cases found : bodyChecks.lookup name with
  | none => rfl
  | some check =>
      rcases bodyChecks_cases found with ⟨hint, same⟩ | ⟨-, rfl⟩ | ⟨-, rfl⟩
      · rw [same]
        exact rejectSecretFields_perm check.secretFields hint mode perm
      · exact checkAuthenticated_perm perm distinct
      · exact rejectKafkaRetarget_perm perm

theorem runBodyChecks_perm (perm : walk.Perm body) (distinct : (names body).Nodup)
    (checks : List String) (opID : String) :
    runBodyChecks checks opID walk = runBodyChecks checks opID body := by
  have same (mode : BodyMode) : runCheck mode walk = runCheck mode body := by
    funext name
    exact runCheck_perm perm distinct name
  simp only [runBodyChecks, same]

theorem checkBodyFields_ok_iff (op : Operation) (body : Object) : checkBodyFields op body = .ok () ↔
    ∀ known, op.bodyFields = some known → ∀ entry ∈ body, entry.1 ∈ known := by
  unfold checkBodyFields
  cases declared : op.bodyFields with
  | none => simp
  | some known =>
      dsimp only
      split
      · rename_i none
        have all := List.find?_eq_none.mp none
        simp only [decide_eq_true_eq, not_not] at all
        simpa using all
      · rename_i entry unknown
        have stray := List.find?_some unknown
        have member := List.mem_of_find?_eq_some unknown
        simp only [decide_eq_true_eq] at stray
        constructor
        · intro done
          cases done
        · intro all
          exact absurd (all known rfl entry member) stray

theorem checkBodyFields_perm (op : Operation) (perm : walk.Perm body) :
    checkBodyFields op walk = .ok () ↔ checkBodyFields op body = .ok () := by
  rw [checkBodyFields_ok_iff, checkBodyFields_ok_iff]
  simp only [perm.mem_iff]

end Checks

structure Guarded (checks : List String) (opID : String) (body : Object) : Prop where
  secrets : ∀ name ∈ checks, ∀ check, bodyChecks.lookup name = some check →
    ∀ secret ∈ check.secretFields, ∀ entry ∈ body, equalFold entry.1 secret = false
  retarget : "rejectKafkaRetarget" ∈ checks → bodyModeFor opID ≠ some .create →
    ∀ entry ∈ body, (∀ field ∈ kafkaRetargetFields, equalFold entry.1 field = false) ∧
      ¬ (equalFold entry.1 "transportTlsEnabled" = true ∧ entry.2 = .bool false)
  disabled : "createDisabledWhenAuthenticated" ∈ checks →
    ∀ scheme, body.lookup "authenticationScheme" = some scheme →
      scheme = .str "" ∨ scheme = .str "none" ∨ body.lookup "enabled" = some (.bool false) ∨
        (body.lookup "enabled" = none ∧ bodyModeFor opID ≠ some .update)

theorem find?_hasKey_none {fields : List String} {body : Object}
    (none : fields.find? (hasKey body) = none) {field : String} (listed : field ∈ fields)
    {entry : String × Value} (member : entry ∈ body) : equalFold entry.1 field = false := by
  have absent := List.find?_eq_none.mp none field listed
  rw [hasKey_iff] at absent
  rw [Bool.eq_false_iff]
  intro equal
  exact absent ⟨entry, member, equal⟩

theorem rejectSecretFields_ok {fields : List String} {hint : String} (mode : BodyMode)
    {body : Object} (passed : rejectSecretFields fields hint mode body = .ok ()) {secret : String}
    (listed : secret ∈ fields) {entry : String × Value} (member : entry ∈ body) :
    equalFold entry.1 secret = false := by
  unfold rejectSecretFields at passed
  split at passed
  · cases passed
  · rename_i none
    exact find?_hasKey_none none (List.mem_mergeSort.mpr listed) member

theorem rejectKafkaRetarget_ok {mode : BodyMode} {body : Object}
    (passed : rejectKafkaRetarget mode body = .ok ()) (existing : mode ≠ .create)
    {entry : String × Value} (member : entry ∈ body) :
    (∀ field ∈ kafkaRetargetFields, equalFold entry.1 field = false) ∧
      ¬ (equalFold entry.1 "transportTlsEnabled" = true ∧ entry.2 = .bool false) := by
  unfold rejectKafkaRetarget at passed
  rw [if_neg existing] at passed
  split at passed
  · cases passed
  · rename_i none
    split_ifs at passed with plain
    constructor
    · intro field listed
      exact find?_hasKey_none none listed member
    · intro ⟨tls, off⟩
      apply plain
      rw [List.any_eq_true]
      exact ⟨entry, member, by rw [tls, off]; rfl⟩

theorem checkAuthenticated_ok {mode : BodyMode} {body : Object}
    (passed : checkAuthenticatedBridgeIsDisabled mode body = .ok ()) {scheme : Value}
    (selected : body.lookup "authenticationScheme" = some scheme) :
    scheme = .str "" ∨ scheme = .str "none" ∨ body.lookup "enabled" = some (.bool false) ∨
      (body.lookup "enabled" = none ∧ mode ≠ .update) := by
  unfold checkAuthenticatedBridgeIsDisabled at passed
  rw [selected] at passed
  cases scheme with
  | str scheme =>
      dsimp only at passed
      by_cases plain : scheme = "" ∨ scheme = "none"
      · rcases plain with rfl | rfl
        · exact .inl rfl
        · exact .inr (.inl rfl)
      · rw [if_neg plain] at passed
        cases enabled : body.lookup "enabled" with
        | none =>
            simp only [enabled] at passed
            split_ifs at passed with update
            exact .inr (.inr (.inr ⟨rfl, update⟩))
        | some value =>
            simp only [enabled] at passed
            cases value with
            | bool on =>
                dsimp only at passed
                split_ifs at passed with on
                simp [on]
            | _ => cases passed
  | _ => cases passed

theorem forM_ok {α : Type} {f : α → Except Chain Unit} {xs : List α} (done : xs.forM f = .ok ())
    {x : α} (member : x ∈ xs) : f x = .ok () := by
  induction xs with
  | nil => cases member
  | cons y ys ih =>
      change (f y >>= fun _ => ys.forM f) = .ok () at done
      obtain ⟨_, first, rest⟩ := bind_ok done
      rcases List.mem_cons.mp member with rfl | later
      · exact first
      · exact ih rest later

theorem runBodyChecks_guarded {checks : List String} {opID : String} {body : Object}
    (passed : runBodyChecks checks opID body = .ok ()) : Guarded checks opID body := by
  -- a check that is listed and known has been run in the mode of the operation
  have ran {name : String} {check : BodyCheck} (listed : name ∈ checks)
      (found : bodyChecks.lookup name = some check) :
      ∃ mode, bodyModeFor opID = some mode ∧ check.fn mode body = .ok () := by
    unfold runBodyChecks at passed
    rw [if_neg (List.ne_nil_of_mem listed)] at passed
    split at passed
    · cases passed
    · rename_i mode known
      have one := forM_ok passed listed
      rw [runCheck, found] at one
      exact ⟨mode, known, one⟩
  constructor
  · intro name listed check found secret secretListed entry member
    obtain ⟨mode, -, one⟩ := ran listed found
    rcases bodyChecks_cases found with ⟨hint, same⟩ | ⟨-, rfl⟩ | ⟨-, rfl⟩
    · rw [same] at one
      exact rejectSecretFields_ok mode one secretListed member
    · cases secretListed
    · cases secretListed
  · intro listed existing entry member
    obtain ⟨mode, known, one⟩ := ran listed rfl
    have later : mode ≠ .create := by
      rintro rfl
      exact existing known
    exact rejectKafkaRetarget_ok one later member
  · intro listed scheme selected
    obtain ⟨mode, known, one⟩ := ran listed rfl
    rcases checkAuthenticated_ok one selected with empty | none | off | ⟨absent, notUpdate⟩
    · exact .inl empty
    · exact .inr (.inl none)
    · exact .inr (.inr (.inl off))
    · refine .inr (.inr (.inr ⟨absent, ?_⟩))
      rw [known]
      intro update
      exact notUpdate (Option.some.inj update)

structure Settled (op : Operation) (params body : Object) : Prop where
  union : body = merged op params
  disjoint : (names body).Nodup
  own : ∀ entry ∈ body, op.nonBody entry.1 = false
  declared : ∀ known, op.bodyFields = some known → ∀ entry ∈ body, entry.1 ∈ known

section Construction

variable {host : Host} {op : Operation} {args params result : Object} {checks : List String}

theorem constructRequestBody_ok_iff (takes : op.hasBody = true) :
    constructRequestBody host.checked op args params checks = .ok result ↔
      Settled op params (merged op params) ∧
        runBodyChecks checks op.id (merged op params) = .ok () ∧
        result = withArg args "body" (.obj (merged op params)) := by
  unfold constructRequestBody
  rw [takes, if_neg (by simp)]
  constructor
  · intro done
    obtain ⟨body, folded, done⟩ := bind_ok done
    obtain ⟨own, disjoint, rfl⟩ := (setParams_ok_iff params body).mp folded
    obtain ⟨_, checked, done⟩ := bind_ok done
    obtain ⟨_, declared, done⟩ := bind_ok done
    exact ⟨⟨rfl, disjoint, own, (checkBodyFields_ok_iff op _).mp declared⟩, checked,
      (Except.ok.inj done).symm⟩
  · intro ⟨settled, checked, same⟩
    have folded := (setParams_ok_iff params _).mpr ⟨settled.own, settled.disjoint, rfl⟩
    have declared := (checkBodyFields_ok_iff op _).mpr settled.declared
    rw [folded, same]
    change ((runBodyChecks checks op.id (merged op params)).bind fun _ => _) = _
    rw [checked]
    change ((checkBodyFields op (merged op params)).bind fun _ => _) = _
    rw [declared]
    rfl

def SameParam (p q : String × Value) : Prop :=
  p.1 = q.1 ∧ (p.2 = q.2 ∨
    ∃ fields fields', p.2 = .obj fields ∧ q.2 = .obj fields' ∧ fields.Perm fields')

def Reordered (params params' : Object) : Prop :=
  ∃ between, List.Forall₂ SameParam params between ∧ between.Perm params'

theorem contribution_perm {p q : String × Value} (same : SameParam p q) :
    (contribution op p).Perm (contribution op q) := by
  obtain ⟨name, val⟩ := p
  obtain ⟨name', val'⟩ := q
  obtain ⟨rfl, rfl | ⟨fields, fields', rfl, rfl, perm⟩⟩ := same
  · exact .refl _
  · unfold contribution
    dsimp only
    split_ifs
    · exact .nil
    · exact perm

theorem merged_perm {params' : Object} (reordered : Reordered params params') :
    (merged op params).Perm (merged op params') := by
  obtain ⟨between, same, perm⟩ := reordered
  have first : (merged op params).Perm (merged op between) := by
    clear perm
    unfold merged
    induction same with
    | nil => exact .nil
    | cons here _ ih =>
        rw [List.flatMap_cons, List.flatMap_cons]
        exact (contribution_perm here).append ih
  exact first.trans (perm.flatMap_right _)

theorem Settled.of_perm {params' : Object} (perm : (merged op params).Perm (merged op params'))
    (settled : Settled op params' (merged op params')) :
    Settled op params (merged op params) where
  union := rfl
  disjoint := (perm.map Prod.fst).nodup_iff.mpr settled.disjoint
  own entry member := settled.own entry (perm.mem_iff.mp member)
  declared known known' entry member := settled.declared known known' entry (perm.mem_iff.mp member)

theorem constructRequestBody_perm (takes : op.hasBody = true) {params' : Object}
    (perm : (merged op params').Perm (merged op params))
    (done : constructRequestBody host.checked op args params checks = .ok result) :
    constructRequestBody host.checked op args params' checks =
      .ok (withArg args "body" (.obj (merged op params'))) := by
  obtain ⟨settled, checked, -⟩ := (constructRequestBody_ok_iff takes).mp done
  apply (constructRequestBody_ok_iff takes).mpr
  rw [runBodyChecks_perm perm settled.disjoint]
  exact ⟨settled.of_perm perm, checked, rfl⟩

end Construction

def GuardedArgs (checks : List String) (op : Operation) (args : Object) : Prop :=
  ∀ body, args.obj? "body" = some body → Guarded checks op.id body

theorem constructRequestBody_guarded {host : Host} {op : Operation} {args params result : Object}
    {checks : List String} (plain : args.obj? "body" = none)
    (done : constructRequestBody host.checked op args params checks = .ok result) :
    GuardedArgs checks op result := by
  intro body found
  cases takes : op.hasBody with
  | true =>
      obtain ⟨-, checked, rfl⟩ := (constructRequestBody_ok_iff takes).mp done
      have same : merged op params = body := by
        simpa [Object.obj?, lookup_withArg, Value.obj?] using found
      rw [← same]
      exact runBodyChecks_guarded checked
  | false =>
      unfold constructRequestBody at done
      rw [takes] at done
      simp only [Bool.not_false, ↓reduceIte] at done
      split_ifs at done
      obtain rfl := Except.ok.inj done
      cases plain.symm.trans found

theorem prepare_guarded {ce : CompositeExecutor} {host : Host} {step : Step}
    {execCtx : ExecuteContext} {op : Operation} {args : Object}
    (done : prepare ce host.checked step execCtx = .ok (op, args)) :
    GuardedArgs step.bodyChecks op args := by
  unfold prepare at done
  split at done
  · cases done
  · rename_i resolved asked
    split at done
    · cases done
    · split at done
      · cases done
      · rename_i built
        obtain ⟨rfl, rfl⟩ := Prod.mk.inj (Except.ok.inj done)
        apply constructRequestBody_guarded ?_ built
        -- an argument is a text
        unfold Object.obj?
        rw [applySelect_lookup _ _ (by decide)]
        have text := resolveArgs_lookup asked "body"
        split at text
        · rw [text]
          rfl
        · obtain ⟨result, -, entry⟩ := text
          rw [entry]
          rfl

theorem lookup_dropAll (keys : List String) (args : Object) (key : String) :
    (keys.foldl (fun args k => Assoc.drop k args) args).lookup key =
      if key ∈ keys then none else args.lookup key := by
  induction keys generalizing args with
  | nil => simp
  | cons k keys ih =>
      rw [List.foldl_cons, ih, Assoc.lookup_drop]
      by_cases here : key = k
      · simp [here]
      · simp [here]

theorem retry_guarded {step : Step} {checks : List String} {op : Operation} {args args' : Object}
    {err : Chain} (guarded : GuardedArgs checks op args)
    (again : retryWithoutOptionalArgs step args err = some args') : GuardedArgs checks op args' := by
  unfold retryWithoutOptionalArgs at again
  split_ifs at again
  obtain rfl := Option.some.inj again
  intro body found
  apply guarded body
  unfold Object.obj? at found ⊢
  rw [lookup_dropAll] at found
  split_ifs at found with dropped
  · cases found
  · exact found

theorem callOnce_congr {step : Step} {client client' : Client} {op : Operation} {args : Object}
    {checks : List String} (guarded : GuardedArgs checks op args)
    (agree : ∀ n args, GuardedArgs checks op args → client n op args = client' n op args) :
    callOnce step client op args = callOnce step client' op args := by
  unfold callOnce
  rw [agree 0 args guarded]
  split
  · rfl
  · cases again : retryWithoutOptionalArgs step args _ with
    | none => rfl
    | some args' => simp only [agree 1 args' (retry_guarded guarded again)]

theorem withArg_guarded {checks : List String} {op : Operation} {args : Object} {key : String}
    {value : Value} (guarded : GuardedArgs checks op args) (other : key ≠ "body") :
    GuardedArgs checks op (withArg args key value) := by
  intro body found
  apply guarded body
  unfold Object.obj? at found ⊢
  rwa [lookup_withArg, if_neg other.symm] at found

theorem fetchPages_congr {host : Host} {step : Step} {call call' : Nat → Object → Except Chain Object}
    {checks : List String} {op : Operation} {baseArgs : Object} {pageSize : Int} {maxResults : Nat}
    (base : GuardedArgs checks op baseArgs)
    (agree : ∀ n args, GuardedArgs checks op args → call n args = call' n args)
    (room pageCount : Nat) {args : Object} (allItems : List Value)
    (guarded : GuardedArgs checks op args) :
    fetchPages host step call baseArgs pageSize maxResults room pageCount args allItems =
      fetchPages host step call' baseArgs pageSize maxResults room pageCount args allItems := by
  induction room generalizing pageCount args allItems with
  | zero => rfl
  | succ room ih =>
      have asked : GuardedArgs checks op (if step.resumable &&
          decide (((maxResults - allItems.length : Nat) : Int) < pageSize) then
          withArg args "count" (.str (toString (maxResults - allItems.length))) else args) := by
        split_ifs
        · exact withArg_guarded guarded (by decide)
        · exact guarded
      unfold fetchPages
      dsimp only
      rw [agree pageCount _ asked]
      apply congrArg (Except.bind _)
      funext data
      split_ifs
      · rfl
      · rfl
      · rfl
      · apply congrArg (Except.bind _)
        funext cursor
        exact ih (pageCount + 1) _ (withArg_guarded base (by decide))

theorem runSingle_congr {ce : CompositeExecutor} {host : Host} {step : Step}
    {client client' : Client} {execCtx : ExecuteContext}
    (agree : ∀ n op args, GuardedArgs step.bodyChecks op args →
      client n op args = client' n op args) :
    runSingle ce host.checked step client execCtx =
      runSingle ce host.checked step client' execCtx := by
  unfold runSingle fetchPaginated
  cases prepared : prepare ce host.checked step execCtx with
  | error err => rfl
  | ok result =>
      obtain ⟨op, args⟩ := result
      have guarded := prepare_guarded prepared
      split_ifs with pages
      · have fetched : fetchAll ce host.checked step execCtx.params
            (fun n args => (client n op args).mapError (inStep step)) args =
            fetchAll ce host.checked step execCtx.params
              (fun n args => (client' n op args).mapError (inStep step)) args := by
          unfold fetchAll
          apply fetchPages_congr guarded
          · intro n args guarded
            rw [agree n op args guarded]
          · split_ifs
            · exact withArg_guarded guarded (by decide)
            · exact guarded
        change Except.map _ (Except.bind (fetchAll _ _ _ _ _ _) _) = _
        rw [fetched]
        rfl
      · exact callOnce_congr guarded fun n args => agree n op args

/-- The body does not depend on the order of a map, it is the disjoint union of what the parameters
supply, and a client is never asked with a body that a check of the step rejects. -/
theorem request_body_guarded (host : Host) (op : Operation) (takes : op.hasBody = true)
    (args params : Object) (checks : List String) :
    (∀ params', Reordered params params' →
      ((∃ err, constructRequestBody host.checked op args params checks = .error err) ∧
        ∃ err, constructRequestBody host.checked op args params' checks = .error err) ∨
      ∃ body body',
        constructRequestBody host.checked op args params checks =
          .ok (withArg args "body" (.obj body)) ∧
        constructRequestBody host.checked op args params' checks =
          .ok (withArg args "body" (.obj body')) ∧ body.Perm body') ∧
    (∀ walk walk' : Object, walk.Perm walk' → (names walk').Nodup →
      runBodyChecks checks op.id walk = runBodyChecks checks op.id walk' ∧
        (checkBodyFields op walk = .ok () ↔ checkBodyFields op walk' = .ok ())) ∧
    (∀ result, constructRequestBody host.checked op args params checks = .ok result →
      ∃ body, result = withArg args "body" (.obj body) ∧ Settled op params body ∧
        Guarded checks op.id body) ∧
    ∀ (ce : CompositeExecutor) (step : Step) (execCtx : ExecuteContext) (client client' : Client),
      (∀ n op args, GuardedArgs step.bodyChecks op args → client n op args = client' n op args) →
      runSingle ce host.checked step client execCtx =
        runSingle ce host.checked step client' execCtx := by
  refine ⟨?_, ?_, ?_, fun _ _ _ _ _ => runSingle_congr⟩
  · intro params' reordered
    have perm : (merged op params).Perm (merged op params') := merged_perm reordered
    cases done : constructRequestBody host.checked op args params checks with
    | ok result =>
        obtain ⟨-, -, rfl⟩ := (constructRequestBody_ok_iff takes).mp done
        exact .inr ⟨_, _, rfl, constructRequestBody_perm takes perm.symm done, perm⟩
    | error err =>
        refine .inl ⟨⟨err, rfl⟩, ?_⟩
        cases done' : constructRequestBody host.checked op args params' checks with
        | error err' => exact ⟨err', rfl⟩
        | ok result =>
            cases (constructRequestBody_perm takes perm done').symm.trans done
  · intro walk walk' perm distinct
    exact ⟨runBodyChecks_perm perm distinct checks op.id, checkBodyFields_perm op perm⟩
  · intro result done
    obtain ⟨settled, checked, same⟩ := (constructRequestBody_ok_iff takes).mp done
    exact ⟨_, same, settled, runBodyChecks_guarded checked⟩

private def plainHost : Host :=
  ⟨fun _ _ _ => .ok "", fun _ => .ok "", fun _ => 0, fun _ _ _ => .ok ()⟩

private def updateReceiver : Operation where
  id := "updateMsgVpnKafkaReceiver"
  method := "PATCH"
  parameters := [⟨"msgVpnName", "path"⟩, ⟨"body", "body"⟩]
  bodyFields := none

theorem request_body_guarded_update : ∃ body : Object,
    constructRequestBody plainHost.checked updateReceiver []
        [("msgVpnName", .str "default"), ("receiverConfig", .obj
          [("authenticationScheme", .str "basic"), ("enabled", .bool false)])]
        ["createDisabledWhenAuthenticated", "rejectKafkaRetarget"] =
      .ok (withArg [] "body" (.obj body)) ∧
      Guarded ["createDisabledWhenAuthenticated", "rejectKafkaRetarget"]
        "updateMsgVpnKafkaReceiver" body := by
  obtain ⟨-, -, accepted, -⟩ := request_body_guarded plainHost updateReceiver rfl []
    [("msgVpnName", .str "default"), ("receiverConfig", .obj
      [("authenticationScheme", .str "basic"), ("enabled", .bool false)])]
    ["createDisabledWhenAuthenticated", "rejectKafkaRetarget"]
  obtain ⟨body, same, -, guarded⟩ := accepted _ rfl
  exact ⟨body, same ▸ rfl, guarded⟩

end BrokerMcp.Proof.Composite
