import BrokerMcp.Proof.Composite.Arguments
import BrokerMcp.Proof.Composite.Body
import BrokerMcp.Tools.OwnerValidation

namespace BrokerMcp.Proof.Tools
open Resilience BrokerMcp.Composite BrokerMcp.Tools Composite

def bodyOwner (args : Object) : Option String :=
  (args.obj? "body").bind fun body => Object.str? body "owner"

/-- The calls made so far include a read of this client username that succeeded, or one answered
`NOT_FOUND` with a read of the Message VPN answered so too. -/
def Vouched (calls : List ClientCall) (msgVpn owner : String) : Prop :=
  (∃ data, ClientCall.read (.clientUsername msgVpn owner) (.ok data) ∈ calls) ∨
  ∃ err err', ClientCall.read (.clientUsername msgVpn owner) (.error err) ∈ calls ∧ notFound err = true ∧
    ClientCall.read (.msgVpn msgVpn) (.error err') ∈ calls ∧ notFound err' = true

def OwnersChecked (ce : CompositeExecutor) (host : Host) (step : Step) (spec : OwnerValidationSpec)
    (params : Object) : Prop :=
  ∀ scanned built replies calls op args rest owner, scanned.Perm params → built.Perm params →
    handle ce host step spec replies scanned built = calls ++ .write op args :: rest →
    bodyOwner args = some owner → owner ≠ "" → Vouched calls (msgVpnOf params) owner

section Places

variable (op : Operation) (configParam : String) (params : Object)

def hidden (name : String) : Bool := op.nonBody name || decide (name = "broker")

def Supplies (owner : String) : Prop :=
  (∃ name fields, (name, Value.obj fields) ∈ params ∧ hidden op name = false ∧
    Object.str? fields "owner" = some owner) ∨
  Object.str? params "owner" = some owner ∧ hidden op "owner" = false

/-- The owner is a field of an object that the body leaves out, in a place where `extractOwner`
reads it. -/
def Masks (owner : String) : Prop :=
  ∃ name fields, (name, Value.obj fields) ∈ params ∧ hidden op name = true ∧
    ownerIn fields = some owner ∧
    (name = configParam ∨
      (Object.obj? params configParam).bind ownerIn = none ∧ ownerIn params = none)

end Places

section Extract

variable {configParam : String} {params scanned : Object}

theorem ownerIn_some {fields : Object} {owner : String} :
    ownerIn fields = some owner ↔ fields.str? "owner" = some owner ∧ owner ≠ "" := by
  simp [ownerIn, Option.filter_eq_some_iff]

theorem scanOwner_some {owner : String} (found : scanOwner configParam params = some owner) :
    ∃ name fields, (name, Value.obj fields) ∈ params ∧ name ≠ configParam ∧
      ownerIn fields = some owner := by
  induction params with
  | nil => cases found
  | cons entry rest ih =>
      obtain ⟨name, val⟩ := entry
      unfold scanOwner at found
      split_ifs at found with config
      · obtain ⟨name', fields, member, other, owned⟩ := ih found
        exact ⟨name', fields, .tail _ member, other, owned⟩
      · split at found
        · rename_i o here
          obtain rfl := Option.some.inj found
          obtain ⟨fields, shape, owned⟩ := Option.bind_eq_some_iff.mp here
          obtain rfl := Value.obj?_eq_some.mp shape
          exact ⟨name, fields, .head _, config, owned⟩
        · obtain ⟨name', fields, member, other, owned⟩ := ih found
          exact ⟨name', fields, .tail _ member, other, owned⟩

theorem scanOwner_ne_none {name : String} {fields : Object} {owner : String}
    (member : (name, Value.obj fields) ∈ params) (other : name ≠ configParam)
    (owned : ownerIn fields = some owner) : scanOwner configParam params ≠ none := by
  induction params with
  | nil => cases member
  | cons entry rest ih =>
      obtain ⟨name', val⟩ := entry
      unfold scanOwner
      rcases List.mem_cons.mp member with here | later
      · obtain ⟨rfl, rfl⟩ := Prod.mk.inj here
        rw [if_neg other]
        simp [Value.obj?, owned]
      · split_ifs
        · exact ih later
        · split
          · exact Option.some_ne_none _
          · exact ih later

theorem str?_perm (perm : scanned.Perm params) (distinct : (params.map Prod.fst).Nodup)
    (key : String) : scanned.str? key = params.str? key := by
  unfold Object.str?
  rw [Assoc.lookup_perm perm distinct]

theorem obj?_perm (perm : scanned.Perm params) (distinct : (params.map Prod.fst).Nodup)
    (key : String) : scanned.obj? key = params.obj? key := by
  unfold Object.obj?
  rw [Assoc.lookup_perm perm distinct]

theorem ownerIn_perm (perm : scanned.Perm params) (distinct : (params.map Prod.fst).Nodup) :
    ownerIn scanned = ownerIn params := by
  unfold ownerIn
  rw [str?_perm perm distinct]

theorem msgVpnOf_perm (perm : scanned.Perm params) (distinct : (params.map Prod.fst).Nodup) :
    msgVpnOf scanned = msgVpnOf params := by
  unfold msgVpnOf
  rw [str?_perm perm distinct]

theorem extractOwner_some (perm : scanned.Perm params) (distinct : (params.map Prod.fst).Nodup)
    {owner msgVpn : String} (found : extractOwner scanned configParam = some (owner, msgVpn)) :
    msgVpn = msgVpnOf params ∧
    ((params.obj? configParam).bind ownerIn = some owner ∨ ownerIn params = some owner ∨
      ((params.obj? configParam).bind ownerIn = none ∧ ownerIn params = none ∧
        ∃ name fields, (name, Value.obj fields) ∈ params ∧ name ≠ configParam ∧
          ownerIn fields = some owner)) := by
  unfold extractOwner at found
  obtain ⟨o, here, pair⟩ := Option.map_eq_some_iff.mp found
  obtain ⟨rfl, rfl⟩ := Prod.mk.inj pair
  rw [obj?_perm perm distinct, ownerIn_perm perm distinct] at here
  refine ⟨msgVpnOf_perm perm distinct, ?_⟩
  cases config : (params.obj? configParam).bind ownerIn with
  | some o' => exact .inl (by simpa [config] using here)
  | none =>
      cases top : ownerIn params with
      | some o' => exact .inr (.inl (by simpa [config, top] using here))
      | none =>
          obtain ⟨name, fields, member, other, owned⟩ :=
            scanOwner_some (show scanOwner configParam scanned = some o by
              simpa [config, top] using here)
          exact .inr (.inr ⟨rfl, rfl, name, fields, perm.mem_iff.mp member, other, owned⟩)

theorem extractOwner_none (perm : scanned.Perm params) (distinct : (params.map Prod.fst).Nodup)
    (absent : extractOwner scanned configParam = none) :
    ownerIn params = none ∧ ∀ name fields, (name, Value.obj fields) ∈ params →
      ownerIn fields = none := by
  unfold extractOwner at absent
  rw [Option.map_eq_none_iff, obj?_perm perm distinct, ownerIn_perm perm distinct] at absent
  cases config : (params.obj? configParam).bind ownerIn with
  | some o' => simp [config] at absent
  | none =>
      cases top : ownerIn params with
      | some o' => simp [config, top] at absent
      | none =>
          refine ⟨rfl, fun name fields member => ?_⟩
          by_cases here : name = configParam
          · subst here
            have found := (Assoc.lookup_eq_some_iff distinct).mpr member
            simpa [Object.obj?, found, Value.obj?] using config
          · by_contra owned
            obtain ⟨o, owned⟩ := Option.ne_none_iff_exists'.mp owned
            apply scanOwner_ne_none (perm.mem_iff.mpr member) here owned
            simpa [config, top] using absent

end Extract

section Write

variable {ce : CompositeExecutor} {host : Host} {step : Step} {op : Operation} {args : Object}
  {params built : Object}

theorem prepare_body {execCtx : ExecuteContext}
    (done : prepare ce host step execCtx = .ok (op, args)) {body : Object}
    (found : args.obj? "body" = some body) : Body op execCtx.params body := by
  unfold prepare at done
  split at done
  · cases done
  · rename_i resolved resolves
    split at done
    · cases done
    · split at done
      · cases done
      · rename_i constructed
        obtain ⟨rfl, rfl⟩ := Prod.mk.inj (Except.ok.inj done)
        refine constructRequestBody_body constructed ?_ found
        unfold Object.obj?
        rw [applySelect_lookup _ _ (by decide)]
        have plain := resolveArgs_lookup resolves "body"
        split at plain
        · rw [plain]
          rfl
        · obtain ⟨result, -, plain⟩ := plain
          rw [plain]
          rfl

theorem mem_stripBroker {entry : String × Value} :
    entry ∈ stripBroker built ↔ entry ∈ built ∧ entry.1 ≠ "broker" := by
  simp [stripBroker, Assoc.drop]

theorem hidden_false {name : String} :
    hidden op name = false ↔ op.nonBody name = false ∧ name ≠ "broker" := by
  simp [hidden]

theorem bodyOwner_iff (perm : built.Perm params) (distinct : (params.map Prod.fst).Nodup)
    {body : Object} (made : Body op (stripBroker built) body) {owner : String} :
    body.str? "owner" = some owner ↔ Supplies op params owner := by
  have entries {entry : String × Value} (member : entry ∈ params) (visible : entry.1 ≠ "broker") :
      entry ∈ stripBroker built := mem_stripBroker.mpr ⟨perm.mem_iff.mpr member, visible⟩
  constructor
  · intro carried
    obtain ⟨val, found, shape⟩ := Option.bind_eq_some_iff.mp carried
    obtain rfl := Value.str?_eq_some.mp shape
    obtain ⟨⟨name, val⟩, member, visible, supplied⟩ := made.only "owner" _ found
    obtain ⟨member', other⟩ := mem_stripBroker.mp member
    have there := perm.mem_iff.mp member'
    have seen : hidden op name = false := hidden_false.mpr ⟨visible, other⟩
    cases val with
    | obj fields =>
        refine .inl ⟨name, fields, there, seen, ?_⟩
        -- The first field of this name reached the body too, so it is the one found there.
        obtain ⟨first, at_⟩ : ∃ first, fields.lookup "owner" = some first := by
          apply Option.isSome_iff_exists.mp
          rw [List.lookup_isSome_iff]
          exact ⟨_, supplied, by simp⟩
        have same := made.there _ member "owner" first ⟨visible, Assoc.mem_of_lookup at_⟩
        obtain rfl := Option.some.inj (found.symm.trans same)
        rw [Object.str?, at_]
        rfl
    | str s =>
        obtain ⟨rfl, scalar⟩ := supplied
        cases scalar
        refine .inr ⟨?_, seen⟩
        rw [Object.str?, (Assoc.lookup_eq_some_iff distinct).mpr there]
        rfl
    | _ => cases supplied.2
  · rintro (⟨name, fields, member, seen, owned⟩ | ⟨owned, seen⟩)
    · obtain ⟨visible, other⟩ := hidden_false.mp seen
      obtain ⟨val, found, shape⟩ := Option.bind_eq_some_iff.mp owned
      have carried := made.there _ (entries member other) "owner" val
        ⟨visible, Assoc.mem_of_lookup found⟩
      rw [Object.str?, carried]
      exact shape
    · obtain ⟨visible, other⟩ := hidden_false.mp seen
      obtain ⟨val, found, shape⟩ := Option.bind_eq_some_iff.mp owned
      obtain rfl := Value.str?_eq_some.mp shape
      have carried := made.there _ (entries (Assoc.mem_of_lookup found) other) "owner" (.str owner)
        ⟨visible, rfl, rfl⟩
      rw [Object.str?, carried]
      rfl

-- An owner taken from the path or the query cannot be a field of the body.
theorem shown_of_supplies (perm : built.Perm params) {body : Object}
    (made : Body op (stripBroker built) body) {owner : String}
    (supplies : Supplies op params owner) : hidden op "owner" = false := by
  rcases supplies with ⟨name, fields, member, seen, owned⟩ | ⟨-, seen⟩
  · obtain ⟨shown, other⟩ := hidden_false.mp seen
    obtain ⟨val, found, -⟩ := Option.bind_eq_some_iff.mp owned
    have free := made.nested name fields (mem_stripBroker.mpr ⟨perm.mem_iff.mpr member, other⟩)
      shown _ (Assoc.mem_of_lookup found)
    exact hidden_false.mpr ⟨free, by decide⟩
  · exact seen

theorem supplied_or_masked {scanned : Object} {configParam owner msgVpn : String}
    (perm : scanned.Perm params) (distinct : (params.map Prod.fst).Nodup)
    (shown : hidden op "owner" = false)
    (found : extractOwner scanned configParam = some (owner, msgVpn)) :
    Supplies op params owner ∨ Masks op configParam params owner := by
  have either {name : String} {fields : Object} (member : (name, Value.obj fields) ∈ params)
      (owned : ownerIn fields = some owner)
      (place : name = configParam ∨
        (params.obj? configParam).bind ownerIn = none ∧ ownerIn params = none) :
      Supplies op params owner ∨ Masks op configParam params owner := by
    cases veiled : hidden op name with
    | true => exact .inr ⟨name, fields, member, veiled, owned, place⟩
    | false => exact .inl (.inl ⟨name, fields, member, veiled, (ownerIn_some.mp owned).1⟩)
  obtain ⟨-, config | top | ⟨none, bare, name, fields, member, -, owned⟩⟩ :=
    extractOwner_some perm distinct found
  · obtain ⟨fields, found, owned⟩ := Option.bind_eq_some_iff.mp config
    obtain ⟨val, found, shape⟩ := Option.bind_eq_some_iff.mp found
    obtain rfl := Value.obj?_eq_some.mp shape
    exact either (Assoc.mem_of_lookup found) owned (.inl rfl)
  · exact .inl (.inr ⟨(ownerIn_some.mp top).1, shown⟩)
  · exact either member owned (.inr ⟨none, bare⟩)

theorem constructRequestBody_hasBody {args' : Object} {checks : List String}
    (done : constructRequestBody host op args params checks = .ok args') (takes : op.hasBody = true) :
    ∃ body, args'.obj? "body" = some body := by
  unfold constructRequestBody at done
  rw [takes] at done
  simp only [Bool.not_true, Bool.false_eq_true, ↓reduceIte] at done
  obtain ⟨body, -, done⟩ := bind_ok done
  obtain ⟨_, -, done⟩ := bind_ok done
  obtain ⟨_, -, done⟩ := bind_ok done
  obtain rfl := Except.ok.inj done
  refine ⟨body, ?_⟩
  rw [Object.obj?, lookup_withArg, if_pos rfl]
  rfl

theorem prepare_hasBody {execCtx : ExecuteContext}
    (done : prepare ce host step execCtx = .ok (op, args)) (takes : op.hasBody = true) :
    ∃ body, args.obj? "body" = some body := by
  unfold prepare at done
  split at done
  · cases done
  · split at done
    · cases done
    · split at done
      · cases done
      · rename_i constructed
        obtain ⟨rfl, rfl⟩ := Prod.mk.inj (Except.ok.inj done)
        exact constructRequestBody_hasBody constructed takes

end Write

section Handle

variable {ce : CompositeExecutor} {host : Host} {step : Step} {spec : OwnerValidationSpec}
  {replies : Read → Except Chain Object} {scanned built : Object}

theorem writeCall_split (reads : List ClientCall) {calls rest : List ClientCall} {op : Operation}
    {args : Object} (noWrite : ∀ call ∈ reads, ∃ request reply, call = .read request reply)
    (made : reads ++ writeCall ce host step built = calls ++ .write op args :: rest) :
    calls = reads ∧
      prepare ce host step ⟨stripBroker built, [], none⟩ = .ok (op, args) := by
  induction reads generalizing calls with
  | nil =>
      unfold writeCall at made
      rw [List.nil_append] at made
      split at made
      · rename_i op' args' done
        cases calls with
        | nil =>
            obtain ⟨rfl, rfl⟩ := ClientCall.write.inj (List.cons.inj made).1
            exact ⟨rfl, done⟩
        | cons call calls => simp at made
      · simp at made
  | cons read reads ih =>
      obtain ⟨request, reply, rfl⟩ := noWrite read (.head _)
      cases calls with
      | nil => cases (List.cons.inj made).1
      | cons call calls =>
          obtain ⟨here, later⟩ := List.cons.inj made
          obtain ⟨same, done⟩ := ih (fun call member => noWrite call (.tail _ member)) later
          rw [← here, same]
          exact ⟨rfl, done⟩

theorem handle_write {calls rest : List ClientCall} {op : Operation} {args : Object}
    (made : handle ce host step spec replies scanned built = calls ++ .write op args :: rest) :
    prepare ce host step ⟨stripBroker built, [], none⟩ = .ok (op, args) ∧
      (extractOwner scanned spec.configParam = none ∨ ∃ owner msgVpn,
        extractOwner scanned spec.configParam = some (owner, msgVpn) ∧ Vouched calls msgVpn owner) := by
  unfold handle at made
  dsimp only at made
  split at made
  · rename_i absent
    exact ⟨(writeCall_split [] (by simp) made).2, .inl absent⟩
  · rename_i owner msgVpn found
    have onlyReads : ∀ (cs : List ClientCall) op args, ClientCall.write op args ∉ cs →
        cs ≠ calls ++ .write op args :: rest := by
      rintro cs op args absent rfl
      exact absent (by simp)
    split at made
    · rename_i data answered
      obtain ⟨rfl, done⟩ := writeCall_split [_]
        (by simp only [List.mem_singleton, forall_eq]; exact ⟨_, _, rfl⟩) made
      exact ⟨done, .inr ⟨owner, msgVpn, found, .inl ⟨data, by rw [answered]; exact .head _⟩⟩⟩
    · rename_i err answered
      split_ifs at made with other
      · exact absurd made (onlyReads _ op args (by simp))
      · split at made
        · exact absurd made (onlyReads _ op args (by simp))
        · rename_i err' vpn
          split_ifs at made with gone
          · obtain ⟨rfl, done⟩ := writeCall_split [_, _]
              (by simp only [List.mem_cons, List.not_mem_nil, or_false, forall_eq_or_imp, forall_eq]
                  exact ⟨⟨_, _, rfl⟩, _, _, rfl⟩) made
            refine ⟨done, .inr ⟨owner, msgVpn, found, .inr ⟨err, err', ?_, by simpa using other,
              ?_, gone⟩⟩⟩
            · rw [answered]
              exact .head _
            · rw [vpn]
              exact .tail _ (.head _)
          · exact absurd made (onlyReads _ op args (by simp))

end Handle

theorem extractOwner_masked {configParam : String} {before after : Object} {name owner : String}
    {fields : Object}
    (distinct : ((before ++ (name, Value.obj fields) :: after).map Prod.fst).Nodup)
    (owned : ownerIn fields = some owner)
    (place : name = configParam ∨
      (Object.obj? (before ++ (name, Value.obj fields) :: after) configParam).bind ownerIn = none ∧
        ownerIn (before ++ (name, Value.obj fields) :: after) = none) :
    extractOwner ((name, .obj fields) :: (before ++ after)) configParam =
      some (owner, msgVpnOf (before ++ (name, Value.obj fields) :: after)) := by
  have perm : ((name, Value.obj fields) :: (before ++ after)).Perm
      (before ++ (name, Value.obj fields) :: after) := List.perm_middle.symm
  unfold extractOwner
  rw [msgVpnOf_perm perm distinct]
  by_cases config : name = configParam
  · subst config
    simp [Object.obj?, Value.obj?, owned]
  · obtain ⟨none, bare⟩ := place.resolve_left config
    rw [obj?_perm perm distinct, ownerIn_perm perm distinct, none, bare]
    simp [scanOwner, config, Value.obj?, owned]

/-- An owner is checked before it is written, in every order and for every broker, exactly when no
object that the body leaves out offers `extractOwner` another one. -/
theorem owners_checked_iff (ce : CompositeExecutor) (host : Host) (step : Step)
    (spec : OwnerValidationSpec) (params : Object) (op : Operation) (args : Object)
    (distinct : (params.map Prod.fst).Nodup) (takes : op.hasBody = true)
    (sent : writeCall ce host step params = [.write op args]) :
    OwnersChecked ce host step spec params ↔
      ∀ written read, Supplies op params written → written ≠ "" →
        Masks op spec.configParam params read → read = written := by
  have prepared : prepare ce host step ⟨stripBroker params, [], none⟩ = .ok (op, args) :=
    (writeCall_split [] (by simp) (show _ = [] ++ ClientCall.write op args :: [] from sent)).2
  constructor
  · intro checked written read supplies some ⟨name, fields, member, veiled, owned, place⟩
    obtain ⟨before, after, rfl⟩ := List.append_of_mem member
    obtain ⟨body, carries⟩ := prepare_hasBody prepared takes
    have made := prepare_body prepared carries
    have owner := (bodyOwner_iff (.refl _) distinct made).mpr supplies
    have found := extractOwner_masked distinct owned place
    have vouched := checked _ _ (fun _ => .ok []) [.read (.clientUsername _ read) (.ok [])] op args []
      written List.perm_middle.symm (.refl _) (by rw [handle, found, sent]; rfl)
      (by rw [bodyOwner, carries]; exact owner) some
    rcases vouched with ⟨data, member⟩ | ⟨err, err', member, -⟩
    · rw [List.mem_singleton] at member
      exact (Read.clientUsername.inj (ClientCall.read.inj member).1).2.symm
    · rw [List.mem_singleton] at member
      cases (ClientCall.read.inj member).2
  · intro agree scanned built replies calls op' args' rest owner scan build handled carried some
    obtain ⟨done, checked⟩ := handle_write handled
    obtain rfl : op = op' :=
      Option.some.inj ((prepare_operation prepared).symm.trans (prepare_operation done))
    obtain ⟨body, carries, owns⟩ := Option.bind_eq_some_iff.mp carried
    have made := prepare_body done carries
    have supplies := (bodyOwner_iff build distinct made).mp owns
    rcases checked with absent | ⟨o, msgVpn, found, vouched⟩
    · obtain ⟨bare, none⟩ := extractOwner_none scan distinct absent
      rcases supplies with ⟨name, fields, member, -, owned⟩ | ⟨owned, -⟩
      · cases (none name fields member).symm.trans (ownerIn_some.mpr ⟨owned, some⟩)
      · cases bare.symm.trans (ownerIn_some.mpr ⟨owned, some⟩)
    · obtain ⟨rfl, -⟩ := extractOwner_some scan distinct found
      suffices same : o = owner by rwa [same] at vouched
      rcases supplied_or_masked scan distinct (shown_of_supplies build made supplies) found with
        supplied | masked
      · have carried := (bodyOwner_iff build distinct made).mpr supplied
        exact Option.some.inj (carried.symm.trans owns)
      · exact agree owner o supplies some masked

def paramHost : Host where
  template _ text execCtx :=
    if text = "\x7b\x7b.Params.msgVpnName\x7d\x7d" then
      .ok ((execCtx.params.str? "msgVpnName").getD "")
    else .ok text
  parseCursor uri := .ok uri
  toInt q := q.num.tdiv q.den
  bodyChecks _ _ _ := .ok ()

def createQueueStep : Step where
  id := "createQueue"
  operation := "config/createMsgVpnQueue"
  args := [("msgVpnName", "\x7b\x7b.Params.msgVpnName\x7d\x7d")]
  select := []
  parallel := false
  followPages := false
  forEach := ""
  forEachIf := ""
  forEachKey := ""
  concurrency := 0
  optionalArgs := []
  bodyChecks := []
  resumable := false

def createMsgVpnQueue : Operation where
  id := "createMsgVpnQueue"
  method := "POST"
  parameters := [⟨"msgVpnName", "path"⟩, ⟨"opaquePassword", "query"⟩, ⟨"select", "query"⟩,
    ⟨"body", "body"⟩]
  bodyFields := some ["msgVpnName", "queueName", "owner", "permission"]

def createExecutor : CompositeExecutor where
  operations := [("config/createMsgVpnQueue", createMsgVpnQueue)]
  maxPages := defaultMaxPages

def queueSpec : OwnerValidationSpec := ⟨"queueConfig", "queue", false⟩

def ownedQueue : Object :=
  [("msgVpnName", .str "default"), ("queueName", .str "q1"),
    ("queueConfig", .obj [("owner", .str "alice")])]

def maskedOwner : Object :=
  [("msgVpnName", .str "default"), ("queueName", .str "q1"), ("select", .obj [("owner", .str "alice")]),
    ("attributes", .obj [("owner", .str "ghost")])]

theorem owners_checked_owned_queue :
    writeCall createExecutor paramHost createQueueStep ownedQueue =
        [.write createMsgVpnQueue [("msgVpnName", .str "default"),
          ("body", .obj [("queueName", .str "q1"), ("owner", .str "alice")])]] ∧
      OwnersChecked createExecutor paramHost createQueueStep queueSpec ownedQueue := by
  refine ⟨rfl, (owners_checked_iff createExecutor paramHost createQueueStep queueSpec ownedQueue
    createMsgVpnQueue _ (by decide) rfl rfl).mpr ?_⟩
  rintro written read - - ⟨name, fields, member, veiled, -⟩
  simp only [ownedQueue, List.mem_cons, Prod.mk.injEq, List.not_mem_nil, or_false, reduceCtorEq,
    and_false, false_or] at member
  obtain ⟨rfl, -⟩ := member
  exact absurd veiled (by decide)

theorem owners_unchecked_masked_owner :
    ¬ OwnersChecked createExecutor paramHost createQueueStep queueSpec maskedOwner := by
  intro checked
  have vouched := checked maskedOwner maskedOwner (fun _ => .ok [])
    [.read (.clientUsername "default" "alice") (.ok [])] createMsgVpnQueue _ [] "ghost" (.refl _)
    (.refl _) rfl rfl (by decide)
  rcases vouched with ⟨data, member⟩ | ⟨err, err', member, -⟩
  · rw [List.mem_singleton] at member
    exact absurd (Read.clientUsername.inj (ClientCall.read.inj member).1).2 (by decide)
  · rw [List.mem_singleton] at member
    cases (ClientCall.read.inj member).2

end BrokerMcp.Proof.Tools
