import BrokerMcp.Tools.Authorization
import BrokerMcp.Proof.Composite.Pages

namespace BrokerMcp.Proof.Tools
open BrokerMcp.Composite BrokerMcp.Tools
open BrokerMcp.Proof.Composite (bind_ok)

def Yields : Value → String → Prop
  | .str s, group => s ≠ "" ∧ group = s
  | .arr elems, group => group ∈ (elems.filterMap Value.str?).take groupsSoftCap
  | _, _ => False

theorem foldl_addGroup (elems : List Value) (result : List String) :
    elems.foldl addGroup result =
      result ++ (elems.filterMap Value.str?).take (groupsSoftCap - result.length) := by
  induction elems generalizing result with
  | nil => rw [List.foldl_nil, List.filterMap_nil, List.take_nil, List.append_nil]
  | cons elem elems ih =>
      rw [List.foldl_cons, ih]
      cases elem with
      | str s =>
          rw [addGroup, List.filterMap_cons_some (by rfl)]
          split_ifs with room
          · obtain ⟨left, more⟩ : ∃ left, groupsSoftCap - result.length = left + 1 :=
              ⟨groupsSoftCap - result.length - 1, by omega⟩
            have less : groupsSoftCap - (result ++ [s]).length = left := by
              rw [List.length_append, List.length_singleton]
              omega
            rw [less, more, List.take_succ_cons, List.append_assoc]
            rfl
          · have full : groupsSoftCap - result.length = 0 := by omega
            rw [full, List.take_zero, List.take_zero]
      | null | bool b | float q | int n | arr items | obj fields =>
          rw [List.filterMap_cons_none (by rfl)]
          rfl

theorem resolveGroupsValue_mem {v : Value} {group : String} :
    (∃ groups, resolveGroupsValue v = some groups ∧ group ∈ groups) ↔ Yields v group := by
  cases v with
  | str s =>
      simp only [resolveGroupsValue, Yields]
      split_ifs with empty
      · simp [empty]
      · simp [empty]
  | arr elems =>
      have walked := foldl_addGroup elems []
      rw [List.nil_append, List.length_nil, Nat.sub_zero] at walked
      show _ ↔ group ∈ (elems.filterMap Value.str?).take groupsSoftCap
      rw [← walked]
      simp only [resolveGroupsValue]
      split_ifs with none few
      · simp [none]
      · simp [few]
      · simp
  | null | bool b | float q | int n | obj fields => simp [resolveGroupsValue, Yields]

variable {cfg : MCPClientAuth} {policy : Policy} {claims : Claims} {expiry : Int} {info : TokenInfo}

def groupsClaim (cfg : MCPClientAuth) (claims : Claims) : Option Value :=
  cfg.toolAuthorization.bind fun block => claims.lookup block.groupsClaimName

def accessLevelGroups (cfg : MCPClientAuth) : List (String × List String) :=
  (cfg.toolAuthorization.map ToolAuthorizationConfig.accessLevelGroups).getD []

theorem policy_of_installed (installed : buildToolPolicy cfg = some policy) :
    toolAuthorizationEnabled cfg = true ∧ policy = newPolicy (accessLevelGroups cfg) := by
  unfold buildToolPolicy at installed
  split at installed
  · cases installed
  · next block present =>
      split_ifs at installed with enabled
      refine ⟨enabled, ?_⟩
      rw [accessLevelGroups, present, ← Option.some.inj installed]
      rfl

theorem buildTokenInfo_extra (token : buildTokenInfo cfg claims expiry = .ok info) :
    ∃ iss clientID jti, info.extra =
      [("iss", .string iss), ("client_id", .string clientID), ("jti", .string jti)] ++
        extraGroups cfg claims := by
  unfold buildTokenInfo at token
  obtain ⟨sub, -, token⟩ := bind_ok token
  split_ifs at token
  obtain ⟨scopeStr, -, token⟩ := bind_ok token
  obtain ⟨iss, -, token⟩ := bind_ok token
  obtain ⟨clientID, -, token⟩ := bind_ok token
  obtain ⟨jti, -, token⟩ := bind_ok token
  obtain rfl := Except.ok.inj token
  exact ⟨iss, clientID, jti, rfl⟩

theorem requestGroups_of_token (enabled : toolAuthorizationEnabled cfg = true)
    (token : buildTokenInfo cfg claims expiry = .ok info) :
    requestGroups (some info) = (groupsClaim cfg claims).bind resolveGroupsValue := by
  obtain ⟨iss, clientID, jti, extra⟩ := buildTokenInfo_extra token
  have read : info.extra.lookup tokenInfoExtraKeyGroups =
      (extraGroups cfg claims).lookup tokenInfoExtraKeyGroups := by
    rw [extra]
    rfl
  unfold requestGroups extraStringSlice
  rw [Option.bind_some, read]
  unfold extraGroups groupsClaim
  cases cfg.toolAuthorization with
  | none => rfl
  | some block =>
      simp only [enabled, ↓reduceIte, Option.bind_some]
      cases resolved : (claims.lookup block.groupsClaimName).bind resolveGroupsValue with
      | none => rfl
      | some groups => rfl

theorem grant_grantors (p : Policy) (groupName tool tool' group : String) :
    group ∈ (p.grant groupName tool).grantors tool' ↔
      group ∈ p.grantors tool' ∨ group = groupName ∧ tool' = tool := by
  unfold Policy.grant Policy.grantors
  rw [Assoc.lookup_put]
  split_ifs with same
  · subst same
    rw [Option.getD_some, List.mem_insert_iff]
    tauto
  · tauto

theorem addTools_grantors (groupName group tool' : String) (tools toolSeen : List String) (p : Policy)
    (seen : ∀ tool ∈ toolSeen, groupName ∈ p.grantors tool) :
    group ∈ (addTools groupName tools toolSeen p).grantors tool' ↔
      group ∈ p.grantors tool' ∨ group = groupName ∧ tool' ∈ tools := by
  induction tools generalizing toolSeen p with
  | nil => simp [addTools]
  | cons tool tools ih =>
      rw [addTools, List.mem_cons]
      split_ifs with dup
      · rw [ih toolSeen p seen]
        have granted := seen tool dup
        constructor
        · tauto
        · rintro (before | ⟨rfl, rfl | later⟩)
          · exact .inl before
          · exact .inl granted
          · exact .inr ⟨rfl, later⟩
      · rw [ih (tool :: toolSeen) (p.grant groupName tool), grant_grantors]
        · tauto
        · intro other member
          rw [grant_grantors]
          rcases List.mem_cons.mp member with rfl | earlier
          · exact .inr ⟨rfl, rfl⟩
          · exact .inl (seen other earlier)

theorem newPolicy_grantors (entries : List (String × List String)) (tool group : String) :
    group ∈ (newPolicy entries).grantors tool ↔ ∃ tools, (group, tools) ∈ entries ∧ tool ∈ tools := by
  have walk : ∀ p : Policy,
      group ∈ (entries.foldl (fun p entry => addTools entry.1 entry.2 [] p) p).grantors tool ↔
        group ∈ p.grantors tool ∨ ∃ tools, (group, tools) ∈ entries ∧ tool ∈ tools := by
    induction entries with
    | nil => simp
    | cons entry entries ih =>
        intro p
        obtain ⟨groupName, granted⟩ := entry
        rw [List.foldl_cons, ih, addTools_grantors _ _ _ _ _ _ (by simp), or_assoc]
        simp only [List.mem_cons, Prod.mk.injEq, or_and_right, exists_or, and_assoc]
        constructor
        · rintro (before | ⟨rfl, here⟩ | later)
          · exact .inl before
          · exact .inr (.inl ⟨granted, rfl, rfl, here⟩)
          · exact .inr (.inr later)
        · rintro (before | ⟨tools, rfl, rfl, here⟩ | later)
          · exact .inl before
          · exact .inr (.inl ⟨rfl, here⟩)
          · exact .inr (.inr later)
  have walked := walk ⟨[]⟩
  simpa [newPolicy, Policy.grantors] using walked

theorem matchGroups_spec (grantors groups seen found : List String)
    (before : found.Nodup ∧ ∀ g, g ∈ found ↔ g ∈ seen ∧ g ∈ grantors) :
    (matchGroups grantors groups seen found).Nodup ∧ ∀ g, g ∈ matchGroups grantors groups seen found ↔
      (g ∈ seen ∨ g ∈ groups) ∧ g ∈ grantors := by
  induction groups generalizing seen found with
  | nil => simpa [matchGroups] using before
  | cons g groups ih =>
      rw [matchGroups]
      split_ifs with dup grants
      · obtain ⟨distinct, members⟩ := ih seen found before
        refine ⟨distinct, fun h => ?_⟩
        rw [members, List.mem_cons]
        constructor
        · tauto
        · rintro ⟨earlier | rfl | later, grants⟩
          · exact ⟨.inl earlier, grants⟩
          · exact ⟨.inl dup, grants⟩
          · exact ⟨.inr later, grants⟩
      · obtain ⟨distinct, members⟩ := ih (g :: seen) (found ++ [g]) (by
          constructor
          · rw [List.nodup_append_comm]
            exact List.nodup_cons.mpr ⟨fun member => dup ((before.2 g).mp member).1, before.1⟩
          · intro h
            rw [List.mem_append, before.2, List.mem_singleton, List.mem_cons]
            constructor
            · rintro (⟨earlier, both⟩ | rfl)
              · exact ⟨.inr earlier, both⟩
              · exact ⟨.inl rfl, grants⟩
            · tauto)
        refine ⟨distinct, fun h => ?_⟩
        rw [members, List.mem_cons, List.mem_cons]
        tauto
      · obtain ⟨distinct, members⟩ := ih (g :: seen) found (by
          refine ⟨before.1, fun h => ?_⟩
          rw [before.2, List.mem_cons]
          constructor
          · tauto
          · rintro ⟨rfl | earlier, both⟩
            · exact absurd both grants
            · exact ⟨earlier, both⟩)
        refine ⟨distinct, fun h => ?_⟩
        rw [members, List.mem_cons, List.mem_cons]
        tauto

def matched (p : Policy) (groups : List String) (tool : String) : List String :=
  matchGroups (p.grantors tool) groups [] []

theorem matched_spec (p : Policy) (groups : List String) (tool : String) :
    (matched p groups tool).Nodup ∧
      ∀ g, g ∈ matched p groups tool ↔ g ∈ groups ∧ g ∈ p.grantors tool := by
  have spec := matchGroups_spec (p.grantors tool) groups [] [] (by simp)
  simpa [matched] using spec

theorem authorize_eq (p : Policy) (groups : List String) (tool : String) :
    p.authorize groups tool =
      if matched p groups tool = [] then ⟨false, []⟩
      else ⟨true, (matched p groups tool).insertionSort (· ≤ ·)⟩ := by
  unfold Policy.authorize
  cases found : p.toolGrantors.lookup tool with
  | none =>
      have nothing : matched p groups tool = [] := by
        apply List.eq_nil_iff_forall_not_mem.mpr
        intro g member
        have grants := ((matched_spec p groups tool).2 g).mp member
        simp [Policy.grantors, found] at grants
      rw [if_pos nothing]
  | some grantors =>
      have same : matchGroups grantors groups [] [] = matched p groups tool := by
        rw [matched, Policy.grantors, found, Option.getD_some]
      simp only [same]

theorem authorize_allowed {p : Policy} {groups : List String} {tool : String} :
    (p.authorize groups tool).allowed = true ↔ ∃ group ∈ groups, group ∈ p.grantors tool := by
  rw [authorize_eq]
  have members := (matched_spec p groups tool).2
  split_ifs with nothing
  · refine ⟨nofun, ?_⟩
    rintro ⟨g, inside, grants⟩
    have member := (members g).mpr ⟨inside, grants⟩
    rw [nothing] at member
    cases member
  · obtain ⟨g, member⟩ := List.exists_mem_of_ne_nil _ nothing
    obtain ⟨inside, grants⟩ := (members g).mp member
    exact ⟨fun _ => ⟨g, inside, grants⟩, fun _ => rfl⟩

theorem authorize_congr {p q : Policy} {groups groups' : List String} {tool : String}
    (grants : ∀ g, g ∈ p.grantors tool ↔ g ∈ q.grantors tool)
    (members : ∀ g, g ∈ groups ↔ g ∈ groups') :
    p.authorize groups tool = q.authorize groups' tool := by
  obtain ⟨distinct, left⟩ := matched_spec p groups tool
  obtain ⟨distinct', right⟩ := matched_spec q groups' tool
  have perm : (matched p groups tool).Perm (matched q groups' tool) := by
    rw [List.perm_ext_iff_of_nodup distinct distinct']
    intro g
    rw [left, right, grants, members]
  have sorted : (matched p groups tool).insertionSort (· ≤ ·) =
      (matched q groups' tool).insertionSort (· ≤ ·) := by
    apply List.Perm.eq_of_pairwise' (r := (· ≤ ·))
    · exact List.pairwise_insertionSort _ _
    · exact List.pairwise_insertionSort _ _
    · exact ((List.perm_insertionSort _ _).trans perm).trans (List.perm_insertionSort _ _).symm
  have empty : matched p groups tool = [] ↔ matched q groups' tool = [] :=
    ⟨fun nothing => (nothing ▸ perm).symm.eq_nil, fun nothing => (nothing ▸ perm).eq_nil⟩
  rw [authorize_eq, authorize_eq, sorted]
  simp only [empty]

def Granted (cfg : MCPClientAuth) (claims : Claims) (tool : String) : Prop :=
  ∃ claim group tools, groupsClaim cfg claims = some claim ∧ Yields claim group ∧
    (group, tools) ∈ accessLevelGroups cfg ∧ tool ∈ tools

def Permits (policy : Policy) (info : Option TokenInfo) (tool : String) : Prop :=
  ∃ groups, requestGroups info = some groups ∧ (policy.authorize groups tool).allowed = true

theorem permits_iff_granted (installed : buildToolPolicy cfg = some policy)
    (token : buildTokenInfo cfg claims expiry = .ok info) (tool : String) :
    Permits policy (some info) tool ↔ Granted cfg claims tool := by
  obtain ⟨enabled, rfl⟩ := policy_of_installed installed
  unfold Permits
  rw [requestGroups_of_token enabled token]
  simp only [authorize_allowed, newPolicy_grantors]
  constructor
  · rintro ⟨groups, read, group, member, tools, entry, listed⟩
    obtain ⟨claim, present, resolved⟩ := Option.bind_eq_some_iff.mp read
    exact ⟨claim, group, tools, present, resolveGroupsValue_mem.mp ⟨groups, resolved, member⟩, entry,
      listed⟩
  · rintro ⟨claim, group, tools, present, yields, entry, listed⟩
    obtain ⟨groups, resolved, member⟩ := resolveGroupsValue_mem.mpr yields
    exact ⟨groups, Option.bind_eq_some_iff.mpr ⟨claim, present, resolved⟩, group, member, tools, entry,
      listed⟩

section server

variable {α ρ : Type}

theorem withAuthorization_passes {tool : String} {next : Request α → Reply ρ} {req : Request α}
    (permits : Permits policy req.tokenInfo tool) :
    withAuthorization policy tool next req = next req := by
  obtain ⟨groups, present, allowed⟩ := permits
  simp [withAuthorization, present, allowed]

theorem withAuthorization_denies {tool : String} {next : Request α → Reply ρ} {req : Request α}
    (refuses : ¬Permits policy req.tokenInfo tool) :
    ∃ result reason, withAuthorization policy tool next req = .denied result reason := by
  unfold withAuthorization
  split
  · exact ⟨_, _, rfl⟩
  · next groups present =>
      rw [if_pos]
      · exact ⟨_, _, rfl⟩
      · simpa using fun allowed => refuses ⟨groups, present, allowed⟩

theorem gated_dispatched {reg : ToolHandler α ρ} {req : Request α} {result : ρ} :
    gated (some policy) reg req = .dispatched result ↔ result = reg.handle req ∧
      (isExemptFromToolAuthorization reg.name = true ∨ Permits policy req.tokenInfo reg.name) := by
  simp only [gated]
  by_cases exempt : isExemptFromToolAuthorization reg.name = true
  · rw [if_pos exempt, Reply.dispatched.injEq, eq_comm]
    exact ⟨fun same => ⟨same, .inl exempt⟩, And.left⟩
  · rw [if_neg exempt]
    by_cases permits : Permits policy req.tokenInfo reg.name
    · rw [withAuthorization_passes permits, Reply.dispatched.injEq, eq_comm]
      exact ⟨fun same => ⟨same, .inr permits⟩, And.left⟩
    · obtain ⟨refusal, reason, denied⟩ := withAuthorization_denies permits
      rw [denied]
      exact ⟨nofun, fun permitted => absurd permitted.2 (not_or.mpr ⟨exempt, permits⟩)⟩

theorem registered_gated {handlers : List (ToolHandler α ρ)} {enableWriteTools : Bool}
    {policy : Option Policy} {entry : String × (Request α → Reply ρ)}
    (member : entry ∈ registerWithServer handlers enableWriteTools policy) :
    ∃ reg ∈ handlers, reg.name = entry.1 ∧ entry.2 = gated policy reg := by
  unfold registerWithServer at member
  dsimp only at member
  have walk : ∀ (regs : List (ToolHandler α ρ)) (server : Server α ρ), (∀ reg ∈ regs, reg ∈ handlers) →
      entry ∈ regs.foldl (fun server reg => Assoc.put reg.name (gated policy reg) server) server →
      entry ∈ server ∨ ∃ reg ∈ handlers, reg.name = entry.1 ∧ entry.2 = gated policy reg := by
    intro regs
    induction regs with
    | nil => exact fun _ _ there => .inl there
    | cons reg regs ih =>
        intro server known there
        obtain ⟨here, later⟩ := List.forall_mem_cons.mp known
        rcases ih _ later there with put | found
        · rcases Assoc.mem_of_mem_put put with rfl | before
          · exact .inr ⟨reg, here, rfl, rfl⟩
          · exact .inl before
        · exact .inr found
  have sorted : ∀ reg ∈ (handlers.insertionSort fun a b => a.name ≤ b.name).filter fun reg =>
      reg.readOnly || enableWriteTools, reg ∈ handlers := by
    intro reg inside
    exact (List.perm_insertionSort _ _).mem_iff.mp (List.mem_of_mem_filter inside)
  rcases walk _ [] sorted member with nothing | found
  · cases nothing
  · exact found

def Dispatched (handlers : List (ToolHandler α ρ)) (server : Server α ρ) (name : String)
    (req : Request α) : Prop :=
  ∃ reg ∈ handlers, reg.name = name ∧ server.callTool name req = some (.dispatched (reg.handle req))

theorem dispatched_iff {handlers : List (ToolHandler α ρ)} {enableWriteTools : Bool} {name : String}
    {req : Request α}
    (registered : name ∈ (registerWithServer handlers enableWriteTools (some policy)).map Prod.fst) :
    Dispatched handlers (registerWithServer handlers enableWriteTools (some policy)) name req ↔
      isExemptFromToolAuthorization name = true ∨ Permits policy req.tokenInfo name := by
  obtain ⟨handler, found⟩ := Assoc.mem_keys_iff.mp registered
  obtain ⟨reg, known, named, rfl⟩ := registered_gated (Assoc.mem_of_lookup found)
  obtain rfl : reg.name = name := named
  unfold Dispatched
  rw [Server.callTool, found, Option.map_some]
  simp only [Option.some.injEq, gated_dispatched]
  constructor
  · rintro ⟨_, -, -, -, permitted⟩
    exact permitted
  · exact fun permitted => ⟨reg, known, rfl, rfl, permitted⟩

def shown (policy : Policy) (groups : Option (List String)) (t : Tool) : Bool :=
  isExemptFromToolAuthorization t.name ||
    groups.any fun present => (policy.authorize present t.name).allowed

theorem shown_iff {info : Option TokenInfo} {t : Tool} :
    shown policy (requestGroups info) t = true ↔
      isExemptFromToolAuthorization t.name = true ∨ Permits policy info t.name := by
  simp [shown, Permits, Option.any_eq_true]

theorem keepTools_cons (groups : Option (List String)) (t : Tool) (tools : List (Option Tool)) :
    keepTools policy groups (some t :: tools) =
      if shown policy groups t then t :: keepTools policy groups tools
      else keepTools policy groups tools := by
  cases groups with
  | none =>
      rw [keepTools]
      simp [shown]
  | some present =>
      rw [keepTools]
      unfold shown
      cases isExemptFromToolAuthorization t.name with
      | true => rfl
      | false => rfl

theorem keepTools_sublist (groups : Option (List String)) (tools : List (Option Tool)) :
    ((keepTools policy groups tools).map some).Sublist tools := by
  induction tools with
  | nil => exact .slnil
  | cons t tools ih =>
      cases t with
      | none => exact ih.cons none
      | some t =>
          rw [keepTools_cons]
          split_ifs
          · exact ih.cons_cons (some t)
          · exact ih.cons (some t)

theorem mem_keepTools (groups : Option (List String)) (tools : List (Option Tool)) (tool : Tool) :
    tool ∈ keepTools policy groups tools ↔ some tool ∈ tools ∧ shown policy groups tool = true := by
  induction tools with
  | nil => simp [keepTools]
  | cons t tools ih =>
      cases t with
      | none =>
          rw [keepTools, ih, List.mem_cons]
          simp
      | some t =>
          rw [keepTools_cons, List.mem_cons, Option.some.injEq]
          split_ifs with kept
          · rw [List.mem_cons, ih]
            constructor
            · rintro (rfl | later)
              · exact ⟨.inl rfl, kept⟩
              · exact ⟨.inr later.1, later.2⟩
            · tauto
          · rw [ih]
            constructor
            · tauto
            · rintro ⟨rfl | later, kept'⟩
              · exact absurd kept' kept
              · exact ⟨later, kept'⟩

/-- With a policy installed, a registered tool is dispatched to its handler exactly if it is exempt or
granted; the filtered list keeps, of any list of the SDK, just the registered tools that would be
dispatched, in order; and no order of groups, of grants or of a map has a say in the decision. -/
theorem listed_iff_callable_iff_granted {ω ε : Type} (cfg : MCPClientAuth) (policy : Policy)
    (installed : buildToolPolicy cfg = some policy) (claims : Claims) (expiry : Int)
    (info : TokenInfo) (token : buildTokenInfo cfg claims expiry = .ok info)
    (handlers : List (ToolHandler α ρ)) (enableWriteTools : Bool) (server : Server α ρ)
    (registers : registerWithServer handlers enableWriteTools (buildToolPolicy cfg) = server) :
    (∀ name ∈ server.map Prod.fst, ∀ params : α,
      Dispatched handlers server name ⟨some info, params⟩ ↔
        isExemptFromToolAuthorization name = true ∨ Granted cfg claims name) ∧
    (filterToolsListEnabled cfg.toolAuthorization = true →
      ∀ (next : String → Request α → Except ε (McpResult ω)) (params : α) tools nextCursor,
      next methodToolsList ⟨some info, params⟩ = .ok (.listTools tools nextCursor) →
      ∃ kept, installToolListFiltering cfg (buildToolPolicy cfg) next methodToolsList
          ⟨some info, params⟩ = .ok (.listTools kept nextCursor) ∧
        kept.Sublist tools ∧
        ∀ tool, some tool ∈ tools → tool.name ∈ server.map Prod.fst → ∀ params : α,
          some tool ∈ kept ↔ Dispatched handlers server tool.name ⟨some info, params⟩) ∧
    (∀ entries, entries.Perm (accessLevelGroups cfg) →
      ∀ groups groups' : List String, (∀ g, g ∈ groups ↔ g ∈ groups') →
        ∀ tool, (newPolicy entries).authorize groups tool = policy.authorize groups' tool) := by
  rw [installed] at registers
  subst registers
  refine ⟨?_, ?_, ?_⟩
  · intro name registered params
    rw [dispatched_iff registered]
    exact or_congr_right (permits_iff_granted installed token name)
  · intro filtering next params tools nextCursor listed
    refine ⟨(keepTools policy (requestGroups (some info)) tools).map some, ?_,
      keepTools_sublist _ tools, ?_⟩
    · rw [installed]
      simp only [installToolListFiltering, filtering, Bool.not_true, Bool.false_eq_true, ↓reduceIte,
        withListFiltering, listed, ne_eq, not_true_eq_false]
    · intro tool there registered params
      rw [dispatched_iff registered, List.mem_map_of_injective (Option.some_injective _),
        mem_keepTools, shown_iff]
      exact and_iff_right there
  · intro entries perm groups groups' members tool
    obtain ⟨-, rfl⟩ := policy_of_installed installed
    apply authorize_congr
    · intro g
      rw [newPolicy_grantors, newPolicy_grantors]
      simp only [perm.mem_iff]
    · exact members

end server

def staffConfig : MCPClientAuth :=
  ⟨"oauth", some ⟨some true, some true, "groups",
    [("operators", ["list-queues", "delete-queue"]), ("readers", ["list-queues"])]⟩⟩

def readerClaims : Claims :=
  [("sub", .str "alice"), ("groups", .arr [.int 7, .str "readers", .str "readers"])]

def queueTools : List (ToolHandler Unit String) :=
  [⟨"list-queues", true, fun _ => "queues"⟩, ⟨"delete-queue", false, fun _ => "deleted"⟩,
    ⟨"list-brokers", true, fun _ => "brokers"⟩]

theorem listed_iff_callable_reader : ∃ policy info,
    buildToolPolicy staffConfig = some policy ∧ buildTokenInfo staffConfig readerClaims 0 = .ok info ∧
    ∀ name ∈ (registerWithServer queueTools true (some policy)).map Prod.fst,
      Dispatched queueTools (registerWithServer queueTools true (some policy)) name ⟨some info, ()⟩ ↔
        isExemptFromToolAuthorization name = true ∨ Granted staffConfig readerClaims name := by
  obtain ⟨policy, info, installed, token⟩ : ∃ policy info,
      buildToolPolicy staffConfig = some policy ∧
      buildTokenInfo staffConfig readerClaims 0 = .ok info := ⟨_, _, rfl, rfl⟩
  obtain ⟨callable, -, -⟩ := @listed_iff_callable_iff_granted Unit String Unit Unit staffConfig policy
    installed readerClaims 0 info token queueTools true _ rfl
  rw [installed] at callable
  exact ⟨policy, info, installed, token, fun name registered => callable name registered ()⟩

end BrokerMcp.Proof.Tools
