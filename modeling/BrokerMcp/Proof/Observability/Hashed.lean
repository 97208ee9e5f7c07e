import BrokerMcp.Observability.Hash
import BrokerMcp.Proof.Composite.Guarded
import Mathlib.Data.String.Basic

namespace BrokerMcp.Proof.Observability
open Resilience BrokerMcp.Composite BrokerMcp.Observability BrokerMcp.Proof.Composite

def redactEntry (entry : String × Value) : String × Value :=
  (entry.1, if isSensitiveKey entry.1 then .str redactedPlaceholder else redactValue entry.2)

theorem redactFields_eq (fields : Object) : redactFields fields = fields.map redactEntry := by
  induction fields with
  | nil => rfl
  | cons entry fields ih =>
      obtain ⟨k, item⟩ := entry
      rw [redactFields, ih]
      rfl

theorem fieldsInKeyOrder_eq (fields : Object) :
    fieldsInKeyOrder fields = fields.map fun entry => (entry.1, inKeyOrder entry.2) := by
  induction fields with
  | nil => rfl
  | cons entry fields ih =>
      obtain ⟨k, item⟩ := entry
      rw [fieldsInKeyOrder, ih]
      rfl

theorem redactSensitive_eq (args : Object) : redactSensitive args = redactFields args := rfl

theorem inKeyOrder_perm {fields fields' : Object} (perm : fields.Perm fields')
    (distinct : (names fields).Nodup) : inKeyOrder (.obj fields) = inKeyOrder (.obj fields') := by
  rw [inKeyOrder, inKeyOrder, fieldsInKeyOrder_eq, fieldsInKeyOrder_eq]
  have walks := perm.map fun entry : String × Value => (entry.1, inKeyOrder entry.2)
  have sorted : ∀ l : Object, (l.mergeSort fun a b => decide (a.1 ≤ b.1)).Pairwise
      fun a b => decide (a.1 ≤ b.1) = true := by
    apply List.pairwise_mergeSort
    · intro a b c first second
      rw [decide_eq_true_eq] at first second ⊢
      exact le_trans first second
    · intro a b
      rw [Bool.or_eq_true, decide_eq_true_eq, decide_eq_true_eq]
      exact le_total a.1 b.1
  congr 1
  refine List.Perm.eq_of_pairwise ?_ (sorted _) (sorted _) ?_
  · intro a b left right below above
    rw [decide_eq_true_eq] at below above
    rw [List.mem_mergeSort] at left right
    have once : ((fields.map fun entry => (entry.1, inKeyOrder entry.2)).map Prod.fst).Nodup := by
      rw [List.map_map]
      exact distinct
    exact List.inj_on_of_nodup_map once left (walks.mem_iff.mpr right) (le_antisymm below above)
  · exact (List.mergeSort_perm _ _).trans (walks.trans (List.mergeSort_perm _ _).symm)

theorem inKeyOrder_cancel {before after : Object} {key : String} {v w : Value}
    (same : inKeyOrder (.obj (before ++ (key, v) :: after)) =
      inKeyOrder (.obj (before ++ (key, w) :: after))) : inKeyOrder v = inKeyOrder w := by
  rw [inKeyOrder, inKeyOrder, fieldsInKeyOrder_eq, fieldsInKeyOrder_eq] at same
  have walks := (List.mergeSort_perm _ _).symm.trans
    ((List.Perm.of_eq (Value.obj.inj same)).trans (List.mergeSort_perm _ _))
  rw [List.map_append, List.map_append, List.map_cons, List.map_cons,
    List.perm_append_left_iff] at walks
  have single : [(key, inKeyOrder v)].Perm [(key, inKeyOrder w)] :=
    (List.perm_append_right_iff _).mp walks
  exact congrArg Prod.snd (List.singleton_perm_singleton.mp single)

mutual

/-- Trees that differ only in values under sensitive keys. A map has each key once, and its entries may
stand in another order. -/
inductive Alike : Value → Value → Prop
  | same (v : Value) : Alike v v
  | arr {items items' : List Value} (each : AlikeItems items items') : Alike (.arr items) (.arr items')
  | obj {fields between fields' : Object} (each : AlikeFields fields between)
      (distinct : (names between).Nodup) (order : between.Perm fields') :
      Alike (.obj fields) (.obj fields')

inductive AlikeItems : List Value → List Value → Prop
  | nil : AlikeItems [] []
  | cons {v w : Value} {items items' : List Value} (first : Alike v w) (rest : AlikeItems items items') :
      AlikeItems (v :: items) (w :: items')

inductive AlikeFields : Object → Object → Prop
  | nil : AlikeFields [] []
  | hidden {key : String} (sensitive : isSensitiveKey key = true) (v w : Value)
      {fields fields' : Object} (rest : AlikeFields fields fields') :
      AlikeFields ((key, v) :: fields) ((key, w) :: fields')
  | shown (key : String) {v w : Value} {fields fields' : Object} (first : Alike v w)
      (rest : AlikeFields fields fields') : AlikeFields ((key, v) :: fields) ((key, w) :: fields')

end

mutual

theorem Alike.hashed {v w : Value} (alike : Alike v w) :
    inKeyOrder (redactValue v) = inKeyOrder (redactValue w) := by
  cases alike with
  | same => rfl
  | arr each => rw [redactValue, redactValue, inKeyOrder, inKeyOrder, each.hashed]
  | @obj fields between fields' each distinct order =>
      have first : inKeyOrder (.obj (redactFields fields)) = inKeyOrder (.obj (redactFields between)) := by
        rw [inKeyOrder, inKeyOrder, each.hashed]
      have distinct' : (names (between.map redactEntry)).Nodup := by
        rw [names, List.map_map]
        exact distinct
      rw [redactValue, redactValue, first, redactFields_eq, redactFields_eq]
      exact inKeyOrder_perm (order.map redactEntry) distinct'

theorem AlikeItems.hashed {items items' : List Value} (alike : AlikeItems items items') :
    itemsInKeyOrder (redactItems items) = itemsInKeyOrder (redactItems items') := by
  cases alike with
  | nil => rfl
  | cons first rest =>
      rw [redactItems, redactItems, itemsInKeyOrder, itemsInKeyOrder, first.hashed, rest.hashed]

theorem AlikeFields.hashed {fields fields' : Object} (alike : AlikeFields fields fields') :
    fieldsInKeyOrder (redactFields fields) = fieldsInKeyOrder (redactFields fields') := by
  cases alike with
  | nil => rfl
  | hidden sensitive v w rest =>
      rw [redactFields, redactFields, fieldsInKeyOrder, fieldsInKeyOrder, if_pos sensitive,
        if_pos sensitive, rest.hashed]
  | shown key first rest =>
      rw [redactFields, redactFields, fieldsInKeyOrder, fieldsInKeyOrder, rest.hashed]
      split_ifs
      · rfl
      · rw [first.hashed]

end

theorem hash_of_tree {args args' : Object}
    (same : inKeyOrder (redactValue (.obj args)) = inKeyOrder (redactValue (.obj args')))
    (digest : Digest) (tool broker : String) :
    hashArgsForAudit digest tool broker args = hashArgsForAudit digest tool broker args' := by
  rw [redactValue, redactValue] at same
  rw [hashArgsForAudit, hashArgsForAudit, redactSensitive_eq, redactSensitive_eq, hashArgs, hashArgs,
    same]

open Classical in
noncomputable def telling (tree : Value) : Digest where
  marshal v := .ok (if v = tree then [0] else [1])
  transform := .ok
  sum256 := id

theorem tree_of_hash {args args' : Object}
    (same : ∀ digest tool broker, hashArgsForAudit digest tool broker args =
      hashArgsForAudit digest tool broker args') :
    inKeyOrder (redactValue (.obj args)) = inKeyOrder (redactValue (.obj args')) := by
  have told := same (telling (inKeyOrder (redactValue (.obj args')))) "" ""
  by_contra apart
  have left : hashArgsForAudit (telling (inKeyOrder (redactValue (.obj args')))) "" "" args =
      ("01", none) := by
    simp only [hashArgsForAudit, hashArgs, telling, redactSensitive_eq]
    rw [redactValue] at apart
    rw [if_neg apart]
    decide
  have right : hashArgsForAudit (telling (inKeyOrder (redactValue (.obj args')))) "" "" args' =
      ("00", none) := by
    simp only [hashArgsForAudit, hashArgs, telling, redactSensitive_eq]
    rw [redactValue, if_pos rfl]
    decide
  rw [left, right] at told
  exact absurd told (by decide)

inductive Place (op : Operation) (params : Object) : Option String → String → (Value → Object) → Prop
  | top {before after : Object} {key : String} {val : Value} (inBody : op.nonBody key = false)
      (scalar : val.obj? = none) (split : params = before ++ (key, val) :: after) :
      Place op params none key fun v => before ++ (key, v) :: after
  | nested {before after fields rest : Object} {name key : String} {val : Value}
      (inBody : op.nonBody name = false)
      (split : params = before ++ (name, .obj (fields ++ (key, val) :: rest)) :: after) :
      Place op params (some name) key fun v =>
        before ++ (name, .obj (fields ++ (key, v) :: rest)) :: after

theorem place_iff {op : Operation} {params : Object} {key : String} :
    (∃ entry ∈ merged op params, entry.1 = key) ↔ ∃ holder replace, Place op params holder key replace := by
  constructor
  · rintro ⟨entry, member, rfl⟩
    obtain ⟨⟨name, val⟩, given, inside⟩ := List.mem_flatMap.mp member
    obtain ⟨before, after, split⟩ := List.append_of_mem given
    unfold contribution at inside
    split_ifs at inside with hidden
    · cases inside
    · have inBody : op.nonBody name = false := by simpa using hidden
      cases val with
      | obj fields =>
          obtain ⟨prior, rest, rfl⟩ := List.append_of_mem inside
          exact ⟨some name, _, .nested inBody split⟩
      | null | bool | float | int | str | arr =>
          obtain rfl := List.mem_singleton.mp inside
          exact ⟨none, _, .top inBody rfl split⟩
  · rintro ⟨holder, replace, place⟩
    cases place with
    | @top before after key val inBody scalar split =>
        refine ⟨(key, val), List.mem_flatMap.mpr ⟨(key, val), ?_, ?_⟩, rfl⟩
        · rw [split]
          exact List.mem_append_right _ (.head _)
        · unfold contribution
          rw [if_neg (by simp [inBody])]
          cases val with
          | obj fields => cases scalar
          | null | bool | float | int | str | arr => exact List.mem_singleton.mpr rfl
    | @nested before after fields rest name key val inBody split =>
        refine ⟨(key, val), List.mem_flatMap.mpr ⟨(name, .obj (fields ++ (key, val) :: rest)), ?_, ?_⟩, rfl⟩
        · rw [split]
          exact List.mem_append_right _ (.head _)
        · unfold contribution
          rw [if_neg (by simp [inBody])]
          exact List.mem_append_right _ (.head _)

def HashIgnores (params : Object) (replace : Value → Object) : Prop :=
  ∀ v digest tool broker, hashArgsForAudit digest tool broker (replace v) =
    hashArgsForAudit digest tool broker params

theorem redactValue_split (before after : Object) (key : String) (v : Value) :
    redactValue (.obj (before ++ (key, v) :: after)) =
      .obj (before.map redactEntry ++ (key, (redactEntry (key, v)).2) :: after.map redactEntry) := by
  rw [redactValue, redactFields_eq, List.map_append, List.map_cons]
  rfl

theorem redactEntry_sensitive {key : String} (sensitive : isSensitiveKey key = true) (v : Value) :
    (redactEntry (key, v)).2 = .str redactedPlaceholder := if_pos sensitive

theorem redactEntry_shown {key : String} (shown : ¬ isSensitiveKey key = true) (v : Value) :
    (redactEntry (key, v)).2 = redactValue v := if_neg shown

theorem hashIgnores_iff {op : Operation} {params : Object} {holder : Option String} {key : String}
    {replace : Value → Object} (place : Place op params holder key replace) :
    HashIgnores params replace ↔
      isSensitiveKey key = true ∨ ∃ name, holder = some name ∧ isSensitiveKey name = true := by
  constructor
  · intro ignores
    -- two values that are their own redaction
    have two : inKeyOrder (redactValue (.obj (replace (.bool true)))) =
        inKeyOrder (redactValue (.obj (replace (.bool false)))) := by
      apply tree_of_hash
      intro digest tool broker
      rw [ignores, ignores]
    cases place with
    | top inBody scalar split =>
        refine .inl ?_
        by_contra shown
        rw [redactValue_split, redactValue_split, redactEntry_shown shown, redactEntry_shown shown] at two
        have equal : Value.bool true = .bool false := inKeyOrder_cancel two
        cases equal
    | @nested before after fields rest name key val inBody split =>
        by_contra shown
        obtain ⟨key_shown, name_shown⟩ := not_or.mp shown
        have holder_shown : ¬ isSensitiveKey name = true := fun sensitive =>
          name_shown ⟨name, rfl, sensitive⟩
        rw [redactValue_split, redactValue_split, redactEntry_shown holder_shown,
          redactEntry_shown holder_shown] at two
        have inner := inKeyOrder_cancel two
        rw [redactValue_split, redactValue_split, redactEntry_shown key_shown,
          redactEntry_shown key_shown] at inner
        have equal : Value.bool true = .bool false := inKeyOrder_cancel inner
        cases equal
  · intro sensitive v
    apply hash_of_tree
    cases place with
    | top inBody scalar split =>
        have key_sensitive := sensitive.resolve_right fun ⟨name, held, _⟩ => nomatch held
        rw [split, redactValue_split, redactValue_split, redactEntry_sensitive key_sensitive,
          redactEntry_sensitive key_sensitive]
    | nested inBody split =>
        rw [split, redactValue_split, redactValue_split]
        rcases sensitive with key_sensitive | ⟨name, held, name_sensitive⟩
        · simp only [redactEntry, redactValue_split, key_sensitive, if_true]
        · obtain rfl := Option.some.inj held
          rw [redactEntry_sensitive name_sensitive, redactEntry_sensitive name_sensitive]

def sensitiveTerms : List String := sensitiveKeySubstrings ++ auditOnlySensitiveKeySubstrings

theorem isSensitiveKey_iff (key : String) :
    isSensitiveKey key = true ↔ ∃ term ∈ sensitiveTerms, term.toList <:+: key.toList.map lowerRune := by
  simp [isSensitiveKey, sensitiveTerms, or_and_right, exists_or]

/-- One of the terms in the secret is spelled without `ſ` in the key. -/
def Spelled (secret key : String) : Prop :=
  ∃ term ∈ sensitiveTerms, ∃ before after,
    secret.toList.map foldRune = before ++ term.toList ++ after ∧
      '\u017F' ∉ (key.toList.drop before.length).take term.toList.length

theorem lowerRune_eq {c : Char} (long : c ≠ '\u017F') (dotted : c ≠ '\u0130') :
    lowerRune c = foldRune c := by
  rw [lowerRune, foldRune, if_neg dotted, if_neg long]

theorem lowerRune_map {cs : List Char} (long : '\u017F' ∉ cs) (dotted : '\u0130' ∉ cs) :
    cs.map lowerRune = cs.map foldRune := by
  apply List.map_congr_left
  intro c member
  exact lowerRune_eq (ne_of_mem_of_not_mem member long) (ne_of_mem_of_not_mem member dotted)

theorem infix_map_iff {f : Char → Char} {term cs : List Char} : term <:+: cs.map f ↔
    ∃ start middle rest, cs = start ++ middle ++ rest ∧ middle.map f = term := by
  constructor
  · rintro ⟨before, after, split⟩
    obtain ⟨front, rest, whole, front_map, -⟩ := List.map_eq_append_iff.mp split.symm
    obtain ⟨start, middle, halves, -, middle_map⟩ := List.map_eq_append_iff.mp front_map
    exact ⟨start, middle, rest, by rw [whole, halves], middle_map⟩
  · rintro ⟨start, middle, rest, rfl, rfl⟩
    exact ⟨start.map f, rest.map f, by simp⟩

/-- The place of the term in the secret is its place in the key. -/
theorem spelled_iff {secret key : String}
    (folds : key.toList.map foldRune = secret.toList.map foldRune) : Spelled secret key ↔
      ∃ term ∈ sensitiveTerms, ∃ start middle rest, key.toList = start ++ middle ++ rest ∧
        middle.map foldRune = term.toList ∧ '\u017F' ∉ middle := by
  have place : ∀ start middle rest : List Char,
      ((start ++ middle ++ rest).drop start.length).take middle.length = middle := by
    intro start middle rest
    rw [List.append_assoc, List.drop_left, List.take_left]
  rw [Spelled, ← folds]
  refine exists_congr fun term => and_congr_right fun _ => ?_
  constructor
  · rintro ⟨before, after, split, long⟩
    obtain ⟨front, rest, whole, front_fold, -⟩ := List.map_eq_append_iff.mp split
    obtain ⟨start, middle, rfl, rfl, middle_fold⟩ := List.map_eq_append_iff.mp front_fold
    rw [whole, List.length_map, ← middle_fold, List.length_map, place] at long
    exact ⟨start, middle, rest, whole, middle_fold, long⟩
  · rintro ⟨start, middle, rest, whole, middle_fold, long⟩
    refine ⟨start.map foldRune, rest.map foldRune, ?_, ?_⟩
    · rw [whole, List.map_append, List.map_append, middle_fold]
    · rwa [whole, List.length_map, ← middle_fold, List.length_map, place]

theorem long_s_not_mem : ∀ term ∈ sensitiveTerms, '\u017F' ∉ term.toList := by
  decide

theorem isSensitiveKey_iff_spelled {secret key : String} (equal : equalFold key secret = true)
    (ascii : '\u0130' ∉ secret.toList.map foldRune) : isSensitiveKey key = true ↔ Spelled secret key := by
  have folds : key.toList.map foldRune = secret.toList.map foldRune := by
    simpa [equalFold] using equal
  rw [isSensitiveKey_iff, spelled_iff folds]
  refine exists_congr fun term => and_congr_right fun listed => ?_
  rw [infix_map_iff]
  refine exists_congr fun start => exists_congr fun middle => exists_congr fun rest =>
    and_congr_right fun whole => ?_
  have dotted : '\u0130' ∉ middle := by
    intro member
    apply ascii
    rw [← folds, whole]
    exact List.mem_map.mpr ⟨'\u0130', by simp [member], by decide⟩
  constructor
  · intro lower
    have long : '\u017F' ∉ middle := by
      intro member
      apply long_s_not_mem term listed
      rw [← lower]
      exact List.mem_map.mpr ⟨'\u017F', member, by decide⟩
    exact ⟨(lowerRune_map long dotted).symm.trans lower, long⟩
  · rintro ⟨fold, long⟩
    exact (lowerRune_map long dotted).trans fold

theorem listed_secret {name : String} {check : BodyCheck} (known : bodyChecks.lookup name = some check)
    {secret : String} (listed : secret ∈ check.secretFields) :
    secret ∈ kafkaSecretFields ++ msgVpnSecretFields := by
  simp only [bodyChecks, Assoc.lookup_cons_eq] at known
  split_ifs at known
  · obtain rfl := Option.some.inj known
    exact List.mem_append_left _ listed
  · obtain rfl := Option.some.inj known
    exact List.mem_append_right _ listed
  · obtain rfl := Option.some.inj known
    cases listed
  · obtain rfl := Option.some.inj known
    cases listed
  · cases known

theorem secret_ascii : ∀ secret ∈ kafkaSecretFields ++ msgVpnSecretFields,
    '\u0130' ∉ secret.toList.map foldRune := by
  decide +kernel

theorem secret_has_term : ∀ secret ∈ kafkaSecretFields ++ msgVpnSecretFields,
    ∃ term ∈ sensitiveTerms, term.toList <:+: secret.toList.map foldRune := by
  decide +kernel

theorem spelled_of_no_long_s {secret key : String}
    (listed : secret ∈ kafkaSecretFields ++ msgVpnSecretFields) (short : '\u017F' ∉ key.toList) :
    Spelled secret key := by
  obtain ⟨term, sensitive, before, after, split⟩ := secret_has_term secret listed
  refine ⟨term, sensitive, before, after, split.symm, fun member => short ?_⟩
  exact List.mem_of_mem_drop (List.mem_of_mem_take member)

def Listed (check : BodyCheck) (key secret : String) : Prop :=
  secret ∈ check.secretFields ∧ equalFold key secret = true

theorem rejected_iff {name : String} {check : BodyCheck} (known : bodyChecks.lookup name = some check)
    (guards : check.secretFields ≠ []) (mode : BodyMode) (body : Object) :
    (∃ err, check.fn mode body = .error err) ↔ ∃ entry ∈ body, ∃ secret, Listed check entry.1 secret := by
  rcases bodyChecks_cases known with ⟨hint, same⟩ | ⟨-, rfl⟩ | ⟨-, rfl⟩
  · have fn : check.fn = rejectSecretFields check.secretFields hint := by rw [same]
    rw [fn]
    unfold rejectSecretFields
    constructor
    · rintro ⟨err, rejected⟩
      split at rejected
      · rename_i secret found
        have member := List.mem_mergeSort.mp (List.mem_of_find?_eq_some found)
        obtain ⟨entry, inside, equal⟩ := hasKey_iff.mp (List.find?_some found)
        exact ⟨entry, inside, secret, member, equal⟩
      · cases rejected
    · rintro ⟨entry, inside, secret, member, equal⟩
      split
      · exact ⟨_, rfl⟩
      · rename_i none
        have apart := find?_hasKey_none none (List.mem_mergeSort.mpr member) inside
        rw [apart] at equal
        cases equal
  · exact absurd rfl guards
  · exact absurd rfl guards

theorem rejected_secret_hash_iff (name : String) (check : BodyCheck)
    (known : bodyChecks.lookup name = some check) (guards : check.secretFields ≠ []) (op : Operation)
    (params body : Object) (built : params.foldlM (setParam op) [] = .ok body) :
    (∀ mode, (∃ err, check.fn mode body = .error err) ↔
      ∃ holder key replace, Place op params holder key replace ∧ ∃ secret, Listed check key secret) ∧
    (∀ holder key replace secret, Place op params holder key replace → Listed check key secret →
      (HashIgnores params replace ↔
        Spelled secret key ∨ ∃ name, holder = some name ∧ isSensitiveKey name = true)) ∧
    ∀ args args', Alike (.obj args) (.obj args') → ∀ digest tool broker,
      hashArgsForAudit digest tool broker args = hashArgsForAudit digest tool broker args' := by
  obtain ⟨-, -, rfl⟩ := (setParams_ok_iff params body).mp built
  refine ⟨?_, ?_, ?_⟩
  · intro mode
    rw [rejected_iff known guards]
    constructor
    · rintro ⟨entry, inside, listed⟩
      obtain ⟨holder, replace, place⟩ := place_iff.mp ⟨entry, inside, rfl⟩
      exact ⟨holder, entry.1, replace, place, listed⟩
    · rintro ⟨holder, key, replace, place, listed⟩
      obtain ⟨entry, inside, rfl⟩ := place_iff.mpr ⟨holder, replace, place⟩
      exact ⟨entry, inside, listed⟩
  · intro holder key replace secret place listed
    have ascii := secret_ascii secret (listed_secret known listed.1)
    rw [hashIgnores_iff place, isSensitiveKey_iff_spelled listed.2 ascii]
  · intro args args' alike
    exact hash_of_tree alike.hashed

def updateMsgVpn : Operation where
  id := "updateMsgVpn"
  method := "PATCH"
  parameters := [⟨"msgVpnName", "path"⟩, ⟨"body", "body"⟩]
  bodyFields := none

def vpnArgs (key : String) (v : Value) : Object :=
  [("msgVpnName", .str "default"), ("msgVpnConfig", .obj [(key, v)])]

theorem vpnArgs_place (key : String) (v : Value) :
    Place updateMsgVpn (vpnArgs key v) (some "msgVpnConfig") key (vpnArgs key) :=
  @Place.nested updateMsgVpn _ [("msgVpnName", .str "default")] [] [] [] "msgVpnConfig" key v
    (by decide) rfl

theorem rejected_secret_hash_iff_plain :
    HashIgnores (vpnArgs "replicationBridgeAuthenticationBasicPassword" (.str "pw"))
      (vpnArgs "replicationBridgeAuthenticationBasicPassword") := by
  have rejected := rejected_secret_hash_iff "rejectMsgVpnSecrets" _ rfl (by decide) updateMsgVpn
    (vpnArgs "replicationBridgeAuthenticationBasicPassword" (.str "pw")) _ rfl
  refine (rejected.2.1 _ _ _ "replicationBridgeAuthenticationBasicPassword" (vpnArgs_place _ _)
    ⟨by decide, by decide +kernel⟩).mpr (.inl ?_)
  exact spelled_of_no_long_s (by decide) (by decide +kernel)

theorem long_s_is_hashed :
    (∃ check body err, bodyChecks.lookup "rejectMsgVpnSecrets" = some check ∧
      (vpnArgs "replicationBridgeAuthenticationBaſicPaſſword" (.str "pw")).foldlM
        (setParam updateMsgVpn) [] = .ok body ∧ check.fn .update body = .error err) ∧
    equalFold "replicationBridgeAuthenticationBaſicPaſſword"
      "replicationBridgeAuthenticationBasicPassword" = true ∧
    ¬ HashIgnores (vpnArgs "replicationBridgeAuthenticationBaſicPaſſword" (.str "pw"))
      (vpnArgs "replicationBridgeAuthenticationBaſicPaſſword") := by
  have equal : equalFold "replicationBridgeAuthenticationBaſicPaſſword"
      "replicationBridgeAuthenticationBasicPassword" = true := by decide +kernel
  refine ⟨?_, equal, ?_⟩
  · have known : bodyChecks.lookup "rejectMsgVpnSecrets" = some
        ⟨rejectSecretFields msgVpnSecretFields
          "Replication bridge credentials are configured out of band.", msgVpnSecretFields⟩ := rfl
    obtain ⟨err, rejected⟩ := (rejected_iff known (by decide) .update
      [("replicationBridgeAuthenticationBaſicPaſſword", .str "pw")]).mpr
      ⟨_, .head _, "replicationBridgeAuthenticationBasicPassword", by decide, equal⟩
    exact ⟨_, _, err, known, rfl, rejected⟩
  · rw [hashIgnores_iff (vpnArgs_place _ _)]
    have shown : isSensitiveKey "replicationBridgeAuthenticationBaſicPaſſword" = false := by
      decide +kernel
    have holder_shown : isSensitiveKey "msgVpnConfig" = false := by decide +kernel
    simp [shown, holder_shown]

end BrokerMcp.Proof.Observability
