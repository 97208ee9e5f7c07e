import BrokerMcp.Proof.Config.Substituted
import Mathlib.Tactic.IntervalCases

namespace BrokerMcp.Proof.Config
open BrokerMcp.Config Relation
open Text (Bytes)

def Listed (nodes : List Node) (n c : Nat) : Prop := ∃ node, nodes[n]? = some node ∧ c ∈ node.content

def KeyPart (doc : Document) (k : Nat) : Prop :=
  ∃ (m i key : Nat) (node : Node), doc.nodes[m]? = some node ∧ node.kind = .mappingNode ∧
    node.content[2 * i]? = some key ∧ ReflTransGen (Listed doc.nodes) key k

section position

variable {doc : Document} {n c : Nat} {node : Node}

theorem parent_position (position : Position doc.nodes c) (here : doc.nodes[n]? = some node)
    (listed : c ∈ node.content) : Position doc.nodes n := by
  cases position with
  | root => exact absurd (doc.ordered n node here 0 listed).1 (Nat.not_lt_zero n)
  | item above there _ listed' => exact parent_eq there here listed' listed ▸ above
  | value above there _ listed' =>
      exact parent_eq there here (List.mem_of_getElem? listed') listed ▸ above

theorem not_position_of_key {i : Nat} (here : doc.nodes[n]? = some node)
    (kind : node.kind = .mappingNode) (listed : node.content[2 * i]? = some c) :
    ¬ Position doc.nodes c := by
  intro position
  have member := List.mem_of_getElem? listed
  cases position with
  | root => exact absurd (doc.ordered n node here 0 member).1 (Nat.not_lt_zero n)
  | item above there kind' listed' =>
      obtain rfl := parent_eq there here listed' member
      obtain rfl := Option.some.inj (here.symm.trans there)
      simp [kind] at kind'
  | value above there kind' listed' =>
      obtain rfl := parent_eq there here (List.mem_of_getElem? listed') member
      obtain rfl := Option.some.inj (here.symm.trans there)
      have inside := (List.getElem?_eq_some_iff.mp listed).1
      have same := (List.getElem?_inj inside (content_nodup here)).mp (listed.trans listed'.symm)
      omega

theorem not_position_of_keyPart {k : Nat} (part : KeyPart doc k) : ¬ Position doc.nodes k := by
  obtain ⟨m, i, key, node, here, kind, listed, below⟩ := part
  induction below with
  | refl => exact not_position_of_key here kind listed
  | tail _ child ih =>
      obtain ⟨parent, there, member⟩ := child
      exact fun position => ih (parent_position position there member)

theorem Substituted.keys_kept {env : Environment} {doc' : Document}
    (substituted : Substituted env doc doc') {k : Nat} (part : KeyPart doc k) :
    doc'.nodes[k]? = doc.nodes[k]? := by
  apply substituted.kept
  rintro name ⟨node, scalar, -⟩
  exact not_position_of_keyPart part scalar.position

end position

section substituted

variable {env : Environment} {doc doc' : Document}

theorem Substituted.at_node (substituted : Substituted env doc doc') (n : Nat) :
    ((∀ name, ¬ Refers doc n name) ∧ doc'.nodes[n]? = doc.nodes[n]?) ∨
      ∃ node out, ValueScalar doc n node ∧ (∃ name, Occurs name node.value) ∧
        Expands env node.value out ∧
        doc'.nodes[n]? = some (node.assign out (if node.style = 0 then [] else node.tag)) := by
  by_cases refers : ∃ name, Refers doc n name
  · obtain ⟨name, node, scalar, occurs⟩ := refers
    obtain ⟨out, expands, here⟩ := substituted.written n node scalar ⟨name, occurs⟩
    exact .inr ⟨node, out, scalar, ⟨name, occurs⟩, expands, here⟩
  · have none : ∀ name, ¬ Refers doc n name := fun name here => refers ⟨name, here⟩
    exact .inl ⟨none, substituted.kept n none⟩

theorem Substituted.frame (substituted : Substituted env doc doc') :
    doc'.nodes.map (Node.assign [] []) = doc.nodes.map (Node.assign [] []) := by
  apply List.ext_getElem?
  intro n
  rw [List.getElem?_map, List.getElem?_map]
  rcases substituted.at_node n with ⟨-, same⟩ | ⟨node, out, scalar, -, -, here⟩
  · rw [same]
  · rw [here, scalar.here]
    rfl

theorem Substituted.agree {env₁ env₂ : Environment} {doc₁ doc₂ : Document}
    (first : Substituted env₁ doc doc₁) (second : Substituted env₂ doc doc₂) (n : Nat) :
    doc₁.nodes[n]? = doc₂.nodes[n]? ∨ ∃ node value₁ value₂ tag, ValueScalar doc n node ∧
      doc₁.nodes[n]? = some (node.assign value₁ tag) ∧
      doc₂.nodes[n]? = some (node.assign value₂ tag) := by
  rcases first.at_node n with ⟨none, same⟩ | ⟨node, out, scalar, occurs, -, here⟩
  · exact .inl (same.trans (second.kept n none).symm)
  · obtain ⟨out', -, here'⟩ := second.written n node scalar occurs
    exact .inr ⟨node, out, out', _, scalar, here, here'⟩

end substituted

/-- If every variable that is referred to is set, the result is the document with the references
replaced, or the bytes as they were if that is the document they hold, as it is where there is no
reference. Else the result is an error whose text has the names that are not set. -/
structure Resolves (yaml : Yaml) (env : Environment) (data : Bytes) (doc : Document) : Prop where
  isSet : (∀ n name, Refers doc n name → env name ≠ none) →
    (∃ doc', Substituted env doc doc' ∧ (substituteEnvVars yaml env data = reencode yaml doc' ∨
      substituteEnvVars yaml env data = .ok (data, false) ∧ doc' = doc)) ∧
    ((∀ n name, ¬ Refers doc n name) → substituteEnvVars yaml env data = .ok (data, false))
  notSet : (∃ n name, Refers doc n name ∧ env name = none) →
    ∃ missing, substituteEnvVars yaml env data = .error (.notSet missing) ∧
      (∀ name, name ∈ missing ↔ (∃ n, Refers doc n name) ∧ env name = none) ∧
      ∀ name ∈ missing, (nameText name).toList <:+: (EnvError.notSet missing).message.toList

def Unaffected (env : Environment) (doc : Document) : Prop :=
  ∀ n node, ValueScalar doc n node → (∃ name, Occurs name node.value) →
    Expands env node.value node.value ∧ (node.style = 0 → node.tag = [])

section resolves

variable {yaml : Yaml} {env : Environment} {data : Bytes} {doc : Document}

theorem expands_isSet {s out name : Bytes} (expands : Expands env s out) (occurs : Occurs name s) :
    env name ≠ none := by
  induction expands with
  | plain free => exact absurd occurs (free name)
  | reference free isName isSet _ _ ih =>
      rcases (occurs_append_reference isName free).mp occurs with rfl | later
      · simp [isSet]
      · exact ih later

theorem substituted_of_free (free : ∀ n name, ¬ Refers doc n name) : Substituted env doc doc := by
  refine ⟨fun _ _ => rfl, ?_⟩
  rintro n node scalar ⟨name, occurs⟩
  exact absurd ⟨node, scalar, occurs⟩ (free n name)

theorem substituted_self_iff : Substituted env doc doc ↔ Unaffected env doc := by
  constructor
  · intro substituted n node scalar occurs
    obtain ⟨out, expands, here⟩ := substituted.written n node scalar occurs
    have same : node = node.assign out (if node.style = 0 then [] else node.tag) :=
      Option.some.inj (scalar.here.symm.trans here)
    have value : node.value = out := congrArg Node.value same
    have tag : node.tag = if node.style = 0 then [] else node.tag := congrArg Node.tag same
    refine ⟨value ▸ expands, ?_⟩
    intro isPlain
    rwa [if_pos isPlain] at tag
  · intro unaffected
    refine ⟨fun _ _ => rfl, ?_⟩
    intro n node scalar occurs
    obtain ⟨expands, cleared⟩ := unaffected n node scalar occurs
    refine ⟨node.value, expands, ?_⟩
    have tag : (if node.style = 0 then [] else node.tag) = node.tag := by
      split_ifs with isPlain
      · exact (cleared isPlain).symm
      · rfl
    rw [tag, scalar.here]
    rfl

theorem infix_intercalate {sep x : String} {l : List String} (member : x ∈ l) :
    x.toList <:+: (sep.intercalate l).toList := by
  induction l with
  | nil => cases member
  | cons first rest ih =>
      cases rest with
      | nil =>
          obtain rfl := List.mem_singleton.mp member
          rw [String.intercalate_singleton]
      | cons second rest =>
          rw [String.intercalate_cons_cons, String.toList_append, String.toList_append]
          rcases List.mem_cons.mp member with rfl | later
          · rw [List.append_assoc]
            exact (List.prefix_append _ _).isInfix
          · exact (ih later).trans (List.suffix_append _ _).isInfix

theorem infix_of_append {a b : String} {x : List Char} (inside : x <:+: b.toList) :
    x <:+: (a ++ b).toList := by
  rw [String.toList_append]
  exact inside.trans (List.suffix_append _ _).isInfix

theorem name_in_message {missing : List Bytes} {name : Bytes} (member : name ∈ missing) :
    (nameText name).toList <:+: (EnvError.notSet missing).message.toList := by
  have listed : (nameText name).toList <:+: (", ".intercalate (missing.map nameText)).toList :=
    infix_intercalate (List.mem_map_of_mem member)
  unfold EnvError.message
  exact infix_of_append listed

theorem substituteEnvVars_of_free (free : hasReference data = false) :
    substituteEnvVars yaml env data = .ok (data, false) := by
  simp [substituteEnvVars, free]

theorem substituteEnvVars_of_found (found : hasReference data = true)
    (parsed : yaml.unmarshal data = .ok doc) :
    substituteEnvVars yaml env data =
      if (walked env doc).missing ≠ [] then .error (.notSet (walked env doc).missing)
      else if !(walked env doc).changed then .ok (data, false)
      else reencode yaml (walked env doc).doc := by
  simp [substituteEnvVars, found, parsed, walked]

theorem reencode_ne (doc : Document) : reencode yaml doc ≠ .ok (data, false) := by
  unfold reencode
  cases yaml.marshal doc <;> simp

theorem resolves_of_found (found : hasReference data = true) (parsed : yaml.unmarshal data = .ok doc) :
    Resolves yaml env data doc := by
  have result : substituteEnvVars yaml env data = _ := substituteEnvVars_of_found found parsed
  constructor
  · intro allSet
    have none : (walked env doc).missing = [] := by
      apply List.eq_nil_iff_forall_not_mem.mpr
      intro name member
      obtain ⟨⟨n, refers⟩, unset⟩ := mem_missing_iff.mp member
      exact allSet n name refers unset
    rw [none, if_neg (by simp)] at result
    cases changed : (walked env doc).changed with
    | true =>
        rw [changed] at result
        obtain ⟨n, name, refers⟩ := changed_iff.mp changed
        refine ⟨⟨_, walked_substituted allSet, .inl result⟩, ?_⟩
        exact fun free => absurd refers (free n name)
    | false =>
        rw [changed] at result
        have free : ∀ n name, ¬ Refers doc n name := by
          intro n name refers
          rw [changed_iff.mpr ⟨n, name, refers⟩] at changed
          cases changed
        exact ⟨⟨doc, substituted_of_free free, .inr ⟨result, rfl⟩⟩, fun _ => result⟩
  · rintro ⟨n, name, refers, unset⟩
    have member : name ∈ (walked env doc).missing := mem_missing_iff.mpr ⟨⟨n, refers⟩, unset⟩
    rw [if_pos (List.ne_nil_of_mem member)] at result
    exact ⟨_, result, fun name => mem_missing_iff, fun name => name_in_message⟩

theorem resolves_of_unaffected (unaffected : Unaffected env doc) (free : hasReference data = false) :
    Resolves yaml env data doc := by
  have result : substituteEnvVars yaml env data = .ok (data, false) := substituteEnvVars_of_free free
  constructor
  · intro _
    exact ⟨⟨doc, substituted_self_iff.mpr unaffected, .inr ⟨result, rfl⟩⟩, fun _ => result⟩
  · rintro ⟨n, name, ⟨node, scalar, occurs⟩, unset⟩
    exact absurd unset (expands_isSet (unaffected n node scalar ⟨name, occurs⟩).1 occurs)

theorem unaffected_of_resolves (resolves : Resolves yaml env data doc)
    (free : hasReference data = false) : Unaffected env doc := by
  have result : substituteEnvVars yaml env data = .ok (data, false) := substituteEnvVars_of_free free
  by_cases unset : ∃ n name, Refers doc n name ∧ env name = none
  · obtain ⟨missing, failed, -⟩ := resolves.notSet unset
    cases result.symm.trans failed
  · have allSet : ∀ n name, Refers doc n name → env name ≠ none :=
      fun n name refers isNone => unset ⟨n, name, refers, isNone⟩
    obtain ⟨⟨doc', substituted, encoded | ⟨-, rfl⟩⟩, -⟩ := resolves.isSet allSet
    · exact absurd (encoded.symm.trans result) (reencode_ne doc')
    · exact substituted_self_iff.mp substituted

end resolves

/-- The references of a document are resolved exactly if one stands in the bytes as they are, or if
there is nothing to be done. A document with its references resolved has its keys and the rest of its
structure, whatever the environment. -/
theorem env_resolved_iff {yaml : Yaml} {data : Bytes} {doc : Document}
    (parsed : yaml.unmarshal data = .ok doc) (env : Environment) :
    (Resolves yaml env data doc ↔ (∃ name, Occurs name data) ∨ Unaffected env doc) ∧
    (∀ doc', Substituted env doc doc' →
      doc'.nodes.map (Node.assign [] []) = doc.nodes.map (Node.assign [] []) ∧
      ∀ k, KeyPart doc k → doc'.nodes[k]? = doc.nodes[k]?) ∧
    (∀ env' doc₁ doc₂, Substituted env doc doc₁ → Substituted env' doc doc₂ →
      ∀ n, doc₁.nodes[n]? = doc₂.nodes[n]? ∨ ∃ node value₁ value₂ tag, ValueScalar doc n node ∧
        doc₁.nodes[n]? = some (node.assign value₁ tag) ∧
        doc₂.nodes[n]? = some (node.assign value₂ tag)) := by
  refine ⟨?_, ?_, fun env' doc₁ doc₂ first second => first.agree second⟩
  · rw [← hasReference_iff]
    cases found : hasReference data with
    | true => simpa using resolves_of_found found parsed
    | false =>
        constructor
        · exact fun resolves => .inr (unaffected_of_resolves resolves found)
        · rintro (seen | unaffected)
          · cases seen
          · exact resolves_of_unaffected unaffected found
  · intro doc' substituted
    exact ⟨substituted.frame, fun k part => substituted.keys_kept part⟩

def nodeOf (kind : Kind) (style : Nat) (tag value : Bytes) (content : List Nat) (column : Nat) : Node :=
  ⟨kind, style, tag, value, [], none, content, [], [], [], 1, column⟩

def oneEntry (style : Nat) (value : Bytes) : Document where
  nodes :=
    [nodeOf .documentNode 0 [] [] [1] 1,
      nodeOf .mappingNode 0 [0x21, 0x21, 0x6d, 0x61, 0x70] [] [2, 3] 1,
      nodeOf .scalarNode 0 [0x21, 0x21, 0x73, 0x74, 0x72] [0x61] [] 1,
      nodeOf .scalarNode style [0x21, 0x21, 0x73, 0x74, 0x72] value [] 4]
  ordered := by
    intro n node here
    obtain ⟨inside, rfl⟩ := List.getElem?_eq_some_iff.mp here
    simp only [List.length_cons, List.length_nil] at inside
    interval_cases n <;> simp [nodeOf]
  once := by simp [nodeOf]

theorem oneEntry_value (style : Nat) (value : Bytes) : ValueScalar (oneEntry style value) 3
    (nodeOf .scalarNode style [0x21, 0x21, 0x73, 0x74, 0x72] value [] 4) where
  position := .value (i := 0) (.item .root rfl (.inl rfl) (List.mem_singleton_self 1)) rfl rfl rfl
  notRoot := by decide
  here := rfl
  kind := rfl

theorem occurs_A : Occurs [0x41] (reference [0x41]) :=
  ⟨⟨List.cons_ne_nil _ _, List.forall_mem_singleton.mpr rfl⟩, [], [], by simp⟩

def written : Bytes := [0x61, 0x3a, 0x20] ++ reference [0x41]

def writtenYaml : Yaml where
  unmarshal data := if data = written then .ok (oneEntry 0 (reference [0x41])) else .error "not read"
  marshal _ := .ok [0x61, 0x3a, 0x20, 0x78, 0x0a]

theorem env_resolved_iff_written :
    substituteEnvVars writtenYaml (fun _ => some [0x78, 0x0a]) written =
      .ok ([0x61, 0x3a, 0x20, 0x78, 0x0a], true) ∧
    Resolves writtenYaml (fun _ => some [0x78, 0x0a]) written (oneEntry 0 (reference [0x41])) := by
  have parsed : writtenYaml.unmarshal written = .ok (oneEntry 0 (reference [0x41])) := by
    simp [writtenYaml]
  have stands : Occurs [0x41] written := ⟨occurs_A.1, [0x61, 0x3a, 0x20], [], rfl⟩
  refine ⟨?_, (env_resolved_iff parsed _).1.mpr (.inl ⟨_, stands⟩)⟩
  rfl

def escaped : Bytes := [0x61, 0x3a, 0x20, 0x22, 0x5c, 0x78, 0x32, 0x34, 0x7b, 0x41, 0x7d, 0x22]

def escapedYaml : Yaml where
  unmarshal data := if data = escaped then .ok (oneEntry 2 (reference [0x41])) else .error "not read"
  marshal _ := .error "not encoded"

theorem escaped_reference_unseen :
    escapedYaml.unmarshal escaped = .ok (oneEntry 2 (reference [0x41])) ∧
    substituteEnvVars escapedYaml (fun _ => none) escaped = .ok (escaped, false) ∧
    ¬ Resolves escapedYaml (fun _ => none) escaped (oneEntry 2 (reference [0x41])) := by
  have result : substituteEnvVars escapedYaml (fun _ => none) escaped = .ok (escaped, false) :=
    substituteEnvVars_of_free (by decide)
  refine ⟨by simp [escapedYaml], result, ?_⟩
  intro resolves
  obtain ⟨missing, failed, -⟩ := resolves.notSet ⟨3, [0x41], ⟨_, oneEntry_value 2 _, occurs_A⟩, rfl⟩
  cases result.symm.trans failed

end BrokerMcp.Proof.Config
