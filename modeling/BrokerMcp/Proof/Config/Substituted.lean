import BrokerMcp.Library.Forest
import BrokerMcp.Proof.Config.References

namespace BrokerMcp.Proof.Config
open BrokerMcp.Config
open Text (Bytes)

def nextIn (nodes : List Node) (n : Nat) : List Nat := ((nodes.map Node.walked)[n]?).getD []

def isLeaf (nodes : List Node) (n : Nat) : Bool :=
  n ≠ 0 && (nodes.map Node.kind)[n]? = some .scalarNode

theorem mem_nextIn {nodes : List Node} {n c : Nat} :
    c ∈ nextIn nodes n ↔ ∃ node, nodes[n]? = some node ∧ c ∈ node.walked := by
  unfold nextIn
  rw [List.getElem?_map]
  cases nodes[n]? <;> simp

theorem valuesOf_sublist : ∀ content, (valuesOf content).Sublist content
  | [] => List.Sublist.refl _
  | [_] => List.nil_sublist _
  | key :: value :: rest => ((valuesOf_sublist rest).cons_cons value).cons key

theorem walked_sublist (node : Node) : node.walked.Sublist node.content := by
  unfold Node.walked
  cases node.kind
  case mappingNode => exact valuesOf_sublist _
  case documentNode => exact List.Sublist.refl _
  case sequenceNode => exact List.Sublist.refl _
  all_goals exact List.nil_sublist _

theorem child_inside {doc : Document} {n c : Nat} (child : c ∈ nextIn doc.nodes n) :
    n < c ∧ c < doc.nodes.length := by
  obtain ⟨node, here, walked⟩ := mem_nextIn.mp child
  exact doc.ordered n node here c ((walked_sublist node).subset walked)

theorem parent_eq {doc : Document} {n m c : Nat} {node node' : Node}
    (here : doc.nodes[n]? = some node) (there : doc.nodes[m]? = some node') (first : c ∈ node.content)
    (second : c ∈ node'.content) : n = m :=
  Cells.eq_of_mem_flatMap doc.once here there first second

theorem content_nodup {doc : Document} {n : Nat} {node : Node} (here : doc.nodes[n]? = some node) :
    node.content.Nodup :=
  (List.nodup_flatMap.mp doc.once).1 node (List.mem_of_getElem? here)

theorem forest (doc : Document) : Forest.Ordered (nextIn doc.nodes) where
  later child := (child_inside child).1
  once := by
    intro n m c first second
    obtain ⟨node, here, walked⟩ := mem_nextIn.mp first
    obtain ⟨node', there, walked'⟩ := mem_nextIn.mp second
    exact parent_eq here there ((walked_sublist _).subset walked) ((walked_sublist _).subset walked')
  nodup := by
    intro n
    unfold nextIn
    rw [List.getElem?_map]
    cases here : doc.nodes[n]? with
    | none => exact List.nodup_nil
    | some node => exact (content_nodup here).sublist (walked_sublist node)

def substituted (env : Environment) (node : Node) : Node :=
  if hasReference node.value then
    node.assign (replaceAll (resolved env) node.value) (if node.style = 0 then [] else node.tag)
  else node

def unsetAt (env : Environment) (nodes : List Node) (n : Nat) : List Bytes :=
  (nodes[n]?).elim [] fun node => (namesIn node.value).filter fun name => env name = none

def referenceAt (nodes : List Node) (n : Nat) : Bool := (nodes[n]?).any fun node => hasReference node.value

theorem namesIn_of_not {s : Bytes} (free : hasReference s = false) : namesIn s = [] := by
  simpa [hasReference] using free

section stepping

variable {env : Environment} {w : Walk} {n m : Nat}

theorem nodes_assign (doc : Document) (n m : Nat) (value tag : Bytes) :
    (doc.assign n value tag).nodes[m]? =
      if m = n then (doc.nodes[m]?).map (.assign value tag) else doc.nodes[m]? := by
  rw [Document.assign, List.getElem?_modify]
  by_cases same : m = n
  · simp [same]
  · simp [same, Ne.symm same]

structure Done (env : Environment) (w : Walk) (ns : List Nat) (w' : Walk) : Prop where
  nodes : ∀ m, w'.doc.nodes[m]? =
    if m ∈ ns then (w.doc.nodes[m]?).map (substituted env) else w.doc.nodes[m]?
  missing : w'.missing = w.missing ++ ns.flatMap (unsetAt env w.doc.nodes)
  changed : w'.changed = (w.changed || ns.any (referenceAt w.doc.nodes))

theorem substituteScalar_done : Done env w [n] (substituteScalar env w n) := by
  unfold substituteScalar
  cases here : w.doc.nodes[n]? with
  | none =>
      refine ⟨?_, ?_, ?_⟩
      · intro m
        by_cases same : m = n
        · simp [same, here]
        · simp [same]
      · simp [unsetAt, here]
      · simp [referenceAt, here]
  | some node =>
      cases found : hasReference node.value with
      | false =>
          simp only [found, Bool.not_false, if_true]
          refine ⟨?_, ?_, ?_⟩
          · intro m
            by_cases same : m = n
            · simp [same, here, substituted, found]
            · simp [same]
          · simp [unsetAt, here, namesIn_of_not found]
          · simp [referenceAt, here, found]
      | true =>
          simp only [found, Bool.not_true, Bool.false_eq_true, if_false]
          refine ⟨?_, ?_, ?_⟩
          · intro m
            rw [nodes_assign]
            by_cases same : m = n
            · simp [same, here, substituted, found]
            · simp [same]
          · simp [unsetAt, here]
          · simp [referenceAt, here, found]

theorem Done.cons {ns : List Nat} {w₁ w₂ : Walk} (first : Done env w [n] w₁) (rest : Done env w₁ ns w₂)
    (fresh : n ∉ ns) : Done env w (n :: ns) w₂ := by
  have kept : ∀ m ∈ ns, w₁.doc.nodes[m]? = w.doc.nodes[m]? := by
    intro m member
    have other : m ∉ [n] := by
      rw [List.mem_singleton]
      exact fun same => fresh (same ▸ member)
    rw [first.nodes, if_neg other]
  refine ⟨?_, ?_, ?_⟩
  · intro m
    rw [rest.nodes]
    by_cases later : m ∈ ns
    · rw [if_pos later, if_pos (List.mem_cons_of_mem n later), kept m later]
    · rw [if_neg later, first.nodes]
      simp [later]
  · have same : ns.flatMap (unsetAt env w₁.doc.nodes) = ns.flatMap (unsetAt env w.doc.nodes) := by
      apply List.flatMap_congr
      intro m member
      rw [unsetAt, kept m member, unsetAt]
    rw [rest.missing, first.missing, same, List.append_assoc, List.flatMap_singleton,
      List.flatMap_cons]
  · have same : ns.any (referenceAt w₁.doc.nodes) = ns.any (referenceAt w.doc.nodes) := by
      rw [Bool.eq_iff_iff, List.any_eq_true, List.any_eq_true]
      apply exists_congr
      intro m
      apply and_congr_right
      intro member
      rw [referenceAt, kept m member, referenceAt]
    rw [rest.changed, first.changed, same]
    simp [Bool.or_assoc]

theorem foldl_done {ns : List Nat} (nodup : ns.Nodup) :
    Done env w ns (ns.foldl (substituteScalar env) w) := by
  induction ns generalizing w with
  | nil => exact ⟨by simp, by simp, by simp⟩
  | cons n ns ih =>
      obtain ⟨fresh, nodup⟩ := List.nodup_cons.mp nodup
      exact substituteScalar_done.cons (ih nodup) fresh

structure Alike (nodes nodes' : List Node) : Prop where
  next : nextIn nodes' = nextIn nodes
  leaf : isLeaf nodes' = isLeaf nodes

theorem alike_of_map {nodes nodes' : List Node} (walked : nodes'.map Node.walked = nodes.map Node.walked)
    (kinds : nodes'.map Node.kind = nodes.map Node.kind) : Alike nodes nodes' := by
  constructor
  · funext n
    rw [nextIn, walked, nextIn]
  · funext n
    rw [isLeaf, kinds, isLeaf]

theorem substituteScalar_alike : Alike w.doc.nodes (substituteScalar env w n).doc.nodes := by
  unfold substituteScalar
  cases w.doc.nodes[n]? with
  | none => exact ⟨rfl, rfl⟩
  | some node =>
      dsimp only
      split
      · exact ⟨rfl, rfl⟩
      · exact alike_of_map (map_assign (fun _ _ _ => rfl) ..) (map_assign (fun _ _ _ => rfl) ..)

theorem foldl_alike (env : Environment) (w : Walk) (ns : List Nat) :
    Alike w.doc.nodes (ns.foldl (substituteScalar env) w).doc.nodes := by
  induction ns generalizing w with
  | nil => exact ⟨rfl, rfl⟩
  | cons n ns ih =>
      have first : Alike w.doc.nodes (substituteScalar env w n).doc.nodes := substituteScalar_alike
      have rest := ih (substituteScalar env w n)
      exact ⟨rest.next.trans first.next, rest.leaf.trans first.leaf⟩

theorem foldl_walk {fuel : Nat} {leaf : Nat → Bool} {next : Nat → List Nat}
    (each : ∀ w : Walk, nextIn w.doc.nodes = next → isLeaf w.doc.nodes = leaf → ∀ c, c ≠ 0 →
      walk env fuel w c true = (Forest.leaves leaf next fuel c).foldl (substituteScalar env) w)
    (sameNext : nextIn w.doc.nodes = next) (sameLeaf : isLeaf w.doc.nodes = leaf) {children : List Nat}
    (positive : ∀ c ∈ children, c ≠ 0) :
    children.foldl (fun w c => walk env fuel w c true) w =
      (children.flatMap (Forest.leaves leaf next fuel)).foldl (substituteScalar env) w := by
  induction children generalizing w with
  | nil => rfl
  | cons c children ih =>
      obtain ⟨here, later⟩ := List.forall_mem_cons.mp positive
      have alike := foldl_alike env w (Forest.leaves leaf next fuel c)
      rw [List.foldl_cons, each w sameNext sameLeaf c here, List.flatMap_cons, List.foldl_append]
      exact ih (alike.next.trans sameNext) (alike.leaf.trans sameLeaf) later

/-- The walk substitutes at the leaves that it comes to, from left to right. -/
theorem walk_eq {leaf : Nat → Bool} {next : Nat → List Nat} (positive : ∀ n c, c ∈ next n → c ≠ 0)
    (fuel : Nat) (w : Walk) (sameNext : nextIn w.doc.nodes = next) (sameLeaf : isLeaf w.doc.nodes = leaf)
    (n : Nat) : walk env fuel w n (n ≠ 0) =
      (Forest.leaves leaf next fuel n).foldl (substituteScalar env) w := by
  induction fuel generalizing w n with
  | zero => rfl
  | succ fuel ih =>
      have children := positive n
      rw [← sameNext] at children
      rw [walk, Forest.leaves, ← sameNext, ← sameLeaf]
      cases here : w.doc.nodes[n]? with
      | none => simp [isLeaf, nextIn, here]
      | some node =>
          have goes : nextIn w.doc.nodes n = node.walked := by simp [nextIn, here]
          have ends : isLeaf w.doc.nodes n = (node.kind = .scalarNode && n ≠ 0) := by
            simp [isLeaf, here, Bool.and_comm]
          rw [goes] at children
          simp only [goes, ends]
          split_ifs
          · rfl
          · apply foldl_walk _ rfl rfl children
            intro w' sameNext' sameLeaf' c nonzero
            have one := ih w' (sameNext'.trans sameNext) (sameLeaf'.trans sameLeaf) c
            rw [decide_eq_true nonzero] at one
            rw [one, sameNext, sameLeaf]

end stepping

inductive Position (nodes : List Node) : Nat → Prop where
  | root : Position nodes 0
  | item {n c : Nat} {node : Node} (above : Position nodes n) (here : nodes[n]? = some node)
      (kind : node.kind = .documentNode ∨ node.kind = .sequenceNode) (listed : c ∈ node.content) :
      Position nodes c
  | value {n c i : Nat} {node : Node} (above : Position nodes n) (here : nodes[n]? = some node)
      (kind : node.kind = .mappingNode) (listed : node.content[2 * i + 1]? = some c) : Position nodes c

structure ValueScalar (doc : Document) (n : Nat) (node : Node) : Prop where
  position : Position doc.nodes n
  notRoot : n ≠ 0
  here : doc.nodes[n]? = some node
  kind : node.kind = .scalarNode

theorem mem_valuesOf {c : Nat} : ∀ {content : List Nat},
    c ∈ valuesOf content ↔ ∃ i, content[2 * i + 1]? = some c
  | [] => by simp [valuesOf]
  | [_] => by simp [valuesOf]
  | key :: value :: rest => by
      rw [valuesOf, List.mem_cons, mem_valuesOf]
      constructor
      · rintro (rfl | ⟨i, found⟩)
        · exact ⟨0, rfl⟩
        · exact ⟨i + 1, found⟩
      · rintro ⟨i, found⟩
        cases i with
        | zero => exact .inl (by simpa [eq_comm] using found)
        | succ i => exact .inr ⟨i, found⟩

theorem position_iff {nodes : List Node} {m : Nat} :
    Position nodes m ↔ Forest.Below (nextIn nodes) 0 m := by
  constructor
  · intro position
    induction position with
    | root => exact .refl
    | @item n c node above here kind listed ih =>
        apply ih.tail
        rw [mem_nextIn]
        refine ⟨node, here, ?_⟩
        rcases kind with kind | kind <;> simpa [Node.walked, kind] using listed
    | @value n c i node above here kind listed ih =>
        apply ih.tail
        rw [mem_nextIn]
        refine ⟨node, here, ?_⟩
        simpa [Node.walked, kind, mem_valuesOf] using ⟨i, listed⟩
  · intro below
    induction below with
    | refl => exact .root
    | @tail n c _ child ih =>
        obtain ⟨node, here, walked⟩ := mem_nextIn.mp child
        unfold Node.walked at walked
        cases kind : node.kind with
        | documentNode => exact .item ih here (.inl kind) (by simpa [kind] using walked)
        | sequenceNode => exact .item ih here (.inr kind) (by simpa [kind] using walked)
        | mappingNode =>
            obtain ⟨i, listed⟩ := mem_valuesOf.mp (by simpa [kind] using walked)
            exact .value ih here kind listed
        | zero => simp [kind] at walked
        | scalarNode => simp [kind] at walked
        | aliasNode => simp [kind] at walked

def visited (doc : Document) : List Nat :=
  Forest.leaves (isLeaf doc.nodes) (nextIn doc.nodes) doc.nodes.length 0

theorem isLeaf_iff {nodes : List Node} {n : Nat} :
    isLeaf nodes n = true ↔ n ≠ 0 ∧ ∃ node, nodes[n]? = some node ∧ node.kind = .scalarNode := by
  simp [isLeaf]

theorem mem_visited_iff {doc : Document} {n : Nat} :
    n ∈ visited doc ↔ ∃ node, ValueScalar doc n node := by
  have scalars : (∃ node, ValueScalar doc n node) ↔
      Forest.Below (nextIn doc.nodes) 0 n ∧ isLeaf doc.nodes n = true := by
    rw [← position_iff, isLeaf_iff]
    constructor
    · rintro ⟨node, position, notRoot, here, kind⟩
      exact ⟨position, notRoot, node, here, kind⟩
    · rintro ⟨position, notRoot, node, here, kind⟩
      exact ⟨node, position, notRoot, here, kind⟩
  have barren : ∀ m, isLeaf doc.nodes m = true → nextIn doc.nodes m = [] := by
    intro m leaf
    obtain ⟨-, node, here, kind⟩ := isLeaf_iff.mp leaf
    simp [nextIn, here, Node.walked, kind]
  rw [scalars, visited]
  rcases Nat.eq_zero_or_pos doc.nodes.length with empty | nonempty
  · rw [empty, Forest.leaves]
    have none : isLeaf doc.nodes n = false := by
      simp [isLeaf, List.eq_nil_of_length_eq_zero empty]
    simp [none]
  · exact (forest doc).mem_leaves_iff (fun m c child => (child_inside child).2) barren nonempty

def Refers (doc : Document) (n : Nat) (name : Bytes) : Prop :=
  ∃ node, ValueScalar doc n node ∧ Occurs name node.value

structure Substituted (env : Environment) (doc doc' : Document) : Prop where
  kept : ∀ n, (∀ name, ¬ Refers doc n name) → doc'.nodes[n]? = doc.nodes[n]?
  written : ∀ n node, ValueScalar doc n node → (∃ name, Occurs name node.value) →
    ∃ out, Expands env node.value out ∧
      doc'.nodes[n]? = some (node.assign out (if node.style = 0 then [] else node.tag))

section result

variable {env : Environment} {doc : Document}

def walked (env : Environment) (doc : Document) : Walk :=
  walk env doc.nodes.length ⟨doc, [], false⟩ 0 false

theorem walked_done (env : Environment) (doc : Document) :
    Done env ⟨doc, [], false⟩ (visited doc) (walked env doc) := by
  have same : walked env doc = (visited doc).foldl (substituteScalar env) ⟨doc, [], false⟩ := by
    have positive : ∀ n c, c ∈ nextIn doc.nodes n → c ≠ 0 :=
      fun n c child => Nat.ne_zero_of_lt (child_inside child).1
    exact walk_eq positive doc.nodes.length ⟨doc, [], false⟩ rfl rfl 0
  rw [same]
  exact foldl_done ((forest doc).leaves_nodup _ _)

theorem mem_missing_iff {name : Bytes} :
    name ∈ (walked env doc).missing ↔ (∃ n, Refers doc n name) ∧ env name = none := by
  rw [(walked_done env doc).missing, List.nil_append, List.mem_flatMap]
  constructor
  · rintro ⟨n, found, unset⟩
    obtain ⟨node, scalar⟩ := mem_visited_iff.mp found
    simp only [unsetAt, scalar.here, Option.elim_some, List.mem_filter, decide_eq_true_eq] at unset
    exact ⟨⟨n, node, scalar, mem_namesIn_iff.mp unset.1⟩, unset.2⟩
  · rintro ⟨⟨n, node, scalar, occurs⟩, unset⟩
    refine ⟨n, mem_visited_iff.mpr ⟨node, scalar⟩, ?_⟩
    simp only [unsetAt, scalar.here, Option.elim_some, List.mem_filter, decide_eq_true_eq]
    exact ⟨mem_namesIn_iff.mpr occurs, unset⟩

theorem changed_iff : (walked env doc).changed = true ↔ ∃ n name, Refers doc n name := by
  rw [(walked_done env doc).changed, Bool.false_or, List.any_eq_true]
  constructor
  · rintro ⟨n, found, refers⟩
    obtain ⟨node, scalar⟩ := mem_visited_iff.mp found
    simp only [referenceAt, scalar.here, Option.any_some] at refers
    obtain ⟨name, occurs⟩ := hasReference_iff.mp refers
    exact ⟨n, name, node, scalar, occurs⟩
  · rintro ⟨n, name, node, scalar, occurs⟩
    refine ⟨n, mem_visited_iff.mpr ⟨node, scalar⟩, ?_⟩
    simp only [referenceAt, scalar.here, Option.any_some]
    exact hasReference_iff.mpr ⟨name, occurs⟩

theorem walked_substituted (allSet : ∀ n name, Refers doc n name → env name ≠ none) :
    Substituted env doc (walked env doc).doc := by
  constructor
  · intro n none
    rw [(walked_done env doc).nodes]
    split_ifs with found
    · obtain ⟨node, scalar⟩ := mem_visited_iff.mp found
      have free : hasReference node.value = false := by
        rw [← Bool.not_eq_true, hasReference_iff]
        rintro ⟨name, occurs⟩
        exact none name ⟨node, scalar, occurs⟩
      simp [scalar.here, substituted, free]
    · rfl
  · intro n node scalar refers
    refine ⟨replaceAll (resolved env) node.value, ?_, ?_⟩
    · apply expands_replaceAll
      intro name occurs
      exact allSet n name ⟨node, scalar, occurs⟩
    · rw [(walked_done env doc).nodes, if_pos (mem_visited_iff.mpr ⟨node, scalar⟩), scalar.here]
      simp [substituted, hasReference_iff.mpr refers]

end result

end BrokerMcp.Proof.Config
