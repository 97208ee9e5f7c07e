import BrokerMcp.Library.Cells
import BrokerMcp.Library.Text
import Mathlib.Data.List.Infix

/-!
# References to environment variables

`substituteEnvVars` of `config.go`. A YAML document is the list of its nodes in the order in which the
parser makes them, and a pointer to a node is its place in that list: a node comes after its parent, and
is listed by one parent once. An alias points to the node it stands for, which the walk reaches, if at
all, where that node is listed. Texts are bytes. The parser and the encoder are parameters; the text of
a parse error is what `sanitizeYAMLError` leaves of it.
-/

namespace BrokerMcp.Config
open Text (Bytes)

def isNameByte (b : UInt8) : Bool := (0x41 ≤ b && b ≤ 0x5a) || (0x30 ≤ b && b ≤ 0x39) || b = 0x5f

def reference (name : Bytes) : Bytes := 0x24 :: 0x7b :: (name ++ [0x7d])

def reference? : Bytes → Option (Bytes × Bytes)
  | 0x24 :: 0x7b :: rest =>
      match rest.dropWhile isNameByte with
      | 0x7d :: after =>
          let name := rest.takeWhile isNameByte
          if name = [] then none else some (name, after)
      | _ => none
  | _ => none

def firstReference : Bytes → Option (Bytes × Bytes × Bytes)
  | [] => none
  | b :: rest =>
      match reference? (b :: rest) with
      | some (name, after) => some ([], name, after)
      | none => (firstReference rest).map fun (before, name, after) => (b :: before, name, after)

/-- The names of the references from left to right, each with the text before it, and the rest. -/
def splitReferences : Nat → Bytes → List (Bytes × Bytes) × Bytes
  | 0, s => ([], s)
  | fuel + 1, s =>
      match firstReference s with
      | none => ([], s)
      | some (before, name, after) =>
          let (more, rest) := splitReferences fuel after
          ((before, name) :: more, rest)

/-- The names in the matches of `envVarPattern`. A match has at least one byte. -/
def namesIn (s : Bytes) : List Bytes := (splitReferences s.length s).1.map Prod.snd

def hasReference (s : Bytes) : Bool := namesIn s ≠ []

def replaceAll (value : Bytes → Bytes) (s : Bytes) : Bytes :=
  let (parts, rest) := splitReferences s.length s
  (parts.flatMap fun (before, name) => before ++ value name) ++ rest

def trimOneTrailingLineBreak (value : Bytes) : Bytes :=
  if [0x0d, 0x0a] <:+ value then value.dropLast.dropLast
  else if [0x0a] <:+ value || [0x0d] <:+ value then value.dropLast
  else value

inductive Kind where
  | zero
  | documentNode
  | sequenceNode
  | mappingNode
  | scalarNode
  | aliasNode
deriving DecidableEq

structure Node where
  kind : Kind
  style : Nat
  tag : Bytes
  value : Bytes
  anchor : Bytes
  aliasOf : Option Nat
  content : List Nat
  headComment : Bytes
  lineComment : Bytes
  footComment : Bytes
  line : Nat
  column : Nat
deriving DecidableEq

structure Document where
  nodes : List Node
  ordered : ∀ n node, nodes[n]? = some node → ∀ c ∈ node.content, n < c ∧ c < nodes.length
  once : (nodes.flatMap Node.content).Nodup

def Node.assign (value tag : Bytes) (node : Node) : Node := { node with value := value, tag := tag }

theorem map_assign {β : Type} {g : Node → β} (same : ∀ value tag node, g (.assign value tag node) = g node)
    (nodes : List Node) (n : Nat) (value tag : Bytes) :
    (nodes.modify n (.assign value tag)).map g = nodes.map g :=
  Cells.map_modify_same (same value tag) nodes n

def Document.assign (doc : Document) (n : Nat) (value tag : Bytes) : Document where
  nodes := doc.nodes.modify n (.assign value tag)
  ordered := by
    intro m node found
    have contents := map_assign (g := Node.content) (fun _ _ _ => rfl) doc.nodes n value tag
    have at_m := congrArg (fun l => l[m]?) contents
    simp only [List.getElem?_map, found, Option.map_some] at at_m
    obtain ⟨before, here, same⟩ := Option.map_eq_some_iff.mp at_m.symm
    rw [List.length_modify, ← same]
    exact doc.ordered m before here
  once := by
    rw [List.flatMap_def, map_assign fun _ _ _ => rfl, ← List.flatMap_def]
    exact doc.once

/-- The values of a mapping, whose content alternates keys and values. -/
def valuesOf : List Nat → List Nat
  | _ :: value :: rest => value :: valuesOf rest
  | _ => []

def Node.walked (node : Node) : List Nat :=
  match node.kind with
  | .documentNode | .sequenceNode => node.content
  | .mappingNode => valuesOf node.content
  -- an alias is not followed: what it stands for is substituted where it is listed
  | _ => []

abbrev Environment := Bytes → Option Bytes

def resolved (env : Environment) (name : Bytes) : Bytes :=
  match env name with
  | some value => trimOneTrailingLineBreak value
  | none => reference name

structure Walk where
  doc : Document
  missing : List Bytes
  changed : Bool

def substituteScalar (env : Environment) (w : Walk) (n : Nat) : Walk :=
  match w.doc.nodes[n]? with
  | none => w
  | some node =>
      if !hasReference node.value then w
      else
        { doc := w.doc.assign n (replaceAll (resolved env) node.value)
            -- the tag of a plain scalar was found from the reference, and is found again from the value
            (if node.style = 0 then [] else node.tag)
          missing := w.missing ++ (namesIn node.value).filter fun name => env name = none
          changed := true }

def walk (env : Environment) : Nat → Walk → Nat → Bool → Walk
  | 0, w, _, _ => w
  | fuel + 1, w, n, isValue =>
      match w.doc.nodes[n]? with
      | none => w
      | some node =>
          if node.kind = .scalarNode && isValue then substituteScalar env w n
          else node.walked.foldl (fun w child => walk env fuel w child true) w

inductive EnvError where
  | parsing (cause : String)
  | notSet (missing : List Bytes)
  | reencoding (cause : String)

def nameText (name : Bytes) : String := String.ofList (name.map fun b => Char.ofNat b.toNat)

def EnvError.message : EnvError → String
  | .parsing cause => "parsing config YAML: " ++ cause
  | .notSet missing => "environment variables not set: " ++ ", ".intercalate (missing.map nameText)
  | .reencoding cause => "re-encoding config after env var substitution: " ++ cause

structure Yaml where
  unmarshal : Bytes → Except String Document
  marshal : Document → Except String Bytes

/-- The bytes, and whether they were re-marshaled. -/
def reencode (yaml : Yaml) (doc : Document) : Except EnvError (Bytes × Bool) :=
  match yaml.marshal doc with
  | .error cause => .error (.reencoding cause)
  | .ok out => .ok (out, true)

def substituteEnvVars (yaml : Yaml) (env : Environment) (data : Bytes) :
    Except EnvError (Bytes × Bool) :=
  if !hasReference data then .ok (data, false)
  else
    match yaml.unmarshal data with
    | .error cause => .error (.parsing cause)
    | .ok doc =>
        -- the walk goes no deeper than there are nodes, since a node comes after its parent
        let w := walk env doc.nodes.length ⟨doc, [], false⟩ 0 false
        if w.missing ≠ [] then .error (.notSet w.missing)
        else if !w.changed then .ok (data, false)
        else reencode yaml w.doc

end BrokerMcp.Config
