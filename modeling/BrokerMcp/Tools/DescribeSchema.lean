import BrokerMcp.Composite.Definition

/-!
# The attributes of a definition

`trimAttributes` of `describe_semp_schema.go`. It calls itself on every reference it resolves, so the
number of calls that may be on the stack is a parameter: a run that needs more is `.deeper`. The
slice of the `<pre>` block is the one expression of the source that can panic.
-/

namespace BrokerMcp.Tools
open BrokerMcp.Composite
open Text (trimSpace)

inductive Stop where
  | panic
  | deeper
deriving DecidableEq

def trimPrefix (s start : String) : String :=
  if start.toList <+: s.toList then String.ofList (s.toList.drop start.length) else s

def index (s sub : List Char) : Option Nat :=
  (List.range (s.length + 1)).find? fun i => sub.isPrefixOf (s.drop i)

def lastIndex (s sub : List Char) : Option Nat :=
  (List.range (s.length + 1)).reverse.find? fun i => sub.isPrefixOf (s.drop i)

def slice (s : List Char) (lo hi : Nat) : Except Stop String :=
  if lo > hi then .error .panic else .ok (String.ofList ((s.take hi).drop lo))

def flag (m : Object) (key : String) : Bool :=
  match m.lookup key with
  | some (.bool b) => b
  | _ => false

def entry (key : String) (value : Option Value) : Object := value.toList.map fun v => (key, v)

def omitWhenFalse : List (String × String) :=
  [("identifying", "x-identifying"), ("requiredForCreate", "x-requiredPost"),
    ("writeOnly", "x-writeOnly"), ("sensitive", "x-sensitive"), ("deprecated", "x-deprecated")]

/-- The first paragraph and the `<pre>` block of a description. -/
def mainPart (s : String) : Except Stop String :=
  match index s.toList "\n\n".toList with
  | none => .ok s
  | some i =>
      let first := String.ofList (s.toList.take i)
      match index s.toList "<pre>".toList, lastIndex s.toList "</pre>".toList with
      | some preStart, some preEnd => do
          let block ← slice s.toList preStart (preEnd + "</pre>".length)
          .ok (first ++ "\n\n" ++ trimSpace block)
      | _, _ => .ok first

def descriptionOf (prop : Object) : Except Stop Object := do
  let desc ← mainPart ((prop.str? "description").getD "")
  .ok (entry "description" ((some (trimSpace desc)).filter (· ≠ "") |>.map .str))

def plainAttr (name : String) (prop : Object) : Except Stop Object := do
  let description ← descriptionOf prop
  .ok ([("name", .str name)] ++
    entry "type" ((prop.str? "type").map .str) ++
    description ++
    entry "enum" (((prop.arr? "enum").filter (· ≠ [])).map .arr) ++
    entry "default" (prop.lookup "x-default") ++
    entry "pattern" (((prop.str? "pattern").filter (· ≠ "")).map .str) ++
    entry "maxLength" (prop.lookup "maxLength") ++
    entry "minimum" (prop.lookup "minimum") ++
    entry "maximum" (prop.lookup "maximum") ++
    [("writableOnCreate", .bool !(flag prop "x-readOnlyPost")),
      ("writableOnUpdate", .bool !(flag prop "x-readOnlyOther"))] ++
    (omitWhenFalse.filter fun f => flag prop f.2).map (fun f => (f.1, .bool true)) ++
    entry "requiresDisable" (((prop.arr? "x-requiresDisable").filter (· ≠ [])).map .arr) ++
    entry "autoDisable" (((prop.arr? "x-autoDisable").filter (· ≠ [])).map .arr))

def refOf (prop : Object) : Option String := (prop.str? "$ref").filter (· ≠ "")

def refAttr (nested : Object → Except Stop (List Object)) (defs : Object) (name ref : String) :
    Except Stop Object :=
  let attr := [("name", .str name), ("type", .str "object")]
  match defs.obj? (trimPrefix ref "#/definitions/") with
  | none => .ok attr
  | some resolvedDef => do
      let properties ← nested resolvedDef
      let desc := (resolvedDef.str? "description").filter (· ≠ "")
      .ok (attr ++ entry "description" (desc.map fun s => .str (trimSpace s)) ++
        [("properties", .arr (properties.map .obj))])

/-- The properties that are objects, in the order of their names. -/
def sortedProperties (defn : Object) : List (String × Object) :=
  let props := (defn.obj? "properties").getD []
  let names := (props.map Prod.fst).mergeSort fun a b => decide (a ≤ b)
  names.filterMap fun name => (props.obj? name).map fun prop => (name, prop)

def trimProperty (nested : Object → Except Stop (List Object)) (defs : Object) :
    String × Object → Except Stop Object
  | (name, prop) =>
      match refOf prop with
      | some ref => refAttr nested defs name ref
      | none => plainAttr name prop

def trimAttributes : Nat → Object → Object → Except Stop (List Object)
  | 0, _, _ => .error .deeper
  | fuel + 1, defn, defs =>
      -- the definitions are handed on as they are, with no record of those above
      (sortedProperties defn).mapM
        (trimProperty (fun resolvedDef => trimAttributes fuel resolvedDef defs) defs)

end BrokerMcp.Tools
