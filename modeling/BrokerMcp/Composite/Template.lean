import BrokerMcp.Composite.Executor

/-!
# Templates

What `text/template` computes for a template that is a single pipeline over `.Item`, with the option
`missingkey=error`. The position that it puts in front of an error is left out, and what `fmt` prints
of numbers, arrays and maps is a parameter.
-/

namespace BrokerMcp.Composite
open Text (quote)

inductive Term where
  | field (name : String)
  | index (name : String)
  | const (v : Value)
  | eq (left right : Term)
  | ne (left right : Term)
  | and (left right : Term)

def Value.isTrue : Value → Bool
  | .null => false
  | .bool b => b
  | .float q => q ≠ 0
  | .int n => n ≠ 0
  | .str s => s ≠ ""
  | .arr items => !items.isEmpty
  | .obj fields => !fields.isEmpty

/-- The comparison behind `eq` and `ne`. Values of two kinds are compared only if one is `nil`. -/
def Value.equals : Value → Value → Except String Bool
  | .null, .null => .ok true
  | .null, _ => .ok false
  | _, .null => .ok false
  | .bool a, .bool b => .ok (a = b)
  | .float a, .float b => .ok (a = b)
  | .int a, .int b => .ok (a = b)
  | .str a, .str b => .ok (a = b)
  | .arr _, .arr _ => .error "non-comparable type"
  | .obj _, .obj _ => .error "non-comparable type"
  | .arr _, .obj _ => .error "non-comparable types"
  | .obj _, .arr _ => .error "non-comparable types"
  | _, _ => .error "incompatible types for comparison"

/-- An `and` of more arguments is nested to the right: it evaluates them up to the first that is not
true, and that one is its value. -/
def Term.eval (item : Object) : Term → Except String Value
  | .field name =>
      match item.lookup name with
      | some v => .ok v
      | none => .error s!"map has no entry for key {quote name}"
  | .index name => .ok ((item.lookup name).getD .null)
  | .const v => .ok v
  | .eq left right => do
      let equal ← (← left.eval item).equals (← right.eval item)
      return .bool equal
  | .ne left right => do
      let equal ← (← left.eval item).equals (← right.eval item)
      return .bool !equal
  | .and left right => do
      let v ← left.eval item
      if v.isTrue then right.eval item else return v

def Value.print (sprint : Value → String) : Value → String
  | .null => "<no value>"
  | .bool b => if b then "true" else "false"
  | .str s => s
  | v => sprint v

def Term.execute (sprint : Value → String) (execCtx : ExecuteContext) (term : Term) :
    Except String String := do
  let v ← term.eval (execCtx.item.getD [])
  return v.print sprint

def Host.withTemplates (host : Host) (sprint : Value → String) (templates : List (String × Term)) :
    Host :=
  { host with
    template := fun name text execCtx =>
      match templates.lookup text with
      | some term => term.execute sprint execCtx
      | none => host.template name text execCtx }

end BrokerMcp.Composite
