import BrokerMcp.Composite.Executor

/-!
# Keeping a response under the size cap

`bound.go`. The length of the JSON text of a value enters as a `Meter`. The two passes of
`boundResponse` remove a row at a time, so the number of rows bounds them.
-/

namespace BrokerMcp.Composite

def responseCapBytes : Nat := 64 * 1024

def boundItemIndent : String := "      "

/-- `textSize`, and the length of `json.MarshalIndent(item, boundItemIndent, "  ")`. -/
structure Meter where
  textSize : Object → Option Nat
  rowSize : Value → Option Nat

structure BoundReport where
  truncated : Bool
  unbounded : Bool
  omittedItems : Nat
  trimmedSteps : List String
deriving DecidableEq

structure BoundCandidate where
  id : String
  step : Object
  items : List Value
  sizes : List Nat
  keep : Nat
  bytes : Nat

def trimSuffix (s suffix : String) : String :=
  if suffix.toList <:+ s.toList then
    String.ofList (s.toList.take (s.toList.length - suffix.toList.length))
  else s

def boundMessage (kept total limit : Nat) (hasSummary : Bool) : String :=
  s!"Response size limit reached: this step returned {kept} of {total} rows ({total - kept} " ++
    s!"omitted) to stay under {limit} bytes." ++
    (if hasSummary then
      " The summary was computed before the rows were omitted and still covers every row fetched."
    else "") ++
    " The omitted rows are not in this response; to see specific ones, narrow the query (for " ++
    "example to one queue, client or Message VPN)."

def boundNote (prev : String) (kept total limit : Nat) (hasSummary resumable : Bool) : String :=
  let note := boundMessage kept total limit hasSummary ++
    (if resumable && kept > 0 then
      " To page on without skipping them, repeat this call with the same cursor (none for the " ++
        s!"first page) and maxResults at most {kept}; its nextCursor starts right after the rows " ++
        "returned."
    else "")
  let prev := trimSuffix (trimSuffix prev maxResultsAdvice) cursorAdvice
  if prev = "" then note else prev ++ " " ++ note

def trimmedStep (c : BoundCandidate) (limit : Nat) (hasSummary resumable : Bool) : Object :=
  let hadCursor := (c.step.lookup "nextCursor").isSome
  let note := boundNote ((c.step.str? "truncatedMessage").getD "") c.keep c.items.length limit
    hasSummary (resumable || hadCursor)
  Assoc.put "truncatedMessage" (.str note) <|
    Assoc.put "omittedItems" (.int (c.items.length - c.keep)) <|
    Assoc.put "truncated" (.bool true) <|
    Assoc.put "data" (.arr (c.items.take c.keep)) <|
    Assoc.drop "nextCursor" c.step

def candidate (meter : Meter) (out : Object) (id : String) : Option BoundCandidate := do
  let step ← out.obj? id
  let items ← step.arr? "data"
  if items.length = 0 then none
  else
    let lengths ← items.mapM meter.rowSize
    let sizes := lengths.map fun n => n + 2 + boundItemIndent.length
    return ⟨id, step, items, sizes, items.length, sizes.sum⟩

def candidates (meter : Meter) (out : Object) (hasSummary : Bool) : List BoundCandidate :=
  let ids := (out.map Prod.fst).filter fun id => !(hasSummary && id = "summary")
  (ids.mergeSort fun a b => decide (a ≤ b)).filterMap (candidate meter out)

def build (out : Object) (limit : Nat) (hasSummary : Bool) (resumable : String → Bool)
    (cands : List BoundCandidate) : Object :=
  cands.foldl (fun cp c =>
    if c.keep < c.items.length then
      Assoc.put c.id (.obj (trimmedStep c limit hasSummary (resumable c.id))) cp
    else cp) out

def largest : List BoundCandidate → Nat → Option (Nat × Nat) → Option (Nat × Nat)
  | [], _, pick => pick
  | c :: rest, i, pick =>
      largest rest (i + 1)
        (if c.keep > 0 ∧ pick.all (fun best => decide (c.bytes > best.2)) then some (i, c.bytes)
        else pick)

def BoundCandidate.shaved (c : BoundCandidate) : Nat := c.sizes.getD (c.keep - 1) 0

/-- The bytes that are freed and the candidates after it, or `none` if every array is empty. -/
def shave (cands : List BoundCandidate) : Option (Nat × List BoundCandidate) := do
  let (i, _) ← largest cands 0 none
  let c ← cands[i]?
  return (c.shaved, cands.set i { c with keep := c.keep - 1, bytes := c.bytes - c.shaved })

def rowsLeft (cands : List BoundCandidate) : Nat := (cands.map BoundCandidate.keep).sum

def shaveExcess : Nat → Int → List BoundCandidate → List BoundCandidate
  | 0, _, cands => cands
  | rows + 1, excess, cands =>
      if excess ≤ 0 then cands
      else
        match shave cands with
        | none => cands
        | some (freed, cands) => shaveExcess rows (excess - freed) cands

def exactPass (meter : Meter) (limit : Nat) (build : List BoundCandidate → Object) :
    Nat → List BoundCandidate → List BoundCandidate
  | 0, cands => cands
  | rows + 1, cands =>
      let got := (meter.textSize (build cands)).getD 0
      if got ≤ limit then cands
      else exactPass meter limit build rows (shaveExcess (rowsLeft cands) (got - limit : Int) cands)

def report (cands : List BoundCandidate) : BoundReport :=
  let trimmed := cands.filter fun c => c.items.length - c.keep ≠ 0
  ⟨!trimmed.isEmpty, false, (trimmed.map fun c => c.items.length - c.keep).sum, trimmed.map (·.id)⟩

def boundResponse (meter : Meter) (strategy : ResultStrategy) (resumable : String → Bool)
    (out : Object) (size limit : Nat) : Object × BoundReport :=
  if size ≤ limit then (out, ⟨false, false, 0, []⟩)
  else
    let hasSummary := decide (strategy.strategy = "postProcess")
    let cands := candidates meter out hasSummary
    let build := build out limit hasSummary resumable
    let emptied := meter.textSize (build (cands.map fun c => { c with keep := 0 }))
    if cands.isEmpty || !(emptied.any fun n => decide (n ≤ limit)) then
      (out, ⟨false, true, 0, []⟩)
    else
      let cands := shaveExcess (rowsLeft cands) (size - limit : Int) cands
      let cands := exactPass meter limit build (rowsLeft cands) cands
      (build cands, report cands)

def boundToolResponse (meter : Meter) (tool : CompositeTool) (out : Object) (size limit : Nat) :
    Object × BoundReport :=
  boundResponse meter tool.result (fun id => tool.steps.any fun s => s.resumable && s.id = id) out
    size limit

end BrokerMcp.Composite
