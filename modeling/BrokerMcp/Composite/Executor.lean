import BrokerMcp.Composite.Definition

/-!
# Running one step

The sequential half of `executor.go`: the arguments and the body of a request, `runSingle` and
`fetchPaginated`. `Host` is what the executor takes from the Go libraries and from the registry of
body checks; a `Client` answers the calls of one step, numbered in the order in which they are made.
-/

namespace BrokerMcp.Composite
open Resilience
open Text (atoi quote)

structure ExecuteContext where
  params : Object
  stepResults : List (String × Object)
  item : Option Object

/-- `template` executes a template under the name of its argument, `parseCursor` is
`parseCursorFromURI`, and `toInt` the conversion of a `float64`, which Go leaves to the platform
outside the range of an `int`. -/
structure Host where
  template : String → String → ExecuteContext → Except String String
  parseCursor : String → Except String String
  toInt : Rat → Int
  bodyChecks : List String → String → Object → Except Chain Unit

structure CompositeExecutor where
  operations : List (String × Operation)
  maxPages : Nat

def defaultMaxPages : Nat := 1000

abbrev Client := Nat → Operation → Object → Except Chain Object

/-! ## Arguments -/

def withArg (args : Object) (key : String) (value : Value) : Object := Assoc.put key value args

def appendCursor (baseArgs : Object) (cursor : String) : Object :=
  withArg baseArgs "cursor" (.str cursor)

def applySelect (args : Object) (fields : List String) : Object :=
  if fields = [] then args else withArg args "select" (.str (", ".intercalate fields))

def resolveArg (host : Host) (execCtx : ExecuteContext) (arg : String × String) :
    Except Chain (String × Value) :=
  match host.template arg.1 arg.2 execCtx with
  | .ok result => .ok (arg.1, .str result)
  | .error err => .error [.text s!"failed to execute template for arg {arg.1}: {err}"]

def resolveArgs (host : Host) (step : Step) (execCtx : ExecuteContext) : Except Chain Object :=
  step.args.mapM (resolveArg host execCtx)

/-! ## The request body -/

def maxEchoedNameRunes : Nat := 128

def boundedName (name : String) : String :=
  if name.length ≤ maxEchoedNameRunes then name
  else String.ofList (name.toList.take maxEchoedNameRunes) ++ "…"

def setField (body : Object) (field : String) (val : Value) : Except Chain Object :=
  if (body.lookup field).isSome then
    .error [.text (s!"ambiguous request body: field {quote (boundedName field)} is defined more " ++
      "than once; remove it from the config object")]
  else .ok (body ++ [(field, val)])

def setNested (op : Operation) (name : String) (body : Object) (entry : String × Value) :
    Except Chain Object :=
  if op.nonBody entry.1 then
    .error [.text (s!"invalid request body: {quote (boundedName entry.1)} is taken from the path " ++
      s!"or query and must not appear in the {quote (boundedName name)} config object; supply it " ++
      "via the dedicated parameter instead")]
  else setField body entry.1 entry.2

def setParam (op : Operation) (body : Object) (param : String × Value) : Except Chain Object :=
  if op.nonBody param.1 then .ok body
  else
    match param.2 with
    | .obj fields => fields.foldlM (setNested op param.1) body
    | val => setField body param.1 val

def checkBodyFields (op : Operation) (body : Object) : Except Chain Unit :=
  match op.bodyFields with
  | none => .ok ()
  | some known =>
      match body.find? fun entry => entry.1 ∉ known with
      | none => .ok ()
      | some entry =>
          .error [.text (s!"request body field {quote (boundedName entry.1)} is not a known " ++
            s!"attribute of operation {quote op.id}; check the name, ensure tool-only params are " ++
            "declared as path/query/header, or try a newer MCP server")]

def constructRequestBody (host : Host) (op : Operation) (args params : Object)
    (checks : List String) : Except Chain Object :=
  if !op.hasBody then
    if checks ≠ [] then
      .error [.text s!"body checks configured on operation {quote op.id}, which takes no request body"]
    else .ok args
  else do
    let body ← params.foldlM (setParam op) []
    host.bodyChecks checks op.id body
    checkBodyFields op body
    return withArg args "body" (.obj body)

def inStep (step : Step) (err : Chain) : Chain := .text s!"tool step {step.id}" :: err

def prepare (ce : CompositeExecutor) (host : Host) (step : Step) (execCtx : ExecuteContext) :
    Except Chain (Operation × Object) :=
  match resolveArgs host step execCtx with
  | .error err => .error (inStep step (.text "failed to resolve args" :: err))
  | .ok args =>
      match ce.operations.lookup step.operation with
      | none =>
          .error (inStep step
            [.text s!"operation {quote step.operation} not found in operation catalog"])
      | some op =>
          match constructRequestBody host op (applySelect args step.select) execCtx.params
              step.bodyChecks with
          | .error err => .error (inStep step err)
          | .ok args => .ok (op, args)

/-! ## A single call -/

def Link.sempStatus? : Link → Option Nat
  | .semp err => some err.statusCode
  | _ => none

def retryWithoutOptionalArgs (step : Step) (args : Object) (err : Chain) : Option Object :=
  if step.optionalArgs = [] then none
  else if err.findSome? Link.sempStatus? ≠ some 400 then none
  else if step.optionalArgs.any fun k => (args.lookup k).isSome then
    some (step.optionalArgs.foldl (fun args k => Assoc.drop k args) args)
  else none

def callOnce (step : Step) (client : Client) (op : Operation) (args : Object) :
    Except Chain Object :=
  match client 0 op args with
  | .ok data => .ok data
  | .error err =>
      match retryWithoutOptionalArgs step args err with
      | none => .error (inStep step err)
      | some args => (client 1 op args).mapError (inStep step)

/-! ## Pages -/

def defaultMax : Nat := 100

def capMax : Nat := 500

def resolveMaxResults (host : Host) (params : Object) : Nat :=
  let limit (n : Int) : Nat :=
    if n ≤ 0 then defaultMax else if n > capMax then capMax else n.toNat
  match params.lookup "maxResults" with
  | some (.float q) => limit (host.toInt q)
  | some (.int n) => limit n
  | _ => defaultMax

def extractDataItems (data : Object) : List Value := (data.arr? "data").getD []

def extractNextPageURI (data : Object) : String :=
  let paging := (data.obj? "meta").bind fun info => Object.obj? info "paging"
  (paging.bind fun paging => Object.str? paging "nextPageUri").getD ""

def cursorFromNextURI (host : Host) (nextURI : String) : Except Chain String :=
  match host.parseCursor nextURI with
  | .error err =>
      .error [.text s!"failed to parse pagination cursor from nextPageUri {quote nextURI}: {err}"]
  | .ok cursor =>
      if cursor = "" then
        .error [.text s!"empty pagination cursor extracted from nextPageUri {quote nextURI}"]
      else .ok cursor

def maxResultsAdvice : String := s!" Use maxResults (up to {capMax}) to retrieve more."

def cursorAdvice : String :=
  " More exist: pass nextCursor as cursor to get the next page (maxResults up to " ++
    s!"{capMax} per page)."

-- A page larger than asked gets no cursor: the broker's would skip the dropped items.
def offerCursor (host : Host) (step : Step) (remaining got : Nat) (nextURI : String) :
    Except Chain String :=
  if step.resumable ∧ got = remaining ∧ nextURI ≠ "" then
    (cursorFromNextURI host nextURI).mapError (inStep step)
  else .ok ""

structure Fetched where
  calls : Nat
  allItems : List Value
  truncated : Bool
  pageLimitHit : Bool
  nextCursor : String

/-- The loop of `fetchPaginated`, with `room` pages left of `maxPages`. -/
def fetchPages (host : Host) (step : Step) (call : Nat → Object → Except Chain Object)
    (baseArgs : Object) (pageSize : Int) (maxResults : Nat) :
    (room pageCount : Nat) → (args : Object) → (allItems : List Value) → Except Chain Fetched
  | 0, pageCount, _, allItems => .ok ⟨pageCount, allItems, true, true, ""⟩
  | room + 1, pageCount, args, allItems => do
      let remaining := maxResults - allItems.length
      let args :=
        if step.resumable && decide ((remaining : Int) < pageSize) then
          withArg args "count" (.str (toString remaining))
        else args
      let data ← call pageCount args
      let items := extractDataItems data
      let nextURI := extractNextPageURI data
      if items.length = 0 then return ⟨pageCount + 1, allItems, false, false, ""⟩
      else if remaining ≤ items.length then
        let truncated := decide (items.length > remaining) || decide (nextURI ≠ "")
        let nextCursor ← offerCursor host step remaining items.length nextURI
        return ⟨pageCount + 1, allItems ++ items.take remaining, truncated, false, nextCursor⟩
      else if nextURI = "" then return ⟨pageCount + 1, allItems ++ items, false, false, ""⟩
      else
        let cursor ← (cursorFromNextURI host nextURI).mapError (inStep step)
        fetchPages host step call baseArgs pageSize maxResults room (pageCount + 1)
          (appendCursor baseArgs cursor) (allItems ++ items)

def truncatedMessage (maxPages maxResults : Nat) (fetched : Fetched) : String :=
  if fetched.nextCursor ≠ "" then s!"Results limited to {maxResults}." ++ cursorAdvice
  else if fetched.pageLimitHit then
    s!"Pagination stopped after {maxPages} pages; result is incomplete. This usually indicates a " ++
      "broker issue with a persistent nextPageUri — narrow the query (e.g., by msgVpnName or a " ++
      "where filter) or contact your broker administrator."
  else if maxResults ≥ capMax then
    s!"More results exist but the maximum limit of {capMax} has been reached. Not all results " ++
      "are shown."
  else s!"Results limited to {maxResults}." ++ maxResultsAdvice

def pagedResult (maxPages maxResults : Nat) (resumed : Bool) (fetched : Fetched) : Object :=
  [("data", .arr fetched.allItems), ("truncated", .bool fetched.truncated)] ++
    (if resumed then [("resumed", .bool true)] else []) ++
    (if fetched.truncated then
      (if fetched.nextCursor ≠ "" then [("nextCursor", .str fetched.nextCursor)] else []) ++
        [("truncatedMessage", .str (truncatedMessage maxPages maxResults fetched))]
    else [])

def resumeCursor (step : Step) (params : Object) : String :=
  if step.resumable then (params.str? "cursor").getD "" else ""

def pageSizeOf (step : Step) (baseArgs : Object) : Int :=
  if step.resumable then (atoi ((baseArgs.str? "count").getD "")).1 else 0

-- `fetchPaginated` from the first line after the request body on, up to the result map.
def fetchAll (ce : CompositeExecutor) (host : Host) (step : Step) (params : Object)
    (call : Nat → Object → Except Chain Object) (baseArgs : Object) : Except Chain Fetched :=
  let cursor := resumeCursor step params
  let args := if cursor ≠ "" then appendCursor baseArgs cursor else baseArgs
  fetchPages host step call baseArgs (pageSizeOf step baseArgs) (resolveMaxResults host params)
    ce.maxPages 0 args []

structure Paginated where
  fetched : Fetched
  result : Object

def fetchPaginated (ce : CompositeExecutor) (host : Host) (step : Step) (client : Client)
    (execCtx : ExecuteContext) : Except Chain Paginated := do
  let (op, baseArgs) ← prepare ce host step execCtx
  let call (n : Nat) (args : Object) := (client n op args).mapError (inStep step)
  let fetched ← fetchAll ce host step execCtx.params call baseArgs
  return ⟨fetched, pagedResult ce.maxPages (resolveMaxResults host execCtx.params)
    (resumeCursor step execCtx.params ≠ "") fetched⟩

def runSingle (ce : CompositeExecutor) (host : Host) (step : Step) (client : Client)
    (execCtx : ExecuteContext) : Except Chain Object :=
  if step.followPages then
    (fetchPaginated ce host step client execCtx).map Paginated.result
  else do
    let (op, args) ← prepare ce host step execCtx
    callOnce step client op args

end BrokerMcp.Composite
