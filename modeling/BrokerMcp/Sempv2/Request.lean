import BrokerMcp.Composite.Definition
import BrokerMcp.Library.Assoc
import BrokerMcp.Library.Holes
import BrokerMcp.Library.Percent
import BrokerMcp.Sempv2.Client

/-!
# The request of a SEMPv2 operation

`buildURL` and `buildRequest`. A map of arguments is a list of entries in the order in which it is
ranged over. How `fmt` prints a value that is not a string, and how it quotes one, are parameters, and
so are `json.Marshal` and the errors of `http.NewRequestWithContext`.
-/

namespace BrokerMcp.Sempv2
open Resilience
open Text (trimSpace)

structure Parameter where
  name : String
  location : String
  type : String

structure Endpoint extends Operation where
  path : String
  parameters : List Parameter

/-- A value in the map of arguments, by the cases of the type switches. -/
inductive Arg (α : Type) where
  | text (s : String)
  | strings (v : List String)
  | slice (v : List α)
  | other (v : α)

structure Format (α : Type) where
  print : Arg α → String
  item : α → String
  quote : String → String

def Format.value {α : Type} (fmt : Format α) : Arg α → String
  | .text s => s
  | v => fmt.print v

def utf8 (s : String) : List UInt8 := s.toByteArray.data.toList

def unreserved (c : Char) : Bool := c.isAlphanum || c ∈ ['-', '_', '.', '~']

def pathCode (b : UInt8) : Option Char :=
  let c := Char.ofNat b.toNat
  if unreserved c || c ∈ ['$', '&', '+', ':', '=', '@'] then some c else none

def queryCode (b : UInt8) : Option Char :=
  let c := Char.ofNat b.toNat
  if c = ' ' then some '+' else if unreserved c then some c else none

def pathEscape (s : String) : List Char := Percent.escape pathCode (utf8 s)

def queryEscape (s : String) : List Char := Percent.escape queryCode (utf8 s)

-- The names between an opening brace and the first closing one after it; `name` is the one read so far.
def bracedNames : Option (List Char) → List Char → List String
  | _, [] => []
  | none, c :: rest => bracedNames (if c = '{' then some [] else none) rest
  | some name, c :: rest =>
      if c = '}' then String.ofList name :: bracedNames none rest
      else bracedNames (some (name ++ [c])) rest

def firsts : List String → List String :=
  List.foldl (fun seen name => if name ∈ seen then seen else seen ++ [name]) []

def unfilledPlaceholders (path : List Char) : List String :=
  firsts ((bracedNames none path).map fun name => String.ofList (Holes.braced name))

section BuildURL

variable {α : Type} (fmt : Format α)

-- The loop over the arguments.
def substitute (op : Endpoint) : List (String × Arg α) → List Char → Except Chain (List Char)
  | [], path => .ok path
  | (key, value) :: rest, path =>
      if Holes.braced key <:+: path then
        let s := fmt.value value
        if s = "" ∨ s = "." ∨ s = ".." then
          .error [.text <| s!"operation {op.id} (path {fmt.quote op.path}): path parameter " ++
            s!"{fmt.quote key} has invalid value {fmt.quote s}: empty and dot segments " ++
            "(\".\", \"..\") are not allowed"]
        else substitute op rest (Holes.replaceAll (Holes.braced key) (pathEscape s) path)
      else substitute op rest path

def trimSlash : List Char → List Char
  | '/' :: rest => rest
  | path => path

def buildURL (baseURL : String) (op : Endpoint) (args : List (String × Arg α)) :
    Except Chain String := do
  let path ← substitute fmt op args op.path.toList
  let missing := unfilledPlaceholders path
  if missing ≠ [] then
    .error [.text <| s!"operation {op.id} (path {fmt.quote op.path}): unfilled path parameters: " ++
      ", ".intercalate missing]
  else return baseURL ++ "/" ++ String.ofList (trimSlash path)

end BuildURL

/-- `url.Values.Encode`, with one value for a key. -/
def encodeValues (params : List (String × String)) : List Char :=
  let keys := (params.map Prod.fst).mergeSort fun a b => decide (a ≤ b)
  ['&'].intercalate (keys.map fun key =>
    queryEscape key ++ '=' :: queryEscape ((params.lookup key).getD ""))

structure Request where
  method : String
  url : String
  body : Option (List UInt8)
  headers : List (String × String)

structure Collected where
  queryParams : List (String × String)
  arrayQueryParts : List (List Char)
  bodyData : Option (List UInt8)

structure RequestLib (α : Type) where
  marshal : Arg α → Except Chain (List UInt8)
  newRequest : String → String → Option (List UInt8) → Option Chain
  version : String

section BuildRequest

variable {α : Type} (fmt : Format α)

/-- The elements of a list parameter, given as a slice or as text with commas. -/
def csvElements (val : Arg α) : List String :=
  let parts := match val with
    | .strings v => v
    | .slice v => v.map fmt.item
    | v => ((fmt.value v).toList.splitOn ',').map String.ofList
  (parts.map trimSpace).filter (· ≠ "")

def encodeCSVQueryParam (name : String) (val : Arg α) : List Char :=
  queryEscape name ++ '=' :: [','].intercalate ((csvElements fmt val).map queryEscape)

-- One turn of the loop over the parameters.
def collect (lib : RequestLib α) (args : List (String × Arg α)) (got : Collected)
    (param : Parameter) : Except Chain Collected :=
  if param.location = "query" then
    match args.lookup param.name with
    | none => .ok got
    | some val =>
        if param.type = "array" then
          .ok { got with
            arrayQueryParts := got.arrayQueryParts ++ [encodeCSVQueryParam fmt param.name val] }
        else
          .ok { got with queryParams := Assoc.put param.name (fmt.value val) got.queryParams }
  else if param.location = "body" then
    match args.lookup "body" with
    | none => .ok got
    | some (.text s) => .ok { got with bodyData := some (utf8 s) }
    | some v =>
        match lib.marshal v with
        | .error err => .error (.text "marshalling body" :: err)
        | .ok data => .ok { got with bodyData := some data }
  else .ok got

def queryString (got : Collected) : List Char :=
  let encoded := encodeValues got.queryParams
  if got.arrayQueryParts.length > 0 then
    let joined := ['&'].intercalate got.arrayQueryParts
    if encoded ≠ [] then encoded ++ '&' :: joined else joined
  else encoded

def buildRequest (lib : RequestLib α) (op : Endpoint) (reqURL : String)
    (args : List (String × Arg α)) : Except Chain Request := do
  let got ← op.parameters.foldlM (collect fmt lib args) ⟨[], [], none⟩
  let query := queryString got
  let url := if query ≠ [] then reqURL ++ "?" ++ String.ofList query else reqURL
  match lib.newRequest op.method url got.bodyData with
  | some err => .error err
  | none =>
      let content := if got.bodyData.isSome then [("Content-Type", "application/json")] else []
      return ⟨op.method, url, got.bodyData, content ++ [("Accept", "application/json"),
        ("User-Agent", "solace/broker-mcp-server/" ++ lib.version)]⟩

end BuildRequest

end BrokerMcp.Sempv2
