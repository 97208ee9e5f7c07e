import Mathlib.Data.List.Sort
import Mathlib.Data.String.Basic
import BrokerMcp.Composite.Definition

/-!
# Tool authorization

The way of the groups claim from the token to the two places that decide on it: `Claims` and
`buildTokenInfo` (`internal/auth`), `NewPolicy` and `Authorize` (`internal/authz`),
`withAuthorization`, `RegisterWithServer` and `WithListFiltering` (`internal/tools`). A Go map is the
list of its entries in the order of one iteration. The log and audit records are left out.
-/

namespace BrokerMcp.Tools
open BrokerMcp.Composite
open Text (quote trimSpace)

/-! ## The configuration -/

structure ToolAuthorizationConfig where
  enabled : Option Bool
  filterToolsList : Option Bool
  groupsClaimName : String
  accessLevelGroups : List (String × List String)

structure MCPClientAuth where
  mode : String
  toolAuthorization : Option ToolAuthorizationConfig

def toolAuthorizationEnabled (cfg : MCPClientAuth) : Bool :=
  if cfg.mode ≠ "oauth" then false
  else
    match cfg.toolAuthorization with
    | none => false
    | some block => block.enabled.getD false

def filterToolsListEnabled (cfg : Option ToolAuthorizationConfig) : Bool :=
  match cfg with
  | none => false
  | some block => block.filterToolsList.getD false

/-! ## The claims of a token -/

abbrev Claims := Object

def errMalformedClaims : String := "invalid token: malformed claims"

def errNoSubject : String := "invalid token: token has no subject"

def jsonKind : Value → String
  | .null => "null"
  | .bool _ => "bool"
  | .float _ | .int _ => "number"
  | .str _ => "string"
  | .arr _ => "array"
  | .obj _ => "object"

def Claims.string (claims : Claims) (key : String) : Except String String :=
  match claims.lookup key with
  | none | some .null => .ok ""
  | some (.str s) => .ok s
  | some v => .error (s!"{errMalformedClaims}: claim {quote key} has unexpected type: json: cannot " ++
      s!"unmarshal {jsonKind v} into Go value of type string")

def groupsSoftCap : Nat := 250

def addGroup (result : List String) (elem : Value) : List String :=
  match elem with
  | .str s => if result.length < groupsSoftCap then result ++ [s] else result
  | _ => result

def resolveGroupsValue : Value → Option (List String)
  | .str s => if s = "" then none else some [s]
  | .arr elems =>
      if elems = [] then some []
      else
        let result := elems.foldl addGroup []
        if result = [] then none else some result
  | _ => none

inductive ExtraValue where
  | string (s : String)
  | strings (l : List String)

structure TokenInfo where
  userID : String
  scopes : List String
  expiration : Int
  extra : List (String × ExtraValue)

def tokenInfoExtraKeyGroups : String := "groups"

/-- The groups that `buildTokenInfo` puts beside the identity claims. -/
def extraGroups (cfg : MCPClientAuth) (claims : Claims) : List (String × ExtraValue) :=
  match cfg.toolAuthorization with
  | none => []
  | some block =>
      if toolAuthorizationEnabled cfg then
        match (claims.lookup block.groupsClaimName).bind resolveGroupsValue with
        | some groups => [(tokenInfoExtraKeyGroups, .strings groups)]
        | none => []
      else []

def buildTokenInfo (cfg : MCPClientAuth) (claims : Claims) (expiry : Int) : Except String TokenInfo := do
  let sub ← claims.string "sub"
  if trimSpace sub = "" then .error errNoSubject
  else do
    let scopeStr ← claims.string "scope"
    let scopes := if scopeStr ≠ "" then scopeStr.splitOn " " else []
    let iss ← claims.string "iss"
    let clientID ← claims.string "client_id"
    let jti ← claims.string "jti"
    return ⟨sub, scopes, expiry,
      [("iss", .string iss), ("client_id", .string clientID), ("jti", .string jti)] ++
        extraGroups cfg claims⟩

/-! ## The policy -/

structure Policy where
  toolGrantors : List (String × List String)

def Policy.grantors (p : Policy) (tool : String) : List String := (p.toolGrantors.lookup tool).getD []

def Policy.grant (p : Policy) (groupName tool : String) : Policy :=
  ⟨Assoc.put tool ((p.grantors tool).insert groupName) p.toolGrantors⟩

def addTools (groupName : String) : (tools toolSeen : List String) → Policy → Policy
  | [], _, p => p
  | tool :: tools, toolSeen, p =>
      if tool ∈ toolSeen then addTools groupName tools toolSeen p
      else addTools groupName tools (tool :: toolSeen) (p.grant groupName tool)

def newPolicy (accessLevelGroups : List (String × List String)) : Policy :=
  accessLevelGroups.foldl (fun p group => addTools group.1 group.2 [] p) ⟨[]⟩

structure Decision where
  allowed : Bool
  matchedGroups : List String
deriving DecidableEq

def matchGroups (grantors : List String) : (groups seen matched : List String) → List String
  | [], _, found => found
  | g :: groups, seen, found =>
      if g ∈ seen then matchGroups grantors groups seen found
      else matchGroups grantors groups (g :: seen) (if g ∈ grantors then found ++ [g] else found)

def Policy.authorize (p : Policy) (groups : List String) (toolName : String) : Decision :=
  match p.toolGrantors.lookup toolName with
  | none => ⟨false, []⟩
  | some grantors =>
      let found := matchGroups grantors groups [] []
      if found = [] then ⟨false, []⟩ else ⟨true, found.insertionSort (· ≤ ·)⟩

def buildToolPolicy (cfg : MCPClientAuth) : Option Policy :=
  match cfg.toolAuthorization with
  | none => none
  | some block =>
      if toolAuthorizationEnabled cfg then some (newPolicy block.accessLevelGroups) else none

/-! ## Calling a tool -/

def isExemptFromToolAuthorization (toolName : String) : Bool :=
  toolName = "list-brokers" || toolName = "describe-semp-schema"

def extraStringSlice (t : Option TokenInfo) (key : String) : Option (List String) :=
  match t.bind fun info => info.extra.lookup key with
  | some (.strings l) => some l
  | _ => none

def requestGroups (info : Option TokenInfo) : Option (List String) :=
  extraStringSlice info tokenInfoExtraKeyGroups

structure CallToolResult where
  structuredContent : Object
  content : List String
  isError : Bool

def authzErrorResult (message : String) : CallToolResult :=
  ⟨[("error", .str message), ("retryable", .bool false)], [message], true⟩

def authzDeniedMessage : String := "You are not authorized to use this tool."

def authzMissingClaimMessage : String := "You are not authorized to use this tool."

inductive DenyReason where
  | missingClaim
  | notPermitted

inductive Reply (ρ : Type) where
  | dispatched (result : ρ)
  | denied (result : CallToolResult) (reason : DenyReason)

structure Request (α : Type) where
  tokenInfo : Option TokenInfo
  params : α

section server

variable {α ρ : Type}

def withAuthorization (policy : Policy) (toolName : String) (next : Request α → Reply ρ)
    (req : Request α) : Reply ρ :=
  match requestGroups req.tokenInfo with
  | none => .denied (authzErrorResult authzMissingClaimMessage) .missingClaim
  | some groups =>
      if !(policy.authorize groups toolName).allowed then
        .denied (authzErrorResult authzDeniedMessage) .notPermitted
      else next req

structure ToolHandler (α ρ : Type) where
  name : String
  readOnly : Bool
  handle : Request α → ρ

def gated (policy : Option Policy) (reg : ToolHandler α ρ) : Request α → Reply ρ :=
  let callToolHandler (req : Request α) : Reply ρ := .dispatched (reg.handle req)
  match policy with
  | none => callToolHandler
  | some policy =>
      if isExemptFromToolAuthorization reg.name then callToolHandler
      else withAuthorization policy reg.name callToolHandler

abbrev Server (α ρ : Type) := List (String × (Request α → Reply ρ))

def registerWithServer (handlers : List (ToolHandler α ρ)) (enableWriteTools : Bool)
    (policy : Option Policy) : Server α ρ :=
  let regs := handlers.insertionSort fun a b => a.name ≤ b.name
  let regs := regs.filter fun reg => reg.readOnly || enableWriteTools
  regs.foldl (fun server reg => Assoc.put reg.name (gated policy reg) server) []

/-- `tools/call`, which the SDK resolves by name among all tools of the server. -/
def Server.callTool (server : Server α ρ) (name : String) (req : Request α) : Option (Reply ρ) :=
  (server.lookup name).map fun handler => handler req

/-! ## Listing the tools -/

structure Tool where
  name : String
  description : String

/-- The loop of `WithListFiltering`. A nil tool is only counted. -/
def keepTools (policy : Policy) (groups : Option (List String)) : List (Option Tool) → List Tool
  | [] => []
  | none :: tools => keepTools policy groups tools
  | some t :: tools =>
      if isExemptFromToolAuthorization t.name then t :: keepTools policy groups tools
      else
        match groups with
        | none => keepTools policy groups tools
        | some present =>
            if (policy.authorize present t.name).allowed then t :: keepTools policy groups tools
            else keepTools policy groups tools

inductive McpResult (ω : Type) where
  | listTools (tools : List (Option Tool)) (nextCursor : String)
  | other (value : ω)

def methodToolsList : String := "tools/list"

def withListFiltering {ω ε : Type} (policy : Policy)
    (next : String → Request α → Except ε (McpResult ω)) (method : String) (req : Request α) :
    Except ε (McpResult ω) :=
  match next method req with
  | .ok (.listTools tools nextCursor) =>
      if method ≠ methodToolsList then .ok (.listTools tools nextCursor)
      else
        .ok (.listTools ((keepTools policy (requestGroups req.tokenInfo) tools).map some) nextCursor)
  | res => res

def installToolListFiltering {ω ε : Type} (cfg : MCPClientAuth) (policy : Option Policy)
    (next : String → Request α → Except ε (McpResult ω)) : String → Request α → Except ε (McpResult ω) :=
  match policy with
  | none => next
  | some policy =>
      if !filterToolsListEnabled cfg.toolAuthorization then next else withListFiltering policy next

end server

end BrokerMcp.Tools
