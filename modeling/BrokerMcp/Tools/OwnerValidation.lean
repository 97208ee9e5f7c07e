import BrokerMcp.Composite.Executor
import BrokerMcp.Tools.DesiredState

/-!
# Checking an owner before it is written

`ownerValidatingHandler`, wrapped around a composite tool of one step, which is what every write tool
is. `extractOwner` and `constructRequestBody` each walk over the parameters in an order of their own,
so both orders are inputs. `handle` is the list of the calls it makes.
-/

namespace BrokerMcp.Tools
open Resilience BrokerMcp.Composite

structure OwnerValidationSpec where
  configParam : String
  objectKind : String
  isUpdate : Bool

def ownerIn (fields : Object) : Option String := (fields.str? "owner").filter fun o => o ≠ ""

def scanOwner (configParam : String) : Object → Option String
  | [] => none
  | (name, val) :: rest =>
      if name = configParam then scanOwner configParam rest
      else
        match (val.obj?).bind ownerIn with
        | some o => some o
        | none => scanOwner configParam rest

def msgVpnOf (params : Object) : String := (params.str? "msgVpnName").getD ""

/-- `extractOwner`: the owner and the Message VPN, or `none` if no owner was supplied. -/
def extractOwner (params : Object) (configParam : String) : Option (String × String) :=
  let owner :=
    ((params.obj? configParam).bind ownerIn) <|> ownerIn params <|> scanOwner configParam params
  owner.map fun o => (o, msgVpnOf params)

inductive Read where
  | clientUsername (msgVpn owner : String)
  | msgVpn (msgVpn : String)
deriving DecidableEq

inductive ClientCall where
  | read (request : Read) (reply : Except Chain Object)
  | write (op : Operation) (args : Object)

def notFound (err : Chain) : Bool := hasSEMPStatus err "NOT_FOUND" 6

def stripBroker (params : Object) : Object := Assoc.drop "broker" params

def writeCall (ce : CompositeExecutor) (host : Host) (step : Step) (params : Object) : List ClientCall :=
  match prepare ce host step ⟨stripBroker params, [], none⟩ with
  | .ok (op, args) => [.write op args]
  | .error _ => []

/-- `Handle`, for the orders `scanned` in which `extractOwner` and `built` in which
`constructRequestBody` walks over the parameters. -/
def handle (ce : CompositeExecutor) (host : Host) (step : Step) (spec : OwnerValidationSpec)
    (replies : Read → Except Chain Object) (scanned built : Object) : List ClientCall :=
  let inner := writeCall ce host step built
  match extractOwner scanned spec.configParam with
  | none => inner
  | some (owner, msgVpn) =>
      let username := ClientCall.read (.clientUsername msgVpn owner) (replies (.clientUsername msgVpn owner))
      match replies (.clientUsername msgVpn owner) with
      | .ok _ => username :: inner
      | .error err =>
          if !notFound err then [username]
          else
            let vpn := ClientCall.read (.msgVpn msgVpn) (replies (.msgVpn msgVpn))
            match replies (.msgVpn msgVpn) with
            | .ok _ => [username, vpn]
            | .error err => if notFound err then username :: vpn :: inner else [username, vpn]

end BrokerMcp.Tools
