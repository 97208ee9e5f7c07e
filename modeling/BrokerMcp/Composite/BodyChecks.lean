import BrokerMcp.Composite.Executor

namespace BrokerMcp.Composite
open Resilience
open Text (quote)

inductive BodyMode where
  | create
  | update
  | replace
deriving DecidableEq

def startsWith (s start : String) : Bool := start.toList.isPrefixOf s.toList

def bodyModeFor (opID : String) : Option BodyMode :=
  if startsWith opID "create" then some .create
  else if startsWith opID "update" then some .update
  else if startsWith opID "replace" then some .replace
  else none

def foldRune (c : Char) : Char :=
  if c = '\u017F' then 's' else if c = '\u212A' then 'k' else c.toLower

/-- `strings.EqualFold` against an ASCII text: beside the two cases of a letter, `ſ` folds to `s` and the
Kelvin sign to `k`. -/
def equalFold (s t : String) : Bool := s.toList.map foldRune = t.toList.map foldRune

structure BodyCheck where
  fn : BodyMode → Object → Except Chain Unit
  secretFields : List String

def kafkaSecretFields : List String :=
  ["authenticationAwsMskIamSecretAccessKey", "authenticationBasicPassword",
    "authenticationClientCertContent", "authenticationClientCertPassword",
    "authenticationKerberosKeytabContent", "authenticationOauthClientSecret",
    "authenticationScramPassword"]

def msgVpnSecretFields : List String :=
  ["replicationBridgeAuthenticationBasicPassword",
    "replicationBridgeAuthenticationClientCertContent",
    "replicationBridgeAuthenticationClientCertPassword"]

def kafkaRetargetFields : List String :=
  ["bootstrapAddressList", "authenticationOauthClientTokenEndpoint"]

def hasKey (body : Object) (field : String) : Bool := body.any fun entry => equalFold entry.1 field

def retargets (field : String) : Chain :=
  [.text (s!"{quote field} cannot be changed on an existing Kafka bridge: the broker would send " ++
    "the bridge's stored credentials to the new address. To point a bridge elsewhere, delete its " ++
    "bindings and the bridge, then create it again; the new bridge's secret is then set out of band.")]

def unencrypted : Chain :=
  [.text ("\"transportTlsEnabled\" cannot be turned off on an existing Kafka bridge: its stored " ++
    "credentials would then be sent unencrypted. To change it, delete the bridge and create it again.")]

def isFalse : Value → Bool
  | .bool b => !b
  | _ => false

def rejectKafkaRetarget (mode : BodyMode) (body : Object) : Except Chain Unit :=
  if mode = .create then .ok ()
  else
    match kafkaRetargetFields.find? (hasKey body) with
    | some field => .error (retargets field)
    | none =>
        if body.any fun entry => equalFold entry.1 "transportTlsEnabled" && isFalse entry.2 then
          .error unencrypted
        else .ok ()

def isSecret (secret afterHint : String) : Chain :=
  let hint := if afterHint ≠ "" then " " ++ afterHint else ""
  [.text (s!"{quote secret} is a secret and cannot be sent through this tool. Set it yourself " ++
    "(Broker Manager, CLI, SEMP or Terraform) and never paste it into this chat." ++ hint ++
    " If you already shared a secret in this conversation, treat it as exposed and rotate it.")]

def rejectSecretFields (fields : List String) (afterHint : String) (_mode : BodyMode)
    (body : Object) : Except Chain Unit :=
  match (fields.mergeSort fun a b => decide (a ≤ b)).find? (hasKey body) with
  | some secret => .error (isSecret secret afterHint)
  | none => .ok ()

def mustBeDisabled : BodyMode → Chain
  | .create => [.text ("A bridge with a non-none authenticationScheme must be created with " ++
      "enabled:false. Set its secret out of band, then enable it with the update tool.")]
  | .replace => [.text ("A bridge replaced with a non-none authenticationScheme must set " ++
      "enabled:false (an omitted enabled also means false). Set its secret out of band, then enable " ++
      "it with an update.")]
  | .update => [.text ("Changing authenticationScheme to a non-none value must also set " ++
      "enabled:false, so the bridge stays down until its new secret is set out of band. Enable it " ++
      "with a separate update afterwards.")]

def checkAuthenticatedBridgeIsDisabled (mode : BodyMode) (body : Object) : Except Chain Unit :=
  match body.lookup "authenticationScheme" with
  | none => .ok ()
  | some (.str scheme) =>
      if scheme = "" ∨ scheme = "none" then .ok ()
      else
        match body.lookup "enabled" with
        | none => if mode = .update then .error (mustBeDisabled mode) else .ok ()
        | some (.bool enabled) => if enabled then .error (mustBeDisabled mode) else .ok ()
        | some _ => .error [.text "enabled must be true or false (a boolean)."]
  | some _ =>
      .error [.text "authenticationScheme must be a string (for example \"none\" or \"basic\")."]

def bodyChecks : List (String × BodyCheck) :=
  [("rejectKafkaSecrets", ⟨rejectSecretFields kafkaSecretFields
      "Then ask me to enable the bridge.", kafkaSecretFields⟩),
    ("rejectMsgVpnSecrets", ⟨rejectSecretFields msgVpnSecretFields
      "Replication bridge credentials are configured out of band.", msgVpnSecretFields⟩),
    ("createDisabledWhenAuthenticated", ⟨checkAuthenticatedBridgeIsDisabled, []⟩),
    ("rejectKafkaRetarget", ⟨rejectKafkaRetarget, []⟩)]

def runCheck (mode : BodyMode) (body : Object) (name : String) : Except Chain Unit :=
  match bodyChecks.lookup name with
  | none => .error [.text s!"unknown body check {quote name}"]
  | some check => check.fn mode body

def runBodyChecks (names : List String) (opID : String) (body : Object) : Except Chain Unit :=
  if names = [] then .ok ()
  else
    match bodyModeFor opID with
    | none =>
        .error [.text (s!"body checks configured on operation {quote opID}, which is not a create, " ++
          "update or replace")]
    | some mode => names.forM (runCheck mode body)

def validateBodyChecks (step : Step) : Except String Unit :=
  if step.bodyChecks = [] then .ok ()
  else if !startsWith step.operation "config/" ||
      (bodyModeFor (String.ofList (step.operation.toList.drop "config/".length))).isNone then
    .error (s!"step {step.id}: bodyChecks require a config/create*, config/update* or " ++
      s!"config/replace* operation, got {quote step.operation}")
  else
    match step.bodyChecks.find? fun name => (bodyChecks.lookup name).isNone with
    | some name => .error s!"step {step.id}: unknown bodyCheck {quote name}"
    | none => .ok ()

def Host.checked (host : Host) : Host := { host with bodyChecks := runBodyChecks }

end BrokerMcp.Composite
