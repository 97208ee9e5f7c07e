import BrokerMcp.Composite.Definition
import BrokerMcp.Library.Xml

namespace BrokerMcp.Sempv1
open Text (trimSpace)

def escape (s : String) : String := String.ofList (Xml.escapeText s.toList)

def versionXML : String := "<rpc><show><version/></show></rpc>"

def systemXML : String := "<rpc><show><system/></show></rpc>"

def memoryXML : String := "<rpc><show><memory/></show></rpc>"

def spoolXML : String := "<rpc><show><message-spool><detail/></message-spool></show></rpc>"

def hardwareXML : String := "<rpc><show><hardware><details/></hardware></show></rpc>"

def redundancyXML : String := "<rpc><show><redundancy/></show></rpc>"

def statsClientXML : String := "<rpc><show><stats><client/></stats></show></rpc>"

def spoolStatsXML : String := "<rpc><show><message-spool><stats/></message-spool></show></rpc>"

def vpnStatsXML (vpnName : String) : String :=
  "<rpc><show><message-vpn><vpn-name>" ++ escape vpnName ++
    "</vpn-name><stats/></message-vpn></show></rpc>"

def sempv1DetailXML (msgVpnName queueName : String) : String :=
  "<rpc><show><queue><name>" ++ escape queueName ++ "</name><vpn-name>" ++ escape msgVpnName ++
    "</vpn-name><detail/></queue></show></rpc>"

inductive Command where
  | version
  | system
  | memory
  | spool
  | hardware
  | redundancy
  | statsClient
  | spoolStats
  | vpnStats (vpnName : String)
  | queueDetail (msgVpnName queueName : String)
deriving DecidableEq

def Command.xml : Command → String
  | .version => versionXML
  | .system => systemXML
  | .memory => memoryXML
  | .spool => spoolXML
  | .hardware => hardwareXML
  | .redundancy => redundancyXML
  | .statsClient => statsClientXML
  | .spoolStats => spoolStatsXML
  | .vpnStats vpnName => vpnStatsXML vpnName
  | .queueDetail msgVpnName queueName => sempv1DetailXML msgVpnName queueName

def isShowCommand (xml : String) : Bool :=
  let s := trimSpace xml
  if !"<rpc".toList.isPrefixOf s.toList || s.utf8ByteSize < 6 then false
  else if !s.toList[4]?.any (· ∈ ['>', ' ', '\t', '\n', '\r']) then false
  else
    match s.toList.dropWhile (· ≠ '>') with
    | [] => false
    | _ :: after =>
        let rest := trimSpace (String.ofList after)
        if !"<show".toList.isPrefixOf rest.toList || rest.utf8ByteSize < 6 then false
        else rest.toList[5]?.any (· ∈ ['>', '/', ' ', '\t', '\n', '\r'])

end BrokerMcp.Sempv1
