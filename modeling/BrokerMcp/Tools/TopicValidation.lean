import BrokerMcp.Composite.Definition
import BrokerMcp.Library.Scan

namespace BrokerMcp.Tools
open BrokerMcp.Composite
open Text (quote)

def htmlEntityValidatedTools : List (String × String) :=
  [("create-queue-subscription", "subscriptionTopic")]

def entityNames : List (List Char) :=
  ["amp".toList, "lt".toList, "gt".toList, "quot".toList, "AMP".toList, "LT".toList, "GT".toList,
    "QUOT".toList]

def decimalReferences : List (List Char) :=
  ["38".toList, "60".toList, "62".toList, "34".toList, "39".toList]

def hexReferences : List (List Char) :=
  ["26".toList, "3c".toList, "3C".toList, "3e".toList, "3E".toList, "22".toList, "27".toList]

def isDecimalDigit (c : Char) : Bool := '0' ≤ c && c ≤ '9'

def isHexDigit (c : Char) : Bool :=
  isDecimalDigit c || ('a' ≤ c && c ≤ 'f') || ('A' ≤ c && c ≤ 'F')

def htmlEntityNamed : List Char → Option (List Char)
  | '&' :: rest =>
      match entityNames.find? fun name => name.isPrefixOf rest with
      | some name =>
          let semicolon := if (rest.drop name.length).head? = some ';' then [';'] else []
          some ('&' :: name ++ semicolon)
      | none => if "apos;".toList.isPrefixOf rest then some "&apos;".toList else none
  | _ => none

/-- Zeros, one of the references, and then no further digit. -/
def reference (references : List (List Char)) (isDigit : Char → Bool) (digits : List Char) :
    Option (List Char) :=
  let zeros := digits.takeWhile fun c => c = '0'
  let rest := digits.dropWhile fun c => c = '0'
  match references.find? fun r => r.isPrefixOf rest with
  | some r => if (rest.drop r.length).head?.any isDigit then none else some (zeros ++ r)
  | none => none

/-- What the group of the pattern matches at the start of a text, without the terminator. -/
def htmlEntityNumeric : List Char → Option (List Char)
  | '&' :: '#' :: 'x' :: rest =>
      (reference hexReferences isHexDigit rest).map fun digits => '&' :: '#' :: 'x' :: digits
  | '&' :: '#' :: 'X' :: rest =>
      (reference hexReferences isHexDigit rest).map fun digits => '&' :: '#' :: 'X' :: digits
  | '&' :: '#' :: rest =>
      (reference decimalReferences isDecimalDigit rest).map fun digits => '&' :: '#' :: digits
  | _ => none

def findHTMLEntity (value : String) : String :=
  match Scan.find htmlEntityNamed value.toList, Scan.find htmlEntityNumeric value.toList with
  | none, none => ""
  | none, some (_, numMatched) => String.ofList numMatched
  | some (_, named), none => String.ofList named
  | some (namedStart, named), some (numStart, numMatched) =>
      if namedStart ≤ numStart then String.ofList named else String.ofList numMatched

def unescapeLoop (unescapeString : String → String) : Nat → String → String
  | 0, s => s
  | fuel + 1, s =>
      if unescapeString s = s then s else unescapeLoop unescapeString fuel (unescapeString s)

/-- A turn that changes the value makes it shorter, so that its length bounds the turns. -/
def fullyUnescapeHTML (unescapeString : String → String) (s : String) : String :=
  unescapeLoop unescapeString s.length s

structure HtmlEntityTopicError where
  tool : String
  param : String
  value : String
  matched : String
  literal : String
  fullyDecoded : String

def HtmlEntityTopicError.message (e : HtmlEntityTopicError) : String :=
  e.param ++ " " ++ quote e.value ++ " was rejected: it contains " ++ quote e.matched ++
    ", which looks like an HTML-escaped " ++ quote e.literal ++
    " rather than the literal character. This call was not sent to the broker. Pass " ++
    quote e.fullyDecoded ++ " — the fully HTML-unescaped topic — and call " ++ e.tool ++ " again."

def validateHTMLEntityTopic (unescapeString : String → String) (toolName : String)
    (params : Object) : Option HtmlEntityTopicError := do
  let param ← htmlEntityValidatedTools.lookup toolName
  let value ← params.str? param
  let entity := findHTMLEntity value
  if entity = "" then none
  else
    some
      { tool := toolName, param := param, value := value, matched := entity
        literal := unescapeString entity, fullyDecoded := fullyUnescapeHTML unescapeString value }

end BrokerMcp.Tools
