import BrokerMcp.Sempv1.Request

namespace BrokerMcp.Proof.Sempv1
open BrokerMcp.Sempv1 Xml
open Text (trimSpace trimSpace_of_ends)

def carried (name : String) : List Char := name.toList.map legal

def field (name : String) (content : List Char) : List Token :=
  .opening name.toList :: flush content ++ [.closing name.toList]

def element (name : String) (inner : List Token) : List Token :=
  .opening name.toList :: inner ++ [.closing name.toList]

def request (inner : List Token) : List Token := element "rpc" (element "show" inner)

def elements : Command → List Token
  | .version => request [.empty "version".toList]
  | .system => request [.empty "system".toList]
  | .memory => request [.empty "memory".toList]
  | .spool => request (element "message-spool" [.empty "detail".toList])
  | .hardware => request (element "hardware" [.empty "details".toList])
  | .redundancy => request [.empty "redundancy".toList]
  | .statsClient => request (element "stats" [.empty "client".toList])
  | .spoolStats => request (element "message-spool" [.empty "stats".toList])
  | .vpnStats vpnName =>
      request (element "message-vpn" (field "vpn-name" (carried vpnName) ++ [.empty "stats".toList]))
  | .queueDetail msgVpnName queueName =>
      request (element "queue" (field "name" (carried queueName) ++
        field "vpn-name" (carried msgVpnName) ++ [.empty "detail".toList]))

def printed : Command → List Token
  | .vpnStats vpnName => request (element "message-vpn"
      ([.opening "vpn-name".toList, .text vpnName.toList, .closing "vpn-name".toList] ++
        [.empty "stats".toList]))
  | .queueDetail msgVpnName queueName => request (element "queue"
      ([.opening "name".toList, .text queueName.toList, .closing "name".toList] ++
        [.opening "vpn-name".toList, .text msgVpnName.toList, .closing "vpn-name".toList] ++
        [.empty "detail".toList]))
  | c => elements c

theorem toList_escape (s : String) : (escape s).toList = escapeText s.toList :=
  String.toList_ofList

theorem xml_printed (c : Command) : c.xml.toList = print (printed c) := by
  cases c with
  | vpnStats vpnName =>
      unfold Command.xml vpnStatsXML
      simp [toList_escape, printed, request, element, print, Token.print]
  | queueDetail msgVpnName queueName =>
      unfold Command.xml sempv1DetailXML
      simp [toList_escape, printed, request, element, print, Token.print]
  | version | system | memory | spool | hardware | redundancy | statsClient | spoolStats =>
      unfold Command.xml
      simp [versionXML, systemXML, memoryXML, spoolXML, hardwareXML, redundancyXML, statsClientXML,
        spoolStatsXML, printed, elements, request, element, print, Token.print]

theorem named_printed (c : Command) : ∀ token ∈ printed c, token.named = true := by
  cases c <;> simp [printed, elements, request, element, Token.named, isName]

theorem readBack_printed (c : Command) : readBack [] (printed c) = elements c := by
  cases c <;> simp [printed, elements, request, element, field, readBack, flush, carried]

theorem balanced_flush (opened : List (List Char)) (content : List Char) (rest : List Token) :
    balanced opened (flush content ++ rest) = balanced opened rest := by
  unfold flush
  split_ifs
  · rfl
  · cases opened <;> rfl

theorem balanced_elements (c : Command) : balanced [] (elements c) = true := by
  cases c <;> simp [elements, request, element, field, balanced, balanced_flush]

theorem size_of_shape {s : String} {front back : List Char}
    (shape : s.toList = front ++ back) : front.length ≤ s.utf8ByteSize := by
  have split : s = String.ofList front ++ String.ofList back := by
    rw [← String.ofList_append, ← shape, String.ofList_toList]
  have each : ∀ chars : List Char, chars.length ≤ (String.ofList chars).utf8ByteSize := by
    intro chars
    induction chars with
    | nil => simp
    | cons c chars ih =>
        rw [String.ofList_cons, String.utf8ByteSize_append, String.utf8ByteSize_singleton,
          List.length_cons]
        have positive := c.utf8Size_pos
        omega
  rw [split, String.utf8ByteSize_append]
  exact Nat.le_add_right_of_le (each front)

theorem isShowCommand_of_shape {s : String} {inner : List Char}
    (shape : s.toList = "<rpc><show>".toList ++ inner ++ ['>']) : isShowCommand s = true := by
  have front : "<rpc><show>".toList =
      ['<', 'r', 'p', 'c', '>', '<', 's', 'h', 'o', 'w', '>'] := by simp
  rw [front] at shape
  obtain ⟨rest, after⟩ : ∃ rest : String,
      rest.toList = ['<', 's', 'h', 'o', 'w', '>'] ++ inner ++ ['>'] := ⟨_, String.toList_ofList⟩
  have whole : trimSpace s = s := by
    refine trimSpace_of_ends '<' '>' (['r', 'p', 'c', '>', '<', 's', 'h', 'o', 'w', '>'] ++ inner)
      ?_ ?_ ?_
    · simp [shape]
    · decide
    · decide
  have trimmed : trimSpace rest = rest := by
    refine trimSpace_of_ends '<' '>' (['s', 'h', 'o', 'w', '>'] ++ inner) ?_ ?_ ?_
    · simp [after]
    · decide
    · decide
  have long : ¬ s.utf8ByteSize < 6 := by
    have size := size_of_shape (shape.trans (List.append_assoc _ _ _))
    simp only [List.length_cons, List.length_nil] at size
    omega
  have longer : ¬ rest.utf8ByteSize < 6 := by
    have size := size_of_shape (after.trans (List.append_assoc _ _ _))
    simp only [List.length_cons, List.length_nil] at size
    omega
  have tail : String.ofList (['<', 's', 'h', 'o', 'w', '>'] ++ inner ++ ['>']) = rest := by
    rw [← after, String.ofList_toList]
  simp only [List.cons_append, List.nil_append] at tail
  simp [isShowCommand, whole, shape, long, tail, trimmed, longer, after]

theorem isShowCommand_xml (c : Command) : isShowCommand c.xml = true := by
  have shaped : ∀ inner : List Token, printed c = request inner →
      ∃ chars, c.xml.toList = "<rpc><show>".toList ++ chars ++ ['>'] := by
    intro inner same
    refine ⟨print inner ++ "</show></rpc".toList, ?_⟩
    rw [xml_printed, same]
    simp [request, element, print, Token.print]
  obtain ⟨inner, same⟩ : ∃ inner, printed c = request inner := by
    cases c <;> exact ⟨_, rfl⟩
  obtain ⟨chars, shape⟩ := shaped inner same
  exact isShowCommand_of_shape shape

def scrub (name : String) : String := String.ofList (carried name)

def scrubbed : Command → Command
  | .vpnStats vpnName => .vpnStats (scrub vpnName)
  | .queueDetail msgVpnName queueName => .queueDetail (scrub msgVpnName) (scrub queueName)
  | c => c

theorem escape_scrub (name : String) : escape (scrub name) = escape name := by
  rw [escape, scrub, String.toList_ofList, carried, escapeText_map_legal]
  rfl

theorem xml_scrubbed (c : Command) : (scrubbed c).xml = c.xml := by
  cases c with
  | vpnStats vpnName =>
      show vpnStatsXML (scrub vpnName) = vpnStatsXML vpnName
      unfold vpnStatsXML
      rw [escape_scrub]
  | queueDetail msgVpnName queueName =>
      show sempv1DetailXML (scrub msgVpnName) (scrub queueName) =
        sempv1DetailXML msgVpnName queueName
      unfold sempv1DetailXML
      rw [escape_scrub, escape_scrub]
  | _ => rfl

theorem flush_injective {content content' : List Char} (same : flush content = flush content') :
    content = content' := by
  unfold flush at same
  split_ifs at same with one other
  · rw [one, other]
  · simpa using same

theorem flush_closing {content content' : List Char} {name : List Char} {rest rest' : List Token}
    (same : flush content ++ .closing name :: rest = flush content' ++ .closing name :: rest') :
    content = content' ∧ rest = rest' := by
  unfold flush at same
  split_ifs at same with one other
  · rw [one, other]
    exact ⟨rfl, by simpa using same⟩
  · simp at same
  · simp at same
  · simpa using same

theorem scrubbed_of_elements {c c' : Command} (same : elements c = elements c') :
    scrubbed c = scrubbed c' := by
  -- two commands of different kinds differ in an element
  cases c <;> cases c' <;> simp [elements, request, element, field] at same ⊢
  case vpnStats.vpnStats vpnName vpnName' =>
      simp only [scrubbed, scrub, flush_injective same]
  case queueDetail.queueDetail msgVpnName queueName msgVpnName' queueName' =>
      obtain ⟨queue, later⟩ := flush_closing same
      obtain ⟨vpn, -⟩ := flush_closing (List.cons.inj later).2
      simp only [scrubbed, scrub, queue, vpn]

structure ReadsAs (c : Command) : Prop where
  document : document c.xml.toList = some (elements c)
  balanced : balanced [] (elements c) = true
  readOnly : isShowCommand c.xml = true
  distinct : ∀ c', c.xml = c'.xml ↔ scrubbed c = scrubbed c'

theorem document_xml (c : Command) : document c.xml.toList = some (elements c) := by
  rw [document, xml_printed, read_print [] (printed c) (named_printed c), readBack_printed]

theorem commands_read_back (c : Command) : ReadsAs c := by
  refine ⟨document_xml c, balanced_elements c, isShowCommand_xml c, ?_⟩
  intro c'
  constructor
  · intro same
    have both := document_xml c
    rw [same, document_xml c'] at both
    exact (scrubbed_of_elements (Option.some.inj both)).symm
  · intro same
    rw [← xml_scrubbed c, same, xml_scrubbed]

end BrokerMcp.Proof.Sempv1
