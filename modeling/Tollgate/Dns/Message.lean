import Tollgate.Dns.Name
import Tollgate.Net.Address

/-!
# DNS messages

A message is a header, four sections and at most one EDNS record, which is kept apart from the
additional section. Record data is kept as it came, apart from the names in it, which may be
compressed anew, and the options of EDNS records.
-/

namespace Tollgate.Dns

/-! ## Codes -/

/-! Record types that are treated in a way of their own. -/

namespace RecordType

def a : Nat := 1
def nameServer : Nat := 2
def canonicalName : Nat := 5
def startOfAuthority : Nat := 6
def null : Nat := 10
def pointer : Nat := 12
def hostInfo : Nat := 13
def mailExchange : Nat := 15
def text : Nat := 16
def aaaa : Nat := 28
def service : Nat := 33
def namingPointer : Nat := 35
def certificate : Nat := 37
def edns : Nat := 41
def sshFingerprint : Nat := 44
def tlsAssociation : Nat := 52
def childSync : Nat := 62
def serviceBinding : Nat := 64
def httpsBinding : Nat := 65
def incrementalTransfer : Nat := 251
def transfer : Nat := 252
def any : Nat := 255
def authorityAuthorization : Nat := 257
def apexAlias : Nat := 65305

end RecordType

/-! Codes of EDNS options. -/

namespace OptionCode

def clientSubnet : Nat := 8
def padding : Nat := 12

end OptionCode

/-! Keys of service parameters. -/

namespace ServiceKey

def mandatory : Nat := 0
def protocols : Nat := 1
def noDefaultProtocol : Nat := 2
def port : Nat := 3
def ipv4Hint : Nat := 4
def ipv6Hint : Nat := 6
def dohPath : Nat := 7

end ServiceKey

/-! Response codes that the gateway itself gives. -/

namespace ResponseCode

def noError : Nat := 0
def noSuchName : Nat := 3

end ResponseCode

/-! ## Parts of a message -/

/-- A client's network as an EDNS option: the address, how much of it is meant, and for how much of
it an answer holds. -/
structure ClientSubnet where
  address : Address
  sourceBits : Nat
  scopeBits : Nat
  deriving DecidableEq, Repr

inductive EdnsOption where
  | clientSubnet (subnet : ClientSubnet)
  | other (code : Nat) (data : Octets)
  deriving DecidableEq, Repr

namespace EdnsOption

def code : EdnsOption → Nat
  | .clientSubnet _ => OptionCode.clientSubnet
  | .other code _ => code

end EdnsOption

/-- The EDNS record of a message. The high bits of the response code live in the header. -/
structure Edns where
  /-- The largest datagram that the sender takes. -/
  maxPayload : Nat
  version : Nat
  flags : Nat
  options : List EdnsOption
  deriving DecidableEq, Repr

namespace Edns

/-- No sender takes less than this. -/
def leastPayload : Nat := 512

end Edns

inductive RecordData where
  /-- Data without names, as it came. -/
  | octets (data : Octets)
  /-- Data that is one name. -/
  | name (name : Name)
  /-- The start of authority: two names, then numbers. -/
  | authority (primary mailbox : Name) (numbers : Octets)
  /-- A preference and the name of a mail exchange. -/
  | mailExchange (preference : Octets) (exchange : Name)
  /-- Fields of a service and its target. -/
  | service (fields : Octets) (target : Name)
  /-- Fields of a naming pointer and its replacement. -/
  | namingPointer (fields : Octets) (replacement : Name)
  /-- A service binding: priority, target and parameters in the order of their keys. -/
  | binding (priority : Nat) (target : Name) (params : List (Nat × Octets))
  /-- The options of an EDNS record outside its place. -/
  | options (options : List EdnsOption)
  deriving DecidableEq, Repr

structure Question where
  name : Name
  type : Nat
  class_ : Nat
  deriving DecidableEq, Repr

structure Record where
  name : Name
  type : Nat
  class_ : Nat
  ttl : Nat
  data : RecordData
  deriving DecidableEq, Repr

/-- The fixed fields at the start of a message. -/
structure Header where
  id : Nat
  isResponse : Bool
  opcode : Nat
  authoritative : Bool
  truncated : Bool
  recursionDesired : Bool
  recursionAvailable : Bool
  authenticData : Bool
  checkingDisabled : Bool
  /-- The response code with the high bits that EDNS adds. -/
  responseCode : Nat
  deriving DecidableEq, Repr

structure Message where
  header : Header
  questions : List Question
  answers : List Record
  authorities : List Record
  additionals : List Record
  edns : Option Edns
  deriving DecidableEq, Repr

namespace Message

/-- An empty answer to a request: its identity and opcode, and whether recursion was desired. The
gateway answers with authority what it answers itself. -/
def answerTo (request : Message) (question : Question) (responseCode : Nat)
    (recursionAvailable : Bool) : Message where
  header := {
    id := request.header.id
    isResponse := true
    opcode := request.header.opcode
    authoritative := true
    truncated := false
    recursionDesired := request.header.recursionDesired
    recursionAvailable
    authenticData := false
    checkingDisabled := false
    responseCode }
  questions := [question]
  answers := []
  authorities := []
  additionals := []
  edns := none

/-- The smallest time to live of the answers. -/
def minTtl? (message : Message) : Option Nat := (message.answers.map (·.ttl)).min?

end Message

end Tollgate.Dns
