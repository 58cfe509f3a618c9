import Tollgate.Dns.Message

/-!
# The client's network in forwarded queries

A query is forwarded with the network that its client is in, so that the resolver can answer for it.
A network that the query already names is kept unless it says nothing. Otherwise the client's
address is cut to 24 bits for IPv4 and 48 for IPv6, and IPv4-mapped addresses count as IPv4. Padding
is dropped, since the message is written anew.
-/

namespace Tollgate.Dns

namespace ClientSubnet

/-- How much of an IPv4 address is passed on. -/
def ipv4Bits : Nat := 24

/-- How much of an IPv6 address is passed on. -/
def ipv6Bits : Nat := 48

/-- How much of an address is passed on. -/
def keptBits : Address → Nat
  | .v4 _ => ipv4Bits
  | .v6 _ => ipv6Bits

def ofClient (client : Address) : ClientSubnet :=
  let address := client.canonical
  ⟨address.masked (keptBits address), keptBits address, 0⟩

/-- Whether the option says nothing about where the client is. -/
def isDegenerate (subnet : ClientSubnet) : Bool :=
  subnet.sourceBits = 0 || subnet.address.isUnspecified

end ClientSubnet

namespace Edns

/-- The largest datagram that is announced where the query announced none. -/
def defaultPayload : Nat := 4096

/-- What is added to a query without EDNS. -/
def default : Edns := ⟨defaultPayload, 0, 0, []⟩

/-- The first client subnet among the options. -/
def clientSubnet? (edns : Edns) : Option ClientSubnet :=
  edns.options.findSome? fun option =>
    match option with
    | .clientSubnet subnet => some subnet
    | .other .. => none

/-- The options without those of a code. -/
def without (code : Nat) (edns : Edns) : Edns :=
  { edns with options := edns.options.filter (·.code ≠ code) }

/-- Puts the network of a client into the options unless a usable one is there. -/
def forClient (client : Address) (edns : Edns) : Edns :=
  let edns := edns.without OptionCode.padding
  if edns.clientSubnet?.any (!·.isDegenerate) then edns
  else
    let edns := edns.without OptionCode.clientSubnet
    { edns with options := edns.options ++ [.clientSubnet (ClientSubnet.ofClient client)] }

end Edns

/-- A query as it is forwarded on behalf of a client. -/
def Message.forClient (client : Address) (message : Message) : Message :=
  { message with edns := some ((message.edns.getD Edns.default).forClient client) }

end Tollgate.Dns
