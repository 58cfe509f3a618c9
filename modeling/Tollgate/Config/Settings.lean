import Tollgate.Config.Node
import Tollgate.Net.Address

/-!
# Settings

The settings of the gateway are in five sections. Every setting has a default, so a file gives only
those that differ.
-/

namespace Tollgate.Config

structure ServerSettings where
  /-- The listener for queries, tunnels and tickets. -/
  https : Option SocketAddress := some ⟨.v4 0, 443, 0⟩
  /-- The same without encryption, behind an ingress that has it. -/
  http : Option SocketAddress := none
  /-- The listener for DNS over TLS. -/
  dot : Option SocketAddress := none
  certPath : Option String := none
  keyPath : Option String := none
  /-- A header value that is put on every response. -/
  altSvc : Option String := none
  deriving DecidableEq, Repr

structure ResolverSettings where
  recursor : String := "https://doh.pub/dns-query"
  /-- The header in which a trusted relay names the client. -/
  failoverHeader : String := "zns-real-addr"
  /-- What relayed queries cost, as a multiple. -/
  failoverMultiplier : Int64 := 100
  blocklistPath : Option String := none
  deriving DecidableEq, Repr

structure LedgerSettings where
  /-- Nothing is kept, and every token has a fixed balance. -/
  free : Bool := false
  dbPath : String := "zns.db"
  deriving DecidableEq, Repr

structure TunnelSettings where
  costMultiplier : Int64 := 2
  /-- The period of the meter in milliseconds. -/
  meterInterval : UInt64 := 1000
  /-- How many seconds a target has to answer. -/
  dialTimeout : UInt64 := 5
  deriving DecidableEq, Repr

structure TicketSettings where
  mibPerCny : Int64 := 1024
  deriving DecidableEq, Repr

end Config

structure Config where
  server : Config.ServerSettings := {}
  resolver : Config.ResolverSettings := {}
  ledger : Config.LedgerSettings := {}
  tunnel : Config.TunnelSettings := {}
  tickets : Config.TicketSettings := {}
  deriving DecidableEq, Repr

namespace Config

/-! ## Reading -/

/-- The value of a setting, or its default. -/
def setting {α : Type} (given : List (String × Node)) (name : String) (default : α)
    (read : Node → Option α) : Option α :=
  match given.lookup name with
  | some node => read node
  | none => some default

def address? (node : Node) : Option SocketAddress :=
  node.text?.bind fun text => SocketAddress.ofText? text.toList

def ServerSettings.names : List String :=
  ["https_addr", "http_addr", "dot_addr", "cert_path", "key_path", "alt_svc"]

def ServerSettings.ofNode? (node : Node) : Option ServerSettings := do
  let default : ServerSettings := {}
  let given ← node.settings? names
  return {
    https := ← setting given "https_addr" default.https (Node.optional? address?)
    http := ← setting given "http_addr" default.http (Node.optional? address?)
    dot := ← setting given "dot_addr" default.dot (Node.optional? address?)
    certPath := ← setting given "cert_path" default.certPath (Node.optional? Node.text?)
    keyPath := ← setting given "key_path" default.keyPath (Node.optional? Node.text?)
    altSvc := ← setting given "alt_svc" default.altSvc (Node.optional? Node.text?) }

def ResolverSettings.names : List String :=
  ["upstream", "failover_header", "failover_multiplier", "blocklist_path"]

def ResolverSettings.ofNode? (node : Node) : Option ResolverSettings := do
  let default : ResolverSettings := {}
  let given ← node.settings? names
  return {
    recursor := ← setting given "upstream" default.recursor Node.text?
    failoverHeader := ← setting given "failover_header" default.failoverHeader Node.text?
    failoverMultiplier :=
      ← setting given "failover_multiplier" default.failoverMultiplier Node.int64?
    blocklistPath :=
      ← setting given "blocklist_path" default.blocklistPath (Node.optional? Node.text?) }

def LedgerSettings.names : List String := ["free", "db_path"]

def LedgerSettings.ofNode? (node : Node) : Option LedgerSettings := do
  let default : LedgerSettings := {}
  let given ← node.settings? names
  return {
    free := ← setting given "free" default.free Node.bool?
    dbPath := ← setting given "db_path" default.dbPath Node.text? }

def TunnelSettings.names : List String :=
  ["cost_multiplier", "meter_interval_ms", "dial_timeout_secs"]

def TunnelSettings.ofNode? (node : Node) : Option TunnelSettings := do
  let default : TunnelSettings := {}
  let given ← node.settings? names
  return {
    costMultiplier := ← setting given "cost_multiplier" default.costMultiplier Node.int64?
    meterInterval := ← setting given "meter_interval_ms" default.meterInterval Node.uint64?
    dialTimeout := ← setting given "dial_timeout_secs" default.dialTimeout Node.uint64? }

def TicketSettings.names : List String := ["mib_per_cny"]

def TicketSettings.ofNode? (node : Node) : Option TicketSettings := do
  let default : TicketSettings := {}
  let given ← node.settings? names
  return { mibPerCny := ← setting given "mib_per_cny" default.mibPerCny Node.int64? }

def sectionNames : List String := ["server", "resolver", "ledger", "tunnel", "tickets"]

def ofNode? (node : Node) : Option Config := do
  let given ← node.settings? sectionNames
  return {
    server := ← setting given "server" {} ServerSettings.ofNode?
    resolver := ← setting given "resolver" {} ResolverSettings.ofNode?
    ledger := ← setting given "ledger" {} LedgerSettings.ofNode?
    tunnel := ← setting given "tunnel" {} TunnelSettings.ofNode?
    tickets := ← setting given "tickets" {} TicketSettings.ofNode? }

/-! ## Writing -/

def addressNode (address : SocketAddress) : Node := .text address.text
def int64Node (n : Int64) : Node := .integer n.toInt
def uint64Node (n : UInt64) : Node := .integer n.toNat

def ServerSettings.fields (settings : ServerSettings) : List (String × Option Node) :=
  [("https_addr", settings.https.map addressNode), ("http_addr", settings.http.map addressNode),
    ("dot_addr", settings.dot.map addressNode), ("cert_path", settings.certPath.map .text),
    ("key_path", settings.keyPath.map .text), ("alt_svc", settings.altSvc.map .text)]

def ResolverSettings.fields (settings : ResolverSettings) : List (String × Option Node) :=
  [("upstream", some (.text settings.recursor)),
    ("failover_header", some (.text settings.failoverHeader)),
    ("failover_multiplier", some (int64Node settings.failoverMultiplier)),
    ("blocklist_path", settings.blocklistPath.map .text)]

def LedgerSettings.fields (settings : LedgerSettings) : List (String × Option Node) :=
  [("free", some (.boolean settings.free)), ("db_path", some (.text settings.dbPath))]

def TunnelSettings.fields (settings : TunnelSettings) : List (String × Option Node) :=
  [("cost_multiplier", some (int64Node settings.costMultiplier)),
    ("meter_interval_ms", some (uint64Node settings.meterInterval)),
    ("dial_timeout_secs", some (uint64Node settings.dialTimeout))]

def TicketSettings.fields (settings : TicketSettings) : List (String × Option Node) :=
  [("mib_per_cny", some (int64Node settings.mibPerCny))]

/-- What is written of settings. Those that are absent are left out. -/
def written (fields : List (String × Option Node)) : List (String × Node) :=
  fields.filterMap fun (name, value) => value.map (name, ·)

def sections (config : Config) : List (String × List (String × Node)) :=
  [("server", written config.server.fields), ("resolver", written config.resolver.fields),
    ("ledger", written config.ledger.fields), ("tunnel", written config.tunnel.fields),
    ("tickets", written config.tickets.fields)]

def node (config : Config) : Node :=
  .table (config.sections.map fun (name, entries) => (name, .table entries))

end Config

end Tollgate
