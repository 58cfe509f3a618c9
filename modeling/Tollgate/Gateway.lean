import Tollgate.Dns.Doh
import Tollgate.Tickets.Shop
import Tollgate.Tunnel.Proxy

/-!
# The gateway

One router serves all HTTP listeners. Requests for tunnels come first, then DNS queries, then the
ticket shop; all others are not found. A configured `alt-svc` header is put on every response.
-/

namespace Tollgate

/-- What the gateway is made of. -/
structure Gateway where
  resolver : Dns.Resolver
  recursor : Dns.Recursor
  shop : Tickets.Shop
  /-- Which tunnel targets can be reached. -/
  reaches : Tunnel.Target → Bool
  /-- The header in which a trusted relay names the client. -/
  relayHeader : Option String
  altSvc : Option Octets

/-- What a request left behind. -/
structure Handled where
  /-- The response; nothing if the handler gave up. -/
  response : Option Http.Response
  ledger : Ledger
  forwarded : Option Octets
  ordered : Option (Tickets.Order × String)
  notified : Option Http.Headers
  dialled : Option Tunnel.Target

namespace Gateway

private def answered (response : Http.Response) (ledger : Ledger) : Handled :=
  ⟨some response, ledger, none, none, none, none⟩

/-- Serves a request, apart from what all responses have in common. -/
def dispatch (gateway : Gateway) (request : Http.Request) (peer : Address) (random : Octets)
    (now : Instant) (ledger : Ledger) : Handled :=
  if Tunnel.asksForTunnel request then
    let opening := Tunnel.openFor gateway.reaches request now ledger
    { answered opening.response ledger with dialled := opening.dialled }
  else
    match Dns.Doh.token? request with
    | some (token, source) =>
      let relayedFor := gateway.relayHeader.bind request.headers.text?
      let served := Dns.Doh.serve gateway.resolver gateway.recursor request token source peer
        relayedFor now ledger
      ⟨served.response, served.ledger, served.forwarded, none, none, none⟩
    | none =>
      match Text.dropStart? Tickets.path.toList request.uri.path.toList with
      | some _ =>
        let visit := gateway.shop.serve request random now ledger
        ⟨visit.response, visit.ledger, none, visit.ordered, visit.notified, none⟩
      | none => answered (.plain 404 "Not Found") ledger

def route (gateway : Gateway) (request : Http.Request) (peer : Address) (random : Octets)
    (now : Instant) (ledger : Ledger) : Handled :=
  let handled := gateway.dispatch request peer random now ledger
  match gateway.altSvc with
  | none => handled
  | some value =>
    { handled with
      response := handled.response.map fun response =>
        { response with headers := response.headers.set "alt-svc" value } }

end Gateway

end Tollgate
