import Tollgate.Dns.Dot
import Tollgate.Gateway
import Tollgate.Proofs.Dns.Resolution
import Tollgate.Proofs.Ledger.Cutoff
import Tollgate.Proofs.Tickets.Purchase

/-!
# What the fronts do to the ledger

Tokens are served over HTTPS, over TLS and through tunnels, and paid for in the shop. Of all that,
only a notification of a payment credits a token. Everything else debits, or leaves the ledger as it
is.
-/

namespace Tollgate

variable {token : String} {now : Instant} {store : Store} {request : Http.Request}

namespace Dns

variable (token)

/-- A query credits nobody. -/
theorem Resolver.uncredited (resolver : Resolver) (recursor : Recursor) (query : Query)
    (now : Instant) (store : Store) :
    store.Uncredited token (resolver.resolve recursor query now (.store store)).ledger := by
  have ends := resolver.resolved recursor query now store
  generalize resolver.resolve recursor query now (.store store) = ending at ends
  cases ends with
  | denied | failed | own | unanswered | unpriced | withheld => exact .refl token store
  | delivered _ _ _ _ debited => exact .of_cost debited

theorem Doh.uncredited (resolver : Resolver) (recursor : Recursor) (request : Http.Request)
    (holder : Option String) (source : TokenSource) (peer : Address) (relayedFor : Option String)
    (now : Instant) (store : Store) :
    store.Uncredited token (Doh.serve resolver recursor request holder source peer relayedFor now
      (.store store)).ledger := by
  unfold Doh.serve
  split
  · exact .refl token store
  · exact .refl token store
  · exact resolver.uncredited token recursor _ now store

namespace Dot.Connection

/-! ## Connections over TLS -/

section

variable {connection : Connection} {resolver : Resolver} {recursor : Recursor}
variable {stream message rest : Octets} {ledger : Ledger} {error : ResolveError}
variable {answer framed : Octets}

variable (resolver recursor connection now ledger)

theorem serve_of_incomplete (incomplete : takeFrame? stream = none) :
    serve resolver recursor now connection stream ledger =
      ⟨{ connection with unread := stream }, ledger, [], []⟩ := by
  rw [serve]
  split
  next => rfl
  next whole =>
      rw [incomplete] at whole
      cases whole

/-- A message that is there as a whole is resolved, and what follows it is served if its answer can
be framed and is taken. -/
theorem serve_of_message (whole : takeFrame? stream = some (message, rest)) :
    serve resolver recursor now connection stream ledger =
      let resolution := resolver.resolve recursor (connection.query message) now ledger
      let fail := fun failure =>
        ⟨{ connection with unread := rest, failure := some failure }, resolution.ledger, [],
          resolution.forwarded.toList⟩
      match resolution.result with
      | .error error => fail (.rejected error)
      | .ok answer =>
        match frame? answer with
        | none => fail (.messageTooLarge answer.length)
        | some framed =>
          if connection.listens then
            let later := serve resolver recursor now { connection with waited := 0 } rest
              resolution.ledger
            { later with
              written := framed ++ later.written
              forwarded := resolution.forwarded.toList ++ later.forwarded }
          else fail .notTaken := by
  rw [serve]
  split
  next incomplete =>
      rw [whole] at incomplete
      cases incomplete
  next message' rest' whole' =>
      rw [whole] at whole'
      cases whole'
      rfl

end

theorem uncredited (resolver : Resolver) (recursor : Recursor) (now : Instant)
    (connection : Connection) (stream : Octets) (store : Store) :
    store.Uncredited token
      (serve resolver recursor now connection stream (.store store)).ledger := by
  induction size : stream.length using Nat.strong_induction_on
      generalizing connection stream store with
  | _ length ih =>
      cases whole : takeFrame? stream with
      | none =>
          rw [serve_of_incomplete _ _ _ _ _ whole]
          exact .refl token store
      | some parts =>
          obtain ⟨message, rest⟩ := parts
          have resolved := resolver.uncredited token recursor (connection.query message) now store
          rw [serve_of_message _ _ _ _ _ whole]
          dsimp only
          split
          · exact resolved
          · split
            · exact resolved
            · split
              · obtain ⟨middle, middle_eq⟩ := resolved.exists_store
                rw [middle_eq] at resolved ⊢
                have shorter := length_lt_of_takeFrame? whole
                exact resolved.trans (ih rest.length (size ▸ shorter) _ rest middle rfl)
              · exact resolved

theorem uncredited_receive (resolver : Resolver) (recursor : Recursor) (now : Instant)
    (connection : Connection) (bytes : Octets) (store : Store) :
    store.Uncredited token
      (receive resolver recursor now connection bytes (.store store)).ledger := by
  unfold receive
  split
  · exact uncredited token resolver recursor now connection _ store
  · exact .refl token store

end Dot.Connection

end Dns

/-! ## Requests over HTTP -/

namespace Tickets.Shop

variable {shop : Shop} {order : Order}

theorem uncredited_credit
    (others : ∀ credit, shop.creditOf? order = some credit → credit.token ≠ token) :
    store.Uncredited token (shop.credit order now (.store store)).2 := by
  cases payable : shop.creditOf? order with
  | none =>
      rw [credit_of_unpayable payable]
      exact .refl token store
  | some credit =>
      rw [credit_of_payable payable]
      exact .of_operation _ store (others credit payable)

/-- A request at the shop credits the order that it reports, if any. -/
theorem uncredited_serve (random : Octets)
    (others : ∀ credit, (shop.reported? request).bind shop.creditOf? = some credit →
      credit.token ≠ token) :
    store.Uncredited token (shop.serve request random now (.store store)).ledger := by
  cases reported : shop.reported? request with
  | none =>
      rw [serve_ledger_of_unreported reported]
      exact .refl token store
  | some order =>
      rw [serve_of_reported reported]
      apply uncredited_credit
      intro credit payable
      apply others credit
      rw [reported]
      exact payable

end Tickets.Shop

namespace Gateway

/-- What a request credits: the paid order that it reports, if the shop is where it goes. -/
def creditOf? (shop : Tickets.Shop) (request : Http.Request) : Option Credit :=
  if Tunnel.asksForTunnel request then none
  else
    match Dns.Doh.token? request, Text.dropStart? Tickets.path.toList request.uri.path.toList with
    | none, some _ => (shop.reported? request).bind shop.creditOf?
    | _, _ => none

variable {gateway : Gateway}

/-- The header that all responses have in common does not matter to the ledger. -/
theorem route_ledger (gateway : Gateway) (request : Http.Request) (peer : Address)
    (random : Octets) (now : Instant) (ledger : Ledger) :
    (gateway.route request peer random now ledger).ledger =
      (gateway.dispatch request peer random now ledger).ledger := by
  unfold route
  dsimp only
  split <;> rfl

theorem uncredited (peer : Address) (random : Octets)
    (others : ∀ credit, creditOf? gateway.shop request = some credit → credit.token ≠ token) :
    store.Uncredited token (gateway.route request peer random now (.store store)).ledger := by
  rw [route_ledger]
  unfold dispatch
  unfold creditOf? at others
  split
  next => exact .refl token store
  next noTunnel =>
      rw [if_neg noTunnel] at others
      cases query : Dns.Doh.token? request with
      | some parts =>
          obtain ⟨holder, source⟩ := parts
          exact Dns.Doh.uncredited token gateway.resolver gateway.recursor request holder source
            peer _ now store
      | none =>
          rw [query] at others
          cases atShop : Text.dropStart? Tickets.path.toList request.uri.path.toList with
          | none => exact .refl token store
          | some rest =>
              rw [atShop] at others
              exact Tickets.Shop.uncredited_serve random others

end Gateway

end Tollgate
