import Tollgate.Proofs.Gateway.Effects

/-!
# Service stays cut off

A token without bytes on its newest ticket is refused wherever it asks: by the resolver behind DNS
over HTTPS and TLS, and by the proxy before it looks at the target. Nothing is forwarded or dialled
for it, and being refused does not touch the ledger. Others may be served and debited meanwhile, and
may be credited, and the token itself may be debited for tunnels that are still open. None of that
gives it bytes, so it stays cut off until it is credited.

DNS over HTTPS reads the message of a request before the resolver asks for the token. A request
without a message is refused for that, and looks the same to every token.
-/

namespace Tollgate

variable {token : String} {now : Instant} {store : Store} {request : Http.Request}

/-! ## Refusals -/

namespace Dns

theorem Resolver.resolve_of_cutOff (resolver : Resolver) (recursor : Recursor) (query : Query)
    (now : Instant) (cut : store.CutOff token) (holder : query.token = some token) :
    resolver.resolve recursor query now (.store store) =
      ⟨.error .unauthorized, .store store, none⟩ := by
  apply resolve_of_denied
  simp only [authorize, holder, Store.isActive_of_cutOff cut now]
  split <;> rfl

namespace Doh

/-- The status of a request that is refused: its message comes first, then its token. -/
def refusalStatus (request : Http.Request) : Nat :=
  match message? request with
  | none => 405
  | some (.error _) => 400
  | some (.ok _) => 401

theorem refusalStatus_of_too_long (isPost : request.method = "POST")
    (tooLong : maxMessageLength < request.body.length) : refusalStatus request = 400 := by
  have unread : message? request = some (.error .tooLarge) := by
    simp only [message?, isPost, ofBody, if_pos tooLong]
  rw [refusalStatus, unread]

theorem blame_of_message? {error : ResolveError} (unread : message? request = some (.error error)) :
    error.blame = .badRequest := by
  unfold message? ofParameter ofBody at unread
  split at unread
  next =>
      split at unread
      next => cases unread; rfl
      next =>
          dsimp only at unread
          split at unread
          next => cases unread; rfl
          next => split at unread <;> cases unread; rfl
  next => split at unread <;> cases unread; rfl
  next => cases unread

theorem serve_of_cutOff (resolver : Resolver) (recursor : Recursor) (request : Http.Request)
    (source : TokenSource) (peer : Address) (relayedFor : Option String) (now : Instant)
    (cut : store.CutOff token) :
    ∃ response, response.status = refusalStatus request ∧
      serve resolver recursor request (some token) source peer relayedFor now (.store store) =
        ⟨some response, .store store, none⟩ := by
  unfold serve refusalStatus
  cases carried : message? request with
  | none => exact ⟨_, rfl, rfl⟩
  | some message =>
      cases message with
      | error error =>
          refine ⟨_, ?_, rfl⟩
          have blame := blame_of_message? carried
          simp only [errorResponse, blame, ResolveError.status, Http.Response.plain,
            Http.Response.ofType]
      | ok message =>
          dsimp only
          rw [resolver.resolve_of_cutOff recursor _ now cut rfl]
          exact ⟨_, rfl, rfl⟩

end Doh

namespace Dot.Connection

/-- A connection ends with its first message, and until then it waits. -/
theorem receive_of_cutOff (resolver : Resolver) (recursor : Recursor) {connection : Connection}
    (cut : store.CutOff token) (holder : connection.token = some token)
    (isOpen : connection.isOpen = true) (now : Instant) (bytes : Octets) :
    receive resolver recursor now connection bytes (.store store) =
      match takeFrame? (connection.unread ++ bytes) with
      | none => ⟨{ connection with unread := connection.unread ++ bytes }, .store store, [], []⟩
      | some (_, rest) =>
        ⟨{ connection with unread := rest, failure := some (.rejected .unauthorized) },
          .store store, [], []⟩ := by
  rw [receive, if_pos isOpen]
  cases whole : takeFrame? (connection.unread ++ bytes) with
  | none => exact serve_of_incomplete _ _ _ _ _ whole
  | some parts =>
      obtain ⟨message, rest⟩ := parts
      have refused := resolver.resolve_of_cutOff recursor (connection.query message) now cut holder
      rw [serve_of_message _ _ _ _ _ whole, refused]
      rfl

end Dot.Connection

end Dns

/-- A request is answered with a status, and leaves nothing behind. -/
structure Handled.Refuses (status : Nat) (ledger : Ledger) (handled : Handled) : Prop where
  answered : handled.response.map (·.status) = some status
  ledger_eq : handled.ledger = ledger
  forwarded : handled.forwarded = none
  ordered : handled.ordered = none
  notified : handled.notified = none
  dialled : handled.dialled = none

namespace Gateway

variable {gateway : Gateway} {ledger : Ledger} {status : Nat} {peer : Address} {random : Octets}

theorem route_refuses
    (refused : (gateway.dispatch request peer random now ledger).Refuses status ledger) :
    (gateway.route request peer random now ledger).Refuses status ledger := by
  unfold route
  dsimp only
  split
  next => exact refused
  next =>
      refine ⟨?_, refused.ledger_eq, refused.forwarded, refused.ordered, refused.notified,
        refused.dialled⟩
      rw [← refused.answered, Option.map_map]
      rfl

theorem refuses_query {source : Dns.TokenSource} (cut : store.CutOff token)
    (noTunnel : Tunnel.asksForTunnel request = false)
    (asks : Dns.Doh.token? request = some (some token, source)) :
    (gateway.route request peer random now (.store store)).Refuses
      (Dns.Doh.refusalStatus request) (.store store) := by
  apply route_refuses
  obtain ⟨response, status_eq, served⟩ := Dns.Doh.serve_of_cutOff gateway.resolver
    gateway.recursor request source peer (gateway.relayHeader.bind request.headers.text?) now cut
  simp only [dispatch, noTunnel, asks, served]
  exact ⟨congrArg some status_eq, rfl, rfl, rfl, rfl, rfl⟩

theorem refuses_tunnel (cut : store.CutOff token) (tunnel : Tunnel.asksForTunnel request = true)
    (asks : Tunnel.proxyToken? request.headers = some token) :
    (gateway.route request peer random now (.store store)).Refuses 407 (.store store) := by
  apply route_refuses
  have refused : Tunnel.admission request now (.store store) =
      .error Tunnel.credentialsRequired := by
    simp only [Tunnel.admission, asks, Store.isActive_of_cutOff cut now]
  simp only [dispatch, tunnel, if_true, Tunnel.openFor, refused]
  exact ⟨rfl, rfl, rfl, rfl, rfl, rfl⟩

end Gateway

/-! ## The gateway at work -/

/-- A gateway, its ledger, and the connections over TLS that it has accepted. -/
structure World where
  gateway : Gateway
  ledger : Ledger
  connections : List Dns.Dot.Connection

namespace World

/-- What happens to a gateway. -/
inductive Event where
  /-- A request over HTTP, for whatever it may be. -/
  | requests (request : Http.Request) (peer : Address) (random : Octets) (now : Instant)
  /-- A client connects over TLS, to a server name with or without a token. -/
  | connects (token : Option String) (peer : Address)
  /-- The client of a connection sends octets. -/
  | sends (place : Nat) (bytes : Octets) (now : Instant)
  /-- Some milliseconds pass in which no connection receives anything. -/
  | passes (elapsed : Nat)
  /-- The client of a connection goes away. -/
  | leaves (place : Nat)
  /-- The ledger is used otherwise, as for the traffic of open tunnels. -/
  | uses (operation : LedgerOperation)
  /-- What the recursor answers and which targets can be reached changes. -/
  | turns (recursor : Dns.Recursor) (reaches : Tunnel.Target → Bool)

def after (world : World) : Event → World
  | .requests request peer random now =>
    { world with ledger := (world.gateway.route request peer random now world.ledger).ledger }
  | .connects token peer => { world with connections := world.connections ++ [{ token, peer }] }
  | .sends place bytes now =>
    match world.connections[place]? with
    | none => world
    | some connection =>
      let service := connection.receive world.gateway.resolver world.gateway.recursor now bytes
        world.ledger
      { world with
        ledger := service.ledger
        connections := world.connections.set place service.connection }
  | .passes elapsed =>
    { world with connections := world.connections.map fun connection => connection.pass elapsed }
  | .leaves place =>
    { world with connections := world.connections.modify place Dns.Dot.Connection.leave }
  | .uses operation => { world with ledger := operation.on world.ledger }
  | .turns recursor reaches => { world with gateway := { world.gateway with recursor, reaches } }

/-- The world after events in order. -/
def run (world : World) (events : List Event) : World := events.foldl after world

/-- What an event credits. -/
def Event.credit? (shop : Tickets.Shop) : Event → Option Credit
  | .requests request _ _ _ => Gateway.creditOf? shop request
  | .uses (.create credit _) => some credit
  | _ => none

variable {world : World} {event : Event}

theorem shop_after (world : World) (event : Event) :
    (world.after event).gateway.shop = world.gateway.shop := by
  cases event with
  | requests | connects | passes | leaves | uses | turns => rfl
  | sends place bytes now =>
      simp only [after]
      split <;> rfl

theorem uncredited_after (here : world.ledger = .store store)
    (others : ∀ credit, event.credit? world.gateway.shop = some credit → credit.token ≠ token) :
    store.Uncredited token (world.after event).ledger := by
  cases event with
  | requests request peer random now =>
      simp only [after, here]
      exact Gateway.uncredited peer random others
  | connects | passes | leaves | turns =>
      rw [after, here]
      exact .refl token store
  | sends place bytes now =>
      simp only [after, here]
      split
      · rw [here]
        exact .refl token store
      · exact Dns.Dot.Connection.uncredited_receive token _ _ now _ bytes store
  | uses operation =>
      simp only [after, here, LedgerOperation.on_store]
      refine .of_operation operation store ?_
      cases operation with
      | create credit now => exact others credit rfl
      | cost => exact id

/-- Whatever happens, a store comes from the store by operations that credit the token nothing,
unless an event credits it. -/
theorem uncredited_run (events : List Event) (here : world.ledger = .store store)
    (others : ∀ event ∈ events, ∀ credit, event.credit? world.gateway.shop = some credit →
      credit.token ≠ token) :
    store.Uncredited token (world.run events).ledger := by
  induction events generalizing world store with
  | nil =>
      rw [run, List.foldl_nil, here]
      exact .refl token store
  | cons event rest ih =>
      have step := uncredited_after here (others event List.mem_cons_self)
      obtain ⟨next, next_eq⟩ := step.exists_store
      rw [next_eq] at step
      refine step.trans (ih next_eq ?_)
      intro later mem credit credits
      rw [shop_after] at credits
      exact others later (List.mem_cons_of_mem _ mem) credit credits

/-- Every request of a token is refused, and leaves nothing behind. -/
structure Refuses (token : String) (world : World) : Prop where
  /-- The resolver takes the token of a query for unauthorized. -/
  queries : ∀ (query : Dns.Query) (now : Instant), query.token = some token →
    world.gateway.resolver.resolve world.gateway.recursor query now world.ledger =
      ⟨.error .unauthorized, world.ledger, none⟩
  /-- A request over HTTPS is refused for its message or for its token. -/
  requests : ∀ (request : Http.Request) (source : Dns.TokenSource) (peer : Address)
    (random : Octets) (now : Instant), Tunnel.asksForTunnel request = false →
    Dns.Doh.token? request = some (some token, source) →
    (world.gateway.route request peer random now world.ledger).Refuses
      (Dns.Doh.refusalStatus request) world.ledger
  /-- A request for a tunnel is asked for credentials, whatever its target. -/
  tunnels : ∀ (request : Http.Request) (peer : Address) (random : Octets) (now : Instant),
    Tunnel.asksForTunnel request = true → Tunnel.proxyToken? request.headers = some token →
    (world.gateway.route request peer random now world.ledger).Refuses 407 world.ledger
  /-- A connection over TLS gets no answer, and ends with its first message if it is open. -/
  connections : ∀ (connection : Dns.Dot.Connection) (bytes : Octets) (now : Instant),
    connection.token = some token →
    ∃ left : Dns.Dot.Connection,
      connection.receive world.gateway.resolver world.gateway.recursor now bytes world.ledger =
        ⟨left, world.ledger, [], []⟩ ∧
      (connection.isOpen = true →
        (Dns.Dot.takeFrame? (connection.unread ++ bytes)).isSome = true →
        left.failure = some (.rejected .unauthorized))

theorem refuses_of_cutOff (here : world.ledger = .store store) (cut : store.CutOff token) :
    world.Refuses token := by
  obtain ⟨gateway, ledger, connections⟩ := world
  obtain rfl := here
  refine ⟨?_, ?_, ?_, ?_⟩
  · intro query now holder
    exact gateway.resolver.resolve_of_cutOff gateway.recursor query now cut holder
  · intro request source peer random now noTunnel asks
    exact Gateway.refuses_query cut noTunnel asks
  · intro request peer random now tunnel asks
    exact Gateway.refuses_tunnel cut tunnel asks
  · intro connection bytes now holder
    cases isOpen : connection.isOpen with
    | false =>
        refine ⟨connection, ?_, nofun⟩
        simp only [Dns.Dot.Connection.receive, isOpen, Bool.false_eq_true, if_false]
    | true =>
        dsimp only
        rw [Dns.Dot.Connection.receive_of_cutOff _ _ cut holder isOpen]
        cases whole : Dns.Dot.takeFrame? (connection.unread ++ bytes) with
        | none => exact ⟨_, rfl, fun _ impossible => nomatch impossible⟩
        | some parts => exact ⟨_, rfl, fun _ _ => rfl⟩

/-- Once the newest ticket of a token has no bytes left, or while the token has none, service is cut
until the token is credited. Along every sequence of requests, connections, debits of any token and
credits of others, in whatever surroundings, every request of the token is refused and leaves
nothing behind: nothing is forwarded or dialled for it, and the ledger is as it was. The newest
ticket of the token still has no bytes left at the end. -/
theorem service_stays_cut_off (token : String) (world : World) (store : Store)
    (events : List Event) (here : world.ledger = .store store) (cut : store.CutOff token)
    (others : ∀ event ∈ events, ∀ credit, event.credit? world.gateway.shop = some credit →
      credit.token ≠ token) :
    ∀ before, before <+: events →
      (world.run before).Refuses token ∧
      ∃ later, (world.run before).ledger = .store later ∧ later.CutOff token := by
  intro before isPrefix
  have comes := uncredited_run before here fun event mem => others event (isPrefix.subset mem)
  obtain ⟨later, later_eq⟩ := comes.exists_store
  rw [later_eq] at comes
  have still := comes.cutOff cut
  exact ⟨refuses_of_cutOff later_eq still, later, later_eq, still⟩

/-- A store where the token `a` has spent four bytes more than it had. -/
def overdrawn : Store := Dns.Resolver.fiveBytes.run [.cost "a" 9 1]

theorem cutOff_overdrawn : overdrawn.CutOff "a" := by
  have newest : (overdrawn.newest? "a").map (·.bytes) = some (-4) := by decide +kernel
  intro ticket last
  rw [last] at newest
  have bytes : ticket.bytes = -4 := Option.some.inj newest
  omega

def overdrawnWorld : World where
  gateway := {
    resolver := Dns.Resolver.plainResolver
    recursor := fun _ => some [1, 2, 3]
    shop := Tickets.Shop.namingShop
    reaches := fun _ => true
    relayHeader := none
    altSvc := none }
  ledger := .store overdrawn
  connections := []

/-- A message that is posted for the token `a`. -/
def postedByA (message : Octets) : Http.Request where
  method := "POST"
  uri := ⟨none, none, "/dns/a", none⟩
  isHttp2 := false
  headers := []
  protocol := none
  body := message

/-- Another token is credited, `a` is debited for a tunnel that is still open, and it connects over
TLS. -/
def meanwhile : List Event :=
  [.uses (.create ⟨"b", 5, "second", ""⟩ 2), .uses (.cost "a" 1 3),
    .connects (some "a") (.v4 0x0A000001), .sends 0 [0, 1, 7] 4]

/-- After all this a query of `a` is still refused. -/
theorem query_refused_meanwhile :
    overdrawn.CutOff "a" ∧
    ((overdrawnWorld.run meanwhile).gateway.route (postedByA Dns.Resolver.relayedQuery.message)
      (.v4 0x0A000001) [] 5 (overdrawnWorld.run meanwhile).ledger).response.map (·.status) =
        some 401 := by
  have others : ∀ event ∈ meanwhile, ∀ credit,
      event.credit? overdrawnWorld.gateway.shop = some credit → credit.token ≠ "a" := by
    intro event mem credit credits
    simp only [meanwhile, List.mem_cons, List.not_mem_nil, or_false] at mem
    rcases mem with rfl | rfl | rfl | rfl
    · cases credits
      decide
    · cases credits
    · cases credits
    · cases credits
  obtain ⟨refused, -⟩ := service_stays_cut_off "a" overdrawnWorld overdrawn meanwhile rfl
    cutOff_overdrawn others meanwhile List.prefix_rfl
  refine ⟨cutOff_overdrawn, ?_⟩
  exact (refused.requests (postedByA Dns.Resolver.relayedQuery.message) .path _ [] 5
    (by decide +kernel) (by decide +kernel)).answered

/-- A message that is too long is refused for its length, not for the token. -/
theorem oversized_message_refused_first :
    overdrawn.CutOff "a" ∧
    Tunnel.asksForTunnel (postedByA (List.replicate 65536 0)) = false ∧
    Dns.Doh.token? (postedByA (List.replicate 65536 0)) = some (some "a", .path) ∧
    (overdrawnWorld.gateway.route (postedByA (List.replicate 65536 0)) (.v4 0x0A000001) [] 2
      overdrawnWorld.ledger).response.map (·.status) = some 400 := by
  have noTunnel : Tunnel.asksForTunnel (postedByA (List.replicate 65536 0)) = false := by
    decide +kernel
  have asks : Dns.Doh.token? (postedByA (List.replicate 65536 0)) = some (some "a", .path) := by
    decide +kernel
  have tooLong : Dns.maxMessageLength < (postedByA (List.replicate 65536 0)).body.length := by
    rw [postedByA, List.length_replicate]
    decide
  have refuses : overdrawnWorld.Refuses "a" := refuses_of_cutOff rfl cutOff_overdrawn
  have refused := refuses.requests _ _ (.v4 0x0A000001) [] 2 noTunnel asks
  refine ⟨cutOff_overdrawn, noTunnel, asks, ?_⟩
  rw [refused.answered, Dns.Doh.refusalStatus_of_too_long rfl tooLong]

end World

end Tollgate
