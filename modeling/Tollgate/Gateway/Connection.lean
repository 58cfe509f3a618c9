import Tollgate.Gateway
import Tollgate.Http.Framing
import Tollgate.Http.Reply

/-!
# HTTP/1 connections of the gateway

Requests on a connection are served one after the other. A request waits for its body only if it is
looked at; otherwise it is answered at once, and the connection ends unless its body has come. A
request that cannot be read is refused, which also ends the connection.
-/

namespace Tollgate.Gateway

open Http (Head Framing Reply BodyRead)

/-- Whether the body of a request is looked at. -/
def readsBody (gateway : Gateway) (request : Http.Request) : Bool :=
  request.method = "POST" && !Tunnel.asksForTunnel request
    && ((Dns.Doh.token? request).isSome
      || ((Text.dropStart? Tickets.path.toList request.uri.path.toList).isSome
        && gateway.shop.payment.isSome))

/-- What is said to a client whose body breaks off. -/
def bodyRefusal (request : Http.Request) (reason : String) : Http.Response :=
  let cause := s!"error reading a body from connection: {reason}"
  if (Dns.Doh.token? request).isSome then Dns.Doh.errorResponse (.bodyBroken cause)
  else ⟨400, [], Octets.ofText cause⟩

structure Connection where
  peer : Address
  /-- What was received and does not belong to a served request. -/
  unread : Octets := []
  isOpen : Bool := true
  /-- Whether the last client speaks HTTP/1.0 only. -/
  isHttp10 : Bool := false
  /-- Whether the client was told to send the body of its request. -/
  toldToGoOn : Bool := false

/-- What serving requests leads to. -/
structure Service where
  connection : Connection
  ledger : Ledger
  replies : List Reply := []
  /-- What the requests left behind, in order. -/
  handled : List Handled := []

namespace Connection

private def finish (connection : Connection) (replies : List Reply) : Connection × List Reply :=
  ({ connection with isOpen := false, unread := [] }, replies)

/-- A request with the body that has been read. -/
private def requestOf (head : Head) (body : Octets) : Http.Request where
  method := head.method
  uri := head.uri
  isHttp2 := false
  headers := head.headers
  protocol := none
  body

/-- Whether the connection can go on behind a body that nobody has looked at. -/
private def skipsBody (framing : Framing) : BodyRead → Bool
  | .complete body _ => body.isEmpty || framing.length ≠ .chunked
  | _ => false

/-- Serves the requests of a stream that have come as a whole, of which there are `steps` at most.
-/
def serve (gateway : Gateway) (random : Octets) (now : Instant) :
    (steps : Nat) → Connection → Octets → Ledger → Service
  | 0, connection, stream, ledger => { connection := { connection with unread := stream }, ledger }
  | steps + 1, connection, stream, ledger =>
    let refuse := fun (connection : Connection) (status : Nat) =>
      let (connection, replies) := finish connection
        [.ofResponse connection.isHttp10 false "" (.empty status)]
      ({ connection, ledger, replies } : Service)
    let wait : Service := { connection := { connection with unread := stream }, ledger }
    match Head.read stream with
    | .error .incomplete => wait
    | .error (.refused status) => refuse connection status
    | .ok (head, rest) =>
      match Framing.ofHead head with
      | .error .incomplete => wait
      | .error (.refused status) => refuse connection status
      | .ok framing =>
        let connection := { connection with isHttp10 := head.isHttp10 }
        let reply := Reply.ofResponse head.isHttp10 framing.keepAlive head.method
        let read := framing.length.read rest
        let looked := gateway.readsBody (requestOf head [])
        let told := looked && framing.expectsContinue && framing.length ≠ .octets 0
        let sign := if told && !connection.toldToGoOn then [Reply.goOn] else []
        let answer := fun (body rest : Octets) (goesOn : Bool) =>
          let handled := gateway.route (requestOf head body) connection.peer random now ledger
          let ledger := handled.ledger
          match handled.response with
          | none =>
            let (connection, replies) := finish connection sign
            ({ connection, ledger, replies, handled := [handled] } : Service)
          | some response =>
            let replies := sign ++ [reply response]
            if goesOn && framing.keepAlive && !Reply.opensTunnel head.method response.status then
              let later := serve gateway random now steps { connection with toldToGoOn := false }
                rest ledger
              { later with
                replies := replies ++ later.replies
                handled := handled :: later.handled }
            else
              let (connection, replies) := finish connection replies
              { connection, ledger, replies, handled := [handled] }
        match read with
        | .complete body rest =>
          if looked then answer body rest true else answer [] rest (skipsBody framing read)
        | .incomplete =>
          if looked then
            { wait with
              connection := { connection with unread := stream, toldToGoOn := told }
              replies := sign }
          else answer [] rest false
        | .malformed reason =>
          if looked then
            let (connection, replies) := finish connection
              (sign ++ [reply (bodyRefusal (requestOf head []) reason)])
            { connection, ledger, replies }
          else answer [] rest false

/-- Receives octets, unless the connection has ended. -/
def receive (gateway : Gateway) (random : Octets) (now : Instant) (connection : Connection)
    (bytes : Octets) (ledger : Ledger) : Service :=
  if connection.isOpen then
    let stream := connection.unread ++ bytes
    serve gateway random now (stream.length + 1) connection stream ledger
  else { connection, ledger }

end Connection

end Tollgate.Gateway
