import Tollgate.Dns.Blocklist
import Tollgate.Dns.ClientSubnet
import Tollgate.Dns.Discovery
import Tollgate.Ledger.Ledger
import Tollgate.Text.Base64

/-!
# The metered resolver

A query is answered for tokens that are active. Discovery queries and blocked names are answered by
the gateway itself and cost nothing. All others are forwarded with the client's network, and the
token is debited for the octets of the forwarded query and of its answer. An answer that cannot be
debited is not delivered, and if its price has more than 64 bits the call breaks off before the
debit.
-/

namespace Tollgate.Dns

/-- Why a query gets no answer. -/
inductive ResolveError where
  | unauthorized
  | malformed
  | noQuestion
  | parameterMissing
  | notBase64 (error : Text.Base64.DecodeError)
  | tooLarge
  /-- The body that carries a query cannot be read. -/
  | bodyBroken (reason : String)
  | ledgerFailed (error : LedgerError)
  | discoveryFailed
  | encodingFailed
  | exchangeFailed
  /-- The price of an answer has more than 64 bits. The call breaks off, and nobody is told. -/
  | priceOutOfRange
  deriving DecidableEq, Repr

/-- Whose fault it is that a query gets no answer. -/
inductive Blame where
  | unauthorized
  | badRequest
  | internal
  deriving DecidableEq, Repr

namespace ResolveError

def blame : ResolveError → Blame
  | .unauthorized => .unauthorized
  | .malformed | .noQuestion | .parameterMissing | .notBase64 _ | .tooLarge | .bodyBroken _ =>
    .badRequest
  | .ledgerFailed _ | .discoveryFailed | .encodingFailed | .exchangeFailed | .priceOutOfRange =>
    .internal

def message : ResolveError → String
  | .unauthorized => "Unauthorized"
  | .malformed => "Invalid DNS message"
  | .noQuestion => "Empty question section"
  | .parameterMissing => "Missing 'dns' query parameter"
  | .notBase64 error => s!"Invalid base64url encoding: {error.message}"
  | .tooLarge => "DNS message too large"
  | .bodyBroken reason => s!"Failed to read body: {reason}"
  | .ledgerFailed error => s!"Ledger lookup: {error.message}"
  | .discoveryFailed => "Discovery answer"
  | .encodingFailed => "Failed to encode DNS message"
  | .exchangeFailed => "Upstream request failed"
  | .priceOutOfRange => "Price out of range"

/-- The HTTP status that goes with an error. -/
def status (error : ResolveError) : Nat :=
  match error.blame with
  | .unauthorized => 401
  | .badRequest => 400
  | .internal => 500

end ResolveError

/-- One query, with what its transport says about it. -/
structure Query where
  token : Option String
  source : TokenSource
  message : Octets
  peer : Address
  /-- The client that a trusted relay names, as the relay wrote it. -/
  relayedFor : Option String
  /-- Whether blocked names are to be answered as missing. -/
  blockAds : Bool
  deriving Repr

/-- The address that a relay names: with a port or without. -/
def relayedAddress? (value : String) : Option Address :=
  let text := Text.trim value.toList
  ((SocketAddress.ofText? text).map (·.address)) <|> Address.ofText? text

structure Resolver where
  blocklist : Blocklist
  /-- The price of a relayed octet; others cost one. -/
  relayMultiplier : Int
  /-- The rules by which names are shown and typed. -/
  idna : Text.Idna

/-- The recursive resolver behind the gateway, which answers forwarded queries or fails. -/
abbrev Recursor := Octets → Option Octets

/-- What is to be done about a query. -/
inductive Plan where
  /-- It is answered without help. -/
  | answer (answer : Octets)
  /-- It is forwarded, and each octet costs as much as the multiplier says. -/
  | forward (query : Octets) (multiplier : Int)
  deriving DecidableEq, Repr

/-- How a query ended. -/
structure Resolution where
  result : Except ResolveError Octets
  ledger : Ledger
  /-- The query that was sent on to the recursor. -/
  forwarded : Option Octets

/-- The price of a forwarded query and its answer, if it has 64 bits. -/
def price? (query answer : Octets) (multiplier : Int) : Option Int :=
  let amount := (query.length + answer.length : Nat) * multiplier
  if Text.fitsInt64 amount then some amount else none

/-- A value, or the error that stands for its absence. -/
def orElse {α : Type} (error : ResolveError) : Option α → Except ResolveError α
  | some value => .ok value
  | none => .error error

namespace Resolver

/-- The client that a query is forwarded for. -/
def clientOf (query : Query) : Address :=
  (query.relayedFor.bind relayedAddress?).getD query.peer

/-- What an octet of a query costs. -/
def multiplierOf (resolver : Resolver) (query : Query) : Int :=
  if query.relayedFor.isSome then resolver.relayMultiplier else 1

/-- What is to be done about a query of an active token. -/
def plan (resolver : Resolver) (token : String) (query : Query) : Except ResolveError Plan := do
  let message ← orElse .malformed (Message.ofWire? query.message)
  let question ← orElse .noQuestion message.questions.head?
  if question.isDiscovery then
    let answer ← orElse .discoveryFailed
      (Discovery.answer? resolver.idna message question token query.source)
    return .answer (← orElse .encodingFailed answer.toWire?)
  else if query.blockAds && resolver.blocklist.blocks (question.name.text resolver.idna) then
    let answer := Message.answerTo message question ResponseCode.noSuchName true
    return .answer (← orElse .encodingFailed answer.toWire?)
  else
    let forwarded := message.forClient (clientOf query)
    return .forward (← orElse .encodingFailed forwarded.toWire?) (resolver.multiplierOf query)

/-- The token of a query, if the ledger serves it. -/
def authorize (query : Query) (now : Instant) (ledger : Ledger) : Except ResolveError String :=
  match query.token with
  | none => .error .unauthorized
  | some token =>
    if token.isEmpty then .error .unauthorized
    else
      match ledger.isActive token now with
      | .ok true => .ok token
      | .ok false => .error .unauthorized
      | .error error => .error (.ledgerFailed error)

/-- Debits an answered query, and delivers the answer if that succeeds. -/
def settle (token : String) (query answer : Octets) (multiplier : Int) (now : Instant)
    (ledger : Ledger) : Except ResolveError Octets × Ledger :=
  match price? query answer multiplier with
  | none => (.error .priceOutOfRange, ledger)
  | some amount =>
    match ledger.cost token amount now with
    | .ok ledger => (.ok answer, ledger)
    | .error _ => (.error .unauthorized, ledger)

def resolve (resolver : Resolver) (recursor : Recursor) (query : Query) (now : Instant)
    (ledger : Ledger) : Resolution :=
  match authorize query now ledger with
  | .error error => ⟨.error error, ledger, none⟩
  | .ok token =>
    match resolver.plan token query with
    | .error error => ⟨.error error, ledger, none⟩
    | .ok (.answer answer) => ⟨.ok answer, ledger, none⟩
    | .ok (.forward forwarded multiplier) =>
      match recursor forwarded with
      | none => ⟨.error .exchangeFailed, ledger, some forwarded⟩
      | some answer =>
        let (result, ledger) := settle token forwarded answer multiplier now ledger
        ⟨result, ledger, some forwarded⟩

end Resolver

end Tollgate.Dns
