import Tollgate.Dns.Resolver

/-!
# DNS over TLS

On a connection each message follows its length in two octets. The messages are resolved one after
the other, each answer is framed in the same way, and the first failure ends the connection. So does
a client that lets the connection wait too long for the length of a message. Once a message has
begun, the connection waits for the rest of it without end.
-/

namespace Tollgate.Dns.Dot

/-- Why a connection fails. -/
inductive Failure where
  /-- The connection ends inside a message. -/
  | endedEarly
  /-- An answer is too long for a frame. -/
  | messageTooLarge (length : Nat)
  | rejected (error : ResolveError)
  /-- The client does not take an answer. -/
  | notTaken

def Failure.message : Failure → String
  | .endedEarly => "early eof"
  | .messageTooLarge length => s!"Response of {length} bytes does not fit a DNS frame"
  | .rejected error => s!"Query rejected: {error.message}"
  | .notTaken => "broken pipe"

/-- How long a message in a frame can be. -/
def maxLength : Nat := 65535

/-- A message with its length in front, if it fits. -/
def frame? (message : Octets) : Option Octets :=
  if message.length ≤ maxLength then some (Octets.ofNat 2 message.length ++ message) else none

/-- The first message of a stream and what follows it, once it is there as a whole. -/
def takeFrame? (stream : Octets) : Option (Octets × Octets) := do
  let (length, rest) ← Octets.take? 2 stream
  Octets.take? length.toNat rest

theorem length_lt_of_takeFrame? {stream message rest : Octets}
    (h : takeFrame? stream = some (message, rest)) : rest.length < stream.length := by
  unfold takeFrame? at h
  cases first : Octets.take? 2 stream with
  | none => simp [first] at h
  | some parts =>
    have shorter := Octets.length_of_take? first
    simp only [first, Option.bind_eq_bind, Option.bind_some] at h
    have remains := Octets.length_of_take? h
    simp only at remains
    omega

/-- How long a connection waits for the length of a message, in milliseconds. -/
def readTimeout : Nat := 30000

structure Connection where
  token : Option String
  peer : Address
  /-- What was received and is not a whole message yet. -/
  unread : Octets := []
  /-- Why the connection has failed. -/
  failure : Option Failure := none
  /-- How long it has waited for the length of the next message. -/
  waited : Nat := 0
  /-- Whether the client still takes answers. -/
  listens : Bool := true

/-- What serving messages leads to. -/
structure Service where
  connection : Connection
  ledger : Ledger
  /-- What is sent back. -/
  written : Octets
  /-- The queries that were sent on to the recursor. -/
  forwarded : List Octets

namespace Connection

/-- Whether the connection has neither failed nor waited too long. -/
def isOpen (connection : Connection) : Bool :=
  connection.failure.isNone && connection.waited < readTimeout

/-- Whether a message has begun, so that its end has to come. -/
def insideMessage (connection : Connection) : Bool := 2 ≤ connection.unread.length

def query (connection : Connection) (message : Octets) : Query where
  token := connection.token
  source := .host
  message
  peer := connection.peer
  relayedFor := none
  blockAds := false

/-- Serves all messages of a stream that are there as a whole, up to the first failure. Behind an
answer the connection waits anew. -/
def serve (resolver : Resolver) (recursor : Recursor) (now : Instant) (connection : Connection)
    (stream : Octets) (ledger : Ledger) : Service :=
  match h : takeFrame? stream with
  | none => ⟨{ connection with unread := stream }, ledger, [], []⟩
  | some (message, rest) =>
    have : rest.length < stream.length := length_lt_of_takeFrame? h
    let resolution := resolver.resolve recursor (connection.query message) now ledger
    let fail := fun failure =>
      ⟨{ connection with unread := rest, failure := some failure }, resolution.ledger, [],
        resolution.forwarded.toList⟩
    match resolution.result with
    | .error error => fail (.rejected error)
    | .ok answer =>
      match frame? answer with
      | none => fail (.messageTooLarge answer.length)
      | some framed =>
        if connection.listens then
          let later := serve resolver recursor now { connection with waited := 0 } rest
            resolution.ledger
          { later with
            written := framed ++ later.written
            forwarded := resolution.forwarded.toList ++ later.forwarded }
        else fail .notTaken
termination_by stream.length

/-- Receives octets, unless the connection has ended. -/
def receive (resolver : Resolver) (recursor : Recursor) (now : Instant) (connection : Connection)
    (bytes : Octets) (ledger : Ledger) : Service :=
  if connection.isOpen then
    serve resolver recursor now connection (connection.unread ++ bytes) ledger
  else ⟨connection, ledger, [], []⟩

/-- Some milliseconds pass in which nothing is received. -/
def pass (connection : Connection) (elapsed : Nat) : Connection :=
  if connection.isOpen && !connection.insideMessage then
    { connection with waited := connection.waited + elapsed }
  else connection

/-- The client goes away. What it has sent may still come, but it takes no answer. -/
def leave (connection : Connection) : Connection :=
  if connection.isOpen then { connection with listens := false } else connection

/-- How a connection ends when its stream does. Inside a length that is no failure, and neither is a
client that let it wait too long. -/
def close (connection : Connection) : Except Failure Unit :=
  match connection.failure with
  | some failure => .error failure
  | none => if connection.insideMessage then .error .endedEarly else .ok ()

end Connection

end Tollgate.Dns.Dot
