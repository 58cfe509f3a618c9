import Tollgate.Tunnel.Billing
import Tollgate.Tunnel.Datagrams

/-!
# Sessions of a tunnel

Two parties share the counter of a tunnel. The relay counts what crosses the upstream leg, and the
task of the meter empties the counter: when a flush is due, and a last time when it notices that it
is to stop. What it finds is debited before it looks at the clock or at the stop again, and the
relay goes on meanwhile. A session is any interleaving of the two, in which others may use the
ledger as they like.
-/

namespace Tollgate.Tunnel

open Metering (Attempt ByteCounter Meter)

/-- One attempt to move octets across the upstream leg of a tunnel. -/
inductive Crossing where
  /-- The stream of the target is read from. -/
  | read (attempt : Attempt Octets)
  /-- The stream of the target is written to. -/
  | write (attempt : Attempt Nat)
  /-- A capsule has come from the client, whose payload goes to the socket. -/
  | send (capsule : Capsule) (socket : Octets → Attempt Nat)
  /-- A datagram is received on the socket. -/
  | receive (socket : Nat → Attempt Octets)

/-- What an attempt does to the counter. -/
def Crossing.count (counter : ByteCounter) : Crossing → ByteCounter
  | .read attempt => counter.observe List.length attempt
  | .write attempt => counter.observe id attempt
  | .send capsule socket => (capsule.forward socket counter).counter
  | .receive socket => (receiveDatagram socket counter).2

/-- The octets that really crossed. -/
def Crossing.moved : Crossing → Nat
  | .read attempt => attempt.moved List.length
  | .write attempt => attempt.moved id
  | .send capsule socket =>
    match capsule.udpPayload? with
    | none => 0
    | some payload => (socket payload).moved id
  | .receive socket => (socket maxUdpPayload).moved List.length

/-- What crossed the upstream leg, in the stretches between flushes. -/
structure Traffic where
  past : List Nat := []
  current : Nat := 0

namespace Traffic

def add (traffic : Traffic) (moved : Nat) : Traffic :=
  { traffic with current := traffic.current + moved }

/-- Begins a new stretch. -/
def cut (traffic : Traffic) : Traffic := ⟨traffic.past ++ [traffic.current], 0⟩

def stretches (traffic : Traffic) : List Nat := traffic.past ++ [traffic.current]

end Traffic

/-- The state that the relay and the meter of a tunnel share. -/
structure Session where
  meter : Meter
  ledger : Ledger
  traffic : Traffic := {}
  /-- The batch that is being debited. -/
  inFlight : Option UInt64 := none
  debits : List Debit := []
  /-- A debit has closed the tunnel. -/
  closed : Bool := false
  /-- The relay is over, and the meter is to stop. -/
  stopping : Bool := false

namespace Session

inductive Event where
  | crosses (crossing : Crossing)
  /-- The task of the meter looks at the clock. -/
  | passes (elapsed : Nat)
  /-- The relay is over. -/
  | stops
  /-- The task of the meter notices that it is to stop. -/
  | breaks
  /-- The ledger answers the debit that is under way. -/
  | answers (now : Instant)
  /-- Others use the ledger. -/
  | others (change : Ledger → Ledger)

def start (period : Nat) (ledger : Ledger) : Session := { meter := .ofPeriod period, ledger }

def count (session : Session) (crossing : Crossing) : Session :=
  { session with
    meter := { session.meter with counter := crossing.count session.meter.counter }
    traffic := session.traffic.add crossing.moved }

/-- Takes over what a meter has done, with a batch to be debited if there is one. -/
def hand (session : Session) (batch : Option UInt64) (meter : Meter) (traffic : Traffic) :
    Session :=
  { session with meter, inFlight := batch, traffic }

/-- The ledger answers the debit of a batch. A debit that fails closes the tunnel. -/
def settle (billing : Billing) (session : Session) (batch : UInt64) (now : Instant) : Session :=
  let (debit, ledger) := billing.debit batch now session.ledger
  { session with
    ledger
    inFlight := none
    debits := session.debits ++ [debit]
    closed := session.closed || !debit.paid }

/-- The session after an event. Nothing crosses once the relay is over, and the task of the meter
does nothing else while a debit is under way. -/
def after (billing : Billing) (session : Session) : Event → Session
  | .crosses crossing => if session.stopping then session else session.count crossing
  | .passes elapsed =>
    if session.inFlight.isSome then session
    else
      let (batch, meter) := session.meter.advance elapsed
      session.hand batch meter
        (if session.meter.isDue elapsed then session.traffic.cut else session.traffic)
  | .stops => { session with stopping := true }
  | .breaks =>
    if session.inFlight.isSome || !session.stopping then session
    else
      let (batch, meter) := session.meter.stop
      session.hand batch meter
        (if session.meter.isRunning then session.traffic.cut else session.traffic)
  | .answers now =>
    match session.inFlight with
    | none => session
    | some batch => session.settle billing batch now
  | .others change => { session with ledger := change session.ledger }

def run (billing : Billing) (session : Session) (events : List Event) : Session :=
  events.foldl (after billing) session

/-- The task of the meter has ended. -/
def isOver (session : Session) : Bool := !session.meter.isRunning && session.inFlight.isNone

/-- The batches that were handed over to be debited. -/
def handed (session : Session) : List UInt64 :=
  session.debits.map (·.batch) ++ session.inFlight.toList

end Session

end Tollgate.Tunnel
