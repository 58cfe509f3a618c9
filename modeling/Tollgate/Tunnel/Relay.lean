import Tollgate.Tunnel.Billing

/-!
# Relaying streams

A tunnel carries octets between a client and its target until one of them ends, until it is closed,
or until a debit fails. Then both sides are closed. What crosses the target's side is metered.
-/

namespace Tollgate.Tunnel

open Metering (Meter)

/-- A tunnel between two streams. -/
structure Relay where
  /-- Who pays, and the meter; nothing for a tunnel that is free. -/
  bill : Option (Billing × Meter)
  isOpen : Bool := true

inductive RelayEvent where
  | fromClient (bytes : Octets)
  | fromTarget (bytes : Octets)
  | clientEnds
  | targetEnds
  | closes
  /-- Time goes on; it is counted in milliseconds from the start of the tunnel. -/
  | passes (elapsed : Nat)
  deriving DecidableEq, Repr

structure RelayStep where
  relay : Relay
  ledger : Ledger
  toClient : Octets := []
  toTarget : Octets := []

namespace Relay

/-- A tunnel that somebody may pay for, whose meter has a period. -/
def start (billing : Option (Billing × Nat)) : Relay :=
  { bill := billing.map fun (billing, period) => (billing, .ofPeriod period) }

/-- Counts octets that crossed the target's side. -/
def count (relay : Relay) (bytes : Octets) : Relay :=
  let count := UInt64.ofNat bytes.length
  { relay with bill := relay.bill.map fun (billing, meter) => (billing, meter.add count) }

/-- Debits a batch, if there is one, and says whether that succeeded. -/
def settle (billing : Billing) (batch : Option UInt64) (now : Instant) (ledger : Ledger) :
    Bool × Ledger :=
  match batch with
  | none => (true, ledger)
  | some batch =>
    let (debit, ledger) := billing.debit batch now ledger
    (debit.paid, ledger)

/-- Closes a tunnel on both sides. What was not debited yet is debited. -/
def close (relay : Relay) (now : Instant) (ledger : Ledger) : Relay × Ledger :=
  match relay.bill with
  | none => ({ relay with isOpen := false }, ledger)
  | some (billing, meter) =>
    let (batch, meter) := meter.stop
    let (_, ledger) := settle billing batch now ledger
    (⟨some (billing, meter), false⟩, ledger)

/-- Lets time go on, which debits what is due. -/
def pass (relay : Relay) (elapsed : Nat) (now : Instant) (ledger : Ledger) : Relay × Ledger :=
  match relay.bill with
  | none => (relay, ledger)
  | some (billing, meter) =>
    let (batch, meter) := meter.advance elapsed
    let (paid, ledger) := settle billing batch now ledger
    let relay := { relay with bill := some (billing, meter) }
    if paid then (relay, ledger) else relay.close now ledger

/-- What an event does to a tunnel. Nothing happens to a tunnel that is closed. -/
def step (relay : Relay) (event : RelayEvent) (now : Instant) (ledger : Ledger) : RelayStep :=
  if relay.isOpen then
    match event with
    | .fromClient bytes => { relay := relay.count bytes, ledger, toTarget := bytes }
    | .fromTarget bytes => { relay := relay.count bytes, ledger, toClient := bytes }
    | .clientEnds | .targetEnds | .closes =>
      let (relay, ledger) := relay.close now ledger
      { relay, ledger }
    | .passes elapsed =>
      let (relay, ledger) := relay.pass elapsed now ledger
      { relay, ledger }
  else { relay, ledger }

end Relay

end Tollgate.Tunnel
