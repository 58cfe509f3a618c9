import Tollgate.Ledger.Ledger
import Tollgate.Metering.Meter
import Tollgate.Text.Decimal

/-!
# Billing of tunnels

Every batch of a tunnel's meter is debited from the token that opened the tunnel. A debit that fails
ends the tunnel; its batch is lost.
-/

namespace Tollgate.Tunnel

/-- Who pays for a tunnel, and how much. -/
structure Billing where
  token : String
  /-- What an octet costs. -/
  multiplier : Int
  deriving DecidableEq, Repr

/-- A debit of a batch. -/
structure Debit where
  batch : UInt64
  /-- What the ledger was asked for. -/
  amount : Int
  now : Instant
  /-- Whether the ledger has debited it. -/
  paid : Bool
  deriving DecidableEq, Repr

namespace Billing

/-- The nearest 64-bit integer. -/
def saturated (n : Int) : Int := max Text.minInt64 (min Text.maxInt64 n)

def price (billing : Billing) (batch : UInt64) : Int :=
  saturated (batch.toInt64.toInt * billing.multiplier)

def debit (billing : Billing) (batch : UInt64) (now : Instant) (ledger : Ledger) :
    Debit × Ledger :=
  let amount := billing.price batch
  match ledger.cost billing.token amount now with
  | .ok ledger => (⟨batch, amount, now, true⟩, ledger)
  | .error _ => (⟨batch, amount, now, false⟩, ledger)

end Billing

end Tollgate.Tunnel
