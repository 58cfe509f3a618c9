import Tollgate.Ledger.Store

/-!
# Ledgers

The resolver, the tunnels and the ticket shop work with any ledger. Besides the ticket store there
is a free one, where every token has a fixed balance, and there are ledgers that are out of order.
-/

namespace Tollgate

inductive Ledger where
  | store (store : Store)
  /-- Every token has the same balance, and nothing is ever debited. -/
  | free
  /-- The storage cannot be reached. -/
  | unreachable (reason : String)
  /-- Tokens look as in a free ledger, but nothing can be credited or debited. -/
  | frozen (reason : String)
  deriving DecidableEq, Repr

namespace Ledger

def freeBalance : Int := 100

/-- The one ticket that a token of a free ledger has. -/
def freeTicket (token : String) (now : Instant) : Ticket where
  id := 0
  token
  bytes := freeBalance
  total := freeBalance
  payOrder := ""
  buyOrder := ""
  created := now
  updated := now
  expires := now + Ticket.lifetime freeBalance

def create (credit : Credit) (now : Instant) : Ledger → Except LedgerError Ledger
  | .store kept => (kept.create credit now).map .store
  | .free => .ok .free
  | .unreachable reason => .error (.storage reason)
  | .frozen reason => .error (.storage reason)

def cost (token : String) (amount : Int) (now : Instant) : Ledger → Except LedgerError Ledger
  | .store kept => (kept.cost token amount now).map .store
  | .free => .ok .free
  | .unreachable reason => .error (.storage reason)
  | .frozen _ => .error .noEntitlement

/-- The newest tickets of a token, newest first. -/
def list (token : String) (limit : Nat) (now : Instant) : Ledger → Except LedgerError (List Ticket)
  | .store kept => .ok (kept.list token limit)
  | .free => .ok ([freeTicket token now].take limit)
  | .unreachable reason => .error (.storage reason)
  | .frozen _ => .ok ([freeTicket token now].take limit)

/-- Whether a token is served: its newest ticket has bytes left. -/
def isActive (token : String) (now : Instant) (ledger : Ledger) : Except LedgerError Bool :=
  (ledger.list token 1 now).map fun tickets => tickets.head?.any (0 < ·.bytes)

end Ledger

end Tollgate
