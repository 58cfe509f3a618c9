import Tollgate.Json.Quoted
import Tollgate.Time.Calendar

/-!
# Tickets

A ticket grants its owner, an access token, a number of bytes for a time: thirty days for every
whole GiB, and thirty days at least. A token may hold many tickets. The time of a new one starts
where the token's latest ticket ends, if that is still to come.
-/

namespace Tollgate

/-- A prepaid number of bytes. -/
structure Ticket where
  id : Int
  /-- The access token that owns the ticket. -/
  token : String
  /-- The bytes left, negative once overdrawn. -/
  bytes : Int
  /-- The bytes paid for. -/
  total : Int
  payOrder : String
  buyOrder : String
  created : Instant
  updated : Instant
  expires : Instant
  deriving DecidableEq, Repr

namespace Ticket

/-- The bytes that extend the lifetime of a ticket by one period. -/
def bytesPerPeriod : Int := 1024 * 1024 * 1024

def daysPerPeriod : Int := 30

def lifetimeDays (bytes : Int) : Int := daysPerPeriod * max 1 (bytes.tdiv bytesPerPeriod)

/-- The lifetime of a ticket in milliseconds. -/
def lifetime (bytes : Int) : Int := lifetimeDays bytes * Instant.perDay

/-- The lifetime in milliseconds, if that is a 64-bit number. -/
def lifetime? (bytes : Int) : Option Int := some (lifetime bytes) |>.filter Text.fitsInt64

/-- When a ticket bought now expires, given when the token's latest ticket does. There is no answer
when the lifetime or the date runs out of range. -/
def expiry? (latest : Option Instant) (bytes : Int) (now : Instant) : Option Instant := do
  let start :=
    match latest with
    | some expires => if now < expires then expires else now
    | none => now
  let expires := start + (← lifetime? bytes)
  if expires ≤ Instant.last then some expires else none

/-- Whether the ticket can still be charged. -/
def isValidAt (ticket : Ticket) (now : Instant) : Bool := now < ticket.expires

/-- The ticket as its owner sees it; the token is not shown. -/
def json (ticket : Ticket) : String :=
  Json.object [
    ("id", toString ticket.id),
    ("bytes", toString ticket.bytes),
    ("total_bytes", toString ticket.total),
    ("pay_order", Json.quote ticket.payOrder),
    ("buy_order", Json.quote ticket.buyOrder),
    ("created", Json.quote (Instant.text ticket.created)),
    ("updated", Json.quote (Instant.text ticket.updated)),
    ("expires", Json.quote (Instant.text ticket.expires))]

end Ticket

end Tollgate
