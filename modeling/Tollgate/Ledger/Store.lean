import Tollgate.Ledger.Ticket

/-!
# The ticket store

Tickets are kept in the order in which they were created. A debit walks the token's chargeable
tickets from the oldest on, and the last one takes whatever the others do not cover, so it may end
below zero. A debit is refused only when nothing is chargeable.
-/

namespace Tollgate

inductive LedgerError where
  | storage (reason : String)
  | noEntitlement
  /-- A new ticket's expiry has no date. -/
  | expiryOutOfRange
  deriving DecidableEq, Repr

def LedgerError.message : LedgerError → String
  | .storage reason => s!"Storage error: {reason}"
  | .noEntitlement => "No chargeable ticket for token"
  | .expiryOutOfRange => "Expiry out of range"

/-- The tickets of all tokens. -/
structure Store where
  /-- The tickets, oldest first. -/
  tickets : List Ticket
  /-- The id of the next ticket. -/
  nextId : Nat
  deriving DecidableEq, Repr

/-- What a paid order credits. -/
structure Credit where
  token : String
  bytes : Int
  payOrder : String
  buyOrder : String
  deriving DecidableEq, Repr

namespace Store

def empty : Store := ⟨[], 1⟩

/-- The tickets of a token, oldest first. -/
def ticketsOf (token : String) (store : Store) : List Ticket :=
  store.tickets.filter (·.token = token)

def newest? (token : String) (store : Store) : Option Ticket := (store.ticketsOf token).getLast?

/-- Credits a paid order. A pay order that was credited before uses up an id and changes nothing
else. A ticket whose expiry has no date is refused before anything changes. -/
def create (credit : Credit) (now : Instant) (store : Store) : Except LedgerError Store :=
  match Ticket.expiry? ((store.newest? credit.token).map (·.expires)) credit.bytes now with
  | none => .error .expiryOutOfRange
  | some expires =>
    let known := store.tickets.any (·.payOrder = credit.payOrder)
    let ticket : Ticket := {
      id := store.nextId
      token := credit.token
      bytes := credit.bytes
      total := credit.bytes
      payOrder := credit.payOrder
      buyOrder := credit.buyOrder
      created := now
      updated := now
      expires }
    .ok ⟨if known then store.tickets else store.tickets ++ [ticket], store.nextId + 1⟩

/-- Whether a ticket can pay for a token now. -/
def chargeable (token : String) (now : Instant) (ticket : Ticket) : Bool :=
  ticket.token = token && ticket.isValidAt now && 0 < ticket.bytes

/-- The ticket with an amount taken from it. -/
def charged (amount : Int) (now : Instant) (ticket : Ticket) : Ticket :=
  { ticket with bytes := ticket.bytes - amount, updated := now }

/-- Takes an amount from the first chargeable ticket, if that covers it. -/
def debitFirst? (token : String) (amount : Int) (now : Instant) :
    List Ticket → Option (List Ticket)
  | [] => none
  | ticket :: rest =>
    if chargeable token now ticket then
      if amount ≤ ticket.bytes then some (charged amount now ticket :: rest) else none
    else (debitFirst? token amount now rest).map (ticket :: ·)

/-- Takes an amount from the chargeable tickets in order. The last of them takes what is left. -/
def debitAll (token : String) (amount : Int) (now : Instant) : List Ticket → List Ticket
  | [] => []
  | ticket :: rest =>
    if chargeable token now ticket then
      if amount ≤ ticket.bytes ∨ rest.any (chargeable token now) = false then
        charged amount now ticket :: rest
      else charged ticket.bytes now ticket :: debitAll token (amount - ticket.bytes) now rest
    else ticket :: debitAll token amount now rest

/-- The debit without its short cut: it is refused when nothing is chargeable. -/
def costThroughAll (token : String) (amount : Int) (now : Instant) (store : Store) :
    Except LedgerError Store :=
  if amount ≤ 0 then .ok store
  else if store.tickets.any (chargeable token now) then
    .ok { store with tickets := debitAll token amount now store.tickets }
  else .error .noEntitlement

/-- Debits an amount. Amounts that are not positive cost nothing. Mostly the first chargeable ticket
covers the amount, and the others need not be looked at. -/
def cost (token : String) (amount : Int) (now : Instant) (store : Store) :
    Except LedgerError Store :=
  if amount ≤ 0 then .ok store
  else
    match debitFirst? token amount now store.tickets with
    | some tickets => .ok { store with tickets }
    | none => store.costThroughAll token amount now

/-- The newest tickets of a token, newest first. Limits that are no 64-bit integers are none. -/
def list (token : String) (limit : Nat) (store : Store) : List Ticket :=
  let tickets := (store.ticketsOf token).reverse
  if Text.fitsInt64 limit then tickets.take limit else tickets

end Store

/-- What may happen to a store. -/
inductive LedgerOperation where
  | create (credit : Credit) (now : Instant)
  | cost (token : String) (amount : Int) (now : Instant)
  deriving DecidableEq, Repr

namespace LedgerOperation

/-- What an operation makes of a store, or why it is refused. -/
def apply : LedgerOperation → Store → Except LedgerError Store
  | .create credit now, store => store.create credit now
  | .cost token amount now, store => store.cost token amount now

/-- The store after an operation, which is the same store if it was refused. -/
def after (operation : LedgerOperation) (store : Store) : Store :=
  match operation.apply store with
  | .ok store => store
  | .error _ => store

end LedgerOperation

def Store.run (store : Store) (operations : List LedgerOperation) : Store :=
  operations.foldl (fun store operation => operation.after store) store

end Tollgate
