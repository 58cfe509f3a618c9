import Tollgate.Http.Message
import Tollgate.Ledger.Ledger
import Tollgate.Text.Form
import Tollgate.Tickets.Amount
import Tollgate.Tickets.Order

/-!
# The ticket shop

Tokens see their newest tickets at `/ticket/{token}`. A purchase is started by posting to `/ticket/`
with the parameter `buy`; it creates an order with the payment provider. The provider's
notification, posted to `/ticket/`, credits the order. Without a provider nothing can be bought.
-/

namespace Tollgate.Tickets

def path : String := "/ticket/"

def minPurchaseCents : Int := 100

/-- How many tickets a token sees. -/
def listLimit : Nat := 10

structure PaymentProvider where
  /-- The payment code for an order, given where the provider is to report the payment. -/
  code : Order → (notifyUrl : String) → Option String
  /-- The paid order that a notification reports, if the notification is genuine. -/
  paid : Http.Headers → Octets → Option Order

structure Shop where
  payment : Option PaymentProvider
  mibPerYuan : Int

/-- How a request ended. Nothing is answered when the credit of a payment has no expiry date. -/
structure Visit where
  response : Option Http.Response
  ledger : Ledger
  /-- The order that the provider was given, and where it is to report the payment. -/
  ordered : Option (Order × String)
  /-- The headers of the notification that the provider was shown. -/
  notified : Option Http.Headers

private def plain (status : Nat) (message : String) : Http.Response :=
  ⟨status, [], Octets.ofText message⟩

private def json (text : String) : Http.Response :=
  .ofType "application/json" 200 (Octets.ofText text)

namespace Shop

def tokenOfPath (uriPath : String) : String :=
  let rest := (Text.dropStart? path.toList uriPath.toList).getD []
  String.ofList (Text.dropEndWhile (· = '/') rest)

def list (token : String) (now : Instant) (ledger : Ledger) : Http.Response :=
  if token.isEmpty then plain 400 "missing token"
  else
    match ledger.list token listLimit now with
    | .ok tickets => json (Json.array (tickets.map Ticket.json))
    | .error _ => plain 500 "Internal Server Error"

/-- Where the provider is to report the payment of an order. -/
def notifyUrl (request : Http.Request) : String :=
  "https://" ++ request.host?.getD "" ++ request.uri.path

/-- Starts a purchase. A buyer without a token gets a fresh one. -/
def buy (payment : PaymentProvider) (request : Http.Request) (random : Octets) (now : Instant) :
    Http.Response × Option (Order × String) :=
  match Purchase.ofJson request.body with
  | .error message => (plain 400 message, none)
  | .ok purchase =>
    if purchase.cents < minPurchaseCents then (plain 400 "cents must be at least 100", none)
    else
      let token := if purchase.token.isEmpty then tokenOfRandom random else purchase.token
      let order : Order := ⟨Order.numberFor token now, formatCents purchase.cents, ""⟩
      let url := notifyUrl request
      let response :=
        match payment.code order url with
        | some code => json (receipt code token order.number)
        | none => plain 502 "payment provider unavailable"
      (response, some (order, url))

def credit (shop : Shop) (order : Order) (now : Instant) (ledger : Ledger) :
    Option Http.Response × Ledger :=
  match (parseCents order.amount).bind (creditBytes shop.mibPerYuan) with
  | none => (some (plain 400 "invalid amount"), ledger)
  | some bytes =>
    match ledger.create ⟨Order.tokenOf order.number, bytes, order.number, order.trade⟩ now with
    | .ok ledger => (some (plain 200 "success"), ledger)
    | .error .expiryOutOfRange => (none, ledger)
    | .error _ => (some (plain 500 "Internal Server Error"), ledger)

/-- Takes the provider's notification of a payment. -/
def notify (shop : Shop) (payment : PaymentProvider) (request : Http.Request) (now : Instant)
    (ledger : Ledger) : Option Http.Response × Ledger :=
  match payment.paid request.headers request.body with
  | none => (some (plain 400 "invalid notification"), ledger)
  | some order => shop.credit order now ledger

def isPurchase (request : Http.Request) : Bool :=
  ((request.uri.query.map Text.Form.pairs).getD []).any (·.1 = "buy")

def serve (shop : Shop) (request : Http.Request) (random : Octets) (now : Instant)
    (ledger : Ledger) : Visit :=
  match request.method with
  | "GET" => ⟨some (list (tokenOfPath request.uri.path) now ledger), ledger, none, none⟩
  | "POST" =>
    match shop.payment with
    | none => ⟨some (plain 501 "purchases disabled"), ledger, none, none⟩
    | some payment =>
      if isPurchase request then
        let (response, ordered) := buy payment request random now
        ⟨some response, ledger, ordered, none⟩
      else
        let (response, ledger) := shop.notify payment request now ledger
        ⟨response, ledger, none, some request.headers⟩
  | _ => ⟨some (plain 405 "Method Not Allowed"), ledger, none, none⟩

end Shop

end Tollgate.Tickets
