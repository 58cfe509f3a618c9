import Tollgate.Json.Record
import Tollgate.Json.Quoted
import Tollgate.Text.Base64
import Tollgate.Text.Split
import Tollgate.Time.Calendar

/-!
# Orders

An order is known by its number: the access token to be credited, `@`, and the time of the order.
-/

namespace Tollgate.Tickets

/-- An order as the payment provider knows it. -/
structure Order where
  number : String
  /-- The amount in yuan. -/
  amount : String
  /-- The provider's number for the payment. -/
  trade : String
  deriving DecidableEq, Repr

namespace Order

def shape : Json.Shape where
  name := "Order"
  fields := [⟨"order_no", .text, true⟩, ⟨"amount", .text, true⟩, ⟨"trade_no", .text, false⟩]

def ofJson? (text : Octets) : Option Order :=
  match Json.readRecord shape text with
  | .ok [number, amount, trade] => some ⟨number.toText, amount.toText, trade.toText⟩
  | _ => none

/-- The number of an order for a token. -/
def numberFor (token : String) (now : Instant) : String := s!"{token}@{Instant.textToSeconds now}"

/-- The token that an order number credits. -/
def tokenOf (number : String) : String := String.ofList (Text.before '@' number.toList)

end Order

/-- A fresh access token from random octets: base64url in lower case, with letters only. -/
def tokenOfRandom (random : Octets) : String :=
  let tidy := fun (byte : UInt8) =>
    let c := (Char.ofNat byte.toNat).toLower
    if c = '-' ∨ c = '_' then 'z' else c
  String.ofList ((Text.Base64.encode .urlSafe random).map tidy)

/-- A request to buy. -/
structure Purchase where
  token : String
  cents : Int
  deriving DecidableEq, Repr

namespace Purchase

/-- How requests to buy are written down. -/
def shape : Json.Shape where
  name := "BuyRequest"
  fields := [⟨"token", .text, false⟩, ⟨"cents", .integer, true⟩]

/-- The request that a text describes, or what is wrong with it. -/
def ofJson (text : Octets) : Except String Purchase :=
  match Json.readRecord shape text with
  | .ok [token, cents] => .ok ⟨token.toText, cents.toInt⟩
  | .ok _ => .error ""
  | .error failure => .error (failure.message text)

end Purchase

/-- What a buyer is told about an order: the text of the payment code, the token and the number. -/
def receipt (code token number : String) : String :=
  Json.object [("qr", Json.quote code), ("token", Json.quote token), ("order", Json.quote number)]

end Tollgate.Tickets
