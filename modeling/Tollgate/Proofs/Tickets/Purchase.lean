import Tollgate.Proofs.Ledger.Isolation
import Tollgate.Proofs.Tickets.OrderNumber
import Tollgate.Tickets.Shop

/-!
# Purchases and payments

`Shop.Bought` says once how a request to buy can end, and `Shop.credit_of_payable` turns the credit
of a paid order into an operation on the ticket store, so that what is known of the steps of a store
is known of payments.

The buyer's token travels through the payment provider inside the order number. What comes back is
credited to the token that the number names, and to no other. That is the buyer's token unless it
has an `@`.
-/

namespace Tollgate.Tickets

/-- The token that a purchase is made for: the buyer's, or a fresh one. -/
def Purchase.holder (purchase : Purchase) (random : Octets) : String :=
  if purchase.token.isEmpty then tokenOfRandom random else purchase.token

/-- The order that the provider is given for a purchase. -/
def Purchase.order (purchase : Purchase) (random : Octets) (now : Instant) : Order where
  number := Order.numberFor (purchase.holder random) now
  amount := formatCents purchase.cents
  trade := ""

theorem Purchase.holder_of_named {purchase : Purchase} (named : purchase.token ≠ "")
    (random : Octets) : purchase.holder random = purchase.token := by
  rw [holder, if_neg]
  rwa [String.isEmpty_iff]

namespace Shop

variable {shop : Shop} {payment : PaymentProvider} {request : Http.Request} {random : Octets}
variable {now : Instant} {response : Http.Response} {order : Order} {url : String}

/-! ## Buying -/

/-- How a request to buy can end: its answer, and the order that the provider was given. -/
inductive Bought (payment : PaymentProvider) (request : Http.Request) (random : Octets)
    (now : Instant) : Http.Response → Option (Order × String) → Prop where
  | unreadable {message : String} (read : Purchase.ofJson request.body = .error message) :
      Bought payment request random now ⟨400, [], Octets.ofText message⟩ none
  | tooSmall {purchase : Purchase} (read : Purchase.ofJson request.body = .ok purchase)
      (small : purchase.cents < minPurchaseCents) :
      Bought payment request random now ⟨400, [], Octets.ofText "cents must be at least 100"⟩ none
  | offered {purchase : Purchase} {code : String}
      (read : Purchase.ofJson request.body = .ok purchase)
      (enough : minPurchaseCents ≤ purchase.cents)
      (taken : payment.code (purchase.order random now) (notifyUrl request) = some code) :
      Bought payment request random now
        (.ofType "application/json" 200 (Octets.ofText
          (receipt code (purchase.holder random) (purchase.order random now).number)))
        (some (purchase.order random now, notifyUrl request))
  | declined {purchase : Purchase} (read : Purchase.ofJson request.body = .ok purchase)
      (enough : minPurchaseCents ≤ purchase.cents)
      (refused : payment.code (purchase.order random now) (notifyUrl request) = none) :
      Bought payment request random now
        ⟨502, [], Octets.ofText "payment provider unavailable"⟩
        (some (purchase.order random now, notifyUrl request))

theorem bought (payment : PaymentProvider) (request : Http.Request) (random : Octets)
    (now : Instant) :
    Bought payment request random now (buy payment request random now).1
      (buy payment request random now).2 := by
  cases read : Purchase.ofJson request.body with
  | error message =>
      simp only [buy, read]
      exact .unreadable read
  | ok purchase =>
      by_cases small : purchase.cents < minPurchaseCents
      · simp only [buy, read, small, if_true]
        exact .tooSmall read small
      · have enough : minPurchaseCents ≤ purchase.cents := Int.not_lt.mp small
        cases taken : payment.code (purchase.order random now) (notifyUrl request) with
        | some code =>
            have ending := Bought.offered read enough taken
            rw [Purchase.order, Purchase.holder] at taken
            simp only [buy, read, small, if_false, taken]
            exact ending
        | none =>
            have ending := Bought.declined read enough taken
            rw [Purchase.order, Purchase.holder] at taken
            simp only [buy, read, small, if_false, taken]
            exact ending

/-- An answer of 200 is an offer: the receipt for the order that the provider was given. -/
theorem offered_of_status_eq_200
    (sold : buy payment request random now = (response, some (order, url)))
    (ok : response.status = 200) :
    ∃ purchase code, Purchase.ofJson request.body = .ok purchase ∧
      minPurchaseCents ≤ purchase.cents ∧ order = purchase.order random now ∧
      url = notifyUrl request ∧ payment.code order url = some code ∧
      response = .ofType "application/json" 200
        (Octets.ofText (receipt code (purchase.holder random) order.number)) := by
  have ending := bought payment request random now
  rw [sold] at ending
  cases ending with
  | offered read enough taken => exact ⟨_, _, read, enough, rfl, rfl, taken, rfl⟩
  | declined read enough refused => cases ok

/-! ## Crediting -/

/-- What a paid order credits, if its amount can be read. -/
def creditOf? (shop : Shop) (order : Order) : Option Credit :=
  ((parseCents order.amount).bind (creditBytes shop.mibPerYuan)).map fun bytes =>
    ⟨Order.tokenOf order.number, bytes, order.number, order.trade⟩

/-- The answer to a notification of which the order was credited, or had been before. -/
def success : Http.Response := ⟨200, [], Octets.ofText "success"⟩

/-- The answer to a notification, by what became of the credit. -/
def answerTo : Except LedgerError Unit → Option Http.Response
  | .ok () => some success
  | .error .expiryOutOfRange => none
  | .error _ => some ⟨500, [], Octets.ofText "Internal Server Error"⟩

theorem answerTo_eq_success_iff {outcome : Except LedgerError Unit} :
    answerTo outcome = some success ↔ outcome = .ok () := by
  constructor
  · intro answered
    rcases outcome with (reason | _ | _) | _
    · cases answered
    · cases answered
    · cases answered
    · rfl
  · rintro rfl
    rfl

theorem token_of_creditOf? {credit : Credit} (payable : shop.creditOf? order = some credit) :
    credit.token = Order.tokenOf order.number ∧ credit.payOrder = order.number := by
  obtain ⟨bytes, -, rfl⟩ := Option.map_eq_some_iff.mp payable
  exact ⟨rfl, rfl⟩

theorem credit_of_unpayable (unpayable : shop.creditOf? order = none) (now : Instant)
    (ledger : Ledger) :
    shop.credit order now ledger = (some ⟨400, [], Octets.ofText "invalid amount"⟩, ledger) := by
  have unread := Option.map_eq_none_iff.mp unpayable
  simp only [credit, unread]
  rfl

/-- A payment is a credit operation of the store, and its answer tells the outcome. -/
theorem credit_of_payable {credit : Credit} (payable : shop.creditOf? order = some credit)
    (now : Instant) (store : Store) :
    shop.credit order now (.store store) =
      (answerTo ((LedgerOperation.create credit now).outcome store),
        .store ((LedgerOperation.create credit now).after store)) := by
  obtain ⟨bytes, read, rfl⟩ := Option.map_eq_some_iff.mp payable
  simp only [Shop.credit, read, Ledger.create, LedgerOperation.outcome, LedgerOperation.after,
    LedgerOperation.apply]
  cases store.create ⟨Order.tokenOf order.number, bytes, order.number, order.trade⟩ now with
  | error reason => cases reason <;> rfl
  | ok later => rfl

/-- How the payment of an amount that can be read ends: it has no expiry date, was credited before,
or adds a ticket. -/
inductive Paid (credit : Credit) (now : Instant) (store : Store) :
    Option Http.Response × Ledger → Prop where
  | dateless (noDate : store.creditExpiry? credit now = none) :
      Paid credit now store (none, .store store)
  | repeated (known : store.Knows credit.payOrder) :
      Paid credit now store (some success, .store { store with nextId := store.nextId + 1 })
  | added {expires : Instant} (dated : store.creditExpiry? credit now = some expires)
      (unknown : ¬ store.Knows credit.payOrder) :
      Paid credit now store (some success,
        .store ⟨store.tickets ++ [credit.ticket store.nextId now expires], store.nextId + 1⟩)

theorem paid {credit : Credit} (payable : shop.creditOf? order = some credit) (now : Instant)
    (store : Store) : Paid credit now store (shop.credit order now (.store store)) := by
  rw [credit_of_payable payable]
  have step := store.step (.create credit now)
  generalize (LedgerOperation.create credit now).outcome store = outcome,
    (LedgerOperation.create credit now).after store = later at step ⊢
  cases step with
  | outOfRange noDate => exact .dateless noDate
  | repeated known => exact .repeated known
  | added dated unknown => exact .added dated unknown

theorem notify_of_genuine (genuine : payment.paid request.headers request.body = some order)
    (now : Instant) (ledger : Ledger) :
    shop.notify payment request now ledger = shop.credit order now ledger := by
  simp only [notify, genuine]

/-- The paid order that a request at the shop reports. -/
def reported? (shop : Shop) (request : Http.Request) : Option Order :=
  if request.method = "POST" ∧ isPurchase request = false then
    shop.payment.bind fun payment => payment.paid request.headers request.body
  else none

/-- A request that reports a paid order credits it, and that is all it does. -/
theorem serve_of_reported (reported : shop.reported? request = some order) (random : Octets)
    (now : Instant) (ledger : Ledger) :
    shop.serve request random now ledger =
      ⟨(shop.credit order now ledger).1, (shop.credit order now ledger).2, none,
        some request.headers⟩ := by
  rw [reported?, Option.ite_none_right_eq_some] at reported
  obtain ⟨⟨isPost, noPurchase⟩, paid⟩ := reported
  obtain ⟨payment, provider, genuine⟩ := Option.bind_eq_some_iff.mp paid
  simp [serve, isPost, noPurchase, provider, notify_of_genuine genuine]

/-- No other request touches the ledger. -/
theorem serve_ledger_of_unreported (unreported : shop.reported? request = none) (random : Octets)
    (now : Instant) (ledger : Ledger) :
    (shop.serve request random now ledger).ledger = ledger := by
  unfold serve
  split
  next => rfl
  next isPost =>
      cases provider : shop.payment with
      | none => rfl
      | some payment =>
          dsimp only
          split
          next => rfl
          next noPurchase =>
              have noNotice : payment.paid request.headers request.body = none := by
                simpa [reported?, isPost, noPurchase, provider] using unreported
              simp only [notify, noNotice]
  next => rfl

theorem exists_store_of_credit (shop : Shop) (order : Order) (now : Instant) (store : Store) :
    ∃ after, (shop.credit order now (.store store)).2 = .store after := by
  cases payable : shop.creditOf? order with
  | none => exact ⟨store, by rw [credit_of_unpayable payable]⟩
  | some credit => exact ⟨_, by rw [credit_of_payable payable]⟩

/-- A payment leaves the tickets of every other token than that of its order number. -/
theorem ticketsOf_credit_of_ne {owner : String} {store after : Store}
    {answer : Option Http.Response}
    (credited : shop.credit order now (.store store) = (answer, .store after))
    (foreign : owner ≠ Order.tokenOf order.number) :
    after.ticketsOf owner = store.ticketsOf owner := by
  cases payable : shop.creditOf? order with
  | none =>
      rw [credit_of_unpayable payable] at credited
      cases credited
      rfl
  | some credit =>
      rw [credit_of_payable payable] at credited
      cases credited
      have other : (LedgerOperation.create credit now).token ≠ owner := by
        rw [LedgerOperation.token, (token_of_creditOf? payable).1]
        exact foreign.symm
      exact Store.ticketsOf_after_of_ne _ store other

/-- The first payment of an order that is answered with success adds a ticket of its own. -/
theorem tickets_credit_of_success {store after : Store}
    (credited : shop.credit order now (.store store) = (some success, .store after))
    (unknown : ¬ store.Knows order.number) :
    ∃ credit expires, shop.creditOf? order = some credit ∧
      after.tickets = store.tickets ++ [credit.ticket store.nextId now expires] := by
  cases payable : shop.creditOf? order with
  | none =>
      rw [credit_of_unpayable payable] at credited
      cases credited
  | some credit =>
      rw [credit_of_payable payable] at credited
      obtain ⟨answered, ledger_eq⟩ := Prod.mk.inj credited
      obtain rfl := Ledger.store.inj ledger_eq
      have step := store.step (.create credit now)
      rw [answerTo_eq_success_iff.mp answered] at step
      rw [← (token_of_creditOf? payable).2] at unknown
      generalize (LedgerOperation.create credit now).after store = later at step ⊢
      cases step with
      | repeated known => exact absurd known unknown
      | added dated => exact ⟨credit, _, rfl, rfl⟩

/-- Where a purchase for a token of the buyer's own is offered, the order number that he is told
credits the token in front of his first `@`: his own token exactly if that has no `@`. Whatever
becomes of the payment, no notification of it changes the tickets of another token. The first one
that is answered with success adds a ticket for that token and that number. -/
theorem order_credits_buyer_iff (shop : Shop) (payment : PaymentProvider)
    (request : Http.Request) (random : Octets) (now : Instant) {purchase : Purchase}
    {response : Http.Response} {order : Order} {url : String}
    (read : Purchase.ofJson request.body = .ok purchase) (named : purchase.token ≠ "")
    (sold : buy payment request random now = (response, some (order, url)))
    (ok : response.status = 200) :
    (∃ code, payment.code order url = some code ∧
      response.body = Octets.ofText (receipt code purchase.token order.number)) ∧
    (Order.tokenOf order.number = purchase.token ↔ '@' ∉ purchase.token.toList) ∧
    ∀ (notice : Http.Request) (paid : Order) (later : Instant) (store : Store),
      payment.paid notice.headers notice.body = some paid → paid.number = order.number →
      ∃ answer after, shop.notify payment notice later (.store store) = (answer, .store after) ∧
        (∀ owner, owner ≠ Order.tokenOf order.number →
          after.ticketsOf owner = store.ticketsOf owner) ∧
        (answer = some success → ¬ store.Knows order.number →
          ∃ (credit : Credit) (expires : Instant), credit.token = Order.tokenOf order.number ∧
            credit.payOrder = order.number ∧
            after.tickets = store.tickets ++ [credit.ticket store.nextId later expires]) := by
  obtain ⟨offered, code, read', -, rfl, rfl, taken, rfl⟩ := offered_of_status_eq_200 sold ok
  rw [read] at read'
  obtain rfl := Except.ok.inj read'
  have holder_eq := Purchase.holder_of_named named random
  refine ⟨⟨code, taken, ?_⟩, ?_, ?_⟩
  · rw [← holder_eq]
    rfl
  · rw [Purchase.order, holder_eq]
    exact Order.tokenOf_numberFor_eq_iff
  · intro notice paid later store genuine number_eq
    obtain ⟨after, ledger_eq⟩ := exists_store_of_credit shop paid later store
    rw [notify_of_genuine genuine, ← number_eq]
    refine ⟨(shop.credit paid later (.store store)).1, after, Prod.ext rfl ledger_eq, ?_, ?_⟩
    · intro owner foreign
      exact ticketsOf_credit_of_ne (Prod.ext rfl ledger_eq) foreign
    · intro answered unknown
      obtain ⟨credit, expires, payable, tickets_eq⟩ :=
        tickets_credit_of_success (Prod.ext answered ledger_eq) unknown
      obtain ⟨token_eq, payOrder_eq⟩ := token_of_creditOf? payable
      exact ⟨credit, expires, token_eq, payOrder_eq, tickets_eq⟩

/-- A provider whose payment codes name the order, and which takes the text of an order for a
notification of its payment. -/
def namingProvider : PaymentProvider where
  code order _ := some ("qr://" ++ order.number)
  paid _ body := Order.ofJson? body

def posted (query : Option String) (body : String) : Http.Request where
  method := "POST"
  uri := ⟨none, none, path, query⟩
  isHttp2 := false
  headers := []
  protocol := none
  body := Octets.ofText body

/-- On the first of May 2024, at ten. -/
def mayMorning : Instant := 1714557600000

def oneYuanFor (token : String) : Http.Request :=
  posted (some "buy") ("\x7b\"token\":\"" ++ token ++ "\",\"cents\":100\x7d")

def oneYuanPaid (number : String) : Http.Request :=
  posted none ("\x7b\"order_no\":\"" ++ number ++ "\",\"amount\":\"1.00\"\x7d")

def amountPaid (number amount trade : String) : Http.Request :=
  posted none
    ("\x7b\"order_no\":\"" ++ number ++ "\",\"amount\":\"" ++ amount ++ "\",\"trade_no\":\"" ++
      trade ++ "\"\x7d")

/-- The shop with this provider. One yuan buys a GiB. -/
def namingShop : Shop := ⟨some namingProvider, 1024⟩

/-- One yuan for the token `tok` is credited to `tok`. -/
theorem order_of_tok_credits_tok :
    (buy namingProvider (oneYuanFor "tok") [] mayMorning).2.map (·.1.number) =
      some "tok@2024-05-01T10:00:00Z" ∧
    Order.tokenOf "tok@2024-05-01T10:00:00Z" = "tok" ∧
    ∃ answer after, namingShop.notify namingProvider (oneYuanPaid "tok@2024-05-01T10:00:00Z")
        mayMorning (.store .empty) = (answer, .store after) ∧
      after.ticketsOf "a" = [] := by
  have sold : buy namingProvider (oneYuanFor "tok") [] mayMorning =
      (⟨200, [("content-type", Octets.ofText "application/json")], Octets.ofText
        (receipt "qr://tok@2024-05-01T10:00:00Z" "tok" "tok@2024-05-01T10:00:00Z")⟩,
        some (⟨"tok@2024-05-01T10:00:00Z", "1.00", ""⟩, "https:///ticket/")) := by
    decide +kernel
  have read : Purchase.ofJson (oneYuanFor "tok").body = .ok ⟨"tok", 100⟩ := by decide +kernel
  obtain ⟨-, own, credited⟩ := order_credits_buyer_iff namingShop namingProvider
    (oneYuanFor "tok") [] mayMorning read (by decide) sold rfl
  obtain ⟨answer, after, notified, others, -⟩ := credited
    (oneYuanPaid "tok@2024-05-01T10:00:00Z") ⟨"tok@2024-05-01T10:00:00Z", "1.00", ""⟩ mayMorning
    .empty (by decide +kernel) rfl
  refine ⟨by rw [sold]; rfl, own.mpr (by decide), answer, after, notified, ?_⟩
  exact others "a" (by decide +kernel)

def oneYuanTicket (token number : String) : Ticket :=
  (⟨token, Ticket.bytesPerPeriod, number, ""⟩ : Credit).ticket 1 mayMorning
    (mayMorning + Ticket.lifetime Ticket.bytesPerPeriod)

/-- One yuan for the token `a@b` is credited to the token `a`, and the buyer gets nothing. -/
theorem order_of_a_at_b_credits_a :
    Purchase.ofJson (oneYuanFor "a@b").body = .ok ⟨"a@b", 100⟩ ∧
    (buy namingProvider (oneYuanFor "a@b") [] mayMorning).1.status = 200 ∧
    (buy namingProvider (oneYuanFor "a@b") [] mayMorning).2.map (·.1.number) =
      some "a@b@2024-05-01T10:00:00Z" ∧
    Order.tokenOf "a@b@2024-05-01T10:00:00Z" = "a" ∧
    namingShop.notify namingProvider (oneYuanPaid "a@b@2024-05-01T10:00:00Z") mayMorning
        (.store .empty) =
      (some success, .store ⟨[oneYuanTicket "a" "a@b@2024-05-01T10:00:00Z"], 2⟩) := by
  refine ⟨?_, ?_, ?_, ?_, ?_⟩
  · decide +kernel
  · decide +kernel
  · decide +kernel
  · decide +kernel
  · decide +kernel

end Shop

end Tollgate.Tickets
