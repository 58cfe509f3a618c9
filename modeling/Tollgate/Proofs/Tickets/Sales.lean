import Tollgate.Proofs.Tickets.Purchase

/-!
# Sales and their payments

Many purchases are offered, and each is paid and notified once, at any time and in any order, while
the ledger is debited and other orders are credited. The ledger tells payments apart by their order
numbers, so each adds a ticket as long as no two sales have one number. A second purchase for a
token within one second takes the number of the first.

The pay orders that a store knows were known at the start or come from an event since. This is the
invariant behind every payment that adds a ticket.
-/

namespace Tollgate.Tickets

/-- A purchase that was offered. -/
structure Sale where
  payment : PaymentProvider
  request : Http.Request
  random : Octets
  now : Instant
  purchase : Purchase
  response : Http.Response
  order : Order
  url : String
  read : Purchase.ofJson request.body = .ok purchase
  sold : Shop.buy payment request random now = (response, some (order, url))
  ok : response.status = 200

namespace Sale

def buyer (sale : Sale) : String := sale.purchase.holder sale.random

/-- Two sales for one token in one second. -/
def Collides (first second : Sale) : Prop :=
  first.buyer = second.buyer ∧ Instant.second first.now = Instant.second second.now

def numbers (sales : List Sale) : List String := sales.map (·.order.number)

theorem number_eq (sale : Sale) : sale.order.number = Order.numberFor sale.buyer sale.now := by
  obtain ⟨purchase, code, read, -, order_eq, -⟩ := Shop.offered_of_status_eq_200 sale.sold sale.ok
  rw [sale.read] at read
  obtain rfl := Except.ok.inj read
  rw [order_eq]
  rfl

theorem number_eq_iff_collides {first second : Sale} :
    first.order.number = second.order.number ↔ first.Collides second := by
  rw [number_eq, number_eq, Order.numberFor_eq_iff]
  rfl

/-- Order numbers are distinct exactly if no token is bought for twice in one second. -/
theorem nodup_numbers_iff (sales : List Sale) :
    (numbers sales).Nodup ↔ sales.Pairwise fun first second => ¬ first.Collides second := by
  rw [numbers, List.Nodup, List.pairwise_map]
  constructor
  · intro distinct
    exact distinct.imp fun differ same => differ (number_eq_iff_collides.mpr same)
  · intro apart
    exact apart.imp fun differ same => differ (number_eq_iff_collides.mp same)

end Sale

/-- A genuine notification of a payment. -/
structure Notification where
  payment : PaymentProvider
  request : Http.Request
  now : Instant
  order : Order
  genuine : payment.paid request.headers request.body = some order

/-- What happens to the ledger of a shop. -/
inductive ShopEvent where
  | notified (notice : Notification)
  /-- A debit, or a credit of another order. -/
  | other (operation : LedgerOperation)

namespace ShopEvent

def after (shop : Shop) (ledger : Ledger) : ShopEvent → Ledger
  | .notified notice => (shop.notify notice.payment notice.request notice.now ledger).2
  | .other operation => operation.on ledger

/-- The ledger after events in order. -/
def run (shop : Shop) (ledger : Ledger) (events : List ShopEvent) : Ledger :=
  events.foldl (after shop) ledger

def notified? : ShopEvent → Option String
  | .notified notice => some notice.order.number
  | .other _ => none

/-- The pay order that another credit brings. -/
def other? : ShopEvent → Option String
  | .other (.create credit _) => some credit.payOrder
  | _ => none

/-- A store stays a store, and the pay orders that it knows were known before or come from the
event. -/
theorem exists_store_after (shop : Shop) (event : ShopEvent) (store : Store) :
    ∃ later, after shop (.store store) event = .store later ∧
      ∀ payOrder, later.Knows payOrder → store.Knows payOrder ∨
        event.notified? = some payOrder ∨ event.other? = some payOrder := by
  cases event with
  | notified notice =>
      rw [after, Shop.notify_of_genuine notice.genuine]
      cases payable : shop.creditOf? notice.order with
      | none =>
          rw [Shop.credit_of_unpayable payable]
          exact ⟨store, rfl, fun _ known => Or.inl known⟩
      | some credit =>
          rw [Shop.credit_of_payable payable]
          refine ⟨_, rfl, ?_⟩
          intro payOrder known
          rcases (store.step _).knows_origin known with earlier | ⟨added, now, created, same⟩
          · exact Or.inl earlier
          · cases created
            rw [(Shop.token_of_creditOf? payable).2] at same
            exact Or.inr (Or.inl (congrArg some same))
  | other operation =>
      rw [after, LedgerOperation.on_store]
      refine ⟨_, rfl, ?_⟩
      intro payOrder known
      rcases (store.step operation).knows_origin known with earlier | ⟨added, now, rfl, same⟩
      · exact Or.inl earlier
      · exact Or.inr (Or.inr (congrArg some same))

theorem exists_store_run (shop : Shop) (events : List ShopEvent) (store : Store) :
    ∃ later, run shop (.store store) events = .store later ∧
      ∀ payOrder, later.Knows payOrder → store.Knows payOrder ∨
        payOrder ∈ events.filterMap notified? ∨ payOrder ∈ events.filterMap other? := by
  induction events generalizing store with
  | nil => exact ⟨store, rfl, fun _ known => Or.inl known⟩
  | cons event rest ih =>
      obtain ⟨next, next_eq, next_knows⟩ := exists_store_after shop event store
      obtain ⟨later, later_eq, later_knows⟩ := ih next
      refine ⟨later, ?_, ?_⟩
      · rw [run, List.foldl_cons, next_eq]
        exact later_eq
      · intro payOrder known
        simp only [List.mem_filterMap, List.mem_cons] at later_knows ⊢
        rcases later_knows payOrder known with at_next | ⟨source, mem, eq⟩ | ⟨source, mem, eq⟩
        · rcases next_knows payOrder at_next with earlier | eq | eq
          · exact Or.inl earlier
          · exact Or.inr (Or.inl ⟨event, Or.inl rfl, eq⟩)
          · exact Or.inr (Or.inr ⟨event, Or.inl rfl, eq⟩)
        · exact Or.inr (Or.inl ⟨source, Or.inr mem, eq⟩)
        · exact Or.inr (Or.inr ⟨source, Or.inr mem, eq⟩)

end ShopEvent

/-- Every sale is paid and notified once, and nothing else credits its order. -/
structure PaidOnce (sales : List Sale) (store : Store) (events : List ShopEvent) : Prop where
  fresh : ∀ number ∈ Sale.numbers sales, ¬ store.Knows number
  once : (events.filterMap ShopEvent.notified?).Perm (Sale.numbers sales)
  others : ∀ number ∈ events.filterMap ShopEvent.other?, number ∉ Sale.numbers sales

/-- With distinct numbers, no order is known before its payment is notified. -/
theorem PaidOnce.not_knows {sales : List Sale} {store earlier : Store} {shop : Shop}
    {before behind : List ShopEvent} {notice : Notification}
    (paid : PaidOnce sales store (before ++ .notified notice :: behind))
    (distinct : (Sale.numbers sales).Nodup)
    (reached : ShopEvent.run shop (.store store) before = .store earlier) :
    ¬ earlier.Knows notice.order.number := by
  intro known
  obtain ⟨fresh, once, others⟩ := paid
  have notified_once := once.nodup_iff.mpr distinct
  rw [List.filterMap_append, List.filterMap_cons] at notified_once once
  have sale_number : notice.order.number ∈ Sale.numbers sales := by
    rw [← once.mem_iff]
    exact List.mem_append_right _ List.mem_cons_self
  obtain ⟨store', reached', knows⟩ := ShopEvent.exists_store_run shop before store
  rw [reached] at reached'
  obtain rfl := Ledger.store.inj reached'
  rcases knows _ known with at_start | notified_before | credited_before
  · exact fresh _ sale_number at_start
  · exact List.disjoint_of_nodup_append notified_once notified_before List.mem_cons_self
  · rw [List.filterMap_append] at others
    exact others _ (List.mem_append_left _ credited_before) sale_number

/-- Sales have distinct order numbers exactly if no token is bought for twice in one second, and
then every payment counts: if each sale is paid and notified once, every notification that is
answered with success adds a ticket of its own, at whatever time and between whatever debits and
credits of other orders it comes. -/
theorem payments_add_tickets_of_apart (shop : Shop) (sales : List Sale) :
    ((Sale.numbers sales).Nodup ↔
      sales.Pairwise fun first second => ¬ first.Collides second) ∧
    (sales.Pairwise (fun first second => ¬ first.Collides second) →
      ∀ (store : Store) (before behind : List ShopEvent) (notice : Notification),
        PaidOnce sales store (before ++ .notified notice :: behind) →
        ∃ earlier answer later, ShopEvent.run shop (.store store) before = .store earlier ∧
          shop.notify notice.payment notice.request notice.now (.store earlier) =
            (answer, .store later) ∧
          (answer = some Shop.success →
            ∃ (credit : Credit) (expires : Instant), credit.payOrder = notice.order.number ∧
              later.tickets =
                earlier.tickets ++ [credit.ticket earlier.nextId notice.now expires])) := by
  refine ⟨Sale.nodup_numbers_iff sales, ?_⟩
  intro apart store before behind notice paid
  have distinct := (Sale.nodup_numbers_iff sales).mpr apart
  obtain ⟨earlier, reached, -⟩ := ShopEvent.exists_store_run shop before store
  obtain ⟨later, later_eq⟩ := Shop.exists_store_of_credit shop notice.order notice.now earlier
  have unknown := paid.not_knows distinct reached
  have notified :
      shop.notify notice.payment notice.request notice.now (.store earlier) =
        shop.credit notice.order notice.now (.store earlier) :=
    Shop.notify_of_genuine notice.genuine notice.now (.store earlier)
  refine ⟨earlier, _, later, reached, notified.trans (Prod.ext rfl later_eq), ?_⟩
  intro answered
  obtain ⟨credit, expires, payable, tickets_eq⟩ :=
    Shop.tickets_credit_of_success (Prod.ext answered later_eq) unknown
  exact ⟨credit, expires, (Shop.token_of_creditOf? payable).2, tickets_eq⟩

open Shop

/-- A sale of one yuan for the token `a`, known by a number. -/
def saleToA (number : String) (now : Instant)
    (sold : buy namingProvider (oneYuanFor "a") [] now =
      (.ofType "application/json" 200 (Octets.ofText (receipt ("qr://" ++ number) "a" number)),
        some (⟨number, "1.00", ""⟩, "https:///ticket/"))) : Sale where
  payment := namingProvider
  request := oneYuanFor "a"
  random := []
  now := now
  purchase := ⟨"a", 100⟩
  response := _
  order := _
  url := _
  read := by decide +kernel
  sold := sold
  ok := rfl

/-- The notification that one yuan was paid for an order. -/
def noticeOf (number : String)
    (genuine : namingProvider.paid (oneYuanPaid number).headers (oneYuanPaid number).body =
      some ⟨number, "1.00", ""⟩) : Notification where
  payment := namingProvider
  request := oneYuanPaid number
  now := mayMorning
  order := ⟨number, "1.00", ""⟩
  genuine := genuine

def saleAtTen : Sale := saleToA "a@2024-05-01T10:00:00Z" mayMorning (by decide +kernel)

def noticeOfTen : Notification := noticeOf "a@2024-05-01T10:00:00Z" (by decide +kernel)

def saleAfterASecond : Sale :=
  saleToA "a@2024-05-01T10:00:01Z" (mayMorning + 1000) (by decide +kernel)

def noticeAfterASecond : Notification := noticeOf "a@2024-05-01T10:00:01Z" (by decide +kernel)

def saleWithinASecond : Sale :=
  saleToA "a@2024-05-01T10:00:00Z" (mayMorning + 300) (by decide +kernel)

/-- Two sales that lie a second apart get two tickets. -/
theorem two_tickets_a_second_apart :
    PaidOnce [saleAtTen, saleAfterASecond] .empty
      [.notified noticeOfTen, .notified noticeAfterASecond] ∧
    ∃ later credit expires,
      namingShop.notify namingProvider (oneYuanPaid "a@2024-05-01T10:00:01Z") mayMorning
          (.store ⟨[oneYuanTicket "a" "a@2024-05-01T10:00:00Z"], 2⟩) =
        (some success, .store later) ∧
      later.tickets = [oneYuanTicket "a" "a@2024-05-01T10:00:00Z",
        Credit.ticket credit 2 mayMorning expires] := by
  have paid : PaidOnce [saleAtTen, saleAfterASecond] .empty
      [.notified noticeOfTen, .notified noticeAfterASecond] := by
    refine ⟨?_, ?_, ?_⟩
    · rintro number - ⟨ticket, mem, -⟩
      cases mem
    · exact List.Perm.refl _
    · intro number mem
      cases mem
  have distinct : (Sale.numbers [saleAtTen, saleAfterASecond]).Nodup := by decide +kernel
  refine ⟨paid, ?_⟩
  obtain ⟨apart_iff, credited⟩ :=
    payments_add_tickets_of_apart namingShop [saleAtTen, saleAfterASecond]
  obtain ⟨earlier, answer, later, reached, notified, adds⟩ :=
    credited (apart_iff.mp distinct) .empty [.notified _] [] _ paid
  have first_credited : ShopEvent.run namingShop (.store .empty) [.notified noticeOfTen] =
      .store ⟨[oneYuanTicket "a" "a@2024-05-01T10:00:00Z"], 2⟩ := by decide +kernel
  obtain rfl := Ledger.store.inj (first_credited.symm.trans reached)
  have answered : answer = some success :=
    (congrArg Prod.fst notified).symm.trans (by decide +kernel)
  obtain ⟨credit, expires, -, tickets_eq⟩ := adds answered
  rw [answered] at notified
  exact ⟨later, credit, expires, notified, tickets_eq⟩

/-- Two sales within a second get one ticket: they have one order number, and the payment of the
second one is answered with success and credited as nothing. -/
theorem one_ticket_within_a_second :
    Sale.numbers [saleAtTen, saleWithinASecond] =
      ["a@2024-05-01T10:00:00Z", "a@2024-05-01T10:00:00Z"] ∧
    namingShop.notify namingProvider (oneYuanPaid "a@2024-05-01T10:00:00Z") mayMorning
        (.store .empty) =
      (some success, .store ⟨[oneYuanTicket "a" "a@2024-05-01T10:00:00Z"], 2⟩) ∧
    namingShop.notify namingProvider (oneYuanPaid "a@2024-05-01T10:00:00Z") mayMorning
        (.store ⟨[oneYuanTicket "a" "a@2024-05-01T10:00:00Z"], 2⟩) =
      (some success, .store ⟨[oneYuanTicket "a" "a@2024-05-01T10:00:00Z"], 3⟩) := by
  refine ⟨?_, ?_, ?_⟩
  · rfl
  · decide +kernel
  · decide +kernel

end Tollgate.Tickets
