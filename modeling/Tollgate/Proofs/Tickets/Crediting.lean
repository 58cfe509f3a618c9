import Tollgate.Proofs.Tickets.Purchase

/-!
# Orders are credited once

A shop serves all kinds of requests. Among them are the provider's notifications: genuine and false
ones, the same order again and again, perhaps with another amount, and amounts that cannot be read.
Meanwhile what was bought is used up. For each order that was ever answered with success the store
keeps one ticket, credited as the first of these notifications says, and it keeps no other ticket.

Two stores are compared by what their tickets were credited with. A debit does not change this. A
request records one more credit, or it leaves the ledger as it was.
-/

namespace Tollgate

def Ticket.credit (ticket : Ticket) : Credit :=
  ⟨ticket.token, ticket.total, ticket.payOrder, ticket.buyOrder⟩

namespace Credit

/-- Adds a credit, unless there is one with its pay order. -/
def record (kept : List Credit) (credit : Credit) : List Credit :=
  if credit.payOrder ∈ kept.map (·.payOrder) then kept else kept ++ [credit]

/-- Adds credits one after the other. -/
def recordAll (kept credits : List Credit) : List Credit := credits.foldl record kept

variable {kept credits before behind : List Credit} {credit : Credit} {number : String}

theorem record_of_mem (known : credit.payOrder ∈ kept.map (·.payOrder)) :
    record kept credit = kept := if_pos known

theorem record_of_not_mem (unknown : credit.payOrder ∉ kept.map (·.payOrder)) :
    record kept credit = kept ++ [credit] := if_neg unknown

theorem subset_record (kept : List Credit) (credit : Credit) : kept ⊆ record kept credit := by
  by_cases known : credit.payOrder ∈ kept.map (·.payOrder)
  · rw [record_of_mem known]
    exact List.Subset.refl kept
  · rw [record_of_not_mem known]
    exact List.subset_append_left kept [credit]

theorem subset_recordAll (kept credits : List Credit) : kept ⊆ recordAll kept credits := by
  induction credits generalizing kept with
  | nil => exact List.Subset.refl kept
  | cons credit rest ih =>
      exact List.Subset.trans (subset_record kept credit) (ih (record kept credit))

theorem nodup_record (distinct : (kept.map (·.payOrder)).Nodup) (credit : Credit) :
    ((record kept credit).map (·.payOrder)).Nodup := by
  by_cases known : credit.payOrder ∈ kept.map (·.payOrder)
  · rwa [record_of_mem known]
  · rw [record_of_not_mem known, List.map_append, List.nodup_append]
    refine ⟨distinct, List.nodup_singleton _, ?_⟩
    rintro order old _ new rfl
    rw [List.mem_singleton.mp new] at old
    exact known old

/-- No two recorded credits have one pay order. -/
theorem nodup_recordAll (distinct : (kept.map (·.payOrder)).Nodup) (credits : List Credit) :
    ((recordAll kept credits).map (·.payOrder)).Nodup := by
  induction credits generalizing kept with
  | nil => exact distinct
  | cons credit rest ih => exact ih (nodup_record distinct credit)

theorem mem_record_iff :
    number ∈ (record kept credit).map (·.payOrder) ↔
      number ∈ kept.map (·.payOrder) ∨ number = credit.payOrder := by
  by_cases known : credit.payOrder ∈ kept.map (·.payOrder)
  · rw [record_of_mem known]
    constructor
    · exact Or.inl
    · rintro (old | rfl)
      · exact old
      · exact known
  · rw [record_of_not_mem known, List.map_append, List.mem_append]
    exact or_congr_right List.mem_singleton

theorem mem_recordAll_iff :
    number ∈ (recordAll kept credits).map (·.payOrder) ↔
      number ∈ kept.map (·.payOrder) ∨ number ∈ credits.map (·.payOrder) := by
  induction credits generalizing kept with
  | nil =>
      rw [List.map_nil, or_iff_left List.not_mem_nil]
      rfl
  | cons credit rest ih =>
      rw [List.map_cons, List.mem_cons, ← or_assoc, ← mem_record_iff]
      exact ih

theorem mem_recordAll_of_first (unknown : credit.payOrder ∉ kept.map (·.payOrder))
    (first : credit.payOrder ∉ before.map (·.payOrder)) :
    credit ∈ recordAll kept (before ++ credit :: behind) := by
  have fresh : credit.payOrder ∉ (recordAll kept before).map (·.payOrder) := by
    rw [mem_recordAll_iff]
    exact not_or.mpr ⟨unknown, first⟩
  rw [recordAll, List.foldl_append, List.foldl_cons]
  apply subset_recordAll
  change credit ∈ record (recordAll kept before) credit
  rw [record_of_not_mem fresh]
  exact List.mem_append_right _ List.mem_cons_self

end Credit

namespace Store

/-- What the tickets of a store were credited with. -/
def credits (store : Store) : List Credit := store.tickets.map Ticket.credit

theorem credits_empty : Store.empty.credits = [] := rfl

theorem knows_iff_mem_credits {store : Store} {payOrder : String} :
    store.Knows payOrder ↔ payOrder ∈ store.credits.map (·.payOrder) := by
  rw [credits, List.map_map, List.mem_map]
  rfl

theorem credits_after_create {store : Store} {credit : Credit} {now : Instant}
    (accepted : (LedgerOperation.create credit now).outcome store = .ok ()) :
    ((LedgerOperation.create credit now).after store).credits =
      Credit.record store.credits credit := by
  have step := store.step (.create credit now)
  rw [accepted] at step
  generalize (LedgerOperation.create credit now).after store = later at step ⊢
  cases step with
  | repeated known => exact (Credit.record_of_mem (knows_iff_mem_credits.mp known)).symm
  | added dated unknown =>
      rw [Credit.record_of_not_mem (mt knows_iff_mem_credits.mpr unknown), credits,
        List.map_append]
      rfl

/-- A credit that does not go through leaves the store as it was. -/
theorem after_create_of_refused {store : Store} {credit : Credit} {now : Instant}
    (refused : (LedgerOperation.create credit now).outcome store ≠ .ok ()) :
    (LedgerOperation.create credit now).after store = store := by
  have step := store.step (.create credit now)
  generalize (LedgerOperation.create credit now).outcome store = outcome,
    (LedgerOperation.create credit now).after store = later at step refused ⊢
  cases step with
  | outOfRange => rfl
  | repeated | added => exact absurd rfl refused

/-- A debit does not change what was credited. -/
theorem credits_after_cost (token : String) (amount : Int) (now : Instant) (store : Store) :
    ((LedgerOperation.cost token amount now).after store).credits = store.credits := by
  have step := store.step (.cost token amount now)
  generalize (LedgerOperation.cost token amount now).outcome store = outcome,
    (LedgerOperation.cost token amount now).after store = later at step ⊢
  cases step with
  | free | refused => rfl
  | settled _ debit => exact debit.map_eq Ticket.credit fun _ _ => rfl

end Store

namespace Tickets

/-- What happens to the ledger of a shop: a request, with the provider as it is then, or a debit. -/
inductive Dealing where
  | asked (payment : Option PaymentProvider) (request : Http.Request) (random : Octets)
    (now : Instant)
  | debited (token : String) (amount : Int) (now : Instant)

namespace Dealing

variable {shop : Shop} {ledger : Ledger} {store : Store} {order : Order}

def after (shop : Shop) (ledger : Ledger) : Dealing → Ledger
  | .asked payment request random now =>
    ({ shop with payment }.serve request random now ledger).ledger
  | .debited token amount now => (LedgerOperation.cost token amount now).on ledger

/-- The ledger after dealings in order. -/
def run (shop : Shop) (ledger : Ledger) (dealings : List Dealing) : Ledger :=
  dealings.foldl (after shop) ledger

/-- The paid order that a dealing reports, if that is answered with success. -/
def succeeded? (shop : Shop) (ledger : Ledger) : Dealing → Option Order
  | .asked payment request random now =>
    if ({ shop with payment }.serve request random now ledger).response = some Shop.success then
      { shop with payment }.reported? request
    else none
  | .debited .. => none

/-- The paid orders that were answered with success, in the order of the answers. -/
def successes (shop : Shop) : Ledger → List Dealing → List Order
  | _, [] => []
  | ledger, dealing :: rest =>
    (dealing.succeeded? shop ledger).toList ++ successes shop (dealing.after shop ledger) rest

/-- A payment that is not answered with success leaves the ledger as it was. -/
theorem credit_of_not_success {now : Instant}
    (other : (shop.credit order now ledger).1 ≠ some Shop.success) :
    (shop.credit order now ledger).2 = ledger := by
  revert other
  unfold Shop.credit
  split
  next => exact fun _ => rfl
  next =>
      split
      next => exact fun other => absurd rfl other
      next => exact fun _ => rfl
      next => exact fun _ => rfl

theorem serve_of_not_success {request : Http.Request} {random : Octets} {now : Instant}
    (other : (shop.serve request random now ledger).response ≠ some Shop.success) :
    (shop.serve request random now ledger).ledger = ledger := by
  cases reported : shop.reported? request with
  | none => exact Shop.serve_ledger_of_unreported reported random now ledger
  | some order =>
      rw [Shop.serve_of_reported reported] at other ⊢
      exact credit_of_not_success other

/-- A payment that is answered with success could be read, and its credit is recorded. -/
theorem credits_credit_of_success {now : Instant}
    (answered : (shop.credit order now (.store store)).1 = some Shop.success) :
    ∃ credit later, shop.creditOf? order = some credit ∧
      (shop.credit order now (.store store)).2 = .store later ∧
      later.credits = Credit.record store.credits credit := by
  cases payable : shop.creditOf? order with
  | none =>
      rw [Shop.credit_of_unpayable payable] at answered
      cases answered
  | some credit =>
      rw [Shop.credit_of_payable payable] at answered ⊢
      refine ⟨credit, _, rfl, rfl, Store.credits_after_create ?_⟩
      exact Shop.answerTo_eq_success_iff.mp answered

/-- A dealing is some operations on the store: a debit, a credit, or none at all. -/
theorem exists_operations_after (shop : Shop) (dealing : Dealing) (store : Store) :
    ∃ operations, dealing.after shop (.store store) = .store (store.run operations) := by
  cases dealing with
  | debited token amount now =>
      exact ⟨[.cost token amount now], LedgerOperation.on_store (.cost token amount now) store⟩
  | asked payment request random now =>
      rw [after]
      cases reported : { shop with payment : Shop }.reported? request with
      | none => exact ⟨[], Shop.serve_ledger_of_unreported reported random now _⟩
      | some order =>
          rw [Shop.serve_of_reported reported]
          cases payable : { shop with payment : Shop }.creditOf? order with
          | none =>
              rw [Shop.credit_of_unpayable payable]
              exact ⟨[], rfl⟩
          | some credit =>
              rw [Shop.credit_of_payable payable]
              exact ⟨[.create credit now], rfl⟩

/-- A store that dealings reach is one that operations reach. -/
theorem exists_operations (shop : Shop) (dealings : List Dealing) (store : Store) :
    ∃ operations, run shop (.store store) dealings = .store (store.run operations) := by
  induction dealings generalizing store with
  | nil => exact ⟨[], rfl⟩
  | cons dealing rest ih =>
      obtain ⟨first, first_eq⟩ := exists_operations_after shop dealing store
      obtain ⟨others, others_eq⟩ := ih (store.run first)
      refine ⟨first ++ others, ?_⟩
      rw [run, List.foldl_cons, first_eq, Store.run_append]
      exact others_eq

/-- What can be read of an order that was answered with success. -/
theorem exists_credit_of_succeeded? {dealing : Dealing}
    (succeeded : dealing.succeeded? shop (.store store) = some order) :
    ∃ credit, shop.creditOf? order = some credit := by
  cases dealing with
  | debited => cases succeeded
  | asked payment request random now =>
      rw [succeeded?, Option.ite_none_right_eq_some] at succeeded
      obtain ⟨answered, reported⟩ := succeeded
      rw [Shop.serve_of_reported reported] at answered
      obtain ⟨credit, -, payable, -⟩ := credits_credit_of_success answered
      exact ⟨credit, payable⟩

/-- A dealing records the credit of the order that it answers with success, and nothing else. -/
theorem credits_after (shop : Shop) (dealing : Dealing) (store : Store) :
    ∃ later, dealing.after shop (.store store) = .store later ∧
      later.credits = Credit.recordAll store.credits
        ((dealing.succeeded? shop (.store store)).toList.filterMap shop.creditOf?) := by
  cases dealing with
  | debited token amount now =>
      refine ⟨_, LedgerOperation.on_store (.cost token amount now) store, ?_⟩
      exact Store.credits_after_cost token amount now store
  | asked payment request random now =>
      rw [after, succeeded?]
      by_cases answered : ({ shop with payment : Shop }.serve request random now
          (.store store)).response = some Shop.success
      · rw [if_pos answered]
        cases reported : { shop with payment : Shop }.reported? request with
        | none =>
            rw [Shop.serve_ledger_of_unreported reported]
            exact ⟨store, rfl, rfl⟩
        | some order =>
            rw [Shop.serve_of_reported reported] at answered ⊢
            obtain ⟨credit, later, payable, later_eq, recorded⟩ :=
              credits_credit_of_success answered
            refine ⟨later, later_eq, ?_⟩
            have payable_here : shop.creditOf? order = some credit := payable
            rw [recorded, Option.toList_some, List.filterMap_cons_some payable_here]
            rfl
      · rw [if_neg answered, serve_of_not_success answered]
        exact ⟨store, rfl, rfl⟩

/-- After any dealings the store has recorded the orders that were answered with success. -/
theorem credits_run (shop : Shop) (dealings : List Dealing) (store : Store) :
    ∃ later, run shop (.store store) dealings = .store later ∧
      later.credits = Credit.recordAll store.credits
        ((successes shop (.store store) dealings).filterMap shop.creditOf?) := by
  induction dealings generalizing store with
  | nil => exact ⟨store, rfl, rfl⟩
  | cons dealing rest ih =>
      obtain ⟨next, next_eq, next_credits⟩ := credits_after shop dealing store
      obtain ⟨later, later_eq, later_credits⟩ := ih next
      refine ⟨later, ?_, ?_⟩
      · rw [run, List.foldl_cons, next_eq]
        exact later_eq
      · rw [successes, next_eq, List.filterMap_append, Credit.recordAll, List.foldl_append]
        rw [later_credits, next_credits]
        rfl

theorem exists_credit_of_mem_successes {dealings : List Dealing}
    (mem : order ∈ successes shop (.store store) dealings) :
    ∃ credit, shop.creditOf? order = some credit := by
  induction dealings generalizing store with
  | nil => cases mem
  | cons dealing rest ih =>
      obtain ⟨next, next_eq, -⟩ := credits_after shop dealing store
      rw [successes, next_eq, List.mem_append, Option.mem_toList] at mem
      rcases mem with here | later
      · exact exists_credit_of_succeeded? here
      · exact ih later

end Dealing

/-- The credit of an order carries its number, its trade number and what its amount buys. -/
theorem Shop.creditOf?_eq_some_iff {shop : Shop} {order : Order} {credit : Credit} :
    shop.creditOf? order = some credit ↔
      credit.token = Order.tokenOf order.number ∧ credit.payOrder = order.number ∧
        credit.buyOrder = order.trade ∧
        (parseCents order.amount).bind (creditBytes shop.mibPerYuan) = some credit.bytes := by
  rw [creditOf?, Option.map_eq_some_iff]
  constructor
  · rintro ⟨bytes, read, rfl⟩
    exact ⟨rfl, rfl, rfl, read⟩
  · rintro ⟨token_eq, number_eq, trade_eq, read⟩
    refine ⟨credit.bytes, read, ?_⟩
    rw [← token_eq, ← number_eq, ← trade_eq]

theorem Shop.payOrders_eq_numbers {shop : Shop} {orders : List Order}
    (readable : ∀ order ∈ orders, ∃ credit, shop.creditOf? order = some credit) :
    (orders.filterMap shop.creditOf?).map (·.payOrder) = orders.map (·.number) := by
  induction orders with
  | nil => rfl
  | cons order rest ih =>
      obtain ⟨credit, payable⟩ := readable order List.mem_cons_self
      have rest_readable : ∀ later ∈ rest, ∃ credit, shop.creditOf? later = some credit :=
        fun later mem => readable later (List.mem_cons_of_mem _ mem)
      rw [List.filterMap_cons_some payable, List.map_cons, List.map_cons, ih rest_readable,
        (creditOf?_eq_some_iff.mp payable).2.1]

/-- For every shop and all dealings with it, the store has one ticket for each order number that was
ever answered with success, and none for any other. The ticket belongs to the token that the number
names, and its bytes and trade number are those of the first notification of that number that was
answered with success. A request that is answered with anything else leaves the ledger as it was. -/
theorem orders_credited_once (shop : Shop) (dealings : List Dealing) :
    ∃ store, Dealing.run shop (.store .empty) dealings = .store store ∧
      (∀ number, (store.tickets.map (·.payOrder)).count number =
        if number ∈ (Dealing.successes shop (.store .empty) dealings).map (·.number)
        then 1 else 0) ∧
      (∀ before order behind,
        Dealing.successes shop (.store .empty) dealings = before ++ order :: behind →
        order.number ∉ before.map (·.number) →
        ∃ ticket ∈ store.tickets, ticket.payOrder = order.number ∧
          ticket.token = Order.tokenOf order.number ∧ ticket.buyOrder = order.trade ∧
          (parseCents order.amount).bind (creditBytes shop.mibPerYuan) = some ticket.total) ∧
      ∀ payment request random now ledger,
        ({ shop with payment }.serve request random now ledger).response ≠ some Shop.success →
        ({ shop with payment }.serve request random now ledger).ledger = ledger := by
  obtain ⟨store, reached, recorded⟩ := Dealing.credits_run shop dealings .empty
  rw [Store.credits_empty] at recorded
  have readable : ∀ order ∈ Dealing.successes shop (.store .empty) dealings,
      ∃ credit, shop.creditOf? order = some credit :=
    fun order mem => Dealing.exists_credit_of_mem_successes mem
  have pay_orders : store.tickets.map (·.payOrder) = store.credits.map (·.payOrder) := by
    rw [Store.credits, List.map_map]
    rfl
  refine ⟨store, reached, ?_, ?_, ?_⟩
  · intro number
    have distinct : (store.credits.map (·.payOrder)).Nodup := by
      rw [recorded]
      apply Credit.nodup_recordAll
      exact List.nodup_nil
    have answered : number ∈ store.credits.map (·.payOrder) ↔
        number ∈ (Dealing.successes shop (.store .empty) dealings).map (·.number) := by
      rw [recorded, Credit.mem_recordAll_iff, Shop.payOrders_eq_numbers readable]
      exact or_iff_right List.not_mem_nil
    rw [pay_orders, distinct.count]
    simp only [answered]
  · intro before order behind split first
    rw [split] at readable recorded
    obtain ⟨credit, payable⟩ := readable order (List.mem_append_right _ List.mem_cons_self)
    rw [List.filterMap_append, List.filterMap_cons_some payable] at recorded
    obtain ⟨token_eq, number_eq, trade_eq, read⟩ := Shop.creditOf?_eq_some_iff.mp payable
    have first_credit : credit.payOrder ∉ (before.filterMap shop.creditOf?).map (·.payOrder) := by
      rw [Shop.payOrders_eq_numbers fun earlier mem =>
        readable earlier (List.mem_append_left _ mem), number_eq]
      exact first
    have kept : credit ∈ store.credits := by
      rw [recorded]
      exact Credit.mem_recordAll_of_first List.not_mem_nil first_credit
    obtain ⟨ticket, mem, rfl⟩ := List.mem_map.mp kept
    exact ⟨ticket, mem, number_eq, token_eq, trade_eq, read⟩
  · intro payment request random now ledger
    exact Dealing.serve_of_not_success

open Shop

/-- The provider reports that an amount was paid for an order. -/
def paymentOf (number amount trade : String) : Dealing :=
  .asked (some namingProvider) (amountPaid number amount trade) [] mayMorning

/-- One order is notified with one yuan, is used, and is notified again with two. -/
def paidOneThenTwo : List Dealing :=
  [paymentOf "a@2024-05-01T10:00:00Z" "1.00" "T-1", .debited "a" 1000 mayMorning,
    paymentOf "a@2024-05-01T10:00:00Z" "2.00" "T-2"]

/-- The first notification counts: the order has one ticket, of one GiB. -/
theorem second_amount_not_credited :
    Dealing.successes namingShop (.store .empty) paidOneThenTwo =
      [⟨"a@2024-05-01T10:00:00Z", "1.00", "T-1"⟩, ⟨"a@2024-05-01T10:00:00Z", "2.00", "T-2"⟩] ∧
    ∃ store, Dealing.run namingShop (.store .empty) paidOneThenTwo = .store store ∧
      (store.tickets.map (·.payOrder)).count "a@2024-05-01T10:00:00Z" = 1 ∧
      ∃ ticket ∈ store.tickets, ticket.payOrder = "a@2024-05-01T10:00:00Z" ∧
        ticket.token = "a" ∧ ticket.buyOrder = "T-1" ∧ ticket.total = Ticket.bytesPerPeriod := by
  have answered : Dealing.successes namingShop (.store .empty) paidOneThenTwo =
      [⟨"a@2024-05-01T10:00:00Z", "1.00", "T-1"⟩, ⟨"a@2024-05-01T10:00:00Z", "2.00", "T-2"⟩] := by
    decide +kernel
  refine ⟨answered, ?_⟩
  obtain ⟨store, reached, once, first, -⟩ := orders_credited_once namingShop paidOneThenTwo
  refine ⟨store, reached, ?_, ?_⟩
  · rw [once, answered]
    exact if_pos List.mem_cons_self
  · obtain ⟨ticket, mem, number_eq, token_eq, trade_eq, read⟩ :=
      first [] _ _ answered List.not_mem_nil
    have total_eq : some Ticket.bytesPerPeriod = some ticket.total := by
      rw [← read]
      decide +kernel
    refine ⟨ticket, mem, number_eq, ?_, trade_eq, (Option.some.inj total_eq).symm⟩
    rw [token_eq]
    decide +kernel

end Tickets

end Tollgate
